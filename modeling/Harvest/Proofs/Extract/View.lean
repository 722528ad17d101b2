import Harvest.Proofs.Extract.Level
/-!
# Runs of which one sees less

Two runs that have all in common but for the states of their filters: the second one carries along a part, or a view,
of what the first one does.  They agree step by step as long as the filters of both do (`through_agrees`).
-/
namespace Harvest.Extract

variable {σ τ : Type} {α : Type}

/-- States of which the second one holds a view of what is outside the first one. -/
structure Seen (view : σ → τ) (s : State σ) (t : State τ) : Prop where
  document : s.document = t.document
  cache : s.cache = t.cache
  outside : view s.outside = t.outside

/-- The second run goes through the first one's states in a view of them.  `I` holds outside while the runs go on, and
`F` of the error and the outside where they end; behind the errors in `lost` the second run does not count. -/
def Link.through (view : σ → τ) (I : σ → Prop) (F : ExtractError → σ → Prop) (lost : ExtractError → Prop) :
    Link σ τ where
  state s t := Seen view s t ∧ I s.outside
  fatal e s f t := e = f ∧ Seen view s t ∧ F e s.outside
  lost := lost

/-- The second registry does in the view what the first one does, and the first one keeps `I`. -/
structure Viewed (view : σ → τ) (I : σ → Prop) (r : Registry σ) (r' : Registry τ) : Prop where
  apply : ∀ name v params o,
    r'.apply name v params (view o) = ((r.apply name v params o).1, view (r.apply name v params o).2)
  keeps : ∀ name v params o, I o → I (r.apply name v params o).2

section Through

variable {view : σ → τ} {I : σ → Prop} {F : ExtractError → σ → Prop} {lost : ExtractError → Prop}

theorem Viewed.run {r : Registry σ} {r' : Registry τ} (h : Viewed view I r r') :
    ∀ (calls : List Filter.Call) (v : Value) (o : σ),
      Filter.Chain.run r' calls v (view o) =
          ((Filter.Chain.run r calls v o).1, view (Filter.Chain.run r calls v o).2) ∧
        (I o → I (Filter.Chain.run r calls v o).2)
  | [], _, _ => ⟨rfl, id⟩
  | c :: cs, v, o => by
    have happ := h.apply c.name v c.params o
    have hkeep := h.keeps c.name v c.params o
    unfold Filter.Chain.run
    rw [happ]
    generalize r.apply c.name v c.params o = p at hkeep ⊢
    obtain ⟨res, o'⟩ := p
    cases res with
    | ok next => exact ⟨(run h cs next o').1, fun ho => (run h cs next o').2 (hkeep ho)⟩
    | error e =>
      cases e with
      | invalidContent => exact ⟨rfl, hkeep⟩
      | panic p => exact ⟨rfl, hkeep⟩
      | _ => exact ⟨(run h cs v o').1, fun ho => (run h cs v o').2 (hkeep ho)⟩

theorem through_once {entries : Cache → Fields α} {keep : Cache → Fields α → Cache} {key : String}
    {read : Unit → Except ExtractError α} (h : Mild (read ())) :
    Linked (.through view I F lost) Eq (Run.once entries keep key read) (Run.once entries keep key read) := by
  intro s t ⟨hs, hI⟩
  dsimp only [Run.once, Run.of]
  rw [← hs.cache]
  cases (entries s.cache).find? key with
  | some a => exact .ok rfl ⟨hs, hI⟩
  | none =>
    cases hr : read () with
    | ok a => exact .ok rfl ⟨⟨hs.document, rfl, hs.outside⟩, hI⟩
    | error e => exact .error (h e hr) ⟨hs, hI⟩

theorem through_fits (hF : ∀ e : ExtractError, e.isPanic = true → ∀ o, I o → F e o) :
    (Link.through view I F lost).Fits where
  document hs := hs.1.document
  rootless hs _ := ⟨rfl, hs.1, hF _ rfl _ hs.2⟩
  panic hs := ⟨rfl, hs.1, hF _ rfl _ hs.2⟩
  path raw := through_once (mild_path raw)
  pattern engine text := through_once (mild_compilePattern engine text)

theorem through_navigate (raw : String) (context : List Nat) :
    Linked (.through view I F lost) Eq (Run.navigate raw context) (Run.navigate raw context) := by
  refine Linked.bind (through_once (mild_chain raw)) fun c _ hc => ?_
  subst hc
  refine Linked.bind (A := Eq) (fun s t hs => ?_) fun nodes _ hn => hn ▸ .pure rfl
  obtain ⟨hs, hI⟩ := hs
  show (Link.through view I F lost).Outcome Eq (.ok (c.run s.document context).2, _)
    (.ok (c.run t.document context).2, _)
  rw [hs.document]
  exact .ok rfl ⟨⟨rfl, hs.cache, hs.outside⟩, hI⟩

theorem through_finish {e : Evaluator σ} {e' : Evaluator τ} (hreg : Viewed view I e.registry e'.registry)
    (hF : ∀ e : ExtractError, e.isPanic = true → ∀ o, I o → F e o) (spec : Spec) (v : Value) :
    Linked (.through view I F lost) (Same fun _ => True) (e.finish spec v) (e'.finish spec v) := by
  unfold Evaluator.finish
  split
  · exact .pure ⟨rfl, trivial⟩
  · refine Linked.bind (through_once (mild_ok _)) fun calls _ hc => ?_
    subst hc
    intro s t ⟨hs, hI⟩
    obtain ⟨hrun, hkeep⟩ := hreg.run calls v s.outside
    rw [Run.filtered_apply, Run.filtered_apply, ← hs.outside, hrun]
    have hkeep := hkeep hI
    generalize Filter.Chain.run e.registry calls v s.outside = p at hkeep ⊢
    obtain ⟨r, o⟩ := p
    have hseen : Seen view { s with outside := o } { t with outside := view o } := ⟨hs.document, hs.cache, rfl⟩
    cases r with
    | ok w => exact .ok ⟨rfl, trivial⟩ ⟨hseen, hkeep⟩
    | error stop =>
      cases stop with
      | rejected filter w => exact .error rfl ⟨hseen, hkeep⟩
      | panicked p => exact .fatal rfl rfl ⟨rfl, hseen, hF _ rfl o hkeep⟩

/-- **Two evaluators agree on every node if their filters do.** -/
theorem through_node {e : Evaluator σ} {e' : Evaluator τ} (hreg : Viewed view I e.registry e'.registry)
    (hF : ∀ e : ExtractError, e.isPanic = true → ∀ o, I o → F e o) (spec : Spec) :
    (Link.through view I F lost).Node (fun _ _ => True) e e' spec where
  finish v _ := through_finish hreg hF spec v
  navigate raw context _ := through_navigate raw context

end Through

theorem viewed_self (r : Registry σ) : Viewed id (fun _ => True) r r :=
  ⟨fun _ _ _ _ => rfl, fun _ _ _ _ _ => trivial⟩

end Harvest.Extract
