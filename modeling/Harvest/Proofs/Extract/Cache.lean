import Harvest.Proofs.Extract.Level
/-!
# What has been read before does not count

A cache is faithful if every entry is what its text reads as.  All that an evaluation reads it reads as if for the
first time (`chain_apply` and its like), and it leaves its cache faithful.  `Link.blind` relates runs that are alike
but for their caches.
-/
namespace Harvest.Extract

variable {σ : Type} {α : Type}

/-- The engine and the pattern can be told from a pattern selector. -/
theorem patternKey_inj {e e' : Pattern.Engine} {p p' : String} (h : patternKey e p = patternKey e' p') :
    e = e' ∧ p = p' := by
  have h := congrArg String.toList h
  unfold patternKey at h
  cases e <;> cases e' <;> simp [Pattern.Engine.mark, String.toList_append, String.toList_inj] at h ⊢ <;> exact h

/-- **Every entry is what its text reads as.** -/
structure Cache.Faithful (c : Cache) : Prop where
  chains : ∀ raw a, c.chains.find? raw = some a → Css.Chain.parse raw = .ok a
  paths : ∀ raw a, c.paths.find? raw = some a → Json.Path.parse raw = .ok a
  patterns : ∀ engine p a, c.patterns.find? (patternKey engine p) = some a → compilePattern engine p = .ok a
  filters : ∀ expr a, c.filters.find? expr = some a → Filter.Call.parse expr = a

theorem Cache.faithful_empty : Cache.Faithful {} where
  chains _ _ h := nomatch h
  paths _ _ h := nomatch h
  patterns _ _ _ h := nomatch h
  filters _ _ h := nomatch h

/-- An entry of a list with a new one is the new one or one of before. -/
theorem find?_of_insert {fs : Fields α} {key other : String} {a b : α} (h : (fs.insert key a).find? other = some b) :
    (key = other ∧ a = b) ∨ fs.find? other = some b := by
  rw [Fields.find?_insert] at h
  split at h
  · rename_i hk
    cases h
    exact .inl ⟨hk, rfl⟩
  · exact .inr h

namespace Run

/-- Something that has been read of a text, or is read now, is what the text reads as. -/
theorem once_apply {entries : Cache → Fields α} {keep : Cache → Fields α → Cache} {key : String}
    {read : Unit → Except ExtractError α} {s : State σ} (hf : s.cache.Faithful)
    (hread : ∀ a, (entries s.cache).find? key = some a → read () = .ok a)
    (hkeep : ∀ a, read () = .ok a → (keep s.cache ((entries s.cache).insert key a)).Faithful) :
    ∃ c : Cache, c.Faithful ∧ once entries keep key read s = (read (), { s with cache := c }) := by
  cases hfind : (entries s.cache).find? key with
  | some a =>
    refine ⟨s.cache, hf, ?_⟩
    dsimp only [once, of]
    rw [hfind, hread a hfind]
  | none =>
    cases hr : read () with
    | ok a =>
      refine ⟨_, hkeep a hr, ?_⟩
      dsimp only [once, of]
      rw [hfind, hr]
    | error e =>
      refine ⟨s.cache, hf, ?_⟩
      dsimp only [once, of]
      rw [hfind, hr]

theorem chain_apply (raw : String) {s : State σ} (h : s.cache.Faithful) :
    ∃ c : Cache, c.Faithful ∧ chain raw s = (Css.Chain.parse raw, { s with cache := c }) := by
  refine once_apply h (h.chains raw) fun a ha => { h with chains := fun key b hb => ?_ }
  rcases find?_of_insert hb with ⟨rfl, rfl⟩ | hb
  · exact ha
  · exact h.chains key b hb

theorem path_apply (raw : String) {s : State σ} (h : s.cache.Faithful) :
    ∃ c : Cache, c.Faithful ∧ path raw s = (Json.Path.parse raw, { s with cache := c }) := by
  refine once_apply h (h.paths raw) fun a ha => { h with paths := fun key b hb => ?_ }
  rcases find?_of_insert hb with ⟨rfl, rfl⟩ | hb
  · exact ha
  · exact h.paths key b hb

theorem pattern_apply (engine : Pattern.Engine) (text : String) {s : State σ} (h : s.cache.Faithful) :
    ∃ c : Cache, c.Faithful ∧ pattern engine text s = (compilePattern engine text, { s with cache := c }) := by
  refine once_apply h (h.patterns engine text) fun a ha => { h with patterns := fun engine' p b hb => ?_ }
  rcases find?_of_insert hb with ⟨hk, rfl⟩ | hb
  · obtain ⟨rfl, rfl⟩ := patternKey_inj hk
    exact ha
  · exact h.patterns engine' p b hb

theorem calls_apply (expr : String) {s : State σ} (h : s.cache.Faithful) :
    ∃ c : Cache, c.Faithful ∧ calls expr s = (.ok (Filter.Call.parse expr), { s with cache := c }) := by
  refine once_apply h (fun a ha => by rw [h.filters expr a ha]) fun a ha => { h with filters := fun key b hb => ?_ }
  rcases find?_of_insert hb with ⟨rfl, rfl⟩ | hb
  · cases ha
    rfl
  · exact h.filters key b hb

end Run

/-! ## Runs that are alike but for their caches -/

/-- States that differ in faithful caches only, with a document of which `I` holds. -/
structure SameView (I : Markup.Document → Prop) (s t : State σ) : Prop where
  document : s.document = t.document
  outside : s.outside = t.outside
  left : s.cache.Faithful
  right : t.cache.Faithful
  holds : I s.document

/-- Runs that are alike but for their caches; `R` relates the errors they end with, at the document they end with. -/
def Link.blind (σ : Type) (R : ExtractError → Markup.Document → ExtractError → Prop) (I : Markup.Document → Prop) :
    Link σ σ where
  state := SameView I
  fatal e s f t := R e s.document f ∧ SameView I s t
  lost _ := False

section Blind

variable {R : ExtractError → Markup.Document → ExtractError → Prop} {I : Markup.Document → Prop}

theorem SameView.withCaches {s t : State σ} (h : SameView I s t) {c c' : Cache} (hc : c.Faithful)
    (hc' : c'.Faithful) : SameView I { s with cache := c } { t with cache := c' } :=
  ⟨h.document, h.outside, hc, hc', h.holds⟩

/-- What reads as if for the first time does so in both runs. -/
theorem Linked.blind_of_apply {x : Run σ α} {r : Except ExtractError α} (hr : Mild r)
    (h : ∀ s : State σ, s.cache.Faithful → ∃ c : Cache, c.Faithful ∧ x s = (r, { s with cache := c })) :
    Linked (.blind σ R I) (Same fun a => r = .ok a) x x := by
  intro s t hs
  obtain ⟨c, hc, hx⟩ := h s hs.left
  obtain ⟨c', hc', hy⟩ := h t hs.right
  rw [hx, hy]
  cases r with
  | ok a => exact .ok ⟨rfl, rfl⟩ (hs.withCaches hc hc')
  | error e => exact .error (hr e rfl) (hs.withCaches hc hc')

theorem Linked.eq_of_same {σ τ : Type} {L : Link σ τ} {P : α → Prop} {x : Run σ α} {y : Run τ α}
    (h : Linked L (Same P) x y) : Linked L Eq x y := h.mono fun _ _ h => h.1

theorem blind_fits (hroot : ∀ d, I d → d.rootElement? = none → R .rootless d .rootless)
    (hpanic : ∀ p d, R (.panic p) d (.panic p)) : (Link.blind σ R I).Fits where
  document hs := hs.document
  rootless hs hr := ⟨hroot _ hs.holds hr, hs⟩
  panic hs := ⟨hpanic _ _, hs⟩
  path raw := (Linked.blind_of_apply (mild_path raw) fun _ => Run.path_apply raw).eq_of_same
  pattern engine text :=
    (Linked.blind_of_apply (mild_compilePattern engine text) fun _ => Run.pattern_apply engine text).eq_of_same

theorem blind_navigate (raw : String) (context : List Nat)
    (hInv : ∀ c d, Css.Chain.parse raw = .ok c → I d → I (c.run d context).1) :
    Linked (.blind σ R I) Eq (Run.navigate raw context) (Run.navigate raw context) := by
  refine Linked.bind (Linked.blind_of_apply (mild_chain raw) fun _ => Run.chain_apply raw) fun c _ hc => ?_
  obtain ⟨rfl, hc⟩ := hc
  refine Linked.bind (A := Eq) (fun s t hs => ?_) fun nodes _ hn => hn ▸ .pure rfl
  show (Link.blind σ R I).Outcome Eq (.ok (c.run s.document context).2, _) (.ok (c.run t.document context).2, _)
  rw [hs.document]
  exact .ok rfl ⟨rfl, hs.outside, hs.left, hs.right, hInv c _ hc (hs.document ▸ hs.holds)⟩

/-- The filters of a node do the same in both runs; `P` is what they keep. -/
theorem blind_finish {e e' : Evaluator σ} {spec : Spec} (hrun : ∀ v o,
      Filter.Chain.run e.registry (Filter.Call.parse spec.filter) v o =
        Filter.Chain.run e'.registry (Filter.Call.parse spec.filter) v o)
    (hpanic : ∀ p d, R (.panic p) d (.panic p)) {P : Value → Prop} {v : Value} (hv : P v)
    (hP : ∀ w o o', Filter.Chain.run e.registry (Filter.Call.parse spec.filter) v o = (.ok w, o') → P w) :
    Linked (.blind σ R I) (Same P) (e.finish spec v) (e'.finish spec v) := by
  unfold Evaluator.finish
  split
  · exact .pure ⟨rfl, hv⟩
  · refine Linked.bind (Linked.blind_of_apply (mild_ok _) fun _ => Run.calls_apply spec.filter) fun calls _ hc => ?_
    obtain ⟨rfl, hc⟩ := hc
    cases hc
    intro s t hs
    have hout : ∀ o : σ, SameView I { s with outside := o } { t with outside := o } := fun o =>
      ⟨hs.document, rfl, hs.left, hs.right, hs.holds⟩
    rw [Run.filtered_apply, Run.filtered_apply, ← hs.outside, ← hrun]
    cases hres : Filter.Chain.run e.registry (Filter.Call.parse spec.filter) v s.outside with
    | mk r o =>
      cases r with
      | ok w => exact .ok ⟨rfl, hP w _ _ hres⟩ (hout o)
      | error stop =>
        cases stop with
        | rejected filter w => exact .error rfl (hout o)
        | panicked p => exact .fatal rfl rfl ⟨hpanic p _, hout o⟩

/-- **Runs of two evaluators whose filters do the same are alike but for their caches and their limits**: `Q` holds of
what they yield if filters keep it, and `I` of the document if selector chains do. -/
theorem blind_agrees_of_run {e e' : Evaluator σ} {P : Spec → Prop} (hrun : ∀ spec, P spec → ∀ v o,
      Filter.Chain.run e.registry (Filter.Call.parse spec.filter) v o =
        Filter.Chain.run e'.registry (Filter.Call.parse spec.filter) v o) {Q : Spec → Value → Prop}
    (hroot : ∀ d, I d → d.rootElement? = none → R .rootless d .rootless) (hpanic : ∀ p d, R (.panic p) d (.panic p))
    (hdepth : ∀ d, R (.depthExceeded e.maxDepth) d (.depthExceeded e'.maxDepth))
    (hshape : ∀ spec, P spec → ∀ v, Shape Q spec v → Q spec v)
    (hfilter : ∀ spec, P spec → ∀ v w o o', Q spec v →
      Filter.Chain.run e.registry (Filter.Call.parse spec.filter) v o = (.ok w, o') → Q spec w)
    (hchain : ∀ spec, P spec → ∀ raw c d context, spec.selector = .native raw → Css.Chain.parse raw = .ok c →
      I d → I (c.run d context).1)
    (n : Nat) (spec : Spec) (hspec : spec.All P) : (Link.blind σ R I).Agrees Q e e' n n spec := by
  refine Link.Agrees.run (k := 0) (blind_fits hroot hpanic) (fun spec hP => ?_) (fun spec => .zero fun s t hs => ?_)
    n spec hspec
  · refine ⟨fun v hv => ?_, fun raw context hsel => ?_⟩
    · have hq := hshape spec hP v hv
      exact blind_finish (hrun spec hP) hpanic hq fun w o o' => hfilter spec hP v w o o' hq
    · exact blind_navigate raw context fun c d => hchain spec hP raw c d context hsel
  · exact ⟨hdepth _, hs⟩

theorem blind_agrees {e e' : Evaluator σ} (hreg : e.registry = e'.registry) {Q : Spec → Value → Prop}
    (hroot : ∀ d, I d → d.rootElement? = none → R .rootless d .rootless) (hpanic : ∀ p d, R (.panic p) d (.panic p))
    (hdepth : ∀ d, R (.depthExceeded e.maxDepth) d (.depthExceeded e'.maxDepth)) {P : Spec → Prop}
    (hshape : ∀ spec, P spec → ∀ v, Shape Q spec v → Q spec v)
    (hfilter : ∀ spec, P spec → ∀ v w o o', Q spec v →
      Filter.Chain.run e.registry (Filter.Call.parse spec.filter) v o = (.ok w, o') → Q spec w)
    (hchain : ∀ spec, P spec → ∀ raw c d context, spec.selector = .native raw → Css.Chain.parse raw = .ok c →
      I d → I (c.run d context).1)
    (n : Nat) (spec : Spec) (hspec : spec.All P) : (Link.blind σ R I).Agrees Q e e' n n spec :=
  blind_agrees_of_run (fun _ _ _ _ => by rw [hreg]) hroot hpanic hdepth hshape hfilter hchain n spec hspec

/-- Where nothing is asked of documents and of what the runs yield, they are so on every spec. -/
theorem blind_plain {R : ExtractError → Markup.Document → ExtractError → Prop} {e e' : Evaluator σ}
    (hreg : e.registry = e'.registry) (hroot : ∀ d, R .rootless d .rootless) (hpanic : ∀ p d, R (.panic p) d (.panic p))
    (hdepth : ∀ d, R (.depthExceeded e.maxDepth) d (.depthExceeded e'.maxDepth)) (n : Nat) (spec : Spec) :
    (Link.blind σ R fun _ => True).Agrees (fun _ _ => True) e e' n n spec :=
  blind_agrees (P := fun _ => True) hreg (fun d _ _ => hroot d) hpanic hdepth (fun _ _ _ _ => trivial)
    (fun _ _ _ _ _ _ _ _ => trivial) (fun _ _ _ _ _ _ _ _ _ => trivial) n spec (.of_forall (fun _ => trivial) spec)

end Blind

/-- **What an evaluation has read is what the texts read as.** -/
theorem evaluate_faithful (e : Evaluator σ) (spec : Spec) (page : Page) {cache : Cache} (hcache : cache.Faithful)
    (outside : σ) : (e.evaluate spec page cache outside).2.2.1.Faithful := by
  have hagree := blind_plain (R := fun _ _ _ => True) (rfl : e.registry = e.registry) (fun _ => trivial)
    (fun _ _ => trivial) (fun _ => trivial) (e.maxDepth + 1) spec
  have h := hagree.onPage page ⟨page.document, cache, outside⟩ ⟨page.document, cache, outside⟩
    ⟨rfl, rfl, hcache, hcache, trivial⟩
  rw [evaluate_eq]
  generalize e.onPage spec page _ = p at h ⊢
  cases h with
  | ok _ hs => exact hs.left
  | error _ hs => exact hs.left
  | fatal _ _ hs => exact hs.2.left
  | lost _ _ hl => exact hl.elim

end Harvest.Extract
