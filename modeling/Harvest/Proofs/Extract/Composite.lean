import Harvest.Proofs.Extract.Site
import Harvest.Proofs.Fields
/-!
# Records and lists do their best

The children of a record and the items of a list are evaluated one after the other, each from the state that all before
it left, those that failed among them (`Run.trail`).  What fails is left out, unless its failure ends everything.
-/
namespace Harvest.Extract

variable {σ α ι : Type}

/-- The evaluation of one of several items. -/
structure Run.Step (σ ι α : Type) where
  item : ι
  outcome : Except ExtractError α
  /-- The state that it leaves. -/
  state : State σ

namespace Run

/-- The evaluations of several items, each from the state that all before it left. -/
def trail (f : ι → Run σ α) : List ι → State σ → List (Step σ ι α)
  | [], _ => []
  | i :: is, s => ⟨i, (f i s).1, (f i s).2⟩ :: trail f is (f i s).2

/-- The state behind the evaluations of several items. -/
def after (f : ι → Run σ α) (is : List ι) (s : State σ) : State σ := is.foldl (fun s i => (f i s).2) s

/-- The items that do not fail, each with its result. -/
def attempts (f : ι → Run σ α) : List ι → Run σ (List (ι × α))
  | [] => pure []
  | i :: is => do
    let a ← attempt (f i)
    return a.toList.map (fun a => (i, a)) ++ (← attempts f is)

theorem survivors_eq (f : ι → Run σ α) : ∀ is : List ι, survivors f is = List.map Prod.snd <$> attempts f is
  | [] => rfl
  | i :: is => by
    rw [survivors, attempts, survivors_eq f is]
    simp only [map_bind, bind_map_left, map_pure, List.map_append, List.map_map]
    refine bind_congr fun a => bind_congr fun ps => ?_
    cases a <;> rfl

theorem fields_eq (f : Spec → Run σ Value) : ∀ (cs : List Spec) (acc : Fields Value), fields f acc cs =
    (fun ps => ((ps.map fun p => (p.1.name, p.2)).foldl (fun fs p => fs.insert p.1 p.2) acc)) <$> attempts f cs
  | [], _ => rfl
  | c :: cs, acc => by
    rw [fields, attempts]
    simp only [map_bind, map_pure]
    refine bind_congr fun a => ?_
    cases a with
    | none =>
      simp only
      rw [fields_eq f cs acc]
      rfl
    | some v =>
      simp only
      rw [fields_eq f cs]
      rfl

theorem attempt_of_mild {x : Run σ α} {s t : State σ} {r : Except ExtractError α} (h : x s = (r, t)) (hr : Mild r) :
    attempt x s = (.ok r.toOption, t) := by
  rw [attempt_apply, h]
  cases r with
  | ok a => rfl
  | error err =>
    simp only [hr err rfl]
    rfl

/-- An item that does not end everything, and the others from the state that it leaves. -/
theorem attempts_cons (f : ι → Run σ α) {i : ι} {s t : State σ} {r : Except ExtractError α} (h : f i s = (r, t))
    (hr : Mild r) (is : List ι) : attempts f (i :: is) s = match attempts f is t with
      | (.ok ps, u) => (.ok ((r.toOption.map fun a => (i, a)).toList ++ ps), u)
      | (.error err, u) => (.error err, u) := by
  rw [attempts, bind_apply, attempt_of_mild h hr]
  simp only [bind_apply]
  rcases attempts f is t with ⟨_ | _, _⟩ <;> cases r <;> rfl

theorem attempts_of_error (f : ι → Run σ α) {i : ι} {s t : State σ} {err : ExtractError}
    (h : f i s = (.error err, t)) (herr : err.isFatal = true) (is : List ι) :
    attempts f (i :: is) s = (.error err, t) := by
  rw [attempts, bind_apply, attempt_apply, h]
  simp only [herr]
  rfl

/-- **Where no failure ends everything, all items are evaluated** and those that fail are left out. -/
theorem attempts_of_mild (f : ι → Run σ α) : ∀ (is : List ι) (s : State σ), (∀ step ∈ trail f is s, Mild step.outcome) →
    attempts f is s =
      (.ok ((trail f is s).filterMap fun step => step.outcome.toOption.map fun a => (step.item, a)), after f is s)
  | [], _, _ => rfl
  | i :: is, s, h => by
    have his := attempts_of_mild f is (f i s).2 fun step hstep => h step (List.mem_cons_of_mem _ hstep)
    rw [attempts_cons f rfl (h _ List.mem_cons_self), his, trail, List.filterMap_cons]
    simp only
    cases (f i s).1 with
    | ok a => rfl
    | error err => rfl

/-- **The first failure that ends everything is that of all items.** -/
theorem attempts_of_fatal (f : ι → Run σ α) {err : ExtractError} (herr : err.isFatal = true) :
    ∀ (is : List ι) (s : State σ) {before behind : List (Step σ ι α)} {step : Step σ ι α},
      trail f is s = before ++ step :: behind → (∀ b ∈ before, Mild b.outcome) → step.outcome = .error err →
        attempts f is s = (.error err, step.state)
  -- The split of the trail is followed item by item: the failure is at the head, or the head is one of `before`.
  | [], _, [], _, _, h, _, _ => by cases h
  | [], _, _ :: _, _, _, h, _, _ => by cases h
  | i :: is, s, [], behind, step, h, _, hstep => by
    rw [trail, List.nil_append, List.cons.injEq] at h
    obtain ⟨rfl, -⟩ := h
    exact attempts_of_error f (Prod.ext hstep rfl) herr is
  | i :: is, s, b :: before, behind, step, h, hbefore, hstep => by
    rw [trail, List.cons_append, List.cons.injEq] at h
    obtain ⟨rfl, h⟩ := h
    rw [attempts_cons f rfl (hbefore _ List.mem_cons_self),
      attempts_of_fatal f herr is (f i s).2 h (fun b hb => hbefore b (List.mem_cons_of_mem _ hb)) hstep]

end Run

/-! ## Records and lists without filters -/

variable {e : Evaluator σ} {spec : Spec}

theorem finish_eq (hfilter : spec.filter = "") (v : Value) : e.finish spec v = pure v := by
  unfold Evaluator.finish
  rw [hfilter]
  rfl

/-- A record holds what its named children yield, for each name the last of it. -/
theorem record_eq (hfilter : spec.filter = "") (hnamed : spec.namedChildren ≠ []) (child : Spec → Run σ Value) :
    e.record spec child = (fun ps => Value.map (Fields.ofList (ps.map fun p => (p.1.name, p.2)))) <$>
      Run.attempts child spec.namedChildren := by
  unfold Evaluator.record
  rw [if_neg (by rwa [List.isEmpty_iff])]
  simp only [Run.fields_eq, finish_eq hfilter, bind_pure_comp, Functor.map_map]
  rfl

theorem each_eq (hfilter : spec.filter = "") {template : Spec} (hchild : spec.children = [template])
    (elements : List ι) (item : Spec → ι → Run σ Value) : e.each spec elements item =
      (fun ps => Value.array (ps.map Prod.snd)) <$> Run.attempts (item template) elements := by
  have htemplate : spec.template = .ok template := by
    unfold Spec.template
    rw [hchild]
  unfold Evaluator.each
  rw [htemplate]
  simp only [Run.survivors_eq, finish_eq hfilter, bind_pure_comp, Functor.map_map]
  rfl

theorem Run.map_apply {β : Type} (g : α → β) (x : Run σ α) (s : State σ) : (g <$> x) s = ((x s).1.map g, (x s).2) := by
  rw [← bind_pure_comp, Run.bind_apply]
  rcases x s with ⟨_ | _, _⟩ <;> rfl

theorem getLast?_filterMap_iff {β γ : Type} {g : β → Option γ} {bs : List β} {v : γ} :
    (bs.filterMap g).getLast? = some v ↔
      ∃ before b behind, bs = before ++ b :: behind ∧ g b = some v ∧ ∀ c ∈ behind, g c = none := by
  rw [List.getLast?_filterMap, List.findSome?_eq_some_iff]
  constructor
  · rintro ⟨behind, b, before, h, hb, hbehind⟩
    refine ⟨before.reverse, b, behind.reverse, ?_, hb, fun c hc => hbehind c (List.mem_reverse.1 hc)⟩
    rw [← List.reverse_reverse bs, h]
    simp
  · rintro ⟨before, b, behind, rfl, hb, hbehind⟩
    exact ⟨behind.reverse, b, before.reverse, by simp, hb, fun c hc => hbehind c (List.mem_reverse.1 hc)⟩

/-- The result of the last child of a name that has one. -/
def Run.last? (k : String) (steps : List (Run.Step σ Spec Value)) : Option Value :=
  (steps.filterMap fun step => if step.item.name = k then step.outcome.toOption else none).getLast?

theorem Run.last?_eq_some {k : String} {steps : List (Run.Step σ Spec Value)} {v : Value} :
    Run.last? k steps = some v ↔ ∃ before step behind, steps = before ++ step :: behind ∧ step.item.name = k ∧
      step.outcome = .ok v ∧ ∀ later ∈ behind, later.item.name = k → ∀ w, later.outcome ≠ .ok w := by
  unfold Run.last?
  rw [getLast?_filterMap_iff]
  refine exists_congr fun before => exists_congr fun step => exists_congr fun behind => and_congr_right fun _ => ?_
  rw [← and_assoc]
  refine and_congr ?_ (forall_congr' fun later => forall_congr' fun _ => ?_)
  · split
    · rename_i hname
      cases step.outcome <;> simp [Except.toOption, hname]
    · rename_i hname
      simp [hname]
  · split
    · rename_i hname
      cases later.outcome <;> simp [Except.toOption, hname]
    · rename_i hname
      simp [hname]

/-- What the named children of a record yield, put together. -/
theorem find?_ofList_trail (k : String) (steps : List (Run.Step σ Spec Value)) :
    (Fields.ofList ((steps.filterMap fun step => step.outcome.toOption.map fun v => (step.item, v)).map
      fun p => (p.1.name, p.2))).find? k = Run.last? k steps := by
  rw [Fields.find?_ofList, List.map_filterMap, List.filterMap_filterMap]
  unfold Run.last?
  congr 2
  funext step
  cases step.outcome with
  | ok v => rfl
  | error err => exact (ite_self none).symm

/-- The first failure of several evaluations that ends everything is the outcome `p` of all. -/
def Run.EndsAll (steps : List (Run.Step σ ι α)) (p : Except ExtractError α × State σ) : Prop :=
  ∀ before step behind err, steps = before ++ step :: behind → (∀ b ∈ before, Mild b.outcome) →
    step.outcome = .error err → err.isFatal = true → p = (.error err, step.state)

theorem map_attempts_ends (f : ι → Run σ α) (is : List ι) (g : List (ι × α) → α) (s : State σ) :
    Run.EndsAll (Run.trail f is s) ((g <$> Run.attempts f is) s) := by
  intro before step behind err h hbefore hstep herr
  rw [Run.map_apply, Run.attempts_of_fatal f herr is s h hbefore hstep]
  rfl

/-- **A record without filters has what its children yield**, evaluated on its target one after the other. -/
theorem at_map_trail (hfilter : spec.filter = "") (htag : spec.tag = .map) (hnamed : spec.namedChildren ≠ [])
    (levels : Nat) {site target : Site} {s t : State σ} (htarget : Run.target spec site s = (.ok target, t)) :
    let child := fun c => e.at levels c target
    let steps := Run.trail child spec.namedChildren t
    ((∀ step ∈ steps, Mild step.outcome) → ∃ m : Fields Value, m.Sorted ∧ (∀ k, m.find? k = Run.last? k steps) ∧
      e.at (levels + 1) spec site s = (.ok (.map m), Run.after child spec.namedChildren t)) ∧
    Run.EndsAll steps (e.at (levels + 1) spec site s) := by
  rw [at_map htag, Run.bind_apply, htarget]
  simp only
  rw [record_eq hfilter hnamed]
  refine ⟨fun hmild => ⟨_, Fields.sorted_ofList _, fun k => find?_ofList_trail k _, ?_⟩, map_attempts_ends _ _ _ t⟩
  rw [Run.map_apply, Run.attempts_of_mild _ _ _ hmild]
  rfl

/-- **A list without filters has what its one child yields**, evaluated on one site after the other. -/
theorem at_array_trail (hfilter : spec.filter = "") (htag : spec.tag = .array) {template : Spec}
    (hchild : spec.children = [template]) {levels : Nat} {site target : Site} {elements : List Site} {s t : State σ}
    (htarget : Run.target spec site s = (.ok target, t)) (helements : target.elements? = some elements) :
    let item := fun element => e.at levels template element
    let steps := Run.trail item elements t
    ((∀ step ∈ steps, Mild step.outcome) → e.at (levels + 1) spec site s =
      (.ok (.array (steps.filterMap fun step => step.outcome.toOption)), Run.after item elements t)) ∧
    Run.EndsAll steps (e.at (levels + 1) spec site s) := by
  rw [at_array htag htarget helements, each_eq hfilter hchild]
  refine ⟨fun hmild => ?_, map_attempts_ends _ _ _ t⟩
  rw [Run.map_apply, Run.attempts_of_mild _ _ _ hmild, Except.map, List.map_filterMap]
  congr 4
  funext step
  cases step.outcome <;> rfl

/-- **Records and lists do their best.**  One without filters whose selector leads somewhere evaluates all that is
below it, each item on what those before it left.  A record then holds a name with a value exactly if the last child of
that name with a result yields that value, and a list holds all results in order.  They fail themselves only where an
item ends everything, as too deep a tree does, a document without a root element or a panic, and then with the failure
of the first such item. -/
theorem composites_do_their_best (e : Evaluator σ) (spec : Spec) (hfilter : spec.filter = "") (levels : Nat)
    (site : Site) {target : Site} {s t : State σ} (htarget : Run.target spec site s = (.ok target, t)) :
    (∀ page cache outside, (e.evaluate spec page cache outside).1 =
      (e.at (e.maxDepth + 1) spec page.site ⟨page.document, cache, outside⟩).1) ∧
    (spec.tag = .map → spec.namedChildren ≠ [] →
      let child := fun c => e.at levels c target
      let steps := Run.trail child spec.namedChildren t
      ((∀ step ∈ steps, Mild step.outcome) → ∃ m : Fields Value, m.Sorted ∧
        (∀ k v, m.find? k = some v ↔ ∃ before step behind, steps = before ++ step :: behind ∧ step.item.name = k ∧
          step.outcome = .ok v ∧ ∀ later ∈ behind, later.item.name = k → ∀ w, later.outcome ≠ .ok w) ∧
        e.at (levels + 1) spec site s = (.ok (.map m), Run.after child spec.namedChildren t)) ∧
      Run.EndsAll steps (e.at (levels + 1) spec site s)) ∧
    (spec.tag = .array → ∀ template elements, spec.children = [template] → target.elements? = some elements →
      let item := fun element => e.at levels template element
      let steps := Run.trail item elements t
      ((∀ step ∈ steps, Mild step.outcome) → e.at (levels + 1) spec site s =
        (.ok (.array (steps.filterMap fun step => step.outcome.toOption)), Run.after item elements t)) ∧
      Run.EndsAll steps (e.at (levels + 1) spec site s)) := by
  refine ⟨fun page cache outside => ?_, fun htag hnamed => ?_, fun htag template elements hchild helements => ?_⟩
  · rw [evaluate_eq, onPage_eq_at]
    rfl
  · obtain ⟨hbest, hends⟩ := at_map_trail (e := e) hfilter htag hnamed levels htarget
    refine ⟨fun hmild => ?_, hends⟩
    obtain ⟨m, hsorted, hfind, hm⟩ := hbest hmild
    exact ⟨m, hsorted, fun k v => by rw [hfind, Run.last?_eq_some], hm⟩
  · exact at_array_trail hfilter htag hchild htarget helements

def integers : Spec := { tag := .array, children := [{ tag := .int }] }

/-- A record with three children of one name, the last of which takes no number. -/
def thrice : Spec :=
  { tag := .map, children := [{ name := "n", tag := .int }, { name := "n", tag := .string },
    { name := "n", tag := .bool }, { name := "b", tag := .bool }, { tag := .int }] }

theorem composites_do_their_best_lists :
    let e : Evaluator Unit := ⟨Registry.empty, 1⟩
    (e.evaluate integers (.json (.array [.number (.int 1), .bool true, .string " 3"])) {} ()).1 =
      .ok (.array [.int 1, .int 3]) ∧
    ∃ m : Fields Value, (e.evaluate thrice (.text "7") {} ()).1 = .ok (.map m) ∧ m.find? "n" = some (.string "7") := by
  intro e
  obtain ⟨hpage, -, hlist⟩ := composites_do_their_best e integers rfl 1
    (.json (.array [.number (.int 1), .bool true, .string " 3"])) (s := ⟨default, {}, ()⟩) rfl
  obtain ⟨hpage', hrecord, -⟩ := composites_do_their_best e thrice rfl 1 (.text "7")
    (s := ⟨default, {}, ()⟩) rfl
  refine ⟨?_, ?_⟩
  · rw [hpage]
    refine congrArg Prod.fst ((hlist rfl _ _ rfl rfl).1 ?_)
    decide
  · obtain ⟨m, -, hfind, hm⟩ := (hrecord rfl (by decide)).1 (by decide)
    refine ⟨m, ?_, (hfind "n" _).2 ?_⟩
    · rw [hpage']
      exact congrArg Prod.fst hm
    · refine ⟨[_], _, [_, _], rfl, rfl, rfl, fun later hlater _ w hw => ?_⟩
      rcases List.mem_cons.1 hlater with rfl | hlater
      · cases hw
      · cases List.mem_singleton.1 hlater
        cases hw

end Harvest.Extract
