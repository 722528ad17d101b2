import Harvest.Proofs.Extract.Cache
import Harvest.Proofs.Filter.Guard
/-!
# Values conform to their specs

An evaluation with the built-in filters, of which a spec uses no others than validators, yields a value that conforms
to the spec: one of the kind that the type of each node says, all the way down the tree.
-/
namespace Harvest.Extract

variable {σ τ : Type} {α : Type}

theorem Linked.of_ok {L : Link σ τ} {P : α → Prop} {x : Run σ α} {y : Run τ α} (h : Linked L (Same P) x y)
    {s s' : State σ} {t : State τ} (hs : L.state s t) {a : α} (hx : x s = (.ok a, s')) :
    P a := by
  have h := h s t hs
  rw [hx] at h
  generalize y t = q at h
  cases h with
  | ok ha _ => exact ha.2

/-- A spec whose filters are validators only. -/
def Guarded (spec : Spec) : Prop := spec.All fun s => ∀ c ∈ Filter.Call.parse s.filter, c.IsGuard

/-- **A value that an evaluation yields conforms to its spec**, if all filters of the spec are validators. -/
theorem evaluate_conforms (clock : Filter.Clock) (maxDepth : Nat) {spec : Spec} (hspec : Guarded spec) (page : Page)
    {cache : Cache} (hcache : cache.Faithful) (outside : σ) {v : Value}
    (h : (Evaluator.evaluate ⟨Filter.builtin σ clock, maxDepth⟩ spec page cache outside).1 = .ok v) :
    Conforms spec v := by
  rw [evaluate_eq] at h
  have hagree := blind_agrees (R := fun e _ f => e = f) (I := fun _ => True) (Q := Conforms)
    (e := ⟨Filter.builtin σ clock, maxDepth⟩) rfl (fun _ _ _ => rfl) (fun _ _ => rfl) (fun _ => rfl)
    (fun spec _ v hv => (conforms_iff spec v).2 hv)
    (fun spec hs v w o o' hv hrun => Filter.run_of_guards hs hrun ▸ hv) (fun _ _ _ _ _ _ _ _ _ => trivial)
    (maxDepth + 1) spec hspec
  generalize hrun : Evaluator.onPage _ spec page _ = p at h
  obtain ⟨r, s'⟩ := p
  cases h
  exact (hagree.onPage page).of_ok (t := ⟨page.document, cache, outside⟩) ⟨rfl, rfl, hcache, hcache, trivial⟩ hrun

/-- A list of records of one number, each kept only if it is written with one digit. -/
def digits : Spec :=
  { tag := .array, filter := "_required",
    children := [{ tag := .map, children := [
      { name := "n", tag := .string, selector := .native "n", filter := "_size(1)|_nosuch" }] }] }

theorem evaluate_conforms_digits :
    Guarded digits ∧ Conforms digits (.array [.map [("n", .string "5")], .map []]) := by
  have hdigits : Guarded digits := by
    refine .node (by decide) fun c hc => ?_
    cases List.mem_singleton.1 hc
    refine .node (by decide) fun c hc => ?_
    cases List.mem_singleton.1 hc
    exact .node (by decide) fun c hc => by cases hc
  let page : Page := .json (.array [.object [("n", .number (.int 5))], .object [("n", .string "12")]])
  exact ⟨hdigits, evaluate_conforms ⟨0, 0⟩ 2 hdigits page Cache.faithful_empty () rfl⟩

end Harvest.Extract
