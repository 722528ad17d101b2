import Harvest.Css.Chain
import Harvest.Proofs.Markup.Document
/-!
# Chains that leave no root element

Only `rm` changes a document.  It takes away all root elements exactly if it works on the document itself and its
selector matches them all, and no operator leads from elements back to the document.  So a chain with a selector of its
own never does that, nor does one that starts from elements.
-/
namespace Harvest.Css

open Harvest.Markup (Document)

/-- The operator takes all root elements out of the document. -/
def Op.Uproots (d : Document) (nodes : List Nat) : Op → Prop
  | remove s => 0 ∈ nodes ∧ ∀ i ∈ d.children 0, d.isElement i = true → selects d s i = true
  | _ => False

def Op.UprootsAll (d : Document) (nodes : List Nat) : List Op → Prop
  | [] => False
  | op :: ops => op.Uproots d nodes ∨ UprootsAll (op.run d nodes).1 (op.run d nodes).2 ops

/-- The chain does; it has no selector of its own. -/
def Chain.Uproots (c : Chain) (d : Document) (context : List Nat) : Prop :=
  c.primary = none ∧ Op.UprootsAll d context c.ops

variable {d : Document} {nodes : List Nat}

/-! ## The nodes that operators work on -/

theorem mem_gather {f : Nat → List Nat} {i : Nat} : i ∈ gather f nodes ↔ ∃ j ∈ nodes, i ∈ f j := by
  unfold gather
  rw [List.mem_eraseDups, List.mem_flatMap]

theorem mem_find {s : Selector} {i : Nat} :
    i ∈ find d s nodes ↔ (∃ j ∈ nodes, i ∈ d.descendants j) ∧ selects d s i = true := by
  unfold find
  rw [mem_gather]
  simp only [List.mem_filter]
  exact ⟨fun ⟨j, hj, hi, hs⟩ => ⟨⟨j, hj, hi⟩, hs⟩, fun ⟨⟨j, hj, hi⟩, hs⟩ => ⟨j, hj, hi, hs⟩⟩

theorem zero_not_mem_find (h : d.WellFormed) (s : Selector) (nodes : List Nat) : 0 ∉ find d s nodes := by
  intro h0
  obtain ⟨⟨j, -, hj⟩, -⟩ := mem_find.1 h0
  exact Markup.Document.zero_not_mem_descendants h j hj

theorem mem_of_mem_pick {n : Int64} {i : Nat} (h : i ∈ pick nodes n) : i ∈ nodes := by
  unfold pick at h
  extract_lets k at h
  split at h
  · cases h
  · exact List.mem_of_getElem? (Option.mem_toList.1 h)

theorem isElement_of_mem_targets {i j : Nat} : ∀ {r : Relation}, j ∈ r.targets d i → d.isElement j = true
  | .next, h => (List.mem_filter.1 (List.mem_of_mem_take h)).2
  | .prev, h => (List.mem_filter.1 (List.mem_of_mem_take h)).2
  | .nextAll, h => (List.mem_filter.1 h).2
  | .prevAll, h => (List.mem_filter.1 h).2
  | .siblings, h => by
    have h := (List.mem_filter.1 h).2
    rw [Bool.and_eq_true] at h
    exact h.1
  | .children, h => (List.mem_filter.1 h).2
  | .parent, h => (List.mem_filter.1 h).2
  | .parents, h => (List.mem_filter.1 h).2

theorem Op.zero_not_mem_run (h : d.WellFormed) (hnodes : 0 ∉ nodes) (op : Op) : 0 ∉ (op.run d nodes).2 := by
  have hwalk : ∀ r : Relation, 0 ∉ gather (r.targets d) nodes := by
    intro r h0
    obtain ⟨j, -, hj⟩ := mem_gather.1 h0
    have := isElement_of_mem_targets hj
    rw [h.top] at this
    cases this
  intro h0
  unfold Op.run at h0
  split at h0
  · exact hnodes (mem_of_mem_pick h0)
  · exact hnodes (List.mem_of_mem_take h0)
  · exact hnodes (List.mem_of_getLast? (Option.mem_toList.1 h0))
  · exact hwalk _ h0
  · exact hwalk _ (List.mem_filter.1 h0).1
  · exact hnodes (List.mem_filter.1 h0).1
  · exact hnodes (List.mem_filter.1 h0).1
  · exact hnodes h0
  · exact hnodes h0

theorem Op.wellFormed_run (h : d.WellFormed) (nodes : List Nat) (op : Op) : (op.run d nodes).1.WellFormed := by
  unfold Op.run
  split
  all_goals first
    | exact h
    | exact h.removeAll _

theorem Op.not_uprootsAll : ∀ {d : Document} {nodes : List Nat}, d.WellFormed → 0 ∉ nodes → ∀ ops : List Op,
    ¬ Op.UprootsAll d nodes ops
  | _, _, _, _, [], h => h
  | d, nodes, h, hnodes, op :: ops, hup => by
    rcases hup with hup | hup
    · cases op with
      | remove s => exact hnodes hup.1
      | _ => exact hup
    · exact not_uprootsAll (op.wellFormed_run h nodes) (op.zero_not_mem_run h hnodes) ops hup

theorem Op.exists_remove : ∀ {ops : List Op} {d : Document} {nodes : List Nat}, Op.UprootsAll d nodes ops →
    ∃ s, Op.remove s ∈ ops
  | op :: ops, d, nodes, h => by
    rcases h with h | h
    · cases op with
      | remove s => exact ⟨s, List.mem_cons_self⟩
      | _ => exact h.elim
    · obtain ⟨s, hs⟩ := exists_remove h
      exact ⟨s, List.mem_cons_of_mem op hs⟩

/-! ## What is left -/

/-- **What an operator leaves has no root element** exactly if there was none, or the operator uproots. -/
theorem Op.rootElement?_run (h : d.WellFormed) (op : Op) :
    (op.run d nodes).1.rootElement? = none ↔ d.rootElement? = none ∨ op.Uproots d nodes := by
  cases op with
  | remove s =>
    show ((find d s nodes).foldl Document.remove d).rootElement? = none ↔
      _ ∨ 0 ∈ nodes ∧ ∀ i ∈ d.children 0, d.isElement i = true → selects d s i = true
    rw [Markup.Document.rootElement?_removeAll h, Markup.Document.rootElement?_eq_none]
    constructor
    · intro hall
      by_cases h0 : 0 ∈ nodes
      · exact .inr ⟨h0, fun i hi he => (mem_find.1 (hall i hi he)).2⟩
      · refine .inl fun i hi => Bool.eq_false_iff.2 fun he => ?_
        obtain ⟨⟨j, hj, hij⟩, -⟩ := mem_find.1 (hall i hi he)
        rw [Markup.Document.zero_of_descendant h hi hij] at hj
        exact h0 hj
    · rintro (hnone | ⟨h0, hall⟩) i hi he
      · rw [hnone i hi] at he
        cases he
      · exact mem_find.2 ⟨⟨0, h0, Markup.Document.descendant_of_child h hi⟩, hall i hi he⟩
  | walk r among =>
    cases among <;> exact (or_iff_left id).symm
  | _ => exact (or_iff_left id).symm

theorem Op.rootElement?_runAll : ∀ (ops : List Op) {d : Document} {nodes : List Nat}, d.WellFormed →
    ((Op.runAll d nodes ops).1.rootElement? = none ↔ d.rootElement? = none ∨ Op.UprootsAll d nodes ops)
  | [], _, _, _ => (or_iff_left id).symm
  | op :: ops, d, nodes, h => by
    unfold Op.runAll Op.UprootsAll
    rw [rootElement?_runAll ops (op.wellFormed_run h nodes), op.rootElement?_run h, or_assoc]

theorem Op.wellFormed_runAll : ∀ (ops : List Op) {d : Document} (nodes : List Nat), d.WellFormed →
    (Op.runAll d nodes ops).1.WellFormed
  | [], _, _, h => h
  | op :: ops, _, nodes, h => wellFormed_runAll ops _ (op.wellFormed_run h nodes)

theorem Chain.wellFormed_run (h : d.WellFormed) (c : Chain) (context : List Nat) : (c.run d context).1.WellFormed :=
  Op.wellFormed_runAll c.ops _ h

/-- **What a chain leaves has no root element** exactly if there was none, or the chain uproots. -/
theorem Chain.rootElement?_run (h : d.WellFormed) (c : Chain) (context : List Nat) :
    (c.run d context).1.rootElement? = none ↔ d.rootElement? = none ∨ c.Uproots d context := by
  unfold Chain.run Chain.Uproots
  rw [Op.rootElement?_runAll c.ops h]
  cases c.primary with
  | none => simp
  | some s => simp [Op.not_uprootsAll h (zero_not_mem_find h s context)]

/-! ## Several chains -/

/-- What chains leave of a document, each with the nodes that it starts from. -/
def prune (d : Document) (runs : List (Chain × List Nat)) : Document := runs.foldl (fun d r => (r.1.run d r.2).1) d

/-- One of the chains uproots what those before it leave. -/
def Uprooted (d : Document) (runs : List (Chain × List Nat)) : Prop :=
  ∃ before r behind, runs = before ++ r :: behind ∧ r.1.Uproots (prune d before) r.2

theorem uprooted_cons {r : Chain × List Nat} {runs : List (Chain × List Nat)} :
    Uprooted d (r :: runs) ↔ r.1.Uproots d r.2 ∨ Uprooted (r.1.run d r.2).1 runs := by
  constructor
  · rintro ⟨before, s, behind, heq, hs⟩
    cases before with
    | nil =>
      cases heq
      exact .inl hs
    | cons b before =>
      cases heq
      exact .inr ⟨before, s, behind, rfl, hs⟩
  · rintro (hr | ⟨before, s, behind, rfl, hs⟩)
    · exact ⟨[], r, runs, rfl, hr⟩
    · exact ⟨r :: before, s, behind, rfl, hs⟩

/-- **What several chains leave has no root element** exactly if there was none, or one of them uproots. -/
theorem rootElement?_prune : ∀ (runs : List (Chain × List Nat)) {d : Document}, d.WellFormed →
    ((prune d runs).rootElement? = none ↔ d.rootElement? = none ∨ Uprooted d runs)
  | [], d, _ => by
    refine (or_iff_left ?_).symm
    rintro ⟨before, r, behind, heq, -⟩
    cases before <;> cases heq
  | r :: runs, d, h => by
    have hrun := r.1.wellFormed_run h r.2
    unfold prune
    rw [List.foldl_cons, uprooted_cons, ← or_assoc, ← r.1.rootElement?_run h r.2]
    exact rootElement?_prune runs hrun

theorem wellFormed_prune : ∀ (runs : List (Chain × List Nat)) {d : Document}, d.WellFormed → (prune d runs).WellFormed
  | [], _, h => h
  | r :: runs, _, h => wellFormed_prune runs (r.1.wellFormed_run h r.2)

end Harvest.Css
