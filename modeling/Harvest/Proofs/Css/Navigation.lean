import Harvest.Proofs.Css.NodeSet
import Harvest.Proofs.Extract.Removal
import Harvest.Proofs.Markup.Sibling
/-!
# Ways through a document

Walking along a relation of all nodes in a direction is walking along that of the nearest one again and again
(`Met`).  For siblings this always holds; the ancestors go on where a single step to the parent ends, at what is no
element (`met_parent`).
-/
namespace Harvest.Css

open Harvest.Markup (Document)

/-- Where a walk along a relation leads from nodes. -/
def walk (d : Document) (r : Relation) (nodes : List Nat) : List Nat := ((Op.walk r none).run d nodes).2

/-- What one meets by walking along a relation again and again, until nothing is left. -/
inductive Met (d : Document) (r : Relation) : List Nat → List Nat → Prop where
  | done {nodes : List Nat} (h : walk d r nodes = []) : Met d r nodes []
  | step {nodes met : List Nat} (h : walk d r nodes ≠ []) (hmet : Met d r (walk d r nodes) met) :
    Met d r nodes (walk d r nodes ++ met)

variable {d : Document} {i j n p : Nat} {r : Relation} {nodes met : List Nat}

/-! ## Walks of one node and of several -/

theorem walk_eq (d : Document) (r : Relation) (nodes : List Nat) :
    walk d r nodes = (nodes.flatMap (r.targets d)).eraseDups := rfl

/-- A relation leads to no node twice. -/
theorem nodup_targets (h : d.Nested) (r : Relation) (i : Nat) : (r.targets d i).Nodup := by
  have hfamily : (d.family i).Nodup := (Document.family_sorted h.toWellFormed i).imp Nat.ne_of_lt
  cases r with
  | next => exact ((hfamily.filter _).filter _).sublist (List.take_sublist ..)
  | prev => exact ((List.nodup_reverse.2 (hfamily.filter _)).filter _).sublist (List.take_sublist ..)
  | nextAll => exact (hfamily.filter _).filter _
  | prevAll => exact (List.nodup_reverse.2 (hfamily.filter _)).filter _
  | siblings => exact hfamily.filter _
  | children => exact ((Document.children_sorted h.toWellFormed i).imp Nat.ne_of_lt).filter _
  | parent =>
    refine List.Nodup.filter _ ?_
    cases d.parent? i with
    | none => exact List.nodup_nil
    | some p => exact List.nodup_singleton p
  | parents => exact ((Document.ancestors_sorted h i).2.imp Nat.ne_of_gt).filter _

/-- A walk from one node leads where the relation does. -/
theorem walk_singleton (h : d.Nested) (r : Relation) (i : Nat) : walk d r [i] = r.targets d i := by
  rw [walk_eq, List.flatMap_singleton]
  exact eraseDups_of_nodup (nodup_targets h r i)

/-- **A walk from several nodes is that of one after the other**, each node met at its first place. -/
theorem walk_flatMap (h : d.Nested) (r : Relation) (nodes : List Nat) :
    walk d r nodes = (nodes.flatMap fun i => walk d r [i]).eraseDups := by
  simp only [walk_singleton h, walk_eq d r nodes]

/-! ## Step by step -/

/-- A relation to all nodes in a direction is met step by step along that to the first of them, if what is behind the
first is the rest. -/
theorem met_all {one : Relation} {all : Nat → List Nat} (hone : ∀ i, walk d one [i] = (all i).take 1)
    (hall : ∀ i j rest, all i = j :: rest → all j = rest) (i : Nat) : Met d one [i] (all i) := by
  induction hi : all i generalizing i with
  | nil => exact .done (by rw [hone, hi, List.take_nil])
  | cons j rest ih =>
    have hwalk : walk d one [i] = [j] := by rw [hone, hi, List.take_succ_cons, List.take_zero]
    have hmet := Met.step (hwalk ▸ List.cons_ne_nil j []) (hwalk ▸ ih j (hall i j rest hi))
    rwa [hwalk] at hmet

/-- **The siblings behind a node are met one after the other.** -/
theorem met_next (h : d.Nested) (i : Nat) : Met d .next [i] (walk d .nextAll [i]) := by
  rw [walk_singleton h]
  refine met_all (fun i => walk_singleton h .next i) (fun i j rest hi => ?_) i
  have hj : j ∈ (d.following i).filter d.isElement := hi ▸ List.mem_cons_self
  have hfamily : d.family j = d.family i := Document.family_eq h (List.mem_filter.1 (List.mem_filter.1 hj).1).1
  show ((d.family j).filter (j < ·)).filter d.isElement = rest
  rw [hfamily]
  exact Document.filter_behind (R := (· < ·)) Nat.lt_trans Nat.lt_irrefl (Document.family_sorted h.toWellFormed i) hi

theorem preceding_eq (d : Document) (i : Nat) : d.preceding i = (d.family i).reverse.filter (i > ·) :=
  List.filter_reverse.symm

/-- **The siblings before a node are met one after the other**, the nearest first. -/
theorem met_prev (h : d.Nested) (i : Nat) : Met d .prev [i] (walk d .prevAll [i]) := by
  rw [walk_singleton h]
  refine met_all (fun i => walk_singleton h .prev i) (fun i j rest hi => ?_) i
  rw [preceding_eq] at hi ⊢
  have hj : j ∈ ((d.family i).reverse.filter (i > ·)).filter d.isElement := hi ▸ List.mem_cons_self
  have hfamily : d.family j = d.family i :=
    Document.family_eq h (List.mem_reverse.1 (List.mem_filter.1 (List.mem_filter.1 hj).1).1)
  have hsorted : (d.family i).reverse.Pairwise (· > ·) :=
    List.pairwise_reverse.2 (Document.family_sorted h.toWellFormed i)
  rw [hfamily]
  exact Document.filter_behind (R := (· > ·)) (fun hxy hyz => Nat.lt_trans hyz hxy) Nat.lt_irrefl hsorted hi

/-- Nothing is met where the first step leads nowhere. -/
theorem not_met (h : walk d r nodes = []) (hmet : met ≠ []) : ¬ Met d r nodes met
  | .done _ => hmet rfl
  | .step hne _ => hne h

/-! ## Siblings and children -/

/-- **The siblings of a node are those before it and those behind it**, in document order. -/
theorem walk_siblings (h : d.Nested) (i : Nat) :
    walk d .siblings [i] = (walk d .prevAll [i]).reverse ++ walk d .nextAll [i] := by
  have haround := Document.filter_around i (Document.family_sorted h.toWellFormed i)
  simp only [walk_singleton h, Relation.targets, Document.preceding, Document.following]
  rw [← List.filter_filter, haround, List.filter_append, List.filter_reverse, List.reverse_reverse]

theorem siblings_sorted (h : d.Nested) (i : Nat) : (walk d .siblings [i]).Pairwise (· < ·) := by
  rw [walk_singleton h]
  exact (Document.family_sorted h.toWellFormed i).filter _

theorem mem_siblings (h : d.Nested) : j ∈ walk d .siblings [i] ↔
    ∃ p, d.parent? i = some p ∧ d.parent? j = some p ∧ d.isElement j = true ∧ j ≠ i := by
  rw [walk_singleton h, Relation.targets, List.mem_filter, Document.family]
  cases hp : d.parent? i with
  | none => simp
  | some p => simp [Document.mem_children_iff_parent? h]

/-- **The children of a node are the elements whose parent it is.** -/
theorem mem_walk_children (h : d.Nested) : n ∈ walk d .children [p] ↔ d.isElement n = true ∧ d.parent? n = some p := by
  rw [walk_singleton h, Relation.targets, List.mem_filter, Document.mem_children_iff_parent? h, and_comm]

/-- A step to the parent ends at what is no element. -/
theorem walk_parent (h : d.Nested) (hp : d.parent? i = some p) :
    walk d .parent [i] = if d.isElement p then [p] else [] := by
  rw [walk_singleton h, Relation.targets, hp, Option.toList_some, List.filter_singleton, Bool.cond_eq_ite]

theorem walk_parent_nil (h : d.Nested) (hp : d.parent? i = none) : walk d .parent [i] = [] := by
  rw [walk_singleton h, Relation.targets, hp]
  rfl

theorem walk_parent_eq (h : d.Nested) : walk d .parent [n] = [p] ↔ d.isElement p = true ∧ d.parent? n = some p := by
  cases hq : d.parent? n with
  | none => simp [walk_parent_nil h hq]
  | some q =>
    rw [walk_parent h hq]
    split
    · next helement => exact ⟨fun heq => by cases heq; exact ⟨helement, rfl⟩, fun ⟨_, heq⟩ => by cases heq; rfl⟩
    · next helement => exact iff_of_false (fun heq => nomatch heq) fun ⟨hp, heq⟩ => by cases heq; exact helement hp

/-! ## Parents -/

/-- **Parents are met up to the first that is no element.** -/
theorem met_parent (h : d.Nested) (i : Nat) : Met d .parent [i] ((d.ancestors i).takeWhile d.isElement) := by
  induction i using Nat.strongRecOn with
  | ind i ih =>
    cases hp : d.parent? i with
    | none =>
      rw [Document.ancestors_of_parent?_none hp]
      exact .done (walk_parent_nil h hp)
    | some p =>
      have hstep := walk_parent h hp
      rw [Document.ancestors_of_parent? h hp]
      split at hstep
      · next helement =>
        rw [List.takeWhile_cons_of_pos helement]
        have hmet := Met.step (hstep ▸ List.cons_ne_nil p []) (hstep ▸ ih p (Document.parent?_lt h hp))
        rwa [hstep] at hmet
      · next helement =>
        rw [List.takeWhile_cons_of_neg helement]
        exact .done hstep

/-- The node at which following parents ends. -/
def lastMet (n : Nat) (met : List Nat) : Nat := met.getLastD n

theorem lastMet_cons (n p : Nat) (met : List Nat) : lastMet n (p :: met) = lastMet p met := List.getLastD_cons ..

/-- The elements around the node that a node stands right inside. -/
def beyond (d : Document) (n : Nat) : List Nat := (d.parent? n).toList.flatMap fun p => walk d .parents [p]

theorem walk_parents_none (h : d.Nested) (hp : d.parent? i = none) : walk d .parents [i] = [] := by
  rw [walk_singleton h, Relation.targets, Document.ancestors_of_parent?_none hp]
  rfl

theorem walk_parents_some (h : d.Nested) (hp : d.parent? i = some p) :
    walk d .parents [i] = if d.isElement p then p :: walk d .parents [p] else walk d .parents [p] := by
  rw [walk_singleton h, walk_singleton h, Relation.targets, Relation.targets, Document.ancestors_of_parent? h hp,
    List.filter_cons]

/-- **The elements around a node are the parents that are met, and those around the node where they end.** -/
theorem walk_parents (h : d.Nested) (i : Nat) :
    let met := (d.ancestors i).takeWhile d.isElement
    walk d .parents [i] = met ++ beyond d (lastMet i met) := by
  induction i using Nat.strongRecOn with
  | ind i ih =>
    dsimp only
    cases hp : d.parent? i with
    | none =>
      rw [walk_parents_none h hp, Document.ancestors_of_parent?_none hp]
      simp [lastMet, beyond, hp]
    | some p =>
      rw [walk_parents_some h hp, Document.ancestors_of_parent? h hp]
      split
      · next helement =>
        rw [List.takeWhile_cons_of_pos helement, lastMet_cons, List.cons_append]
        exact congrArg (p :: ·) (ih p (Document.parent?_lt h hp))
      · next helement =>
        rw [List.takeWhile_cons_of_neg helement]
        simp [lastMet, beyond, hp]

/-- Where no ancestor but the document is no element, the elements around a node are the parents that are met. -/
theorem walk_parents_eq_takeWhile (h : d.Nested) : ∀ i, (∀ q ∈ d.ancestors i, d.isElement q = true ∨ q = 0) →
    walk d .parents [i] = (d.ancestors i).takeWhile d.isElement := by
  intro i
  induction i using Nat.strongRecOn with
  | ind i ih =>
    intro hall
    cases hp : d.parent? i with
    | none =>
      rw [walk_parents_none h hp, Document.ancestors_of_parent?_none hp]
      rfl
    | some p =>
      have hrest : walk d .parents [p] = (d.ancestors p).takeWhile d.isElement := by
        refine ih p (Document.parent?_lt h hp) fun q hq => hall q ?_
        rw [Document.ancestors_of_parent? h hp]
        exact List.mem_cons_of_mem p hq
      rw [walk_parents_some h hp, Document.ancestors_of_parent? h hp]
      split
      · next helement => rw [List.takeWhile_cons_of_pos helement, hrest]
      · next helement =>
        have hzero : p = 0 := (hall p (by rw [Document.ancestors_of_parent? h hp]; exact List.mem_cons_self)).resolve_left
          helement
        rw [List.takeWhile_cons_of_neg helement, walk_parents_none h (hzero ▸ Document.parent?_zero h)]

/-! ## Documents that are parsed and pruned -/

open Extract (Page)

/-- **The ways through a document fit together**, in whatever chains leave of a parsed document.  The siblings on one
side of a node are what one meets by stepping from sibling to sibling, and its siblings are those on both sides; the
elements around it are what one meets by stepping from parent to parent, with those around the node at which the steps
end because it is no element; children and parents are each other's; and from several nodes one walks from each of them
in order. -/
theorem navigation_consistent (body : List UInt8) : ∃ parsed, Page.parse body .html = .ok (.html parsed) ∧
    ∀ runs : List (Chain × List Nat),
      let d := prune parsed runs
      (∀ n, Met d .next [n] (walk d .nextAll [n]) ∧ Met d .prev [n] (walk d .prevAll [n]) ∧
        ∃ met, Met d .parent [n] met ∧ walk d .parents [n] = met ++ beyond d (lastMet n met) ∧
          ((∀ q ∈ d.ancestors n, d.isElement q = true ∨ q = 0) → walk d .parents [n] = met)) ∧
      (∀ n, walk d .siblings [n] = (walk d .prevAll [n]).reverse ++ walk d .nextAll [n] ∧
        (walk d .siblings [n]).Pairwise (· < ·) ∧
        ∀ j, j ∈ walk d .siblings [n] ↔
          ∃ p, d.parent? n = some p ∧ d.parent? j = some p ∧ d.isElement j = true ∧ j ≠ n) ∧
      (∀ n p, (n ∈ walk d .children [p] ↔ d.isElement n = true ∧ d.parent? n = some p) ∧
        (d.isElement n = true → d.isElement p = true → (n ∈ walk d .children [p] ↔ walk d .parent [n] = [p]))) ∧
      ∀ r nodes, walk d r nodes = (nodes.flatMap fun i => walk d r [i]).eraseDups := by
  obtain ⟨parsed, hparse, hparsed⟩ := Extract.parse_nested body
  refine ⟨parsed, hparse, fun runs => ?_⟩
  have h := (prunes_prune runs hparsed).1
  refine ⟨fun n => ⟨met_next h n, met_prev h n, _, met_parent h n, walk_parents h n, walk_parents_eq_takeWhile h n⟩,
    fun n => ⟨walk_siblings h n, siblings_sorted h n, fun j => mem_siblings h⟩,
    fun n p => ⟨mem_walk_children h, fun hn hp => ?_⟩, walk_flatMap h⟩
  rw [mem_walk_children h, walk_parent_eq h, and_iff_right hn, and_iff_right hp]

/-- A template in the head: its parents are met one after the other, and it is a child of its parent. -/
theorem navigation_consistent_template : ∃ d, Page.parse (Text.Utf8.ofString "<template><link>") .html = .ok (.html d) ∧
    Met d .parent [3] (walk d .parents [3]) ∧ (3 ∈ walk d .children [2] ↔ walk d .parent [3] = [2]) := by
  obtain ⟨d, hparse, h⟩ := navigation_consistent (Text.Utf8.ofString "<template><link>")
  obtain ⟨hways, -, hchildren, -⟩ := h []
  cases hparse
  obtain ⟨-, -, met, hmet, -, hparents⟩ := hways 3
  refine ⟨_, rfl, ?_, (hchildren 3 2).2 (by decide +kernel) (by decide +kernel)⟩
  have heq := hparents (by decide +kernel)
  exact heq ▸ hmet

/-- **Single steps to the parent end at what is no element.**  What stands in a template has elements around it, but no
parent that is met, for the content of the template is no element; and the root element is a child of the document,
which is no element either. -/
theorem parents_beyond_template : ∃ d, Page.parse (Text.Utf8.ofString "<template><link>") .html = .ok (.html d) ∧
    d.isElement 5 = true ∧ walk d .parent [5] = [] ∧ walk d .parents [5] = [3, 2, 1] ∧
      ¬ Met d .parent [5] (walk d .parents [5]) ∧
      d.isElement 1 = true ∧ ¬ (1 ∈ walk d .children [0] ↔ walk d .parent [1] = [0]) := by
  refine ⟨_, rfl, by decide +kernel, ?parent, ?parents, not_met ?parent (?parents ▸ List.cons_ne_nil _ _),
    by decide +kernel, by decide +kernel⟩
  case parent => decide +kernel
  case parents => decide +kernel

end Harvest.Css
