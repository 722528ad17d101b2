import Harvest.Proofs.Markup.Ancestor
/-!
# Siblings in document order

The children of a node stand in document order (`children_sorted`), and its ancestors from the innermost to the
outermost (`ancestors_sorted`).  Siblings have one family (`family_eq`), so what stands behind the first of those behind
a node is the rest of them (`filter_behind`), and a family without one of its nodes is what stands before it and what
stands behind it (`filter_around`).
-/
namespace Harvest.Markup.Document

/-! ## Lists in order -/

section Sorted

variable {α : Type} {R : α → α → Prop} [DecidableRel R]

/-- Of those behind an item that are chosen from a list in order, the ones behind the first are the rest. -/
theorem filter_behind (htrans : ∀ {x y z}, R x y → R y z → R x z) (hirrefl : ∀ x, ¬ R x x) {items rest : List α}
    (hitems : items.Pairwise R) {p : α → Bool} {i j : α} (h : (items.filter (R i ·)).filter p = j :: rest) :
    (items.filter (R j ·)).filter p = rest := by
  have hchosen : ((items.filter (R i ·)).filter p).Pairwise R := (hitems.filter _).filter _
  have hij : R i j := by
    have hj : j ∈ (items.filter (R i ·)).filter p := h ▸ List.mem_cons_self
    simpa using (List.mem_filter.1 (List.mem_filter.1 hj).1).2
  rw [h] at hchosen
  have hrest : ∀ x ∈ rest, R j x := (List.pairwise_cons.1 hchosen).1
  calc
    (items.filter (R j ·)).filter p = ((items.filter (R i ·)).filter p).filter (R j ·) := by
      rw [List.filter_filter, List.filter_filter, List.filter_filter]
      refine List.filter_congr fun x _ => ?_
      by_cases hjx : R j x
      · simp [hjx, htrans hij hjx]
      · simp [hjx]
    _ = (j :: rest).filter (R j ·) := by rw [h]
    _ = rest := by
      rw [List.filter_cons_of_neg (by simpa using hirrefl j)]
      exact List.filter_eq_self.2 fun x hx => decide_eq_true (hrest x hx)

/-- A list in order without one of its items is what stands before the item with what stands behind it. -/
theorem filter_around (i : Nat) : ∀ {items : List Nat}, items.Pairwise (· < ·) →
    items.filter (· != i) = items.filter (· < i) ++ items.filter (i < ·)
  | [], _ => rfl
  | x :: items, h => by
    obtain ⟨hx, hitems⟩ := List.pairwise_cons.1 h
    have hrest := filter_around i hitems
    rcases Nat.lt_trichotomy x i with hlt | rfl | hgt
    · rw [List.filter_cons_of_pos (by simpa using Nat.ne_of_lt hlt), List.filter_cons_of_pos (by simpa using hlt),
        List.filter_cons_of_neg (by simpa using Nat.le_of_lt hlt), hrest, List.cons_append]
    · rw [List.filter_cons_of_neg (by simp), List.filter_cons_of_neg (by simp), List.filter_cons_of_neg (by simp), hrest]
    · -- Nothing stands before the item any more.
      have hnone : items.filter (· < i) = [] :=
        List.filter_eq_nil_iff.2 fun y hy => by simpa using Nat.le_of_lt (Nat.lt_trans hgt (hx y hy))
      rw [List.filter_cons_of_pos (by simpa using Nat.ne_of_gt hgt),
        List.filter_cons_of_neg (by simpa using Nat.le_of_lt hgt), List.filter_cons_of_pos (by simpa using hgt), hrest,
        hnone, List.nil_append, List.nil_append]

end Sorted

/-! ## Children, siblings and ancestors -/

variable {d : Document} {i j p : Nat}

theorem level_sorted (h : d.WellFormed) {stop : Nat} (hstop : stop ≤ d.size) (fuel i : Nat) :
    (d.level stop fuel i).Pairwise (· < ·) ∧ ∀ j ∈ d.level stop fuel i, i ≤ j := by
  induction fuel generalizing i with
  | zero => exact ⟨.nil, fun j hj => absurd hj List.not_mem_nil⟩
  | succ fuel ih =>
    unfold level
    split
    · next hi =>
      have hlt := h.lt_stop i (Nat.lt_of_lt_of_le hi hstop)
      obtain ⟨hsorted, hle⟩ := ih (d.stop i)
      have hbehind : ∀ j ∈ d.level stop fuel (d.stop i), i < j := fun j hj => Nat.lt_of_lt_of_le hlt (hle j hj)
      cases d.isCut i with
      | true => exact ⟨hsorted, fun j hj => Nat.le_of_lt (hbehind j hj)⟩
      | false =>
        exact ⟨.cons hbehind hsorted, List.forall_mem_cons.2 ⟨Nat.le_refl i, fun j hj => Nat.le_of_lt (hbehind j hj)⟩⟩
    · exact ⟨.nil, fun j hj => absurd hj List.not_mem_nil⟩

/-- **The children of a node stand in document order.** -/
theorem children_sorted (h : d.WellFormed) (i : Nat) : (d.children i).Pairwise (· < ·) :=
  (level_sorted h (h.stop_le i) _ _).1

theorem family_of_parent? (hp : d.parent? i = some p) : d.family i = d.children p := by
  unfold family
  rw [hp]
  rfl

theorem family_of_parent?_none (hp : d.parent? i = none) : d.family i = [] := by
  unfold family
  rw [hp]
  rfl

theorem family_sorted (h : d.WellFormed) (i : Nat) : (d.family i).Pairwise (· < ·) := by
  cases hp : d.parent? i with
  | none =>
    rw [family_of_parent?_none hp]
    exact .nil
  | some p =>
    rw [family_of_parent? hp]
    exact children_sorted h p

/-- **Siblings have one family.** -/
theorem family_eq (h : d.Nested) (hj : j ∈ d.family i) : d.family j = d.family i := by
  cases hp : d.parent? i with
  | none =>
    rw [family_of_parent?_none hp] at hj
    cases hj
  | some p =>
    rw [family_of_parent? hp] at hj ⊢
    exact family_of_parent? ((mem_children_iff_parent? h).1 hj)

/-- **The ancestors of a node stand from the innermost to the outermost.** -/
theorem ancestors_sorted (h : d.Nested) : ∀ i, (∀ j ∈ d.ancestors i, j < i) ∧ (d.ancestors i).Pairwise (· > ·) := by
  intro i
  induction i using Nat.strongRecOn with
  | ind i ih =>
    cases hp : d.parent? i with
    | none =>
      rw [ancestors_of_parent?_none hp]
      exact ⟨nofun, .nil⟩
    | some p =>
      have hpi := parent?_lt h hp
      obtain ⟨hlt, hsorted⟩ := ih p hpi
      rw [ancestors_of_parent? h hp]
      exact ⟨List.forall_mem_cons.2 ⟨hpi, fun j hj => Nat.lt_trans (hlt j hj) hpi⟩, .cons hlt hsorted⟩

end Harvest.Markup.Document
