import Harvest.Proofs.Markup.Ancestor
/-!
# Whole subtrees taken away

Removing nodes one after the other takes their subtrees away all at once: what is left is what neither is one of the
nodes nor has one of them for an ancestor, and it stays as it was (`lopped_removeAll`).  So it does not matter that
some of the nodes stand inside others, or have been removed before.
-/
namespace Harvest.Markup.Document

variable {d d' d'' : Document} {i j p : Nat} {roots roots' : Nat → Prop}

/-! ## Removing several nodes -/

theorem Nested.remove (h : d.Nested) (i : Nat) : (d.remove i).Nested :=
  ⟨h.toWellFormed.remove i, h.parent_some, h.parent_none⟩

theorem Nested.removeAll (h : d.Nested) : ∀ is : List Nat, (is.foldl Document.remove d).Nested := by
  intro is
  induction is generalizing d with
  | nil => exact h
  | cons i is ih => exact ih (h.remove i)

theorem parent?_remove (h : d.WellFormed) (i j : Nat) :
    (d.remove i).parent? j = if j = i then none else d.parent? j := by
  have hentry : (d.remove i).entry j = d.entry j := rfl
  by_cases hj : j < d.size
  · unfold parent?
    rw [isCut_remove h hj, hentry]
    by_cases hij : j = i
    · simp [hij]
    · simp [hij, Ne.symm hij]
  · have hnone : (d.entry j).parent = none := by rw [entry_of_size_le (Nat.le_of_not_lt hj)]; rfl
    unfold parent?
    rw [hentry, hnone]
    simp

theorem parent?_removeAll (h : d.WellFormed) (j : Nat) : ∀ is : List Nat,
    (is.foldl Document.remove d).parent? j = if j ∈ is then none else d.parent? j := by
  intro is
  induction is generalizing d with
  | nil => simp
  | cons i is ih =>
    rw [List.foldl_cons, ih (h.remove i), parent?_remove h]
    by_cases hj : j ∈ is <;> by_cases hji : j = i <;> simp [hj, hji]

theorem level_remove (h : d.WellFormed) (j : Nat) {stop : Nat} (hstop : stop ≤ d.size) : ∀ fuel i,
    (d.remove j).level stop fuel i = (d.level stop fuel i).filter (· ≠ j)
  | 0, _ => rfl
  | fuel + 1, i => by
    unfold level
    have hrest : (d.remove j).level stop fuel ((d.remove j).stop i) = (d.level stop fuel (d.stop i)).filter (· ≠ j) :=
      level_remove h j hstop fuel (d.stop i)
    split
    · rename_i hi
      rw [hrest, isCut_remove h (Nat.lt_of_lt_of_le hi hstop)]
      by_cases hij : j = i
      · subst hij
        cases d.isCut j <;> simp
      · cases hc : d.isCut i <;> simp [hij, Ne.symm hij]
    · rfl

theorem children_removeAll (h : d.WellFormed) (i : Nat) : ∀ is : List Nat,
    (is.foldl Document.remove d).children i = (d.children i).filter (· ∉ is) := by
  intro is
  induction is generalizing d with
  | nil => exact (List.filter_eq_self.2 fun c _ => decide_eq_true List.not_mem_nil).symm
  | cons j is ih =>
    have hj : (d.remove j).children i = (d.children i).filter (· ≠ j) := level_remove h j (h.stop_le i) _ _
    rw [List.foldl_cons, ih (h.remove j), hj, List.filter_filter]
    refine List.filter_congr fun c _ => ?_
    simp [Bool.and_comm]

/-! ## What is left -/

/-- The second document is the first one without the subtrees of the nodes in `roots`: a node is left exactly if
neither it nor an ancestor of it is one of them, and what is left keeps its parent, the order of those of its children
that are left, and what it is. -/
structure Lopped (roots : Nat → Prop) (d d' : Document) : Prop where
  reachable : ∀ i, d'.Reachable i ↔ d.Reachable i ∧ ∀ j, j = i ∨ j ∈ d.ancestors i → ¬ roots j
  parent : ∀ i, d'.Reachable i → d'.parent? i = d.parent? i
  children : ∀ i, d'.Reachable i → d'.children i = (d.children i).filter fun c => d'.Reachable c
  data : ∀ i, d'.data i = d.data i

/-- The second document is the first one with whole subtrees deleted, and nothing else is changed. -/
def Prunes (d d' : Document) : Prop := ∃ roots, Lopped roots d d'

/-- What is left can be told at each node from the node above it. -/
theorem forall_ancestor_iff (h : d.Nested) (hp : d.parent? i = some p) :
    (∀ j, j = i ∨ j ∈ d.ancestors i → ¬ roots j) ↔ ¬ roots i ∧ ∀ j, j = p ∨ j ∈ d.ancestors p → ¬ roots j := by
  rw [ancestors_of_parent? h hp]
  simp only [List.mem_cons, forall_eq_or_imp]

/-- **Removing nodes takes their subtrees away**, and nothing else. -/
theorem lopped_removeAll (h : d.Nested) {is : List Nat} (h0 : 0 ∉ is) :
    Lopped (· ∈ is) d (is.foldl Document.remove d) := by
  have hnested := h.removeAll is
  have hparent := fun i => parent?_removeAll h.toWellFormed i is
  have hreach : ∀ i, (is.foldl Document.remove d).Reachable i ↔
      d.Reachable i ∧ ∀ j, j = i ∨ j ∈ d.ancestors i → j ∉ is := by
    intro i
    induction i using Nat.strongRecOn with
    | ind i ih =>
      rcases Nat.eq_zero_or_pos i with rfl | hpos
      · refine iff_of_true (reachable_zero _) ⟨reachable_zero d, fun j hj => ?_⟩
        rw [ancestors_of_parent?_none (parent?_zero h)] at hj
        rcases hj with rfl | hj
        · exact h0
        · cases hj
      · have hne : i ≠ 0 := Nat.ne_of_gt hpos
        rw [reachable_iff_parent? hnested, reachable_iff_parent? h, hparent, or_iff_right hne, or_iff_right hne]
        cases hp : d.parent? i with
        | none => simp
        | some p =>
          rw [forall_ancestor_iff h hp]
          by_cases hi : i ∈ is
          · simp [hi]
          · simp [hi, ih p (parent?_lt h hp)]
  have hkept : ∀ i, (is.foldl Document.remove d).Reachable i → i ∉ is := fun i hi => ((hreach i).1 hi).2 i (.inl rfl)
  refine ⟨hreach, fun i hi => ?_, fun i hi => ?_, fun i => ?_⟩
  · rw [hparent, if_neg (hkept i hi)]
  · rw [children_removeAll h.toWellFormed]
    refine List.filter_congr fun c hc => ?_
    have hc := (mem_children_iff_parent? h).1 hc
    rw [decide_eq_decide, reachable_iff_parent? hnested, hparent, hc]
    -- A child of the document is not the document, and a child of what is left is left unless it is removed.
    have hne : c ≠ 0 := by
      rintro rfl
      rw [parent?_zero h] at hc
      cases hc
    by_cases hcis : c ∈ is <;> simp [hcis, hne, hi]
  · unfold data entry
    rw [nodes_removeAll]

theorem Reachable.child (h : d.Nested) (hi : d.Reachable i) (hj : j ∈ d.children i) : d.Reachable j :=
  (reachable_iff_parent? h).2 (.inr ⟨i, (mem_children_iff_parent? h).1 hj, hi⟩)

theorem lopped_refl (h : d.Nested) : Lopped (fun _ => False) d d :=
  ⟨fun _ => (and_iff_left fun _ _ h => h).symm, fun _ _ => rfl,
    fun _ hi => (List.filter_eq_self.2 fun _ hc => decide_eq_true (hi.child h hc)).symm, fun _ => rfl⟩

theorem Lopped.ancestors (hl : Lopped roots d d') (h : d.Nested) (h' : d'.Nested) : ∀ i, d'.Reachable i →
    d'.ancestors i = d.ancestors i := by
  intro i
  induction i using Nat.strongRecOn with
  | ind i ih =>
    intro hi
    have hp := hl.parent i hi
    cases hq : d'.parent? i with
    | none => rw [ancestors_of_parent?_none hq, ancestors_of_parent?_none (hp ▸ hq)]
    | some p =>
      rw [ancestors_of_parent? h' hq, ancestors_of_parent? h (hp ▸ hq), ih p (parent?_lt h' hq) (hi.parent h' hq)]

/-- **Taking subtrees away twice** is taking away those of both times. -/
theorem Lopped.trans (hl : Lopped roots d d') (hl' : Lopped roots' d' d'') (h : d.Nested) (h' : d'.Nested) :
    Lopped (fun j => roots j ∨ roots' j) d d'' := by
  have hleft : ∀ i, d''.Reachable i → d'.Reachable i := fun i hi => ((hl'.reachable i).1 hi).1
  refine ⟨fun i => ?_, fun i hi => ?_, fun i hi => ?_, fun i => (hl'.data i).trans (hl.data i)⟩
  · have hsplit : (∀ j, j = i ∨ j ∈ d.ancestors i → ¬ (roots j ∨ roots' j)) ↔
        (∀ j, j = i ∨ j ∈ d.ancestors i → ¬ roots j) ∧ ∀ j, j = i ∨ j ∈ d.ancestors i → ¬ roots' j := by
      simp only [not_or, imp_and, forall_and]
    rw [hsplit, ← and_assoc, ← hl.reachable i, hl'.reachable i]
    exact and_congr_right fun hi => by rw [hl.ancestors h h' i hi]
  · exact (hl'.parent i hi).trans (hl.parent i (hleft i hi))
  · rw [hl'.children i hi, hl.children i (hleft i hi), List.filter_filter]
    refine List.filter_congr fun c _ => ?_
    by_cases hc : d''.Reachable c
    · simp [hc, hleft c hc]
    · simp [hc]

theorem prunes_refl (h : d.Nested) : d.Prunes d := ⟨_, lopped_refl h⟩

theorem Prunes.trans (hp : d.Prunes d') (hp' : d'.Prunes d'') (h : d.Nested) (h' : d'.Nested) : d.Prunes d'' := by
  obtain ⟨roots, hl⟩ := hp
  obtain ⟨roots', hl'⟩ := hp'
  exact ⟨_, hl.trans hl' h h'⟩

end Harvest.Markup.Document
