import Harvest.Proofs.Markup.Begun
import Harvest.Markup.Document
/-!
# Children and descendants

The nodes below a node are those up to where it stops, and they stop no later than it does (`WellFormed`).  Removing
nodes keeps that, so what is right below a node and what is below it can be told from where nodes stop and which of
them are cut.
-/
namespace Harvest.Markup

/-! ## Entries -/

/-- Each entry of a list that starts with number `start` stops behind itself, inside the list, and not before those
below it. -/
def Laid (start : Nat) (es : List Entry) : Prop :=
  ∀ k e, es[k]? = some e → start + k < e.stop ∧ e.stop ≤ start + es.length ∧
    ∀ m f, k < m → start + m < e.stop → es[m]? = some f → f.stop ≤ e.stop

theorem Laid.nil (start : Nat) : Laid start [] := fun _ _ h => nomatch h

theorem Laid.cons {start : Nat} {below : List Entry} (h : Laid (start + 1) below) (data : Data)
    (parent : Option Nat) : Laid start (⟨data, parent, start + 1 + below.length⟩ :: below) := by
  intro k e he
  rw [List.length_cons]
  cases k with
  | zero =>
    cases he
    have hstop : start + 1 + below.length = start + (below.length + 1) := by omega
    refine ⟨by simp only; omega, Nat.le_of_eq hstop, fun m f hm _ hf => ?_⟩
    obtain ⟨n, rfl⟩ := Nat.exists_eq_add_one_of_ne_zero (Nat.ne_of_gt hm)
    exact (h n f hf).2.1
  | succ k =>
    obtain ⟨hlt, hle, hinner⟩ := h k e he
    refine ⟨by omega, by omega, fun m f hm hs hf => ?_⟩
    obtain ⟨n, rfl⟩ := Nat.exists_eq_add_one_of_ne_zero (Nat.ne_of_gt (Nat.zero_lt_of_lt hm))
    exact hinner n f (by omega) (by omega) hf

theorem Laid.append {start : Nat} {es fs : List Entry} (he : Laid start es) (hf : Laid (start + es.length) fs) :
    Laid start (es ++ fs) := by
  intro k e hk
  rw [List.length_append]
  by_cases hlt : k < es.length
  · rw [List.getElem?_append_left hlt] at hk
    obtain ⟨hlt', hle, hinner⟩ := he k e hk
    refine ⟨hlt', by omega, fun m f hm hs hf => ?_⟩
    rw [List.getElem?_append_left (by omega)] at hf
    exact hinner m f hm hs hf
  · rw [List.getElem?_append_right (by omega)] at hk
    obtain ⟨hlt', hle, hinner⟩ := hf _ e hk
    refine ⟨by omega, by omega, fun m f hm hs hf => ?_⟩
    rw [List.getElem?_append_right (by omega)] at hf
    exact hinner _ f (by omega) (by omega) hf

mutual
theorem Tree.laid_entries (parent : Option Nat) (start : Nat) : ∀ t : Tree, Laid start (t.entries parent start)
  | .node data kids => by
    unfold Tree.entries
    exact (Tree.laid_entriesAll start (start + 1) kids).cons data parent

theorem Tree.laid_entriesAll (parent start : Nat) : ∀ ts : List Tree, Laid start (Tree.entriesAll parent start ts)
  | [] => by
    unfold Tree.entriesAll
    exact .nil start
  | t :: ts => by
    unfold Tree.entriesAll
    exact (Tree.laid_entries (some parent) start t).append (Tree.laid_entriesAll parent _ ts)
end

/-- The entries of one of several trees, between those of the trees around it. -/
theorem Tree.entriesAll_split {t : Tree} (parent : Nat) : ∀ {ts : List Tree} (start : Nat), t ∈ ts →
    ∃ before behind, Laid start before ∧
      Tree.entriesAll parent start ts = before ++ t.entries (some parent) (start + before.length) ++ behind
  | [], _, h => nomatch h
  | u :: us, start, h => by
    unfold Tree.entriesAll
    rcases List.mem_cons.1 h with rfl | h
    · exact ⟨[], _, .nil start, rfl⟩
    · obtain ⟨before, behind, hlaid, heq⟩ :=
        Tree.entriesAll_split parent (start + (u.entries (some parent) start).length) h
      refine ⟨u.entries (some parent) start ++ before, behind, (u.laid_entries _ start).append hlaid, ?_⟩
      simp only [heq, List.length_append, List.append_assoc, Nat.add_assoc]

theorem Tree.entries_head (t : Tree) (parent : Option Nat) (start : Nat) :
    ∃ e below, t.entries parent start = e :: below ∧ e.data = t.data := by
  cases t with
  | node data kids =>
    unfold Tree.entries
    exact ⟨_, _, rfl, rfl⟩

namespace Document

/-! ## Where nodes stop -/

/-- The document itself is no element; every node stops inside the document, and what is below it inside the node. -/
structure WellFormed (d : Document) : Prop where
  top : d.isElement 0 = false
  cut_size : d.cut.size = d.size
  lt_stop : ∀ i, i < d.size → i < d.stop i
  stop_le : ∀ i, d.stop i ≤ d.size
  inner : ∀ i j, i < j → j < d.stop i → d.stop j ≤ d.stop i

variable {d : Document} {r : Nat}

theorem stop_of_size_le {i : Nat} (h : d.size ≤ i) : d.stop i = 0 := by
  unfold stop entry
  rw [Array.getD_eq_getD_getElem?, Array.getElem?_eq_none h]
  rfl

theorem entry_ofTree {t : Tree} {i : Nat} {e : Entry} (h : (t.entries none 0)[i]? = some e) :
    (ofTree t).entry i = e := by
  unfold entry ofTree
  simp [Array.getD_eq_getD_getElem?, h]

theorem size_ofTree (t : Tree) : (ofTree t).size = (t.entries none 0).length := List.size_toArray

theorem getElem?_ofTree {t : Tree} {i : Nat} (h : i < (ofTree t).size) :
    (t.entries none 0)[i]? = some ((ofTree t).entry i) := by
  rw [size_ofTree] at h
  rw [entry_ofTree (List.getElem?_eq_getElem h)]
  exact List.getElem?_eq_getElem h

theorem wellFormed_ofTree {t : Tree} (htop : t.data.isElement = false) : (ofTree t).WellFormed := by
  have hlaid := t.laid_entries none 0
  refine ⟨?_, Array.size_replicate, fun i hi => ?_, fun i => ?_, fun i j hij hj => ?_⟩
  · obtain ⟨e, below, hentries, hdata⟩ := t.entries_head none 0
    rw [isElement, data, entry_ofTree (by rw [hentries]; rfl), hdata]
    exact htop
  · have h := (hlaid i _ (getElem?_ofTree hi)).1
    rw [Nat.zero_add] at h
    exact h
  · by_cases hi : i < (ofTree t).size
    · have h := (hlaid i _ (getElem?_ofTree hi)).2.1
      rw [Nat.zero_add, ← size_ofTree] at h
      exact h
    · rw [stop_of_size_le (Nat.le_of_not_lt hi)]
      exact Nat.zero_le _
  · by_cases hi : i < (ofTree t).size
    · by_cases hj' : j < (ofTree t).size
      · refine (hlaid i _ (getElem?_ofTree hi)).2.2 j _ hij ?_ (getElem?_ofTree hj')
        rw [Nat.zero_add]
        exact hj
      · rw [stop_of_size_le (Nat.le_of_not_lt hj')]
        exact Nat.zero_le _
    · rw [stop_of_size_le (Nat.le_of_not_lt hi)] at hj
      exact absurd hj (Nat.not_lt_zero j)

theorem isCut_ofTree (t : Tree) (i : Nat) : (ofTree t).isCut i = false := by
  unfold isCut ofTree
  rw [Array.getD_eq_getD_getElem?, Array.getElem?_replicate]
  split <;> rfl

/-! ## What is below a node -/

/-- A number behind a node is below nothing exactly if it is behind where the node stops and below nothing from there
on: what is below the node stops no later than it does. -/
theorem skip_node (h : d.WellFormed) {i : Nat} (hi : i < d.size) :
    (i < r ∧ ∀ k, i ≤ k → k < r → d.stop k ≤ r) ↔ d.stop i ≤ r ∧ ∀ k, d.stop i ≤ k → k < r → d.stop k ≤ r := by
  have hlt := h.lt_stop i hi
  constructor
  · rintro ⟨hir, hk⟩
    exact ⟨hk i (Nat.le_refl i) hir, fun k hik hkr => hk k (by omega) hkr⟩
  · rintro ⟨hir, hk⟩
    refine ⟨by omega, fun k hik hkr => ?_⟩
    by_cases hki : d.stop i ≤ k
    · exact hk k hki hkr
    · rcases Nat.eq_or_lt_of_le hik with rfl | hik
      · exact hir
      · exact Nat.le_trans (h.inner i k hik (by omega)) hir

/-- Nothing that is cut holds the number `r`, from `i` on. -/
def Unhidden (d : Document) (r i : Nat) : Prop := ∀ k, i ≤ k → k < r → r < d.stop k → d.isCut k = false

theorem skip_cut (h : d.WellFormed) {i : Nat} (hi : i < d.size) (hc : d.isCut i = true) :
    i < r ∧ Unhidden d r i ↔ d.stop i ≤ r ∧ Unhidden d r (d.stop i) := by
  have hlt := h.lt_stop i hi
  constructor
  · rintro ⟨hir, hk⟩
    refine ⟨Nat.le_of_not_lt fun hr => ?_, fun k hik => hk k (by omega)⟩
    have := hk i (Nat.le_refl i) hir hr
    rw [hc] at this
    cases this
  · rintro ⟨hir, hk⟩
    refine ⟨by omega, fun k hik hkr hr => ?_⟩
    by_cases hki : d.stop i ≤ k
    · exact hk k hki hkr hr
    · rcases Nat.eq_or_lt_of_le hik with rfl | hik
      · exact absurd hir (Nat.not_le_of_lt hr)
      · exact absurd (Nat.le_trans (h.inner i k hik (by omega)) hir) (Nat.not_le_of_lt hr)

theorem skip_uncut {i : Nat} (hc : d.isCut i = false) : Unhidden d r i ↔ Unhidden d r (i + 1) := by
  refine ⟨fun hk k hik => hk k (by omega), fun hk k hik hkr hr => ?_⟩
  rcases Nat.eq_or_lt_of_le hik with rfl | hik
  · exact hc
  · exact hk k hik hkr hr

/-- The number of the node at the head, or one behind it. -/
theorem head_or_behind {i stop : Nat} (hi : i < stop) {P : Prop} (hP : r = i → P) :
    r < stop ∧ d.isCut r = false ∧ i ≤ r ∧ P ↔
      (r = i ∧ d.isCut i = false) ∨ (r < stop ∧ d.isCut r = false ∧ i < r ∧ P) := by
  constructor
  · rintro ⟨hr, hcut, hir, hp⟩
    rcases Nat.eq_or_lt_of_le hir with rfl | hir
    · exact .inl ⟨rfl, hcut⟩
    · exact .inr ⟨hr, hcut, hir, hp⟩
  · rintro (⟨rfl, hcut⟩ | ⟨hr, hcut, hir, hp⟩)
    · exact ⟨hi, hcut, Nat.le_refl _, hP rfl⟩
    · exact ⟨hr, hcut, Nat.le_of_lt hir, hp⟩

theorem mem_level (h : d.WellFormed) {stop : Nat} (hstop : stop ≤ d.size) : ∀ fuel i, stop - i ≤ fuel →
    (r ∈ d.level stop fuel i ↔
      r < stop ∧ d.isCut r = false ∧ i ≤ r ∧ ∀ k, i ≤ k → k < r → d.stop k ≤ r)
  | 0, i, hfuel => by
    unfold level
    exact iff_of_false List.not_mem_nil fun hr => by omega
  | fuel + 1, i, hfuel => by
    unfold level
    split
    · rename_i hi
      have hsize := Nat.lt_of_lt_of_le hi hstop
      have hlt := h.lt_stop i hsize
      rw [head_or_behind hi (fun hr k hik hki => absurd hki (by omega)), skip_node h hsize,
        ← mem_level h hstop fuel (d.stop i) (by omega)]
      cases hc : d.isCut i <;> simp
    · exact iff_of_false List.not_mem_nil fun hr => by omega

/-- **A child is below its parent and below nothing in between.** -/
theorem mem_children (h : d.WellFormed) {i : Nat} : r ∈ d.children i ↔
    r < d.stop i ∧ d.isCut r = false ∧ i < r ∧ ∀ k, i < k → k < r → d.stop k ≤ r :=
  mem_level h (h.stop_le i) _ _ (by omega)

theorem mem_visible (h : d.WellFormed) {stop : Nat} (hstop : stop ≤ d.size) : ∀ fuel i, stop - i ≤ fuel →
    (r ∈ d.visible stop fuel i ↔ r < stop ∧ d.isCut r = false ∧ i ≤ r ∧ Unhidden d r i)
  | 0, i, hfuel => by
    unfold visible
    exact iff_of_false List.not_mem_nil fun hr => by omega
  | fuel + 1, i, hfuel => by
    unfold visible
    split
    · rename_i hi
      have hsize := Nat.lt_of_lt_of_le hi hstop
      have hlt := h.lt_stop i hsize
      rw [head_or_behind hi (fun hr k hik hki => absurd hki (by omega))]
      cases hc : d.isCut i with
      | true =>
        rw [skip_cut h hsize hc, ← mem_visible h hstop fuel (d.stop i) (by omega)]
        simp
      | false =>
        rw [skip_uncut hc, if_neg Bool.false_ne_true, List.mem_cons, mem_visible h hstop fuel (i + 1) (by omega)]
        exact or_congr_left (and_iff_left rfl).symm
    · exact iff_of_false List.not_mem_nil fun hr => by omega

/-- **A descendant is below a node, and nothing in between is cut.** -/
theorem mem_descendants (h : d.WellFormed) {i : Nat} : r ∈ d.descendants i ↔
    r < d.stop i ∧ d.isCut r = false ∧ i < r ∧ Unhidden d r (i + 1) :=
  mem_visible h (h.stop_le i) _ _ (by omega)

theorem descendant_of_child (h : d.WellFormed) {i : Nat} (hr : r ∈ d.children i) : r ∈ d.descendants i := by
  obtain ⟨hstop, hcut, hir, hk⟩ := (mem_children h).1 hr
  exact (mem_descendants h).2 ⟨hstop, hcut, hir, fun k hik hkr hlt => absurd hlt (Nat.not_lt.2 (hk k hik hkr))⟩

theorem zero_of_descendant (h : d.WellFormed) {i : Nat} (hr : r ∈ d.children 0) (hi : r ∈ d.descendants i) : i = 0 := by
  obtain ⟨hstop, -, hir, -⟩ := (mem_descendants h).1 hi
  refine Nat.eq_zero_of_not_pos fun hpos => ?_
  exact Nat.not_le_of_lt hstop (((mem_children h).1 hr).2.2.2 i hpos hir)

theorem zero_not_mem_descendants (h : d.WellFormed) (i : Nat) : 0 ∉ d.descendants i := fun hi =>
  Nat.not_lt_zero i ((mem_descendants h).1 hi).2.2.1

/-! ## Removing nodes -/

theorem isCut_remove (h : d.WellFormed) {i j : Nat} (hj : j < d.size) :
    (d.remove i).isCut j = (decide (i = j) || d.isCut j) := by
  have hcut : j < d.cut.size := h.cut_size.symm ▸ hj
  unfold isCut remove
  simp only [Array.getD_eq_getD_getElem?, Array.getElem?_setIfInBounds]
  by_cases hij : i = j <;> simp [hij, hcut]

theorem WellFormed.remove (h : d.WellFormed) (i : Nat) : (d.remove i).WellFormed :=
  ⟨h.top, (Array.size_setIfInBounds ..).trans h.cut_size, h.lt_stop, h.stop_le, h.inner⟩

theorem mem_children_remove (h : d.WellFormed) {i j : Nat} :
    r ∈ (d.remove j).children i ↔ r ∈ d.children i ∧ r ≠ j := by
  rw [mem_children (h.remove j), mem_children h]
  show (r < d.stop i ∧ (d.remove j).isCut r = false ∧ i < r ∧ ∀ k, i < k → k < r → d.stop k ≤ r) ↔ _
  constructor
  · rintro ⟨hr, hcut, hk⟩
    rw [isCut_remove h (Nat.lt_of_lt_of_le hr (h.stop_le i)), Bool.or_eq_false_iff, decide_eq_false_iff_not] at hcut
    exact ⟨⟨hr, hcut.2, hk⟩, Ne.symm hcut.1⟩
  · rintro ⟨⟨hr, hcut, hk⟩, hne⟩
    refine ⟨hr, ?_, hk⟩
    rw [isCut_remove h (Nat.lt_of_lt_of_le hr (h.stop_le i)), hcut, decide_eq_false (Ne.symm hne)]
    rfl

theorem WellFormed.removeAll (h : d.WellFormed) : ∀ is : List Nat, (is.foldl Document.remove d).WellFormed := by
  intro is
  induction is generalizing d with
  | nil => exact h
  | cons i is ih => exact ih (h.remove i)

/-- The children of a node that are left are those that have not been removed. -/
theorem mem_children_removeAll (h : d.WellFormed) {i : Nat} : ∀ is : List Nat,
    (r ∈ (is.foldl Document.remove d).children i ↔ r ∈ d.children i ∧ r ∉ is) := by
  intro is
  induction is generalizing d with
  | nil => simp
  | cons j is ih => rw [List.foldl_cons, ih (h.remove j), mem_children_remove h, List.mem_cons, not_or, and_assoc]

theorem nodes_removeAll (d : Document) : ∀ is : List Nat, (is.foldl Document.remove d).nodes = d.nodes := by
  intro is
  induction is generalizing d with
  | nil => rfl
  | cons i is ih => exact ih (d.remove i)

/-! ## The root element -/

theorem rootElement?_eq_none : d.rootElement? = none ↔ ∀ i ∈ d.children 0, d.isElement i = false := by
  unfold rootElement?
  simp only [List.find?_eq_none, Bool.not_eq_true]

/-- **Removing nodes leaves no root element** exactly if all of them are among the nodes. -/
theorem rootElement?_removeAll (h : d.WellFormed) (is : List Nat) : (is.foldl Document.remove d).rootElement? = none ↔
    ∀ i ∈ d.children 0, d.isElement i = true → i ∈ is := by
  have helement : ∀ i, (is.foldl Document.remove d).isElement i = d.isElement i := by
    intro i
    unfold isElement data entry
    rw [nodes_removeAll]
  rw [rootElement?_eq_none]
  constructor
  · intro hnone i hi he
    refine Classical.byContradiction fun his => ?_
    have := hnone i ((mem_children_removeAll h is).2 ⟨hi, his⟩)
    rw [helement, he] at this
    cases this
  · intro hall i hi
    obtain ⟨hi, his⟩ := (mem_children_removeAll h is).1 hi
    rw [helement]
    exact Bool.eq_false_iff.2 fun he => his (hall i hi he)

/-- Each tree right below the top is a child of the document. -/
theorem child_ofTree {kid t : Tree} (htop : t.data.isElement = false) (h : kid ∈ t.kids) :
    ∃ i ∈ (ofTree t).children 0, (ofTree t).data i = kid.data := by
  cases t with
  | node top kids =>
    have hmem : kid ∈ kids := h
    obtain ⟨before, behind, hbefore, hsplit⟩ := Tree.entriesAll_split 0 1 hmem
    obtain ⟨e, below, hkid, hdata⟩ := kid.entries_head (some 0) (1 + before.length)
    rw [hkid, List.append_assoc] at hsplit
    have hentries : (Tree.node top kids).entries none 0 =
        ⟨top, none, 1 + (before ++ (e :: below ++ behind)).length⟩ :: (before ++ (e :: below ++ behind)) := by
      rw [Tree.entries, hsplit]
    have hentry : ((Tree.node top kids).entries none 0)[before.length + 1]? = some e := by
      rw [hentries, List.getElem?_cons_succ, List.getElem?_append_right (Nat.le_refl _), Nat.sub_self]
      rfl
    refine ⟨before.length + 1, (mem_children (wellFormed_ofTree htop)).2 ⟨?_, isCut_ofTree _ _, Nat.succ_pos _, ?_⟩, ?_⟩
    · have hstop : (ofTree (.node top kids)).stop 0 = 1 + (before ++ (e :: below ++ behind)).length := by
        rw [stop, entry_ofTree (by rw [hentries]; rfl)]
      rw [hstop, List.length_append, List.cons_append, List.length_cons]
      omega
    · intro k hpos hk
      obtain ⟨m, rfl⟩ := Nat.exists_eq_add_one_of_ne_zero (Nat.ne_of_gt hpos)
      have hm : m < before.length := Nat.lt_of_succ_lt_succ hk
      have hf : ((Tree.node top kids).entries none 0)[m + 1]? = some before[m] := by
        rw [hentries, List.getElem?_cons_succ, List.getElem?_append_left hm, List.getElem?_eq_getElem hm]
      rw [stop, entry_ofTree hf, Nat.add_comm]
      exact (hbefore m _ (List.getElem?_eq_getElem hm)).2.1
    · rw [data, entry_ofTree hentry, hdata]

/-- The document of a tree with a root element has one. -/
theorem rootElement?_ofTree {t : Tree} (h : t.IsRooted) : (ofTree t).rootElement? ≠ none := by
  obtain ⟨kid, hkid, helement⟩ := h.root
  obtain ⟨i, hi, hdata⟩ := child_ofTree h.top hkid
  intro hnone
  have := rootElement?_eq_none.1 hnone i hi
  rw [isElement, hdata, helement] at this
  cases this

end Document

end Harvest.Markup
