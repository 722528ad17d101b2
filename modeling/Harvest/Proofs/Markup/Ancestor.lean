import Harvest.Proofs.Markup.Document
/-!
# Parents and ancestors

The parent of a node is the nearest node that it stands inside (`Nested`), so the children of a node are those whose
parent it is, and what is below a node is what has it for an ancestor.  Removing nodes keeps that: a removed node has no
parent any more, and every other node has the one that it had.
-/
namespace Harvest.Markup

/-! ## Parents of entries -/

/-- Each entry of a list that starts with number `start` has for its parent the nearest entry that it stands inside, or
`up` if it stands inside none of the list. -/
def Placed (up : Option Nat) (start : Nat) (es : List Entry) : Prop :=
  ∀ k e, es[k]? = some e →
    (e.parent = up ∧ ∀ m f, m < k → es[m]? = some f → f.stop ≤ start + k) ∨
    ∃ m f, m < k ∧ es[m]? = some f ∧ e.parent = some (start + m) ∧ start + k < f.stop ∧
      ∀ n g, m < n → n < k → es[n]? = some g → g.stop ≤ start + k

theorem Placed.nil (up : Option Nat) (start : Nat) : Placed up start [] := fun _ _ h => nomatch h

theorem Placed.cons {start : Nat} {below : List Entry} (h : Placed (some start) (start + 1) below) (data : Data)
    (parent : Option Nat) : Placed parent start (⟨data, parent, start + 1 + below.length⟩ :: below) := by
  intro k e he
  cases k with
  | zero =>
    cases he
    exact .inl ⟨rfl, fun m f hm _ => absurd hm (Nat.not_lt_zero m)⟩
  | succ k =>
    have hk : k < below.length := Nat.lt_of_succ_lt_succ (List.getElem?_eq_some_iff.1 he).1
    right
    rcases h k e he with ⟨hp, htop⟩ | ⟨m, f, hm, hf, hp, hlt, hnear⟩
    · refine ⟨0, _, Nat.succ_pos k, rfl, hp, by simp only; omega, fun n g hn hnk hg => ?_⟩
      obtain ⟨n, rfl⟩ := Nat.exists_eq_add_one_of_ne_zero (Nat.ne_of_gt hn)
      have := htop n g (by omega) hg
      omega
    · refine ⟨m + 1, f, by omega, hf, by rw [hp, Nat.add_right_comm, Nat.add_assoc], by omega, fun n g hn hnk hg => ?_⟩
      obtain ⟨n, rfl⟩ := Nat.exists_eq_add_one_of_ne_zero (Nat.ne_of_gt (Nat.zero_lt_of_lt hn))
      have := hnear n g (by omega) (by omega) hg
      omega

theorem Placed.append {up : Option Nat} {start : Nat} {es fs : List Entry} (hlaid : Laid start es)
    (he : Placed up start es) (hf : Placed up (start + es.length) fs) : Placed up start (es ++ fs) := by
  intro k e hk
  by_cases hlt : k < es.length
  · have hbefore : ∀ m, m < k → (es ++ fs)[m]? = es[m]? := fun m hm => List.getElem?_append_left (by omega)
    rw [List.getElem?_append_left hlt] at hk
    refine (he k e hk).imp (fun ⟨hp, htop⟩ => ⟨hp, fun m f hm hfm => htop m f hm (hbefore m hm ▸ hfm)⟩) ?_
    rintro ⟨m, f, hm, hfm, hp, hlt, hnear⟩
    exact ⟨m, f, hm, (hbefore m hm).trans hfm, hp, hlt, fun n g hn hnk hg => hnear n g hn hnk (hbefore n hnk ▸ hg)⟩
  · obtain ⟨j, rfl⟩ := Nat.exists_eq_add_of_le (Nat.le_of_not_lt hlt)
    have hshift : ∀ i, (es ++ fs)[es.length + i]? = fs[i]? := fun i => by
      rw [List.getElem?_append_right (Nat.le_add_right _ _), Nat.add_sub_cancel_left]
    rw [hshift] at hk
    -- What stands before a tree ends before it, so only entries of the same part can be around an entry.
    have hpart : ∀ i f, (∀ n g, i ≤ n + es.length → n < j → fs[n]? = some g → g.stop ≤ start + es.length + j) →
        i ≤ f → f < es.length + j → ∀ g, (es ++ fs)[f]? = some g → g.stop ≤ start + (es.length + j) := by
      intro i f hnear hif hfj g hg
      by_cases hfe : f < es.length
      · rw [List.getElem?_append_left hfe] at hg
        have := (hlaid f g hg).2.1
        omega
      · obtain ⟨n, rfl⟩ := Nat.exists_eq_add_of_le (Nat.le_of_not_lt hfe)
        rw [hshift] at hg
        have := hnear n g (by omega) (by omega) hg
        omega
    rcases hf j e hk with ⟨hp, htop⟩ | ⟨m, f, hm, hfm, hp, hlt, hnear⟩
    · exact .inl ⟨hp, fun m f hm hfm => hpart 0 m (fun n g _ hn hg => htop n g hn hg) (Nat.zero_le m) hm f hfm⟩
    · refine .inr ⟨es.length + m, f, by omega, (hshift m).trans hfm, by rw [hp, Nat.add_assoc], by omega, ?_⟩
      intro n g hn hnj hg
      exact hpart (es.length + m + 1) n (fun i g hi hij hg => hnear i g (by omega) hij hg) hn hnj g hg

mutual
theorem Tree.placed_entries (parent : Option Nat) (start : Nat) : ∀ t : Tree,
    Placed parent start (t.entries parent start)
  | .node data kids => by
    unfold Tree.entries
    exact (Tree.placed_entriesAll start (start + 1) kids).cons data parent

theorem Tree.placed_entriesAll (parent start : Nat) : ∀ ts : List Tree,
    Placed (some parent) start (Tree.entriesAll parent start ts)
  | [] => by
    unfold Tree.entriesAll
    exact .nil _ start
  | t :: ts => by
    unfold Tree.entriesAll
    exact .append (Tree.laid_entries (some parent) start t) (Tree.placed_entries (some parent) start t)
      (Tree.placed_entriesAll parent _ ts)
end

namespace Document

variable {d : Document} {i j p r : Nat}

/-- **The parent of a node is the nearest node that it stands inside**, and a node without one stands inside none. -/
structure Nested (d : Document) : Prop extends d.WellFormed where
  parent_some : ∀ i p, (d.entry i).parent = some p →
    p < i ∧ i < d.stop p ∧ ∀ k, p < k → k < i → d.stop k ≤ i
  parent_none : ∀ i, (d.entry i).parent = none → ∀ k, k < i → d.stop k ≤ i

theorem entry_of_size_le (h : d.size ≤ i) : d.entry i = default := by
  unfold entry
  rw [Array.getD_eq_getD_getElem?, Array.getElem?_eq_none h]
  rfl

theorem nested_ofTree {t : Tree} (htop : t.data.isElement = false) : (ofTree t).Nested := by
  have hplaced := t.placed_entries none 0
  have hstop : ∀ {k f}, (t.entries none 0)[k]? = some f → (ofTree t).stop k = f.stop := fun hf => by
    rw [stop, entry_ofTree hf]
  have hentry : ∀ {k i}, k < i → i < (ofTree t).size → (t.entries none 0)[k]? = some ((ofTree t).entry k) :=
    fun hk hi => getElem?_ofTree (Nat.lt_trans hk hi)
  refine ⟨wellFormed_ofTree htop, fun i p hp => ?_, fun i hp k hk => ?_⟩
  · have hi : i < (ofTree t).size := Nat.lt_of_not_le fun hle => by
      rw [entry_of_size_le hle] at hp
      cases hp
    rcases hplaced i _ (getElem?_ofTree hi) with ⟨hnone, -⟩ | ⟨m, f, hm, hf, hsome, hlt, hnear⟩
    · rw [hnone] at hp
      cases hp
    · rw [Nat.zero_add] at hsome hlt hnear
      rw [hsome] at hp
      cases hp
      exact ⟨hm, by rw [hstop hf]; exact hlt, fun k hmk hki => hnear k _ hmk hki (hentry hki hi)⟩
  · by_cases hi : i < (ofTree t).size
    · rcases hplaced i _ (getElem?_ofTree hi) with ⟨-, htop⟩ | ⟨m, f, -, -, hsome, -⟩
      · rw [Nat.zero_add] at htop
        exact htop k _ hk (hentry hk hi)
      · rw [hsome] at hp
        cases hp
    · exact Nat.le_trans ((wellFormed_ofTree htop).stop_le k) (Nat.le_of_not_lt hi)

/-! ## Children -/

theorem parent?_eq_some : d.parent? i = some p ↔ d.isCut i = false ∧ (d.entry i).parent = some p := by
  unfold parent?
  cases d.isCut i <;> simp

theorem parent_iff (h : d.Nested) :
    (d.entry i).parent = some p ↔ p < i ∧ i < d.stop p ∧ ∀ k, p < k → k < i → d.stop k ≤ i := by
  refine ⟨h.parent_some i p, fun ⟨hpi, hlt, hnear⟩ => ?_⟩
  cases hq : (d.entry i).parent with
  | none => exact absurd (h.parent_none i hq p hpi) (Nat.not_le_of_lt hlt)
  | some q =>
    obtain ⟨hqi, hqlt, hqnear⟩ := h.parent_some i q hq
    rcases Nat.lt_trichotomy p q with hpq | rfl | hqp
    · exact absurd (hnear q hpq hqi) (Nat.not_le_of_lt hqlt)
    · rfl
    · exact absurd (hqnear p hqp hpi) (Nat.not_le_of_lt hlt)

theorem parent?_lt (h : d.Nested) (hp : d.parent? i = some p) : p < i :=
  (h.parent_some i p (parent?_eq_some.1 hp).2).1

/-- **The children of a node are the nodes whose parent it is.** -/
theorem mem_children_iff_parent? (h : d.Nested) : r ∈ d.children i ↔ d.parent? r = some i := by
  rw [mem_children h.toWellFormed, parent?_eq_some, parent_iff h]
  constructor
  · rintro ⟨hlt, hcut, hir, hnear⟩
    exact ⟨hcut, hir, hlt, hnear⟩
  · rintro ⟨hcut, hir, hlt, hnear⟩
    exact ⟨hlt, hcut, hir, hnear⟩

/-! ## Ancestors -/

theorem ancestorsUpTo_eq (h : d.Nested) : ∀ (fuel fuel' : Nat) {i : Nat}, i < fuel → i < fuel' →
    d.ancestorsUpTo fuel i = d.ancestorsUpTo fuel' i
  | fuel + 1, fuel' + 1, i, hf, hf' => by
    unfold ancestorsUpTo
    cases hp : d.parent? i with
    | none => rfl
    | some p =>
      have := parent?_lt h hp
      simp only
      rw [ancestorsUpTo_eq h fuel fuel' (by omega) (by omega)]

theorem ancestors_of_parent? (h : d.Nested) (hp : d.parent? i = some p) : d.ancestors i = p :: d.ancestors p := by
  have := parent?_lt h hp
  unfold ancestors
  rw [ancestorsUpTo, hp]
  simp only
  rw [ancestorsUpTo_eq h i (p + 1) (by omega) (by omega)]

theorem ancestors_of_parent?_none (hp : d.parent? i = none) : d.ancestors i = [] := by
  unfold ancestors
  rw [ancestorsUpTo, hp]

/-- What is below a node is its child or below one that is below it. -/
theorem mem_descendants_iff_parent? (h : d.Nested) :
    r ∈ d.descendants i ↔ ∃ p, d.parent? r = some p ∧ (p = i ∨ p ∈ d.descendants i) := by
  simp only [mem_descendants h.toWellFormed, parent?_eq_some]
  constructor
  · rintro ⟨hlt, hcut, hir, hopen⟩
    cases hp : (d.entry r).parent with
    | none => exact absurd (h.parent_none r hp i hir) (Nat.not_le_of_lt hlt)
    | some p =>
      obtain ⟨hpr, hrp, hnear⟩ := h.parent_some r p hp
      refine ⟨p, ⟨hcut, rfl⟩, ?_⟩
      rcases Nat.lt_trichotomy p i with hpi | rfl | hip
      · exact absurd (hnear i hpi hir) (Nat.not_le_of_lt hlt)
      · exact .inl rfl
      · -- Whatever holds the parent holds the node too, so nothing around the parent is cut.
        refine .inr ⟨by omega, hopen p hip hpr hrp, hip, fun k hik hkp hpk => hopen k hik (by omega) ?_⟩
        exact Nat.lt_of_lt_of_le hrp (h.inner k p hkp hpk)
  · rintro ⟨p, ⟨hcut, hp⟩, hpi⟩
    obtain ⟨hpr, hrp, hnear⟩ := h.parent_some r p hp
    have hopen : ∀ k, p < k → k < r → r < d.stop k → d.isCut k = false := fun k hpk hkr hrk =>
      absurd (hnear k hpk hkr) (Nat.not_le_of_lt hrk)
    rcases hpi with rfl | ⟨hlt, hpcut, hip, hpopen⟩
    · exact ⟨hrp, hcut, hpr, fun k hk => hopen k hk⟩
    · refine ⟨Nat.lt_of_lt_of_le hrp (h.inner i p hip hlt), hcut, by omega, fun k hik hkr hrk => ?_⟩
      rcases Nat.lt_trichotomy k p with hkp | rfl | hpk
      · exact hpopen k hik hkp (by omega)
      · exact hpcut
      · exact hopen k hpk hkr hrk

/-! ## What can be reached from the document -/

/-- The node is the document or below it. -/
def Reachable (d : Document) (i : Nat) : Prop := i = 0 ∨ i ∈ d.descendants 0

instance (d : Document) : DecidablePred d.Reachable := fun i =>
  inferInstanceAs (Decidable (i = 0 ∨ i ∈ d.descendants 0))

theorem reachable_zero (d : Document) : d.Reachable 0 := .inl rfl

theorem parent?_zero (h : d.Nested) : d.parent? 0 = none := by
  cases hp : d.parent? 0 with
  | none => rfl
  | some p => exact absurd (parent?_lt h hp) (Nat.not_lt_zero p)

/-- A node other than the document can be reached exactly if its parent can. -/
theorem reachable_iff_parent? (h : d.Nested) : d.Reachable i ↔ i = 0 ∨ ∃ p, d.parent? i = some p ∧ d.Reachable p := by
  unfold Reachable
  rw [mem_descendants_iff_parent? h]

theorem Reachable.parent (h : d.Nested) (hi : d.Reachable i) (hp : d.parent? i = some p) : d.Reachable p := by
  rcases (reachable_iff_parent? h).1 hi with rfl | ⟨q, hq, hr⟩
  · rw [parent?_zero h] at hp
    cases hp
  · rw [hq] at hp
    cases hp
    exact hr

end Document

end Harvest.Markup
