import Harvest.Fields
/-!
# Records of entries

What is put together entry by entry is kept in order (`sorted_ofList`), holds the last entry of each name
(`find?_ofList`) and is told by what it holds (`Sorted.eq_of_find?`).
-/
namespace Harvest.Fields

variable {α : Type}

/-- Every name comes before all names behind it. -/
def Sorted (fs : Fields α) : Prop := fs.Pairwise fun p q => p.1 < q.1

theorem Sorted.insert {fs : Fields α} (h : Sorted fs) (name : String) (a : α) : Sorted (fs.insert name a) := by
  induction fs with
  | nil => exact List.pairwise_singleton _ _
  | cons p rest ih =>
    obtain ⟨n, b⟩ := p
    obtain ⟨hn, hrest⟩ := List.pairwise_cons.1 h
    unfold Fields.insert
    split
    · next hlt =>
      refine List.pairwise_cons.2 ⟨fun q hq => ?_, h⟩
      rcases List.mem_cons.1 hq with rfl | hq
      · exact hlt
      · exact String.lt_trans hlt (hn q hq)
    · next hge =>
      split
      · next heq => exact List.pairwise_cons.2 ⟨fun q hq => heq ▸ hn q hq, hrest⟩
      · next hne =>
        have hlt : n < name := by
          refine Decidable.byContradiction fun hle => hne ?_
          exact String.le_antisymm (String.not_lt.1 hge) (String.not_lt.1 hle)
        refine List.pairwise_cons.2 ⟨fun q hq => ?_, ih hrest⟩
        rcases mem_of_mem_insert hq with rfl | hq
        · exact hlt
        · exact hn q hq

/-- What is put in place after place is in order if it was before. -/
theorem Sorted.foldl_insert : ∀ (ps : List (String × α)) {fs : Fields α}, Sorted fs →
    Sorted (ps.foldl (fun fs p => fs.insert p.1 p.2) fs)
  | [], _, h => h
  | p :: ps, _, h => foldl_insert ps (h.insert p.1 p.2)

theorem sorted_ofList (ps : List (String × α)) : Sorted (ofList ps) := Sorted.foldl_insert ps List.Pairwise.nil

/-- The last of the new entries of a name counts, and the old one if there is none. -/
theorem find?_foldl_insert (k : String) : ∀ (ps : List (String × α)) (fs : Fields α),
    Fields.find? k (ps.foldl (fun fs p => fs.insert p.1 p.2) fs) =
      (ps.filterMap fun p => if p.1 = k then some p.2 else none).getLast?.or (fs.find? k)
  | [], _ => rfl
  | p :: ps, fs => by
    rw [List.foldl_cons, find?_foldl_insert k ps, find?_insert, List.filterMap_cons]
    by_cases hp : p.1 = k
    · rw [if_pos hp, if_pos hp, List.getLast?_cons]
      cases (List.filterMap _ ps).getLast? with
      | none => rfl
      | some a => rfl
    · rw [if_neg hp, if_neg hp]

/-- **Of several entries of one name the last one counts.** -/
theorem find?_ofList (k : String) (ps : List (String × α)) :
    (ofList ps).find? k = (ps.filterMap fun p => if p.1 = k then some p.2 else none).getLast? := by
  unfold ofList
  rw [find?_foldl_insert]
  exact Option.or_none

theorem find?_of_lt {k : String} : ∀ {fs : Fields α}, (∀ p ∈ fs, k < p.1) → fs.find? k = none
  | [], _ => rfl
  | (n, a) :: rest, h => by
    have hn : n ≠ k := fun heq => String.lt_irrefl k (heq ▸ h (n, a) List.mem_cons_self)
    rw [find?, if_neg hn]
    exact find?_of_lt fun p hp => h p (List.mem_cons_of_mem (n, a) hp)

/-- **A record is told by what it holds.** -/
theorem Sorted.eq_of_find? : ∀ {fs gs : Fields α}, Sorted fs → Sorted gs → (∀ k, fs.find? k = gs.find? k) → fs = gs
  | [], [], _, _, _ => rfl
  | [], (n, a) :: gs, _, _, h => by
    have hn := h n
    rw [find?, find?, if_pos rfl] at hn
    cases hn
  | (n, a) :: fs, [], _, _, h => by
    have hn := h n
    rw [find?, find?, if_pos rfl] at hn
    cases hn
  | (n, a) :: fs, (m, b) :: gs, hf, hg, h => by
    obtain ⟨hfn, hfs⟩ := List.pairwise_cons.1 hf
    obtain ⟨hgm, hgs⟩ := List.pairwise_cons.1 hg
    -- The name that comes first in the one record is held by the other one, so it does not come before all names there.
    have hle : ∀ {n m : String} {a b : α} {fs gs : Fields α}, (∀ p ∈ gs, m < p.1) →
        Fields.find? n ((n, a) :: fs) = Fields.find? n ((m, b) :: gs) → ¬n < m := by
      intro n m a b fs gs hgm h hlt
      have hlower : Fields.find? n ((m, b) :: gs) = none := find?_of_lt fun p hp => by
        rcases List.mem_cons.1 hp with rfl | hp
        · exact hlt
        · exact String.lt_trans hlt (hgm p hp)
      rw [find?, if_pos rfl, hlower] at h
      cases h
    have heq : n = m := String.le_antisymm (String.not_lt.1 (hle hfn (h m).symm)) (String.not_lt.1 (hle hgm (h n)))
    subst heq
    have hab := h n
    rw [find?, find?, if_pos rfl, if_pos rfl] at hab
    cases hab
    refine congrArg _ (eq_of_find? hfs hgs fun k => ?_)
    by_cases hk : n = k
    · subst hk
      rw [find?_of_lt hfn, find?_of_lt hgm]
    · have hk' := h k
      rwa [find?, find?, if_neg hk, if_neg hk] at hk'

end Harvest.Fields
