import Harvest.Unicode.Ranges
import Mathlib.Data.List.Pairwise
/-!
# Ranges in increasing order

Sets are made of ranges in increasing order, whatever ranges they are made from (`CharSet.ordered_ofRanges`), so halving
them finds what they hold (`CharSet.contains_iff`).
-/
namespace Harvest.Unicode

/-- Does one of the ranges hold a code? -/
def Covers (rs : List Range) (n : Nat) : Prop := ∃ r ∈ rs, r.1 ≤ n ∧ n ≤ r.2

/-- The ranges are in increasing order, none is empty, and none overlap. -/
structure Ordered (rs : List Range) : Prop where
  proper : ∀ r ∈ rs, r.1 ≤ r.2
  apart : rs.Pairwise fun r q => r.2 < q.1

instance (rs : List Range) : Decidable (Ordered rs) :=
  decidable_of_iff ((∀ r ∈ rs, r.1 ≤ r.2) ∧ rs.Pairwise fun r q => r.2 < q.1) ⟨fun h => ⟨h.1, h.2⟩, fun h => ⟨h.1, h.2⟩⟩

theorem covers_cons {r : Range} {rs : List Range} {n : Nat} :
    Covers (r :: rs) n ↔ r.1 ≤ n ∧ n ≤ r.2 ∨ Covers rs n := by
  simp only [Covers, List.mem_cons, or_and_right, exists_or, exists_eq_left]

theorem covers_nil {n : Nat} : ¬ Covers [] n := nofun

theorem covers_append {rs qs : List Range} {n : Nat} : Covers (rs ++ qs) n ↔ Covers rs n ∨ Covers qs n := by
  simp only [Covers, List.mem_append, or_and_right, exists_or]

theorem Ordered.lt {rs : List Range} (h : Ordered rs) {i j : Nat} {r q : Range} (hr : rs[i]? = some r)
    (hq : rs[j]? = some q) (hij : i < j) : r.2 < q.1 := by
  obtain ⟨hi, rfl⟩ := List.getElem?_eq_some_iff.1 hr
  obtain ⟨hj, rfl⟩ := List.getElem?_eq_some_iff.1 hq
  exact List.pairwise_iff_getElem.1 h.apart i j hi hj hij

/-- The range that holds a code stands before the ranges above the code and behind those below it. -/
theorem Ordered.index {rs : List Range} (h : Ordered rs) {i j n : Nat} {r q : Range} (hr : rs[i]? = some r)
    (hin : r.1 ≤ n ∧ n ≤ r.2) (hq : rs[j]? = some q) : (n < q.1 → i < j) ∧ (q.2 < n → j < i) := by
  have hproper := h.proper q (List.mem_of_getElem? hq)
  rcases Nat.lt_trichotomy i j with hij | rfl | hij
  · have := h.lt hr hq hij
    omega
  · obtain rfl := Option.some.inj (hr.symm.trans hq)
    omega
  · have := h.lt hq hr hij
    omega

namespace CharSet

theorem search_iff {rs : Array Range} (h : Ordered rs.toList) (n : Nat) : ∀ fuel lo hi : Nat, hi ≤ rs.size →
    hi < lo + fuel →
    (search rs n fuel lo hi = true ↔ ∃ i r, lo ≤ i ∧ i < hi ∧ rs.toList[i]? = some r ∧ r.1 ≤ n ∧ n ≤ r.2)
  | 0, lo, hi, _, hfuel => iff_of_false nofun fun ⟨i, r, hlo, hhi, _⟩ => by omega
  | fuel + 1, lo, hi, hsize, hfuel => by
    rw [search]
    by_cases hlt : lo < hi
    · obtain ⟨q, hq⟩ : ∃ q, rs.toList[(lo + hi) / 2]? = some q := ⟨_, List.getElem?_eq_getElem (by simp; omega)⟩
      have hmid : rs.getD ((lo + hi) / 2) (0, 0) = q := by
        rw [Array.getD_eq_getD_getElem?, ← Array.getElem?_toList, hq, Option.getD_some]
      simp only [if_pos hlt, hmid]
      by_cases hbelow : n < q.1
      · rw [if_pos hbelow, search_iff h n fuel lo _ (by omega) (by omega)]
        exact ⟨fun ⟨i, r, hlo, hhi, hr⟩ => ⟨i, r, hlo, by omega, hr⟩,
          fun ⟨i, r, hlo, _, hr, hin⟩ => ⟨i, r, hlo, (h.index hr hin hq).1 hbelow, hr, hin⟩⟩
      · rw [if_neg hbelow]
        by_cases habove : q.2 < n
        · rw [if_pos habove, search_iff h n fuel _ hi hsize (by omega)]
          exact ⟨fun ⟨i, r, hlo, hhi, hr⟩ => ⟨i, r, by omega, hhi, hr⟩,
            fun ⟨i, r, _, hhi, hr, hin⟩ => ⟨i, r, (h.index hr hin hq).2 habove, hhi, hr, hin⟩⟩
        · rw [if_neg habove]
          exact iff_of_true rfl ⟨_, q, by omega, by omega, hq, by omega, by omega⟩
    · rw [if_neg hlt]
      exact iff_of_false nofun fun ⟨i, r, hlo, hhi, _⟩ => by omega

/-- **Halving finds what a set holds**, if its ranges are in order. -/
theorem contains_iff {s : CharSet} (h : Ordered s.ranges.toList) (c : Char) :
    s.contains c = true ↔ Covers s.ranges.toList c.toNat := by
  rw [contains, search_iff h _ _ _ _ (Nat.le_refl _) (by omega)]
  constructor
  · rintro ⟨i, r, _, _, hr, hin⟩
    exact ⟨r, List.mem_of_getElem? hr, hin⟩
  · rintro ⟨r, hr, hin⟩
    obtain ⟨i, hi⟩ := List.mem_iff_getElem?.1 hr
    obtain ⟨hlt, _⟩ := List.getElem?_eq_some_iff.1 hi
    exact ⟨i, r, Nat.zero_le i, by simpa using hlt, hi, hin⟩

/-! ## Sets made from ranges -/

theorem perm_place (r : Range) : ∀ rs : List Range, (place r rs).Perm (r :: rs)
  | [] => .refl _
  | q :: qs => by
    rw [place]
    split
    · exact .refl _
    · exact ((perm_place r qs).cons q).trans (.swap r q qs)

theorem pairwise_place (r : Range) : ∀ {rs : List Range}, rs.Pairwise (fun a b => a.1 ≤ b.1) →
    (place r rs).Pairwise fun a b => a.1 ≤ b.1
  | [], _ => List.pairwise_singleton _ _
  | q :: qs, h => by
    obtain ⟨hq, hqs⟩ := List.pairwise_cons.1 h
    rw [place]
    split
    · exact List.pairwise_cons.2 ⟨List.forall_mem_cons.2 ⟨‹_›, fun p hp => Nat.le_trans ‹_› (hq p hp)⟩, h⟩
    · refine List.pairwise_cons.2 ⟨fun p hp => ?_, pairwise_place r hqs⟩
      rcases List.mem_cons.1 ((perm_place r qs).mem_iff.1 hp) with rfl | hp
      · omega
      · exact hq p hp

theorem perm_foldr_place : ∀ rs : List Range, (rs.foldr place []).Perm rs
  | [] => .refl _
  | r :: rs => (perm_place r _).trans ((perm_foldr_place rs).cons r)

theorem pairwise_foldr_place : ∀ rs : List Range, (rs.foldr place []).Pairwise fun a b => a.1 ≤ b.1
  | [] => .nil
  | r :: rs => pairwise_place r (pairwise_foldr_place rs)

theorem ordered_concat {rs : List Range} {r : Range} (h : Ordered rs) (hr : r.1 ≤ r.2) (hlast : ∀ p ∈ rs, p.2 < r.1) :
    Ordered (rs ++ [r]) := by
  constructor
  · intro p hp
    rcases List.mem_append.1 hp with hp | hp
    · exact h.proper p hp
    · rwa [List.mem_singleton.1 hp]
  · exact List.pairwise_append.2 ⟨h.apart, List.pairwise_singleton _ _, by simpa using hlast⟩

/-- What is merged so far is in order before each step and after it, and the codes stay the same. -/
theorem ordered_mergeFrom : ∀ (qs : List Range) (r : Range) (acc : List Range), Ordered (acc.reverse ++ [r]) →
    qs.Pairwise (fun a b => a.1 ≤ b.1) → (∀ q ∈ qs, r.1 ≤ q.1 ∧ q.1 ≤ q.2) →
    Ordered (mergeFrom r acc qs) ∧ ∀ n, Covers (mergeFrom r acc qs) n ↔ Covers (acc.reverse ++ r :: qs) n
  | [], r, acc, h, _, _ => by
    rw [mergeFrom, List.reverse_cons]
    exact ⟨h, fun n => Iff.rfl⟩
  | q :: qs, r, acc, h, hqs, hin => by
    obtain ⟨hq, hqs⟩ := List.pairwise_cons.1 hqs
    obtain ⟨⟨hrq, hproper⟩, hrest⟩ := List.forall_mem_cons.1 hin
    obtain ⟨hacc, _, hbefore⟩ := List.pairwise_append.1 h.apart
    have hr : r.1 ≤ r.2 := h.proper r (by simp)
    have hlast : ∀ p ∈ acc.reverse, p.2 < r.1 := fun p hp => hbefore p hp r (List.mem_singleton_self r)
    rw [mergeFrom]
    by_cases htouch : q.1 ≤ r.2 + 1
    · have hgrown : Ordered (acc.reverse ++ [(r.1, max r.2 q.2)]) :=
        ordered_concat ⟨fun p hp => h.proper p (List.mem_append_left _ hp), hacc⟩
          (Nat.le_trans hr (Nat.le_max_left _ _)) hlast
      obtain ⟨hordered, hcovers⟩ := ordered_mergeFrom qs (r.1, max r.2 q.2) acc hgrown hqs hrest
      rw [if_pos htouch]
      refine ⟨hordered, fun n => (hcovers n).trans ?_⟩
      -- the codes of both ranges are those of the one that they become, as nothing lies between them
      have hboth : r.1 ≤ n ∧ n ≤ max r.2 q.2 ↔ (r.1 ≤ n ∧ n ≤ r.2) ∨ (q.1 ≤ n ∧ n ≤ q.2) := by omega
      rw [covers_append, covers_append, covers_cons, covers_cons, covers_cons, ← or_assoc (a := _ ∧ _), hboth]
    · have hbelow : ∀ p ∈ acc.reverse ++ [r], p.2 < q.1 := fun p hp => by
        rcases List.mem_append.1 hp with hp | hp
        · have := hlast p hp
          omega
        · rw [List.mem_singleton.1 hp]
          omega
      have hnext : Ordered ((r :: acc).reverse ++ [q]) := by
        rw [List.reverse_cons]
        exact ordered_concat h hproper hbelow
      obtain ⟨hordered, hcovers⟩ :=
        ordered_mergeFrom qs q (r :: acc) hnext hqs fun p hp => ⟨hq p hp, (hrest p hp).2⟩
      rw [if_neg htouch]
      refine ⟨hordered, fun n => (hcovers n).trans ?_⟩
      rw [List.reverse_cons, List.append_assoc]
      rfl

/-- **A set made from ranges has its ranges in order**, and holds the codes that they hold. -/
theorem ordered_ofRanges (rs : List Range) :
    Ordered (ofRanges rs).ranges.toList ∧ ∀ n, Covers (ofRanges rs).ranges.toList n ↔ Covers rs n := by
  have hfilter : ∀ n, Covers (rs.filter fun r => r.1 ≤ r.2) n ↔ Covers rs n := fun n => by
    simp only [Covers, List.mem_filter, decide_eq_true_eq]
    exact exists_congr fun r =>
      ⟨fun ⟨⟨hr, _⟩, hin⟩ => ⟨hr, hin⟩, fun ⟨hr, hin⟩ => ⟨⟨hr, Nat.le_trans hin.1 hin.2⟩, hin⟩⟩
  have hperm := perm_foldr_place (rs.filter fun r => r.1 ≤ r.2)
  have hpairwise := pairwise_foldr_place (rs.filter fun r => r.1 ≤ r.2)
  have hcovers : ∀ n, Covers ((rs.filter fun r => r.1 ≤ r.2).foldr place []) n ↔ Covers rs n := fun n =>
    (exists_congr fun r => and_congr_left fun _ => hperm.mem_iff).trans (hfilter n)
  have hproper : ∀ r ∈ (rs.filter fun r => r.1 ≤ r.2).foldr place [], r.1 ≤ r.2 := fun r hr => by
    simpa using (List.mem_filter.1 (hperm.mem_iff.1 hr)).2
  rw [ofRanges]
  cases hplaced : (rs.filter fun r => r.1 ≤ r.2).foldr place [] with
  | nil =>
    rw [hplaced] at hcovers
    exact ⟨⟨nofun, .nil⟩, hcovers⟩
  | cons r rest =>
    rw [hplaced] at hpairwise hcovers hproper
    obtain ⟨hr, hrest⟩ := List.pairwise_cons.1 hpairwise
    obtain ⟨hfirst, hothers⟩ := List.forall_mem_cons.1 hproper
    obtain ⟨hordered, hsame⟩ := ordered_mergeFrom rest r [] ⟨by simpa using hfirst, List.pairwise_singleton _ _⟩ hrest
      fun q hq => ⟨hr q hq, hothers q hq⟩
    exact ⟨hordered, fun n => (hsame n).trans (hcovers n)⟩

theorem contains_ofRanges (rs : List Range) (c : Char) : (ofRanges rs).contains c = true ↔ Covers rs c.toNat := by
  obtain ⟨hordered, hcovers⟩ := ordered_ofRanges rs
  exact (contains_iff hordered c).trans (hcovers _)

end CharSet

end Harvest.Unicode
