import Harvest.Text.Blank
import Harvest.Text.Find
import Mathlib.Data.List.Infix
import Mathlib.Data.List.TakeWhile
/-!
# Texts that are put together

What is found in a text that is put together from parts: a separator parts it into the pieces of what is before and
behind (`splitAt_append`), a text is cut at the first place of a piece (`cut?_eq_some_iff`, `cut?_eq_none`), and blanks
at the ends of a text make no difference to its pieces once these are trimmed (`map_trimBy_splitAt`).
-/
namespace Harvest.Text

theorem after?_eq_none {p cs : List Char} (h : ¬ p <+: cs) : after? p cs = none := by
  rw [Option.eq_none_iff_forall_ne_some]
  intro rest hrest
  exact h ⟨rest, (after?_eq_some.1 hrest).symm⟩

/-! ## Cutting -/

/-- **A piece is not found exactly where it does not occur.** -/
theorem cut?_eq_none {piece : List Char} : ∀ {cs : List Char}, cut? piece cs = none ↔ ¬ piece <:+: cs
  | [] => by
    cases piece <;> simp [cut?]
  | c :: cs => by
    rw [cut?, List.infix_cons_iff, not_or]
    by_cases h : piece <+: c :: cs
    · obtain ⟨rest, hrest⟩ := h
      have hafter : after? piece (c :: cs) = some rest := after?_eq_some.2 hrest.symm
      rw [hafter]
      exact iff_of_false (fun h => nomatch h) fun hnot => hnot.1 ⟨rest, hrest⟩
    · rw [after?_eq_none h, Option.map_eq_none_iff, cut?_eq_none, and_iff_right h]

/-- A piece behind a text, short of its last character, is still a head of what the text goes on to. -/
theorem prefix_append_dropLast (before piece rest : List Char) :
    before ++ piece.dropLast <+: before ++ (piece ++ rest) :=
  (List.prefix_append_right_inj before).2 ((List.dropLast_prefix piece).trans (List.prefix_append piece rest))

/-- **A text is cut at the first place of a piece**: the piece does not occur before the end of that place. -/
theorem cut?_eq_some_iff {piece : List Char} (h : piece ≠ []) : ∀ {cs before rest : List Char},
    cut? piece cs = some (before, rest) ↔ cs = before ++ (piece ++ rest) ∧ ¬ piece <:+: before ++ piece.dropLast
  | [], before, rest => by
    rw [cut?, if_neg (by simpa using h)]
    exact iff_of_false nofun fun ⟨hcs, _⟩ => h (List.append_eq_nil_iff.1 (List.append_eq_nil_iff.1 hcs.symm).2).1
  | c :: cs, [], rest => by
    have hshort : ¬ piece <:+: [] ++ piece.dropLast := fun hin => by
      have hlength := hin.length_le
      rw [List.nil_append, List.length_dropLast] at hlength
      have hpos := List.length_pos_iff.2 h
      omega
    rw [and_iff_left hshort, List.nil_append, ← after?_eq_some, cut?]
    cases after? piece (c :: cs) with
    | none => simp
    | some rest' => simp
  | c :: cs, b :: before, rest => by
    rw [cut?, List.cons_append, List.cons.injEq, List.cons_append, List.infix_cons_iff]
    cases hafter : after? piece (c :: cs) with
    | some rest' =>
      refine iff_of_false (by simp) ?_
      rintro ⟨⟨rfl, rfl⟩, hnot⟩
      refine hnot (.inl (List.prefix_of_prefix_length_le ⟨rest', (after?_eq_some.1 hafter).symm⟩
        (prefix_append_dropLast (c :: before) piece rest) ?_))
      rw [List.length_cons, List.length_append, List.length_dropLast]
      omega
    | none =>
      have hnone : ¬ piece <+: c :: cs := by
        rintro ⟨rest', hrest⟩
        rw [after?_eq_some.2 hrest.symm] at hafter
        cases hafter
      constructor
      · intro hmap
        obtain ⟨p, hp, heq⟩ := Option.map_eq_some_iff.1 hmap
        cases heq
        obtain ⟨rfl, hcut⟩ := (cut?_eq_some_iff h).1 hp
        refine ⟨⟨rfl, rfl⟩, fun hor => hor.elim (fun hpre => hnone ?_) hcut⟩
        exact hpre.trans (prefix_append_dropLast (c :: p.1) piece p.2)
      · rintro ⟨⟨rfl, rfl⟩, hnot⟩
        rw [(cut?_eq_some_iff h).2 ⟨rfl, fun hin => hnot (.inr hin)⟩]
        rfl

theorem cut?_eq_some {c : Char} {cs before rest : List Char} :
    cut? [c] cs = some (before, rest) ↔ cs = before ++ c :: rest ∧ c ∉ before := by
  rw [cut?_eq_some_iff (List.cons_ne_nil c []), List.dropLast_singleton, List.append_nil, List.singleton_infix_iff]
  rfl

theorem cut?_append {c : Char} {rest before : List Char} (h : c ∉ before) :
    cut? [c] (before ++ c :: rest) = some (before, rest) := cut?_eq_some.2 ⟨rfl, h⟩

/-- **One character in place of another**, everywhere. -/
theorem replaceAll_singleton (c d : Char) (cs : List Char) :
    replaceAll [c] [d] cs = cs.map fun x => if x = c then d else x := by
  have hfirst : ∀ (n : Nat) (cs : List Char), cs.length < n →
      replaceFirst [c] [d] n cs = cs.map fun x => if x = c then d else x := by
    intro n
    induction n with
    | zero => intro cs h; omega
    | succ n ih =>
      intro cs h
      have hkeep : ∀ {before : List Char}, c ∉ before → before.map (fun x => if x = c then d else x) = before := by
        intro before hbefore
        refine (List.map_congr_left fun x hx => ?_).trans (List.map_id before)
        exact if_neg fun hxc : x = c => hbefore (hxc ▸ hx)
      by_cases hc : c ∈ cs
      · obtain ⟨before, rest, rfl, hbefore⟩ := List.eq_append_cons_of_mem hc
        have hrest : rest.length < n := by
          simp only [List.length_append, List.length_cons] at h
          omega
        rw [replaceFirst, cut?_append hbefore]
        simp [ih rest hrest, hkeep hbefore]
      · have hnone : cut? [c] cs = none := cut?_eq_none.2 fun h => hc (h.subset (List.mem_singleton_self c))
        rw [replaceFirst, hnone, hkeep hc]
        rfl
  exact hfirst (cs.length + 1) cs (Nat.lt_succ_self _)

/-! ## Splitting -/

theorem splitAt_ne_nil (sep : Char) : ∀ cs : List Char, splitAt sep cs ≠ []
  | [] => List.cons_ne_nil _ _
  | c :: cs => by
    rw [splitAt]
    split
    · exact List.cons_ne_nil _ _
    · split <;> exact List.cons_ne_nil _ _

theorem splitAt_of_not_mem {sep : Char} : ∀ {cs : List Char}, sep ∉ cs → splitAt sep cs = [cs]
  | [], _ => rfl
  | c :: cs, h => by
    have hc : (c == sep) = false := by
      rw [beq_eq_false_iff_ne]
      rintro rfl
      exact h List.mem_cons_self
    unfold splitAt
    rw [hc, splitAt_of_not_mem fun hcs => h (List.mem_cons_of_mem c hcs)]
    rfl

/-- The pieces before and behind a separator are those of the two texts. -/
theorem splitAt_append (sep : Char) (behind : List Char) : ∀ before : List Char,
    splitAt sep (before ++ sep :: behind) = splitAt sep before ++ splitAt sep behind
  | [] => if_pos (beq_self_eq_true sep)
  | c :: before => by
    rw [List.cons_append, splitAt, splitAt, splitAt_append sep behind before]
    split
    · rfl
    · cases hpieces : splitAt sep before with
      | nil => exact absurd hpieces (splitAt_ne_nil sep before)
      | cons p ps => rfl

/-- What stands before a text belongs to its first piece. -/
theorem splitAt_front {sep : Char} (cs : List Char) : ∀ {a : List Char}, sep ∉ a →
    ∃ p ps, splitAt sep cs = p :: ps ∧ splitAt sep (a ++ cs) = (a ++ p) :: ps
  | [], _ => by
    obtain ⟨p, ps, h⟩ := List.exists_cons_of_ne_nil (splitAt_ne_nil sep cs)
    exact ⟨p, ps, h, h⟩
  | c :: a, h => by
    obtain ⟨hc, ha⟩ := not_or.1 (mt List.mem_cons.2 h)
    obtain ⟨p, ps, hcs, hacs⟩ := splitAt_front cs ha
    have hsep : (c == sep) = false := beq_false_of_ne (Ne.symm hc)
    refine ⟨p, ps, hcs, ?_⟩
    rw [List.cons_append, splitAt, hsep, hacs]
    rfl

/-- What stands behind a text belongs to its last piece. -/
theorem splitAt_back {sep : Char} {b : List Char} (hb : sep ∉ b) : ∀ cs : List Char,
    ∃ ps p, splitAt sep cs = ps ++ [p] ∧ splitAt sep (cs ++ b) = ps ++ [p ++ b]
  | [] => ⟨[], [], rfl, splitAt_of_not_mem hb⟩
  | c :: cs => by
    obtain ⟨ps, p, hcs, hcsb⟩ := splitAt_back hb cs
    rw [List.cons_append, splitAt, splitAt, hcs, hcsb]
    by_cases hc : c = sep
    · exact ⟨[] :: ps, p, by simp [hc], by simp [hc]⟩
    · cases ps with
      | nil => exact ⟨[], c :: p, by simp [hc], by simp [hc]⟩
      | cons q ps => exact ⟨(c :: q) :: ps, p, by simp [hc], by simp [hc]⟩

/-! ## Trimming -/

section Trim

variable {p : Char → Bool} {a b cs : List Char}

theorem trimBy_front (ha : ∀ c ∈ a, p c = true) : trimBy p (a ++ cs) = trimBy p cs := by
  unfold trimBy
  rw [List.dropWhile_append_of_pos ha]

theorem trimBy_back (hb : ∀ c ∈ b, p c = true) : trimBy p (cs ++ b) = trimBy p cs := by
  have hreverse : ∀ c ∈ b.reverse, p c = true := fun c hc => hb c (List.mem_reverse.1 hc)
  unfold trimBy
  rw [List.dropWhile_append]
  split
  · rename_i hempty
    rw [List.isEmpty_iff.1 hempty, List.dropWhile_eq_nil_iff.2 hb]
  · rw [List.reverse_append, List.dropWhile_append_of_pos hreverse]

/-- A text is what trimming leaves of it between two runs of the class. -/
theorem exists_trimBy (p : Char → Bool) (cs : List Char) :
    ∃ a b, cs = a ++ (trimBy p cs ++ b) ∧ (∀ c ∈ a, p c = true) ∧ ∀ c ∈ b, p c = true := by
  let rest := (cs.dropWhile p).reverse
  refine ⟨cs.takeWhile p, (rest.takeWhile p).reverse, ?_, fun c hc => List.mem_takeWhile_imp hc, fun c hc => ?_⟩
  · have hrest : trimBy p cs ++ (rest.takeWhile p).reverse = cs.dropWhile p := by
      show (rest.dropWhile p).reverse ++ (rest.takeWhile p).reverse = cs.dropWhile p
      rw [← List.reverse_append, List.takeWhile_append_dropWhile, List.reverse_reverse]
    rw [hrest, List.takeWhile_append_dropWhile]
  · exact List.mem_takeWhile_imp (List.mem_reverse.1 hc)

theorem trimBy_of_ends (hhead : ∀ c ∈ cs.head?, p c = false) (hlast : ∀ c ∈ cs.getLast?, p c = false) :
    trimBy p cs = cs := by
  have htrim := trimBy_append (a := []) (b := []) nofun nofun hhead hlast
  rwa [List.nil_append, List.append_nil] at htrim

theorem trimBy_trimBy (p : Char → Bool) (cs : List Char) : trimBy p (trimBy p cs) = trimBy p cs := by
  obtain ⟨a, b, hcs, ha, hb⟩ := exists_trimBy p cs
  exact ((trimBy_back hb).symm.trans (trimBy_front ha).symm).trans (congrArg (trimBy p) hcs.symm)

/-- **Trimming a text does not show in its trimmed pieces.** -/
theorem map_trimBy_splitAt {sep : Char} (hsep : p sep = false) (cs : List Char) :
    (splitAt sep (trimBy p cs)).map (trimBy p) = (splitAt sep cs).map (trimBy p) := by
  obtain ⟨a, b, hcs, ha, hb⟩ := exists_trimBy p cs
  have hnot : ∀ {ds : List Char}, (∀ c ∈ ds, p c = true) → sep ∉ ds := by
    intro ds hds hmem
    rw [hds sep hmem] at hsep
    cases hsep
  obtain ⟨ps, q, hmid, hback⟩ := splitAt_back (hnot hb) (trimBy p cs)
  obtain ⟨r, rs, hback', hall⟩ := splitAt_front (trimBy p cs ++ b) (hnot ha)
  have hpieces : (r :: rs).map (trimBy p) = (splitAt sep (trimBy p cs)).map (trimBy p) := by
    rw [← hback', hback, hmid]
    simp [trimBy_back hb]
  rw [← hpieces]
  conv => rhs; rw [hcs, hall]
  simp [trimBy_front ha]

end Trim

end Harvest.Text
