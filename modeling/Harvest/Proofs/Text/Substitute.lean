import Harvest.Proofs.Text.Find
/-!
# Marks in a text

`substitute` puts a text in place of each of several marks in one pass: what it puts is never looked at again.
Replacing all occurrences of one piece is such a pass with one mark (`replaceAll_eq_substitute`).
-/
namespace Harvest.Text

/-- The first of some marks that a text starts with, and what is put in its place. -/
def markAt? (marks : List (List Char × List Char)) (cs : List Char) : Option (List Char × List Char) :=
  marks.find? fun m => m.1.isPrefixOf cs

/-- One pass over the rest of a text, the first `skip` characters of which belong to a mark that is done with. -/
def substituteFrom (marks : List (List Char × List Char)) : Nat → List Char → List Char
  | _, [] => []
  | skip + 1, _ :: cs => substituteFrom marks skip cs
  | 0, c :: cs =>
    match markAt? marks (c :: cs) with
    | some (mark, put) => put ++ substituteFrom marks (mark.length - 1) cs
    | none => c :: substituteFrom marks 0 cs

/-- A text with what is put in the places of marks; where several start at one place, the first of the list is meant. -/
def substitute (marks : List (List Char × List Char)) (cs : List Char) : List Char := substituteFrom marks 0 cs

variable {marks : List (List Char × List Char)} {mark put : List Char}

/-! ## Steps of a pass -/

theorem markAt?_cons (mark put : List Char) (marks : List (List Char × List Char)) (cs : List Char) :
    markAt? ((mark, put) :: marks) cs = if mark <+: cs then some (mark, put) else markAt? marks cs := by
  by_cases h : mark <+: cs
  · rw [if_pos h]
    exact List.find?_cons_of_pos (List.isPrefixOf_iff_prefix.2 h)
  · rw [if_neg h]
    exact List.find?_cons_of_neg (mt List.isPrefixOf_iff_prefix.1 h)

theorem substituteFrom_length (marks : List (List Char × List Char)) (cs : List Char) : ∀ passed : List Char,
    substituteFrom marks passed.length (passed ++ cs) = substitute marks cs
  | [] => rfl
  | _ :: passed => substituteFrom_length marks cs passed

theorem substitute_mark {cs : List Char} (h : markAt? marks (mark ++ cs) = some (mark, put)) (hmark : mark ≠ []) :
    substitute marks (mark ++ cs) = put ++ substitute marks cs := by
  obtain ⟨c, rest, rfl⟩ := List.exists_cons_of_ne_nil hmark
  rw [List.cons_append] at h
  rw [substitute, List.cons_append, substituteFrom, h]
  exact congrArg (put ++ ·) (substituteFrom_length marks cs rest)

theorem substitute_cons {c : Char} {cs : List Char} (h : markAt? marks (c :: cs) = none) :
    substitute marks (c :: cs) = c :: substitute marks cs := by
  rw [substitute, substituteFrom, h]
  rfl

theorem substituteFrom_of_absent : ∀ {cs : List Char} (skip : Nat), ¬ mark <:+: cs →
    substituteFrom ((mark, put) :: marks) skip cs = substituteFrom marks skip cs
  | [], _, _ => by simp only [substituteFrom]
  | c :: cs, skip + 1, h => by
    rw [List.infix_cons_iff, not_or] at h
    exact substituteFrom_of_absent skip h.2
  | c :: cs, 0, h => by
    rw [List.infix_cons_iff, not_or] at h
    rw [substituteFrom, substituteFrom, markAt?_cons, if_neg h.1]
    split <;> rw [substituteFrom_of_absent _ h.2]

/-- A mark that does not occur makes no difference. -/
theorem substitute_of_absent {cs : List Char} (h : ¬ mark <:+: cs) :
    substitute ((mark, put) :: marks) cs = substitute marks cs := substituteFrom_of_absent 0 h

/-! ## One mark -/

/-- One step of a pass: up to the first place of the mark, and on behind it. -/
theorem substitute_eq_cut? (hmark : mark ≠ []) : ∀ cs : List Char, substitute [(mark, put)] cs =
    match cut? mark cs with
    | none => cs
    | some (before, rest) => before ++ put ++ substitute [(mark, put)] rest
  | [] => by
    rw [cut?, if_neg (by simpa using hmark)]
    rfl
  | c :: cs => by
    rw [cut?]
    by_cases h : mark <+: c :: cs
    · obtain ⟨rest, hrest⟩ := h
      have hat : markAt? [(mark, put)] (mark ++ rest) = some (mark, put) := by
        rw [markAt?_cons, if_pos (List.prefix_append _ _)]
      rw [after?_eq_some.2 hrest.symm, ← hrest, substitute_mark hat hmark]
      rfl
    · have hat : markAt? [(mark, put)] (c :: cs) = none := by
        rw [markAt?_cons, if_neg h]
        rfl
      rw [after?_eq_none h, substitute_cons hat, substitute_eq_cut? hmark cs]
      cases cut? mark cs <;> rfl

/-- **Replacing all occurrences of a piece is a pass with one mark.** -/
theorem replaceAll_eq_substitute (hmark : mark ≠ []) (cs : List Char) :
    replaceAll mark put cs = substitute [(mark, put)] cs := by
  have hfirst : ∀ (n : Nat) (cs : List Char), cs.length < n →
      replaceFirst mark put n cs = substitute [(mark, put)] cs := by
    intro n
    induction n with
    | zero => exact fun cs h => absurd h (Nat.not_lt_zero _)
    | succ n ih =>
      intro cs h
      rw [replaceFirst, if_neg (by simpa using hmark), substitute_eq_cut? hmark]
      cases hcut : cut? mark cs with
      | none => rfl
      | some p =>
        obtain ⟨before, rest⟩ := p
        obtain ⟨rfl, -⟩ := (cut?_eq_some_iff hmark).1 hcut
        have hpos := List.length_pos_iff.2 hmark
        rw [List.length_append, List.length_append] at h
        exact congrArg (before ++ put ++ ·) (ih rest (by omega))
  exact hfirst (cs.length + 1) cs (Nat.lt_succ_self _)

end Harvest.Text
