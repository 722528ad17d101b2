/-!
# Finding and replacing a piece of text

Leftmost occurrences that do not overlap: splitting a text at them and putting another text in their place.  An empty
piece occurs before each character and at the end.
-/
namespace Harvest.Text

/-- What follows `piece` at the head of a text, if the text starts with it. -/
def after? : List Char → List Char → Option (List Char)
  | [], cs => some cs
  | _ :: _, [] => none
  | p :: ps, c :: cs => if p == c then after? ps cs else none

theorem after?_eq_some : ∀ {p cs rest : List Char}, after? p cs = some rest ↔ cs = p ++ rest
  | [], _, _ => by simp [after?]
  | _ :: _, [], _ => by simp [after?]
  | p :: ps, c :: cs, rest => by
    unfold after?
    split
    · rename_i hpc
      rw [eq_of_beq hpc, after?_eq_some, List.cons_append, List.cons.injEq]
      simp
    · rename_i hpc
      have hne : ¬ c = p := fun h => hpc (by simp [h])
      simp [hne]

/-- The text before the first occurrence of a piece, and the text after it. -/
def cut? (piece : List Char) : List Char → Option (List Char × List Char)
  | [] => if piece.isEmpty then some ([], []) else none
  | c :: cs =>
    match after? piece (c :: cs) with
    | some rest => some ([], rest)
    | none => (cut? piece cs).map fun p => (c :: p.1, p.2)

def occurs (piece cs : List Char) : Bool := (cut? piece cs).isSome

/-- The pieces of a text between the occurrences of a separator that is not empty. -/
def splitOn (sep cs : List Char) : List (List Char) := go cs.length cs
where
  go : Nat → List Char → List (List Char)
  | 0, cs => [cs]
  | fuel + 1, cs =>
    match cut? sep cs with
    | none => [cs]
    | some (before, rest) => before :: go fuel rest

/-- The pieces of a text between the occurrences of one character. -/
def splitAt (sep : Char) : List Char → List (List Char)
  | [] => [[]]
  | c :: cs =>
    if c == sep then [] :: splitAt sep cs
    else match splitAt sep cs with
      | [] => [[c]]
      | p :: ps => (c :: p) :: ps

/-- Puts `with_` before the first `n` characters, and at the end while any replacement is left. -/
def interleave (with_ : List Char) : Nat → List Char → List Char
  | 0, cs => cs
  | _ + 1, [] => with_
  | n + 1, c :: cs => with_ ++ c :: interleave with_ n cs

/-- Puts `with_` in place of the first `n` occurrences of `find`. -/
def replaceFirst (find with_ : List Char) : Nat → List Char → List Char
  | 0, cs => cs
  | n + 1, cs =>
    if find.isEmpty then interleave with_ (n + 1) cs
    else match cut? find cs with
      | none => cs
      | some (before, rest) => before ++ with_ ++ replaceFirst find with_ n rest

/-- Puts `with_` in place of every occurrence of `find`. -/
def replaceAll (find with_ cs : List Char) : List Char := replaceFirst find with_ (cs.length + 1) cs

/-- `replaceAll` on strings. -/
def replaceAllIn (s find with_ : String) : String :=
  String.ofList (replaceAll find.toList with_.toList s.toList)

/-- The pieces joined with a separator between neighbours. -/
def join (sep : List Char) : List (List Char) → List Char
  | [] => []
  | [p] => p
  | p :: ps => p ++ sep ++ join sep ps

theorem join_cons (sep p : List Char) {ps : List (List Char)} (h : ps ≠ []) :
    join sep (p :: ps) = p ++ sep ++ join sep ps := by
  cases ps with
  | nil => exact absurd rfl h
  | cons q ps => rfl

theorem join_concat (sep p : List Char) : ∀ {ps : List (List Char)}, ps ≠ [] →
    join sep (ps ++ [p]) = join sep ps ++ (sep ++ p)
  | [q], _ => List.append_assoc ..
  | q :: q' :: ps, _ => by
    rw [List.cons_append, join_cons sep q (by simp), join_cons sep q (by simp), join_concat sep p (by simp)]
    simp only [List.append_assoc]

end Harvest.Text
