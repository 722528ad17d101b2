/-!
# White space and trimming

The characters with the property White_Space, and texts without the white space at their ends.  `isBlank` holds of
exactly twenty-five characters; `trimBlank` is `trimBy` at that class.
-/
namespace Harvest.Text

/-- The characters with the property White_Space. -/
def isBlank (c : Char) : Bool :=
  let n := c.toNat
  (9 ≤ n && n ≤ 13) || n == 0x20 || n == 0x85 || n == 0xA0 || n == 0x1680 || (0x2000 ≤ n && n ≤ 0x200A)
    || n == 0x2028 || n == 0x2029 || n == 0x202F || n == 0x205F || n == 0x3000

/-- A text without the leading and trailing characters of a class. -/
def trimBy (p : Char → Bool) (cs : List Char) : List Char :=
  ((cs.dropWhile p).reverse.dropWhile p).reverse

/-- A text without its leading and trailing white space. -/
def trimBlank (cs : List Char) : List Char := trimBy isBlank cs

/-- `trimBlank` on a string. -/
def trim (s : String) : String := String.ofList (trimBlank s.toList)

theorem trimBy_nil (p : Char → Bool) : trimBy p [] = [] := rfl

/-- What stands between two runs of a class is left if it neither starts nor ends with that class. -/
theorem trimBy_append {p : Char → Bool} {a cs b : List Char} (ha : ∀ c ∈ a, p c = true) (hb : ∀ c ∈ b, p c = true)
    (hhead : ∀ c ∈ cs.head?, p c = false) (hlast : ∀ c ∈ cs.getLast?, p c = false) : trimBy p (a ++ (cs ++ b)) = cs := by
  have hnil : ∀ ds : List Char, (∀ c ∈ ds.head?, p c = false) → ds.dropWhile p = ds := by
    intro ds h
    cases ds with
    | nil => rfl
    | cons d ds => exact List.dropWhile_cons_of_neg (by simp [h d rfl])
  unfold trimBy
  rw [List.dropWhile_append_of_pos ha]
  cases cs with
  | nil =>
    have hdrop : (b ++ []).dropWhile p = [] := List.dropWhile_append_of_pos hb
    rw [List.append_nil] at hdrop
    rw [List.nil_append, hdrop]
    rfl
  | cons d ds =>
    rw [hnil (d :: ds ++ b) hhead, List.reverse_append,
      List.dropWhile_append_of_pos fun c hc => hb c (List.mem_reverse.1 hc), hnil _ ?_, List.reverse_reverse]
    rw [List.head?_reverse]
    exact hlast

end Harvest.Text
