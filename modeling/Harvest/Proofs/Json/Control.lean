import Harvest.Value
/-!
# JSON texts without control characters

A compact JSON text has no control character in it, whatever strings and names the value holds: in a string each of them
is written as an escape (`clear_quoted`), and all else is made of letters, digits and signs (`clear_write`).
-/
namespace Harvest

/-- No character of the text is a control character of ASCII. -/
def Text.Clear (cs : List Char) : Prop := ∀ c ∈ cs, 0x20 ≤ c.toNat

namespace Text

variable {cs ds : List Char}

@[simp] theorem clear_nil : Clear [] := fun _ h => nomatch h

@[simp] theorem clear_cons {c : Char} : Clear (c :: cs) ↔ 0x20 ≤ c.toNat ∧ Clear cs := List.forall_mem_cons

@[simp] theorem clear_append : Clear (cs ++ ds) ↔ Clear cs ∧ Clear ds := List.forall_mem_append

theorem Clear.sublist (h : Clear ds) (hsub : cs.Sublist ds) : Clear cs := fun c hc => h c (hsub.subset hc)

theorem clear_replicate (n : Nat) {c : Char} (h : 0x20 ≤ c.toNat) : Clear (List.replicate n c) := fun d hd => by
  rw [List.eq_of_mem_replicate hd]
  exact h

theorem clear_toDigits (n : Nat) : Clear (Nat.toDigits 10 n) := by
  intro c hc
  have hdigit := Nat.isDigit_of_mem_toDigits (by decide) (by decide) hc
  simp only [Char.isDigit, Bool.and_eq_true, decide_eq_true_eq, ge_iff_le, UInt32.le_iff_toNat_le] at hdigit
  have hlow : 48 ≤ c.toNat := hdigit.1
  omega

theorem clear_ofInt (n : Int) : Clear (Numeral.ofInt n).toList := by
  cases n with
  | ofNat n => simpa [Numeral.ofInt, Numeral.ofNat] using clear_toDigits n
  | negSucc n => simpa [Numeral.ofInt, Numeral.ofNat] using clear_toDigits (n + 1)

end Text

open Text

namespace Decimal

theorem clear_digitsOf (x : Binary64) : Clear (digitsOf x).1 := by
  unfold digitsOf
  split
  · simp
  · exact clear_toDigits _

theorem clear_positional {digits : List Char} (h : Clear digits) (point : Int) :
    Clear (positional digits point).1 ∧ Clear (positional digits point).2 := by
  have hzeros : ∀ n, Clear (List.replicate n '0') := fun n => clear_replicate n (by decide)
  unfold positional
  split
  · simp [h, hzeros]
  · simp [h.sublist (List.take_sublist _ _), h.sublist (List.drop_sublist _ _), hzeros]

theorem clear_sign (x : Binary64) : Clear (sign x).toList := by
  unfold sign
  split <;> simp

theorem clear_json (x : Binary64) : Clear (json x).toList := by
  unfold json
  split
  · simp
  · have hdigits := clear_digitsOf x
    have hpart := fun point => clear_positional hdigits point
    have hsign := clear_sign x
    simp only [String.toList_append, String.toList_ofList, clear_append, hsign, true_and]
    split
    · split <;> simp [hpart]
    · split <;> split <;> simp [hpart, clear_toDigits]

end Decimal

namespace Json

theorem clear_number (n : Number) : Clear n.render.toList := by
  cases n with
  | int n => exact clear_ofInt n
  | float x => exact Decimal.clear_json x

theorem clear_hexDigit : ∀ d < 16, 0x20 ≤ (hexDigit d).toNat := by decide

/-- **The characters of a string are written without control characters.** -/
theorem clear_escapeChar (c : Char) : Clear (escapeChar c) := by
  unfold escapeChar
  split
  · simp
  · split
    · simp
    · split
      · simp
      · simp
      · simp
      · simp
      · simp
      · split
        · rename_i hlow
          simp [clear_hexDigit (c.toNat / 16) (by omega), clear_hexDigit (c.toNat % 16) (by omega)]
        · rename_i hhigh
          simp
          omega

theorem clear_quoted (s : String) : Clear (quoted s) := by
  have hchars : Clear (s.toList.flatMap escapeChar) := by
    intro c hc
    obtain ⟨d, -, hd⟩ := List.mem_flatMap.1 hc
    exact clear_escapeChar d c hd
  simp [quoted, hchars]

mutual
/-- **A value is written without control characters.** -/
theorem clear_write : ∀ j : Json, Clear j.write
  | .null => by simp [write]
  | .bool true => by simp [write]
  | .bool false => by simp [write]
  | .number n => by simpa [write] using clear_number n
  | .string s => by simpa [write] using clear_quoted s
  | .array [] => by simp [write]
  | .array (x :: xs) => by simp [write, clear_write x, clear_writeItems xs]
  | .object [] => by simp [write]
  | .object ((k, x) :: xs) => by simp [write, clear_quoted k, clear_write x, clear_writeFields xs]

theorem clear_writeItems : ∀ xs : List Json, Clear (writeItems xs)
  | [] => by simp [writeItems]
  | x :: xs => by simp [writeItems, clear_write x, clear_writeItems xs]

theorem clear_writeFields : ∀ xs : List (String × Json), Clear (writeFields xs)
  | [] => by simp [writeFields]
  | (k, x) :: xs => by simp [writeFields, clear_quoted k, clear_write x, clear_writeFields xs]
end

end Json

end Harvest
