import Harvest.Proofs.Text.Find
import Harvest.Text.Numeral
/-!
# Decimal integers written and read back

The digits of a number are read as that number, and a signed integer of 64 bits is read back from its text, which has
no white space in it (`int64?_ofInt`).
-/
namespace Harvest.Text.Numeral

theorem continue?_eq : ∀ {ds : List Char} {acc : Nat}, (∀ c ∈ ds, c.isDigit = true) →
    continue? acc ds = some (Nat.ofDigitChars 10 ds acc)
  | [], _, _ => rfl
  | c :: ds, acc, h => by
    have hc : digit? c = some (c.toNat - 48) := by
      have hdigit := h c List.mem_cons_self
      simp only [Char.isDigit, Bool.and_eq_true, decide_eq_true_eq] at hdigit
      exact if_pos hdigit
    rw [continue?, hc, Option.bind_some, continue?_eq fun d hd => h d (List.mem_cons_of_mem c hd),
      Nat.ofDigitChars_cons, Nat.mul_comm]
    rfl

theorem isDigit_of_mem_toDigits {n : Nat} {c : Char} (h : c ∈ Nat.toDigits 10 n) : c.isDigit = true :=
  Nat.isDigit_of_mem_toDigits (by decide) (by decide) h

theorem natural?_toDigits (n : Nat) : natural? (Nat.toDigits 10 n) = some n := by
  have hne : ¬ (Nat.toDigits 10 n).isEmpty = true := by simp [Nat.toDigits_ne_nil]
  rw [natural?, if_neg hne, continue?_eq fun c hc => isDigit_of_mem_toDigits hc, Nat.ofDigitChars_ten_toDigits]

theorem nat64?_toDigits {n : Nat} (h : n < 0x10000000000000000) : nat64? (Nat.toDigits 10 n) = some n := by
  have hunsigned : unsigned? (Nat.toDigits 10 n) = some n := by
    rw [unsigned?]
    · exact natural?_toDigits n
    · intro cs hcs
      exact absurd (isDigit_of_mem_toDigits (hcs ▸ List.mem_cons_self)) (by decide)
  rw [nat64?, hunsigned, Option.bind_some]
  exact if_pos h

theorem all_isDigit_toDigits (n : Nat) : (Nat.toDigits 10 n).all isDigit = true := by
  rw [List.all_eq_true]
  intro c hc
  have hdigit := isDigit_of_mem_toDigits hc
  simp only [Char.isDigit, Bool.and_eq_true, decide_eq_true_eq] at hdigit
  exact decide_eq_true hdigit

/-- A positive number is written without a leading zero. -/
theorem ne_zero_of_head?_toDigits {n : Nat} (h : 0 < n) : ∀ c ∈ (Nat.toDigits 10 n).head?, c ≠ '0' := by
  induction n using Nat.strongRecOn with
  | _ n ih =>
    by_cases hn : n < 10
    · rw [Nat.toDigits_of_lt_base hn]
      rintro c hc rfl
      have hzero : n.digitChar = '0' := Option.some.inj hc
      exact absurd (Nat.digitChar_eq_zero.1 hzero) (by omega)
    · obtain ⟨d, ds, hds⟩ : ∃ d ds, Nat.toDigits 10 (n / 10) = d :: ds :=
        List.exists_cons_of_ne_nil Nat.toDigits_ne_nil
      have hfirst := ih (n / 10) (by omega) (by omega)
      rw [hds] at hfirst
      rw [Nat.toDigits_of_base_le (by decide) (by omega), hds]
      exact hfirst

/-! ## Signed integers -/

theorem toList_ofInt_natCast (n : Nat) : (ofInt n).toList = Nat.toDigits 10 n := String.toList_ofList

theorem toList_ofInt_negSucc (n : Nat) : (ofInt (.negSucc n)).toList = '-' :: Nat.toDigits 10 (n + 1) := by
  simp [ofInt, ofNat]

theorem ofInt_ne_nil (n : Int) : (ofInt n).toList ≠ [] := by
  cases n with
  | ofNat n => exact (toList_ofInt_natCast n).symm ▸ Nat.toDigits_ne_nil
  | negSucc n => exact (toList_ofInt_negSucc n).symm ▸ List.cons_ne_nil _ _

theorem of_mem_ofInt {n : Int} {c : Char} (h : c ∈ (ofInt n).toList) : c.isDigit = true ∨ c = '-' := by
  cases n with
  | ofNat n =>
    rw [Int.ofNat_eq_natCast, toList_ofInt_natCast] at h
    exact .inl (isDigit_of_mem_toDigits h)
  | negSucc n =>
    rw [toList_ofInt_negSucc] at h
    rcases List.mem_cons.1 h with h | h
    · exact .inr h
    · exact .inl (isDigit_of_mem_toDigits h)

/-- Digits without a sign are read as a natural number. -/
theorem integer?_of_isDigit {cs : List Char} (h : ∀ c ∈ cs, c.isDigit = true) :
    integer? cs = (natural? cs).map Int.ofNat := by
  have hsign : ∀ {c ds}, c.isDigit = false → cs ≠ c :: ds := fun hc hcs => by
    rw [h _ (hcs ▸ List.mem_cons_self)] at hc
    cases hc
  rw [integer?]
  · exact fun ds => hsign (by decide)
  · exact fun ds => hsign (by decide)

theorem integer?_ofInt (n : Int) : integer? (ofInt n).toList = some n := by
  cases n with
  | ofNat n =>
    rw [Int.ofNat_eq_natCast, toList_ofInt_natCast, integer?_of_isDigit fun c hc => isDigit_of_mem_toDigits hc,
      natural?_toDigits]
    rfl
  | negSucc n =>
    rw [toList_ofInt_negSucc, integer?, natural?_toDigits]
    rfl

/-- **An integer of 64 bits is read back from its text.** -/
theorem int64?_ofInt (n : Int64) : int64? (ofInt n.toInt).toList = some n := by
  have hlow := n.le_toInt
  have hhigh := n.toInt_lt
  rw [int64?, integer?_ofInt, Option.bind_some, if_pos ⟨hlow, hhigh⟩, Int64.ofInt_toInt]

/-- What is printed of ASCII is no white space. -/
theorem isBlank_of_printed {c : Char} (h : 33 ≤ c.toNat ∧ c.toNat ≤ 126) : isBlank c = false := by
  simp only [isBlank, Bool.or_eq_false_iff, Bool.and_eq_false_iff, decide_eq_false_iff_not, beq_eq_false_iff_ne]
  omega

theorem isBlank_of_isDigit {c : Char} (h : c.isDigit = true) : isBlank c = false := by
  simp only [Char.isDigit, Bool.and_eq_true, decide_eq_true_eq, ge_iff_le, UInt32.le_iff_toNat_le] at h
  have hlow : 48 ≤ c.toNat := h.1
  have hhigh : c.toNat ≤ 57 := h.2
  exact isBlank_of_printed (by omega)

theorem isBlank_of_mem_ofInt {n : Int} {c : Char} (h : c ∈ (ofInt n).toList) : isBlank c = false := by
  rcases of_mem_ofInt h with hdigit | rfl
  · exact isBlank_of_isDigit hdigit
  · rfl

/-- A text without white space is trimmed of nothing. -/
theorem trimBlank_of_not_isBlank {cs : List Char} (h : ∀ c ∈ cs, isBlank c = false) : trimBlank cs = cs :=
  trimBy_of_ends (fun c hc => h c (List.mem_of_mem_head? hc)) fun c hc => h c (List.mem_of_mem_getLast? hc)

theorem trimBlank_ofInt (n : Int) : trimBlank (ofInt n).toList = (ofInt n).toList :=
  trimBlank_of_not_isBlank fun _ => isBlank_of_mem_ofInt

/-! ## The numerals that are read -/

/-- A numeral of an integer: one or more digits, perhaps with a sign in front. -/
inductive Denotes : List Char → Int → Prop where
  | plain {ds : List Char} : ds ≠ [] → (∀ c ∈ ds, c.isDigit = true) → Denotes ds (Nat.ofDigitChars 10 ds 0)
  | plus {ds : List Char} : ds ≠ [] → (∀ c ∈ ds, c.isDigit = true) → Denotes ('+' :: ds) (Nat.ofDigitChars 10 ds 0)
  | minus {ds : List Char} : ds ≠ [] → (∀ c ∈ ds, c.isDigit = true) → Denotes ('-' :: ds) (-Nat.ofDigitChars 10 ds 0)

theorem isDigit_of_continue? : ∀ {ds : List Char} {acc n : Nat}, continue? acc ds = some n → ∀ c ∈ ds, c.isDigit = true
  | d :: ds, acc, n, h, c, hc => by
    rw [continue?] at h
    obtain ⟨k, hk, hrest⟩ := Option.bind_eq_some_iff.1 h
    rcases List.mem_cons.1 hc with rfl | hc
    · rw [digit?] at hk
      split at hk
      · next hdigit =>
        simp only [Char.isDigit, Bool.and_eq_true, decide_eq_true_eq]
        exact hdigit
      · cases hk
    · exact isDigit_of_continue? hrest c hc

theorem natural?_eq_some {ds : List Char} {n : Nat} :
    natural? ds = some n ↔ ds ≠ [] ∧ (∀ c ∈ ds, c.isDigit = true) ∧ n = Nat.ofDigitChars 10 ds 0 := by
  unfold natural?
  by_cases hempty : ds = []
  · subst hempty
    exact iff_of_false nofun fun h => h.1 rfl
  · rw [if_neg (by simpa using hempty)]
    constructor
    · intro h
      have hdigits := isDigit_of_continue? h
      rw [continue?_eq hdigits] at h
      exact ⟨hempty, hdigits, (Option.some.inj h).symm⟩
    · rintro ⟨-, hdigits, rfl⟩
      exact continue?_eq hdigits

/-- **What is read as an integer is a numeral of that integer.** -/
theorem integer?_eq_some {cs : List Char} {z : Int} : integer? cs = some z ↔ Denotes cs z := by
  constructor
  · intro h
    unfold integer? at h
    split at h
    · obtain ⟨n, hn, rfl⟩ := Option.map_eq_some_iff.1 h
      obtain ⟨hempty, hdigits, rfl⟩ := natural?_eq_some.1 hn
      exact .plus hempty hdigits
    · obtain ⟨n, hn, rfl⟩ := Option.map_eq_some_iff.1 h
      obtain ⟨hempty, hdigits, rfl⟩ := natural?_eq_some.1 hn
      exact .minus hempty hdigits
    · obtain ⟨n, hn, rfl⟩ := Option.map_eq_some_iff.1 h
      obtain ⟨hempty, hdigits, rfl⟩ := natural?_eq_some.1 hn
      exact .plain hempty hdigits
  · rintro (⟨hempty, hdigits⟩ | ⟨hempty, hdigits⟩ | ⟨hempty, hdigits⟩)
    · rw [integer?_of_isDigit hdigits, natural?_eq_some.2 ⟨hempty, hdigits, rfl⟩]
      rfl
    · rw [integer?, natural?_eq_some.2 ⟨hempty, hdigits, rfl⟩]
      rfl
    · rw [integer?, natural?_eq_some.2 ⟨hempty, hdigits, rfl⟩]
      rfl

theorem Denotes.not_isBlank {cs : List Char} {n : Int} (h : Denotes cs n) : ∀ c ∈ cs, isBlank c = false := by
  have hsigned : ∀ {sign : Char} {ds : List Char}, isBlank sign = false → (∀ c ∈ ds, c.isDigit = true) →
      ∀ c ∈ sign :: ds, isBlank c = false := fun hsign hds =>
    List.forall_mem_cons.2 ⟨hsign, fun c hc => isBlank_of_isDigit (hds c hc)⟩
  cases h with
  | plain _ hds => exact fun c hc => isBlank_of_isDigit (hds c hc)
  | plus _ hds => exact hsigned rfl hds
  | minus _ hds => exact hsigned rfl hds

theorem ofInt_eq_iff {z : Int} (hlow : -0x8000000000000000 ≤ z) (hhigh : z < 0x8000000000000000) (i : Int64) :
    Int64.ofInt z = i ↔ z = i.toInt := by
  refine ⟨fun h => ?_, fun h => by rw [h, Int64.ofInt_toInt]⟩
  rw [← h]
  exact (Int64.toInt_ofInt_of_le hlow hhigh).symm

/-- **An integer of 64 bits is read of its numerals and of nothing else.** -/
theorem int64?_eq_some {cs : List Char} {i : Int64} : int64? cs = some i ↔ Denotes cs i.toInt := by
  have hlow := i.le_toInt
  have hhigh := i.toInt_lt
  rw [int64?, Option.bind_eq_some_iff, ← integer?_eq_some]
  constructor
  · rintro ⟨z, hz, h⟩
    split at h
    · next hfits => rwa [(ofInt_eq_iff hfits.1 hfits.2 i).1 (Option.some.inj h)] at hz
    · cases h
  · intro h
    exact ⟨i.toInt, h, by rw [if_pos ⟨hlow, hhigh⟩, Int64.ofInt_toInt]⟩

/-- Does an integer fit into 64 bits with a sign? -/
def Fits (n : Int) : Prop := -0x8000000000000000 ≤ n ∧ n < 0x8000000000000000

instance (n : Int) : Decidable (Fits n) := inferInstanceAs (Decidable (_ ∧ _))

/-- Where zero stands in for what does not fit, a numeral is read as its integer or, if that does not fit, as zero. -/
theorem toInt_int64?_getD {cs : List Char} {n : Int} (h : Denotes cs n) :
    ((int64? cs).getD 0).toInt = if Fits n then n else 0 := by
  rw [int64?, integer?_eq_some.2 h, Option.bind_some]
  by_cases hn : Fits n
  · have hread : -0x8000000000000000 ≤ n ∧ n < 0x8000000000000000 := hn
    rw [if_pos hread, if_pos hn]
    exact Int64.toInt_ofInt_of_le hn.1 hn.2
  · have hread : ¬ (-0x8000000000000000 ≤ n ∧ n < 0x8000000000000000) := hn
    rw [if_neg hread, if_neg hn]
    rfl

/-! ## Zeros in front -/

/-- Zeros in front of digits change nothing. -/
theorem continue?_zeros (cs : List Char) : ∀ k : Nat, continue? 0 (List.replicate k '0' ++ cs) = continue? 0 cs
  | 0 => rfl
  | k + 1 => continue?_zeros cs k

theorem natural?_zeros {cs : List Char} (h : cs ≠ []) (k : Nat) :
    natural? (List.replicate k '0' ++ cs) = natural? cs := by
  rw [natural?, natural?, if_neg (by simp [h]), if_neg (by simp [h]), continue?_zeros]

/-- A number that is not negative is read back from its text with zeros in front. -/
theorem int64?_zeros_of_nonneg {n : Int64} (h : 0 ≤ n.toInt) (k : Nat) :
    int64? (List.replicate k '0' ++ (ofInt n.toInt).toList) = some n := by
  obtain ⟨m, hm⟩ := Int.eq_ofNat_of_zero_le h
  have hdigits : ∀ c ∈ Nat.toDigits 10 m, c.isDigit = true := fun c hc => isDigit_of_mem_toDigits hc
  have hpadded : ∀ c ∈ List.replicate k '0' ++ Nat.toDigits 10 m, c.isDigit = true := by
    intro c hc
    rcases List.mem_append.1 hc with hc | hc
    · rw [List.eq_of_mem_replicate hc]
      rfl
    · exact hdigits c hc
  have hsame : integer? (List.replicate k '0' ++ (ofInt n.toInt).toList) = integer? (ofInt n.toInt).toList := by
    rw [hm, toList_ofInt_natCast, integer?_of_isDigit hpadded, integer?_of_isDigit hdigits,
      natural?_zeros Nat.toDigits_ne_nil]
  rw [← int64?_ofInt n, int64?, int64?, hsame]

/-- A negative number with zeros in front is no number: they stand before its sign. -/
theorem int64?_zeros_of_neg {n : Int64} (h : n.toInt < 0) (k : Nat) :
    int64? (List.replicate (k + 1) '0' ++ (ofInt n.toInt).toList) = none := by
  obtain ⟨m, hm⟩ := Int.eq_negSucc_of_lt_zero h
  have hnatural : natural? (List.replicate (k + 1) '0' ++ '-' :: Nat.toDigits 10 (m + 1)) = none := by
    rw [natural?_zeros (List.cons_ne_nil _ _)]
    rfl
  have hinteger : integer? (List.replicate (k + 1) '0' ++ '-' :: Nat.toDigits 10 (m + 1)) =
      (natural? (List.replicate (k + 1) '0' ++ '-' :: Nat.toDigits 10 (m + 1))).map Int.ofNat := rfl
  rw [hm, toList_ofInt_negSucc, int64?, hinteger, hnatural]
  rfl

end Harvest.Text.Numeral
