import Harvest.Text.Utf8
/-!
# UTF-8 is read back

The bytes of a character are read as the character, whatever follows them (`units_encodeChar`), so the bytes of a text
are read as the text (`decode?_encode`).
-/
namespace Harvest.Text.Utf8

theorem toNat_ofNat {n : Nat} (h : n < 256) : (UInt8.ofNat n).toNat = n := by
  rw [UInt8.toNat_ofNat']
  omega

/-! ## One character -/

/-- A byte owed adds its six bits. -/
theorem tails_cons {acc low high k v : Nat} {rest : List UInt8} (hlow : low ≤ 0x80 + v) (hhigh : 0x80 + v ≤ high)
    (hbyte : v < 64) : tails acc low high (k + 1) (UInt8.ofNat (0x80 + v) :: rest) =
      ((tails (acc * 64 + v) 0x80 0xBF k rest).1, (tails (acc * 64 + v) 0x80 0xBF k rest).2 + 1) := by
  have hv : 0x80 + v - 0x80 = v := by omega
  simp only [tails, toNat_ofNat (show 0x80 + v < 256 by omega), hlow, hhigh, decide_true, Bool.and_self, if_true, hv]

theorem tails_zero (acc low high : Nat) (rest : List UInt8) : tails acc low high 0 rest = (some acc, 0) := rfl

theorem lead?_two {v : Nat} (hlow : 2 ≤ v) (hhigh : v < 32) : lead? (0xC0 + v) = some ⟨v, 1, 0x80, 0xBF⟩ := by
  have hv : 0xC0 + v - 0xC0 = v := by omega
  unfold lead?
  rw [if_pos (by simp; omega), hv]

/-- The second byte is bounded where a shorter form or a surrogate would be written. -/
theorem lead?_three {v w : Nat} (hv : v < 16) (hw : w < 64) (hshort : 0x800 ≤ v * 4096 + w * 64 + 63)
    (hvalid : v * 64 + w < 0x360 ∨ 0x37F < v * 64 + w) :
    ∃ low high, lead? (0xE0 + v) = some ⟨v, 2, low, high⟩ ∧ low ≤ 0x80 + w ∧ 0x80 + w ≤ high := by
  have hbits : 0xE0 + v - 0xE0 = v := by omega
  unfold lead?
  rw [if_neg (by simp; omega)]
  by_cases h0 : v = 0
  · subst h0
    exact ⟨0xA0, 0xBF, rfl, by omega, by omega⟩
  by_cases hd : v = 0xD
  · subst hd
    exact ⟨0x80, 0x9F, rfl, by omega, by omega⟩
  · rw [if_neg (by simp; omega), if_neg (by simp; omega), if_pos (by simp; omega), hbits]
    exact ⟨0x80, 0xBF, rfl, by omega, by omega⟩

theorem lead?_four {v w : Nat} (hw : w < 64) (hshort : 16 ≤ v * 64 + w) (hlast : v * 64 + w < 0x110) :
    ∃ low high, lead? (0xF0 + v) = some ⟨v, 3, low, high⟩ ∧ low ≤ 0x80 + w ∧ 0x80 + w ≤ high := by
  have hbits : 0xF0 + v - 0xF0 = v := by omega
  unfold lead?
  rw [if_neg (by simp; omega), if_neg (by simp; omega), if_neg (by simp; omega), if_neg (by simp; omega)]
  by_cases h0 : v = 0
  · subst h0
    exact ⟨0x90, 0xBF, rfl, by omega, by omega⟩
  by_cases h4 : v = 4
  · subst h4
    exact ⟨0x80, 0x8F, rfl, by omega, by omega⟩
  · rw [if_neg (by simp; omega), if_pos (by simp; omega), hbits]
    exact ⟨0x80, 0xBF, rfl, by omega, by omega⟩

theorem units_cons (fuel : Nat) (b : UInt8) (rest : List UInt8) :
    units (fuel + 1) (b :: rest) = (head b rest).1 :: units fuel (rest.drop (head b rest).2) := rfl

/-- A longer character is read from its leading byte and those owed behind it. -/
theorem head_lead {b : Nat} (hb : 0x80 ≤ b) (hbyte : b < 256) {l : Lead} (hl : lead? b = some l) {n k : Nat}
    {rest : List UInt8} (htails : tails l.bits l.low l.high l.tails rest = (some n, k)) :
    head (UInt8.ofNat b) rest = (some (Char.ofNat n), k) := by
  unfold head
  simp only [toNat_ofNat hbyte, if_neg (Nat.not_lt.2 hb), hl, htails, Option.map_some]

/-- **The bytes of a character are read as the character**, whatever follows. -/
theorem units_encodeChar (c : Char) (rest : List UInt8) (fuel : Nat) :
    units (fuel + 1) (encodeChar c ++ rest) = some c :: units fuel rest := by
  have hvalid : c.toNat < 0xD800 ∨ 0xDFFF < c.toNat ∧ c.toNat < 0x110000 := c.valid
  have hc : Char.ofNat c.toNat = c := Char.ofNat_toNat c
  unfold encodeChar
  -- The bits of the code point, six by six from its end.
  generalize c.toNat = n at hvalid hc
  dsimp only
  split
  · next h =>
    have hhead : head (UInt8.ofNat n) rest = (some (Char.ofNat n), 0) := by
      unfold head
      rw [toNat_ofNat (by omega), if_pos h]
    rw [List.singleton_append, units_cons, hhead, hc]
    rfl
  · split
    · have hn : n / 64 * 64 + n % 64 = n := by omega
      rw [List.cons_append, List.singleton_append, units_cons,
        head_lead (by omega) (by omega) (lead?_two (v := n / 64) (by omega) (by omega)) (by
          dsimp only
          rw [tails_cons (by omega) (by omega) (by omega), tails_zero, hn]), hc]
      rfl
    · split
      · have hn : (n / 4096 * 64 + n / 64 % 64) * 64 + n % 64 = n := by omega
        obtain ⟨low, high, hlead, hlow, hhigh⟩ := lead?_three (v := n / 4096) (w := n / 64 % 64) (by omega) (by omega)
          (by omega) (by omega)
        rw [List.cons_append, List.cons_append, List.singleton_append, units_cons,
          head_lead (by omega) (by omega) hlead (by
            rw [tails_cons hlow hhigh (by omega), tails_cons (by omega) (by omega) (by omega), tails_zero, hn]), hc]
        rfl
      · have hn : ((n / 262144 * 64 + n / 4096 % 64) * 64 + n / 64 % 64) * 64 + n % 64 = n := by omega
        obtain ⟨low, high, hlead, hlow, hhigh⟩ := lead?_four (v := n / 262144) (w := n / 4096 % 64) (by omega) (by omega)
          (by omega)
        rw [List.cons_append, List.cons_append, List.cons_append, List.singleton_append, units_cons,
          head_lead (by omega) (by omega) hlead (by
            rw [tails_cons hlow hhigh (by omega), tails_cons (by omega) (by omega) (by omega),
              tails_cons (by omega) (by omega) (by omega), tails_zero, hn]), hc]
        rfl

/-! ## Texts -/

theorem units_encode : ∀ (cs : List Char) {fuel : Nat}, (encode cs).length ≤ fuel → units fuel (encode cs) = cs.map some
  | [], 0, _ => rfl
  | [], _ + 1, _ => rfl
  | c :: cs, fuel, h => by
    have hpos : 0 < (encodeChar c).length := by
      unfold encodeChar
      extract_lets
      split
      · exact Nat.one_pos
      · split
        · exact Nat.succ_pos _
        · split <;> exact Nat.succ_pos _
    have hcons : encode (c :: cs) = encodeChar c ++ encode cs := List.flatMap_cons
    rw [hcons, List.length_append] at h
    obtain ⟨fuel, rfl⟩ := Nat.exists_eq_add_one_of_ne_zero (n := fuel) (by omega)
    rw [hcons, units_encodeChar, units_encode cs (by omega)]
    rfl

/-- **The bytes of a text are read as the text.** -/
theorem decode?_encode (cs : List Char) : decode? (encode cs) = some cs := by
  have hall : cs.mapM some = some (cs.map id) := List.mapM_pure
  unfold decode?
  rw [units_encode cs (Nat.le_refl _), List.mapM_map]
  simpa using hall

theorem toString?_ofString (s : String) : toString? (ofString s) = some s := by
  unfold toString? ofString
  rw [decode?_encode, Option.map_some, String.ofList_toList]

end Harvest.Text.Utf8
