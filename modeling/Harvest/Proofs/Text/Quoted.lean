import Harvest.Proofs.Text.Utf8
import Harvest.Text.Blank
import Harvest.Text.Quoted
import Mathlib.Data.List.DropRight
import Mathlib.Tactic.Ring
/-!
# Quoting and back

Between quotes every character has one of four spellings (`Spelled`).  Whatever they are, they are read back
(`decode_encode`), also without the quotes around them (`decode_flatMap`); no control character is left in them, and a
quote among them stands behind an odd number of backslashes (`odd_backslashes`).  Trimming takes whole spellings off
their ends (`trimBlank_flatMap`).
-/
namespace Harvest.Text.Quoted

/-! ## Digits -/

theorem digit?_hexDigit : ∀ {d : Nat}, d < 16 → digit? 16 (hexDigit d) = some d := by decide

theorem isControl_hexDigit : ∀ {d : Nat}, d < 16 → isControl (hexDigit d) = false := by decide

theorem digits?_succ (base : Nat) : ∀ (count acc : Nat) (cs : List Char), digits? base (count + 1) acc cs =
    (digits? base count acc cs).bind fun r => digits? base 1 r.1 r.2
  | 0, _, _ => rfl
  | _ + 1, _, [] => rfl
  | count + 1, acc, c :: cs => by
    rw [digits?, digits?]
    cases digit? base c with
    | none => rfl
    | some d => exact digits?_succ base count _ cs

/-- **The digits of a number are read as its last digits.** -/
theorem digits?_hexDigits : ∀ (width n acc : Nat) (rest : List Char),
    digits? 16 width acc (hexDigits width n ++ rest) = some (acc * 16 ^ width + n % 16 ^ width, rest)
  | 0, n, acc, rest => by simp [digits?, hexDigits, Nat.mod_one]
  | width + 1, n, acc, rest => by
    have hvalue : (acc * 16 ^ width + n / 16 % 16 ^ width) * 16 + n % 16 =
        acc * 16 ^ (width + 1) + n % 16 ^ (width + 1) := by
      rw [Nat.pow_succ', Nat.mod_mul]
      ring
    have hone : digits? 16 1 (acc * 16 ^ width + n / 16 % 16 ^ width) (hexDigit (n % 16) :: rest) =
        some (acc * 16 ^ (width + 1) + n % 16 ^ (width + 1), rest) := by
      rw [digits?, digit?_hexDigit (Nat.mod_lt n (by decide)), ← hvalue]
      rfl
    rw [hexDigits, List.append_assoc, digits?_succ, digits?_hexDigits width, Option.bind_some]
    exact hone

theorem mem_hexDigits {c : Char} : ∀ {width n : Nat}, c ∈ hexDigits width n → ∃ d < 16, c = hexDigit d
  | width + 1, n, h => by
    rcases List.mem_append.1 h with h | h
    · exact mem_hexDigits h
    · exact ⟨n % 16, Nat.mod_lt n (by decide), List.mem_singleton.1 h⟩

/-! ## Spellings -/

/-- The ways to spell a character between quotes. -/
inductive Spelled (c : Char) : List Char → Prop where
  | plain (hquote : c ≠ '"') (hback : c ≠ '\\') (hcontrol : isControl c = false) : Spelled c [c]
  | letter {l : Char} (h : letter? c = some l) : Spelled c ['\\', l]
  | byte (h : c.toNat < 0x80) : Spelled c ('\\' :: 'x' :: hexDigits 2 c.toNat)
  | code (h : isControl c = true) : Spelled c ('\\' :: 'u' :: hexDigits 4 c.toNat)

theorem spelled_encodeChar (c : Char) : Spelled c (encodeChar c) := by
  unfold encodeChar
  split
  · next h => exact .letter h
  · next h =>
    split
    · next hlow =>
      refine .byte ?_
      simp only [Bool.or_eq_true, decide_eq_true_eq, beq_iff_eq] at hlow
      omega
    · split
      · next hcontrol => exact .code hcontrol
      · next hcontrol =>
        refine .plain ?_ ?_ (Bool.not_eq_true _ ▸ hcontrol)
        · rintro rfl
          exact absurd h (by decide)
        · rintro rfl
          exact absurd h (by decide)

/-- What a letter behind a backslash stands for. -/
theorem letter?_eq_some {c l : Char} (h : letter? c = some l) :
    simpleEscape? l = some (UInt8.ofNat c.toNat) ∧ c.toNat < 0x80 := by
  unfold letter? at h
  split at h
  · next hc =>
    cases h
    cases eq_of_beq hc
    decide
  · split at h
    · next hc =>
      cases h
      cases eq_of_beq hc
      decide
    · split at h
      case h_8 => cases h
      all_goals
        next hc =>
          cases h
          rw [hc]
          exact ⟨rfl, by decide⟩

theorem simpleEscape?_eq_some {l : Char} {b : UInt8} (h : simpleEscape? l = some b) :
    isControl l = false ∧ isBlank l = false := by
  unfold simpleEscape? at h
  split at h
  case h_11 => cases h
  all_goals exact ⟨rfl, rfl⟩

/-- A character of one byte. -/
theorem encodeChar_ascii {c : Char} (h : c.toNat < 0x80) : Utf8.encodeChar c = [UInt8.ofNat c.toNat] := if_pos h

/-! ## Reading a spelling back -/

theorem bytes_back {e : Char} {bs : List UInt8} {cs rest : List Char} (h : escape e cs = .ok (bs, rest)) (fuel : Nat) :
    bytes (fuel + 1) ('\\' :: e :: cs) = do return bs ++ (← bytes fuel rest) := by
  rw [bytes, if_neg (by decide), if_pos (by decide)]
  simp only [h]
  rfl

theorem escape_letter {e : Char} {b : UInt8} (h : simpleEscape? e = some b) (cs : List Char) :
    escape e cs = .ok ([b], cs) := by
  unfold escape
  rw [h]

theorem escape_x (n : Nat) (rest : List Char) :
    escape 'x' (hexDigits 2 n ++ rest) = .ok ([UInt8.ofNat (n % 256)], rest) := by
  unfold escape
  rw [digits?_hexDigits, Nat.zero_mul, Nat.zero_add]
  rfl

theorem escape_u {n : Nat} (h : n < 0xD800) (rest : List Char) :
    escape 'u' (hexDigits 4 n ++ rest) = .ok (Utf8.encodeChar (Char.ofNat n), rest) := by
  have hmod : n % 16 ^ 4 = n := Nat.mod_eq_of_lt (by omega)
  have hscalar : isScalar n = true := by simp [isScalar, h]
  unfold escape
  rw [show simpleEscape? 'u' = none from rfl, if_neg (by decide), if_pos (by decide), if_pos (by decide),
    digits?_hexDigits, Nat.zero_mul, Nat.zero_add, hmod]
  exact if_pos hscalar

/-- **A character is read back from any of its spellings**, as its bytes. -/
theorem Spelled.bytes_append {c : Char} {cs : List Char} (h : Spelled c cs) (rest : List Char) (fuel : Nat) :
    bytes (fuel + 1) (cs ++ rest) = do return Utf8.encodeChar c ++ (← bytes fuel rest) := by
  cases h with
  | plain hquote hback _ =>
    rw [List.singleton_append, bytes.eq_def]
    dsimp only
    rw [if_neg (by simpa using hquote), if_neg (by simpa using hback)]
  | letter h =>
    obtain ⟨hletter, hascii⟩ := letter?_eq_some h
    rw [encodeChar_ascii hascii]
    exact bytes_back (escape_letter hletter rest) fuel
  | byte h =>
    have hread := escape_x c.toNat rest
    rw [Nat.mod_eq_of_lt (by omega)] at hread
    rw [encodeChar_ascii h]
    exact bytes_back hread fuel
  | code h =>
    have hlow : c.toNat < 0xD800 := by
      simp only [isControl, Bool.or_eq_true, Bool.and_eq_true, decide_eq_true_eq] at h
      omega
    have hread := escape_u hlow rest
    rw [Char.ofNat_toNat] at hread
    exact bytes_back hread fuel

theorem length_encodeChar_pos (c : Char) : 0 < (encodeChar c).length := by
  generalize hcs : encodeChar c = cs
  have h : Spelled c cs := hcs ▸ spelled_encodeChar c
  cases h <;> exact Nat.succ_pos _

theorem bytes_flatMap : ∀ (cs : List Char) {fuel : Nat}, (cs.flatMap encodeChar).length ≤ fuel →
    bytes fuel (cs.flatMap encodeChar) = .ok (Utf8.encode cs)
  | [], 0, _ => rfl
  | [], _ + 1, _ => rfl
  | c :: cs, fuel, h => by
    have hpos := length_encodeChar_pos c
    rw [List.flatMap_cons, List.length_append] at h
    obtain ⟨fuel, rfl⟩ := Nat.exists_eq_add_one_of_ne_zero (n := fuel) (by omega)
    rw [List.flatMap_cons, (spelled_encodeChar c).bytes_append, bytes_flatMap cs (by omega)]
    rfl

/-! ## Reading a text back -/

theorem head?_flatMap (cs : List Char) : (cs.flatMap encodeChar).head? ≠ some '"' := by
  cases cs with
  | nil => exact nofun
  | cons c cs =>
    rw [List.flatMap_cons]
    generalize hs : encodeChar c = s
    have h : Spelled c s := hs ▸ spelled_encodeChar c
    cases h with
    | plain hquote _ _ => simpa using hquote
    | letter _ | byte _ | code _ => simp

theorem strip_encode (cs : List Char) : strip (encode cs) = cs.flatMap encodeChar := by
  simp [strip, encode]

/-- No quote opens the inside of a quoted form. -/
theorem strip_flatMap (cs : List Char) : strip (cs.flatMap encodeChar) = cs.flatMap encodeChar := by
  unfold strip
  split
  · next h =>
    have hhead := head?_flatMap cs
    rw [h] at hhead
    exact absurd rfl hhead
  · rfl

theorem decode_of_strip {cs : List Char} {text : List Char} (h : strip text = cs.flatMap encodeChar) :
    decode text = .ok cs := by
  unfold decode
  simp only [h, bytes_flatMap cs (Nat.le_refl _), Bind.bind, Except.bind, Utf8.decode?_encode]

/-- **A quoted form is read as its text.** -/
theorem decode_encode (cs : List Char) : decode (encode cs) = .ok cs := decode_of_strip (strip_encode cs)

/-- **The inside of a quoted form is read as its text.** -/
theorem decode_flatMap (cs : List Char) : decode (cs.flatMap encodeChar) = .ok cs := decode_of_strip (strip_flatMap cs)

theorem unquote_quote (s : String) : unquote (quote s) = .ok s := by
  unfold unquote quote
  rw [String.toList_ofList, decode_encode]
  simp [Except.map]

/-! ## What is left in a quoted form -/

theorem Spelled.isControl_eq_false {c d : Char} {cs : List Char} (h : Spelled c cs) (hd : d ∈ cs) :
    isControl d = false := by
  cases h with
  | plain _ _ hcontrol => exact List.mem_singleton.1 hd ▸ hcontrol
  | letter h =>
    rcases List.mem_pair.1 hd with rfl | rfl
    · decide
    · exact (simpleEscape?_eq_some (letter?_eq_some h).1).1
  | byte _ | code _ =>
    rcases List.mem_cons.1 hd with rfl | hd
    · decide
    · rcases List.mem_cons.1 hd with rfl | hd
      · decide
      · obtain ⟨n, hn, rfl⟩ := mem_hexDigits hd
        exact isControl_hexDigit hn

theorem isControl_of_mem_encode {cs : List Char} {d : Char} (h : d ∈ encode cs) : isControl d = false := by
  rcases List.mem_cons.1 h with rfl | h
  · decide
  rcases List.mem_append.1 h with h | h
  · obtain ⟨c, -, hc⟩ := List.mem_flatMap.1 h
    exact (spelled_encodeChar c).isControl_eq_false hc
  · exact List.mem_singleton.1 h ▸ rfl

/-- The length of the run of backslashes at the end of a text. -/
def backslashes (cs : List Char) : Nat := (cs.rtakeWhile (· == '\\')).length

theorem backslashes_concat (cs : List Char) (c : Char) :
    backslashes (cs ++ [c]) = if c = '\\' then backslashes cs + 1 else 0 := by
  unfold backslashes
  split
  · next h => rw [List.rtakeWhile_concat_pos _ _ _ (by simpa using h), List.length_append, List.length_singleton]
  · next h => rw [List.rtakeWhile_concat_neg _ _ _ (by simpa using h), List.length_nil]

/-- Behind a text that ends in pairs of backslashes the number of backslashes stays as even or as odd as it was. -/
theorem backslashes_append {cs : List Char} (h : backslashes cs % 2 = 0) (ds : List Char) :
    backslashes (cs ++ ds) % 2 = backslashes ds % 2 := by
  induction ds using List.reverseRecOn with
  | nil => rw [List.append_nil, h]; rfl
  | append_singleton ds d ih =>
    rw [← List.append_assoc, backslashes_concat, backslashes_concat]
    split
    · omega
    · rfl

theorem hexDigit_ne : ∀ {d : Nat}, d < 16 → hexDigit d ≠ '"' ∧ hexDigit d ≠ '\\' := by decide

/-- Behind its backslash an escape in digits has neither a quote nor a backslash. -/
theorem plain_of_mem_escape {e d : Char} {width n : Nat} (he : e ≠ '"' ∧ e ≠ '\\') (h : d ∈ e :: hexDigits width n) :
    d ≠ '"' ∧ d ≠ '\\' := by
  rcases List.mem_cons.1 h with rfl | h
  · exact he
  · obtain ⟨m, hm, rfl⟩ := mem_hexDigits h
    exact hexDigit_ne hm

theorem backslashes_escape {e : Char} {width n : Nat} (he : e ≠ '"' ∧ e ≠ '\\') :
    backslashes ('\\' :: e :: hexDigits width n) = 0 := by
  obtain ⟨front, d, hd⟩ := (List.eq_nil_or_concat (e :: hexDigits width n)).resolve_left (List.cons_ne_nil _ _)
  rw [List.concat_eq_append] at hd
  have hlast : d ∈ e :: hexDigits width n := hd ▸ List.mem_append_right front List.mem_cons_self
  rw [hd, ← List.cons_append, backslashes_concat, if_neg (plain_of_mem_escape he hlast).2]

theorem quote_not_mem_escape {e : Char} {width n : Nat} (he : e ≠ '"' ∧ e ≠ '\\') :
    '"' ∉ '\\' :: e :: hexDigits width n := by
  intro h
  rcases List.mem_cons.1 h with h | h
  · exact absurd h (by decide)
  · exact (plain_of_mem_escape he h).1 rfl

/-- A spelling ends in pairs of backslashes only. -/
theorem Spelled.backslashes_even {c : Char} {cs : List Char} (h : Spelled c cs) : backslashes cs % 2 = 0 := by
  cases h with
  | plain _ hback _ => rw [← List.nil_append [c], backslashes_concat, if_neg hback]
  | @letter l h =>
    rw [show ['\\', l] = ['\\'] ++ [l] from rfl, backslashes_concat]
    split <;> rfl
  | byte _ | code _ => rw [backslashes_escape (by decide)]

/-- A quote in a spelling stands behind one backslash. -/
theorem Spelled.odd_backslashes {c : Char} {before behind : List Char} (h : Spelled c (before ++ '"' :: behind)) :
    backslashes before % 2 = 1 := by
  generalize hcs : before ++ '"' :: behind = cs at h
  have hmem : '"' ∈ cs := hcs ▸ List.mem_append_right before List.mem_cons_self
  cases h with
  | plain hquote _ _ => exact absurd (List.mem_singleton.1 hmem).symm hquote
  | letter _ =>
    obtain _ | ⟨d, _ | ⟨e, before⟩⟩ := before
    · exact absurd (List.cons.inj hcs).1 (by decide)
    · rw [(List.cons.inj hcs).1]
      rfl
    · exact absurd hcs (by simp)
  | byte _ | code _ => exact absurd hmem (quote_not_mem_escape (by decide))

/-- **A quote inside a quoted form stands behind an odd number of backslashes.** -/
theorem odd_backslashes : ∀ (cs : List Char) {before behind : List Char},
    cs.flatMap encodeChar = before ++ '"' :: behind → backslashes before % 2 = 1
  | [], before, behind, h => absurd h (by simp)
  | c :: cs, before, behind, h => by
    have hspelled := spelled_encodeChar c
    rw [List.flatMap_cons] at h
    rcases List.append_eq_append_iff.1 h with ⟨front, rfl, hcs⟩ | ⟨front, hc, hfront⟩
    · rw [backslashes_append hspelled.backslashes_even]
      exact odd_backslashes cs hcs
    · cases front with
      | nil => exact absurd (by rw [← List.nil_append (cs.flatMap encodeChar), ← hfront]; rfl) (head?_flatMap cs)
      | cons d front =>
        cases hfront
        exact (hc ▸ hspelled).odd_backslashes

/-! ## Trimming -/

/-- Before a text that is put together from spellings, each of one plain character or with no character of the class at
its head, one takes off only plain characters. -/
theorem dropWhile_flatMap {p : Char → Bool} {f : Char → List Char}
    (hf : ∀ c, f c = [c] ∨ ∃ d ds, f c = d :: ds ∧ p d = false) :
    ∀ cs : List Char, ∃ a rest, cs = a ++ rest ∧ (∀ c ∈ a, p c = true) ∧
      (cs.flatMap f).dropWhile p = rest.flatMap f
  | [] => ⟨[], [], rfl, nofun, rfl⟩
  | c :: cs => by
    rw [List.flatMap_cons]
    rcases hf c with hc | ⟨d, ds, hc, hd⟩
    · cases hp : p c with
      | true =>
        obtain ⟨a, rest, rfl, ha, hdrop⟩ := dropWhile_flatMap hf cs
        refine ⟨c :: a, rest, rfl, List.forall_mem_cons.2 ⟨hp, ha⟩, ?_⟩
        rw [hc, List.singleton_append, List.dropWhile_cons_of_pos hp, hdrop]
      | false =>
        refine ⟨[], c :: cs, rfl, nofun, ?_⟩
        rw [hc, List.singleton_append, List.dropWhile_cons_of_neg (by simp [hp]), List.flatMap_cons, hc,
          List.singleton_append]
    · refine ⟨[], c :: cs, rfl, nofun, ?_⟩
      rw [hc, List.cons_append, List.dropWhile_cons_of_neg (by simp [hd]), List.flatMap_cons, hc, List.cons_append]

theorem isBlank_hexDigit : ∀ {d : Nat}, d < 16 → isBlank (hexDigit d) = false := by decide

theorem reverse_escape (e : Char) (width n : Nat) : ('\\' :: e :: hexDigits (width + 1) n).reverse =
    hexDigit (n % 16) :: ('\\' :: e :: hexDigits width (n / 16)).reverse := by
  rw [hexDigits, ← List.cons_append, ← List.cons_append, List.reverse_concat]

/-- A spelling of more than one character neither starts nor ends with a blank. -/
theorem Spelled.ends {c : Char} {cs : List Char} (h : Spelled c cs) :
    cs = [c] ∨ (∃ d ds, cs = d :: ds ∧ isBlank d = false) ∧ ∃ d ds, cs.reverse = d :: ds ∧ isBlank d = false := by
  cases h with
  | plain _ _ _ => exact .inl rfl
  | letter h => exact .inr ⟨⟨_, _, rfl, rfl⟩, _, _, rfl, (simpleEscape?_eq_some (letter?_eq_some h).1).2⟩
  | byte _ | code _ =>
    exact .inr ⟨⟨_, _, rfl, rfl⟩, _, _, reverse_escape _ _ _, isBlank_hexDigit (Nat.mod_lt _ (by decide))⟩

/-- What trimming leaves of the inside of a quoted form is the inside of another one, of a text without some blanks
around it. -/
theorem trimBlank_flatMap (cs : List Char) : ∃ a rest b, cs = a ++ (rest ++ b) ∧ (∀ c ∈ a, isBlank c = true) ∧
    (∀ c ∈ b, isBlank c = true) ∧ trimBlank (cs.flatMap encodeChar) = rest.flatMap encodeChar := by
  have hfront : ∀ c, encodeChar c = [c] ∨ ∃ d ds, encodeChar c = d :: ds ∧ isBlank d = false := fun c =>
    (spelled_encodeChar c).ends.imp_right And.left
  have hback : ∀ c, (encodeChar c).reverse = [c] ∨ ∃ d ds, (encodeChar c).reverse = d :: ds ∧ isBlank d = false :=
    fun c => (spelled_encodeChar c).ends.imp (fun h => by rw [h]; rfl) And.right
  obtain ⟨a, mid, rfl, ha, hmid⟩ := dropWhile_flatMap hfront cs
  obtain ⟨b, rest, hrest, hb, hlast⟩ := dropWhile_flatMap hback mid.reverse
  have hmid' : mid = rest.reverse ++ b.reverse := by
    rw [← List.reverse_append, ← hrest, List.reverse_reverse]
  refine ⟨a, rest.reverse, b.reverse, by rw [hmid'], ha, fun c hc => hb c (List.mem_reverse.1 hc), ?_⟩
  unfold trimBlank trimBy
  rw [hmid, List.reverse_flatMap]
  refine (congrArg List.reverse hlast).trans ?_
  rw [List.flatMap_reverse]
  rfl

end Harvest.Text.Quoted
