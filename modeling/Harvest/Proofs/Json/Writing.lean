import Harvest.Proofs.Json.Locality
import Harvest.Text.Find
/-!
# Compact texts that are read again

A string in its quotes is read as the string (`reads_quoted`), and what arrays and objects are written from is read as
their items and fields (`reads_array`, `reads_object`), whatever follows.
-/
namespace Harvest.Json.Source

variable {α : Type}

theorem skip_token {c : Char} (hc : isSpace c = false) (cs : List Char) : skip (c :: cs) = c :: cs :=
  List.dropWhile_cons_of_neg (by simp [hc])

/-- The text `p`, which starts with a token that closes no array, is read as a value whatever follows it. -/
structure Reads (p : List Char) (s : Source) : Prop where
  head : ∃ c q, p = c :: q ∧ isSpace c = false ∧ c ≠ ']'
  value : ∀ fuel rest, p.length < fuel → value? fuel (p ++ rest) = some (s, rest)

theorem Reads.skip {p : List Char} {s : Source} (h : Reads p s) (rest : List Char) : skip (p ++ rest) = p ++ rest := by
  obtain ⟨c, q, rfl, hc, -⟩ := h.head
  exact skip_token hc _

/-- A text that is read as a value whatever follows it is the text of that value. -/
theorem Reads.parse? {p : List Char} {s : Source} (h : Reads p s) : parse? p = some s := by
  have hskip := h.skip []
  have hvalue := h.value (p.length + 1) [] (Nat.lt_succ_self _)
  rw [List.append_nil] at hskip hvalue
  unfold Source.parse?
  rw [hskip, hvalue]
  rfl

/-! ## Strings -/

theorem hex4?_hexDigit : ∀ n < 32, hex4? '0' '0' (hexDigit (n / 16)) (hexDigit (n % 16)) = some n := by decide

theorem codes?_escapeChar (c : Char) (acc : List Nat) (cs : List Char) :
    codes? acc (escapeChar c ++ cs) = codes? (c.toNat :: acc) cs := by
  by_cases hq : c = '"'
  · subst hq
    rfl
  by_cases hb : c = '\\'
  · subst hb
    rfl
  have hshort : ∀ {d : Char}, c.toNat = d.toNat → c = d := fun h => Char.toNat_inj.1 h
  unfold escapeChar
  simp only [beq_iff_eq, hq, hb, if_false]
  split
  · next h => cases hshort (d := '\x08') h; rfl
  · next h => cases hshort (d := '\t') h; rfl
  · next h => cases hshort (d := '\n') h; rfl
  · next h => cases hshort (d := '\x0c') h; rfl
  · next h => cases hshort (d := '\r') h; rfl
  · split
    · next hlt =>
      simp only [List.cons_append, List.nil_append, codes?, hex4?_hexDigit c.toNat hlt]
    · next hlt =>
      rw [List.singleton_append, codes?.eq_5 _ _ _ hq (fun _ _ _ _ _ h => absurd h hb) (fun _ _ h => absurd h hb),
        if_neg (by simp [hb]; omega)]

theorem codes?_quoted (cs : List Char) (acc : List Nat) (rest : List Char) :
    codes? acc (cs.flatMap escapeChar ++ '"' :: rest) = some (acc.reverse ++ cs.map Char.toNat, rest) := by
  induction cs generalizing acc with
  | nil => simp [codes?]
  | cons c cs ih =>
    rw [List.flatMap_cons, List.append_assoc, codes?_escapeChar, ih]
    simp

theorem ofCodes_toNat (cs acc : List Char) : ofCodes acc (cs.map Char.toNat) = some (acc.reverse ++ cs) := by
  induction cs generalizing acc with
  | nil => simp [ofCodes]
  | cons c cs ih =>
    -- A character is no surrogate, so its code is taken as it is.
    have hvalid : c.toNat < 0xD800 ∨ 0xDFFF < c.toNat ∧ c.toNat < 0x110000 := c.valid
    rw [List.map_cons]
    unfold ofCodes
    rw [if_neg (by simp; omega), if_neg (by simp; omega), Char.ofNat_toNat, ih]
    simp

theorem string?_quoted (t : String) (rest : List Char) :
    string? (t.toList.flatMap escapeChar ++ '"' :: rest) = some (some t, rest) := by
  unfold string?
  rw [codes?_quoted]
  simp [ofCodes_toNat]

/-- **A string in its quotes is read as the string.** -/
theorem reads_quoted (t : String) : Reads (quoted t) (.string (some t)) where
  head := ⟨'"', _, rfl, rfl, by decide⟩
  value fuel rest hfuel := by
    obtain ⟨f, rfl⟩ := Nat.exists_eq_add_one_of_ne_zero (Nat.ne_zero_of_lt hfuel)
    unfold quoted
    rw [List.cons_append, List.append_assoc, List.singleton_append]
    show (string? _).map _ = _
    rw [string?_quoted]
    rfl

/-! ## Arrays and objects -/

/-- The text `p` is read as one item of a list, whatever closes the list or comes next in it. -/
structure Item (read : Nat → List Char → Option (List α × List Char)) (close : Char) (p : List Char) (a : α) :
    Prop where
  head : ∃ c q, p = c :: q ∧ isSpace c = false ∧ c ≠ close
  last : ∀ fuel rest, p.length < fuel → read (fuel + 1) (p ++ close :: rest) = some ([a], rest)
  next : ∀ fuel rest, p.length < fuel →
    read (fuel + 1) (p ++ ',' :: rest) = (read fuel (skip rest)).map fun x => (a :: x.1, x.2)

theorem Item.skip {read : Nat → List Char → Option (List α × List Char)} {close : Char} {p : List Char} {a : α}
    (h : Item read close p a) (rest : List Char) :
    Source.skip (p ++ rest) = p ++ rest ∧ ∀ rest', p ++ rest ≠ close :: rest' := by
  obtain ⟨c, q, rfl, hspace, hclose⟩ := h.head
  refine ⟨skip_token hspace _, fun rest' heq => ?_⟩
  exact hclose (List.cons.inj heq).1

theorem join_head (x : List Char × α) (ps : List (List Char × α)) (rest : List Char) :
    ∃ tail, Text.join [','] ((x :: ps).map Prod.fst) ++ rest = x.1 ++ tail := by
  cases ps with
  | nil => exact ⟨rest, rfl⟩
  | cons y ps => exact ⟨_, by rw [List.map_cons, Text.join_cons _ _ (by simp), List.append_assoc, List.append_assoc]⟩

/-- Items with commas between them are read as their list. -/
theorem closes_join {read : Nat → List Char → Option (List α × List Char)} {close : Char} :
    ∀ {ps : List (List Char × α)}, ps ≠ [] → (∀ x ∈ ps, Item read close x.1 x.2) →
      Closes read close (Text.join [','] (ps.map Prod.fst)) (ps.map Prod.snd)
  | [x], _, h, rest, fuel, hfuel => by
    obtain ⟨f, rfl⟩ := Nat.exists_eq_add_one_of_ne_zero (Nat.ne_zero_of_lt hfuel)
    exact (h x List.mem_cons_self).last f rest (Nat.lt_of_succ_lt_succ hfuel)
  | x :: y :: ps, _, h, rest, fuel, hfuel => by
    obtain ⟨f, rfl⟩ := Nat.exists_eq_add_one_of_ne_zero (Nat.ne_zero_of_lt hfuel)
    have hx := h x List.mem_cons_self
    have hy := h y (List.mem_cons_of_mem x List.mem_cons_self)
    have hrest := closes_join (List.cons_ne_nil y ps) fun z hz => h z (List.mem_cons_of_mem x hz)
    obtain ⟨tail, htail⟩ := join_head y ps (close :: rest)
    rw [List.map_cons, Text.join_cons [','] x.1 (by simp)] at hfuel ⊢
    simp only [List.length_append, List.length_singleton] at hfuel
    rw [List.append_assoc, List.append_assoc, List.singleton_append, hx.next f _ (by omega)]
    rw [htail, (hy.skip tail).1, ← htail, hrest rest f (by omega)]
    rfl

theorem item_value {p : List Char} {s : Source} (h : Reads p s) : Item items? ']' p s where
  head := h.head
  last fuel rest hfuel := by
    rw [items?, h.value fuel _ hfuel]
    rfl
  next fuel rest hfuel := by
    rw [items?, h.value fuel _ hfuel]
    rfl

theorem Reads.behind_colon {p : List Char} {s : Source} (h : Reads p s) {name : String} {fuel : Nat}
    (hfuel : (quoted name ++ ':' :: p).length < fuel) (rest : List Char) :
    value? fuel (Source.skip (p ++ rest)) = some (s, rest) := by
  rw [h.skip]
  refine h.value fuel rest ?_
  simp only [List.length_append, List.length_cons] at hfuel
  omega

theorem item_field (name : String) {p : List Char} {s : Source} (h : Reads p s) :
    Item fields? '\x7d' (quoted name ++ ':' :: p) (some name, s) where
  head := ⟨'"', _, rfl, rfl, by decide⟩
  last fuel rest hfuel := by
    have hvalue := h.behind_colon hfuel ('\x7d' :: rest)
    have hcolon := skip_token (c := ':') rfl (p ++ '\x7d' :: rest)
    have hclose := skip_token (c := '\x7d') rfl rest
    simp only [quoted, List.cons_append, List.append_assoc, List.nil_append, fields?, string?_quoted, hcolon, hvalue,
      hclose]
  next fuel rest hfuel := by
    have hvalue := h.behind_colon hfuel (',' :: rest)
    have hcolon := skip_token (c := ':') rfl (p ++ ',' :: rest)
    have hcomma := skip_token (c := ',') rfl rest
    simp only [quoted, List.cons_append, List.append_assoc, List.nil_append, fields?, string?_quoted, hcolon, hvalue,
      hcomma]

theorem reads_composite (read : Nat → List Char → Option (List α × List Char)) {o c : Char} {w : List α → Source}
    (ho : isSpace o = false ∧ o ≠ ']')
    (hfull : ∀ fuel r, (∀ rest, Source.skip r ≠ c :: rest) →
      value? (fuel + 1) (o :: r) = (read fuel (Source.skip r)).map fun x => (w x.1, x.2))
    {ps : List (List Char × α)} (hps : ps ≠ []) (h : ∀ x ∈ ps, Item read c x.1 x.2) :
    Reads (o :: (Text.join [','] (ps.map Prod.fst) ++ [c])) (w (ps.map Prod.snd)) where
  head := ⟨o, _, rfl, ho⟩
  value fuel rest hfuel := by
    obtain ⟨f, rfl⟩ := Nat.exists_eq_add_one_of_ne_zero (Nat.ne_zero_of_lt hfuel)
    obtain ⟨x, ps, rfl⟩ := List.exists_cons_of_ne_nil hps
    have hcloses := closes_join hps h
    obtain ⟨tail, htail⟩ := join_head x ps (c :: rest)
    obtain ⟨hskip, hopen⟩ := (h x List.mem_cons_self).skip tail
    rw [← htail] at hskip hopen
    simp only [List.length_cons, List.length_append, List.length_nil] at hfuel
    rw [List.cons_append, List.append_assoc, List.singleton_append, hfull f _ (by rwa [hskip]), hskip,
      hcloses rest f (by omega)]
    rfl

/-- **Values with commas between them are read as an array.** -/
theorem reads_array (ps : List (List Char × Source)) (hps : ps ≠ []) (h : ∀ x ∈ ps, Reads x.1 x.2) :
    Reads ('[' :: (Text.join [','] (ps.map Prod.fst) ++ [']'])) (.array (ps.map Prod.snd)) := by
  refine reads_composite items? (by decide) (fun f r hr => ?_) hps fun x hx => item_value (h x hx)
  simp only [value?]

/-- **Fields with commas between them are read as an object.** -/
theorem reads_object {ps : List (List Char × Option String × Source)} (hps : ps ≠ [])
    (h : ∀ x ∈ ps, Item fields? '\x7d' x.1 x.2) :
    Reads ('\x7b' :: (Text.join [','] (ps.map Prod.fst) ++ ['\x7d'])) (.object (ps.map Prod.snd)) := by
  refine reads_composite fields? (by decide) (fun f r hr => ?_) hps h
  simp only [value?]

end Harvest.Json.Source
