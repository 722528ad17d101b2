import Harvest.Proofs.Json.Locality
import Harvest.Proofs.Text.Find
import Harvest.Proofs.Text.Quoted
import Harvest.Scalar
/-!
# JSON texts in quotes

Outside its strings a JSON text has no backslash, so that none is read where a backslash comes before the first quote
(`parse?_of_escaped`).  The inside of a quoted form has either nothing to escape or a backslash before its first quote,
and hence an array or object is found in every form of its text (`embedded_forms`).
-/
namespace Harvest

namespace Json.Source

/-- A backslash comes before the first quote of the text. -/
def Escaped (cs : List Char) : Prop := (cs.find? fun c => c == '"' || c == '\\') = some '\\'

theorem not_escaped_nil : ¬ Escaped [] := fun h => nomatch h

theorem not_escaped_quote {cs : List Char} : ¬ Escaped ('"' :: cs) := fun h => absurd (Option.some.inj h) (by decide)

theorem escaped_back (cs : List Char) : Escaped ('\\' :: cs) := rfl

theorem escaped_cons {c : Char} {cs : List Char} (hquote : c ≠ '"') (hback : c ≠ '\\') :
    Escaped (c :: cs) ↔ Escaped cs := by
  have hc : (c == '"' || c == '\\') = false := by simp [hquote, hback]
  unfold Escaped
  rw [List.find?_cons, hc]

namespace Escaped

theorem tail {c : Char} {cs : List Char} (h : Escaped (c :: cs)) (hback : c ≠ '\\') : Escaped cs :=
  (escaped_cons (fun hc => not_escaped_quote (hc ▸ h)) hback).1 h

theorem dropWhile {p : Char → Bool} (hp : p '\\' = false) : ∀ {cs : List Char}, Escaped cs → Escaped (cs.dropWhile p)
  | [], h => h
  | c :: cs, h => by
    cases hc : p c with
    | true =>
      rw [List.dropWhile_cons_of_pos hc]
      exact dropWhile hp (h.tail fun hback => by rw [hback, hp] at hc; cases hc)
    | false =>
      rw [List.dropWhile_cons_of_neg (by simp [hc])]
      exact h

theorem skip {cs : List Char} (h : Escaped cs) : Escaped (skip cs) := h.dropWhile rfl

theorem digits {cs ds rest : List Char} (h : Escaped cs) (hspan : cs.span Text.Numeral.isDigit = (ds, rest)) :
    Escaped rest := by
  rw [List.span_eq_takeWhile_dropWhile] at hspan
  exact (Prod.mk.inj hspan).2 ▸ h.dropWhile (by decide)

theorem drop {word : List Char} (hword : '\\' ∉ word) {cs : List Char} (h : Escaped (word ++ cs)) : Escaped cs := by
  induction word with
  | nil => exact h
  | cons c word ih =>
    obtain ⟨hc, hword⟩ := not_or.1 (mt List.mem_cons.2 hword)
    exact ih hword (h.tail (Ne.symm hc))

end Escaped

/-! ## Readers outside of strings -/

/-- What is left behind a reader still has its backslash before its first quote. -/
def Keeps {α : Type} (read : List Char → Option (α × List Char)) : Prop :=
  ∀ {cs a rest}, read cs = some (a, rest) → Escaped cs → Escaped rest

theorem keeps_word {word : List Char} (hword : '\\' ∉ word) (s : Source) : Keeps (word? word s) := by
  intro cs t rest h hcs
  unfold word? at h
  split at h
  · next hp =>
    obtain ⟨r, rfl⟩ := List.isPrefixOf_iff_prefix.1 hp
    rw [List.drop_left] at h
    cases h
    exact hcs.drop hword
  · cases h

theorem keeps_fraction : Keeps fraction? := by
  intro cs part rest h hcs
  unfold fraction? at h
  split at h
  · next r =>
    rw [Option.bind_some] at h
    split at h
    · cases h
    · exact (hcs.tail (by decide)).digits (Option.some.inj h)
  · cases h
    exact hcs

theorem escaped_sign {cs : List Char} (h : Escaped cs) : Escaped (sign cs).2 := by
  unfold sign
  split
  · exact h.tail (by decide)
  · exact h.tail (by decide)
  · exact h

theorem keeps_exponent : Keeps exponent? := by
  intro cs e rest h hcs
  rw [exponent?_eq] at h
  split at h
  · next c r =>
    split at h
    · next hc =>
      have hback : c ≠ '\\' := by
        rintro rfl
        exact absurd hc (by decide)
      rw [Option.bind_some, Option.bind_some] at h
      obtain ⟨n, -, h⟩ := Option.bind_eq_some_iff.1 h
      cases h
      exact (escaped_sign (hcs.tail hback)).digits rfl
    · cases h
      exact hcs
  · cases h
    exact hcs

theorem keeps_number (negative : Bool) : Keeps (number? negative) := by
  intro cs s rest h hcs
  rw [number?_eq, Option.bind_some] at h
  split at h
  · cases h
  · obtain ⟨part, hpart, h⟩ := Option.bind_eq_some_iff.1 h
    obtain ⟨e, he, h⟩ := Option.bind_eq_some_iff.1 h
    cases h
    exact keeps_exponent he (keeps_fraction hpart (hcs.digits rfl))

mutual
/-- **A value that is read in front of a backslash leaves the backslash.** -/
theorem keeps_value : ∀ fuel : Nat, Keeps (value? fuel)
  | fuel + 1, cs, s, rest, h, hcs => by
    unfold value? at h
    split at h
    · cases h
    · exact absurd hcs not_escaped_quote
    · have hskip := (hcs.tail (by decide)).skip
      split at h
      · next hr =>
        cases h
        exact (hr ▸ hskip).tail (by decide)
      · obtain ⟨⟨items, r⟩, hitems, h⟩ := Option.map_eq_some_iff.1 h
        cases h
        exact keeps_items fuel hitems hskip
    · have hskip := (hcs.tail (by decide)).skip
      split at h
      · next hr =>
        cases h
        exact (hr ▸ hskip).tail (by decide)
      · -- A field starts with a quote.
        obtain ⟨⟨fields, r⟩, hfields, h⟩ := Option.map_eq_some_iff.1 h
        cases fuel with
        | zero => cases hfields
        | succ fuel =>
          unfold fields? at hfields
          split at hfields
          · next hr => exact absurd (hr ▸ hskip) not_escaped_quote
          · cases hfields
    · exact keeps_number true h (hcs.tail (by decide))
    · exact keeps_word (by decide) _ h hcs
    · exact keeps_word (by decide) _ h hcs
    · exact keeps_word (by decide) _ h hcs
    · exact keeps_number false h hcs

theorem keeps_items : ∀ fuel : Nat, Keeps (items? fuel)
  | fuel + 1, cs, items, rest, h, hcs => by
    unfold items? at h
    split at h
    · cases h
    · next hvalue =>
      have hskip := (keeps_value fuel hvalue hcs).skip
      split at h
      · next hr =>
        cases h
        exact (hr ▸ hskip).tail (by decide)
      · next hr =>
        obtain ⟨⟨more, r⟩, hitems, h⟩ := Option.map_eq_some_iff.1 h
        cases h
        exact keeps_items fuel hitems ((hr ▸ hskip).tail (by decide)).skip
      · cases h
end

/-- **No JSON text has a backslash before its first quote.** -/
theorem parse?_of_escaped {cs : List Char} (h : Escaped cs) : parse? cs = none := by
  unfold parse?
  split
  · next s rest hvalue =>
    have hrest := (keeps_value _ hvalue h.skip).skip
    refine if_neg fun hempty => ?_
    rw [List.isEmpty_iff.1 hempty] at hrest
    exact not_escaped_nil hrest
  · rfl

end Json.Source

namespace Text

namespace Quoted

/-- The inside of a quoted form is its text, or has a backslash before its first quote. -/
theorem flatMap_cases : ∀ cs : List Char,
    cs.flatMap encodeChar = cs ∨ Json.Source.Escaped (cs.flatMap encodeChar)
  | [] => .inl rfl
  | c :: cs => by
    rw [List.flatMap_cons]
    generalize hs : encodeChar c = s
    have h : Spelled c s := hs ▸ spelled_encodeChar c
    cases h with
    | plain hquote hback _ =>
      exact (flatMap_cases cs).imp (congrArg (c :: ·)) (Json.Source.escaped_cons hquote hback).2
    | letter _ | byte _ | code _ => exact .inr (Json.Source.escaped_back _)

end Quoted

end Text

namespace Scalar

open Text (isBlank trimBlank)
open Text.Quoted (quote unquote encodeChar)

variable {text t : String} {j : Json} {cs : List Char}

theorem container?_eq_some : container? cs = some j ↔ Json.parse? cs = some j ∧ j.container? = some j := by
  refine Option.bind_eq_some_iff.trans ⟨fun ⟨k, hk, hj⟩ => ?_, fun ⟨h, hj⟩ => ⟨j, h, hj⟩⟩
  have hkj : k = j := by
    cases k with
    | array items => exact Option.some.inj hj
    | object fields => exact Option.some.inj hj
    | _ => cases hj
  exact hkj ▸ ⟨hk, hkj ▸ hj⟩

theorem container?_of_parse?_eq_none (h : Json.Source.parse? cs = none) : container? cs = none := by
  unfold container? Json.parse?
  rw [h]
  rfl

/-- What starts with a quote is read as a string if at all. -/
theorem container?_quote (cs : List Char) : container? ('"' :: cs) = none := by
  unfold container? Json.parse? Json.Source.parse?
  have hvalue : Json.Source.value? (('"' :: cs).length + 1) (Json.Source.skip ('"' :: cs)) =
      (Json.Source.string? cs).map fun p => (.string p.1, p.2) := rfl
  rw [hvalue]
  cases Json.Source.string? cs with
  | none => rfl
  | some p =>
    obtain ⟨s, rest⟩ := p
    simp only [Option.map_some]
    split
    · cases s <;> rfl
    · rfl

/-- **What a text holds**: the array or object of the trimmed text, or else that of what the trimmed text is a quoted
form of. -/
theorem embedded_eq_ok : embedded text = .ok j ↔ container? (trimBlank text.toList) = some j ∨
    container? (trimBlank text.toList) = none ∧
      ∃ u, Text.Quoted.decode (trimBlank text.toList) = .ok u ∧ container? (trimBlank u) = some j := by
  unfold embedded
  generalize trimBlank text.toList = cs
  cases cs with
  | nil =>
    refine iff_of_false (fun h => nomatch h) ?_
    rintro (h | ⟨-, u, hu, h⟩)
    · cases h
    · cases hu
      cases h
  | cons c cs =>
    simp only [List.isEmpty_cons, Bool.false_eq_true, if_false]
    cases container? (c :: cs) with
    | some k => simp
    | none =>
      cases Text.Quoted.decode (c :: cs) with
      | error f => simp [Except.toOption]
      | ok u => cases hinner : container? (trimBlank u) <;> simp [Except.toOption, hinner]

theorem embedded_of_decode {u : List Char} (hdirect : container? (trimBlank text.toList) = none)
    (hdecode : Text.Quoted.decode (trimBlank text.toList) = .ok u) (hu : container? (trimBlank u) = some j) :
    embedded text = .ok j := embedded_eq_ok.2 (.inr ⟨hdirect, u, hdecode, hu⟩)

/-- What a text holds is found in its quoted form. -/
theorem embedded_quoted (h : container? (trimBlank cs) = some j)
    (htext : trimBlank text.toList = trimBlank (Text.Quoted.encode cs)) : embedded text = .ok j := by
  have hends : trimBlank (Text.Quoted.encode cs) = Text.Quoted.encode cs :=
    Text.trimBy_of_ends (fun c hc => by cases hc; rfl) fun c hc => by
      rw [Text.Quoted.encode, ← List.cons_append, List.getLast?_concat] at hc
      cases hc
      rfl
  rw [hends] at htext
  refine embedded_of_decode ?_ (htext ▸ Text.Quoted.decode_encode cs) h
  rw [htext]
  exact container?_quote _

/-- What a text holds is found in the inside of its quoted form. -/
theorem embedded_bare (h : container? (trimBlank cs) = some j)
    (htext : trimBlank text.toList = trimBlank (cs.flatMap encodeChar)) : embedded text = .ok j := by
  obtain ⟨a, rest, b, rfl, ha, hb, hrest⟩ := Text.Quoted.trimBlank_flatMap cs
  have htrim : trimBlank (a ++ (rest ++ b)) = trimBlank rest := (Text.trimBy_front ha).trans (Text.trimBy_back hb)
  rw [htrim] at h
  rcases Text.Quoted.flatMap_cases rest with hplain | hescaped
  · -- Nothing is escaped, and the text without its blanks is read as it is.
    have hsame : trimBlank text.toList = trimBlank rest := by
      rw [← hplain, ← hrest, htext]
      exact (Text.trimBy_trimBy isBlank _).symm
    exact embedded_eq_ok.2 (.inl (hsame ▸ h))
  · rw [hrest] at htext
    refine embedded_of_decode ?_ (htext ▸ Text.Quoted.decode_flatMap rest) h
    rw [htext]
    exact container?_of_parse?_eq_none (Json.Source.parse?_of_escaped hescaped)

theorem exists_unquote {s : String} {P : List Char → Prop} :
    (∃ u, unquote s = .ok u ∧ P u.toList) ↔ ∃ u, Text.Quoted.decode s.toList = .ok u ∧ P u := by
  unfold unquote
  cases Text.Quoted.decode s.toList with
  | error f => exact iff_of_false (fun ⟨u, hu, _⟩ => nomatch hu) fun ⟨u, hu, _⟩ => nomatch hu
  | ok u =>
    constructor
    · rintro ⟨v, hv, h⟩
      cases hv
      rw [String.toList_ofList] at h
      exact ⟨u, rfl, h⟩
    · rintro ⟨v, hv, h⟩
      cases hv
      refine ⟨String.ofList u, rfl, ?_⟩
      rwa [String.toList_ofList]

theorem read?_trim (s : String) : Json.read? (Text.trim s) = Json.parse? (trimBlank s.toList) := by
  rw [Json.read?, Text.trim, String.toList_ofList]

/-- A text without its first and its last character. -/
def bare (s : String) : String := String.ofList s.toList.tail.dropLast

theorem toList_bare_quote (s : String) : (bare (quote s)).toList = s.toList.flatMap encodeChar := by
  unfold bare quote
  rw [String.toList_ofList, String.toList_ofList, Text.Quoted.encode, List.tail_cons, List.dropLast_concat]

/-- **An array or object is found in every form of its text**: in the text, in its quoted form and in that without its
outer quotes, whatever white space stands around them.  And what is found is always an array or object, that of the
trimmed text where there is one, and otherwise that of the trimmed text that it is a quoted form of. -/
theorem embedded_forms :
    (∀ {t form : String} {j : Json}, Json.read? t = some j → j.container? = some j →
      form ∈ [t, quote t, bare (quote t)] → ∀ a b : String, a.toList.all isBlank = true → b.toList.all isBlank = true →
        embedded (a ++ form ++ b) = .ok j) ∧
    ∀ {text : String} {j : Json}, embedded text = .ok j ↔ j.container? = some j ∧
      (Json.read? (Text.trim text) = some j ∨
        (∀ k, Json.read? (Text.trim text) = some k → k.container? = none) ∧
          ∃ u, unquote (Text.trim text) = .ok u ∧ Json.read? (Text.trim u) = some j) := by
  constructor
  · intro t form j ht hj hform a b ha hb
    have hread : container? (trimBlank t.toList) = some j := container?_eq_some.2 ⟨Json.parse?_trimBlank ht hj, hj⟩
    have htrim : trimBlank (a ++ form ++ b).toList = trimBlank form.toList := by
      rw [String.toList_append, String.toList_append]
      exact (Text.trimBy_back (List.all_eq_true.1 hb)).trans (Text.trimBy_front (List.all_eq_true.1 ha))
    simp only [List.mem_cons, List.not_mem_nil, or_false] at hform
    rcases hform with rfl | rfl | rfl
    · exact embedded_eq_ok.2 (.inl (htrim ▸ hread))
    · exact embedded_quoted hread (by rw [htrim, quote, String.toList_ofList])
    · exact embedded_bare hread (by rw [htrim, toList_bare_quote])
  · intro text j
    have hnone : ∀ cs, container? cs = none ↔ ∀ k, Json.parse? cs = some k → k.container? = none := fun cs =>
      Option.bind_eq_none_iff
    have hinner := exists_unquote (s := Text.trim text) (P := fun u => Json.parse? (trimBlank u) = some j)
    simp only [embedded_eq_ok, container?_eq_some, hnone, read?_trim, hinner]
    rw [Text.trim, String.toList_ofList]
    constructor
    · rintro (⟨h, hj⟩ | ⟨hnone, u, hu, h, hj⟩)
      · exact ⟨hj, .inl h⟩
      · exact ⟨hj, .inr ⟨hnone, u, hu, h⟩⟩
    · rintro ⟨hj, h | ⟨hnone, u, hu, h⟩⟩
      · exact .inl ⟨h, hj⟩
      · exact .inr ⟨hnone, u, hu, h, hj⟩

theorem embedded_forms_array :
    embedded ("\n" ++ bare (quote "[7]\n") ++ " ") = .ok (.array [.number (.int 7)]) := by
  have hread : Json.read? "[7]\n" = some (.array [.number (.int 7)]) := rfl
  exact embedded_forms.1 hread rfl (.tail _ (.tail _ (.head _))) "\n" " " rfl rfl

end Scalar

end Harvest
