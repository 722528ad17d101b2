import Harvest.Proofs.Filter.Template
import Harvest.Scalar
/-!
# Numbers padded with zeros

The zeros that bring an integer to a width stand before all of its text, so before the sign of a negative one.  What
comes of it is as wide as it is to be, and is read back as the integer exactly if no zero stands before a sign.
-/
namespace Harvest.Filter

open Template (Reads expand maxLength pad parse render verb?_width)
open Text.Numeral (ofInt)

/-- The template of an integer padded with zeros to a width. -/
def zeroTemplate (width : Nat) : String := String.ofList ('%' :: (['0'] ++ (Nat.toDigits 10 width ++ ['d'])))

/-- The decimal text of an integer with zeros in front of it. -/
def zeroPadded (n : Int64) (width : Nat) : List Char :=
  let cs := (ofInt n.toInt).toList
  List.replicate (width - cs.length) '0' ++ cs

theorem length_zeroPadded (n : Int64) (width : Nat) :
    (zeroPadded n width).length = max width (ofInt n.toInt).toList.length := by
  simp only [zeroPadded, List.length_append, List.length_replicate]
  omega

theorem parse_zeroTemplate {width : Nat} (hpos : 0 < width) (hfits : width ≤ maxLength) :
    parse (zeroTemplate width) = [.verb ⟨false, true, some width, none, 'd'⟩] := by
  have hbelow : width < 0x10000000000000000 := Nat.lt_of_le_of_lt hfits (by decide)
  have hread : Reads ('%' :: (['0'] ++ (Nat.toDigits 10 width ++ ['d']))) [.verb ⟨false, true, some width, none, 'd'⟩] :=
    Reads.nil.verb nofun (verb?_width (List.forall_mem_singleton.2 rfl) hpos hbelow (by decide) []) (Nat.zero_le _)
  rw [parse, zeroTemplate, String.toList_ofList, String.length_ofList]
  exact hread _ (Nat.le_refl _)

theorem sprintf_zeroTemplate (n : Int64) {width : Nat} (hpos : 0 < width) (hfits : width ≤ maxLength) :
    sprintf (.int n) (zeroTemplate width) = .ok (.string (String.ofList (zeroPadded n width))) := by
  have hpad : pad ⟨false, true, some width, none, 'd'⟩ (ofInt n.toInt).toList = .ok (zeroPadded n width) := by
    have hnot : ¬ width - (ofInt n.toInt).toList.length > maxLength := by omega
    exact if_neg hnot
  have hrender : render [.verb ⟨false, true, some width, none, 'd'⟩] [some (.int n)] = .ok (zeroPadded n width) := by
    show (do
      let text ← pad ⟨false, true, some width, none, 'd'⟩ (ofInt n.toInt).toList
      return text ++ (← render [] [])) = _
    rw [hpad]
    exact congrArg Except.ok (List.append_nil _)
  have hexpand : expand (zeroTemplate width) [some (.int n)] = .ok (String.ofList (zeroPadded n width)) := by
    rw [expand, parse_zeroTemplate hpos hfits, hrender]
    rfl
  show (expand (zeroTemplate width) [some (.int n)] >>= fun text => pure (Value.string text)) = _
  rw [hexpand]
  rfl

/-- White space is neither in a number nor in the zeros in front of it. -/
theorem trimBlank_zeroPadded (n : Int64) (width : Nat) :
    Text.trimBlank (zeroPadded n width) = zeroPadded n width := by
  refine Text.Numeral.trimBlank_of_not_isBlank fun c hc => ?_
  rcases List.mem_append.1 hc with hc | hc
  · rw [List.eq_of_mem_replicate hc]
    rfl
  · exact Text.Numeral.isBlank_of_mem_ofInt hc

theorem int_zeroPadded_of_nonneg {n : Int64} (h : 0 ≤ n.toInt) (width : Nat) :
    Scalar.int (String.ofList (zeroPadded n width)) = .ok n := by
  rw [Scalar.int, String.toList_ofList, trimBlank_zeroPadded, zeroPadded, Text.Numeral.int64?_zeros_of_nonneg h]

theorem int_zeroPadded_of_le {n : Int64} {width : Nat} (h : width ≤ (ofInt n.toInt).toList.length) :
    Scalar.int (String.ofList (zeroPadded n width)) = .ok n := by
  have hzeros : zeroPadded n width = (ofInt n.toInt).toList := by
    rw [zeroPadded, Nat.sub_eq_zero_of_le h]
    rfl
  rw [Scalar.int, String.toList_ofList, trimBlank_zeroPadded, hzeros, Text.Numeral.int64?_ofInt]

theorem int_zeroPadded_of_neg {n : Int64} {width : Nat} (h : n.toInt < 0)
    (hwide : (ofInt n.toInt).toList.length < width) :
    Scalar.int (String.ofList (zeroPadded n width)) =
      .error (.decode (.notInteger (String.ofList (zeroPadded n width)))) := by
  obtain ⟨k, hk⟩ : ∃ k, width - (ofInt n.toInt).toList.length = k + 1 := ⟨_, (Nat.sub_add_cancel (by omega)).symm⟩
  have hnone : Text.Numeral.int64? (zeroPadded n width) = none := by
    rw [zeroPadded, hk, Text.Numeral.int64?_zeros_of_neg h]
  rw [Scalar.int, String.toList_ofList, trimBlank_zeroPadded, hnone]

/-- **A number padded with zeros keeps its value, unless they stand before its sign.**  An integer of 64 bits is padded
to the width that the template names, or to the length of its text; it is read back exactly if it is not negative or no
wider than its text, and is no number otherwise. -/
theorem zero_padded_read_iff (n : Int64) (width : Nat) (hwidth : 1 ≤ width ∧ width ≤ 1000) :
    ∃ text, sprintf (.int n) (zeroTemplate width) = .ok (.string text) ∧
      text.toList.length = max width (ofInt n.toInt).toList.length ∧
      (Scalar.int text = .ok n ↔ 0 ≤ n.toInt ∨ width ≤ (ofInt n.toInt).toList.length) ∧
      (Scalar.int text ≠ .ok n → Scalar.int text = .error (.decode (.notInteger text))) := by
  have hfits : width ≤ maxLength := Nat.le_trans hwidth.2 (by decide)
  refine ⟨_, sprintf_zeroTemplate n hwidth.1 hfits, ?_, ?_⟩
  · rw [String.toList_ofList, length_zeroPadded]
  · by_cases h : 0 ≤ n.toInt ∨ width ≤ (ofInt n.toInt).toList.length
    · have hread : Scalar.int (String.ofList (zeroPadded n width)) = .ok n :=
        h.elim (fun hsign => int_zeroPadded_of_nonneg hsign width) int_zeroPadded_of_le
      exact ⟨iff_of_true hread h, fun hne => absurd hread hne⟩
    · obtain ⟨hsign, hwide⟩ := not_or.1 h
      have hread := int_zeroPadded_of_neg (Int.not_le.1 hsign) (Nat.not_le.1 hwide)
      refine ⟨iff_of_false (fun hok => ?_) h, fun _ => hread⟩
      rw [hread] at hok
      cases hok

/-- Seven keeps its value at a width of four, and minus five does not. -/
theorem zero_padded_read_iff_signs : 1 ≤ 4 ∧ 4 ≤ 1000 ∧ zeroTemplate 4 = "%04d" ∧
    sprintf (.int 7) "%04d" = .ok (.string "0007") ∧ Scalar.int "0007" = .ok 7 ∧
    sprintf (.int (-5)) "%04d" = .ok (.string "00-5") ∧
    Scalar.int "00-5" = .error (.decode (.notInteger "00-5")) := by
  have hpos : 1 ≤ 4 := by decide
  have hfits : 4 ≤ 1000 := by decide
  have htemplate : zeroTemplate 4 = "%04d" := by decide
  obtain ⟨seven, hseven, _, hread, _⟩ := zero_padded_read_iff 7 4 ⟨hpos, hfits⟩
  obtain ⟨five, hfive, _, hunread, hrefused⟩ := zero_padded_read_iff (-5) 4 ⟨hpos, hfits⟩
  have hpadded : sprintf (.int 7) "%04d" = .ok (.string "0007") := rfl
  have hsplit : sprintf (.int (-5)) "%04d" = .ok (.string "00-5") := rfl
  rw [htemplate, hpadded] at hseven
  rw [htemplate, hsplit] at hfive
  obtain rfl : "0007" = seven := Value.string.inj (Except.ok.inj hseven)
  obtain rfl : "00-5" = five := Value.string.inj (Except.ok.inj hfive)
  have hnot : ¬ (0 ≤ (-5 : Int64).toInt ∨ 4 ≤ (ofInt (-5 : Int64).toInt).toList.length) := by decide
  exact ⟨hpos, hfits, htemplate, hpadded, hread.2 (.inl (by decide)), hsplit, hrefused (mt hunread.1 hnot)⟩

end Harvest.Filter
