import Harvest.Filter.Chain
import Harvest.Proofs.Filter.Registry
import Harvest.Proofs.Text.Parting
/-!
# Splitting and joining strings

Splitting looks at what is left of a string without the white space at its ends, joining leaves out empty strings.  As
far as nothing is dropped in this way each of them undoes the other (`split_join_inverse`).
-/
namespace Harvest.Filter

open Text (Parted)

variable {σ : Type} {sep t : String}

/-! ## Split, then joined -/

theorem splitString_of_blank (h : Text.trim t = "") (sep : String) : splitString sep t = [] := by
  have hempty : Text.trimBlank t.toList = [] := String.ofList_eq_empty_iff.1 h
  exact if_pos (List.isEmpty_iff.2 hempty)

theorem splitString_of_not_blank (hsep : sep ≠ "") (h : Text.trim t ≠ "") :
    splitString sep t = (Text.splitOn sep.toList (Text.trim t).toList).map String.ofList := by
  have hfull : ¬ (Text.trimBlank t.toList).isEmpty = true := fun hempty =>
    h (String.ofList_eq_empty_iff.2 (List.isEmpty_iff.1 hempty))
  have hnot : ¬ sep.isEmpty = true := by simpa using hsep
  rw [Text.trim, String.toList_ofList]
  exact (if_neg hfull).trans (if_neg hnot)

/-- **A string that is not blank is split into the pieces between the separators.** -/
theorem parted_splitString (hsep : sep ≠ "") (h : Text.trim t ≠ "") :
    Parted sep.toList (Text.trim t).toList ((splitString sep t).map String.toList) := by
  have hchars : String.toList ∘ String.ofList = id := funext fun _ => String.toList_ofList
  rw [splitString_of_not_blank hsep h, List.map_map, hchars, List.map_id]
  exact (Text.splitOn_eq_iff (by simpa using hsep)).1 rfl

theorem intercalate_splitString (hsep : sep ≠ "") (t : String) : sep.intercalate (splitString sep t) = Text.trim t := by
  by_cases h : Text.trim t = ""
  · rw [splitString_of_blank h, h]
    rfl
  · rw [← String.toList_inj, String.toList_intercalate, ← Text.join_eq_intercalate]
    exact (parted_splitString hsep h).join_eq

theorem join_strings (ss : List String) (sep : String) :
    join (.strings ss) sep = .ok (.string (sep.intercalate (ss.filter (!·.isEmpty)))) := by
  refine congrArg (fun s => Except.ok (Value.string s)) ?_
  rw [← String.toList_inj, String.toList_ofList, String.toList_intercalate, Text.join_eq_intercalate]

/-! ## Joined, then split -/

/-- **Strings are split again** from what they are joined to by a character that is in none of them. -/
theorem splitString_intercalate {c : Char} {ss : List String} (hss : ∀ s ∈ ss, s ≠ "" ∧ c ∉ s.toList)
    (hfirst : ∀ s ∈ ss.head?, ∀ d ∈ s.toList.head?, Text.isBlank d = false)
    (hlast : ∀ s ∈ ss.getLast?, ∀ d ∈ s.toList.getLast?, Text.isBlank d = false) :
    splitString (String.singleton c) ((String.singleton c).intercalate ss) = ss := by
  have hne : ∀ p ∈ ss.map String.toList, p ≠ [] := by
    intro p hp
    obtain ⟨s, hs, rfl⟩ := List.mem_map.1 hp
    simpa using (hss s hs).1
  have hout : ∀ p ∈ ss.map String.toList, c ∉ p := by
    intro p hp
    obtain ⟨s, hs, rfl⟩ := List.mem_map.1 hp
    exact (hss s hs).2
  have hjoin : ((String.singleton c).intercalate ss).toList = Text.join [c] (ss.map String.toList) := by
    rw [String.toList_intercalate, String.toList_singleton, Text.join_eq_intercalate]
  have htrim : Text.trim ((String.singleton c).intercalate ss) = (String.singleton c).intercalate ss := by
    rw [Text.trim, hjoin, Text.trimBlank, Text.trimBy_join [c] hne, ← hjoin, String.ofList_toList]
    · simpa using hfirst
    · simpa using hlast
  by_cases hnil : ss = []
  · have hempty : Text.trim "" = "" := rfl
    rw [hnil, String.intercalate_nil, splitString_of_blank hempty]
  · have hparted := Text.parted_join (by simpa using hnil) hout
    have hfull : (String.singleton c).intercalate ss ≠ "" := fun h =>
      Text.join_ne_nil (by simpa using hnil) hne (hjoin.symm.trans (congrArg String.toList h))
    have hback : String.ofList ∘ String.toList = id := funext fun _ => String.ofList_toList
    rw [splitString_of_not_blank (by simp) (by rwa [htrim]), htrim, hjoin, String.toList_singleton,
      (Text.splitOn_eq_iff (List.cons_ne_nil c [])).2 hparted, List.map_map, hback, List.map_id]

/-! ## The two filters -/

theorem apply_split (clock : Clock) (v : Value) (params : String) (s : σ) :
    (builtin σ clock).apply "split" v params s = (split v params, s) :=
  apply_transform (f := .stateless "split" "Split a string into a list on a separator" "split(-)" split)
    (by simp [transforms]) v params s

theorem apply_join (clock : Clock) (v : Value) (params : String) (s : σ) :
    (builtin σ clock).apply "join" v params s = (join v params, s) :=
  apply_transform (f := .stateless "join" "Join a list into a string, dropping empty items" "join(-)" join)
    (by simp [transforms]) v params s

theorem filter_not_isEmpty {ss : List String} (h : "" ∉ ss) : ss.filter (!·.isEmpty) = ss :=
  List.filter_eq_self.2 fun t ht => by simpa using fun hempty : t = "" => h (hempty ▸ ht)

/-- **Splitting and joining undo each other where nothing is dropped.**  A string is split into the pieces between the
places of the separator, in what is left of it without the white space at its ends, and joined again without the empty
ones; if there are none, that gives what was split.  Strings that are not empty are split again from what they are
joined to by a character that is in none of them, if there is no white space at the two ends. -/
theorem split_join_inverse (clock : Clock) (s : σ) :
    let r := builtin σ clock
    (∀ sep t : String, sep ≠ "" → ∃ pieces : List String,
      r.apply "split" (.string t) sep s = (.ok (.strings pieces), s) ∧
      (Text.trim t = "" → pieces = []) ∧
      (Text.trim t ≠ "" → Parted sep.toList (Text.trim t).toList (pieces.map String.toList)) ∧
      Chain.run r [⟨"split", sep⟩, ⟨"join", sep⟩] (.string t) s =
        (.ok (.string (sep.intercalate (pieces.filter (!·.isEmpty)))), s) ∧
      ("" ∉ pieces →
        Chain.run r [⟨"split", sep⟩, ⟨"join", sep⟩] (.string t) s = (.ok (.string (Text.trim t)), s))) ∧
    ∀ (c : Char) (ss : List String), (∀ t ∈ ss, t ≠ "" ∧ c ∉ t.toList) →
      (∀ t ∈ ss.head?, ∀ d ∈ t.toList.head?, Text.isBlank d = false) →
      (∀ t ∈ ss.getLast?, ∀ d ∈ t.toList.getLast?, Text.isBlank d = false) →
      Chain.run r [⟨"join", String.singleton c⟩, ⟨"split", String.singleton c⟩] (.strings ss) s =
        (.ok (.strings ss), s) := by
  intro r
  refine ⟨fun sep t hsep => ?_, fun c ss hss hfirst hlast => ?_⟩
  · have hrun : Chain.run r [⟨"split", sep⟩, ⟨"join", sep⟩] (.string t) s =
        (.ok (.string (sep.intercalate ((splitString sep t).filter (!·.isEmpty)))), s) := by
      simp only [Chain.run, r, apply_split, apply_join, split, join_strings]
    refine ⟨splitString sep t, apply_split clock _ _ s, fun h => splitString_of_blank h sep, parted_splitString hsep,
      hrun, fun hfull => ?_⟩
    rw [hrun, filter_not_isEmpty hfull, intercalate_splitString hsep]
  · have hfull : "" ∉ ss := fun h => (hss "" h).1 rfl
    simp only [Chain.run, r, apply_split, apply_join, join_strings, split, filter_not_isEmpty hfull,
      splitString_intercalate hss hfirst hlast]

/-- Two words with white space at the ends are joined again without it, and two texts with a comma between them are
split again. -/
theorem split_join_inverse_words :
    let r := builtin Unit ⟨0, 0⟩
    (" - " ≠ "" ∧ Text.trim " a - b\n" ≠ "" ∧
      Chain.run r [⟨"split", " - "⟩, ⟨"join", " - "⟩] (.string " a - b\n") () = (.ok (.string "a - b"), ())) ∧
    (∀ t ∈ ["a b", "c"], t ≠ "" ∧ ',' ∉ t.toList) ∧
    (∀ t ∈ ["a b", "c"].head?, ∀ d ∈ t.toList.head?, Text.isBlank d = false) ∧
    (∀ t ∈ ["a b", "c"].getLast?, ∀ d ∈ t.toList.getLast?, Text.isBlank d = false) ∧
    Chain.run r [⟨"join", String.singleton ','⟩, ⟨"split", String.singleton ','⟩] (.strings ["a b", "c"]) () =
      (.ok (.strings ["a b", "c"]), ()) := by
  intro r
  obtain ⟨hsplit, hjoin⟩ := split_join_inverse ⟨0, 0⟩ ()
  obtain ⟨pieces, hpieces, -, -, -, hback⟩ := hsplit " - " " a - b\n" (by decide)
  have htrim : Text.trim " a - b\n" = "a - b" := by decide
  have hwords : splitString " - " " a - b\n" = ["a", "b"] := by decide
  have hfull : "" ∉ pieces := by
    rw [apply_split, split, hwords] at hpieces
    cases hpieces
    decide
  have hitems : ∀ t ∈ ["a b", "c"], t ≠ "" ∧ ',' ∉ t.toList := by decide
  have hfirst : ∀ t ∈ ["a b", "c"].head?, ∀ d ∈ t.toList.head?, Text.isBlank d = false := by
    rintro _ ⟨⟩ _ ⟨⟩
    rfl
  have hlast : ∀ t ∈ ["a b", "c"].getLast?, ∀ d ∈ t.toList.getLast?, Text.isBlank d = false := by
    rintro _ ⟨⟩ _ ⟨⟩
    rfl
  rw [htrim] at hback ⊢
  exact ⟨⟨by decide, by decide, hback hfull⟩, hitems, hfirst, hlast, hjoin ',' _ hitems hfirst hlast⟩

end Harvest.Filter
