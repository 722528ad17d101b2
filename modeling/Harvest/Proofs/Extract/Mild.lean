import Harvest.Extract.Conversion
import Harvest.Extract.State
/-!
# Failures that stay where they arise

Only too deep a tree, a document without a root element and panics end a whole evaluation.  What a text or a JSON value
is read as, and what is read of selectors, paths and patterns, fails otherwise if it fails; only the search for a
pattern can panic (`firstMatch_fatal`).
-/
namespace Harvest.Extract

variable {α β : Type}

/-- A result whose failure does not end the whole evaluation. -/
def Mild (r : Except ExtractError α) : Prop := ∀ e, r = .error e → e.isFatal = false

theorem mild_ok (a : α) : Mild (.ok a : Except ExtractError α) := fun _ h => by cases h

theorem mild_error {e : ExtractError} (h : e.isFatal = false) : Mild (.error e : Except ExtractError α) :=
  fun _ h' => by cases h'; exact h

instance (r : Except ExtractError α) : Decidable (Mild r) :=
  match r with
  | .ok a => isTrue (mild_ok a)
  | .error e => decidable_of_iff (e.isFatal = false) ⟨mild_error, fun h => h e rfl⟩

theorem Mild.map {r : Except ExtractError α} (h : Mild r) (f : α → β) : Mild (r.map f) := by
  cases r with
  | ok a => exact mild_ok (f a)
  | error e => exact mild_error (h e rfl)

theorem Mild.bind {r : Except ExtractError α} {f : α → Except ExtractError β} (h : Mild r) (hf : ∀ a, Mild (f a)) :
    Mild (r.bind f) := by
  cases r with
  | ok a => exact hf a
  | error e => exact mild_error (h e rfl)

/-! ## What texts and JSON values are read as -/

/-- A result that fails only for what is converted. -/
def DecodeOnly (r : Except ExtractError α) : Prop := ∀ e, r = .error e → ∃ fault, e = .decode fault

theorem decodeOnly_ok (a : α) : DecodeOnly (.ok a : Except ExtractError α) := nofun

theorem decodeOnly_error (fault : DecodeFault) : DecodeOnly (.error (.decode fault) : Except ExtractError α) :=
  fun _ h => ⟨fault, (Except.error.inj h).symm⟩

theorem DecodeOnly.mild {r : Except ExtractError α} (h : DecodeOnly r) : Mild r := fun e he => by
  obtain ⟨fault, rfl⟩ := h e he
  rfl

theorem decodeOnly_int (text : String) : DecodeOnly (Scalar.int text) := by
  unfold Scalar.int
  split
  · exact decodeOnly_ok _
  · exact decodeOnly_error _

theorem decodeOnly_float (text : String) : DecodeOnly (Scalar.float text) := by
  unfold Scalar.float
  split
  · exact decodeOnly_ok _
  · exact decodeOnly_error _

theorem decodeOnly_bool (text : String) : DecodeOnly (Scalar.bool text) := by
  unfold Scalar.bool
  simp only
  split
  · exact decodeOnly_ok _
  · split
    · exact decodeOnly_ok _
    · exact decodeOnly_error _

theorem decodeOnly_intOfJson (j : Json) : DecodeOnly (intOfJson j) := by
  unfold intOfJson
  split
  · split
    · exact decodeOnly_ok _
    · exact decodeOnly_error _
  · exact decodeOnly_int _
  · exact decodeOnly_error _

theorem decodeOnly_floatOfJson (j : Json) : DecodeOnly (floatOfJson j) := by
  unfold floatOfJson
  split
  · exact decodeOnly_ok _
  · exact decodeOnly_float _
  · exact decodeOnly_error _

theorem decodeOnly_boolOfJson (j : Json) : DecodeOnly (boolOfJson j) := by
  unfold boolOfJson
  split
  · exact decodeOnly_ok _
  · exact decodeOnly_bool _
  · exact decodeOnly_error _

theorem decodeOnly_stringOfJson (j : Json) : DecodeOnly (stringOfJson j) := by
  unfold stringOfJson
  split
  · exact decodeOnly_ok _
  · exact decodeOnly_ok _
  · exact decodeOnly_ok _
  · exact decodeOnly_error _

theorem mild_int (text : String) : Mild (Scalar.int text) := (decodeOnly_int text).mild

theorem mild_float (text : String) : Mild (Scalar.float text) := (decodeOnly_float text).mild

theorem mild_bool (text : String) : Mild (Scalar.bool text) := (decodeOnly_bool text).mild

theorem mild_embedded (text : String) : Mild (Scalar.embedded text) := by
  unfold Scalar.embedded
  simp only
  split
  · exact mild_error rfl
  · split
    · exact mild_ok _
    · split
      · exact mild_ok _
      · exact mild_error rfl

theorem mild_convertAll {f : α → Except ExtractError β} (h : ∀ a, Mild (f a)) : ∀ as, Mild (convertAll f as)
  | [] => mild_ok []
  | a :: as => by
    unfold convertAll
    split
    · rename_i e he
      exact mild_error (h a e he)
    · exact (mild_convertAll h as).map _

theorem mild_scalarOfText (tag : Tag) (text : String) : Mild (scalarOfText tag text) := by
  unfold scalarOfText
  split
  · exact (mild_int text).map _
  · exact (mild_float text).map _
  · exact (mild_bool text).map _
  · exact mild_ok _

theorem mild_listOfTexts (tag : Tag) (texts : List String) : Mild (listOfTexts tag texts) := by
  unfold listOfTexts
  split
  · exact (mild_convertAll mild_int texts).map _
  · exact (mild_convertAll mild_float texts).map _
  · exact (mild_convertAll mild_bool texts).map _
  · exact mild_ok _

theorem mild_intOfJson (j : Json) : Mild (intOfJson j) := (decodeOnly_intOfJson j).mild

theorem mild_floatOfJson (j : Json) : Mild (floatOfJson j) := (decodeOnly_floatOfJson j).mild

theorem mild_boolOfJson (j : Json) : Mild (boolOfJson j) := (decodeOnly_boolOfJson j).mild

theorem mild_stringOfJson (j : Json) : Mild (stringOfJson j) := (decodeOnly_stringOfJson j).mild

theorem mild_itemsOfJson {f : Json → Except ExtractError α} (h : ∀ j, Mild (f j)) (j : Json) :
    Mild (itemsOfJson f j) := by
  unfold itemsOfJson
  split
  · exact mild_convertAll h _
  · exact mild_error rfl

theorem mild_template (spec : Spec) : Mild spec.template := by
  unfold Spec.template
  split
  · exact mild_error rfl
  · exact mild_ok _
  · exact mild_error rfl

/-- A search ends a whole evaluation only by a panic. -/
theorem firstMatch_fatal {r : Pattern.Regex} {text : String} {e : ExtractError} (h : firstMatch r text = .error e)
    (he : e.isFatal = true) : ∃ p, e = .panic p := by
  unfold firstMatch at h
  cases hr : r.firstMatch text with
  | ok a => rw [hr] at h; cases h
  | error f =>
    rw [hr] at h
    cases h
    cases f with
    | exhausted l => cases he
    | inverted => exact ⟨.inverted, rfl⟩

theorem mild_walk : ∀ (steps walked : List Json.Step) (j : Json), Mild (Json.Path.walk walked steps j)
  | [], _, j => mild_ok j
  | s :: rest, walked, j => by
    unfold Json.Path.walk
    split
    · exact mild_walk rest _ _
    · exact mild_error rfl

/-! ## What selectors are read as -/

theorem mild_compilePattern (engine : Pattern.Engine) (pattern : String) : Mild (compilePattern engine pattern) := by
  unfold compilePattern
  cases Pattern.Regex.compile engine pattern with
  | ok r => exact mild_ok r
  | error f => exact mild_error rfl

theorem mild_path (raw : String) : Mild (Json.Path.parse raw) := by
  unfold Json.Path.parse
  split
  · exact mild_ok _
  · exact mild_error rfl

theorem mild_css (text : String) : Mild (Css.parse text) := by
  unfold Css.parse
  split
  · exact mild_ok _
  · exact mild_error rfl

theorem mild_ofSelector (arg : String) (op : Css.Selector → Css.Op) : Mild (Css.Op.ofSelector arg op) := by
  unfold Css.Op.ofSelector
  split
  · exact mild_ok _
  · exact (mild_css arg).map op

theorem mild_ofName (name arg : String) : Mild (Css.Op.ofName name arg) := by
  unfold Css.Op.ofName
  split
  · exact mild_ok _
  · exact mild_ok _
  · exact mild_ok _
  · exact mild_ofSelector arg _
  · exact mild_ofSelector arg _
  · exact mild_ofSelector arg _
  · split
    · exact mild_ok _
    · split
      · exact mild_ofSelector arg _
      · exact mild_ok _

theorem mild_op (cs : List Char) : Mild (Css.Op.parse cs) := by
  unfold Css.Op.parse
  simp only
  split
  · exact mild_ofName _ _
  · exact mild_error rfl

theorem mild_ops : ∀ ps, Mild (Css.Chain.parseOps ps)
  | [] => mild_ok []
  | p :: ps => by
    unfold Css.Chain.parseOps
    split
    · rename_i e he
      exact mild_error (mild_op p e he)
    · exact (mild_ops ps).map _

theorem mild_chain (raw : String) : Mild (Css.Chain.parse raw) := by
  unfold Css.Chain.parse
  simp only
  split
  · exact mild_ok _
  · rename_i p ps _
    have hp : Mild (if p.isEmpty then .ok none else (Css.parse (String.ofList p)).map some) := by
      split
      · exact mild_ok none
      · exact (mild_css _).map some
    split
    · rename_i e he
      exact mild_error (hp e he)
    · exact (mild_ops ps).map _

end Harvest.Extract
