import Harvest.Proofs.Extract.Embedded
import Harvest.Proofs.Extract.Listing
import Harvest.Proofs.Number.Binary64
import Harvest.Proofs.Traversal
/-!
# Integers of JSON values

A JSON number is a rational number, and a string may be a numeral.  The type of integers takes the number that a value
is if it is an integer of 64 bits, and nothing else; the type of their lists takes those of all items or fails
(`integers_exact`).
-/
namespace Harvest

/-! ## Numbers as rational numbers -/

namespace Json

/-- The rational number that a JSON number is; floating-point numbers of no finite value are none. -/
def Number.rational? : Number → Option ℚ
  | .int n => some n
  | .float x => if x.isFinite then some x.toRat else none

/-- The integer that a JSON value is: a number of that value, or a string that holds a numeral of it and, at its ends,
white space. -/
inductive IsInteger : Json → Int → Prop where
  | number {n : Number} {z : Int} : n.rational? = some (z : ℚ) → IsInteger (.number n) z
  | string {s : String} {z : Int} : Text.Numeral.Denotes (Text.trimBlank s.toList) z → IsInteger (.string s) z

end Json

namespace Extract

open Json (IsInteger)

theorem fits_eq_some {z : Int} {i : Int64} :
    (if -0x8000000000000000 ≤ z && z < 0x8000000000000000 then some (Int64.ofInt z) else none) = some i ↔
      z = i.toInt := by
  have hlow := i.le_toInt
  have hhigh := i.toInt_lt
  constructor
  · intro h
    split at h
    · next hfits =>
      simp only [Bool.and_eq_true, decide_eq_true_eq] at hfits
      exact (Text.Numeral.ofInt_eq_iff hfits.1 hfits.2 i).1 (Option.some.inj h)
    · cases h
  · rintro rfl
    rw [if_pos (by simpa using ⟨hlow, hhigh⟩), Int64.ofInt_toInt]

/-- **A number is read as the integer of 64 bits that it is.** -/
theorem exactInt?_eq_some {n : Json.Number} {i : Int64} : exactInt? n = some i ↔ n.rational? = some (i.toInt : ℚ) := by
  cases n with
  | int z =>
    rw [exactInt?, fits_eq_some, Json.Number.rational?, Option.some.injEq]
    exact Rat.intCast_inj.symm
  | float x =>
    rw [exactInt?, Option.bind_eq_some_iff, Json.Number.rational?]
    constructor
    · rintro ⟨z, hz, h⟩
      obtain ⟨hfinite, hvalue⟩ := Binary64.integer?_eq_some.1 hz
      rw [if_pos hfinite, hvalue, fits_eq_some.1 h]
    · intro h
      split at h
      · next hfinite => exact ⟨i.toInt, Binary64.integer?_eq_some.2 ⟨hfinite, Option.some.inj h⟩, fits_eq_some.2 rfl⟩
      · cases h

theorem intOfJson_eq_ok {j : Json} {i : Int64} : intOfJson j = .ok i ↔ j.IsInteger i.toInt := by
  unfold intOfJson
  cases j with
  | number n =>
    have hnumber : (Json.number n).IsInteger i.toInt ↔ exactInt? n = some i := by
      rw [exactInt?_eq_some]
      exact ⟨fun | .number h => h, .number⟩
    rw [hnumber]
    cases hexact : exactInt? n <;> simp [hexact]
  | string s =>
    have hstring : (Json.string s).IsInteger i.toInt ↔ Text.Numeral.int64? (Text.trimBlank s.toList) = some i := by
      rw [Text.Numeral.int64?_eq_some]
      exact ⟨fun | .string h => h, .string⟩
    rw [hstring]
    simp only [Scalar.int]
    cases Text.Numeral.int64? (Text.trimBlank s.toList) <;> simp
  | null => exact iff_of_false nofun nofun
  | bool b => exact iff_of_false nofun nofun
  | array items => exact iff_of_false nofun nofun
  | object fields => exact iff_of_false nofun nofun

/-- A value has an integer of 64 bits exactly if it is one within their range. -/
theorem exists_intOfJson {j : Json} : (∃ i, intOfJson j = .ok i) ↔
    ∃ z : Int, j.IsInteger z ∧ -2 ^ 63 ≤ z ∧ z ≤ 2 ^ 63 - 1 := by
  constructor
  · rintro ⟨i, hi⟩
    exact ⟨i.toInt, intOfJson_eq_ok.1 hi, i.le_toInt, Int.le_sub_one_of_lt i.toInt_lt⟩
  · rintro ⟨z, hz, hlow, hhigh⟩
    refine ⟨Int64.ofInt z, intOfJson_eq_ok.2 ?_⟩
    rwa [Int64.toInt_ofInt_of_le hlow (by omega)]

theorem convertAll_eq_mapM {α β : Type} (f : α → Except ExtractError β) : ∀ as : List α, convertAll f as = as.mapM f
  | [] => rfl
  | a :: as => by
    rw [convertAll, mapM_cons_eq, convertAll_eq_mapM f as]
    cases f a <;> rfl

theorem intsOfJson_eq_ok {items : List Json} {is : List Int64} : itemsOfJson intOfJson (.array items) = .ok is ↔
    List.Forall₂ (fun k i => IsInteger k i.toInt) items is := by
  rw [itemsOfJson, convertAll_eq_mapM, mapM_eq_ok]
  simp only [intOfJson_eq_ok]

/-- The list of several items fails exactly if one of them is no integer within the range of 64 bits. -/
theorem intsOfJson_fails_iff {items : List Json} : (∃ err, itemsOfJson intOfJson (.array items) = .error err) ↔
    ∃ k ∈ items, ¬ ∃ z : Int, k.IsInteger z ∧ -2 ^ 63 ≤ z ∧ z ≤ 2 ^ 63 - 1 := by
  simp only [itemsOfJson, convertAll_eq_mapM, mapM_eq_error, exists_firstError, ← exists_intOfJson]
  refine exists_congr fun k => and_congr_right fun _ => ?_
  cases intOfJson k <;> simp

/-! ## Nodes of specs -/

/-- What a selector leads to from a JSON value: the value itself, or what its path leads to. -/
inductive Leads (j : Json) : Selector → Json → Prop where
  | current : Leads j .current j
  | path {raw : String} {target : Json} : Json.Path.follow raw j = .ok target → Leads j (.native raw) target

variable {σ : Type} {e : Evaluator σ} {spec : Spec} {j target : Json} {cache : Cache}

/-- A node works on what its selector leads to. -/
theorem evaluate_leads (e : Evaluator σ) (hleads : Leads j spec.selector target) (hcache : cache.Faithful)
    (outside : σ) : ∃ s, (e.evaluate spec (.json j) cache outside).1 =
      (e.jsonTarget (e.below e.maxDepth) spec target s).1 := by
  have heval : (e.evaluate spec (.json j) cache outside).1 =
      (e.jsonNode (e.below e.maxDepth) spec j ⟨default, cache, outside⟩).1 := rfl
  rw [heval]
  generalize hsel : spec.selector = selector at hleads
  cases hleads with
  | current =>
    refine ⟨⟨default, cache, outside⟩, ?_⟩
    unfold Evaluator.jsonNode
    rw [hsel]
  | path hfollow =>
    obtain ⟨c, -, happ⟩ := native_apply e (e.below e.maxDepth) hsel j ⟨default, cache, outside⟩ hcache
    rw [happ, hfollow]
    exact ⟨_, rfl⟩

/-- **Integers of JSON values are exact.**  The type of integers takes a number if it is, as a rational number, an
integer of 64 bits, and a string if it is a numeral of one with white space at its ends; it yields just that integer and
fails on everything else.  The type of their lists takes an array of which it takes each item, and yields their
integers in order; it fails exactly if one of the items is none. -/
theorem integers_exact (e : Evaluator σ) (spec : Spec) (hfilter : spec.filter = "")
    (hleads : Leads j spec.selector target) (hcache : cache.Faithful) (outside : σ) :
    let result := (e.evaluate spec (.json j) cache outside).1
    (spec.tag = .int →
      ((∃ v, result = .ok v) ↔ ∃ z : Int, target.IsInteger z ∧ -2 ^ 63 ≤ z ∧ z ≤ 2 ^ 63 - 1) ∧
      ∀ v, result = .ok v ↔ ∃ i : Int64, v = .int i ∧ target.IsInteger i.toInt) ∧
    (spec.tag = .ints →
      (∀ v, result = .ok v ↔ ∃ items is, target = .array items ∧ v = .ints is ∧
        List.Forall₂ (fun k (i : Int64) => IsInteger k i.toInt) items is) ∧
      ∀ items, target = .array items → ((∃ err, result = .error err) ↔
        ∃ k ∈ items, ¬ ∃ z : Int, k.IsInteger z ∧ -2 ^ 63 ≤ z ∧ z ≤ 2 ^ 63 - 1)) := by
  intro result
  obtain ⟨s, hresult⟩ := evaluate_leads e hleads hcache outside
  refine ⟨fun htag => ?_, fun htag => ?_⟩
  · have hscalar : result = (intOfJson target).map .int := by
      have hscalar : listTag? spec.tag = some .ints := by rw [htag]; rfl
      rw [show result = _ from hresult, jsonTarget_scalar hscalar hfilter, htag]
      rfl
    rw [hscalar, ← exists_intOfJson]
    constructor
    · cases intOfJson target <;> simp [Except.map]
    · intro v
      rw [map_eq_ok_iff]
      exact exists_congr fun i => ⟨fun ⟨h, hv⟩ => ⟨hv.symm, intOfJson_eq_ok.1 h⟩,
        fun ⟨hv, h⟩ => ⟨intOfJson_eq_ok.2 h, hv.symm⟩⟩
  · have hlist : result = (itemsOfJson intOfJson target).map .ints := by
      have hmany : listTag? .int = some spec.tag := by rw [htag]; rfl
      rw [show result = _ from hresult, jsonTarget_list hmany hfilter, htag]
      rfl
    rw [hlist]
    constructor
    · intro v
      rw [map_eq_ok_iff]
      constructor
      · rintro ⟨is, his, rfl⟩
        cases target with
        | array items => exact ⟨items, is, rfl, rfl, intsOfJson_eq_ok.1 his⟩
        | _ => cases his
      · rintro ⟨items, is, rfl, rfl, his⟩
        exact ⟨is, intsOfJson_eq_ok.2 his, rfl⟩
    · rintro items rfl
      rw [← intsOfJson_fails_iff]
      cases itemsOfJson intOfJson (.array items) <;> simp [Except.map]

/-- The least floating-point number beyond the integers of 64 bits is refused; `3.0` and ` -7 ` are not. -/
theorem integers_exact_limit :
    let e : Evaluator Unit := { registry := .empty }
    let three : Binary64 := .ofInt 3
    let limit : Binary64 := .ofInt (2 ^ 63)
    (e.evaluate { selector := .native "n", tag := .ints }
      (.json (.object [("n", .array [.number (.float three), .string " -7 "])])) {} ()).1 = .ok (.ints [3, -7]) ∧
    ∀ v, (e.evaluate { tag := .int } (.json (.number (.float limit))) {} ()).1 ≠ .ok v := by
  intro e three limit
  have hlimit : limit.integer? = some (2 ^ 63) := by decide
  constructor
  · refine ((integers_exact e { selector := .native "n", tag := .ints } rfl (.path rfl) Cache.faithful_empty ()).2
      rfl).1 _ |>.2 ⟨_, _, rfl, rfl, .cons (.number ?_) (.cons (.string ?_) .nil)⟩
    · exact exactInt?_eq_some.1 (by decide)
    · exact Text.Numeral.int64?_eq_some.1 (by decide)
  -- The limit is no other integer than 2 ^ 63, which is one too many.
  · intro v hv
    obtain ⟨z, ⟨hz⟩, -, hhigh⟩ :=
      ((integers_exact e { tag := .int } rfl .current Cache.faithful_empty ()).1 rfl).1.1 ⟨v, hv⟩
    obtain ⟨hfinite, hvalue⟩ := Binary64.integer?_eq_some.1 hlimit
    rw [Json.Number.rational?, if_pos hfinite, hvalue, Option.some.injEq, Rat.intCast_inj] at hz
    omega

end Extract

end Harvest
