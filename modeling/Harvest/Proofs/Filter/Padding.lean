import Harvest.Proofs.Filter.Template
/-!
# How much a template asks for

A verb with a width asks for padding up to that width, a verb with a precision for that many decimals of a number, and
both are any numbers below 2^64.  A template is filled in exactly if none of its verbs that have an argument asks for
more padding than a text can hold or for more decimals than a number is written with; nothing else fails, and nothing
bounds a width or a precision beforehand (`padding_fits_iff`).
-/
namespace Harvest.Filter

namespace Template

variable {α β : Type}

/-! ## Results with a condition -/

/-- A result that is there exactly under a condition; else there is too much to write. -/
structure Fitting (result : Except FilterError α) (p : Prop) : Prop where
  ok : p → ∃ a, result = .ok a
  overlong : ¬ p → result = .error (.panic .overlong)

section Fitting

variable {result : Except FilterError α} {p q : Prop}

theorem Fitting.congr (h : Fitting result p) (hpq : p ↔ q) : Fitting result q :=
  ⟨fun hq => h.ok (hpq.2 hq), fun hq => h.overlong (mt hpq.1 hq)⟩

theorem Fitting.ok_iff (h : Fitting result p) : (∃ a, result = .ok a) ↔ p := by
  refine ⟨fun ⟨a, ha⟩ => Classical.byContradiction fun hp => ?_, h.ok⟩
  rw [h.overlong hp] at ha
  cases ha

theorem Fitting.overlong_iff (h : Fitting result p) : result = .error (.panic .overlong) ↔ ¬ p := by
  refine ⟨fun hr hp => ?_, h.overlong⟩
  obtain ⟨a, ha⟩ := h.ok hp
  rw [ha] at hr
  cases hr

theorem fitting_ok (a : α) : Fitting (.ok a) True := ⟨fun _ => ⟨a, rfl⟩, fun h => absurd trivial h⟩

theorem Fitting.bind {f : α → Except FilterError β} (h : Fitting result p) (hf : ∀ a, Fitting (f a) q) :
    Fitting (result >>= f) (p ∧ q) := by
  constructor
  · rintro ⟨hp, hq⟩
    obtain ⟨a, ha⟩ := h.ok hp
    rw [ha]
    exact (hf a).ok hq
  · intro hpq
    by_cases hp : p
    · obtain ⟨a, ha⟩ := h.ok hp
      rw [ha]
      exact (hf a).overlong fun hq => hpq ⟨hp, hq⟩
    · rw [h.overlong hp]
      rfl

theorem Fitting.map (h : Fitting result p) (f : α → β) : Fitting (do return f (← result)) p :=
  (h.bind fun a => fitting_ok (f a)).congr (and_iff_left trivial)

theorem fitting_mapM {f : α → Except FilterError β} {p : α → Prop} (h : ∀ a, Fitting (f a) (p a)) :
    ∀ as : List α, Fitting (as.mapM f) (∀ a ∈ as, p a)
  | [] => (fitting_ok []).congr (iff_of_true trivial nofun)
  | a :: as => by
    rw [List.mapM_cons]
    exact ((h a).bind fun b => (fitting_mapM h as).map (b :: ·)).congr List.forall_mem_cons.symm

end Fitting

/-! ## Templates -/

/-- The verb that a piece is. -/
def Piece.verb? : Piece → Option Verb
  | .verb v => some v
  | _ => none

/-- The verbs of a template in their order. -/
def verbs (template : String) : List Verb := (parse template).filterMap Piece.verb?

/-- What a verb makes of its argument before padding, and what stands for one that is missing from a record. -/
def shown (v : Verb) : Option Value → Except FilterError String
  | some value => argumentText v value
  | none => .ok "<nil>"

/-- How many decimals a verb asks for of its argument. -/
def placesOf (v : Verb) (arg : Option Value) : Nat := ((arg.bind (decimals? v)).map Decimals.places).getD 0

/-- A verb asks of its argument for no more than can be written. -/
structure Fits (v : Verb) (arg : Option Value) : Prop where
  decimals : placesOf v arg ≤ maxPlaces
  fill : ∀ text, shown v arg = .ok text → fillLength v.width text.toList.length ≤ maxLength

/-- All verbs that have an argument do so. -/
def AllFit (vs : List Verb) (args : List (Option Value)) : Prop := ∀ p ∈ vs.zip args, Fits p.1 p.2

theorem not_allFit {vs : List Verb} {args : List (Option Value)} :
    ¬ AllFit vs args ↔ ∃ p ∈ vs.zip args, ¬ Fits p.1 p.2 := by
  simp only [AllFit, not_forall, exists_prop]

/-- Nothing stands behind a percent sign that a template ends in. -/
def Closed (ps : List Piece) : Prop := ∀ before behind, ps = before ++ .unfinished :: behind → behind = []

theorem Closed.tail {p : Piece} {ps : List Piece} (h : Closed (p :: ps)) : Closed ps := fun before behind hps =>
  h (p :: before) behind (congrArg (p :: ·) hps)

theorem Closed.cons {p : Piece} {ps : List Piece} (h : Closed ps) (hp : p ≠ .unfinished) : Closed (p :: ps) := by
  intro before behind hps
  cases before with
  | nil => exact absurd (List.cons.inj hps).1 hp
  | cons q before => exact h before behind (List.cons.inj hps).2

theorem closed_nil : Closed [] := fun before _ h => by cases before <;> cases h

theorem closed_pieces : ∀ (fuel : Nat) (cs : List Char), Closed (pieces fuel cs)
  | 0, _ => closed_nil
  | _ + 1, [] => closed_nil
  | fuel + 1, c :: cs => by
    unfold pieces
    split
    · exact (closed_pieces fuel cs).cons (by simp)
    · split
      · exact (closed_pieces fuel _).cons (by simp)
      · split
        · intro before behind h
          cases before with
          | nil => exact (List.cons.inj h).2.symm
          | cons q before => exact absurd (List.cons.inj h).2 (by simp)
        · exact (closed_pieces fuel _).cons (by simp)

theorem fitting_pad (v : Verb) (text : List Char) :
    Fitting (pad v text) (fillLength v.width text.length ≤ maxLength) := by
  unfold pad
  simp only
  split
  · next h => exact ⟨fun hle => absurd hle (Nat.not_le.2 h), fun _ => rfl⟩
  · next h =>
    refine ⟨fun _ => ?_, fun hle => absurd (Nat.not_lt.1 h) hle⟩
    split <;> exact ⟨_, rfl⟩

/-- An argument has a text exactly if it takes no more decimals than a number is written with. -/
theorem fitting_shown (v : Verb) (arg : Option Value) : Fitting (shown v arg) (placesOf v arg ≤ maxPlaces) := by
  cases arg with
  | none => exact (fitting_ok "<nil>").congr (iff_of_true trivial (Nat.zero_le _))
  | some value =>
    show Fitting (argumentText v value) (((decimals? v value).map Decimals.places).getD 0 ≤ maxPlaces)
    unfold argumentText
    cases decimals? v value with
    | some d =>
      show Fitting (if d.places > maxPlaces then .error (.panic .overlong) else .ok (Decimal.fixed d.places d.number))
        (d.places ≤ maxPlaces)
      by_cases hplaces : d.places > maxPlaces
      · rw [if_pos hplaces]
        exact ⟨fun hle => absurd hle (Nat.not_le.2 hplaces), fun _ => rfl⟩
      · rw [if_neg hplaces]
        exact (fitting_ok _).congr (iff_of_true trivial (Nat.not_lt.1 hplaces))
    | none =>
      have htext : ∀ text : String, Fitting (.ok text) (0 ≤ maxPlaces) := fun text =>
        (fitting_ok text).congr (iff_of_true trivial (Nat.zero_le _))
      show Fitting (if _ then _ else if _ then _ else _) (0 ≤ maxPlaces)
      split
      · split <;> exact htext _
      · split <;> exact htext _

theorem fits_iff {v : Verb} {arg : Option Value} {text : String} (htext : shown v arg = .ok text) :
    Fits v arg ↔ fillLength v.width text.toList.length ≤ maxLength := by
  constructor
  · exact fun h => h.fill text htext
  · intro h
    refine ⟨(fitting_shown v arg).ok_iff.1 ⟨text, htext⟩, fun text' htext' => ?_⟩
    cases htext.symm.trans htext'
    exact h

/-- A verb is written with its argument exactly if it asks for no more than can be. -/
theorem fitting_verb (v : Verb) (arg : Option Value) :
    Fitting (do pad v (← shown v arg).toList) (Fits v arg) := by
  have hshown := fitting_shown v arg
  by_cases hplaces : placesOf v arg ≤ maxPlaces
  · obtain ⟨text, htext⟩ := hshown.ok hplaces
    rw [htext]
    exact (fitting_pad v text.toList).congr (fits_iff htext).symm
  · rw [hshown.overlong hplaces]
    exact ⟨fun h => absurd h.decimals hplaces, fun _ => rfl⟩

/-- Pieces are rendered exactly if no verb asks for too much. -/
theorem fitting_render : ∀ {ps : List Piece}, Closed ps → ∀ args : List (Option Value),
    Fitting (render ps args) (AllFit (ps.filterMap Piece.verb?) args)
  | [], _, _ => (fitting_ok []).congr (iff_of_true trivial nofun)
  | .literal c :: ps, h, args => (fitting_render h.tail args).map (c :: ·)
  | .unfinished :: ps, h, args => by
    obtain rfl := h [] ps rfl
    exact (fitting_ok _).congr (iff_of_true trivial nofun)
  -- A verb without an argument is written out as missing, with no padding whatever its width is.
  | .verb v :: ps, h, [] =>
    ((fitting_render h.tail []).map fun text => "%!".toList ++ v.letter :: ("(MISSING)".toList ++ text)).congr
      (iff_of_true (fun p hp => by simp at hp) nofun)
  | .verb v :: ps, h, arg :: args => by
    have hrender : render (.verb v :: ps) (arg :: args) =
        (do pad v (← shown v arg).toList) >>= fun out => do return out ++ (← render ps args) := by
      rw [render.eq_def]
      cases arg with
      | none => rfl
      | some value => exact (bind_assoc (argumentText v value) _ _).symm
    have hall : AllFit ((Piece.verb v :: ps).filterMap Piece.verb?) (arg :: args) ↔
        Fits v arg ∧ AllFit (ps.filterMap Piece.verb?) args := List.forall_mem_cons
    rw [hrender]
    exact ((fitting_verb v arg).bind fun out => (fitting_render h.tail args).map (out ++ ·)).congr hall.symm

/-- **A template is filled in exactly if no verb asks for more than can be written.** -/
theorem fitting_expand (template : String) (args : List (Option Value)) :
    Fitting (expand template args) (AllFit (verbs template) args) :=
  (fitting_render (closed_pieces _ _) args).map String.ofList

/-- A verb whose width a text can have and whose precision a number can has a place for any argument. -/
theorem fits_of_le {v : Verb} (hwidth : v.width.getD 0 ≤ maxLength) (hprecision : v.precision.getD 0 ≤ maxPlaces)
    (arg : Option Value) : Fits v arg := by
  refine ⟨?_, fun text _ => Nat.le_trans (Nat.sub_le _ _) hwidth⟩
  have hdefault : v.precision.getD 6 ≤ maxPlaces := by
    cases hp : v.precision with
    | none => decide
    | some n => simpa [hp] using hprecision
  unfold placesOf
  cases arg with
  | none => exact Nat.zero_le _
  | some value =>
    show ((decimals? v value).map Decimals.places).getD 0 ≤ maxPlaces
    unfold decimals?
    split
    · cases numeric? value with
      | none => exact Nat.zero_le _
      | some x => exact hdefault
    · exact Nat.zero_le _

/-- The verbs of a template ask for no more than can be written of any arguments. -/
def Bounded (template : String) : Prop :=
  ∀ v ∈ verbs template, v.width.getD 0 ≤ maxLength ∧ v.precision.getD 0 ≤ maxPlaces

instance (template : String) : Decidable (Bounded template) :=
  inferInstanceAs (Decidable (∀ v ∈ verbs template, v.width.getD 0 ≤ maxLength ∧ v.precision.getD 0 ≤ maxPlaces))

theorem Bounded.allFit {template : String} (h : Bounded template) (args : List (Option Value)) :
    AllFit (verbs template) args := fun p hp =>
  have hv := h p.1 (List.of_mem_zip hp).1
  fits_of_le hv.1 hv.2 p.2

end Template

open Template (AllFit Bounded Fits Fitting fitting_expand fitting_mapM fitting_ok maxLength maxPlaces valuesAt verbs)

/-- The values that are put into a template one by one: the strings of a list that are not empty, or the value. -/
def formatted : Value → List Value
  | .strings ss => (ss.filter (!·.isEmpty)).map .string
  | v => [v]

/-- **A value is formatted exactly if no verb asks for too much** of one of the texts that it makes. -/
theorem fitting_sprintf (value : Value) (params : String) : Fitting (sprintf value params)
    (∀ v ∈ formatted value, AllFit (verbs params) [some v]) := by
  have hone : ∀ v : Value, Fitting (do return Value.string (← Template.expand params [some v]))
      (∀ w ∈ [v], AllFit (verbs params) [some w]) := fun v => by
    rw [List.forall_mem_singleton]
    exact (fitting_expand params [some v]).map Value.string
  cases value with
  | strings ss =>
    have hitem : ∀ s : String, Fitting (if s.isEmpty then .ok s else Template.expand params [some (.string s)])
        (s.isEmpty = false → AllFit (verbs params) [some (.string s)]) := by
      intro s
      split
      · next hs => exact (fitting_ok s).congr (iff_of_true trivial fun h => absurd hs (by simp [h]))
      · next hs => exact (fitting_expand params _).congr ⟨fun h _ => h, fun h => h (by simpa using hs)⟩
    refine ((fitting_mapM hitem ss).map Value.strings).congr ?_
    rw [formatted, List.forall_mem_map, List.forall_mem_filter]
    simp only [Bool.not_eq_true']
  | _ => exact hone _

/-- Parameters that put fields of a record, at least one, into a template. -/
inductive Asks : Value → String → String → List (Option Value) → Prop where
  | record {fields : List (String × Value)} {params template key : String} {keys : List String} :
      splitParams params = template :: key :: keys →
        Asks (.map fields) params template (valuesAt fields (key :: keys))

theorem Asks.fitting {value : Value} {params template : String} {args : List (Option Value)}
    (h : Asks value params template args) :
    Fitting (sprintfmap value params) (AllFit (verbs template) args) := by
  obtain ⟨hsplit⟩ := h
  rw [sprintfmap, hsplit]
  exact (fitting_expand template _).map Value.string

/-- What is no record, or parameters that name no field, are refused. -/
theorem sprintfmap_cases (value : Value) (params : String) : (∃ template args, Asks value params template args) ∨
    sprintfmap value params = .error (.invalidParams .noKeys) ∨
    sprintfmap value params = .error (.unsupported (.notMap value.kind)) := by
  cases value with
  | map fields =>
    rcases hsplit : splitParams params with _ | ⟨template, _ | ⟨key, keys⟩⟩
    · exact .inr (.inl (by rw [sprintfmap, hsplit]))
    · exact .inr (.inl (by rw [sprintfmap, hsplit]))
    · exact .inl ⟨_, _, .record hsplit⟩
  | _ => exact .inr (.inr rfl)

end Harvest.Filter
