import Harvest.Proofs.Filter.Registry
import Harvest.Proofs.Filter.Rejection
/-!
# Lists of strings, and lists of values that are strings

The strings of a list may stand in it as such or as values.  A validator that tests the strings of its value says the
same of both forms (`Impartial`), and all do so but `_required`: it looks at the strings of the one form and not at
those of the other (`verdict_alike_iff`).  So a chain of validators ends alike on both forms, unless `_required` is
among them and a string is empty (`run_alike`, `run_required`).
-/
namespace Harvest.Filter

variable {σ : Type}

/-- What a validator says of a value: nothing, or why it does not pass. -/
def verdict (r : Except FilterError Value) : Except FilterError Unit := r.map fun _ => ()

/-- The list of values that are the strings. -/
def asValues (ss : List String) : Value := .array (ss.map .string)

/-- A validator that says the same of a list of strings and of the list of values that are these strings. -/
def Impartial (f : Value → String → Except FilterError Value) : Prop :=
  ∀ ss params, verdict (f (.strings ss) params) = verdict (f (asValues ss) params)

theorem filterMap_string? (ss : List String) : (ss.map Value.string).filterMap Value.string? = ss := by
  rw [List.filterMap_map]
  exact List.filterMap_some

/-- **A test of the strings of a value** sees the same strings in both forms. -/
theorem verdict_tryCheck (test : String → Except FilterError Bool) (ss : List String) :
    verdict (tryCheck test (.strings ss)) = verdict (tryCheck test (asValues ss)) := by
  unfold tryCheck asValues
  simp only [filterMap_string?]
  cases allPass test ss with
  | error e => rfl
  | ok passes => cases passes <;> rfl

theorem Tests.impartial {g : Value → String → Except FilterError Value} (hg : Tests g) : Impartial g := by
  intro ss params
  cases hg with
  | plain test => exact verdict_tryCheck _ ss
  | size test =>
    unfold sized
    cases sizeParam params with
    | error e => rfl
    | ok size => exact verdict_tryCheck _ ss
  | pattern engine wanted =>
    unfold matching
    cases Pattern.Regex.compile engine params with
    | error f => rfl
    | ok pattern => exact verdict_tryCheck _ ss

/-- The first validator of the table. -/
def requiredFilter (σ : Type) : Filter σ := .stateless "_required" "Must not be empty" "_required" required

/-- **Every validator but `_required` is impartial**, and acts on no state. -/
theorem validators_impartial (σ : Type) : ∀ f ∈ validators σ, f.name ≠ "_required" →
    ∃ g, Impartial g ∧ f.run = fun v params s => (g v params, s) := by
  intro f hf hname
  obtain ⟨g, ⟨hrequired, -⟩ | hg, hrun⟩ := validators_tests σ f hf
  · exact absurd hrequired hname
  · exact ⟨g, hg.impartial, hrun⟩

theorem apply_required (clock : Clock) (v : Value) (params : String) (s : σ) :
    (builtin σ clock).apply "_required" v params s = (required v params, s) :=
  apply_builtin (f := requiredFilter σ) (List.mem_append_right _ List.mem_cons_self) v params s

/-- `_required` refuses a list with an empty string in it, but the list of values only if it is empty. -/
theorem required_strings (ss : List String) (params : String) :
    (required (.strings ss) params = if ss ≠ [] ∧ "" ∉ ss then .ok (.strings ss) else .error .invalidContent) ∧
    (required (asValues ss) params = if ss ≠ [] then .ok (asValues ss) else .error .invalidContent) := by
  have hall : (ss.all fun s => !s.isEmpty) = true ↔ "" ∉ ss := by
    rw [List.all_eq_true]
    refine ⟨fun h hmem => absurd (h "" hmem) (by decide), fun h s hs => ?_⟩
    have hne : s ≠ "" := fun heq => h (heq ▸ hs)
    simpa using hne
  constructor
  · unfold required isPresent
    simp only [Bool.and_eq_true, hall, Bool.not_eq_true', List.isEmpty_eq_false_iff]
  · unfold required isPresent asValues
    simp only [Bool.not_eq_true', List.isEmpty_eq_false_iff, ne_eq, List.map_eq_nil_iff]

/-- **A validator says the same of both forms, but for `_required` on a list with an empty string in it**: it refuses
the list of strings and lets the list of values pass. -/
theorem verdict_alike_iff (clock : Clock) {c : Call} (hc : c.IsGuard) (ss : List String) (s : σ) :
    let strings := ((builtin σ clock).apply c.name (.strings ss) c.params s).1
    let values := ((builtin σ clock).apply c.name (asValues ss) c.params s).1
    (verdict strings = verdict values ↔ ¬ (c.name = "_required" ∧ "" ∈ ss)) ∧
    (c.name = "_required" → "" ∈ ss → strings = .error .invalidContent ∧ values = .ok (asValues ss)) := by
  intro strings values
  by_cases hname : c.name = "_required"
  -- The one validator that looks at the form of its value and not only at its strings.
  · have hstrings : strings = required (.strings ss) c.params := by
      simp only [strings, hname, apply_required]
    have hvalues : values = required (asValues ss) c.params := by
      simp only [values, hname, apply_required]
    obtain ⟨hlist, hitems⟩ := required_strings ss c.params
    rw [hstrings, hvalues, hlist, hitems]
    by_cases hempty : "" ∈ ss
    · have hne : ss ≠ [] := List.ne_nil_of_mem hempty
      rw [if_neg fun h => h.2 hempty, if_pos hne]
      exact ⟨iff_of_false (fun h => nomatch h) fun h => h ⟨hname, hempty⟩, fun _ _ => ⟨rfl, rfl⟩⟩
    · refine ⟨iff_of_true ?_ fun h => hempty h.2, fun _ h => absurd h hempty⟩
      by_cases hne : ss = []
      · rw [if_neg fun h => h.1 hne, if_neg fun h => h hne]
      · rw [if_pos ⟨hne, hempty⟩, if_pos hne]
        rfl
  · refine ⟨iff_of_true ?_ fun h => hname h.1, fun h => absurd h hname⟩
    simp only [strings, values]
    unfold Registry.apply
    cases hfind : (builtin σ clock).find? c.name with
    | none => rfl
    | some f =>
      rcases find?_foldl_insert hfind with ⟨hmem, hf⟩ | h
      · rcases List.mem_append.1 hmem with hf' | hf'
        · exact absurd (hf ▸ hc) (transforms_name σ clock f hf')
        · obtain ⟨g, hg, hrun⟩ := validators_impartial σ f hf' (hf ▸ hname)
          simp only [hrun]
          exact hg ss c.params
      · cases h

/-! ## Chains of validators -/

/-- The error of an evaluation that a stop of its filters is. -/
def Stop.toError : Stop → ExtractError
  | .rejected filter v => .invalidContent filter v
  | .panicked p => .panic p

/-- Two values are judged alike: both are accepted as they are, the same filter refuses both, or both meet a panic. -/
inductive Alike (v w : Value) : Except ExtractError Value → Except ExtractError Value → Prop where
  | accepted : Alike v w (.ok v) (.ok w)
  | refused (filter : String) : Alike v w (.error (.invalidContent filter v)) (.error (.invalidContent filter w))
  | panicked (p : Panic) : Alike v w (.error (.panic p)) (.error (.panic p))

/-- A call of which both forms are told the same passes both, or fails on both with the same error. -/
theorem apply_alike (clock : Clock) {c : Call} (hc : c.IsGuard) {ss : List String}
    (hempty : ¬ (c.name = "_required" ∧ "" ∈ ss)) (s t : σ) :
    let r := builtin σ clock
    (r.apply c.name (.strings ss) c.params s = (.ok (.strings ss), s) ∧
      r.apply c.name (asValues ss) c.params t = (.ok (asValues ss), t)) ∨
    ∃ err, r.apply c.name (.strings ss) c.params s = (.error err, s) ∧
      r.apply c.name (asValues ss) c.params t = (.error err, t) := by
  have hsame := (verdict_alike_iff clock hc ss s).1.2 hempty
  rcases builtin_apply_cases (σ := σ) clock c with ⟨g, hg, -, happ⟩ | happ
  · simp only [happ] at hsame ⊢
    cases hone : g (.strings ss) c.params with
    | error e =>
      cases hother : g (asValues ss) c.params with
      | error e' =>
        rw [hone, hother] at hsame
        cases hsame
        exact .inr ⟨e, rfl, rfl⟩
      | ok w =>
        rw [hone, hother] at hsame
        cases hsame
    | ok v =>
      cases hother : g (asValues ss) c.params with
      | error e' =>
        rw [hone, hother] at hsame
        cases hsame
      | ok w =>
        cases hg hc _ _ _ hone
        cases hg hc _ _ _ hother
        exact .inl ⟨rfl, rfl⟩
  · exact .inr ⟨_, happ _ s, happ _ t⟩

/-- **A chain of validators ends alike on both forms**, if none is `_required` or no string is empty, whatever the
states are that it starts in. -/
theorem run_alike (clock : Clock) {ss : List String} (s t : σ) : ∀ {calls : List Call},
    (∀ c ∈ calls, c.IsGuard ∧ ¬ (c.name = "_required" ∧ "" ∈ ss)) →
      Alike (.strings ss) (asValues ss)
        ((Chain.run (builtin σ clock) calls (.strings ss) s).1.mapError Stop.toError)
        ((Chain.run (builtin σ clock) calls (asValues ss) t).1.mapError Stop.toError)
  | [], _ => .accepted
  | c :: cs, h => by
    obtain ⟨⟨hc, hempty⟩, hcs⟩ := List.forall_mem_cons.1 h
    -- No validator changes its value or the state, so the rest of the chain starts where the chain did.
    have hrest := run_alike clock s t hcs
    rw [Chain.run_cons, Chain.run_cons]
    rcases apply_alike clock hc hempty s t with ⟨hone, hother⟩ | ⟨err, hone, hother⟩
    · rw [hone, hother]
      exact hrest
    · rw [hone, hother]
      cases err with
      | invalidContent => exact .refused c.name
      | panic p => exact .panicked p
      | _ => exact hrest

/-- A chain of validators with `_required` among them accepts no list with an empty string in it. -/
theorem run_required (clock : Clock) {ss : List String} (hempty : "" ∈ ss) (s : σ) (v : Value) : ∀ {calls : List Call},
    (∀ c ∈ calls, c.IsGuard) → (∃ c ∈ calls, c.name = "_required") →
      (Chain.run (builtin σ clock) calls (.strings ss) s).1 ≠ .ok v
  | [], _, ⟨_, hc, _⟩ => nomatch hc
  | c :: cs, hguards, hrequired => by
    obtain ⟨hc, hcs⟩ := List.forall_mem_cons.1 hguards
    rw [Chain.run_cons]
    by_cases hname : c.name = "_required"
    · have happ : (builtin σ clock).apply c.name (.strings ss) c.params s = (.error .invalidContent, s) :=
        Prod.ext ((verdict_alike_iff clock hc ss s).2 hname hempty).1 (builtin_state clock c _ s)
      rw [happ]
      exact nofun
    · have hrest : ∃ d ∈ cs, d.name = "_required" := by
        obtain ⟨d, hd, hdname⟩ := hrequired
        rcases List.mem_cons.1 hd with rfl | hd
        · exact absurd hdname hname
        · exact ⟨d, hd, hdname⟩
      rcases apply_alike clock hc (fun h => hname h.1) s s with ⟨happ, -⟩ | ⟨err, happ, -⟩
      · rw [happ]
        exact run_required clock hempty s v hcs hrest
      · rw [happ]
        simp only
        split
        · exact nofun
        · exact run_required clock hempty s v hcs hrest

end Harvest.Filter
