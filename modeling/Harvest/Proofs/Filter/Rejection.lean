import Harvest.Proofs.Filter.Refusal
/-!
# Where a chain stops

`Passes` says what calls make of a value if all of them run: each puts its result in place of the value, or leaves the
value where it fails.  A chain either passes all its calls or stops behind those that pass, at a call that refuses the
value or panics (`passes_of_run`, `stops_of_run`).  Validators add nothing to what passes (`Passes.carry_eq`), so they
only guard a chain (`validators_only_guard`).
-/
namespace Harvest

variable {σ : Type}

/-! ## Calls that are noted -/

/-- A filter that notes each of its calls, under the name that it is held by, behind those noted before. -/
def Filter.noting (name : String) (f : Filter σ) : Filter (σ × List Filter.Call) :=
  { f with run := fun v params s =>
      match f.run v params s.1 with
      | (r, t) => (r, (t, s.2 ++ [⟨name, params⟩])) }

/-- The registry that also notes which calls its filters have run. -/
def Registry.noting (r : Registry σ) : Registry (σ × List Filter.Call) := ⟨r.entries.map fun e => (e.1, e.2.noting e.1)⟩

theorem Registry.find?_noting (r : Registry σ) (name : String) :
    r.noting.find? name = (r.find? name).map (Filter.noting name) := by
  unfold Registry.noting Registry.find?
  induction r.entries with
  | nil => rfl
  | cons e es ih =>
    rw [List.map_cons]
    unfold Fields.find?
    split
    · next h =>
      subst h
      rfl
    · exact ih

/-- Noting changes nothing else, and calls of names that are not held run nothing. -/
theorem Registry.apply_noting (r : Registry σ) (c : Filter.Call) (v : Value) (s : σ) (noted : List Filter.Call) :
    r.noting.apply c.name v c.params (s, noted) =
      ((r.apply c.name v c.params s).1, (r.apply c.name v c.params s).2,
        noted ++ [c].filter fun c => r.contains c.name) := by
  have hheld : r.contains c.name = (r.find? c.name).isSome := rfl
  unfold Registry.apply
  rw [Registry.find?_noting]
  cases hf : r.find? c.name with
  | none =>
    rw [hf] at hheld
    rw [List.filter_cons_of_neg (by simp [hheld])]
    simp
  | some f =>
    rw [hf] at hheld
    rw [List.filter_cons_of_pos (by simp [hheld])]
    rfl

namespace Filter

namespace Chain

variable {r : Registry σ}

/-! ## Calls that pass -/

/-- Calls that all run, from a value and a state to those that they leave; a call that fails leaves its value. -/
inductive Passes (r : Registry σ) : List Call → Value → σ → Value → σ → Prop where
  | nil {v : Value} {s : σ} : Passes r [] v s v s
  | done {c : Call} {cs : List Call} {v w u : Value} {s s' t : σ} :
      r.apply c.name v c.params s = (.ok w, s') → Passes r cs w s' u t → Passes r (c :: cs) v s u t
  | failed {c : Call} {cs : List Call} {v u : Value} {s s' t : σ} {e : FilterError} :
      r.apply c.name v c.params s = (.error e, s') → Passing e → Passes r cs v s' u t →
        Passes r (c :: cs) v s u t

/-- The value and the state that calls leave if a call that fails just leaves its value. -/
def carry (r : Registry σ) : List Call → Value → σ → Value × σ
  | [], v, s => (v, s)
  | c :: cs, v, s =>
    match r.apply c.name v c.params s with
    | (.ok w, t) => carry r cs w t
    | (.error _, t) => carry r cs v t

theorem Passes.run_append {before : List Call} {v u : Value} {s t : σ} (h : Passes r before v s u t) (rest : List Call) :
    run r (before ++ rest) v s = run r rest u t := by
  induction h with
  | nil => rfl
  | done happ _ ih =>
    rw [List.cons_append, run, happ]
    exact ih
  | @failed _ _ _ _ _ _ _ e happ hpassing _ ih =>
    rw [List.cons_append, run, happ]
    cases e with
    | invalidContent => exact absurd rfl hpassing.1
    | panic p => exact absurd rfl (hpassing.2 p)
    | _ => exact ih

theorem Passes.run_eq {calls : List Call} {v u : Value} {s t : σ} (h : Passes r calls v s u t) :
    run r calls v s = (.ok u, t) := by
  have hrun := h.run_append []
  rwa [List.append_nil] at hrun

/-- Calls that pass are noted if their names are held, and pass. -/
theorem Passes.noting {calls : List Call} {v u : Value} {s t : σ} (h : Passes r calls v s u t) :
    ∀ noted, Passes r.noting calls v (s, noted) u (t, noted ++ calls.filter fun c => r.contains c.name) := by
  induction h with
  | nil =>
    intro noted
    rw [List.filter_nil, List.append_nil]
    exact .nil
  | @done c cs v _ _ s _ _ happ _ ih =>
    intro noted
    have hnoting := r.apply_noting c v s noted
    rw [happ] at hnoting
    rw [← List.singleton_append, List.filter_append, ← List.append_assoc]
    exact .done hnoting (ih _)
  | @failed c cs v _ s _ _ _ happ hpassing _ ih =>
    intro noted
    have hnoting := r.apply_noting c v s noted
    rw [happ] at hnoting
    rw [← List.singleton_append, List.filter_append, ← List.append_assoc]
    exact .failed hnoting hpassing (ih _)

/-- **What passes is what is left without the calls that change nothing**: those of a kind that yield their value or
fail, and act on no state. -/
theorem Passes.carry_eq {P : Call → Prop} [DecidablePred P]
    (hP : ∀ c, P c → ∀ v s, (r.apply c.name v c.params s).2 = s ∧
      ∀ w, (r.apply c.name v c.params s).1 = .ok w → w = v)
    {calls : List Call} {v u : Value} {s t : σ} (h : Passes r calls v s u t) :
    carry r (calls.filter fun c => ¬P c) v s = (u, t) := by
  induction h with
  | nil => rfl
  | @done c _ v _ _ s _ _ happ _ ih =>
    by_cases hc : P c
    · obtain ⟨hstate, hvalue⟩ := hP c hc v s
      rw [happ] at hstate hvalue
      cases hstate
      cases hvalue _ rfl
      rw [List.filter_cons_of_neg (by simpa using hc)]
      exact ih
    · rw [List.filter_cons_of_pos (by simpa using hc), carry, happ]
      exact ih
  | @failed c _ v _ s _ _ _ happ _ _ ih =>
    by_cases hc : P c
    · obtain ⟨hstate, -⟩ := hP c hc v s
      rw [happ] at hstate
      cases hstate
      rw [List.filter_cons_of_neg (by simpa using hc)]
      exact ih
    · rw [List.filter_cons_of_pos (by simpa using hc), carry, happ]
      exact ih

/-! ## How a chain ends -/

/-- The stop that a call's error is, unless the chain goes on behind it. -/
def stopOf? (c : Call) (v : Value) : FilterError → Option Stop
  | .invalidContent => some (.rejected c.name v)
  | .panic p => some (.panicked p)
  | _ => none

/-- A chain that stops has passed the calls before one whose error is the stop. -/
structure StopsAt (r : Registry σ) (v : Value) (s : σ) (stop : Stop) (t : σ) (before : List Call) (c : Call)
    (u : Value) (s' : σ) (e : FilterError) : Prop where
  passes : Passes r before v s u s'
  fails : r.apply c.name u c.params s' = (.error e, t)
  stop : stopOf? c u e = some stop

/-- A step of a chain: it goes on behind a call that passes, and stops at any other. -/
theorem run_cons (r : Registry σ) (c : Call) (cs : List Call) (v : Value) (s : σ) :
    run r (c :: cs) v s = match r.apply c.name v c.params s with
      | (.ok w, t) => run r cs w t
      | (.error e, t) =>
        match stopOf? c v e with
        | some stop => (.error stop, t)
        | none => run r cs v t := by
  rw [run]
  rcases r.apply c.name v c.params s with ⟨e | w, t⟩
  · cases e <;> rfl
  · rfl

theorem stopOf?_eq_none {c : Call} {v : Value} {e : FilterError} (h : stopOf? c v e = none) : Passing e := by
  constructor
  · rintro rfl
    cases h
  · rintro p rfl
    cases h

theorem stopOf?_eq_rejected {c : Call} {v w : Value} {f : String} {e : FilterError}
    (h : stopOf? c v e = some (.rejected f w)) : e = .invalidContent ∧ c.name = f ∧ v = w := by
  cases e <;> cases h
  exact ⟨rfl, rfl, rfl⟩

theorem stopOf?_eq_panicked {c : Call} {v : Value} {p : Panic} {e : FilterError}
    (h : stopOf? c v e = some (.panicked p)) : e = .panic p := by
  cases e <;> cases h
  rfl

/-- **A chain that yields a value has passed all its calls.** -/
theorem passes_of_run : ∀ {calls : List Call} {v w : Value} {s t : σ}, run r calls v s = (.ok w, t) →
    Passes r calls v s w t
  | [], _, _, _, _, h => by
    cases h
    exact .nil
  | c :: cs, v, _, s, _, h => by
    rw [run_cons] at h
    split at h
    · next happ => exact .done happ (passes_of_run h)
    · next happ =>
      split at h
      · cases h
      · next hstop => exact .failed happ (stopOf?_eq_none hstop) (passes_of_run h)

/-- **A chain that stops does so at the first call that does not pass.** -/
theorem stops_of_run : ∀ {calls : List Call} {v : Value} {s t : σ} {stop : Stop},
    run r calls v s = (.error stop, t) → ∃ before c after u s' e, calls = before ++ c :: after ∧
      StopsAt r v s stop t before c u s' e
  | [], _, _, _, _, h => nomatch h
  | c :: cs, v, s, _, _, h => by
    rw [run_cons] at h
    split at h
    · next happ =>
      obtain ⟨before, d, after, u, s', e, rfl, hstops⟩ := stops_of_run h
      exact ⟨c :: before, d, after, u, s', e, rfl, .done happ hstops.passes, hstops.fails, hstops.stop⟩
    · next e t happ =>
      split at h
      · next hstop =>
        cases h
        exact ⟨[], c, cs, v, s, e, rfl, .nil, happ, hstop⟩
      · next hstop =>
        obtain ⟨before, d, after, u, s', e', rfl, hstops⟩ := stops_of_run h
        exact ⟨c :: before, d, after, u, s', e', rfl, .failed happ (stopOf?_eq_none hstop) hstops.passes, hstops.fails,
          hstops.stop⟩

/-- A chain that stops has noted the calls up to that at which it stops, and none behind it. -/
theorem StopsAt.noted {v u : Value} {s t s' : σ} {stop : Stop} {before : List Call} {c : Call} {e : FilterError}
    (h : StopsAt r v s stop t before c u s' e) (after : List Call) :
    run r.noting (before ++ c :: after) v (s, []) =
      (.error stop, t, (before ++ [c]).filter fun c => r.contains c.name) := by
  have hnoting := r.apply_noting c u s' ([] ++ before.filter fun c => r.contains c.name)
  rw [h.fails, List.nil_append, ← List.filter_append] at hnoting
  rw [(h.passes.noting []).run_append, List.nil_append, run_cons, hnoting]
  simp only [h.stop]

end Chain

/-! ## The built-in filters -/

/-- A call does what a filter of its name does, which is a validator exactly if the name starts with an underscore, or
it fails for want of one.  None acts on a state. -/
theorem builtin_apply_cases (clock : Clock) (c : Call) :
    (∃ g : Value → String → Except FilterError Value, (c.IsGuard → Guards g) ∧ (¬c.IsGuard → ∀ v p, Obliging (g v p)) ∧
      ∀ v (s : σ), (builtin σ clock).apply c.name v c.params s = (g v c.params, s)) ∨
    ∀ v (s : σ), (builtin σ clock).apply c.name v c.params s = (.error (.notFound c.name), s) := by
  unfold Registry.apply
  cases hfind : (builtin σ clock).find? c.name with
  | none => exact .inr fun _ _ => rfl
  | some f =>
    refine .inl ?_
    have hmem : f ∈ transforms σ clock ++ validators σ ∧ f.name = c.name := by
      rcases find?_foldl_insert hfind with h | h
      · exact h
      · cases h
    have hrun : ∀ {g : Value → String → Except FilterError Value}, (f.run = fun v params s => (g v params, s)) →
        ∀ v (s : σ), f.run v c.params s = (g v c.params, s) := fun h v s => by rw [h]
    rcases List.mem_append.1 hmem.1 with hf | hf
    · obtain ⟨g, hg, h⟩ := transforms_obliging σ clock f hf
      have hname := transforms_name σ clock f hf
      rw [hmem.2] at hname
      exact ⟨g, fun hc => absurd hc hname, fun _ => hg, hrun h⟩
    · obtain ⟨g, hg, h⟩ := validators_guard σ f hf
      have hname := validators_name σ f hf
      rw [hmem.2] at hname
      exact ⟨g, fun _ => hg, fun hc => absurd hname hc, hrun h⟩

/-- A call leaves the state, and its value if it is one of a validator that does not fail. -/
theorem builtin_guard (clock : Clock) {c : Call} (hc : c.IsGuard) (v : Value) (s : σ) :
    ((builtin σ clock).apply c.name v c.params s).2 = s ∧
      ∀ w, ((builtin σ clock).apply c.name v c.params s).1 = .ok w → w = v := by
  rcases builtin_apply_cases (σ := σ) clock c with ⟨g, hg, -, happ⟩ | happ
  · rw [happ]
    exact ⟨rfl, hg hc v c.params⟩
  · rw [happ]
    exact ⟨rfl, nofun⟩

/-- A call of another name than the validators' refuses nothing. -/
theorem builtin_obliging (clock : Clock) {c : Call} (hc : ¬c.IsGuard) (v : Value) (s : σ) :
    Obliging ((builtin σ clock).apply c.name v c.params s).1 := by
  rcases builtin_apply_cases (σ := σ) clock c with ⟨g, -, hg, happ⟩ | happ
  · rw [happ]
    exact hg hc v c.params
  · rw [happ]
    exact errs_error nofun

theorem builtin_state (clock : Clock) (c : Call) (v : Value) (s : σ) :
    ((builtin σ clock).apply c.name v c.params s).2 = s := by
  rcases builtin_apply_cases (σ := σ) clock c with ⟨g, -, -, happ⟩ | happ
  · rw [happ]
  · rw [happ]

/-- What passes is what the calls of other names than the validators' make of a value. -/
theorem builtin_carry (clock : Clock) {calls : List Call} {v u : Value} {s t : σ}
    (h : Chain.Passes (builtin σ clock) calls v s u t) :
    Chain.carry (builtin σ clock) (calls.filter fun c => ¬c.IsGuard) v s = (u, t) :=
  h.carry_eq (P := Call.IsGuard) fun _ hc => builtin_guard clock hc

/-- A chain of built-in filters stops in the state that it started in, with the value that the calls before make of its
own without the validators, and has run no call behind. -/
theorem builtin_stops (clock : Clock) {calls : List Call} {v : Value} {s t : σ} {stop : Stop}
    (h : Chain.run (builtin σ clock) calls v s = (.error stop, t)) :
    ∃ before c after u e, calls = before ++ c :: after ∧ Chain.StopsAt (builtin σ clock) v s stop t before c u t e ∧
      Chain.carry (builtin σ clock) (before.filter fun c => ¬c.IsGuard) v s = (u, t) ∧
      (Chain.run (builtin σ clock).noting calls v (s, [])).2.2 =
        (before ++ [c]).filter fun c => (builtin σ clock).contains c.name := by
  obtain ⟨before, c, after, u, s', e, rfl, hstops⟩ := Chain.stops_of_run h
  have hstate := builtin_state clock c u s'
  rw [hstops.fails] at hstate
  cases hstate
  exact ⟨before, c, after, u, e, rfl, hstops, builtin_carry clock hstops.passes,
    congrArg (fun p => p.2.2) (hstops.noted after)⟩

/-- **Validators are pure guards of a chain.**  A chain of built-in filters that yields a value has run all its calls,
and the value is what those of them make of it that are no validators', each of which leaves the value where it fails.
A chain whose value is refused has run its calls up to the first that refuses it, which is a validator's, and none
behind it; the value that is refused is what the calls before make of it without the validators.  A chain that panics
has passed the calls before the one that does as well.  No other filter refuses a value, and no validator changes one,
whatever its parameters are. -/
theorem validators_only_guard (clock : Clock) (expr : String) (v : Value) (s : σ) :
    let r := builtin σ clock
    let calls := Call.parse expr
    let held := fun cs : List Call => cs.filter fun c => r.contains c.name
    let changed := fun cs : List Call => Chain.carry r (cs.filter fun c => ¬c.IsGuard) v s
    let ran := (Chain.apply r.noting v expr (s, [])).2.2
    (match Chain.apply r v expr s with
      | (.ok w, t) => changed calls = (w, t) ∧ ran = held calls
      | (.error (.rejected f u), t) => ∃ before c after, calls = before ++ c :: after ∧ c.name = f ∧ c.IsGuard ∧
        Chain.Passes r before v s u t ∧ r.apply f u c.params t = (.error .invalidContent, t) ∧
        changed before = (u, t) ∧ ran = held (before ++ [c])
      | (.error (.panicked p), t) => ∃ before c after u, calls = before ++ c :: after ∧
        Chain.Passes r before v s u t ∧ r.apply c.name u c.params t = (.error (.panic p), t) ∧
        changed before = (u, t) ∧ ran = held (before ++ [c])) ∧
    (∀ c : Call, ¬c.IsGuard → ∀ v s, (r.apply c.name v c.params s).1 ≠ .error .invalidContent) ∧
    ∀ c : Call, c.IsGuard → ∀ v s w, (r.apply c.name v c.params s).1 = .ok w → w = v := by
  intro r calls held changed ran
  refine ⟨?_, fun c hc v s => (builtin_obliging clock hc v s).ne, fun c hc v s => (builtin_guard clock hc v s).2⟩
  split
  · next hrun =>
    have hpasses := Chain.passes_of_run hrun
    exact ⟨builtin_carry clock hpasses, congrArg (fun p => p.2.2) ((hpasses.noting []).run_eq)⟩
  · next f u t hrun =>
    obtain ⟨before, c, after, w, e, hcalls, hstops, hchanged, hran⟩ := builtin_stops clock hrun
    obtain ⟨rfl, rfl, rfl⟩ := Chain.stopOf?_eq_rejected hstops.stop
    have hc : c.IsGuard := by
      refine Decidable.byContradiction fun hc => (builtin_obliging clock hc w t).ne ?_
      rw [hstops.fails]
    exact ⟨before, c, after, hcalls, rfl, hc, hstops.passes, hstops.fails, hchanged, hran⟩
  · next p t hrun =>
    obtain ⟨before, c, after, w, e, hcalls, hstops, hchanged, hran⟩ := builtin_stops clock hrun
    cases Chain.stopOf?_eq_panicked hstops.stop
    exact ⟨before, c, after, w, hcalls, hstops.passes, hstops.fails, hchanged, hran⟩

end Filter

end Harvest
