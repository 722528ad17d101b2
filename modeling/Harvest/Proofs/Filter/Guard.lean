import Harvest.Filter.Builtin
import Harvest.Filter.Chain
/-!
# Filters that hand their value on

A validator gives back the value it was given or none at all (`Guards`).  In the registry of the built-in filters the
names that start with an underscore are those of the validators, so a chain of calls of such names leaves its value as
it was (`run_of_guards`), whether the names are held or not.
-/
namespace Harvest.Filter

variable {σ : Type}

/-- A filter function that yields nothing but the value it was given. -/
def Guards (f : Value → String → Except FilterError Value) : Prop := ∀ v params w, f v params = .ok w → w = v

/-- A call of a name that starts with an underscore. -/
def Call.IsGuard (c : Call) : Prop := c.name.toList.head? = some '_'

instance : DecidablePred Call.IsGuard := fun c => inferInstanceAs (Decidable (c.name.toList.head? = some '_'))

theorem eq_of_pass {r : Except FilterError Bool} {v w : Value}
    (h : (do if ← r then return v else throw .invalidContent : Except FilterError Value) = .ok w) : w = v := by
  cases r with
  | error e => cases h
  | ok passes =>
    cases passes with
    | true => cases h; rfl
    | false => cases h

theorem eq_of_tryCheck {test : String → Except FilterError Bool} {v w : Value} (h : tryCheck test v = .ok w) :
    w = v := by
  unfold tryCheck at h
  split at h <;> exact eq_of_pass h

theorem guards_required : Guards required := by
  intro v params w h
  unfold required at h
  split at h
  · cases h; rfl
  · cases h

theorem guards_plainCheck (test : String → Bool) : Guards (plainCheck test) := fun _ _ _ h => eq_of_tryCheck h

theorem guards_sized (test : Nat → Nat → Bool) : Guards (sized test) := by
  intro v params w h
  unfold sized at h
  cases hs : sizeParam params with
  | error e => rw [hs] at h; cases h
  | ok size => rw [hs] at h; exact eq_of_tryCheck h

theorem guards_matching (engine : Pattern.Engine) (wanted : Bool) : Guards (matching engine wanted) := by
  intro v params w h
  unfold matching at h
  cases hc : Pattern.Regex.compile engine params with
  | error e => rw [hc] at h; cases h
  | ok r => rw [hc] at h; exact eq_of_tryCheck h

/-- A filter function that tests the strings of its value, perhaps by what its parameters say. -/
inductive Tests : (Value → String → Except FilterError Value) → Prop where
  | plain (test : String → Bool) : Tests (plainCheck test)
  | size (test : Nat → Nat → Bool) : Tests (sized test)
  | pattern (engine : Pattern.Engine) (wanted : Bool) : Tests (matching engine wanted)

/-- Every validator but the first tests strings, and none acts on a state. -/
theorem validators_tests (σ : Type) : ∀ f ∈ validators σ, ∃ g, ((f.name = "_required" ∧ g = required) ∨ Tests g) ∧
    f.run = fun v params s => (g v params, s) := by
  unfold validators
  simp only [List.forall_mem_cons, Filter.stateless]
  exact ⟨⟨_, .inl ⟨trivial, rfl⟩, rfl⟩, ⟨_, .inr (.plain _), rfl⟩, ⟨_, .inr (.plain _), rfl⟩, ⟨_, .inr (.plain _), rfl⟩,
    ⟨_, .inr (.plain _), rfl⟩, ⟨_, .inr (.plain _), rfl⟩, ⟨_, .inr (.plain _), rfl⟩, ⟨_, .inr (.plain _), rfl⟩,
    ⟨_, .inr (.size _), rfl⟩, ⟨_, .inr (.size _), rfl⟩, ⟨_, .inr (.size _), rfl⟩, ⟨_, .inr (.plain _), rfl⟩,
    ⟨_, .inr (.plain _), rfl⟩, ⟨_, .inr (.plain _), rfl⟩, ⟨_, .inr (.pattern _ _), rfl⟩,
    ⟨_, .inr (.pattern _ _), rfl⟩, ⟨_, .inr (.pattern _ _), rfl⟩, ⟨_, .inr (.pattern _ _), rfl⟩, List.forall_mem_nil _⟩

/-- **Every validator hands its value on**, and acts on no state. -/
theorem validators_guard (σ : Type) :
    ∀ f ∈ validators σ, ∃ g, Guards g ∧ f.run = fun v params s => (g v params, s) := by
  intro f hf
  obtain ⟨g, hg, hrun⟩ := validators_tests σ f hf
  refine ⟨g, ?_, hrun⟩
  rcases hg with ⟨-, rfl⟩ | test | test | ⟨engine, wanted⟩
  · exact guards_required
  · exact guards_plainCheck test
  · exact guards_sized test
  · exact guards_matching engine wanted

/-- No other filter has a name with an underscore in front. -/
theorem transforms_name (σ : Type) (clock : Clock) :
    ∀ f ∈ transforms σ clock, f.name.toList.head? ≠ some '_' := by
  have h : ∀ n ∈ (transforms σ clock).map Filter.name, n.toList.head? ≠ some '_' := by
    unfold transforms
    simp only [List.map_cons, List.map_nil, Filter.stateless]
    decide
  exact fun f hf => h f.name (List.mem_map_of_mem hf)

theorem validators_name (σ : Type) : ∀ f ∈ validators σ, f.name.toList.head? = some '_' := by
  have h : ∀ n ∈ (validators σ).map Filter.name, n.toList.head? = some '_' := by
    unfold validators
    simp only [List.map_cons, List.map_nil, Filter.stateless]
    decide
  exact fun f hf => h f.name (List.mem_map_of_mem hf)

/-- What a registry holds after several filters have been put in is one of them or was held before. -/
theorem find?_foldl_insert {name : String} {f : Filter σ} :
    ∀ {fs : List (Filter σ)} {r : Registry σ}, (fs.foldl Registry.insert r).find? name = some f →
      (f ∈ fs ∧ f.name = name) ∨ r.find? name = some f
  | [], _, h => .inr h
  | g :: fs, r, h => by
    rw [List.foldl_cons] at h
    rcases find?_foldl_insert h with ⟨hf, hn⟩ | h
    · exact .inl ⟨List.mem_cons_of_mem g hf, hn⟩
    · unfold Registry.find? Registry.insert at h
      rw [Fields.find?_insert] at h
      split at h
      · rename_i hg
        cases h
        exact .inl ⟨List.mem_cons_self, hg⟩
      · exact .inr h

/-- **A call of a guard yields its value or fails.** -/
theorem apply_guard {clock : Clock} {c : Call} (hc : c.IsGuard) {v w : Value} {s t : σ}
    (h : (builtin σ clock).apply c.name v c.params s = (.ok w, t)) : w = v := by
  unfold Registry.apply at h
  split at h
  · rename_i f hfind
    have hmem : f ∈ transforms σ clock ++ validators σ ∧ f.name = c.name := by
      rcases find?_foldl_insert hfind with h | h
      · exact h
      · cases h
    rcases List.mem_append.1 hmem.1 with hf | hf
    · exact absurd (hmem.2 ▸ hc) (transforms_name σ clock f hf)
    · obtain ⟨g, hg, hrun⟩ := validators_guard σ f hf
      rw [hrun] at h
      exact hg v c.params w (congrArg Prod.fst h)
  · cases h

/-- **A chain of calls that each yield their value yields the value it was given**, if it yields one. -/
theorem run_eq {r : Registry σ} : ∀ {calls : List Call} {v w : Value} {s t : σ},
    (∀ c ∈ calls, ∀ v w s t, r.apply c.name v c.params s = (.ok w, t) → w = v) →
      Chain.run r calls v s = (.ok w, t) → w = v
  | [], v, w, s, t, _, h => by
    cases h
    rfl
  | c :: cs, v, w, s, t, hcs, h => by
    have hrest := fun d hd => hcs d (List.mem_cons_of_mem c hd)
    unfold Chain.run at h
    split at h
    · rename_i next s' happ
      rw [run_eq hrest h]
      exact hcs c List.mem_cons_self v next _ _ happ
    · cases h
    · cases h
    · exact run_eq hrest h

theorem run_of_guards {clock : Clock} {calls : List Call} {v w : Value} {s t : σ} (hcs : ∀ c ∈ calls, c.IsGuard)
    (h : Chain.run (builtin σ clock) calls v s = (.ok w, t)) : w = v :=
  run_eq (fun c hc _ _ _ _ => apply_guard (hcs c hc)) h

end Harvest.Filter
