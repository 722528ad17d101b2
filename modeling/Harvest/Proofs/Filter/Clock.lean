import Harvest.Proofs.Fields
import Harvest.Proofs.Filter.Guard
/-!
# Filters that look at nothing but their value

Of the built-in filters two read the clock.  The others yield the same wherever and whenever they are called, and no
built-in filter acts on a state (`timeless_apply`).
-/
namespace Harvest.Filter

variable {σ : Type}

/-- The names of the filters that read the clock. -/
def clockNames : List String := ["unixtime", "unixmill"]

/-- The built-in filters but those that read the clock. -/
def timelessTable (σ : Type) (clock : Clock) : List (Filter σ) :=
  (transforms σ clock ++ validators σ).filter fun f => f.name ∉ clockNames

/-- The registry of the built-in filters without those that read the clock. -/
@[irreducible]
def timeless (σ : Type) : Registry σ := (timelessTable σ ⟨0, 0⟩).foldl Registry.insert Registry.empty

/-- A registry holds the last of the filters of a name that were put into it. -/
theorem find?_foldl (k : String) (fs : List (Filter σ)) : (fs.foldl Registry.insert Registry.empty).find? k =
    (fs.filterMap fun f => if f.name = k then some f else none).getLast? := by
  have hentries : ∀ (fs : List (Filter σ)) (r : Registry σ), (fs.foldl Registry.insert r).entries =
      (fs.map fun f => (f.name, f)).foldl (fun fs p => fs.insert p.1 p.2) r.entries := by
    intro fs
    induction fs with
    | nil => exact fun _ => rfl
    | cons f fs ih => exact fun r => ih (r.insert f)
  unfold Registry.find?
  rw [hentries, Fields.find?_foldl_insert, List.filterMap_map]
  exact Option.or_none

/-- The same filter over states of another type, where it acts on none. -/
def spread (σ : Type) (f : Filter Unit) : Filter σ :=
  .stateless f.name f.description f.usage fun v params => (f.run v params ()).1

theorem timelessTable_eq (σ : Type) (clock : Clock) :
    timelessTable σ clock = (timelessTable Unit ⟨0, 0⟩).map (spread σ) := rfl

theorem find?_timeless (σ : Type) (name : String) :
    (timeless σ).find? name = ((timeless Unit).find? name).map (spread σ) := by
  unfold timeless
  rw [find?_foldl, find?_foldl, timelessTable_eq, List.filterMap_map, ← List.getLast?_map, List.map_filterMap]
  congr 2
  funext f
  show (if f.name = name then some (spread σ f) else none) = _
  split <;> rfl

/-- **A built-in filter that does not read the clock does the same for all states**, and changes none. -/
theorem timeless_apply (name : String) (v : Value) (params : String) (s : σ) :
    (timeless σ).apply name v params s = (((timeless Unit).apply name v params ()).1, s) := by
  unfold Registry.apply
  rw [find?_timeless]
  cases (timeless Unit).find? name with
  | none => rfl
  | some f => rfl

/-- Calls of other names than those of the clock's filters do not need them. -/
theorem builtin_apply {name : String} (hname : name ∉ clockNames) (clock : Clock) (v : Value) (params : String)
    (s : σ) : (builtin σ clock).apply name v params s = (timeless σ).apply name v params s := by
  have hfind : (builtin σ clock).find? name = (timeless σ).find? name := by
    unfold builtin timeless
    rw [find?_foldl, find?_foldl, timelessTable_eq, ← timelessTable_eq σ clock, timelessTable, List.filterMap_filter]
    congr 2
    funext f
    by_cases hf : f.name = name
    · subst hf
      rw [if_pos rfl, if_pos (by simpa using hname)]
    · rw [if_neg hf, ite_self]
  unfold Registry.apply
  rw [hfind]

/-- The calls of a chain do in the registry what they do without the filters that read the clock. -/
def Steady (r : Registry σ) (calls : List Call) : Prop :=
  ∀ c ∈ calls, ∀ v s, r.apply c.name v c.params s = (timeless σ).apply c.name v c.params s

theorem steady_timeless (calls : List Call) : Steady (timeless σ) calls := fun _ _ _ _ => rfl

theorem steady_builtin {clock : Clock} {calls : List Call} (h : ∀ c ∈ calls, c.name ∉ clockNames) :
    Steady (builtin σ clock) calls :=
  fun c hc v s => builtin_apply (h c hc) clock v c.params s

theorem Steady.run_eq {r : Registry σ} : ∀ {calls : List Call}, Steady r calls → ∀ (v : Value) (s : σ),
    Chain.run r calls v s = Chain.run (timeless σ) calls v s
  | [], _, _, _ => rfl
  | c :: cs, h, v, s => by
    have hrest : Steady r cs := fun d hd => h d (List.mem_cons_of_mem c hd)
    unfold Chain.run
    rw [h c List.mem_cons_self v s]
    generalize (timeless σ).apply c.name v c.params s = p
    obtain ⟨res, t⟩ := p
    cases res with
    | ok next => exact run_eq hrest next t
    | error err =>
      cases err with
      | invalidContent => rfl
      | panic p => rfl
      | _ => exact run_eq hrest v t

end Harvest.Filter
