import Harvest.Error
import Harvest.Fields
/-!
# Filters by name

A filter takes a value and the text of its parameters to a value or an error; it may act on a state, such as a store of
files.  A registry holds filters by name: a name is registered once, and replaced only while it is held.
-/
namespace Harvest

/-- A filter with its documentation, over states of type `σ`. -/
structure Filter (σ : Type) where
  name : String
  description : String
  usage : String
  run : Value → String → σ → Except FilterError Value × σ

/-- A filter that leaves the state alone. -/
def Filter.stateless {σ : Type} (name description usage : String) (f : Value → String → Except FilterError Value) :
    Filter σ :=
  { name, description, usage, run := fun value params s => (f value params, s) }

/-- What a listing says about a filter. -/
structure FilterInfo where
  name : String
  description : String
  usage : String
  deriving DecidableEq, Repr

/-- What a listing says about this filter. -/
def Filter.info {σ : Type} (f : Filter σ) : FilterInfo := ⟨f.name, f.description, f.usage⟩

/-- Filters by name. -/
structure Registry (σ : Type) where
  entries : Fields (Filter σ)

namespace Registry

variable {σ : Type}

def empty : Registry σ := ⟨[]⟩

def find? (r : Registry σ) (name : String) : Option (Filter σ) := r.entries.find? name

def contains (r : Registry σ) (name : String) : Bool := r.entries.contains name

def size (r : Registry σ) : Nat := r.entries.length

def insert (r : Registry σ) (f : Filter σ) : Registry σ := ⟨r.entries.insert f.name f⟩

/-- Adds a filter under a name that is free. -/
def register (r : Registry σ) (f : Filter σ) : Except RegistryError (Registry σ) :=
  if r.contains f.name then .error (.alreadyRegistered f.name) else .ok (r.insert f)

/-- Puts a filter in place of the one that holds its name. -/
def replace (r : Registry σ) (f : Filter σ) : Except RegistryError (Registry σ) :=
  if r.contains f.name then .ok (r.insert f) else .error (.notRegistered f.name)

def apply (r : Registry σ) (name : String) (value : Value) (params : String) (s : σ) :
    Except FilterError Value × σ :=
  match r.find? name with
  | some f => f.run value params s
  | none => (.error (.notFound name), s)

/-- All filters in the order of their names. -/
def describe (r : Registry σ) : List FilterInfo := r.entries.map fun e => e.2.info

end Registry

end Harvest
