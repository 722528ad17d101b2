/-!
# Named entries

Entries with distinct names, kept in increasing order of their names, so two of them with the same entries are equal.
`find?_insert` says what an insertion changes.
-/
namespace Harvest

/-- Entries in increasing order of their names. -/
abbrev Fields (α : Type) := List (String × α)

namespace Fields

variable {α : Type}

def find? (name : String) : Fields α → Option α
  | [] => none
  | (n, a) :: rest => if n = name then some a else find? name rest

/-- Puts an entry in its place, in place of one of the same name. -/
def insert (name : String) (a : α) : Fields α → Fields α
  | [] => [(name, a)]
  | (n, b) :: rest =>
    if name < n then (name, a) :: (n, b) :: rest
    else if n = name then (name, a) :: rest
    else (n, b) :: insert name a rest

def contains (name : String) (fs : Fields α) : Bool := (fs.find? name).isSome

/-- The entries of a list; of two of one name the later one counts. -/
def ofList (ps : List (String × α)) : Fields α := ps.foldl (fun fs p => fs.insert p.1 p.2) []

theorem find?_insert (name other : String) (a : α) (fs : Fields α) :
    (fs.insert name a).find? other = if name = other then some a else fs.find? other := by
  induction fs with
  | nil => simp [insert, find?]
  | cons p rest ih =>
    obtain ⟨n, b⟩ := p
    unfold insert
    split
    · simp [find?]
    · split
      · next h => subst h; by_cases h : n = other <;> simp [find?, h]
      · next h =>
        simp only [find?, ih]
        by_cases h₁ : n = other
        · subst h₁; simp [Ne.symm h]
        · simp [h₁]

theorem mem_of_mem_insert {name : String} {a : α} {p : String × α} :
    ∀ {fs : Fields α}, p ∈ fs.insert name a → p = (name, a) ∨ p ∈ fs
  | [], h => .inl (List.mem_singleton.1 h)
  | (n, b) :: rest, h => by
    unfold insert at h
    split at h
    · exact List.mem_cons.1 h
    · split at h
      · exact (List.mem_cons.1 h).imp_right (List.mem_cons_of_mem (n, b))
      · rcases List.mem_cons.1 h with h | h
        · exact .inr (h ▸ List.mem_cons_self)
        · exact (mem_of_mem_insert h).imp_right (List.mem_cons_of_mem (n, b))

end Fields

end Harvest
