import Harvest.Proofs.Fields
import Harvest.Proofs.Filter.Registry
/-!
# A registry and its history

Registrations and replacements are tried one after the other on a registry that starts out empty.  Its entries stay in
order, each under the name of its filter (`Sound`), so that all it shows is told by the calls that succeeded
(`Shows`): the last one of each name, and how many names were registered.
-/
namespace Harvest

theorem Fields.length_insert_of_find?_eq_some {α : Type} {name : String} {a b : α} : ∀ {fs : Fields α}, Sorted fs →
    fs.find? name = some b → (fs.insert name a).length = fs.length
  | (n, c) :: rest, hsorted, h => by
    obtain ⟨hn, hrest⟩ := List.pairwise_cons.1 hsorted
    unfold Fields.insert
    split
    · rename_i hlt
      -- A name before the first one is not held.
      have hnone : Fields.find? name ((n, c) :: rest) = none := find?_of_lt fun p hp => by
        rcases List.mem_cons.1 hp with rfl | hp
        · exact hlt
        · exact String.lt_trans hlt (hn p hp)
      rw [hnone] at h
      cases h
    · split
      · rfl
      · rename_i hne
        rw [find?, if_neg hne] at h
        rw [List.length_cons, List.length_cons, length_insert_of_find?_eq_some hrest h]

theorem Fields.find?_eq_some_iff_mem {α : Type} {name : String} {a : α} : ∀ {fs : Fields α}, Sorted fs →
    (fs.find? name = some a ↔ (name, a) ∈ fs)
  | [], _ => by simp [find?]
  | (n, b) :: rest, hsorted => by
    obtain ⟨hn, hrest⟩ := List.pairwise_cons.1 hsorted
    rw [find?]
    by_cases h : n = name
    · subst h
      have hnot : (n, a) ∉ rest := fun hmem => String.lt_irrefl n (hn (n, a) hmem)
      simp [hnot, eq_comm]
    · have hne : ¬ name = n := fun heq => h heq.symm
      rw [if_neg h, find?_eq_some_iff_mem hrest]
      simp [hne]

namespace Registry

variable {σ : Type}

/-- A call that may change a registry. -/
inductive Edit (σ : Type) where
  | register (f : Filter σ)
  | replace (f : Filter σ)

namespace Edit

def filter : Edit σ → Filter σ
  | register f => f
  | replace f => f

def isRegister : Edit σ → Bool
  | register _ => true
  | replace _ => false

def conflict : Edit σ → RegistryError
  | register f => .alreadyRegistered f.name
  | replace f => .notRegistered f.name

def tried (r : Registry σ) : Edit σ → Except RegistryError (Registry σ)
  | register f => r.register f
  | replace f => r.replace f

/-- **What a call that succeeds does**: a name that is free is registered, one that is held is replaced. -/
theorem tried_eq_ok {r r' : Registry σ} {e : Edit σ} :
    e.tried r = .ok r' ↔ r.contains e.filter.name = !e.isRegister ∧ r' = r.insert e.filter := by
  cases e with
  | register f =>
    unfold tried Registry.register
    cases h : r.contains f.name <;> simp [filter, isRegister, h, eq_comm]
  | replace f =>
    unfold tried Registry.replace
    cases h : r.contains f.name <;> simp [filter, isRegister, h, eq_comm]

/-- **When a call fails**: a registration if the name is held, a replacement if it is not. -/
theorem tried_eq_error {r : Registry σ} {e : Edit σ} {err : RegistryError} :
    e.tried r = .error err ↔ r.contains e.filter.name = e.isRegister ∧ err = e.conflict := by
  cases e with
  | register f =>
    unfold tried Registry.register
    cases h : r.contains f.name <;> simp [filter, isRegister, conflict, h, eq_comm]
  | replace f =>
    unfold tried Registry.replace
    cases h : r.contains f.name <;> simp [filter, isRegister, conflict, h, eq_comm]

end Edit

/-- The registry after calls, each of which changes it if it succeeds. -/
def edited (r : Registry σ) : List (Edit σ) → Registry σ
  | [] => r
  | e :: es =>
    match e.tried r with
    | .ok r' => edited r' es
    | .error _ => edited r es

/-- The calls that succeed, in their order. -/
def accepted (r : Registry σ) : List (Edit σ) → List (Edit σ)
  | [] => []
  | e :: es =>
    match e.tried r with
    | .ok r' => e :: accepted r' es
    | .error _ => accepted r es

theorem edited_append (es' : List (Edit σ)) : ∀ (es : List (Edit σ)) (r : Registry σ),
    edited r (es ++ es') = edited (edited r es) es'
  | [], _ => rfl
  | e :: es, r => by
    rw [List.cons_append, edited, edited]
    split
    · exact edited_append es' es _
    · exact edited_append es' es r

/-! ## Entries under the names of their filters -/

/-- Each filter is under its own name, and the names are in order. -/
structure Sound (r : Registry σ) : Prop where
  sorted : Fields.Sorted r.entries
  keyed : ∀ p ∈ r.entries, p.1 = p.2.name

theorem sound_empty : Sound (empty : Registry σ) where
  sorted := List.Pairwise.nil
  keyed _ h := nomatch h

theorem Sound.insert {r : Registry σ} (h : r.Sound) (f : Filter σ) : (r.insert f).Sound where
  sorted := h.sorted.insert f.name f
  keyed p hp := by
    rcases Fields.mem_of_mem_insert hp with rfl | hp
    · rfl
    · exact h.keyed p hp

theorem Sound.size_insert_of_held {r : Registry σ} (h : r.Sound) {f : Filter σ} (hf : r.contains f.name = true) :
    (r.insert f).size = r.size := by
  obtain ⟨g, hg⟩ := Option.isSome_iff_exists.1 hf
  exact Fields.length_insert_of_find?_eq_some h.sorted hg

theorem Sound.find?_eq_some_iff {r : Registry σ} (h : r.Sound) {k : String} {f : Filter σ} :
    r.find? k = some f ↔ (k, f) ∈ r.entries := Fields.find?_eq_some_iff_mem h.sorted

theorem Sound.map_name_describe {r : Registry σ} (h : r.Sound) :
    r.describe.map FilterInfo.name = r.entries.map Prod.fst := by
  unfold describe
  rw [List.map_map]
  exact List.map_congr_left fun p hp => (h.keyed p hp).symm

theorem Sound.mem_describe {r : Registry σ} (h : r.Sound) {i : FilterInfo} :
    i ∈ r.describe ↔ ∃ f, r.find? i.name = some f ∧ i = f.info := by
  unfold describe
  rw [List.mem_map]
  constructor
  · rintro ⟨⟨k, f⟩, hmem, rfl⟩
    have hk : k = f.name := h.keyed (k, f) hmem
    subst hk
    exact ⟨f, h.find?_eq_some_iff.2 hmem, rfl⟩
  · rintro ⟨f, hf, hi⟩
    exact ⟨(i.name, f), h.find?_eq_some_iff.1 hf, hi.symm⟩

/-! ## Runs -/

def lastNamed (k : String) (fs : List (Filter σ)) : Option (Filter σ) := (fs.filter fun f => f.name = k).getLast?

theorem lastNamed_cons (k : String) (f : Filter σ) (fs : List (Filter σ)) :
    lastNamed k (f :: fs) = (lastNamed k fs).or (if f.name = k then some f else none) := by
  unfold lastNamed
  by_cases h : f.name = k
  · rw [List.filter_cons_of_pos (by simpa using h), if_pos h, List.getLast?_cons]
    cases (fs.filter fun f => f.name = k).getLast? <;> rfl
  · rw [List.filter_cons_of_neg (by simpa using h), if_neg h, Option.or_none]

/-- **What a run leaves**: of each name the last filter that was accepted, or the one that was held before, and as many
names more as were registered. -/
theorem Sound.run : ∀ (es : List (Edit σ)) {r : Registry σ}, r.Sound →
    (edited r es).Sound ∧
    (∀ k, (edited r es).find? k = (lastNamed k ((accepted r es).map Edit.filter)).or (r.find? k)) ∧
    (edited r es).size = r.size + (accepted r es).countP Edit.isRegister
  | [], r, h => ⟨h, fun _ => rfl, rfl⟩
  | e :: es, r, h => by
    rw [edited, accepted]
    cases he : e.tried r with
    | error err => exact Sound.run es h
    | ok r' =>
      obtain ⟨hheld, rfl⟩ := Edit.tried_eq_ok.1 he
      obtain ⟨hsound, hfind, hsize⟩ := Sound.run es (h.insert e.filter)
      refine ⟨hsound, fun k => ?_, ?_⟩
      · simp only [List.map_cons]
        rw [hfind, lastNamed_cons, find?_insert, Option.or_assoc]
        split <;> rfl
      · simp only [List.countP_cons]
        rw [hsize]
        cases hreg : e.isRegister with
        | true =>
          rw [hreg] at hheld
          rw [size_insert hheld]
          simp only [if_true]
          omega
        | false =>
          rw [hreg] at hheld
          rw [h.size_insert_of_held hheld]
          simp

theorem contains_insert (r : Registry σ) (f : Filter σ) (k : String) :
    (r.insert f).contains k = true ↔ f.name = k ∨ r.contains k = true := by
  by_cases hf : f.name = k
  · have hheld : (r.insert f).contains k = true := by
      show ((r.insert f).find? k).isSome = true
      rw [find?_insert, if_pos hf]
      rfl
    simp [hheld, hf]
  · rw [contains_insert_of_ne hf]
    simp [hf]

/-- A name is held after a run exactly if it was held before or has been registered. -/
theorem contains_edited (k : String) : ∀ (es : List (Edit σ)) (r : Registry σ),
    (edited r es).contains k = true ↔ r.contains k = true ∨ ∃ f, Edit.register f ∈ es ∧ f.name = k
  | [], r => by simp [edited]
  | e :: es, r => by
    rw [edited]
    cases he : e.tried r with
    | ok r' =>
      obtain ⟨hheld, rfl⟩ := Edit.tried_eq_ok.1 he
      simp only [contains_edited k es, contains_insert]
      cases e with
      | register f => simp [Edit.filter, or_assoc, or_left_comm]
      | replace f =>
        -- What is replaced was held before.
        have hk : f.name = k → r.contains k = true := fun hk => hk ▸ hheld
        simp [Edit.filter, or_iff_right_of_imp hk]
    | error err =>
      simp only [contains_edited k es]
      cases e with
      | register f =>
        -- What is not registered was held before.
        have hk : f.name = k → r.contains k = true := fun hk => hk ▸ (Edit.tried_eq_error.1 he).1
        simp only [List.mem_cons, Edit.register.injEq, or_and_right, exists_or, exists_eq_left, ← or_assoc,
          or_iff_left_of_imp hk]
      | replace f => simp

/-- **What a registry shows** after calls, of which some succeeded. -/
structure Shows (r : Registry σ) (calls made : List (Edit σ)) : Prop where
  /-- A registration fails exactly if its name is held, with this error. -/
  register_fails : ∀ f err, r.register f = .error err ↔ r.contains f.name = true ∧ err = .alreadyRegistered f.name
  /-- A replacement fails exactly if its name is not held. -/
  replace_fails : ∀ f err, r.replace f = .error err ↔ r.contains f.name = false ∧ err = .notRegistered f.name
  /-- What is held has been registered. -/
  held : ∀ k, r.contains k = true ↔ ∃ f, Edit.register f ∈ calls ∧ f.name = k
  /-- The last call of a name that succeeded gives what is found under it. -/
  found : ∀ k, r.find? k = lastNamed k (made.map Edit.filter)
  applied : ∀ k v params s, r.apply k v params s =
    match lastNamed k (made.map Edit.filter) with
    | some f => f.run v params s
    | none => (.error (.notFound k), s)
  /-- Names that were never registered are unknown. -/
  unknown : ∀ k, r.find? k = none ↔ ∀ f, Edit.register f ∈ calls → f.name ≠ k
  size : r.size = made.countP Edit.isRegister
  ordered : (r.describe.map FilterInfo.name).Pairwise (· < ·)
  listed : ∀ i, i ∈ r.describe ↔ ∃ f, lastNamed i.name (made.map Edit.filter) = some f ∧ i = f.info

theorem shows_edited (es : List (Edit σ)) : Shows (edited empty es) es (accepted (empty : Registry σ) es) := by
  obtain ⟨hsound, hfind, hsize⟩ := sound_empty.run es
  have hfound : ∀ k, (edited empty es).find? k = lastNamed k ((accepted (empty : Registry σ) es).map Edit.filter) :=
    fun k => (hfind k).trans Option.or_none
  have hheld : ∀ k, (edited (empty : Registry σ) es).contains k = true ↔ ∃ f, Edit.register f ∈ es ∧ f.name = k :=
    fun k => (contains_edited k es empty).trans (or_iff_right Bool.false_ne_true)
  refine { register_fails := fun f err => Edit.tried_eq_error (e := .register f)
           replace_fails := fun f err => Edit.tried_eq_error (e := .replace f)
           held := hheld, found := hfound, applied := ?_, unknown := ?_, size := ?_, ordered := ?_, listed := ?_ }
  · intro k v params s
    have happly : (edited empty es).apply k v params s = match (edited empty es).find? k with
      | some f => f.run v params s
      | none => (.error (.notFound k), s) := rfl
    rw [happly, hfound]
  · intro k
    rw [← contains_eq_false, Bool.eq_false_iff, Ne, hheld]
    simp
  · rw [hsize]
    exact Nat.zero_add _
  · rw [hsound.map_name_describe, List.pairwise_map]
    exact hsound.sorted
  · intro i
    rw [hsound.mem_describe, hfound]

theorem edited_concat (r : Registry σ) (es : List (Edit σ)) (e : Edit σ) :
    edited r (es ++ [e]) = (match e.tried (edited r es) with | .ok r' => r' | .error _ => edited r es) := by
  rw [edited_append, edited]
  split <;> rfl

theorem accepted_concat (e : Edit σ) : ∀ (es : List (Edit σ)) (r : Registry σ),
    accepted r (es ++ [e]) = accepted r es ++ (match e.tried (edited r es) with | .ok _ => [e] | .error _ => [])
  | [], r => by
    simp only [List.nil_append, accepted, edited]
  | d :: es, r => by
    rw [List.cons_append, accepted, accepted, edited]
    split
    · rw [accepted_concat e es, List.cons_append]
    · exact accepted_concat e es r

/-- **A registry is a map of names with conflicts detected.**  Whatever calls have been tried, it shows exactly what
the successful ones among them say.  The next call is one of those if it succeeds; if it fails the registry stays what
it was. -/
theorem edited_refines_history (es : List (Edit σ)) :
    Shows (edited empty es) es (accepted (empty : Registry σ) es) ∧
    ∀ e : Edit σ, match e.tried (edited empty es) with
      | .ok r => edited empty (es ++ [e]) = r ∧ accepted empty (es ++ [e]) = accepted (empty : Registry σ) es ++ [e]
      | .error _ => edited empty (es ++ [e]) = edited empty es ∧
        accepted empty (es ++ [e]) = accepted (empty : Registry σ) es := by
  refine ⟨shows_edited es, fun e => ?_⟩
  rw [edited_concat, accepted_concat]
  cases e.tried (edited empty es) with
  | ok r => exact ⟨rfl, rfl⟩
  | error err => exact ⟨rfl, List.append_nil _⟩

end Registry

end Harvest
