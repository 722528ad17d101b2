import Harvest.Pattern.Linear
import Mathlib.Data.List.Forall2
/-!
# Plain programs that read one character after another

A program that only reads characters has one branch, which goes on with the text: it matches at a position exactly where
a character of each of its sets stands in its turn (`Linear.matchAt?_reading`).
-/
namespace Harvest.Pattern

open Harvest.Unicode (CharSet)

/-- Does a text begin with a character of each of some sets, in their order? -/
def begins : List CharSet → List Char → Bool
  | [], _ => true
  | _ :: _, [] => false
  | s :: sets, c :: cs => s.contains c && begins sets cs

/-- A text begins with characters of sets that each hold one letter in either case, if it begins with the letters. -/
theorem begins_iff_of_lower {sets : List CharSet} {letters : List Char}
    (h : List.Forall₂ (fun s letter => ∀ c, s.contains c = true ↔ c.toLower = letter) sets letters) :
    ∀ cs : List Char, begins sets cs = true ↔ letters <+: cs.map Char.toLower := by
  induction h with
  | nil => exact fun cs => iff_of_true rfl (List.nil_prefix)
  | @cons s letter sets letters hs _ ih =>
    intro cs
    cases cs with
    | nil => exact iff_of_false nofun fun hprefix => nomatch List.prefix_nil.1 hprefix
    | cons c cs =>
      rw [begins, Bool.and_eq_true, hs, ih, List.map_cons, List.cons_prefix_cons, eq_comm]

namespace Linear

section Explore

variable {prog : Array Inst} {text : Array Char} {fuel : Nat} {seen : Std.TreeSet Nat} {t : Thread} {rest : List Thread}

theorem explore_accept (hnew : t.pos * prog.size + t.pc ∉ seen) (hi : prog[t.pc]? = some .accept) :
    (explore prog text (fuel + 1) seen (t :: rest)).1 = some t := by
  rw [explore, if_neg (mt Std.TreeSet.contains_iff_mem.1 hnew), hi]

theorem explore_char {s : CharSet} (hnew : t.pos * prog.size + t.pc ∉ seen) (hi : prog[t.pc]? = some (.char s)) :
    explore prog text (fuel + 1) seen (t :: rest) =
      if atPos text t.pos s.contains then
        explore prog text fuel (seen.insert (t.pos * prog.size + t.pc)) (⟨t.pc + 1, t.pos + 1, t.slots⟩ :: rest)
      else explore prog text fuel (seen.insert (t.pos * prog.size + t.pc)) rest := by
  rw [explore, if_neg (mt Std.TreeSet.contains_iff_mem.1 hnew), hi]

/-- Once a place is tried, all that has been tried lies before the next place at the next position. -/
theorem lt_of_mem_insert {size pos pc : Nat} (h : ∀ key ∈ seen, key < pos * size + pc) :
    ∀ key ∈ seen.insert (pos * size + pc), key < (pos + 1) * size + (pc + 1) := by
  intro key hkey
  rw [Nat.succ_mul]
  rcases Std.TreeSet.mem_insert.1 hkey with heq | hold
  · have := Std.LawfulEqCmp.eq_of_compare heq
    omega
  · have := h key hold
    omega

theorem explore_nil : ∀ fuel : Nat, (explore prog text fuel seen []).1 = none
  | 0 => rfl
  | _ + 1 => rfl

end Explore

/-- The program that reads a character of each of some sets. -/
def reading (sets : List CharSet) : Array Inst := (sets.map Inst.char ++ [Inst.accept]).toArray

theorem size_reading (sets : List CharSet) : (reading sets).size = sets.length + 1 := by simp [reading]

variable {sets : List CharSet}

theorem reading_char {before behind : List CharSet} {s : CharSet} (h : sets = before ++ s :: behind) :
    (reading sets)[before.length]? = some (.char s) := by
  simp [reading, h]

theorem reading_accept (sets : List CharSet) : (reading sets)[sets.length]? = some .accept := by
  simp [reading]

/-- The one branch of the program: what has been tried lies before it, so it is never cut off. -/
theorem explore_reading (text : Array Char) (pos : Nat) : ∀ (behind before : List CharSet) (fuel : Nat)
    (seen : Std.TreeSet Nat), sets = before ++ behind → behind.length < fuel →
    (∀ key ∈ seen, key < (pos + before.length) * (reading sets).size + before.length) →
    (explore (reading sets) text fuel seen [⟨before.length, pos + before.length, []⟩]).1 =
      if begins behind (text.toList.drop (pos + before.length)) then some ⟨sets.length, pos + sets.length, []⟩ else none
  | _, _, 0, _, _, hfuel, _ => absurd hfuel (Nat.not_lt_zero _)
  | [], before, fuel + 1, seen, hsets, _, hseen => by
    obtain rfl : sets = before := by simpa using hsets
    exact explore_accept (fun hmem => Nat.lt_irrefl _ (hseen _ hmem)) (reading_accept sets)
  | s :: behind, before, fuel + 1, seen, hsets, hfuel, hseen => by
    rw [explore_char (fun hmem => Nat.lt_irrefl _ (hseen _ hmem)) (reading_char hsets)]
    cases hat : text[pos + before.length]? with
    | none =>
      rw [List.drop_eq_nil_of_le (by simpa using hat), atPos, hat]
      exact explore_nil fuel
    | some c =>
      obtain ⟨hlt, hc⟩ := Array.getElem?_eq_some_iff.1 hat
      rw [← List.getElem_cons_drop (by simpa using hlt), begins, atPos, hat]
      rw [Array.getElem_toList, hc, Option.any_some]
      by_cases hs : s.contains c = true
      · have hgo := explore_reading text pos behind (before ++ [s]) fuel
          (seen.insert ((pos + before.length) * (reading sets).size + before.length)) (by simp [hsets])
          (Nat.lt_of_succ_lt_succ hfuel) (by simpa [← Nat.add_assoc] using lt_of_mem_insert hseen)
        rw [List.length_append, List.length_singleton, ← Nat.add_assoc] at hgo
        rw [if_pos hs, hgo, hs, Bool.true_and]
      · rw [if_neg hs, Bool.eq_false_iff.2 hs, Bool.false_and]
        exact explore_nil fuel

/-- **Reading character after character.**  The program matches where a character of each set stands in its turn. -/
theorem matchAt?_reading (sets : List CharSet) (text : Array Char) (pos : Nat) :
    matchAt? (reading sets) text pos =
      if begins sets (text.toList.drop pos) then some ([], pos + sets.length) else none := by
  have hfuel : sets.length < steps (reading sets) text := by
    rw [steps, size_reading]
    exact Nat.lt_of_lt_of_le (by omega) (Nat.le_mul_of_pos_right _ (Nat.succ_pos _))
  have hrun : (explore (reading sets) text (steps (reading sets) text) {} [⟨0, pos, []⟩]).1 =
      if begins sets (text.toList.drop pos) then some ⟨sets.length, pos + sets.length, []⟩ else none :=
    explore_reading text pos sets [] _ {} rfl hfuel fun key hkey => absurd hkey Std.TreeSet.not_mem_emptyc
  rw [matchAt?, hrun]
  split <;> rfl

end Linear

end Harvest.Pattern
