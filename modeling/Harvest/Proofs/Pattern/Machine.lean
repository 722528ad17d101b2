import Harvest.Pattern.Extended.Machine
import Harvest.Proofs.Pattern.Linear
/-!
# Runs of the machine

What one instruction does to the machine, and what stretches of instructions do: a repetition of one character, and the
search for a place where a match can begin.  The machine gives up where it has too many branches open or has gone back
too often, so a stretch comes with the condition under which it does not (`Leads`).
-/
namespace Harvest.Pattern.Extended.Machine

open Harvest.Unicode (CharSet)

/-- The machine gets from one state to another with `n` instructions where `fits` holds, and gives up at one of its
limits where not. -/
def Leads (prog : Array XInst) (text : Array Char) (origin : Option Nat) (n : Nat) (s : State) (fits : Prop)
    (t : State) : Prop :=
  ∃ l, ∀ fuel, (fits → run prog text origin (fuel + n) s = run prog text origin fuel t) ∧
    (¬ fits → run prog text origin (fuel + n) s = .error (.exhausted l))

section

variable {prog : Array XInst} {text : Array Char} {origin : Option Nat} {n m : Nat} {s t u : State} {i : XInst}
  {fits fits' : Prop}

theorem Leads.trans (h : Leads prog text origin n s fits t) (h' : Leads prog text origin m t fits' u) :
    Leads prog text origin (m + n) s (fits ∧ fits') u := by
  obtain ⟨l, h⟩ := h
  obtain ⟨l', h'⟩ := h'
  by_cases hfits : fits
  · refine ⟨l', fun fuel => ?_⟩
    rw [← Nat.add_assoc, (h _).1 hfits]
    exact ⟨fun hboth => (h' fuel).1 hboth.2, fun hnot => (h' fuel).2 fun hfits' => hnot ⟨hfits, hfits'⟩⟩
  · refine ⟨l, fun fuel => ?_⟩
    rw [← Nat.add_assoc]
    exact ⟨fun hboth => absurd hboth.1 hfits, fun _ => (h _).2 hfits⟩

theorem Leads.congr (h : Leads prog text origin n s fits t) (hn : n = m) (hfits : fits ↔ fits') :
    Leads prog text origin m s fits' t := by
  subst hn
  rwa [← propext hfits]

theorem Leads.refl (s : State) : Leads prog text origin 0 s True s :=
  ⟨.returns, fun _ => ⟨fun _ => rfl, fun h => absurd trivial h⟩⟩

/-! ## Instructions -/

theorem Leads.of_next (hi : prog[s.thread.pc]? = some i) (h : step text origin s i = .next t) :
    Leads prog text origin 1 s True t := by
  refine ⟨.returns, fun fuel => ⟨fun _ => ?_, fun hnot => absurd trivial hnot⟩⟩
  rw [run, hi]
  simp only [h]

/-- Where an instruction fails the machine goes back to the branch opened last. -/
theorem Leads.of_fail {back : Thread} {stack : List Thread} (hi : prog[s.thread.pc]? = some i)
    (h : step text origin s i = .fail s) (hstack : s.stack = back :: stack) :
    Leads prog text origin 1 s (s.returns < limit) ⟨back, stack, s.height - 1, s.returns + 1⟩ := by
  refine ⟨.returns, fun fuel => ?_⟩
  rw [run, hi]
  simp only [h, hstack]
  exact ⟨fun hlt => if_neg (Nat.not_le.2 hlt), fun hge => if_pos (Nat.not_lt.1 hge)⟩

end

section Instruction

variable {prog : Array XInst} {text : Array Char} {origin : Option Nat} {pc pos : Nat} {slots : Array (Option Nat)}
  {marks : List Nat} {stack : List Thread} {height returns : Nat}

theorem Leads.split {a b : Nat} (hi : prog[pc]? = some (.split a b)) :
    Leads prog text origin 1 ⟨⟨pc, pos, slots, marks⟩, stack, height, returns⟩ (height < limit)
      ⟨⟨a, pos, slots, marks⟩, ⟨b, pos, slots, marks⟩ :: stack, height + 1, returns⟩ := by
  refine ⟨.branches, fun fuel => ?_⟩
  rw [run]
  simp only [hi, step, State.open_]
  by_cases h : height < limit
  · rw [if_neg (Nat.not_le.2 h)]
    exact ⟨fun _ => rfl, fun hnot => absurd h hnot⟩
  · rw [if_pos (Nat.not_lt.1 h)]
    exact ⟨fun hlt => absurd hlt h, fun _ => rfl⟩

theorem Leads.jump {a : Nat} (hi : prog[pc]? = some (.jump a)) :
    Leads prog text origin 1 ⟨⟨pc, pos, slots, marks⟩, stack, height, returns⟩ True
      ⟨⟨a, pos, slots, marks⟩, stack, height, returns⟩ := .of_next hi rfl

theorem Leads.save {j : Nat} (hi : prog[pc]? = some (.save j)) :
    Leads prog text origin 1 ⟨⟨pc, pos, slots, marks⟩, stack, height, returns⟩ True
      ⟨⟨pc + 1, pos, slots.setIfInBounds j (some pos), marks⟩, stack, height, returns⟩ := .of_next hi rfl

theorem Leads.any (hi : prog[pc]? = some (.any true)) (hpos : pos < text.size) :
    Leads prog text origin 1 ⟨⟨pc, pos, slots, marks⟩, stack, height, returns⟩ True
      ⟨⟨pc + 1, pos + 1, slots, marks⟩, stack, height, returns⟩ :=
  .of_next hi (if_pos (by simp [atPos, hpos]))

/-- The instruction that reads a character of each of some sets. -/
def read (sets : List CharSet) : XInst := .plain (Linear.reading sets) []

theorem step_read {sets : List CharSet} {s : State} (h : begins sets (text.toList.drop s.thread.pos) = true) :
    step text origin s (read sets) =
      .next { s with thread := { advance s.thread with pos := s.thread.pos + sets.length } } := by
  simp only [step, read, Linear.matchAt?_reading, h, if_true]
  rfl

theorem step_read_fail {sets : List CharSet} {s : State} (h : begins sets (text.toList.drop s.thread.pos) = false) :
    step text origin s (read sets) = .fail s := by
  simp [step, read, Linear.matchAt?_reading, h]

theorem Leads.takes {sets : List CharSet} (hi : prog[pc]? = some (read sets))
    (h : begins sets (text.toList.drop pos) = true) :
    Leads prog text origin 1 ⟨⟨pc, pos, slots, marks⟩, stack, height, returns⟩ True
      ⟨⟨pc + 1, pos + sets.length, slots, marks⟩, stack, height, returns⟩ := .of_next hi (step_read h)

theorem Leads.misses {sets : List CharSet} {back : Thread} (hi : prog[pc]? = some (read sets))
    (h : begins sets (text.toList.drop pos) = false) :
    Leads prog text origin 1 ⟨⟨pc, pos, slots, marks⟩, back :: stack, height, returns⟩ (returns < limit)
      ⟨back, stack, height - 1, returns + 1⟩ := .of_fail hi (step_read_fail h) rfl

theorem holdsAt_iff (text : Array Char) (pos : Nat) (cs : List Char) :
    holdsAt text pos cs = true ↔ cs <+: text.toList.drop pos := by
  simp [holdsAt, List.forall_mem_iff_getElem, List.prefix_iff_getElem?]

theorem Leads.backref {g a b : Nat} (hi : prog[pc]? = some (.backref g)) (ha : slots.getD (2 * g) none = some a)
    (hb : slots.getD (2 * g + 1) none = some b) (hab : a ≤ b)
    (h : (text.extract a b).toList <+: text.toList.drop pos) :
    Leads prog text origin 1 ⟨⟨pc, pos, slots, marks⟩, stack, height, returns⟩ True
      ⟨⟨pc + 1, pos + (text.extract a b).toList.length, slots, marks⟩, stack, height, returns⟩ := by
  refine .of_next hi ?_
  simp only [step, slot, ha, hb, if_neg (Nat.not_lt.2 hab), (holdsAt_iff text pos _).2 h, if_true]
  rfl

/-! ## Stretches -/

/-- **A repetition takes all the characters it can.**  It leaves a branch open for each of them, and goes back once, to
the branch that leaves behind the last. -/
theorem Leads.star {set : CharSet} {out : Nat} (hsplit : prog[pc]? = some (.split (pc + 1) out))
    (hread : prog[pc + 1]? = some (read [set])) (hjump : prog[pc + 2]? = some (.jump pc)) {behind : List Char}
    (hbehind : begins [set] behind = false) :
    ∀ (cs : List Char) (pos height : Nat) (stack : List Thread), (∀ c ∈ cs, set.contains c = true) →
      text.toList.drop pos = cs ++ behind → ∃ opened,
        Leads prog text origin (3 * cs.length + 2) ⟨⟨pc, pos, slots, marks⟩, stack, height, returns⟩
          (height + cs.length < limit ∧ returns < limit)
          ⟨⟨out, pos + cs.length, slots, marks⟩, opened ++ stack, height + cs.length, returns + 1⟩
  | [], pos, height, stack, _, hdrop => by
    have hmiss : begins [set] (text.toList.drop pos) = false := by rw [hdrop]; exact hbehind
    exact ⟨[], (Leads.split hsplit).trans (.misses hread hmiss)⟩
  | c :: cs, pos, height, stack, hset, hdrop => by
    obtain ⟨hc, hcs⟩ := List.forall_mem_cons.1 hset
    have htake : begins [set] (text.toList.drop pos) = true := by simp [hdrop, begins, hc]
    have hnext : text.toList.drop (pos + 1) = cs ++ behind := by rw [← List.drop_drop, hdrop]; rfl
    obtain ⟨opened, hrest⟩ := Leads.star hsplit hread hjump hbehind cs (pos + 1) (height + 1)
      (⟨out, pos, slots, marks⟩ :: stack) hcs hnext
    refine ⟨opened ++ [⟨out, pos, slots, marks⟩], ?_⟩
    have hround := (((Leads.split hsplit).trans (.takes hread htake)).trans (.jump hjump)).trans hrest
    have hlength : ∀ k, k + (c :: cs).length = k + 1 + cs.length := fun k => by rw [List.length_cons]; omega
    rw [hlength, hlength, List.append_assoc, List.singleton_append]
    exact hround.congr (by rw [List.length_cons]; omega)
      ⟨fun h => h.2, fun h => ⟨⟨⟨by omega, trivial⟩, trivial⟩, h⟩⟩

/-- A program that looks for the place where a match begins: it tries to read the first characters of the match at each
position in turn. -/
structure Seeks (prog : Array XInst) (sets : List CharSet) : Prop where
  split : prog[0]? = some (.split 3 1)
  any : prog[1]? = some (.any true)
  jump : prog[2]? = some (.jump 0)
  save : prog[3]? = some (.save 0)
  read : prog[4]? = some (read sets)

theorem Seeks.pass {sets : List CharSet} (h : Seeks prog sets) (hpos : pos < text.size)
    (hmiss : begins sets (text.toList.drop pos) = false) :
    Leads prog text origin 5 ⟨⟨0, pos, slots, marks⟩, [], 0, returns⟩ (returns < limit)
      ⟨⟨0, pos + 1, slots, marks⟩, [], 0, returns + 1⟩ := by
  have hopen : 0 < limit := by decide
  have htry : Leads prog text origin 3 ⟨⟨0, pos, slots, marks⟩, [], 0, returns⟩ _
      ⟨⟨1, pos, slots, marks⟩, [], 0, returns + 1⟩ :=
    ((Leads.split h.split).trans (.save h.save)).trans (.misses h.read hmiss)
  exact ((htry.trans (.any h.any hpos)).trans (.jump h.jump)).congr rfl (by simp [hopen])

/-- **Where no match begins the machine goes on to the next position**, back from each of them once. -/
theorem Seeks.skip {sets : List CharSet} (h : Seeks prog sets) (pos : Nat) : ∀ k : Nat, pos + k ≤ text.size →
    (∀ i, pos ≤ i → i < pos + k → begins sets (text.toList.drop i) = false) →
    Leads prog text origin (5 * k) ⟨⟨0, pos, slots, marks⟩, [], 0, 0⟩ (k ≤ limit)
      ⟨⟨0, pos + k, slots, marks⟩, [], 0, k⟩
  | 0, _, _ => (Leads.refl _).congr rfl (iff_of_true trivial (Nat.zero_le _))
  | k + 1, hsize, hmiss => by
    have hbefore := h.skip pos k (by omega) fun i hlo hhi => hmiss i hlo (by omega)
    have hlast := hmiss (pos + k) (by omega) (by omega)
    exact (hbefore.trans (h.pass (by omega) hlast)).congr (by omega) (by omega)

end Instruction

/-! ## Searches -/

section Search

variable {b : Build} {text : Array Char} {origin : Option Nat} {start n groups : Nat} {fits : Prop} {t : State}

/-- The state in which a search begins. -/
def initial (slots start : Nat) : State := ⟨⟨0, start, Array.replicate slots none, []⟩, [], 0, 0⟩

/-- The groups of a match, from the slots. -/
def captured (groups : Nat) (slots : Array (Option Nat)) : Captures :=
  ((List.range groups).map fun g =>
    match slots.getD (2 * g) none, slots.getD (2 * g + 1) none with
    | some a, some b => some (if g == 0 then min a b else a, b)
    | _, _ => none).toArray

/-- A search whose run comes to a state with one instruction left before the answer, unless it exceeds a limit. -/
theorem Leads.search_eq [Decidable fits] {r : Option (Array (Option Nat))}
    (h : Leads b.code text origin n (initial b.slots start) fits t) (hn : n < steps b.code text)
    (hlast : ∀ fuel, run b.code text origin (fuel + 1) t = .ok r) :
    ∃ l, search b groups text start origin =
      if fits then .ok (r.map (captured groups)) else .error (.exhausted l) := by
  obtain ⟨fuel, hfuel⟩ : ∃ fuel, steps b.code text = fuel + 1 + n := ⟨steps b.code text - n - 1, by omega⟩
  obtain ⟨l, h⟩ := h
  obtain ⟨hok, herr⟩ := h (fuel + 1)
  refine ⟨l, ?_⟩
  show (run b.code text origin (steps b.code text) (initial b.slots start) >>= _) = _
  rw [hfuel]
  split
  · rw [hok ‹_›, hlast]
    cases r <;> rfl
  · rw [herr ‹_›]
    rfl

/-- There is fuel for some rounds at each position. -/
theorem lt_steps (prog : Array XInst) {n : Nat} (h : n ≤ 1000 * (text.size + 2)) : n < steps prog text := by
  have hrounds : 1000 * (text.size + 2) < 4 * (limit + 2) * (text.size + 2) :=
    Nat.mul_lt_mul_of_pos_right (by decide) (Nat.succ_pos _)
  have hplaces : 4 * (limit + 2) * (text.size + 2) ≤ steps prog text :=
    Nat.mul_le_mul_right _ (Nat.le_mul_of_pos_right _ (Nat.succ_pos _))
  omega

/-- **Where a match begins nowhere a search finds none**, if the positions are not too many. -/
theorem Seeks.search_none {sets : List CharSet} (h : Seeks b.code sets) (hstart : start ≤ text.size)
    (hmiss : ∀ i, start ≤ i → i ≤ text.size → begins sets (text.toList.drop i) = false) :
    ∃ l, search b groups text start origin =
      if text.size - start < limit then .ok none else .error (.exhausted l) := by
  have hopen : 0 < limit := by decide
  obtain ⟨k, hk⟩ : ∃ k, text.size = start + k := ⟨_, (Nat.add_sub_cancel' hstart).symm⟩
  have hend : Leads b.code text origin 3 ⟨⟨0, start + k, Array.replicate b.slots none, []⟩, [], 0, k⟩ _ _ :=
    ((Leads.split h.split).trans (.save h.save)).trans (.misses h.read (hmiss _ (by omega) (by omega)))
  have hrun : Leads b.code text origin (3 + 5 * k) (initial b.slots start) (text.size - start < limit)
      ⟨⟨1, start + k, Array.replicate b.slots none, []⟩, [], 0, k + 1⟩ :=
    ((h.skip start k (by omega) fun i hlo hhi => hmiss i hlo (by omega)).trans hend).congr rfl
      (by simp only [hopen, and_true, true_and]; omega)
  -- behind the end there is no character to go on with, and no branch is left open
  exact hrun.search_eq (r := none) (lt_steps _ (by omega)) fun fuel => by
    rw [run, h.any]
    simp [step, atPos, hk]

end Search

end Harvest.Pattern.Extended.Machine
