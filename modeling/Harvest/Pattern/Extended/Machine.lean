import Harvest.Pattern.Extended.Program
import Harvest.Pattern.Linear
/-!
# The machine of extended patterns

The machine runs a program from a position of a text.  Where it fails it goes back to the last branch left open, as
things stood when it was opened.  After a million such returns, or with a million branches open, it gives up.  It breaks
down at a back reference to a group that has been opened again behind the place where it was last closed.
-/
namespace Harvest.Pattern.Extended.Machine

/-- Where the machine is: its place, its position, its slots, and the heights of the stack that atomic parts return
to. -/
structure Thread where
  pc : Nat
  pos : Nat
  slots : Array (Option Nat)
  marks : List Nat

/-- The machine: its thread, and the branches left open, the last one first, with their number. -/
structure State where
  thread : Thread
  stack : List Thread
  height : Nat
  returns : Nat

/-- The most returns to a branch in one search, and the most branches open at once. -/
def limit : Nat := 1000000

/-- What one instruction leads to. -/
inductive Outcome where
  | next (s : State)
  | fail (s : State)
  | accept (slots : Array (Option Nat))
  | giveUp
  | breakDown

/-- Leaves a branch open. -/
def State.open_ (s : State) (t : Thread) (then_ : Thread) : Outcome :=
  if s.height ≥ limit then .giveUp
  else .next { s with thread := then_, stack := t :: s.stack, height := s.height + 1 }

def State.goOn (s : State) (t : Thread) : Outcome := .next { s with thread := t }

/-- Does the text hold the characters from a position on? -/
def holdsAt (text : Array Char) (pos : Nat) (cs : List Char) : Bool :=
  ((List.range cs.length).zip cs).all fun p => text[pos + p.1]? == some p.2

def slot (t : Thread) (i : Nat) : Option Nat := (t.slots.getD i none)

def setSlot (t : Thread) (i : Nat) (v : Option Nat) : Thread := { t with slots := t.slots.setIfInBounds i v }

def advance (t : Thread) : Thread := { t with pc := t.pc + 1 }

/-- The branches below the one that leads to a place, the last one first. -/
def dropThrough (pc : Nat) : List Thread → List Thread
  | [] => []
  | t :: rest => if t.pc == pc then rest else dropThrough pc rest

/-- Takes over the groups of a plain match, the first of them as the first of some numbers. -/
def takeOver (s : Slots) (groups : List Nat) (t : Thread) : Thread :=
  (groups.zipIdx 1).foldl (fun t (g, i) =>
    match s.span? i with
    | some (a, b) => setSlot (setSlot t (2 * g) (some a)) (2 * g + 1) (some b)
    | none => setSlot (setSlot t (2 * g) none) (2 * g + 1) none) t

/-- Runs one instruction; `origin` is where a match may go on from the match before, if it may. -/
def step (text : Array Char) (origin : Option Nat) (s : State) (i : XInst) : Outcome :=
  let t := s.thread
  let on := advance t
  match i with
  | .accept => .accept t.slots
  | .any newline =>
    if atPos text t.pos fun c => newline || c != '\n' then s.goOn { on with pos := t.pos + 1 } else .fail s
  | .text cs => if holdsAt text t.pos cs then s.goOn { on with pos := t.pos + cs.length } else .fail s
  | .assert a => if a.holds text t.pos then s.goOn on else .fail s
  | .split a b => s.open_ { t with pc := b } { t with pc := a }
  | .jump a => s.goOn { t with pc := a }
  | .save i => s.goOn (setSlot on i (some t.pos))
  | .clear i => s.goOn (setSlot on i (some 0))
  | .restore i => s.goOn { on with pos := (slot t i).getD t.pos }
  | .count min max greedy next i =>
    let n := (slot t i).getD 0
    if max == some n then s.goOn { t with pc := next }
    else
      let counted := setSlot on i (some (n + 1))
      if n < min then s.goOn counted
      else if greedy then s.open_ { counted with pc := next } counted
      else s.open_ counted { counted with pc := next }
  | .countEmpty min greedy next i check =>
    let n := (slot t i).getD 0
    if min < n && slot t check == some t.pos then .fail s
    else
      let counted := setSlot on i (some (n + 1))
      if n < min then s.goOn counted
      else
        let counted := setSlot counted check (some t.pos)
        if greedy then s.open_ { counted with pc := next } counted
        else s.open_ counted { counted with pc := next }
  | .goBack n => if n ≤ t.pos then s.goOn { on with pos := t.pos - n } else .fail s
  | .failLook =>
    let stack := dropThrough (t.pc + 1) s.stack
    .fail { s with stack := stack, height := stack.length }
  | .backref g =>
    match slot t (2 * g), slot t (2 * g + 1) with
    | some a, some b =>
      let cs := (text.extract a b).toList
      if b < a then .breakDown
      else if holdsAt text t.pos cs then s.goOn { on with pos := t.pos + cs.length }
      else .fail s
    | _, _ => .fail s
  | .matched g => if (slot t (2 * g)).isSome then s.goOn on else .fail s
  | .beginAtomic => s.goOn { on with marks := s.height :: t.marks }
  | .endAtomic =>
    let mark := t.marks.headD 0
    .next { s with
      thread := { on with marks := t.marks.tail }, stack := s.stack.drop (s.height - mark), height := mark }
  | .plain prog groups =>
    match Linear.matchAt? prog text t.pos with
    | some (slots, pos) => s.goOn { takeOver slots groups on with pos }
    | none => .fail s
  | .searchStart => if origin.any (t.pos ≤ ·) then s.goOn on else .fail s

/-- Runs the machine until it accepts, has no branch left, gives up, or breaks down. -/
def run (prog : Array XInst) (text : Array Char) (origin : Option Nat) :
    Nat → State → Except Failure (Option (Array (Option Nat)))
  | 0, _ => .error (.exhausted .returns)
  | fuel + 1, s =>
    match prog[s.thread.pc]? with
    | none => .ok none
    | some i =>
      match step text origin s i with
      | .next s => run prog text origin fuel s
      | .accept slots => .ok (some slots)
      | .giveUp => .error (.exhausted .branches)
      | .breakDown => .error .inverted
      | .fail s =>
        match s.stack with
        | [] => .ok none
        | t :: rest =>
          if s.returns ≥ limit then .error (.exhausted .returns)
          else run prog text origin fuel
            { thread := t, stack := rest, height := s.height - 1, returns := s.returns + 1 }

def steps (prog : Array XInst) (text : Array Char) : Nat := 4 * (limit + 2) * (prog.size + 1) * (text.size + 2)

/-- The groups of the first match that starts at or behind a position.  A match that would begin behind its end begins
there. -/
def search (b : Build) (groups : Nat) (text : Array Char) (start : Nat) (origin : Option Nat) :
    Except Failure (Option Captures) := do
  let thread : Thread := ⟨0, start, Array.replicate b.slots none, []⟩
  match ← run b.code text origin (steps b.code text) ⟨thread, [], 0, 0⟩ with
  | none => return none
  | some slots =>
    let span (g : Nat) : Option (Nat × Nat) :=
      match slots.getD (2 * g) none, slots.getD (2 * g + 1) none with
      | some a, some b => some (if g == 0 then min a b else a, b)
      | _, _ => none
    return some ((List.range groups).map span).toArray

end Harvest.Pattern.Extended.Machine
