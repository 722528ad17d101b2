/-!
# Punycode

The spelling of any text in letters, digits and hyphens.  What stands before the last hyphen is the ASCII part; each
number behind it says which character comes next, by its distance in code and place from the one before.
-/
namespace Harvest.Url.Punycode

/-- The value of a digit to the base of 36: letters come first. -/
def digit? (c : Char) : Option Nat :=
  if c.isLower then some (c.toNat - 97)
  else if c.isUpper then some (c.toNat - 65)
  else if c.isDigit then some (c.toNat - 48 + 26)
  else none

/-- The least digit that another one follows.  `place` is 36 for the first digit of a number, 72 for the second, … -/
def threshold (bias place : Nat) : Nat := min 26 (max 1 (place - bias))

/-- The bias that a distance of size `d` asks for, with `k` as a start. -/
def biasFor (d k : Nat) : Nat :=
  if 455 < d then biasFor (d / 35) (k + 36) else k + 36 * d / (d + 38)
termination_by d
decreasing_by omega

/-- A reading between two digits. -/
structure Reading where
  /-- The text so far. -/
  text : List Char
  /-- The code of the last character that was put in. -/
  code : Nat
  /-- The place behind that character. -/
  index : Nat
  bias : Nat
  /-- The distance, as far as its digits have been read. -/
  distance : Nat
  /-- What one of the next digit is worth. -/
  weight : Nat
  /-- The place of the next digit. -/
  place : Nat

def Reading.start (ascii : List Char) : Reading := ⟨ascii, 0x80, 0, 72, 0, 1, 36⟩

/-- The reading after a number: the text has one character more. -/
def Reading.close (r : Reading) (distance : Nat) : Option Reading :=
  let count := r.text.length + 1
  let target := r.index + distance
  let code := r.code + target / count
  let index := target % count
  -- The first distance is large by nature; behind a character the index is not 0.
  let damped := if r.index == 0 then distance / 700 else distance / 2
  if code.isValidChar then
    some ⟨r.text.insertIdx index (Char.ofNat code), code, index + 1, biasFor (damped + damped / count) 0, 0, 1, 36⟩
  else none

def Reading.step (r : Reading) (c : Char) : Option Reading := do
  let d ← digit? c
  let distance := r.distance + d * r.weight
  let t := threshold r.bias r.place
  if d < t then r.close distance
  else some { r with distance, weight := r.weight * (36 - t), place := r.place + 36 }

def decode? (spelling : List Char) : Option (List Char) := do
  let digits := (spelling.reverse.takeWhile (· != '-')).reverse
  let ascii := spelling.take (spelling.length - digits.length - 1)
  let r ← digits.foldlM Reading.step (Reading.start ascii)
  if r.place == 36 then some r.text else none

end Harvest.Url.Punycode
