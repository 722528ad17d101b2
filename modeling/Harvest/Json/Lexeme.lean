import Harvest.Json.Basic
/-!
# Numbers of JSON texts

What a number as it is written stands for: an integer where it is written as one and fits into 64 bits, else a
floating-point number.  That is computed in floating point, from as many digits as 64 bits hold and a power of ten, so
it is near the number that is written but not always the nearest; a number beyond the finite ones is none.
-/
namespace Harvest.Json

/-- A number's lexeme: its digits before and after the point, and its exponent. -/
structure Lexeme where
  negative : Bool
  whole : List Char
  part : List Char
  exponent : Option Int
  deriving Repr, DecidableEq

/-- The number of as many digits as fit into 64 bits behind those before them, and the digits left over. -/
def gather (acc : Nat) : List Char → Nat × List Char
  | [] => (acc, [])
  | c :: cs =>
    let next := acc * 10 + (Text.Numeral.digit? c).getD 0
    if next < 0x10000000000000000 then gather next cs else (acc, c :: cs)

/-- The floating-point number nearest to a power of ten. -/
def tenTo (n : Nat) : Binary64 := .ofDecimal false 1 n

/-- A number times a power of ten, rounded at each step.  The powers go up to the largest finite one, and two divisions
by it leave nothing of a number of 64 bits, so three rounds are enough. -/
def timesTenTo : Nat → Binary64 → Int → Option Binary64
  | 0, x, _ => some x
  | rounds + 1, x, e =>
    if e.natAbs ≤ 308 then
      if e < 0 then some (x.div (tenTo e.natAbs))
      else
        let y := x.mul (tenTo e.natAbs)
        if y.isInfinite then none else some y
    else if x.significand = 0 then some x
    else if e < 0 then timesTenTo rounds (x.div (tenTo 308)) (e + 308)
    else none

/-- The number of a lexeme. -/
def Lexeme.number? (l : Lexeme) : Option Number :=
  let (n, left) := gather 0 l.whole
  let (m, rest) := gather n l.part
  let e := (left.length : Int) - (l.part.length - rest.length : Nat) + l.exponent.getD 0
  let float := (timesTenTo 3 (.ofRatio l.negative m 1) e).map Number.float
  if l.part.isEmpty && l.exponent.isNone && left.isEmpty then
    if !l.negative then some (.int n)
    else if 0 < n && n ≤ 0x8000000000000000 then some (.int (-n))
    else float
  else float

end Harvest.Json
