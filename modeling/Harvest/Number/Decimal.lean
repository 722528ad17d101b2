import Harvest.Number.Binary64
import Harvest.Text.Numeral
/-!
# Floating-point numbers in decimal

`shortest` finds the fewest digits that read back as a number, and of those the nearest; the notations of the library
put a point or an exponent to these digits.  `fixed` writes a given count of places, rounded exactly.  `read?` reads
what a text of digits, point and exponent denotes.
-/
namespace Harvest.Decimal

/-- Digits and a power of ten: `digits · 10 ^ exponent`. -/
structure Scientific where
  digits : Nat
  exponent : Int
  deriving DecidableEq, Repr

/-- The multiple of ten that `10 ^ count` is too many for, without its trailing zeros. -/
def Scientific.strip : Nat → Scientific → Scientific
  | 0, s => s
  | fuel + 1, s =>
    if s.digits ≠ 0 ∧ s.digits % 10 = 0 then strip fuel ⟨s.digits / 10, s.exponent + 1⟩ else s

/-- `a · 10 ^ e` against `num / den`, both sides over a common denominator. -/
def cross (a : Nat) (e : Int) (num den : Nat) : Nat × Nat :=
  (a * Nat.pow 10 e.toNat * den, num * Nat.pow 10 (-e).toNat)

/-- The power of ten just above `num / den`: the least `p` with `num / den < 10 ^ p`. -/
def magnitude (num den : Nat) : Int :=
  let below (p : Int) : Bool := let c := cross 1 p num den; c.2 < c.1
  -- log₁₀ 2 is a little above 0.30102, which fixes the answer up to one step
  let guess : Int := ((Nat.log2 num : Int) - Nat.log2 den) * 30103 / 100000
  let rec climb : Nat → Int → Int
    | 0, p => p
    | fuel + 1, p => if below p then p else climb fuel (p + 1)
  climb 6 (guess - 2)

/-- The decimals that read back as a number: an interval around it, whose ends belong to it or not. -/
structure Interval where
  low : Nat
  high : Nat
  den : Nat
  closed : Bool

/-- The interval of the reals nearer to `x` than to its neighbours. -/
def interval (x : Binary64) : Interval :=
  let m := x.significand
  let up := Nat.pow 2 x.exponent.toNat
  let down := Nat.pow 2 (-x.exponent).toNat
  let gap := if m = 0x10000000000000 ∧ x.exponentField > 1 then 1 else 2
  { low := (4 * m - gap) * up, high := (4 * m + 2) * up, den := 4 * down, closed := m % 2 == 0 }

def Interval.contains (i : Interval) (s : Scientific) : Bool :=
  let l := cross s.digits s.exponent i.low i.den
  let h := cross s.digits s.exponent i.high i.den
  if i.closed then l.2 ≤ l.1 && h.1 ≤ h.2 else l.2 < l.1 && h.1 < h.2

/-- The neighbours of `num / den` on the grid of `10 ^ e`, the nearer one first, of two equally near the even one. -/
def neighbours (num den : Nat) (e : Int) : List Scientific :=
  let n := num * Nat.pow 10 (-e).toNat
  let d := den * Nat.pow 10 e.toNat
  let a := n / d
  let r := n % d
  let lower : Scientific := ⟨a, e⟩
  let upper : Scientific := ⟨a + 1, e⟩
  if 2 * r < d || (2 * r == d && a % 2 == 0) then [lower, upper] else [upper, lower]

/-- The first grid, from coarse to fine, with a neighbour inside the interval. -/
def search (i : Interval) (num den : Nat) (p : Int) : Nat → Nat → Scientific
  | 0, k => ⟨num * Nat.pow 10 (k - p).toNat / (den * Nat.pow 10 (p - k).toNat), p - k⟩
  | fuel + 1, k =>
    match (neighbours num den (p - k)).find? i.contains with
    | some s => s
    | none => search i num den p fuel (k + 1)

/-- The fewest digits that read back as a finite number that is not zero, and of those the nearest. -/
def shortest (x : Binary64) : Scientific :=
  let (num, den) := x.ratio
  (search (interval x) num den (magnitude num den) 17 1).strip 20

/-- Digits with a point after the first `point` of them; zeros fill a point outside. -/
def positional (digits : List Char) (point : Int) : List Char × List Char :=
  if point ≤ 0 then (['0'], List.replicate (-point).toNat '0' ++ digits)
  else (digits.take point.toNat ++ List.replicate (point.toNat - digits.length) '0', digits.drop point.toNat)

def sign (x : Binary64) : String := if x.isNegative then "-" else ""

/-- The shortest digits and where the point stands behind the first of them. -/
def digitsOf (x : Binary64) : List Char × Int :=
  if x.significand = 0 then (['0'], 1)
  else
    let s := shortest x
    let ds := Nat.toDigits 10 s.digits
    (ds, s.exponent + ds.length)

/-- The plain text of a number: shortest digits, no exponent, and no point before an integer's end. -/
def plain (x : Binary64) : String :=
  if x.isNaN then "NaN"
  else if x.isInfinite then sign x ++ "inf"
  else
    let (ds, point) := digitsOf x
    let (whole, part) := positional ds point
    sign x ++ String.ofList (if part.isEmpty then whole else whole ++ '.' :: part)

/-- The text of a number in JSON: shortest digits with a point for magnitudes from `10 ^ (-5)` to `10 ^ 16`, an exponent
for the others, `null` for what is no finite number. -/
def json (x : Binary64) : String :=
  if !x.isFinite then "null"
  else
    let (ds, point) := digitsOf x
    let e := point - 1
    let body :=
      if -5 ≤ e ∧ e < 16 then
        let (whole, part) := positional ds point
        whole ++ '.' :: (if part.isEmpty then ['0'] else part)
      else
        let (whole, part) := positional ds 1
        let mantissa := if part.isEmpty then whole else whole ++ '.' :: part
        mantissa ++ 'e' :: ((if e < 0 then ['-'] else ['+']) ++ Nat.toDigits 10 e.natAbs)
    sign x ++ String.ofList body

/-- The text of a number with exactly `places` digits after the point, a half rounded to the even digit. -/
def fixed (places : Nat) (x : Binary64) : String :=
  if x.isNaN then "NaN"
  else if x.isInfinite then sign x ++ "inf"
  else
    let (num, den) := x.ratio
    let ds := Nat.toDigits 10 (Binary64.roundDiv (num * Nat.pow 10 places) den)
    let ds := List.replicate (places + 1 - ds.length) '0' ++ ds
    let whole := ds.take (ds.length - places)
    let part := ds.drop (ds.length - places)
    sign x ++ String.ofList (if part.isEmpty then whole else whole ++ '.' :: part)

/-- The value of an exponent with an optional sign. -/
def exponent? : List Char → Option Int
  | [] => some 0
  | c :: cs => if c == 'e' || c == 'E' then Text.Numeral.integer? cs else none

/-- Digits, an optional point with digits, and an optional exponent; at least one digit stands before the exponent. -/
def number? (negative : Bool) (cs : List Char) : Option Binary64 :=
  let (whole, rest) := cs.span Text.Numeral.isDigit
  let (part, rest) := match rest with
    | '.' :: r => r.span Text.Numeral.isDigit
    | r => ([], r)
  if whole.isEmpty && part.isEmpty then none
  else do
    let e ← exponent? rest
    let digits ← Text.Numeral.continue? 0 (whole ++ part)
    return Binary64.ofDecimal negative digits (e - part.length)

/-- A letter of ASCII in lower case, any other character as it is. -/
def lower (c : Char) : Char := c.toLower

/-- What follows an optional sign: a number, or one of the names of infinity and of no number. -/
def magnitude? (negative : Bool) (cs : List Char) : Option Binary64 :=
  let name := String.ofList (cs.map lower)
  if name == "inf" || name == "infinity" then some (.infinity negative)
  else if name == "nan" then some .nan
  else number? negative cs

def read? : List Char → Option Binary64
  | '+' :: cs => magnitude? false cs
  | '-' :: cs => magnitude? true cs
  | cs => magnitude? false cs

end Harvest.Decimal
