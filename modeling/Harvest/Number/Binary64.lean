/-!
# Floating-point numbers of 64 bits

A number is its bit pattern; a finite one is `±significand · 2 ^ exponent` with natural and integer parts, so reading,
rounding and comparing are exact arithmetic.  `ofRatio` rounds a quotient to the nearest number, ties to the even one.
-/
namespace Harvest

/-- A floating-point number, as its sixty-four bits. -/
structure Binary64 where
  bits : UInt64
  deriving DecidableEq, Repr, Inhabited

namespace Binary64

def isNegative (x : Binary64) : Bool := x.bits.toNat ≥ 0x8000000000000000

def exponentField (x : Binary64) : Nat := x.bits.toNat / 0x10000000000000 % 2048

def fraction (x : Binary64) : Nat := x.bits.toNat % 0x10000000000000

def isNaN (x : Binary64) : Bool := x.exponentField == 2047 && x.fraction != 0

def isInfinite (x : Binary64) : Bool := x.exponentField == 2047 && x.fraction == 0

def isFinite (x : Binary64) : Bool := x.exponentField != 2047

/-- The integer factor of a finite number. -/
def significand (x : Binary64) : Nat :=
  if x.exponentField = 0 then x.fraction else x.fraction + 0x10000000000000

def exponent (x : Binary64) : Int := (max x.exponentField 1 : Nat) - 1075

/-- A bit pattern with a sign in front of its sixty-three lower bits. -/
def ofSigned (negative : Bool) (low : Nat) : Binary64 :=
  ⟨UInt64.ofNat (low + if negative then 0x8000000000000000 else 0)⟩

def zero (negative : Bool) : Binary64 := ofSigned negative 0

def infinity (negative : Bool) : Binary64 := ofSigned negative (2047 * 0x10000000000000)

def nan : Binary64 := ofSigned false (2047 * 0x10000000000000 + 0x8000000000000)

/-- The quotient rounded to the nearest integer, a half to the even neighbour. -/
def roundDiv (num den : Nat) : Nat :=
  let q := num / den
  let r := num % den
  if 2 * r > den || (2 * r == den && q % 2 == 1) then q + 1 else q

/-- The rounded `num / (den · 2 ^ e)`. -/
def scaled (num den : Nat) (e : Int) : Nat :=
  roundDiv (num * Nat.pow 2 (-e).toNat) (den * Nat.pow 2 e.toNat)

/-- The exponent that gives `num / den` a significand of fifty-three bits, or the least exponent. -/
def fittingExponent (num den : Nat) : Int :=
  let e : Int := (Nat.log2 num : Int) - Nat.log2 den - 52
  let below : Bool := num * Nat.pow 2 (-e).toNat < den * Nat.pow 2 e.toNat * 0x10000000000000
  max (if below then e - 1 else e) (-1074)

/-- The number nearest to `num / den`, for a denominator that is not zero. -/
def ofRatio (negative : Bool) (num den : Nat) : Binary64 :=
  if num = 0 then zero negative
  else
    let e := fittingExponent num den
    let q := scaled num den e
    let (q, e) := if q = 0x20000000000000 then (0x10000000000000, e + 1) else (q, e)
    if e > 971 then infinity negative
    else if q < 0x10000000000000 then ofSigned negative q
    else ofSigned negative ((e + 1075).toNat * 0x10000000000000 + (q - 0x10000000000000))

/-- The number nearest to `±digits · 10 ^ e`. -/
def ofDecimal (negative : Bool) (digits : Nat) (e : Int) : Binary64 :=
  if digits = 0 then zero negative
  else
    let size := e + (Nat.toDigits 10 digits).length
    if size > 400 then infinity negative
    else if size < -400 then zero negative
    else ofRatio negative (digits * Nat.pow 10 e.toNat) (Nat.pow 10 (-e).toNat)

def ofInt (n : Int) : Binary64 := ofRatio (n < 0) n.natAbs 1

/-- The magnitude of a finite number as a quotient. -/
def ratio (x : Binary64) : Nat × Nat :=
  (x.significand * Nat.pow 2 x.exponent.toNat, Nat.pow 2 (-x.exponent).toNat)

/-- The rounded product of two finite numbers. -/
def mul (x y : Binary64) : Binary64 :=
  ofRatio (x.isNegative != y.isNegative) (x.ratio.1 * y.ratio.1) (x.ratio.2 * y.ratio.2)

/-- The rounded quotient of two finite numbers, for a divisor that is not zero. -/
def div (x y : Binary64) : Binary64 :=
  ofRatio (x.isNegative != y.isNegative) (x.ratio.1 * y.ratio.2) (x.ratio.2 * y.ratio.1)

/-- The integer part of a finite number, with its sign. -/
def truncate (x : Binary64) : Int :=
  let n : Int := (x.ratio.1 / x.ratio.2 : Nat)
  if x.isNegative then -n else n

def integer? (x : Binary64) : Option Int :=
  if x.isFinite && x.ratio.1 % x.ratio.2 == 0 then some x.truncate else none

/-- The integer part within 64 bits: the nearest end of the range where it lies outside, zero for no number. -/
def toInt64 (x : Binary64) : Int64 :=
  if x.isNaN then 0
  else if x.isInfinite then if x.isNegative then Int64.minValue else Int64.maxValue
  else Int64.ofInt (max (-0x8000000000000000) (min (0x8000000000000000 - 1) x.truncate))

end Binary64

end Harvest
