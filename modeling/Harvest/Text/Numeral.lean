/-!
# Decimal integers

Written and read.  `integer?` takes an optional sign and at least one digit, nothing else; `int64?` and `nat64?` also
refuse a number that does not fit into 64 bits.
-/
namespace Harvest.Text.Numeral

def digit? (c : Char) : Option Nat :=
  if '0' ≤ c ∧ c ≤ '9' then some (c.toNat - 48) else none

/-- Is the character a decimal digit of ASCII? -/
def isDigit (c : Char) : Bool := '0' ≤ c ∧ c ≤ '9'

/-- The number that a list of digits continues from `acc`. -/
def continue? (acc : Nat) : List Char → Option Nat
  | [] => some acc
  | c :: cs => (digit? c).bind fun d => continue? (acc * 10 + d) cs

/-- The number that one or more digits denote. -/
def natural? (cs : List Char) : Option Nat := if cs.isEmpty then none else continue? 0 cs

/-- The number that digits with an optional sign denote. -/
def integer? : List Char → Option Int
  | '+' :: cs => (natural? cs).map Int.ofNat
  | '-' :: cs => (natural? cs).map fun n => -Int.ofNat n
  | cs => (natural? cs).map Int.ofNat

/-- The number that digits with an optional plus sign denote. -/
def unsigned? : List Char → Option Nat
  | '+' :: cs => natural? cs
  | cs => natural? cs

/-- An integer of at most 64 bits, with a sign. -/
def int64? (cs : List Char) : Option Int64 :=
  (integer? cs).bind fun n => if -0x8000000000000000 ≤ n ∧ n < 0x8000000000000000 then some (Int64.ofInt n) else none

/-- A natural number below 2^64. -/
def nat64? (cs : List Char) : Option Nat :=
  (unsigned? cs).bind fun n => if n < 0x10000000000000000 then some n else none

/-- The decimal digits of a natural number. -/
def ofNat (n : Nat) : String := String.ofList (Nat.toDigits 10 n)

/-- A decimal integer, with a minus sign where it is negative. -/
def ofInt : Int → String
  | .ofNat n => ofNat n
  | .negSucc n => "-" ++ ofNat (n + 1)

end Harvest.Text.Numeral
