/-!
# UTF-8

Bytes of a text and the text of bytes.  `encode` writes scalar values, `decode?` reads a well-formed sequence, and
`decodeLossy` reads any sequence: each longest run of bytes that begins a character but does not finish it, and each
byte that begins none, becomes U+FFFD.
-/
namespace Harvest.Text.Utf8

def encodeChar (c : Char) : List UInt8 :=
  let n := c.toNat
  if n < 0x80 then [UInt8.ofNat n]
  else if n < 0x800 then [UInt8.ofNat (0xC0 + n / 64), UInt8.ofNat (0x80 + n % 64)]
  else if n < 0x10000 then
    [UInt8.ofNat (0xE0 + n / 4096), UInt8.ofNat (0x80 + n / 64 % 64), UInt8.ofNat (0x80 + n % 64)]
  else
    [UInt8.ofNat (0xF0 + n / 262144), UInt8.ofNat (0x80 + n / 4096 % 64), UInt8.ofNat (0x80 + n / 64 % 64),
      UInt8.ofNat (0x80 + n % 64)]

def encode (cs : List Char) : List UInt8 := cs.flatMap encodeChar

/-- What a leading byte announces: the bits it gives, how many bytes follow, and the bounds of the first of them. -/
structure Lead where
  bits : Nat
  tails : Nat
  low : Nat
  high : Nat

/-- The announcement of a leading byte of a longer character. -/
def lead? (b : Nat) : Option Lead :=
  if 0xC2 ≤ b && b ≤ 0xDF then some ⟨b - 0xC0, 1, 0x80, 0xBF⟩
  else if b == 0xE0 then some ⟨0, 2, 0xA0, 0xBF⟩
  else if b == 0xED then some ⟨0xD, 2, 0x80, 0x9F⟩
  else if 0xE1 ≤ b && b ≤ 0xEF then some ⟨b - 0xE0, 2, 0x80, 0xBF⟩
  else if b == 0xF0 then some ⟨0, 3, 0x90, 0xBF⟩
  else if 0xF1 ≤ b && b ≤ 0xF3 then some ⟨b - 0xF0, 3, 0x80, 0xBF⟩
  else if b == 0xF4 then some ⟨4, 3, 0x80, 0x8F⟩
  else none

/-- Reads the bytes owed after a leading byte: the code point if all are there, and how many were taken. -/
def tails (acc low high : Nat) : Nat → List UInt8 → Option Nat × Nat
  | 0, _ => (some acc, 0)
  | _ + 1, [] => (none, 0)
  | n + 1, b :: rest =>
    if low ≤ b.toNat && b.toNat ≤ high then
      let r := tails (acc * 64 + (b.toNat - 0x80)) 0x80 0xBF n rest
      (r.1, r.2 + 1)
    else (none, 0)

/-- The character at the head of `b :: rest`, if there is one, and how many bytes of `rest` it or its unfinished
beginning takes. -/
def head (b : UInt8) (rest : List UInt8) : Option Char × Nat :=
  if b.toNat < 0x80 then (some (Char.ofNat b.toNat), 0)
  else match lead? b.toNat with
    | none => (none, 0)
    | some l =>
      let r := tails l.bits l.low l.high l.tails rest
      (r.1.map Char.ofNat, r.2)

/-- The characters of a sequence, `none` for each unreadable run. -/
def units : Nat → List UInt8 → List (Option Char)
  | 0, _ => []
  | _ + 1, [] => []
  | fuel + 1, b :: rest =>
    let r := head b rest
    r.1 :: units fuel (rest.drop r.2)

/-- The text of any byte sequence, with U+FFFD for what cannot be read. -/
def decodeLossy (bs : List UInt8) : List Char := (units bs.length bs).map (·.getD '\uFFFD')

/-- The text of a well-formed byte sequence. -/
def decode? (bs : List UInt8) : Option (List Char) := (units bs.length bs).mapM id

def ofString (s : String) : List UInt8 := encode s.toList

def toStringLossy (bs : List UInt8) : String := String.ofList (decodeLossy bs)

/-- The string of a well-formed byte sequence. -/
def toString? (bs : List UInt8) : Option String := (decode? bs).map String.ofList

end Harvest.Text.Utf8
