/-!
# Sets of characters as ranges of codes

A set is a list of ranges in increasing order that neither overlap nor touch.  Every operation yields such a list;
`contains` searches it by halving.
-/
namespace Harvest.Unicode

/-- The value of hexadecimal digits in upper case. -/
def code (cs : List Char) : Nat :=
  cs.foldl (fun n c => n * 16 + if c.isDigit then c.toNat - 48 else c.toNat - 55) 0

/-- A range of codes, both ends included. -/
abbrev Range := Nat × Nat

/-- A set of characters. -/
structure CharSet where
  ranges : Array Range
  deriving Repr, Inhabited, DecidableEq

namespace CharSet

def lastCode : Nat := 0x10FFFF

/-- Is a code in one of the ranges from index `lo` up to but not including `hi`? -/
def search (rs : Array Range) (n : Nat) : Nat → Nat → Nat → Bool
  | 0, _, _ => false
  | fuel + 1, lo, hi =>
    if lo < hi then
      let mid := (lo + hi) / 2
      let r := rs.getD mid (0, 0)
      if n < r.1 then search rs n fuel lo mid
      else if r.2 < n then search rs n fuel (mid + 1) hi
      else true
    else false

def contains (s : CharSet) (c : Char) : Bool := search s.ranges c.toNat (s.ranges.size + 1) 0 s.ranges.size

/-- Ranges in increasing order of their first codes, with those that overlap or touch made one.  `r` still grows, and
`acc` holds those before it, the last one first. -/
def mergeFrom (r : Range) (acc : List Range) : List Range → List Range
  | [] => (r :: acc).reverse
  | q :: qs => if q.1 ≤ r.2 + 1 then mergeFrom (r.1, max r.2 q.2) acc qs else mergeFrom q (r :: acc) qs

/-- Puts a range in its place among ranges in increasing order of their first codes. -/
def place (r : Range) : List Range → List Range
  | [] => [r]
  | q :: qs => if r.1 ≤ q.1 then r :: q :: qs else q :: place r qs

def ofRanges (rs : List Range) : CharSet :=
  match (rs.filter fun r => r.1 ≤ r.2).foldr place [] with
  | [] => ⟨#[]⟩
  | r :: rest => ⟨(mergeFrom r [] rest).toArray⟩

def empty : CharSet := ⟨#[]⟩

def full : CharSet := ⟨#[(0, lastCode)]⟩

def singleton (c : Char) : CharSet := ⟨#[(c.toNat, c.toNat)]⟩

def between (a b : Char) : CharSet := ofRanges [(a.toNat, b.toNat)]

def union (s t : CharSet) : CharSet := ofRanges (s.ranges.toList ++ t.ranges.toList)

/-- The ranges between those of a list, from a first code on. -/
def gaps (start : Nat) : List Range → List Range
  | [] => if start ≤ lastCode then [(start, lastCode)] else []
  | r :: rest => if start < r.1 then (start, r.1 - 1) :: gaps (r.2 + 1) rest else gaps (r.2 + 1) rest

/-- All characters that are not in the set. -/
def complement (s : CharSet) : CharSet := ⟨(gaps 0 s.ranges.toList).toArray⟩

def inter (s t : CharSet) : CharSet := complement (union (complement s) (complement t))

def diff (s t : CharSet) : CharSet := inter s (complement t)

/-- A set without the codes that are reserved for pairs of code units and so belong to no character. -/
def scalars (s : CharSet) : CharSet :=
  ofRanges (s.ranges.toList.flatMap fun r => [(r.1, min r.2 0xD7FF), (max r.1 0xE000, r.2)])

/-- The characters in exactly one of two sets. -/
def symmDiff (s t : CharSet) : CharSet := union (diff s t) (diff t s)

end CharSet

/-- A range of a listing: one code, or two with a hyphen between. -/
def readRange (item : String) : Range :=
  match item.splitOn "-" with
  | [a, b] => (code a.toList, code b.toList)
  | _ => (code item.toList, code item.toList)

def readRanges (lines : List String) : CharSet :=
  CharSet.ofRanges ((lines.flatMap (·.splitOn " ")).map readRange)

end Harvest.Unicode
