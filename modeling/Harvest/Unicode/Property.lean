import Harvest.Unicode.Boundary
import Harvest.Unicode.Folding
/-!
# Classes of characters by name

A property, a general category or a script is found by any of its names; case, blanks, hyphens and underscores in a
name do not matter, nor does an `is` in front of it.  The classes that patterns and filters use most stand here as
constants.
-/
namespace Harvest.Unicode

/-- A name without what does not matter in it.  The name of the one property that begins with `is` and is as short as a
category's stays whole. -/
def looseName (name : String) : String :=
  let cs := name.toList
  let affirmed := ["is", "IS", "iS", "Is"].contains (String.ofList (cs.take 2))
  let kept := ((if affirmed then cs.drop 2 else cs).filter fun c =>
    c.toNat < 0x80 && !(c == ' ' || c == '_' || c == '-')).map Char.toLower
  if affirmed && kept == ['c'] then "isc" else String.ofList kept

/-- The class of a name by itself: a property, else a category, else a script. -/
def class? (name : String) : Option CharSet :=
  let n := looseName name
  let named := if n == "cf" || n == "sc" || n == "lc" then none else property? n
  named <|> category? n <|> listed? scriptListing n

/-- The class of a name and a value, such as a category, a script or a version. -/
def classOf? (name value : String) : Option CharSet :=
  let v := looseName value
  match looseName name with
  | "gc" | "generalcategory" => category? v
  | "sc" | "script" => listed? scriptListing v
  | "scx" | "scriptextensions" => sharedScript? v
  | "age" => age? v
  | "gcb" | "graphemeclusterbreak" => graphemeBreak? v
  | "wb" | "wordbreak" => wordBreak? v
  | "sb" | "sentencebreak" => sentenceBreak? v
  | _ => none

/-- The letters and the characters that count as letters. -/
def alphabetic : CharSet := property "alpha"

def digits : CharSet := categories ["nd"]

def space : CharSet :=
  .ofRanges [(9, 13), (0x20, 0x20), (0x85, 0x85), (0xA0, 0xA0), (0x1680, 0x1680), (0x2000, 0x200A), (0x2028, 0x2029),
    (0x202F, 0x202F), (0x205F, 0x205F), (0x3000, 0x3000)]

/-- The characters of words: letters, marks, decimal digits, connecting punctuation and the two joiners. -/
def word : CharSet :=
  CharSet.ofRanges (alphabetic.ranges.toList ++ (categoriesOf 'm').ranges.toList ++ digits.ranges.toList
    ++ (categories ["pc"]).ranges.toList ++ [(0x200C, 0x200D)])

/-- The characters of the Han script. -/
def han : CharSet := (listed? scriptListing "han").getD .empty

/-- The letters and numbers of all scripts. -/
def alphanumeric : CharSet := alphabetic.union (categoriesOf 'n')

/-- Is a character a letter or a number?  In ASCII this needs no listing. -/
def isAlphanumeric (c : Char) : Bool := if c.toNat < 0x80 then c.isAlphanum else alphanumeric.contains c

/-- A set with all case variants of its characters. -/
def foldCase (s : CharSet) : CharSet :=
  let extra := (foldingCodes (s.ranges.all (·.2 < 0x80))).flatMap fun n =>
    if CharSet.search s.ranges n (s.ranges.size + 1) 0 s.ranges.size then caseVariants n else []
  CharSet.ofRanges (s.ranges.toList ++ extra.map fun n => (n, n))

def foldCaseChar (c : Char) : CharSet := CharSet.ofRanges ((caseVariants c.toNat).map fun n => (n, n))

end Harvest.Unicode
