import Harvest.Markup.Entity
import Harvest.Text.Quoted
/-!
# Character references in markup

`&name;`, `&#10;` and `&#xA;` stand for characters.  A name may miss its semicolon if it is one of the old ones; in an
attribute's value it then must not run on.  What stands for nothing stays as it is.
-/
namespace Harvest.Markup.Reference

/-- The characters that the codes from 0x80 to 0x9F stand for. -/
def windowsCodes : List Nat := [
  0x20AC, 0x81, 0x201A, 0x192, 0x201E, 0x2026, 0x2020, 0x2021, 0x2C6, 0x2030, 0x160, 0x2039, 0x152, 0x8D, 0x17D, 0x8F,
  0x90, 0x2018, 0x2019, 0x201C, 0x201D, 0x2022, 0x2013, 0x2014, 0x2DC, 0x2122, 0x161, 0x203A, 0x153, 0x9D, 0x17E, 0x178]

def ofCode (n : Nat) : Char :=
  if n == 0 || !Text.Quoted.isScalar n then '\uFFFD'
  else if 0x80 ≤ n && n ≤ 0x9F then Char.ofNat (windowsCodes.getD (n - 0x80) n)
  else Char.ofNat n

/-- A number behind its marks: the character and the text behind the digits and their semicolon. -/
def numeric? (base : Nat) (cs : List Char) : Option (List Char × List Char) :=
  let isDigit (c : Char) : Bool := (Text.Quoted.digit? base c).isSome
  let ds := cs.takeWhile isDigit
  if ds.isEmpty then none
  else
    let n := ds.foldl (fun n c => n * base + (Text.Quoted.digit? base c).getD 0) 0
    let rest := match cs.drop ds.length with
      | ';' :: rest => rest
      | rest => rest
    some ([ofCode n], rest)

/-- A name and its semicolon, or the longest old name at the head of a text. -/
def named? (inAttr : Bool) (cs : List Char) : Option (List Char × List Char) :=
  let run := cs.takeWhile Char.isAlphanum
  let bare : Option (List Char × List Char) :=
    match Entity.longestBare? run with
    | some (text, n) =>
      let rest := cs.drop n
      if inAttr && rest.head?.any (fun c => c == '=' || c.isAlphanum) then none else some (text, rest)
    | none => none
  match cs.drop run.length with
  | ';' :: rest =>
    match Entity.find? run with
    | some text => some (text, rest)
    | none => bare
  | _ => bare

/-- What the text behind an ampersand stands for, and what follows. -/
def read? (inAttr : Bool) (cs : List Char) : Option (List Char × List Char) :=
  match cs with
  | '#' :: 'x' :: rest => numeric? 16 rest
  | '#' :: 'X' :: rest => numeric? 16 rest
  | '#' :: rest => numeric? 10 rest
  | cs => named? inAttr cs

def resolve (inAttr : Bool) (cs : List Char) : List Char :=
  go (cs.length + 1) cs
where
  go : Nat → List Char → List Char
  | 0, _ => []
  | _ + 1, [] => []
  | fuel + 1, c :: cs =>
    if c == '&' then
      match read? inAttr cs with
      | some (text, rest) => text ++ go fuel rest
      | none => c :: go fuel cs
    else c :: go fuel cs

end Harvest.Markup.Reference
