import Harvest.Text.Find
import Harvest.Text.Numeral
import Harvest.Text.Quoted
import Harvest.Unicode.Property
import Harvest.Url.Punycode
/-!
# Hosts of URLs

Which texts are hosts: names without forbidden characters, IPv4 addresses in their many spellings, and IPv6 addresses in
brackets.  A name whose last label is a number has to be an address.
-/
namespace Harvest.Url.Host

/-! ## IPv4 -/

/-- A number of an address: decimal, octal behind a zero, hexadecimal behind `0x`. -/
def number? (cs : List Char) : Option Nat :=
  let digits (base : Nat) (ds : List Char) : Option Nat :=
    ds.foldl (fun acc c => acc.bind fun n => (Text.Quoted.digit? base c).map (n * base + ·)) (some 0)
  match cs with
  | [] => none
  | '0' :: 'x' :: ds => digits 16 ds
  | '0' :: 'X' :: ds => digits 16 ds
  | '0' :: d :: ds => digits 8 (d :: ds)
  | ds => digits 10 ds

/-- The labels of a name, without the empty one behind a final dot. -/
def labels (cs : List Char) : List (List Char) :=
  let ls := Text.splitAt '.' cs
  if ls.length > 1 && ls.getLast? == some [] then ls.dropLast else ls

/-- Is the last label of a name a number? -/
def endsInNumber (cs : List Char) : Bool :=
  match (labels cs).getLast? with
  | some l => (!l.isEmpty && l.all Char.isDigit) || (number? l).isSome
  | none => false

/-- Is this an IPv4 address?  All numbers but the last take one byte, the last takes the bytes that are left. -/
def isIpv4 (cs : List Char) : Bool :=
  let ls := labels cs
  match ls.mapM number? with
  | some ns =>
    ns.length ≤ 4 && ns.dropLast.all (· ≤ 255) && (ns.getLast?).any (· < Nat.pow 256 (5 - ns.length))
  | none => false

/-! ## IPv6 -/

/-- Is this a byte of the address that ends an IPv6 address? -/
def isByte (cs : List Char) : Bool :=
  (cs.length == 1 || cs.head? != some '0') && (Text.Numeral.natural? cs).any (· ≤ 255)

/-- How many of the eight pieces some groups between colons fill. -/
def pieces? : List (List Char) → Option Nat
  | [] => some 0
  | [g] =>
    if g.contains '.' then
      let bs := Text.splitAt '.' g
      if bs.length == 4 && bs.all isByte then some 2 else none
    else piece? g
  | g :: gs => do return (← piece? g) + (← pieces? gs)
where
  piece? (g : List Char) : Option Nat :=
    if 1 ≤ g.length && g.length ≤ 4 && g.all (fun c => (Text.Quoted.digit? 16 c).isSome) then some 1 else none

/-- The groups of a part that may be empty. -/
def groups (cs : List Char) : List (List Char) := if cs.isEmpty then [] else Text.splitAt ':' cs

/-- Is this an IPv6 address?  A double colon stands for one piece or more. -/
def isIpv6 (cs : List Char) : Bool :=
  match Text.cut? [':', ':'] cs with
  | none => pieces? (Text.splitAt ':' cs) == some 8
  | some (before, after) =>
    match pieces? (groups before), pieces? (groups after) with
    | some a, some b => a + b ≤ 7 && !before.contains '.'
    | _, _ => false

/-- What stands in brackets, if the text is a bracketed one. -/
def bracketed? : List Char → Option (List Char)
  | '[' :: rest => if rest.getLast? == some ']' then some rest.dropLast else some []
  | _ => none

/-! ## Names -/

/-- The bytes of a text with its percent escapes decoded. -/
def decodeEscapes : List Char → List UInt8
  | [] => []
  | '%' :: a :: b :: rest =>
    match Text.Quoted.digit? 16 a, Text.Quoted.digit? 16 b with
    | some x, some y => UInt8.ofNat (x * 16 + y) :: decodeEscapes rest
    | _, _ => 0x25 :: decodeEscapes (a :: b :: rest)
  | c :: rest => Text.Utf8.encodeChar c ++ decodeEscapes rest

/-- The characters of ASCII that no name may have. -/
def isForbidden (c : Char) : Bool :=
  c.toNat ≤ 0x20 || c.toNat == 0x7F || "%#/:<>?@[\\]^`|\x7b\x7d".toList.contains c

/-- The characters whose plain form is a blank, or a blank with a mark over or under it. -/
def blanks : Unicode.CharSet :=
  Unicode.space.union (Unicode.readRanges [
    "A8 AF B4 B8 2D8-2DD 37A 384-385 1FBD 1FBF-1FC1 1FCD-1FCF 1FDD-1FDF 1FED-1FEE 1FFD-1FFE 2017 203E 309B-309C",
    "FC5E-FC63 FDFA-FDFB FE49-FE4C FE70 FE72 FE74 FE76 FE78 FE7A FE7C FE7E FFE3"])

/-- The characters whose plain form has a question mark, a slash, a colon, a bracket or the like. -/
def delimiters : Unicode.CharSet :=
  Unicode.readRanges [
    "2047-2049 2100-2101 2105-2106 2A74 FE13 FE16 FE37-FE38 FE47-FE48 FE55-FE56 FE5B-FE5C FE5F FE64-FE65 FE68 FE6A"]

/-- The plain form of a character in a name: full-width forms and the other full stops become ASCII, and a space stands
for whatever a name may not have beside ASCII. -/
def plain (c : Char) : Char :=
  let n := c.toNat
  if n == 0x3002 || n == 0xFE12 || n == 0xFF0E || n == 0xFF61 then '.'
  else if 0xFF01 ≤ n && n ≤ 0xFF5E then Char.ofNat (n - 0xFEE0)
  else if blanks.contains c || delimiters.contains c then ' '
  else c

/-- Characters that steer how others are set: directions of writing, language tags, beams and slurs of music. -/
def steering : Unicode.CharSet :=
  (Unicode.property "bidic").union (Unicode.readRanges ["1D173-1D17A E0001 E0020-E007F"])

/-- The characters that a name leaves out: those that show nothing, but for the two joiners and those that steer. -/
def ignored : Unicode.CharSet :=
  ((Unicode.property "di").inter Unicode.assigned).diff ((Unicode.property "joinc").union steering)

/-- The characters beyond ASCII that no name may have: those without a category, private ones and controls, those that
steer, format characters that show something, the signs that describe ideographs, and the signs for what is missing. -/
def excluded : Unicode.CharSet :=
  let formats := (Unicode.categories ["cf"]).diff (Unicode.property "di")
  [Unicode.categories ["co", "cc"], steering, formats,
    Unicode.readRanges ["2FF0-2FFF 31EF FFFC-FFFD"]].foldl Unicode.CharSet.union Unicode.assigned.complement

/-- Is the character one that a name may not have because of what it is? -/
def isExcluded (c : Char) : Bool := c.toNat ≥ 0x80 && excluded.contains c

/-- The characters that a change of case would replace. -/
def caseChanging : Unicode.CharSet := Unicode.property "cwcf"

/-- Does a character stand in names as it is?  The sharp s and the final sigma do, though folding changes them. -/
def standsForItself (c : Char) : Bool :=
  plain c == c && !ignored.contains c && (!caseChanging.contains c || c == 'ß' || c == 'ς')

/-- May the characters stand together in a label?  A mark may not come first. -/
def isPlainLabel (l : List Char) : Bool := !l.any isExcluded && !l.head?.any (Unicode.categoriesOf 'm').contains

/-- Is this a label of a name?  Behind `xn--` stands the spelling of a text that is not ASCII. -/
def isLabel (l : List Char) : Bool :=
  match Text.after? "xn--".toList (l.map Char.toLower) with
  | some spelling =>
    spelling.getLast?.any (· != '-')
      && (Punycode.decode? spelling).any fun t => t.all standsForItself && isPlainLabel t
  | none => isPlainLabel l

/-- The name that a text stands for, if it is one. -/
def name? (cs : List Char) : Option (List Char) := do
  let text ← Text.Utf8.decode? (decodeEscapes cs)
  let plainText := (text.filter (!ignored.contains ·)).map plain
  if plainText.isEmpty || plainText.any isForbidden || !(labels plainText).all isLabel then none
  else some plainText

/-- Is this the host of a URL whose scheme has hosts on the network? -/
def isNetworkHost (cs : List Char) : Bool :=
  match bracketed? cs with
  | some inner => isIpv6 inner
  | none => (name? cs).any fun n => !endsInNumber n || isIpv4 n

/-- The characters that no host of another scheme may have. -/
def isForbiddenOpaque (c : Char) : Bool := c.toNat == 0 || " #/:<>?@[\\]^|\t\n\r".toList.contains c

/-- Is this the host of a URL of another scheme?  It may be empty. -/
def isOpaqueHost (cs : List Char) : Bool :=
  match bracketed? cs with
  | some inner => isIpv6 inner
  | none => !cs.any isForbiddenOpaque

end Harvest.Url.Host
