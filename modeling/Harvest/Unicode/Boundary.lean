import Harvest.Unicode.Listing
/-!
# Where text may be divided

Characters fall into classes that say whether a user-perceived character, a word or a sentence may end before or behind
them.  Most classes follow from categories, properties and scripts; the characters that they add or leave out stand
here.
-/
namespace Harvest.Unicode

/-- The characters of a written list of ranges. -/
def ranges (text : String) : CharSet := readRanges [text]

def unionAll (ss : List CharSet) : CharSet := CharSet.ofRanges (ss.flatMap fun s => s.ranges.toList)

/-- The codes of the syllables that end in a vowel: one in 28. -/
def openSyllables : CharSet := CharSet.ofRanges ((List.range 399).map fun k => (0xAC00 + 28 * k, 0xAC00 + 28 * k))

/-- Marks of any kind that extend the character before them. -/
def extending : CharSet := property "grext"

/-- Signs that stand before the digits they belong to. -/
def numberSigns : CharSet := ranges "600-605 6DD 890-891 8E2 110BD 110CD"

/-- The characters of a class of the division into user-perceived characters. -/
def graphemeBreak? (name : String) : Option CharSet :=
  let extend := extending.union (property "emod")
  match name with
  | "cr" => some (ranges "D")
  | "lf" => some (ranges "A")
  | "cn" | "control" =>
    let ignored := (property "di").diff assigned
    some (((((categories ["zl", "zp", "cc", "cf"]).union ignored).diff (ranges "A D 200C-200D")).diff
      (property "pcm")).diff extending)
  | "ex" | "extend" => some extend
  | "pp" | "prepend" =>
    some ((property "pcm").union (ranges "D4E 111C2-111C3 113D1 1193F 11941 11A3A 11A84-11A89 11D46 11F02"))
  | "sm" | "spacingmark" =>
    some ((((categories ["mc"]).union (ranges "E33 EB3")).diff extend).diff
      (ranges ("102B-102C 1038 1062-1064 1067-106D 1083 1087-108C 108F 109A-109C 1A61 1A63-1A64 AA7B AA7D "
        ++ "11720-11721")))
  | "l" => some (ranges "1100-115F A960-A97C")
  | "v" => some (ranges "1160-11A7 D7B0-D7C6 16D63 16D67-16D6A")
  | "t" => some (ranges "11A8-11FF D7CB-D7FB")
  | "lv" => some openSyllables
  | "lvt" => some ((ranges "AC00-D7A3").diff openSyllables)
  | "ri" | "regionalindicator" => some (property "ri")
  | "zwj" => some (ranges "200D")
  | _ => none

/-- The characters of a class of the division into words. -/
def wordBreak? (name : String) : Option CharSet :=
  let extend := (unionAll [extending, categories ["mc"], property "emod"]).diff (ranges "200D")
  let katakana := ((listed? scriptListing "kana").getD .empty).union (ranges "3031-3035 309B-309C 30A0 30FC FF70")
  let hebrew := ((listed? scriptListing "hebr").getD .empty).inter (categories ["lo"])
  match name with
  | "cr" => some (ranges "D")
  | "lf" => some (ranges "A")
  | "nl" | "newline" => some (ranges "B-C 85 2028-2029")
  | "dq" | "doublequote" => some (ranges "22")
  | "sq" | "singlequote" => some (ranges "27")
  | "extend" => some extend
  | "ex" | "extendnumlet" => some ((categories ["pc"]).union (ranges "202F"))
  | "fo" | "format" =>
    some ((((categories ["cf"]).diff (ranges "200B-200D")).diff extend).diff (property "pcm"))
  | "hl" | "hebrewletter" => some hebrew
  | "ka" | "katakana" => some katakana
  | "le" | "aletter" =>
    let more := ranges ("B8 2C2-2C5 2D2-2D7 2DE-2DF 2E5-2EB 2ED 2EF-2FF 55A-55C 55E 58A 5F3 70F A708-A716 A720-A721 "
      ++ "A789-A78A AB5B")
    let unspaced := ranges ("E01-E3A E40-E4E E81-E82 E84 E86-E8A E8C-EA3 EA5 EA7-EBD EC0-EC4 EC6 EC8-ECE EDC-EDF "
      ++ "1000-103F 1050-108F 109A-109F 1780-17D3 17D7 17DC-17DD 1950-196D 1970-1974 1980-19AB 19B0-19C9 19DE-19DF "
      ++ "1A20-1A5E 1A60-1A7C 1AA0-1AAD A9E0-A9EF A9FA-A9FE AA60-AAC2 AADB-AADF 11700-1171A 1171D-1172B 1173A-1173B "
      ++ "1173F-11746")
    some (((property "alpha").union more).diff (unionAll [property "ideo", katakana, unspaced,
      (listed? scriptListing "hira").getD .empty, extend, hebrew]))
  | "ml" | "midletter" => some (ranges "3A B7 387 55F 5F4 2027 FE13 FE55 FF1A")
  | "mn" | "midnum" => some (ranges "2C 3B 37E 589 60C-60D 66C 7F8 2044 FE10 FE14 FE50 FE54 FF0C FF1B")
  | "mb" | "midnumlet" => some (ranges "2E 2018-2019 2024 FE52 FF07 FF0E")
  | "nu" | "numeric" => some (unionAll [categories ["nd"], numberSigns, ranges "66B 19DA"])
  | "ri" | "regionalindicator" => some (property "ri")
  | "wsegspace" => some ((categories ["zs"]).diff (ranges "A0 2007 202F"))
  | "zwj" => some (ranges "200D")
  | _ => none

/-- The characters of a class of the division into sentences. -/
def sentenceBreak? (name : String) : Option CharSet :=
  let extend := unionAll [extending, categories ["mc"], ranges "200D"]
  let lower := ((property "lower").diff extending).diff (ranges "10D0-10FA 10FD-10FF")
  let upper := ((property "upper").union (categories ["lt"])).diff (ranges "1C90-1CBA 1CBD-1CBF")
  let full := ranges "2E 2024 FE52 FF0E"
  let ending := (property "sterm").diff full
  match name with
  | "cr" => some (ranges "D")
  | "lf" => some (ranges "A")
  | "se" | "sep" => some (ranges "85 2028-2029")
  | "at" | "aterm" => some full
  | "st" | "sterm" => some ending
  | "cl" | "close" =>
    let quotes := ranges "22 27 275B-2760 2E00-2E01 2E06-2E08 2E0B 1F676-1F678"
    some ((((categories ["ps", "pe", "pi", "pf"]).union quotes).diff full).diff ending)
  | "ex" | "extend" => some extend
  | "fo" | "format" => some ((((categories ["cf"]).diff (ranges "200C-200D")).diff extend).diff numberSigns)
  | "le" | "oletter" =>
    some ((((((property "alpha").union (ranges "5F3")).diff lower).diff upper).diff extend))
  | "lo" | "lower" => some lower
  | "up" | "upper" => some upper
  | "nu" | "numeric" => some (unionAll [categories ["nd"], numberSigns, ranges "66B-66C 19DA"])
  | "sc" | "scontinue" =>
    some (ranges ("2C-2D 3A-3B 37E 55D 60C-60D 7F8 1802 1808 2013-2014 3001 FE10-FE11 FE13-FE14 FE31-FE32 FE50-FE51 "
      ++ "FE54-FE55 FE58 FE63 FF0C-FF0D FF1A-FF1B FF64"))
  | "sp" => some ((property "wspace").diff (ranges "A D 85 2028-2029"))
  | _ => none

end Harvest.Unicode
