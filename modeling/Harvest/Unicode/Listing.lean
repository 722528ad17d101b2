import Harvest.Unicode.Age
import Harvest.Unicode.Binary
import Harvest.Unicode.Category
import Harvest.Unicode.Ranges
import Harvest.Unicode.Script
import Harvest.Unicode.ScriptExtension
/-!
# Looking up the listings

A listing pairs names with ranges.  An entry is found by any of its names; the general categories also have groups, such
as the letters, and a script also has the characters that it shares with others.
-/
namespace Harvest.Unicode

/-- The entry of a listing that goes by a name. -/
def listed? (listing : List (String × List String)) (name : String) : Option CharSet :=
  (listing.find? fun e => (e.1.splitOn " ").contains name).map fun e => readRanges e.2

/-- The characters of some of a listing's entries, each by one of its names. -/
def listedAll (listing : List (String × List String)) (names : List String) : CharSet :=
  CharSet.ofRanges (names.flatMap fun n => ((listed? listing n).getD .empty).ranges.toList)

/-! ## Categories -/

/-- The characters of some categories, each by its short name. -/
def categories (names : List String) : CharSet := listedAll categoryListing names

/-- The union of the categories whose short names start with a letter. -/
def categoriesOf (letter : Char) : CharSet :=
  CharSet.ofRanges ((categoryListing.filter fun e => e.1.toList.head? == some letter).flatMap fun e =>
    (readRanges e.2).ranges.toList)

/-- The characters that some category holds. -/
def assigned : CharSet :=
  CharSet.ofRanges (categoryListing.flatMap fun e => (readRanges e.2).ranges.toList)

/-- The general category, or the group of categories, of a name. -/
def category? (name : String) : Option CharSet :=
  match name with
  | "any" => some .full
  | "assigned" => some assigned
  | "ascii" => some (.ofRanges [(0, 0x7F)])
  | "cn" | "unassigned" => some assigned.complement
  | "l" | "letter" => some (categoriesOf 'l')
  | "m" | "mark" | "combiningmark" => some (categoriesOf 'm')
  | "n" | "number" => some (categoriesOf 'n')
  | "p" | "punctuation" | "punct" => some (categoriesOf 'p')
  | "s" | "symbol" => some (categoriesOf 's')
  | "z" | "separator" => some (categoriesOf 'z')
  | "c" | "other" => some ((categoriesOf 'c').union assigned.complement)
  | "lc" | "casedletter" => some (categories ["lu", "ll", "lt"])
  | name => listed? categoryListing name

/-! ## Properties -/

def property (name : String) : CharSet := (listed? binaryListing name).getD .empty

/-- The class of a property, by any of its names.  Some properties hold what the categories leave open of another one:
the letters are alphabetic by their category, say, and `Other_Alphabetic` names the characters that are so besides. -/
def property? (name : String) : Option CharSet :=
  match name with
  | "oalpha" | "otheralphabetic" => some ((property "alpha").diff ((categoriesOf 'l').union (categories ["nl"])))
  | "odi" | "otherdefaultignorablecodepoint" =>
    some ((property "di").diff ((categories ["cf"]).union (property "vs")))
  | "ogrext" | "othergraphemeextend" => some ((property "grext").diff (categories ["mn", "me"]))
  | "oids" | "otheridstart" => some ((property "ids").diff ((categoriesOf 'l').union (categories ["nl"])))
  | "oidc" | "otheridcontinue" =>
    some (((property "idc").diff (property "ids")).diff (categories ["mn", "mc", "nd", "pc"]))
  | "olower" | "otherlowercase" => some ((property "lower").diff (categories ["ll"]))
  | "oupper" | "otheruppercase" => some ((property "upper").diff (categories ["lu"]))
  | "omath" | "othermath" => some ((property "math").diff (categories ["sm"]))
  | name => listed? binaryListing name

/-! ## Scripts and ages -/

/-- The characters that a script uses: its own and those that it shares.  What some scripts share belongs no longer to
the characters common to all. -/
def sharedScript? (name : String) : Option CharSet :=
  (listed? scriptListing name).map fun own =>
    if ["zyyy", "common", "zinh", "inherited", "qaai"].contains name then
      own.diff (CharSet.ofRanges (extensionListing.flatMap fun e => (readRanges e.2).ranges.toList))
    else own.union ((listed? extensionListing name).getD .empty)

/-- The characters that a version and those before it have. -/
def age? (name : String) : Option CharSet :=
  let named (e : String × List String) : Bool := (e.1.splitOn " ").contains name
  if ageListing.any named then
    let upTo := ageListing.takeWhile (fun e => !named e) ++ ageListing.filter named
    some (CharSet.ofRanges (upTo.flatMap fun e => (readRanges e.2).ranges.toList))
  else none

end Harvest.Unicode
