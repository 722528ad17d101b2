import Harvest.Error
import Harvest.Text.Blank
import Harvest.Text.Find
/-!
# Page ranges

`paging(start,end,step)` repeats templates over a range of pages.  `{0}` stands for the page, or for the page times the
step; with a step, `{1}` stands for the offset of the next page.
-/
namespace Harvest.Filter.Paging

/-- A range of pages, with the step of their offsets. -/
structure PageRange where
  start : Int64
  stop : Int64
  step : Option Int64
  deriving DecidableEq, Repr

/-- A number within the signed 64-bit range. -/
def fits (n : Int) : Bool := -0x8000000000000000 ≤ n && n < 0x8000000000000000

def integer (raw : List Char) : Except FilterError Int64 :=
  match Text.Numeral.int64? (Text.trimBlank raw) with
  | some n => .ok n
  | none => .error (.invalidParams (.pagingInteger (String.ofList raw)))

def stepOf : List (List Char) → Except FilterError (Option Int64)
  | raw :: _ => do
    let step ← integer raw
    if step < 1 then .error (.invalidParams .pagingStep) else .ok (some step)
  | [] => .ok none

def PageRange.parse (params : String) : Except FilterError PageRange :=
  match Text.splitAt ',' params.toList with
  | first :: second :: rest => do
    let step ← stepOf rest
    let start ← integer first
    let stop ← integer second
    let span := stop.toInt - start.toInt
    if fits span && fits (span + 1) && span + 1 ≤ maxPages then .ok ⟨start, stop, step⟩
    else .error (.invalidParams (.pagingSpan start stop))
  | _ => .error (.invalidParams .pagingArity)

def PageRange.pages (r : PageRange) : List Int :=
  (List.range (r.stop.toInt - r.start.toInt + 1).toNat).map fun i => r.start.toInt + Int.ofNat i

def pageMark : String := "\x7b0\x7d"

def nextMark : String := "\x7b1\x7d"

def PageRange.fill (r : PageRange) (template : String) (page : Int) : Except FilterError String :=
  match r.step with
  | none => .ok (Text.replaceAllIn template pageMark (Text.Numeral.ofInt page))
  | some step =>
    let first := page * step.toInt
    let next := (page + 1) * step.toInt
    if fits first && fits (page + 1) && fits next then
      .ok (Text.replaceAllIn (Text.replaceAllIn template pageMark (Text.Numeral.ofInt first))
        nextMark (Text.Numeral.ofInt next))
    else .error (.invalidParams (.pagingOffset page))

/-- The template of a list that a page's number picks. -/
def pick (templates : List String) (page : Int) : Except FilterError String :=
  match if 0 ≤ page then templates[page.toNat]? else none with
  | some t => .ok t
  | none => .error (.invalidParams (.pagingTemplate page templates.length))

/-- The texts for all pages of a range: of one template, of each of a list's templates in turn, or, for a list of
strings, of the template that the page's number picks, once for each string of the list. -/
def paging (value : Value) (params : String) : Except FilterError Value := do
  let r ← PageRange.parse params
  match value with
  | .string template => return .strings (← r.pages.mapM (r.fill template))
  | .array items =>
    let templates ← items.mapM fun item => match item with
      | .string s => .ok s
      | other => .error (.unsupported (.pagingItem other.kind))
    return .strings (← (r.pages.flatMap fun page => templates.map fun t => (t, page)).mapM fun p => r.fill p.1 p.2)
  | .strings templates =>
    return .strings (← (r.pages.flatMap fun page => List.replicate templates.length page).mapM fun page => do
      r.fill (← pick templates page) page)
  | other => .error (.unsupported (.pagingValue other.kind))

end Harvest.Filter.Paging
