import Harvest.Filter.Textual
import Harvest.Proofs.Filter.Params
import Harvest.Proofs.Text.Numeral
/-!
# Templates written and filled in

A template is meant as texts and places for arguments.  Written with the percent signs of its texts doubled it is read
back as it was meant, whatever stands next to a place (`reads_write`), so expanding it puts the texts of the arguments
into the places.
-/
namespace Harvest.Filter.Template

open Text.Numeral (isDigit nat64?)

/-- A width that a verb can ask for: it is written without a leading zero, and a text can have as many characters. -/
structure Width where
  count : Nat
  pos : 0 < count
  fits : count ≤ maxLength

/-- The letter of a verb that puts in the text of its argument. -/
inductive Letter where
  | s
  | v
  deriving DecidableEq, Repr

def Letter.char : Letter → Char
  | s => 's'
  | v => 'v'

/-- A place for an argument: its text stands at the left of the width, or at the right. -/
structure Place where
  letter : Letter
  left : Bool
  width : Option Width

/-- What a template is meant as. -/
inductive Part where
  | text (cs : List Char)
  | place (p : Place)

/-! ## Writing -/

/-- A text with its percent signs doubled. -/
def doubled (cs : List Char) : List Char := cs.flatMap fun c => if c = '%' then ['%', '%'] else [c]

/-- The digits of a width, if there is one. -/
def Place.digits (p : Place) : List Char := (p.width.map fun w => Nat.toDigits 10 w.count).getD []

/-- The flags of a place. -/
def Place.flags (p : Place) : List Char := if p.left then ['-'] else []

def Place.write (p : Place) : List Char := '%' :: (p.flags ++ (p.digits ++ [p.letter.char]))

def Part.write : Part → List Char
  | text cs => doubled cs
  | place p => p.write

def write (parts : List Part) : List Char := parts.flatMap Part.write

/-! ## Filling in -/

/-- The least number of characters that a place takes. -/
def Place.size (p : Place) : Nat := (p.width.map Width.count).getD 0

/-- A text brought to the width of a place with spaces. -/
def Place.fill (p : Place) (cs : List Char) : List Char :=
  let spaces := List.replicate (p.size - cs.length) ' '
  if p.left then cs ++ spaces else spaces ++ cs

/-- The text of an argument, and what stands for one that is missing from a record. -/
def textOf : Option Value → List Char
  | some value => value.toText.toList
  | none => "<nil>".toList

/-- What stands in a place without an argument. -/
def Place.missing (p : Place) : List Char := "%!".toList ++ p.letter.char :: "(MISSING)".toList

/-- The texts of a template and, in its places, the arguments in their order. -/
def filled : List Part → List (Option Value) → List Char
  | [], _ => []
  | .text cs :: parts, args => cs ++ filled parts args
  | .place p :: parts, [] => p.missing ++ filled parts []
  | .place p :: parts, arg :: args => p.fill (textOf arg) ++ filled parts args

/-- **A place is as wide as it is to be**, and wider only where its text is. -/
theorem Place.length_fill (p : Place) (cs : List Char) : (p.fill cs).length = max p.size cs.length := by
  unfold Place.fill
  split <;> simp only [List.length_append, List.length_replicate] <;> omega

/-- How many places a template has. -/
def places (parts : List Part) : Nat := parts.countP fun part => match part with
  | .text _ => false
  | .place _ => true

/-- Arguments for which there is no place change nothing. -/
theorem filled_append : ∀ (parts : List Part) (args more : List (Option Value)), places parts ≤ args.length →
    filled parts (args ++ more) = filled parts args
  | [], _, _, _ => rfl
  | .text cs :: parts, args, more, h => congrArg (cs ++ ·) (filled_append parts args more h)
  | .place p :: parts, [], more, h => absurd h (by simp [places])
  | .place p :: parts, arg :: args, more, h => by
    have hrest : places parts ≤ args.length := by simpa [places] using h
    exact congrArg (p.fill (textOf arg) ++ ·) (filled_append parts args more hrest)

/-! ## Reading what is written -/

/-- The pieces that a text is read into, with any fuel that covers it. -/
def Reads (cs : List Char) (ps : List Piece) : Prop := ∀ fuel, cs.length ≤ fuel → pieces fuel cs = ps

section Reads

variable {cs rest : List Char} {ps : List Piece}

theorem Reads.nil : Reads [] []
  | 0, _ => rfl
  | _ + 1, _ => rfl

theorem Reads.literal {c : Char} (hc : c ≠ '%') (h : Reads cs ps) : Reads (c :: cs) (.literal c :: ps)
  | fuel + 1, hfuel => by
    rw [pieces.eq_def]
    show (if (c != '%') = true then _ else _) = _
    rw [if_pos (by simpa using hc), h fuel (Nat.le_of_succ_le_succ hfuel)]

theorem Reads.percent (h : Reads cs ps) : Reads ('%' :: '%' :: cs) (.literal '%' :: ps)
  | fuel + 1, hfuel => by
    have hrest : cs.length ≤ fuel := by
      simp only [List.length_cons] at hfuel
      omega
    rw [pieces, if_neg (by simp), h fuel hrest]

theorem Reads.verb {v : Verb} (hhead : ∀ cs', cs ≠ '%' :: cs') (hverb : verb? cs = some (v, rest))
    (hlength : rest.length ≤ cs.length) (h : Reads rest ps) : Reads ('%' :: cs) (.verb v :: ps)
  | fuel + 1, hfuel => by
    rw [pieces, if_neg (by simp), hverb]
    · exact congrArg (Piece.verb v :: ·) (h fuel (Nat.le_trans hlength (Nat.le_of_succ_le_succ hfuel)))
    · exact fun cs' hcs => hhead cs' hcs

theorem Reads.doubled (h : Reads rest ps) : ∀ cs : List Char,
    Reads (Template.doubled cs ++ rest) (cs.map Piece.literal ++ ps)
  | [] => h
  | c :: cs => by
    have htail := Reads.doubled h cs
    by_cases hc : c = '%'
    · subst hc
      exact htail.percent
    · have hfront : Template.doubled (c :: cs) = c :: Template.doubled cs := by simp [Template.doubled, hc]
      rw [hfront]
      exact htail.literal hc

/-- Behind flags and digits stands the letter of a verb. -/
theorem verb?_eq {flags : List Char} (hflags : ∀ f ∈ flags, isFlag f = true) {digits : List Char}
    (hdigits : ∀ d ∈ digits, isDigit d = true) (hhead : ∀ d ∈ digits.head?, isFlag d = false) {c : Char}
    (hletter : isFlag c = false ∧ isDigit c = false ∧ c ≠ '.') (rest : List Char) :
    verb? (flags ++ (digits ++ c :: rest)) =
      some (⟨flags.contains '-', flags.contains '0', nat64? digits, none, c⟩, rest) := by
  obtain ⟨hflag, hdigit, hdot⟩ := hletter
  have hnoFlag : (digits ++ c :: rest).takeWhile isFlag = [] ∧
      (digits ++ c :: rest).dropWhile isFlag = digits ++ c :: rest := by
    cases digits with
    | nil => simp [hflag]
    | cons d ds => simp [hhead d rfl]
  have htake : (flags ++ (digits ++ c :: rest)).takeWhile isFlag = flags := by
    rw [List.takeWhile_append_of_pos hflags, hnoFlag.1, List.append_nil]
  have hdrop : (flags ++ (digits ++ c :: rest)).dropWhile isFlag = digits ++ c :: rest := by
    rw [List.dropWhile_append_of_pos hflags, hnoFlag.2]
  have hnumber : number (digits ++ c :: rest) = (nat64? digits, c :: rest) := by
    rw [number, List.takeWhile_append_of_pos hdigits, List.dropWhile_append_of_pos hdigits]
    simp [hdigit]
  rw [verb?, htake, hdrop, hnumber]
  simp [hdot]

end Reads

theorem isFlag_of_isDigit {d : Char} (hdigit : isDigit d = true) (hzero : d ≠ '0') : isFlag d = false := by
  rw [Bool.eq_false_iff]
  intro hflag
  simp only [isFlag, Bool.or_eq_true, beq_iff_eq] at hflag
  rcases hflag with (((rfl | rfl) | rfl) | rfl) | rfl
  · cases hdigit
  · exact hzero rfl
  all_goals cases hdigit

/-- Digits of a positive number are read as a width behind any flags. -/
theorem verb?_width {flags : List Char} (hflags : ∀ f ∈ flags, isFlag f = true) {n : Nat} (hpos : 0 < n)
    (hfits : n < 0x10000000000000000) {c : Char} (hletter : isFlag c = false ∧ isDigit c = false ∧ c ≠ '.')
    (rest : List Char) : verb? (flags ++ (Nat.toDigits 10 n ++ c :: rest)) =
      some (⟨flags.contains '-', flags.contains '0', some n, none, c⟩, rest) := by
  have hdigits := List.all_eq_true.1 (Text.Numeral.all_isDigit_toDigits n)
  have hhead : ∀ d ∈ (Nat.toDigits 10 n).head?, isFlag d = false := fun d hd =>
    isFlag_of_isDigit (hdigits d (List.mem_of_mem_head? hd)) (Text.Numeral.ne_zero_of_head?_toDigits hpos d hd)
  rw [verb?_eq hflags hdigits hhead hletter, Text.Numeral.nat64?_toDigits hfits]

/-- The verb that a place is written as. -/
def Place.verb (p : Place) : Verb := ⟨p.left, false, p.width.map Width.count, none, p.letter.char⟩

theorem Place.verb?_write (p : Place) (rest : List Char) :
    verb? (p.flags ++ (p.digits ++ p.letter.char :: rest)) = some (p.verb, rest) := by
  obtain ⟨letter, left, width⟩ := p
  have hletter : isFlag letter.char = false ∧ isDigit letter.char = false ∧ letter.char ≠ '.' := by
    cases letter <;> decide
  have hflags : ∀ f ∈ (if left then ['-'] else []), isFlag f = true := by cases left <;> simp [isFlag]
  have hleft : (if left then ['-'] else []).contains '-' = left ∧ (if left then ['-'] else []).contains '0' = false := by
    cases left <;> decide
  cases width with
  | none =>
    have hdigits : ∀ d ∈ ([] : List Char), isDigit d = true := nofun
    have hread := verb?_eq hflags hdigits nofun hletter rest
    rw [hleft.1, hleft.2] at hread
    exact hread
  | some w =>
    have hfits : w.count < 0x10000000000000000 := Nat.lt_of_le_of_lt w.fits (by decide)
    have hread := verb?_width hflags w.pos hfits hletter rest
    rw [hleft.1, hleft.2] at hread
    exact hread

theorem Place.ne_percent (p : Place) (rest cs : List Char) :
    p.flags ++ (p.digits ++ p.letter.char :: rest) ≠ '%' :: cs := by
  intro heq
  -- a percent sign would be read as the letter of the verb
  have hpercent : verb? ('%' :: cs) = some (⟨false, false, none, none, '%'⟩, cs) := rfl
  have hread := p.verb?_write rest
  rw [heq, hpercent] at hread
  obtain ⟨letter, left, width⟩ := p
  have hletter : '%' = letter.char := congrArg (fun r => r.1.letter) (Option.some.inj hread)
  cases letter <;> cases hletter

def Part.pieces : Part → List Piece
  | text cs => cs.map .literal
  | place p => [.verb p.verb]

/-- **A written template is read as it was meant.** -/
theorem reads_write : ∀ parts : List Part, Reads (write parts) (parts.flatMap Part.pieces)
  | [] => .nil
  | .text cs :: parts => (reads_write parts).doubled cs
  | .place p :: parts => by
    have hrest := reads_write parts
    have hwrite : write (.place p :: parts) = '%' :: (p.flags ++ (p.digits ++ p.letter.char :: write parts)) := by
      simp [write, Part.write, Place.write]
    rw [hwrite]
    refine hrest.verb (p.ne_percent _) (p.verb?_write _) ?_
    simp only [List.length_append, List.length_cons]
    omega

/-! ## Expanding what is written -/

theorem argumentText_verb (p : Place) (value : Value) : argumentText p.verb value = .ok value.toText := by
  obtain ⟨letter, left, width⟩ := p
  cases letter <;> rfl

theorem pad_verb (p : Place) (cs : List Char) : pad p.verb cs = .ok (p.fill cs) := by
  have hfits : p.size ≤ maxLength := by
    obtain ⟨letter, left, width⟩ := p
    cases width with
    | none => exact Nat.zero_le _
    | some w => exact w.fits
  have hfill : fillLength p.verb.width cs.length = p.size - cs.length := rfl
  have hleft : p.verb.left = p.left := rfl
  have hzeros : p.verb.zeros = false := rfl
  have hnot : ¬ p.size - cs.length > maxLength := by omega
  rw [pad, hfill, hleft, hzeros, Place.fill]
  show (if _ then _ else _) = _
  rw [if_neg hnot]
  split <;> rfl

theorem render_literals {ps : List Piece} {args : List (Option Value)} {out : List Char}
    (h : render ps args = .ok out) : ∀ cs : List Char, render (cs.map .literal ++ ps) args = .ok (cs ++ out)
  | [] => h
  | c :: cs => by
    rw [List.map_cons, List.cons_append, render, render_literals h cs]
    rfl

theorem render_pieces : ∀ (parts : List Part) (args : List (Option Value)),
    render (parts.flatMap Part.pieces) args = .ok (filled parts args)
  | [], args => by
    rw [List.flatMap_nil, render]
    rfl
  | .text cs :: parts, args => render_literals (render_pieces parts args) cs
  | .place p :: parts, [] => by
    have hrest := render_pieces parts []
    show render (.verb p.verb :: parts.flatMap Part.pieces) [] = _
    rw [render, hrest]
    show Except.ok ("%!".toList ++ p.letter.char :: ("(MISSING)".toList ++ filled parts [])) = _
    rw [filled, Place.missing, List.append_assoc, List.cons_append]
  | .place p :: parts, arg :: args => by
    have hrest := render_pieces parts args
    show render (.verb p.verb :: parts.flatMap Part.pieces) (arg :: args) = _
    rw [render.eq_def]
    cases arg with
    | none =>
      show (do return (← pad p.verb _) ++ (← render _ args)) = _
      rw [pad_verb, hrest]
      rfl
    | some value =>
      dsimp only
      rw [argumentText_verb]
      show (do return (← pad p.verb _) ++ (← render _ args)) = _
      rw [pad_verb, hrest]
      rfl

/-- **Expanding a written template fills it in.** -/
theorem expand_write (parts : List Part) (args : List (Option Value)) :
    expand (String.ofList (write parts)) args = .ok (String.ofList (filled parts args)) := by
  have hparse : parse (String.ofList (write parts)) = parts.flatMap Part.pieces := by
    rw [parse, String.toList_ofList, String.length_ofList]
    exact reads_write parts _ (Nat.le_refl _)
  rw [expand, hparse, render_pieces]
  rfl

/-! ## Records -/

/-- The parameters of a template and of the names of fields. -/
def paramsOf (parts : List Part) (keys : List String) : String :=
  String.ofList (joinParams ',' (write parts :: keys.map String.toList))

/-- The fields of a record of some names, in the order of the names. -/
def valuesAt (fields : List (String × Value)) (keys : List String) : List (Option Value) :=
  keys.map fun key => Fields.find? key fields

theorem splitParams_paramsOf {parts : List Part} {keys : List String}
    (h : ∀ p ∈ (write parts :: keys.map String.toList).dropLast, p.getLast? ≠ some '\\') :
    splitParams (paramsOf parts keys) = String.ofList (write parts) :: keys := by
  have hsep : ',' ≠ '\\' := by decide
  have hends : ∀ p ∈ (write parts :: keys.map String.toList).dropLast, endsEscaped p = false := fun p hp =>
    beq_eq_false_iff_ne.2 (h p hp)
  rw [splitParams, paramsOf, String.toList_ofList, splitParamsBy_eq_scan hsep,
    scanParams_joinParams hsep (List.cons_ne_nil _ _) hends, List.map_cons, List.map_map]
  have hkeys : String.ofList ∘ String.toList = id := funext fun key => String.ofList_toList
  rw [hkeys, List.map_id]

/-- The values of a record at some names, one or more, are put into a written template in the order of the names. -/
theorem sprintfmap_write (fields : List (String × Value)) {parts : List Part} {keys : List String} (hkeys : keys ≠ [])
    (h : ∀ p ∈ (write parts :: keys.map String.toList).dropLast, p.getLast? ≠ some '\\') :
    sprintfmap (.map fields) (paramsOf parts keys) =
      .ok (.string (String.ofList (filled parts (valuesAt fields keys)))) := by
  obtain ⟨key, keys, rfl⟩ := List.exists_cons_of_ne_nil hkeys
  have hexpand := expand_write parts (valuesAt fields (key :: keys))
  rw [sprintfmap, splitParams_paramsOf h]
  dsimp only
  rw [valuesAt] at hexpand
  rw [hexpand]
  rfl

/-- **A written template is filled in faithfully**: its texts stand as they are meant, the places take the texts of the
arguments in their order, each as wide as it is to be, or say that there is no argument; arguments without a place change
nothing, and the values of a record are arguments like any others. -/
theorem template_faithful :
    (∀ (parts : List Part) (args : List (Option Value)),
      expand (String.ofList (write parts)) args = .ok (String.ofList (filled parts args))) ∧
    (∀ (p : Place) (cs : List Char), (p.fill cs).length = max p.size cs.length) ∧
    (∀ (parts : List Part) (args more : List (Option Value)), places parts ≤ args.length →
      expand (String.ofList (write parts)) (args ++ more) = expand (String.ofList (write parts)) args) ∧
    ∀ (fields : List (String × Value)) (parts : List Part) (keys : List String), keys ≠ [] →
      (∀ p ∈ (write parts :: keys.map String.toList).dropLast, p.getLast? ≠ some '\\') →
      sprintfmap (.map fields) (paramsOf parts keys) =
        .ok (.string (String.ofList (filled parts (valuesAt fields keys)))) := by
  refine ⟨expand_write, Place.length_fill, fun parts args more h => ?_, fun fields parts keys hkeys h => ?_⟩
  · rw [expand_write, expand_write, filled_append parts args more h]
  · exact sprintfmap_write fields hkeys h

/-- A text that ends in a percent sign before a place, a place at the left of four characters, and one without a field. -/
theorem template_faithful_record :
    let four : Width := ⟨4, by decide, by decide⟩
    let parts : List Part := [.text ['%'], .place ⟨.s, true, some four⟩, .text ['1'], .place ⟨.v, false, none⟩]
    ["a", "b"] ≠ [] ∧ (∀ p ∈ (write parts :: ["a", "b"].map String.toList).dropLast, p.getLast? ≠ some '\\') ∧
    places parts ≤ 2 ∧ paramsOf parts ["a", "b"] = "%%%-4s1%v,a,b" ∧
    sprintfmap (.map [("a", .string "%d")]) "%%%-4s1%v,a,b" = .ok (.string "%%d  1<nil>") ∧
    expand "%%%-4s1%v" [some (.string "%d"), none, none] = expand "%%%-4s1%v" [some (.string "%d"), none] := by
  intro four parts
  have hkeys : ["a", "b"] ≠ [] := by decide
  have hends : ∀ p ∈ (write parts :: ["a", "b"].map String.toList).dropLast, p.getLast? ≠ some '\\' := by decide
  have hplaces : places parts ≤ 2 := by decide
  have hparams : paramsOf parts ["a", "b"] = "%%%-4s1%v,a,b" := by decide
  have hwritten : String.ofList (write parts) = "%%%-4s1%v" := by decide
  have hrecord := template_faithful.2.2.2 [("a", .string "%d")] parts ["a", "b"] hkeys hends
  have hmore := template_faithful.2.2.1 parts [some (.string "%d"), none] [none] hplaces
  rw [hparams] at hrecord
  rw [hwritten] at hmore
  exact ⟨hkeys, hends, hplaces, hparams, hrecord, hmore⟩

end Harvest.Filter.Template
