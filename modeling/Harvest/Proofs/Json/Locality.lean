import Harvest.Json.Source
import Harvest.Text.Blank
import Mathlib.Data.List.TakeDrop
import Mathlib.Data.List.TakeWhile
/-!
# What a value takes of a text

The value at the head of a JSON text takes the same characters whatever follows it; of what follows a scalar the first
character counts, and of what follows an array or an object nothing does (`value_taken`).
-/
namespace Harvest.Json

namespace Source

variable {α : Type}

/-! ## White space and digits -/

theorem head?_append {p rest rest' : List Char} (h : rest'.head? = rest.head?) :
    (p ++ rest').head? = (p ++ rest).head? := by
  cases p with
  | nil => exact h
  | cons c cs => rfl

/-- What is skipped before a text does not depend on what follows the text. -/
theorem skip_append {cs q rest : List Char} {c : Char} (h : skip cs = q ++ c :: rest) :
    ∃ sp, cs = sp ++ (q ++ c :: rest) ∧ ∀ rest', skip (sp ++ (q ++ c :: rest')) = q ++ c :: rest' := by
  have hsp : ∀ d ∈ cs.takeWhile isSpace, isSpace d = true := fun d hd => List.mem_takeWhile_imp hd
  have hhead : ∀ d ∈ (q ++ c :: rest).head?, isSpace d = false := by
    rw [← h]
    intro d hd
    have hnot := List.head?_dropWhile_not isSpace cs
    unfold skip at hd
    rw [Option.mem_def.1 hd] at hnot
    simpa using hnot
  refine ⟨cs.takeWhile isSpace, ?_, fun rest' => ?_⟩
  · rw [← h]
    exact (List.takeWhile_append_dropWhile ..).symm
  · unfold skip
    rw [List.dropWhile_append_of_pos hsp]
    cases q with
    | nil => exact List.dropWhile_cons_of_neg (by simp [hhead c rfl])
    | cons d ds => exact List.dropWhile_cons_of_neg (by simp [hhead d rfl])

theorem skip_cons {cs rest : List Char} {c : Char} (h : skip cs = c :: rest) :
    ∃ sp, cs = sp ++ c :: rest ∧ ∀ rest', skip (sp ++ c :: rest') = c :: rest' := skip_append (q := []) h

theorem span_append {q : Char → Bool} {cs p rest : List Char} (h : cs.span q = (p, rest)) :
    cs = p ++ rest ∧ ∀ rest', rest'.head? = rest.head? → (p ++ rest').span q = (p, rest') := by
  rw [List.span_eq_takeWhile_dropWhile] at h
  obtain ⟨rfl, rfl⟩ := Prod.mk.inj h
  refine ⟨(List.takeWhile_append_dropWhile ..).symm, fun rest' hrest => ?_⟩
  have hp : ∀ d ∈ cs.takeWhile q, q d = true := fun d hd => List.mem_takeWhile_imp hd
  have hhead := List.head?_dropWhile_not q cs
  rw [← hrest] at hhead
  rw [List.span_eq_takeWhile_dropWhile, List.takeWhile_append_of_pos hp, List.dropWhile_append_of_pos hp]
  cases rest' with
  | nil => simp
  | cons d ds =>
    have hd : q d = false := by simpa using hhead
    rw [List.takeWhile_cons_of_neg (by simp [hd]), List.dropWhile_cons_of_neg (by simp [hd]), List.append_nil]

/-! ## Strings and numbers -/

/-- A string's codes end at its quote, whatever follows. -/
theorem codes_append {acc ns : List Nat} {cs rest : List Char} (h : codes? acc cs = some (ns, rest)) :
    ∃ p, cs = p ++ rest ∧ ∀ rest', codes? acc (p ++ rest') = some (ns, rest') := by
  fun_induction codes? acc cs with
  | case1 => cases h
  | case2 acc rest' =>
    cases h
    exact ⟨['"'], rfl, fun _ => rfl⟩
  | case3 acc a b c d r n hn ih =>
    obtain ⟨p, rfl, hp⟩ := ih h
    refine ⟨'\\' :: 'u' :: a :: b :: c :: d :: p, rfl, fun rest' => ?_⟩
    simp only [List.cons_append, codes?, hn, hp]
  | case4 => cases h
  | case5 acc e r hu c hc ih =>
    obtain ⟨p, rfl, hp⟩ := ih h
    refine ⟨'\\' :: e :: p, rfl, fun rest' => ?_⟩
    have he : e ≠ 'u' := by
      rintro rfl
      cases hc
    rw [List.cons_append, List.cons_append, codes?.eq_4 _ _ _ (fun _ _ _ _ _ h => absurd h he), hc]
    exact hp rest'
  | case6 => cases h
  | case7 => cases h
  | case8 acc c r hq hu he hc ih =>
    obtain ⟨p, rfl, hp⟩ := ih h
    refine ⟨c :: p, rfl, fun rest' => ?_⟩
    have hb : c ≠ '\\' := by
      rintro rfl
      exact hc (by simp)
    rw [List.cons_append, codes?.eq_5 _ _ _ hq (fun _ _ _ _ _ h => absurd h hb) (fun _ _ h => absurd h hb), if_neg hc]
    exact hp rest'

theorem string_append {cs rest : List Char} {s : Option String} (h : string? cs = some (s, rest)) :
    ∃ p, cs = p ++ rest ∧ ∀ rest', string? (p ++ rest') = some (s, rest') := by
  unfold string? at h
  obtain ⟨⟨ns, r⟩, hcodes, h⟩ := Option.map_eq_some_iff.1 h
  cases h
  obtain ⟨p, rfl, hp⟩ := codes_append hcodes
  refine ⟨p, rfl, fun rest' => ?_⟩
  unfold string?
  rw [hp]
  rfl

/-- Of the text behind what a reader takes only the first character counts. -/
def Near (read : List Char → Option (α × List Char)) : Prop :=
  ∀ cs a rest, read cs = some (a, rest) →
    ∃ p, cs = p ++ rest ∧ ∀ rest', rest'.head? = rest.head? → read (p ++ rest') = some (a, rest')

theorem near_some (a : α) : Near fun cs => some (a, cs) := by
  intro cs b rest h
  cases h
  exact ⟨[], rfl, fun _ _ => rfl⟩

theorem near_none (α : Type) : Near fun _ => (none : Option (α × List Char)) := fun _ _ _ h => nomatch h

theorem near_option {β : Type} {o : Option β} {f : β → List Char → Option (α × List Char)} (hf : ∀ b, Near (f b)) :
    Near fun cs => o.bind fun b => f b cs := by
  cases o with
  | none => exact near_none α
  | some b => exact hf b

theorem near_ite {p : Prop} [Decidable p] {r r' : List Char → Option (α × List Char)} (hr : Near r) (hr' : Near r') :
    Near fun cs => if p then r cs else r' cs := by
  split
  · exact hr
  · exact hr'

theorem near_span (q : Char → Bool) : Near fun cs => some (cs.span q) := by
  intro cs p rest h
  obtain ⟨h, hp⟩ := span_append (Option.some.inj h)
  exact ⟨p, h, fun rest' hrest => congrArg some (hp rest' hrest)⟩

theorem Near.bind {β : Type} {r : List Char → Option (α × List Char)} {f : α → List Char → Option (β × List Char)}
    (hr : Near r) (hf : ∀ a, Near (f a)) : Near fun cs => (r cs).bind fun x => f x.1 x.2 := by
  intro cs b rest h
  obtain ⟨⟨a, mid⟩, ha, hb⟩ := Option.bind_eq_some_iff.1 h
  obtain ⟨p, rfl, hp⟩ := hr _ _ _ ha
  obtain ⟨p', rfl, hp'⟩ := hf a _ _ _ hb
  refine ⟨p ++ p', (List.append_assoc ..).symm, fun rest' hrest => ?_⟩
  simp only [List.append_assoc, hp _ (head?_append hrest), Option.bind_some, hp' _ hrest]

def sign (cs : List Char) : Bool × List Char :=
  match cs with
  | '-' :: r => (true, r)
  | '+' :: r => (false, r)
  | r => (false, r)

/-- The digits behind a point, if one follows. -/
def fraction? (cs : List Char) : Option (List Char × List Char) :=
  match cs with
  | '.' :: r => (some (r.span Text.Numeral.isDigit)).bind fun x => if x.1.isEmpty then none else some x
  | r => some ([], r)

/-- A first character that is not `e` does not start an exponent. -/
theorem exponent?_eq (cs : List Char) :
    exponent? cs = match cs with
      | e :: r =>
        if e == 'e' || e == 'E' then
          (some (sign r)).bind fun x => (some (x.2.span Text.Numeral.isDigit)).bind fun y =>
            (Text.Numeral.natural? y.1).bind fun n => some (some (if x.1 then -(n : Int) else n), y.2)
        else some (none, cs)
      | [] => some (none, cs) := by
  cases cs with
  | nil => rfl
  | cons e r =>
    unfold exponent? sign
    simp only [Option.bind_some]
    split
    · cases Text.Numeral.natural? _ <;> rfl
    · rfl

theorem fraction?_of_ne {cs : List Char} (h : ∀ r, cs ≠ '.' :: r) : fraction? cs = some ([], cs) := by
  unfold fraction?
  split
  · exact absurd rfl (h _)
  · rfl

theorem number?_eq (negative : Bool) (cs : List Char) :
    number? negative cs = (some (cs.span Text.Numeral.isDigit)).bind fun x =>
      if x.1.isEmpty || (x.1.length > 1 && x.1.head? == some '0') then none
      else (fraction? x.2).bind fun y => (exponent? y.2).bind fun z =>
        some (.number ⟨negative, x.1, y.1, z.1⟩, z.2) := by
  unfold number?
  simp only [Option.pure_def, Option.bind_eq_bind, Option.bind_some]
  split
  · rfl
  · split
    · rename_i r hr
      rw [hr]
      unfold fraction?
      simp only [Option.bind_some]
      split <;> rfl
    · rename_i hr
      rw [fraction?_of_ne hr]
      rfl

/-- A reader that goes on behind some first characters, and takes nothing where there is none of them. -/
theorem near_head {read : List Char → Option (α × List Char)} {q : Char → Bool}
    {f : Char → List Char → Option (α × List Char)} {a : α} (hf : ∀ c, Near (f c))
    (hcons : ∀ c cs, q c = true → read (c :: cs) = f c cs)
    (hother : ∀ cs : List Char, (∀ c ∈ cs.head?, q c = false) → read cs = some (a, cs)) : Near read := by
  intro cs b rest h
  by_cases hhead : ∀ c ∈ cs.head?, q c = false
  · rw [hother cs hhead] at h
    cases h
    exact ⟨[], rfl, fun rest' hrest => hother rest' (hrest ▸ hhead)⟩
  · cases cs with
    | nil => exact absurd (fun c hc => nomatch hc) hhead
    | cons c r =>
      have hc : q c = true := by simpa using hhead
      rw [hcons c r hc] at h
      obtain ⟨p, rfl, hp⟩ := hf c r b rest h
      refine ⟨c :: p, rfl, fun rest' hrest => ?_⟩
      rw [List.cons_append, hcons c _ hc]
      exact hp rest' hrest

theorem near_sign : Near fun cs => some (sign cs) := by
  refine near_head (q := fun c => c == '-' || c == '+') (f := fun c cs => some (c == '-', cs)) (a := false)
    (fun c => near_some _) (fun c cs hc => ?_) fun cs hcs => ?_
  · rcases Bool.or_eq_true_iff.1 hc with hc | hc
    · rw [eq_of_beq hc]
      rfl
    · rw [eq_of_beq hc]
      rfl
  · unfold sign
    split
    · cases hcs '-' rfl
    · cases hcs '+' rfl
    · rfl

theorem near_fraction : Near fraction? := by
  have hdigits := (near_span Text.Numeral.isDigit).bind (f := fun ds cs => if ds.isEmpty then none else some (ds, cs))
    fun ds => near_ite (near_none _) (near_some ds)
  refine near_head (q := (· == '.')) (a := []) (fun _ => hdigits) (fun c cs hc => ?_) fun cs hcs => ?_
  · rw [eq_of_beq hc]
    rfl
  · refine fraction?_of_ne fun r hr => ?_
    subst hr
    cases hcs '.' rfl

theorem near_exponent : Near exponent? := by
  have hdigits := fun negative : Bool => (near_span Text.Numeral.isDigit).bind
    (f := fun ds cs => (Text.Numeral.natural? ds).bind fun n => some (some (if negative then -(n : Int) else n), cs))
    fun ds => near_option fun n => near_some _
  refine near_head (q := fun e => e == 'e' || e == 'E') (a := none) (fun _ => near_sign.bind hdigits)
    (fun e cs he => ?_) fun cs hcs => ?_
  · rw [exponent?_eq]
    simp only [he]
    rfl
  · rw [exponent?_eq]
    cases cs with
    | nil => rfl
    | cons e r => simp only [hcs e rfl]; rfl

theorem near_number (negative : Bool) : Near (number? negative) := by
  have hpart : ∀ whole part, Near fun cs => (exponent? cs).bind fun z =>
      some (number ⟨negative, whole, part, z.1⟩, z.2) :=
    fun whole part => near_exponent.bind fun e => near_some (number ⟨negative, whole, part, e⟩)
  have hwhole : ∀ whole, Near fun cs => (fraction? cs).bind fun y => (exponent? y.2).bind fun z =>
      some (number ⟨negative, whole, y.1, z.1⟩, z.2) := fun whole => near_fraction.bind (hpart whole)
  have hguard : ∀ whole : List Char, Near fun cs =>
      if whole.isEmpty || (whole.length > 1 && whole.head? == some '0') then none
      else (fraction? cs).bind fun y => (exponent? y.2).bind fun z => some (number ⟨negative, whole, y.1, z.1⟩, z.2) :=
    fun whole => near_ite (near_none _) (hwhole whole)
  rw [funext (number?_eq negative)]
  exact (near_span Text.Numeral.isDigit).bind hguard

theorem near_word (word : List Char) (s : Source) : Near (word? word s) := by
  intro cs b rest h
  unfold word? at h
  split at h
  · rename_i hp
    cases h
    obtain ⟨r, rfl⟩ := List.isPrefixOf_iff_prefix.1 hp
    rw [List.drop_left]
    refine ⟨word, rfl, fun rest' _ => ?_⟩
    unfold word?
    rw [if_pos (List.isPrefixOf_iff_prefix.2 (List.prefix_append ..)), List.drop_left]
  · cases h

/-! ## Values -/

def isComposite : Source → Bool
  | array _ => true
  | object _ => true
  | _ => false

def Enclosed (p : List Char) : Prop := ∃ o q c, p = o :: (q ++ [c]) ∧ o ∈ ['[', '{'] ∧ c ∈ [']', '}']

/-- The text `p` is read as a value, whatever follows it: of that only the first character counts, and behind a
composite not even it. -/
structure Holds (p : List Char) (s : Source) (head : Option Char) : Prop where
  enclosed : s.isComposite = true → Enclosed p
  reads : ∀ rest fuel, (s.isComposite = false → rest.head? = head) → p.length < fuel →
    value? fuel (p ++ rest) = some (s, rest)

theorem holds_of_near {read : List Char → Option (Source × List Char)} (hread : Near read) {cs rest : List Char}
    {s : Source} (hs : s.isComposite = false) (h : read cs = some (s, rest)) {f : List Char}
    (hvalue : ∀ fuel cs', cs'.head? = cs.head? → value? (fuel + 1) (f ++ cs') = read cs') :
    ∃ p, f ++ cs = p ++ rest ∧ Holds p s rest.head? := by
  obtain ⟨p, rfl, hp⟩ := hread _ _ _ h
  refine ⟨f ++ p, (List.append_assoc ..).symm, fun hc => ?_, fun rest' fuel hrest hfuel => ?_⟩
  · rw [hs] at hc
    cases hc
  · cases fuel with
    | zero => omega
    | succ fuel =>
      rw [List.append_assoc, hvalue fuel _ (head?_append (hrest hs))]
      exact hp rest' (hrest hs)

theorem near_string : Near fun cs => (string? cs).map fun p => (string p.1, p.2) := by
  intro cs s rest h
  obtain ⟨⟨t, r⟩, ht, h⟩ := Option.map_eq_some_iff.1 h
  cases h
  obtain ⟨p, rfl, hp⟩ := string_append ht
  exact ⟨p, rfl, fun rest' _ => by simp only [hp, Option.map_some]⟩

theorem number?_scalar {negative : Bool} {cs rest : List Char} {s : Source} (h : number? negative cs = some (s, rest)) :
    s.isComposite = false := by
  rw [number?_eq, Option.bind_some] at h
  split at h
  · cases h
  · obtain ⟨_, _, h⟩ := Option.bind_eq_some_iff.1 h
    obtain ⟨_, _, h⟩ := Option.bind_eq_some_iff.1 h
    cases h
    rfl

theorem word?_eq_some {word cs rest : List Char} {s t : Source} (h : word? word s cs = some (t, rest)) : t = s := by
  unfold word? at h
  split at h
  · cases h
    rfl
  · cases h

/-- A text without a bracket in front is read as a scalar. -/
theorem scalar_holds {fuel : Nat} {cs rest : List Char} {s : Source} (h : value? (fuel + 1) cs = some (s, rest))
    (hopen : ∀ r, cs ≠ '[' :: r ∧ cs ≠ '{' :: r) : ∃ p, cs = p ++ rest ∧ Holds p s rest.head? := by
  have hword : ∀ {w : List Char} {t : Source} {c : Char} {r : List Char}, cs = c :: r → t.isComposite = false →
      (∀ fuel r, value? (fuel + 1) (c :: r) = word? w t (c :: r)) → word? w t (c :: r) = some (s, rest) →
      ∃ p, cs = p ++ rest ∧ Holds p s rest.head? := by
    intro w t c r hcs ht hvalue hw
    subst hcs
    refine holds_of_near (near_word w t) (word?_eq_some hw ▸ ht) hw (f := []) fun fuel cs' hcs' => ?_
    obtain ⟨r', rfl⟩ := List.head?_eq_some_iff.1 hcs'
    exact hvalue fuel r'
  unfold value? at h
  split at h
  · cases h
  · rename_i r
    obtain ⟨⟨t, r'⟩, ht, h⟩ := Option.map_eq_some_iff.1 h
    cases h
    have hread : (string? r).map (fun p => (string p.1, p.2)) = some (string t, r') := by
      rw [ht]
      rfl
    exact holds_of_near near_string rfl hread (f := ['"']) fun _ _ _ => rfl
  · exact absurd rfl (hopen _).1
  · exact absurd rfl (hopen _).2
  · rename_i r
    exact holds_of_near (near_number true) (number?_scalar h) h (f := ['-']) fun _ _ _ => rfl
  · exact hword rfl rfl (fun _ _ => rfl) h
  · exact hword rfl rfl (fun _ _ => rfl) h
  · exact hword rfl rfl (fun _ _ => rfl) h
  · rename_i hnil hq ho hc hm hn ht hf
    refine holds_of_near (near_number false) (number?_scalar h) h (f := []) fun fuel cs' hcs' => ?_
    have hne : ∀ {c r}, (∀ r, cs = c :: r → False) → cs' ≠ c :: r := by
      rintro c r hcs rfl
      obtain ⟨r', hr'⟩ := List.head?_eq_some_iff.1 hcs'.symm
      exact hcs r' hr'
    show value? (fuel + 1) cs' = number? false cs'
    unfold value?
    split
    · exact (hnil (List.head?_eq_none_iff.1 hcs'.symm)).elim
    · exact absurd rfl (hne hq)
    · exact absurd rfl (hne ho)
    · exact absurd rfl (hne hc)
    · exact absurd rfl (hne hm)
    · exact absurd rfl (hne hn)
    · exact absurd rfl (hne ht)
    · exact absurd rfl (hne hf)
    · rfl

/-- The text `p` with a closing bracket behind it is read as `a`, whatever follows. -/
def Closes (read : Nat → List Char → Option (α × List Char)) (close : Char) (p : List Char) (a : α) : Prop :=
  ∀ rest fuel, p.length + 1 < fuel → read fuel (p ++ close :: rest) = some (a, rest)

/-- A value with a certain character behind it and some white space does not depend on what follows that. -/
theorem Holds.before {p sp rest : List Char} {c : Char} {s : Source} (hp : Holds p s (sp ++ c :: rest).head?)
    (rest' : List Char) {fuel : Nat} (hfuel : p.length < fuel) :
    value? fuel (p ++ (sp ++ c :: rest')) = some (s, sp ++ c :: rest') :=
  hp.reads _ fuel (fun _ => head?_append rfl) hfuel

/-- An array or an object holds what stands between its brackets. -/
theorem composite_taken {β : Type} {o c : Char} {read : Nat → List Char → Option (List β × List Char)}
    {w : List β → Source} (henclosed : ∀ q, Enclosed (o :: (q ++ [c])))
    (hempty : ∀ fuel r rest, skip r = c :: rest → value? (fuel + 1) (o :: r) = some (w [], rest))
    (hfull : ∀ fuel r, (∀ rest, skip r ≠ c :: rest) →
      value? (fuel + 1) (o :: r) = (read fuel (skip r)).map fun x => (w x.1, x.2))
    {fuel : Nat} (hread : ∀ {cs rest items}, read fuel cs = some (items, rest) →
      ∃ p, cs = p ++ c :: rest ∧ Closes read c p items)
    {r rest : List Char} {s : Source} (h : value? (fuel + 1) (o :: r) = some (s, rest)) :
    ∃ p, o :: r = p ++ rest ∧ Holds p s rest.head? := by
  by_cases hskip : ∃ rest, skip r = c :: rest
  · obtain ⟨rest', hskip⟩ := hskip
    rw [hempty _ _ _ hskip] at h
    cases h
    obtain ⟨sp, rfl, hsp⟩ := skip_cons hskip
    refine ⟨o :: (sp ++ [c]), by simp, fun _ => henclosed sp, fun rest' fuel' _ hfuel => ?_⟩
    obtain ⟨f, rfl⟩ := Nat.exists_eq_add_one_of_ne_zero (Nat.ne_zero_of_lt hfuel)
    rw [List.cons_append, List.append_assoc]
    exact hempty f _ rest' (hsp rest')
  · have hopen : ∀ rest, skip r ≠ c :: rest := fun rest hr => hskip ⟨rest, hr⟩
    rw [hfull _ _ hopen] at h
    obtain ⟨⟨items, _⟩, hitems, h⟩ := Option.map_eq_some_iff.1 h
    cases h
    obtain ⟨p, hp, hcloses⟩ := hread hitems
    rw [hp] at hopen
    obtain ⟨sp, rfl, hsp⟩ := skip_append hp
    refine ⟨o :: (sp ++ (p ++ [c])), by simp, fun _ => ?_, fun rest' fuel' _ hfuel => ?_⟩
    · rw [← List.append_assoc]
      exact henclosed (sp ++ p)
    · obtain ⟨f, rfl⟩ := Nat.exists_eq_add_one_of_ne_zero (Nat.ne_zero_of_lt hfuel)
      simp only [List.length_cons, List.length_append, List.length_nil] at hfuel
      have hne : ∀ rest'', skip (sp ++ (p ++ c :: rest')) ≠ c :: rest'' := by
        intro rest'' hr
        rw [hsp] at hr
        cases p with
        | nil => exact hopen _ rfl
        | cons d ds =>
          obtain ⟨rfl, -⟩ := List.cons.inj hr
          exact hopen _ rfl
      simp only [List.cons_append, List.append_assoc, List.nil_append]
      rw [hfull f _ hne, hsp, hcloses rest' f (by omega)]
      rfl

mutual
/-- **A value takes the same characters whatever follows it.** -/
theorem value_taken : ∀ {fuel : Nat} {cs rest : List Char} {s : Source}, value? fuel cs = some (s, rest) →
    ∃ p, cs = p ++ rest ∧ Holds p s rest.head?
  | fuel + 1, cs, rest, s, h => by
    by_cases harray : ∃ r, cs = '[' :: r
    · obtain ⟨r, rfl⟩ := harray
      refine composite_taken (c := ']') (w := array) (fun q => ⟨_, q, _, rfl, by decide, by decide⟩)
        (fun f r rest hr => ?_) (fun f r hr => ?_) items_taken h
      · simp only [value?, hr]
      · simp only [value?]
    · by_cases hobject : ∃ r, cs = '{' :: r
      · obtain ⟨r, rfl⟩ := hobject
        refine composite_taken (c := '}') (w := object) (fun q => ⟨_, q, _, rfl, by decide, by decide⟩)
          (fun f r rest hr => ?_) (fun f r hr => ?_) fields_taken h
        · simp only [value?, hr]
        · simp only [value?]
      · exact scalar_holds h fun r => ⟨fun hr => harray ⟨r, hr⟩, fun hr => hobject ⟨r, hr⟩⟩

theorem items_taken : ∀ {fuel : Nat} {cs rest : List Char} {items : List Source},
    items? fuel cs = some (items, rest) → ∃ p, cs = p ++ ']' :: rest ∧ Closes items? ']' p items
  | fuel + 1, cs, rest, items, h => by
    unfold items? at h
    split at h
    · cases h
    · rename_i item r hitem
      obtain ⟨p, rfl, hp⟩ := value_taken hitem
      split at h
      · rename_i r' hr'
        cases h
        obtain ⟨sp, rfl, hsp⟩ := skip_cons hr'
        refine ⟨p ++ sp, by simp, fun rest' fuel' hfuel => ?_⟩
        obtain ⟨f, rfl⟩ := Nat.exists_eq_add_one_of_ne_zero (Nat.ne_zero_of_lt hfuel)
        have hf : p.length < f := by simp only [List.length_append] at hfuel; omega
        simp only [items?, List.append_assoc, hp.before rest' hf, hsp]
      · rename_i r' hr'
        obtain ⟨⟨items, _⟩, hitems, h⟩ := Option.map_eq_some_iff.1 h
        cases h
        obtain ⟨sp, rfl, hsp⟩ := skip_cons hr'
        obtain ⟨q, hq, hread⟩ := items_taken hitems
        obtain ⟨sp', rfl, hsp'⟩ := skip_append hq
        refine ⟨p ++ (sp ++ ',' :: (sp' ++ q)), by simp, fun rest' fuel' hfuel => ?_⟩
        obtain ⟨f, rfl⟩ := Nat.exists_eq_add_one_of_ne_zero (Nat.ne_zero_of_lt hfuel)
        simp only [List.length_append, List.length_cons] at hfuel
        have hp := hp.before (sp' ++ (q ++ ']' :: rest')) (show p.length < f by omega)
        simp only [items?, List.append_assoc, List.cons_append, hp, hsp, hsp', hread rest' f (by omega),
          Option.map_some]
      · cases h

theorem fields_taken : ∀ {fuel : Nat} {cs rest : List Char} {fields : List (Option String × Source)},
    fields? fuel cs = some (fields, rest) → ∃ p, cs = p ++ '}' :: rest ∧ Closes fields? '}' p fields
  | fuel + 1, cs, rest, fields, h => by
    unfold fields? at h
    split at h
    · rename_i r
      split at h
      · cases h
      · rename_i name r hname
        obtain ⟨n, rfl, hn⟩ := string_append hname
        split at h
        · rename_i r hr
          obtain ⟨sp, rfl, hsp⟩ := skip_cons hr
          split at h
          · cases h
          · rename_i item r hitem
            obtain ⟨p, hp', hp⟩ := value_taken hitem
            split at h
            · rename_i r' hr'
              cases h
              obtain ⟨sp₁, rfl, hsp₁⟩ := skip_cons hr'
              rw [← List.append_assoc] at hp'
              obtain ⟨sp₂, rfl, hsp₂⟩ := skip_append hp'
              refine ⟨'"' :: (n ++ (sp ++ ':' :: (sp₂ ++ (p ++ sp₁)))), by simp, fun rest' fuel' hfuel => ?_⟩
              obtain ⟨f, rfl⟩ := Nat.exists_eq_add_one_of_ne_zero (Nat.ne_zero_of_lt hfuel)
              simp only [List.length_append, List.length_cons] at hfuel
              have hp := hp.before rest' (show p.length < f by omega)
              simp only [List.append_assoc] at hsp₂
              simp only [fields?, List.append_assoc, List.cons_append, hn, hsp, hsp₂, hp, hsp₁]
            · rename_i r' hr'
              obtain ⟨⟨fields, _⟩, hfields, h⟩ := Option.map_eq_some_iff.1 h
              cases h
              obtain ⟨sp₁, rfl, hsp₁⟩ := skip_cons hr'
              rw [← List.append_assoc] at hp'
              obtain ⟨sp₂, rfl, hsp₂⟩ := skip_append hp'
              obtain ⟨q, hq, hread⟩ := fields_taken hfields
              obtain ⟨sp₃, rfl, hsp₃⟩ := skip_append hq
              refine ⟨'"' :: (n ++ (sp ++ ':' :: (sp₂ ++ (p ++ (sp₁ ++ ',' :: (sp₃ ++ q)))))), by simp,
                fun rest' fuel' hfuel => ?_⟩
              obtain ⟨f, rfl⟩ := Nat.exists_eq_add_one_of_ne_zero (Nat.ne_zero_of_lt hfuel)
              simp only [List.length_append, List.length_cons] at hfuel
              have hp := hp.before (sp₃ ++ (q ++ '}' :: rest')) (show p.length < f by omega)
              simp only [List.append_assoc] at hsp₂
              simp only [fields?, List.append_assoc, List.cons_append, hn, hsp, hsp₂, hp, hsp₁, hsp₃,
                hread rest' f (by omega), Option.map_some]
            · cases h
        · cases h
    · cases h
end

/-! ## Texts -/

theorem Enclosed.head {p : List Char} (h : Enclosed p) {q : Char → Bool} (hbracket : q '[' = false)
    (hbrace : q '{' = false) : ∀ c ∈ p.head?, q c = false := by
  obtain ⟨o, r, c, rfl, ho, -⟩ := h
  intro d hd
  cases hd
  simp only [List.mem_cons, List.not_mem_nil, or_false] at ho
  rcases ho with rfl | rfl
  · exact hbracket
  · exact hbrace

theorem Enclosed.last {p : List Char} (h : Enclosed p) {q : Char → Bool} (hbracket : q ']' = false)
    (hbrace : q '}' = false) : ∀ c ∈ p.getLast?, q c = false := by
  obtain ⟨o, r, c, rfl, -, hc⟩ := h
  intro d hd
  rw [← List.cons_append, List.getLast?_concat] at hd
  cases hd
  simp only [List.mem_cons, List.not_mem_nil, or_false] at hc
  rcases hc with rfl | rfl
  · exact hbracket
  · exact hbrace

theorem isBlank_of_isSpace {c : Char} (h : isSpace c = true) : Text.isBlank c = true := by
  simp only [isSpace, Bool.or_eq_true, beq_iff_eq] at h
  rcases h with ((rfl | rfl) | rfl) | rfl <;> rfl

/-- **The text of an array or object without the white space around it is read as the same.** -/
theorem parse?_trimBlank {cs : List Char} {s : Source} (h : parse? cs = some s) (hs : s.isComposite = true) :
    parse? (Text.trimBlank cs) = some s := by
  unfold parse? at h
  split at h
  · rename_i s' rest hvalue
    split at h
    · rename_i hrest
      cases h
      obtain ⟨p, hp, hholds⟩ := value_taken hvalue
      have hp' := hholds.enclosed hs
      have htrim : Text.trimBlank cs = p := by
        have hsp : ∀ c ∈ cs.takeWhile isSpace, Text.isBlank c = true := fun c hc =>
          isBlank_of_isSpace (List.mem_takeWhile_imp hc)
        have hback : ∀ c ∈ rest, Text.isBlank c = true := fun c hc =>
          isBlank_of_isSpace (List.dropWhile_eq_nil_iff.1 (List.isEmpty_iff.1 hrest) c hc)
        have hcs : cs = cs.takeWhile isSpace ++ (p ++ rest) := by
          rw [← hp]
          exact (List.takeWhile_append_dropWhile ..).symm
        rw [hcs]
        exact Text.trimBy_append hsp hback (hp'.head rfl rfl) (hp'.last rfl rfl)
      have hskip : skip p = p := by
        have hspace := hp'.head (q := isSpace) rfl rfl
        obtain ⟨o, q, c, rfl, -, -⟩ := hp'
        exact List.dropWhile_cons_of_neg (by simp [hspace o rfl])
      have hread := hholds.reads [] (p.length + 1) (fun hc => by rw [hs] at hc; cases hc) (Nat.lt_succ_self _)
      rw [List.append_nil] at hread
      unfold parse?
      rw [htrim, hskip, hread]
      rfl
    · cases h
  · cases h

end Source

/-- **The text of an array or object without the white space around it reads as the same.** -/
theorem parse?_trimBlank {cs : List Char} {j : Json} (h : parse? cs = some j) (hj : j.container? = some j) :
    parse? (Text.trimBlank cs) = some j := by
  obtain ⟨s, hs, hof⟩ := Option.bind_eq_some_iff.1 h
  have hcomposite : s.isComposite = true := by
    cases s with
    | array items => rfl
    | object fields => rfl
    | null => cases hof; cases hj
    | bool b => cases hof; cases hj
    | number l =>
      obtain ⟨n, -, rfl⟩ := Option.map_eq_some_iff.1 hof
      cases hj
    | string t =>
      obtain ⟨u, -, rfl⟩ := Option.map_eq_some_iff.1 hof
      cases hj
  unfold parse?
  rw [Source.parse?_trimBlank hs hcomposite]
  exact hof

end Harvest.Json
