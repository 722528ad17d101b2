import Harvest.Filter.Paging
import Harvest.Proofs.Text.Numeral
import Harvest.Proofs.Text.Substitute
/-!
# Placeholders of a page

The offset of a page and that of the next one are put in the places of their marks one after the other.  This is one
pass over the template unless the first offset is `1`: between the inner braces of `{{0}}` it makes the other mark,
which gives way to the next offset too (`placeholders_exact`).
-/
namespace Harvest.Filter.Paging

open Text (substitute markAt? markAt?_cons substitute_mark substitute_cons)
open Text.Numeral (ofInt)

/-- The mark of the page in braces of its own. -/
def wrappedMark : String := "\x7b\x7b0\x7d\x7d"

theorem toList_pageMark : pageMark.toList = ['\x7b', '0', '\x7d'] := by decide

theorem toList_nextMark : nextMark.toList = ['\x7b', '1', '\x7d'] := by decide

theorem toList_wrappedMark : wrappedMark.toList = '\x7b' :: (pageMark.toList ++ ['\x7d']) := by decide

/-- The marks with the texts that are meant for them: of the first offset and of the next. -/
def marksOf (x y : List Char) : List (List Char × List Char) := [(pageMark.toList, x), (nextMark.toList, y)]

/-- The marks that replacing one offset after the other comes to. -/
def marksTaken (x y : List Char) : List (List Char × List Char) :=
  if x = ['1'] then (wrappedMark.toList, y) :: marksOf x y else marksOf x y

/-- A text that is not empty and has no braces in it. -/
structure Plain (x : List Char) : Prop where
  ne_nil : x ≠ []
  opening : '\x7b' ∉ x
  closing : '\x7d' ∉ x

theorem plain_ofInt (n : Int) : Plain (ofInt n).toList := by
  have hbrace : ∀ c ∈ (ofInt n).toList, c ≠ '\x7b' ∧ c ≠ '\x7d' := by
    intro c hc
    rcases Text.Numeral.of_mem_ofInt hc with hdigit | rfl
    · constructor <;> rintro rfl <;> cases hdigit
    · decide
  exact ⟨Text.Numeral.ofInt_ne_nil n, fun h => (hbrace _ h).1 rfl, fun h => (hbrace _ h).2 rfl⟩

variable {x y cs rest : List Char}

/-! ## One replacement -/

/-- A pass leaves a text in front as it is in which no mark can begin. -/
theorem substitute_plain {mark put : List Char} {c : Char} : ∀ {x : List Char}, c ∉ x →
    substitute [(c :: mark, put)] (x ++ cs) = x ++ substitute [(c :: mark, put)] cs
  | [], _ => rfl
  | d :: x, h => by
    obtain ⟨hd, hx⟩ := not_or.1 (mt List.mem_cons.2 h)
    have hat : markAt? [(c :: mark, put)] (d :: (x ++ cs)) = none := by
      rw [markAt?_cons, if_neg fun hpre => hd (List.cons_prefix_cons.1 hpre).1]
      rfl
    rw [List.cons_append, substitute_cons hat, substitute_plain hx, List.cons_append]

theorem substitute_page (x rest : List Char) : substitute [(pageMark.toList, x)] (pageMark.toList ++ rest) =
    x ++ substitute [(pageMark.toList, x)] rest := by
  refine substitute_mark ?_ (by decide)
  rw [markAt?_cons, if_pos (List.prefix_append _ _)]

theorem substitute_next (y rest : List Char) : substitute [(nextMark.toList, y)] (nextMark.toList ++ rest) =
    y ++ substitute [(nextMark.toList, y)] rest := by
  refine substitute_mark ?_ (by decide)
  rw [markAt?_cons, if_pos (List.prefix_append _ _)]

theorem substitute_page_cons {c : Char} (h : ¬ pageMark.toList <+: c :: cs) :
    substitute [(pageMark.toList, x)] (c :: cs) = c :: substitute [(pageMark.toList, x)] cs := by
  refine substitute_cons ?_
  rw [markAt?_cons, if_neg h]
  rfl

/-- A character that is in no offset comes from the template. -/
theorem of_substitute_page_eq_cons (hx : x ≠ []) {c : Char} (hc : c ∉ x) {out : List Char}
    (h : substitute [(pageMark.toList, x)] cs = c :: out) :
    ∃ cs', cs = c :: cs' ∧ substitute [(pageMark.toList, x)] cs' = out := by
  by_cases hpre : pageMark.toList <+: cs
  · obtain ⟨rest, rfl⟩ := hpre
    obtain ⟨d, x', rfl⟩ := List.exists_cons_of_ne_nil hx
    rw [substitute_page, List.cons_append] at h
    exact absurd ((List.cons.inj h).1 ▸ List.mem_cons_self) hc
  · cases cs with
    | nil => cases h
    | cons d cs =>
      rw [substitute_page_cons hpre] at h
      obtain ⟨rfl, rfl⟩ := List.cons.inj h
      exact ⟨cs, rfl, rfl⟩

/-- The other mark stands behind a replacement only where it stood before, or where the offset `1` stands between
braces. -/
theorem not_nextMark_of_page (hx : Plain x) {c : Char} (hnext : ¬ nextMark.toList <+: c :: cs)
    (hwrapped : x = ['1'] → ¬ wrappedMark.toList <+: c :: cs) :
    ¬ nextMark.toList <+: c :: substitute [(pageMark.toList, x)] cs := by
  rintro ⟨out, hout⟩
  rw [toList_nextMark] at hout hnext
  obtain ⟨rfl, hone⟩ := List.cons.inj hout
  change '1' :: '\x7d' :: out = _ at hone
  by_cases hpre : pageMark.toList <+: cs
  · obtain ⟨rest, rfl⟩ := hpre
    obtain ⟨d, x', rfl⟩ := List.exists_cons_of_ne_nil hx.ne_nil
    rw [substitute_page, List.cons_append] at hone
    obtain ⟨rfl, hclose⟩ := List.cons.inj hone
    cases x' with
    | nil =>
      obtain ⟨rest', rfl, -⟩ := of_substitute_page_eq_cons hx.ne_nil hx.closing hclose.symm
      refine hwrapped rfl ⟨rest', ?_⟩
      rw [toList_wrappedMark]
      simp
    | cons e x' =>
      have he : '\x7d' = e := (List.cons.inj hclose).1
      exact hx.closing (he ▸ List.mem_cons_of_mem _ List.mem_cons_self)
  · cases cs with
    | nil => cases hone
    | cons d cs =>
      rw [substitute_page_cons hpre] at hone
      obtain ⟨rfl, hclose⟩ := List.cons.inj hone
      obtain ⟨rest, rfl, -⟩ := of_substitute_page_eq_cons hx.ne_nil hx.closing hclose.symm
      exact hnext ⟨rest, rfl⟩

/-! ## Two replacements -/

theorem markAt?_marksOf : markAt? (marksOf x y) cs =
    if pageMark.toList <+: cs then some (pageMark.toList, x)
    else if nextMark.toList <+: cs then some (nextMark.toList, y) else none := by
  rw [marksOf, markAt?_cons, markAt?_cons]
  rfl

theorem markAt?_marksTaken : markAt? (marksTaken x y) cs =
    if x = ['1'] ∧ wrappedMark.toList <+: cs then some (wrappedMark.toList, y) else markAt? (marksOf x y) cs := by
  unfold marksTaken
  by_cases hx : x = ['1']
  · rw [if_pos hx, markAt?_cons]
    simp [hx]
  · rw [if_neg hx, if_neg fun h => hx h.1]

theorem not_wrapped_pageMark (rest : List Char) : ¬ wrappedMark.toList <+: pageMark.toList ++ rest := by
  rw [toList_wrappedMark, toList_pageMark]
  simp

theorem not_mark_nextMark (rest : List Char) :
    ¬ wrappedMark.toList <+: nextMark.toList ++ rest ∧ ¬ pageMark.toList <+: nextMark.toList ++ rest := by
  rw [toList_wrappedMark, toList_pageMark, toList_nextMark]
  simp

theorem substitute_page_wrapped (x rest : List Char) : substitute [(pageMark.toList, x)] (wrappedMark.toList ++ rest) =
    '\x7b' :: (x ++ '\x7d' :: substitute [(pageMark.toList, x)] rest) := by
  have hopen : ¬ pageMark.toList <+: '\x7b' :: (pageMark.toList ++ '\x7d' :: rest) := by
    rw [toList_pageMark]
    simp
  have hclose : ¬ pageMark.toList <+: '\x7d' :: rest := by
    rw [toList_pageMark]
    simp
  rw [toList_wrappedMark, List.cons_append, List.append_assoc, List.singleton_append, substitute_page_cons hopen,
    substitute_page, substitute_page_cons hclose]

theorem substitute_page_next (x rest : List Char) : substitute [(pageMark.toList, x)] (nextMark.toList ++ rest) =
    nextMark.toList ++ substitute [(pageMark.toList, x)] rest := by
  have hopen : ¬ pageMark.toList <+: '\x7b' :: '1' :: '\x7d' :: rest := by
    rw [toList_pageMark]
    simp
  have hplain : ∀ {c cs}, c ≠ '\x7b' → ¬ pageMark.toList <+: c :: cs := by
    intro c cs hc
    rw [toList_pageMark, List.cons_prefix_cons]
    exact fun h => hc h.1.symm
  rw [toList_nextMark, List.cons_append, List.cons_append, List.singleton_append, substitute_page_cons hopen,
    substitute_page_cons (hplain (by decide)), substitute_page_cons (hplain (by decide))]
  rfl

/-- A template is empty or starts with a mark, that in braces only if `p` holds, or with a character that starts none. -/
theorem template_induction {motive : List Char → Prop} (p : Prop) (nil : motive [])
    (wrapped : ∀ rest, p → motive rest → motive (wrappedMark.toList ++ rest))
    (page : ∀ rest, motive rest → motive (pageMark.toList ++ rest))
    (next : ∀ rest, motive rest → motive (nextMark.toList ++ rest))
    (cons : ∀ c cs, ¬ (p ∧ wrappedMark.toList <+: c :: cs) → ¬ pageMark.toList <+: c :: cs →
      ¬ nextMark.toList <+: c :: cs → motive cs → motive (c :: cs)) (cs : List Char) : motive cs := by
  have hshort : ∀ {mark : List Char} (rest : List Char), mark ≠ [] → rest.length < (mark ++ rest).length := by
    intro mark rest hmark
    have hpos := List.length_pos_iff.2 hmark
    rw [List.length_append]
    omega
  induction hlength : cs.length using Nat.strong_induction_on generalizing cs with
  | h n ih =>
    subst hlength
    by_cases hwrapped : p ∧ wrappedMark.toList <+: cs
    · obtain ⟨hp, rest, rfl⟩ := hwrapped
      exact wrapped rest hp (ih _ (hshort rest (by decide)) rest rfl)
    by_cases hpage : pageMark.toList <+: cs
    · obtain ⟨rest, rfl⟩ := hpage
      exact page rest (ih _ (hshort rest (by decide)) rest rfl)
    by_cases hnext : nextMark.toList <+: cs
    · obtain ⟨rest, rfl⟩ := hnext
      exact next rest (ih _ (hshort rest (by decide)) rest rfl)
    · cases cs with
      | nil => exact nil
      | cons c cs => exact cons c cs hwrapped hpage hnext (ih _ (Nat.lt_succ_self _) cs rfl)

/-- **Replacing the marks one after the other is one pass over the template.** -/
theorem substitute_next_page (hx : Plain x) (y cs : List Char) :
    substitute [(nextMark.toList, y)] (substitute [(pageMark.toList, x)] cs) = substitute (marksTaken x y) cs := by
  induction cs using template_induction (x = ['1']) with
  | nil => rfl
  | wrapped rest hone ih =>
    have hat : markAt? (marksTaken x y) (wrappedMark.toList ++ rest) = some (wrappedMark.toList, y) := by
      rw [markAt?_marksTaken, if_pos ⟨hone, List.prefix_append _ _⟩]
    have hinner : '\x7b' :: (x ++ '\x7d' :: substitute [(pageMark.toList, x)] rest) =
        nextMark.toList ++ substitute [(pageMark.toList, x)] rest := by
      rw [hone, toList_nextMark]
      rfl
    rw [substitute_mark hat (by decide), ← ih, substitute_page_wrapped, hinner, substitute_next]
  | page rest ih =>
    have hat : markAt? (marksTaken x y) (pageMark.toList ++ rest) = some (pageMark.toList, x) := by
      rw [markAt?_marksTaken, if_neg fun h => not_wrapped_pageMark rest h.2, markAt?_marksOf,
        if_pos (List.prefix_append _ _)]
    rw [substitute_mark hat (by decide), ← ih, substitute_page, toList_nextMark]
    exact substitute_plain hx.opening
  | next rest ih =>
    have hat : markAt? (marksTaken x y) (nextMark.toList ++ rest) = some (nextMark.toList, y) := by
      obtain ⟨hwrapped, hpage⟩ := not_mark_nextMark rest
      rw [markAt?_marksTaken, if_neg fun h => hwrapped h.2, markAt?_marksOf, if_neg hpage,
        if_pos (List.prefix_append _ _)]
    rw [substitute_mark hat (by decide), ← ih, substitute_page_next, substitute_next]
  | cons c cs hwrapped hpage hnext ih =>
    have hat : markAt? (marksTaken x y) (c :: cs) = none := by
      rw [markAt?_marksTaken, if_neg hwrapped, markAt?_marksOf, if_neg hpage, if_neg hnext]
    have hkept := not_nextMark_of_page hx hnext fun hone hpre => hwrapped ⟨hone, hpre⟩
    have hat' : markAt? [(nextMark.toList, y)] (c :: substitute [(pageMark.toList, x)] cs) = none := by
      rw [markAt?_cons, if_neg hkept]
      rfl
    rw [substitute_cons hat, ← ih, substitute_page_cons hpage, substitute_cons hat']

/-! ## The template with a wrapped mark -/

theorem substitute_marksOf_page (x y rest : List Char) :
    substitute (marksOf x y) (pageMark.toList ++ rest) = x ++ substitute (marksOf x y) rest := by
  refine substitute_mark ?_ (by decide)
  rw [markAt?_marksOf, if_pos (List.prefix_append _ _)]

theorem substitute_marksOf_wrapped (x y rest : List Char) : substitute (marksOf x y) (wrappedMark.toList ++ rest) =
    '\x7b' :: (x ++ '\x7d' :: substitute (marksOf x y) rest) := by
  have hopen : markAt? (marksOf x y) ('\x7b' :: (pageMark.toList ++ '\x7d' :: rest)) = none := by
    rw [markAt?_marksOf, toList_pageMark, toList_nextMark]
    simp
  have hclose : markAt? (marksOf x y) ('\x7d' :: rest) = none := by
    rw [markAt?_marksOf, toList_pageMark, toList_nextMark]
    simp
  rw [toList_wrappedMark, List.cons_append, List.append_assoc, List.singleton_append, substitute_cons hopen,
    substitute_marksOf_page, substitute_cons hclose]

theorem infix_of_page (h : wrappedMark.toList <:+: pageMark.toList ++ rest) : wrappedMark.toList <:+: rest := by
  rw [toList_wrappedMark, toList_pageMark] at *
  simpa [List.infix_cons_iff] using h

theorem infix_of_next (h : wrappedMark.toList <:+: nextMark.toList ++ rest) : wrappedMark.toList <:+: rest := by
  rw [toList_wrappedMark, toList_pageMark] at *
  rw [toList_nextMark] at h
  simpa [List.infix_cons_iff] using h

/-- A mark in braces gives way to fewer characters than the mark inside it alone. -/
theorem length_substitute_wrapped {y : List Char} (hy : y.length ≤ 2) (cs : List Char) :
    (substitute (marksTaken ['1'] y) cs).length ≤ (substitute (marksOf ['1'] y) cs).length ∧
      (wrappedMark.toList <:+: cs →
        (substitute (marksTaken ['1'] y) cs).length < (substitute (marksOf ['1'] y) cs).length) := by
  induction cs using template_induction True with
  | nil => exact ⟨Nat.le_refl _, fun h => absurd (List.eq_nil_of_infix_nil h) (by decide)⟩
  | wrapped rest _ ih =>
    have hat : markAt? (marksTaken ['1'] y) (wrappedMark.toList ++ rest) = some (wrappedMark.toList, y) := by
      rw [markAt?_marksTaken, if_pos ⟨rfl, List.prefix_append _ _⟩]
    have hlt : (substitute (marksTaken ['1'] y) (wrappedMark.toList ++ rest)).length <
        (substitute (marksOf ['1'] y) (wrappedMark.toList ++ rest)).length := by
      have hle := ih.1
      rw [substitute_mark hat (by decide), substitute_marksOf_wrapped]
      simp only [List.length_append, List.length_cons, List.length_nil]
      omega
    exact ⟨Nat.le_of_lt hlt, fun _ => hlt⟩
  | page rest ih =>
    have hat : markAt? (marksTaken ['1'] y) (pageMark.toList ++ rest) = some (pageMark.toList, ['1']) := by
      rw [markAt?_marksTaken, if_neg fun h => not_wrapped_pageMark rest h.2, markAt?_marksOf,
        if_pos (List.prefix_append _ _)]
    rw [substitute_mark hat (by decide), substitute_marksOf_page, List.length_append, List.length_append]
    exact ⟨Nat.add_le_add_left ih.1 _, fun h => Nat.add_lt_add_left (ih.2 (infix_of_page h)) _⟩
  | next rest ih =>
    obtain ⟨hwrapped, hpage⟩ := not_mark_nextMark rest
    have hof : markAt? (marksOf ['1'] y) (nextMark.toList ++ rest) = some (nextMark.toList, y) := by
      rw [markAt?_marksOf, if_neg hpage, if_pos (List.prefix_append _ _)]
    have hat : markAt? (marksTaken ['1'] y) (nextMark.toList ++ rest) = some (nextMark.toList, y) := by
      rw [markAt?_marksTaken, if_neg fun h => hwrapped h.2, hof]
    rw [substitute_mark hat (by decide), substitute_mark hof (by decide), List.length_append, List.length_append]
    exact ⟨Nat.add_le_add_left ih.1 _, fun h => Nat.add_lt_add_left (ih.2 (infix_of_next h)) _⟩
  | cons c cs hwrapped hpage hnext ih =>
    have hnot : ¬ wrappedMark.toList <+: c :: cs := fun h => hwrapped ⟨trivial, h⟩
    have hof : markAt? (marksOf ['1'] y) (c :: cs) = none := by
      rw [markAt?_marksOf, if_neg hpage, if_neg hnext]
    have hat : markAt? (marksTaken ['1'] y) (c :: cs) = none := by
      rw [markAt?_marksTaken, if_neg fun h => hnot h.2, hof]
    rw [substitute_cons hat, substitute_cons hof, List.length_cons, List.length_cons]
    exact ⟨Nat.succ_le_succ ih.1, fun h => Nat.succ_lt_succ (ih.2 ((List.infix_cons_iff.1 h).resolve_left hnot))⟩

/-! ## What is filled in -/

/-- The marks of a template with the offsets of a page. -/
def PageRange.marks (r : PageRange) (page : Int) : List (List Char × List Char) :=
  match r.step with
  | none => [(pageMark.toList, (ofInt page).toList)]
  | some step => marksOf (ofInt (page * step.toInt)).toList (ofInt ((page + 1) * step.toInt)).toList

/-- A template with the offsets of a page, as one offset after the other puts them there. -/
def PageRange.expansion (r : PageRange) (template : String) (page : Int) : String :=
  match r.step with
  | none => String.ofList (substitute (r.marks page) template.toList)
  | some step =>
    String.ofList (substitute (marksTaken (ofInt (page * step.toInt)).toList (ofInt ((page + 1) * step.toInt)).toList)
      template.toList)

/-- The offsets of a page fit into 64 bits. -/
def PageRange.Reaches (r : PageRange) (page : Int) : Prop :=
  ∀ step ∈ r.step, fits (page * step.toInt) = true ∧ fits ((page + 1) * step.toInt) = true

variable {r : PageRange} {page : Int}

theorem one_le_toInt {step : Int64} (h : 1 ≤ step) : 1 ≤ step.toInt := Int64.le_iff_toInt_le.1 h

theorem fits_of_fits_mul {n k : Int} (hk : 1 ≤ k) (h : fits (n * k) = true) : fits n = true := by
  simp only [fits, Bool.and_eq_true, decide_eq_true_eq] at h ⊢
  rcases Int.le_total 0 n with hn | hn
  · have hle := Int.mul_le_mul_of_nonneg_left hk hn
    omega
  · have hle := Int.mul_le_mul_of_nonpos_left hn hk
    omega

/-- **A page is filled in exactly where its offsets fit.** -/
theorem fill_eq (hstep : ∀ step ∈ r.step, 1 ≤ step) (template : String) :
    (r.Reaches page → r.fill template page = .ok (r.expansion template page)) ∧
      (¬ r.Reaches page → r.fill template page = .error (.invalidParams (.pagingOffset page))) := by
  have hpageMark : pageMark.toList ≠ [] := by decide
  have hnextMark : nextMark.toList ≠ [] := by decide
  unfold PageRange.fill PageRange.Reaches PageRange.expansion PageRange.marks
  cases hr : r.step with
  | none =>
    refine ⟨fun _ => ?_, fun h => absurd nofun h⟩
    simp only [Text.replaceAllIn, Text.replaceAll_eq_substitute hpageMark]
  | some step =>
    have hone := one_le_toInt (hstep step hr)
    simp only [Option.mem_def, Option.some.injEq, forall_eq']
    by_cases hfits : fits (page * step.toInt) = true ∧ fits ((page + 1) * step.toInt) = true
    · refine ⟨fun _ => ?_, fun h => absurd hfits h⟩
      obtain ⟨hfirst, hnext⟩ := hfits
      rw [hfirst, hnext, fits_of_fits_mul hone hnext]
      simp only [Text.replaceAllIn, String.toList_ofList, Bool.and_self, if_true,
        Text.replaceAll_eq_substitute hpageMark, Text.replaceAll_eq_substitute hnextMark,
        substitute_next_page (plain_ofInt (page * step.toInt))]
    · refine ⟨fun h => absurd h hfits, fun _ => if_neg fun h => hfits ?_⟩
      simp only [Bool.and_eq_true] at h
      exact ⟨h.1.1, h.2⟩

theorem ofInt_eq_one_iff (n : Int) : (ofInt n).toList = ['1'] ↔ n = 1 := by
  refine ⟨fun h => ?_, fun h => h ▸ by decide⟩
  have hread := Text.Numeral.integer?_ofInt n
  rw [h] at hread
  exact (Option.some.inj hread).symm

/-- The pass that is run is the one that is meant, unless a wrapped mark gets the offset `1`. -/
theorem substitute_marksTaken (hy : y.length ≤ 2) (cs : List Char) :
    substitute (marksTaken x y) cs = substitute (marksOf x y) cs ↔ ¬ (x = ['1'] ∧ wrappedMark.toList <:+: cs) := by
  by_cases hx : x = ['1']
  · subst hx
    refine ⟨fun h hwrapped => ?_, fun h => ?_⟩
    · have hlt := (length_substitute_wrapped hy cs).2 hwrapped.2
      rw [h] at hlt
      exact Nat.lt_irrefl _ hlt
    · rw [marksTaken, if_pos rfl, Text.substitute_of_absent fun hwrapped => h ⟨rfl, hwrapped⟩]
  · rw [marksTaken, if_neg hx]
    exact iff_of_true rfl fun h => hx h.1

/-- **The marks of a template give way to the offsets of a page in one pass, unless a mark in braces of its own gets the
offset `1`**: this makes the other mark, which gives way to the next offset. -/
theorem placeholders_exact (hstep : ∀ step ∈ r.step, 1 ≤ step) (hreaches : r.Reaches page) (template : String) :
    (r.fill template page = .ok (String.ofList (substitute (r.marks page) template.toList)) ↔
      ¬ (r.step = some 1 ∧ page = 1 ∧ wrappedMark.toList <:+: template.toList)) ∧
    (r.step = some 1 → page = 1 → r.fill template page =
      .ok (String.ofList (substitute ((wrappedMark.toList, ['2']) :: r.marks page) template.toList))) := by
  rw [(fill_eq hstep template).1 hreaches, Except.ok.injEq]
  unfold PageRange.expansion PageRange.marks
  cases hr : r.step with
  | none => exact ⟨iff_of_true rfl nofun, nofun⟩
  | some step =>
    have hone := one_le_toInt (hstep step hr)
    simp only [Option.some.injEq, String.ofList_inj]
    by_cases hpage : page * step.toInt = 1
    · have hunit : step.toInt = 1 := Int.eq_one_of_mul_eq_one_left (by omega) hpage
      obtain rfl : step = 1 := Int64.toInt_inj.1 hunit
      obtain rfl : page = 1 := by rwa [hunit, Int.mul_one] at hpage
      refine ⟨?_, fun _ _ => rfl⟩
      rw [substitute_marksTaken (by decide), (ofInt_eq_one_iff _).2 hpage]
      simp
    · have hx : ¬ (ofInt (page * step.toInt)).toList = ['1'] := mt (ofInt_eq_one_iff _).1 hpage
      have hnot : ∀ p, ¬ (step = 1 ∧ page = 1 ∧ p) := fun p h => hpage (by rw [h.1, h.2.1]; rfl)
      rw [marksTaken, if_neg hx]
      exact ⟨iff_of_true rfl (hnot _), fun hs hp => absurd ⟨hs, hp, trivial⟩ (hnot True)⟩

/-- The page of `{0}` in braces of its own, for a range with a step of one. -/
theorem placeholders_exact_wrapped : (1 : Int64) ≤ 1 ∧ PageRange.Reaches ⟨1, 1, some 1⟩ 1 ∧
    PageRange.fill ⟨1, 1, some 1⟩ "\x7b\x7b0\x7d\x7d" 1 = .ok "2" ∧
    PageRange.fill ⟨1, 1, some 1⟩ "\x7b0\x7d-\x7b1\x7d" 1 = .ok "1-2" := by
  have hstep : ∀ step ∈ (⟨1, 1, some 1⟩ : PageRange).step, 1 ≤ step := by
    rintro step ⟨⟩
    decide
  have hreaches : PageRange.Reaches ⟨1, 1, some 1⟩ 1 := by
    rintro step ⟨⟩
    decide
  have hwrapped := (placeholders_exact hstep hreaches "\x7b\x7b0\x7d\x7d").2 rfl rfl
  have hplain := (placeholders_exact hstep hreaches "\x7b0\x7d-\x7b1\x7d").1.2 (by decide +kernel)
  exact ⟨by decide, hreaches, hwrapped.trans rfl, hplain.trans rfl⟩

end Harvest.Filter.Paging
