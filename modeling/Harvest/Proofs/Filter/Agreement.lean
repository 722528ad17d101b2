import Harvest.Proofs.Filter.Rewriting
import Harvest.Proofs.Pattern.Adjoining
/-!
# Two ways to replace by a pattern

`hrefreplace` replaces matches by the loop that leaves out an empty match right behind another one; `regexpreplace` has
a loop of its own, that does not.  Without a start and a count the two run over the same matches, unless the pattern
asks where a match may go on and the template names no group; and then they agree on a string exactly where a match that
is left out would make room for nothing (`replacements_agree_iff`).
-/
namespace Harvest.Filter

open Pattern (Adjoins Bounded Edits Finder Hit Idle Regular Scan Tiling apart finderOf replaceAll replaceFrom splice)

/-! ## Strings rewritten alike -/

variable {v : Value} {f g : String → Except FilterError String}

theorem withLeaves_inj {texts texts' : List String} (h : texts.length = v.leaves.length)
    (h' : texts'.length = v.leaves.length) : v.withLeaves texts = v.withLeaves texts' ↔ texts = texts' := by
  constructor
  · intro heq
    rw [← v.leaves_withLeaves h, heq, v.leaves_withLeaves h']
  · exact congrArg v.withLeaves

/-- Two ways to rewrite the strings of a value, neither of which fails, give the same where they do on each string. -/
theorem mapStrings_eq_iff (hf : ∀ s ∈ v.leaves, ∃ t, f s = .ok t) (hg : ∀ s ∈ v.leaves, ∃ t, g s = .ok t) :
    v.mapStrings f = v.mapStrings g ↔ ∀ s ∈ v.leaves, f s = g s := by
  obtain ⟨texts, hlength, htexts⟩ := exists_mapM_ok hf
  obtain ⟨texts', hlength', htexts'⟩ := exists_mapM_ok hg
  rw [← mapM_eq_iff v.leaves hf hg, Value.mapStrings, Value.mapStrings, Value.mapStringsM_eq, Value.mapStringsM_eq,
    htexts, htexts']
  show Except.ok (v.withLeaves texts) = Except.ok (v.withLeaves texts') ↔ _
  rw [Except.ok.injEq, Except.ok.injEq, withLeaves_inj hlength hlength']

theorem exists_mapStrings_ok (hf : ∀ s ∈ v.leaves, ∃ t, f s = .ok t) : ∃ w, v.mapStrings f = .ok w := by
  obtain ⟨texts, _, htexts⟩ := exists_mapM_ok hf
  exact ⟨v.withLeaves texts, by rw [Value.mapStrings, Value.mapStringsM_eq, htexts]; rfl⟩

/-! ## The loop that leaves out what adjoins -/

/-- One string with its matches replaced by the loop that leaves out an empty match right behind another one. -/
def rewriteAll (pattern : Pattern.Regex) (template s : String) : Except FilterError String := do
  let text := s.toList.toArray
  return String.ofList (← ofMatch (replaceAll text (pattern.finderAll text template.toList)))

/-- In each string that `hrefreplace` rewrites it replaces by this loop. -/
theorem hrefreplace_eq {pattern : Pattern.Regex} (h : Pattern.Regex.compile .extended hrefPattern = .ok pattern)
    (v : Value) (template : String) : hrefreplace v template = v.mapStrings (rewriteAll pattern template) := by
  rw [hrefreplace, compiled_eq h]
  rfl

/-- What the two loops make of a text: `replaceFrom` replaces all matches that it comes to, `replaceAll` those of its
own that stand apart. -/
structure Compared (text : Array Char) (find : Finder) (all : Bool → Finder) (hits hits' : List Hit) : Prop where
  run : Edits text.size find none 0 hits
  tiling : Tiling text.size find none 0 hits
  scan : Scan text.size all false 0 hits'
  own : replaceFrom text find 0 none = .ok (splice text 0 hits)
  other : replaceAll text all = .ok (splice text 0 (apart none hits'))
  kept : (apart none hits').Sublist hits'
  separate : (apart none hits').IsChain fun hit next => ¬ Adjoins (some hit.1.2) next

section Compared

variable {text : Array Char} {find : Finder} {all : Bool → Finder} {hits hits' : List Hit}

theorem exists_compared (hfind : Bounded text.size find) (hall : ∀ stepped, Bounded text.size (all stepped)) :
    ∃ hits hits', Compared text find all hits hits' := by
  obtain ⟨hits, hrun⟩ := hfind.exists_edits none (Nat.zero_le _)
  obtain ⟨hits', hscan⟩ := Pattern.exists_scan hall false 0
  obtain ⟨hown, hother⟩ := hscan.loops_eq hfind hall hrun
  exact ⟨hits, hits', hrun, hrun.tiling hfind (Nat.zero_le _), hscan, hown, hother, Pattern.apart_sublist none hits',
    (Pattern.isChain_apart none hits').2⟩

/-- A search that does not mind what it is told comes to the same matches. -/
theorem Compared.same (h : Compared text find all hits hits') (hsame : ∀ stepped pos, all stepped pos = find pos) :
    hits' = hits :=
  h.scan.unique (h.run.scan hsame rfl (Nat.zero_le _) false)

theorem Compared.idle_iff (h : Compared text find all hits hits) (hfind : Bounded text.size find)
    (hall : ∀ stepped, Bounded text.size (all stepped)) :
    splice text 0 hits = splice text 0 (apart none hits) ↔ Idle hits := by
  rw [← h.scan.loops_agree_iff hfind hall h.run, h.own, h.other, Except.ok.injEq]

end Compared

/-! ## Strings -/

section Strings

variable {pattern : Pattern.Regex} {params template s : String} {hits hits' : List Hit}

/-- The finders of a pattern and a template in a string: that of `replaceFrom`, and that of `replaceAll`. -/
def finderIn (pattern : Pattern.Regex) (template s : String) : Finder :=
  pattern.finder s.toList.toArray (Pattern.template template.toList)

def finderAllIn (pattern : Pattern.Regex) (template s : String) : Bool → Finder :=
  pattern.finderAll s.toList.toArray template.toList

/-- The searches of both loops in a string do not fail, and find matches between the position and the end. -/
def Searchable (pattern : Pattern.Regex) (template s : String) : Prop :=
  ∀ stepped, Regular s.toList.toArray.size (pattern.searchAll s.toList.toArray template.toList stepped)

instance : Decidable (Searchable pattern template s) := inferInstanceAs (Decidable (∀ _ : Bool, _))

theorem Searchable.bounded (h : Searchable pattern template s) :
    Bounded s.toList.toArray.size (finderIn pattern template s) := (h false).finderOf

theorem Searchable.bounded_all (h : Searchable pattern template s) (stepped : Bool) :
    Bounded s.toList.toArray.size (finderAllIn pattern template s stepped) := (h stepped).finderOf

theorem finderAllIn_eq (h : '$' ∈ template.toList ∨ pattern.asks = false) (s : String) (stepped : Bool) (pos : Nat) :
    finderAllIn pattern template s stepped pos = finderIn pattern template s pos := by
  rw [finderAllIn, Pattern.Regex.finderAll, pattern.searchAll_eq h]
  rfl

/-- What the loops make of a string is what they make of its characters. -/
theorem rewrite_eq_of_compared
    (h : Compared s.toList.toArray (finderIn pattern template s) (finderAllIn pattern template s) hits hits') :
    rewrite pattern template 0 (-1) s = .ok (String.ofList (splice s.toList.toArray 0 hits)) ∧
      rewriteAll pattern template s = .ok (String.ofList (splice s.toList.toArray 0 (apart none hits'))) := by
  have hstart : min (0 : Int64).toInt.toNat s.toList.toArray.size = 0 := Nat.zero_min _
  have hlimit : limitOf (-1) = none := by decide
  have hfrom := h.own
  have hall := h.other
  rw [finderIn] at hfrom
  rw [finderAllIn] at hall
  constructor
  · rw [rewrite, hstart, hlimit, hfrom]
    rfl
  · rw [rewriteAll, hall]
    rfl

theorem rewrite_eq_rewriteAll_iff
    (h : Compared s.toList.toArray (finderIn pattern template s) (finderAllIn pattern template s) hits hits') :
    rewrite pattern template 0 (-1) s = rewriteAll pattern template s ↔
      splice s.toList.toArray 0 hits = splice s.toList.toArray 0 (apart none hits') := by
  obtain ⟨hown, hother⟩ := rewrite_eq_of_compared h
  rw [hown, hother, Except.ok.injEq, String.ofList_inj]

/-- **Where the two loops agree.**  On strings on which the searches do not fail, `regexpreplace` without a start and a
count does what the other loop does if and only if the runs of both leave the same text of each string.  They run over
the same matches, unless the template names no group and the pattern asks where a match may go on; and then they agree
if and only if each empty match that adjoins the match before it makes room for nothing. -/
theorem replacements_agree_iff (hasked : Asked params pattern template 0 (-1)) (v : Value)
    (hsearch : ∀ s ∈ v.leaves, Searchable pattern template s) :
    let Both := fun s : String =>
      Compared s.toList.toArray (finderIn pattern template s) (finderAllIn pattern template s)
    let Agree := regexpreplace v params = v.mapStrings (rewriteAll pattern template)
    (∃ w, regexpreplace v params = .ok w) ∧ (∃ w, v.mapStrings (rewriteAll pattern template) = .ok w) ∧
    (∀ s ∈ v.leaves, ∃ hits hits', Both s hits hits') ∧
    (Agree ↔ ∀ s ∈ v.leaves, ∀ hits hits', Both s hits hits' →
      splice s.toList.toArray 0 hits = splice s.toList.toArray 0 (apart none hits')) ∧
    ('$' ∈ template.toList ∨ pattern.asks = false →
      (∀ s ∈ v.leaves, ∀ hits hits', Both s hits hits' → hits' = hits) ∧
      (Agree ↔ ∀ s ∈ v.leaves, ∀ hits hits', Both s hits hits' → Idle hits)) := by
  intro Both Agree
  have hboth : ∀ s ∈ v.leaves, ∃ hits hits', Both s hits hits' :=
    fun s hs => exists_compared (hsearch s hs).bounded (hsearch s hs).bounded_all
  have hown : ∀ s ∈ v.leaves, ∃ out, rewrite pattern template 0 (-1) s = .ok out := fun s hs => by
    obtain ⟨hits, hits', h⟩ := hboth s hs
    exact ⟨_, (rewrite_eq_of_compared h).1⟩
  have hother : ∀ s ∈ v.leaves, ∃ out, rewriteAll pattern template s = .ok out := fun s hs => by
    obtain ⟨hits, hits', h⟩ := hboth s hs
    exact ⟨_, (rewrite_eq_of_compared h).2⟩
  have hnonzero : ¬ (-1 : Int64) = 0 := by decide
  have hagree : Agree ↔ ∀ s ∈ v.leaves, ∀ hits hits', Both s hits hits' →
      splice s.toList.toArray 0 hits = splice s.toList.toArray 0 (apart none hits') := by
    simp only [Agree]
    rw [regexpreplace_eq hasked, if_neg hnonzero, mapStrings_eq_iff hown hother]
    refine forall₂_congr fun s hs => ⟨fun hsame hits hits' h => (rewrite_eq_rewriteAll_iff h).1 hsame, fun hsame => ?_⟩
    obtain ⟨hits, hits', h⟩ := hboth s hs
    exact (rewrite_eq_rewriteAll_iff h).2 (hsame hits hits' h)
  rw [regexpreplace_eq hasked, if_neg hnonzero]
  refine ⟨exists_mapStrings_ok hown, exists_mapStrings_ok hother, hboth, hagree, fun hsteady => ?_⟩
  have hsame : ∀ s ∈ v.leaves, ∀ hits hits', Both s hits hits' → hits' = hits :=
    fun s _ hits hits' h => h.same (finderAllIn_eq hsteady s)
  refine ⟨hsame, hagree.trans (forall₄_congr fun s hs hits hits' => forall_congr' fun h => ?_)⟩
  obtain rfl := hsame s hs hits hits' h
  exact h.idle_iff (hsearch s hs).bounded (hsearch s hs).bounded_all

-- A pattern that asks where it may go on: behind an empty match `replaceAll` does not let it.
example : ((Pattern.Regex.compile .extended "\\G").map fun p =>
    (replaceFrom "ab".toList.toArray (finderIn p "-" "ab") 0 none,
      replaceAll "ab".toList.toArray (finderAllIn p "-" "ab"))) = .ok (.ok "-a-b-".toList, .ok "-ab".toList) := by
  decide +kernel

/-- Behind the `x` an empty match adjoins the first match, and only `regexpreplace` puts a dash there. -/
theorem replacements_agree_iff_adjoining : ∃ pattern : Pattern.Regex, Asked "x*(?!y),-" pattern "-" 0 (-1) ∧
    (∀ s ∈ Value.leaves (.string "xa"), Searchable pattern "-" s) ∧ pattern.asks = false ∧
    regexpreplace (.string "xa") "x*(?!y),-" = .ok (.string "--a-") ∧
    Value.mapStrings (rewriteAll pattern "-") (.string "xa") = .ok (.string "-a-") ∧
    ∃ hits, Compared "xa".toList.toArray (finderIn pattern "-" "xa") (finderAllIn pattern "-" "xa") hits hits ∧
      ¬ Idle hits := by
  have hsplit : splitParams "x*(?!y),-" = ["x*(?!y)", "-"] := by decide
  obtain ⟨pattern, hcompile, hchecked⟩ := exists_compiled "x*(?!y)" (fun pattern =>
    decide (Searchable pattern "-" "xa" ∧ pattern.asks = false ∧
      replaceFrom "xa".toList.toArray (finderIn pattern "-" "xa") 0 none = .ok "--a-".toList ∧
      replaceAll "xa".toList.toArray (finderAllIn pattern "-" "xa") = .ok "-a-".toList)) (by decide +kernel)
  obtain ⟨hregular, hasks, hfrom, hall⟩ := of_decide_eq_true hchecked
  have hasked : Asked "x*(?!y),-" pattern "-" 0 (-1) := by
    constructor <;> rw [hsplit]
    · exact hcompile
    all_goals rfl
  have hsearch : ∀ s ∈ Value.leaves (.string "xa"), Searchable pattern "-" s := by
    intro s hs
    rw [List.mem_singleton.1 hs]
    exact hregular
  have hstart : min (0 : Int64).toInt.toNat "xa".toList.toArray.size = 0 := Nat.zero_min _
  have hlimit : limitOf (-1) = none := by decide
  have hown : regexpreplace (.string "xa") "x*(?!y),-" = .ok (.string "--a-") := by
    rw [finderIn] at hfrom
    rw [regexpreplace_eq hasked, if_neg (by decide), Value.mapStrings, Value.mapStringsM, rewrite, hstart, hlimit,
      hfrom]
    rfl
  have hother : Value.mapStrings (rewriteAll pattern "-") (.string "xa") = .ok (.string "-a-") := by
    rw [finderAllIn] at hall
    rw [Value.mapStrings, Value.mapStringsM, rewriteAll, hall]
    rfl
  obtain ⟨_, _, hboth, _, hsteady⟩ := replacements_agree_iff hasked (.string "xa") hsearch
  obtain ⟨hsame, hiff⟩ := hsteady (.inr hasks)
  obtain ⟨hits, hits', h⟩ := hboth "xa" (List.mem_singleton_self "xa")
  obtain rfl := hsame "xa" (List.mem_singleton_self "xa") hits hits' h
  refine ⟨pattern, hasked, hsearch, hasks, hown, hother, hits', h, fun hidle => ?_⟩
  have hequal := (h.idle_iff hregular.bounded hregular.bounded_all).2 hidle
  have hdashes := h.own.symm.trans hfrom
  have hdash := h.other.symm.trans hall
  rw [Except.ok.injEq] at hdashes hdash
  rw [hdashes, hdash] at hequal
  exact absurd hequal (by decide)

end Strings

end Harvest.Filter
