import Harvest.Filter.Rewriting
import Harvest.Proofs.Filter.Leaves
import Harvest.Proofs.Pattern.Tiling
import Harvest.Proofs.Traversal
/-!
# Replacing by a pattern

The strings of a value are rewritten one by one: each is tiled by the matches from the first character on.  A match that
makes room for itself leaves the string as it was, and so does the template that names group 0 -- unless the pattern has
a group of the name `0`, for an id is a name before it is a number (`replacement_tiles`).
-/
namespace Harvest.Filter

open Pattern (Hit Part Regular Searcher Tiling expand finderOf parts replaceFrom replaceLoop splice spanText)

/-- What parameters ask for: a pattern, a template, the first character and the number of replacements. -/
structure Asked (params : String) (pattern : Pattern.Regex) (template : String) (start count : Int64) : Prop where
  pattern : Pattern.Regex.compile .extended ((splitParams params)[0]?.getD "") = .ok pattern
  template : (splitParams params)[1]?.getD "" = template
  start : numberArg "start" 0 (splitParams params)[2]? = .ok start
  count : numberArg "count" (-1) (splitParams params)[3]? = .ok count

/-- How many matches a number of replacements allows: a negative one is no limit. -/
def limitOf (count : Int64) : Option Nat := if count < 0 then none else some count.toInt.toNat

/-- One string with its matches replaced. -/
def rewrite (pattern : Pattern.Regex) (template : String) (start count : Int64) (s : String) :
    Except FilterError String := do
  let text := s.toList.toArray
  return String.ofList (← ofMatch (replaceFrom text (pattern.finder text (Pattern.template template.toList))
    (min start.toInt.toNat text.size) (limitOf count)))

/-- A string and the same string with the matches of a tiling replaced. -/
def Rewrites (pattern : Pattern.Regex) (template : String) (start count : Int64) (s out : String) : Prop :=
  let text := s.toList.toArray
  ∃ hits, Tiling text.size (finderOf pattern.names (pattern.search text) text (Pattern.template template.toList))
    (limitOf count) (min start.toInt.toNat text.size) hits ∧ out = String.ofList (splice text 0 hits)

variable {params template : String} {pattern : Pattern.Regex} {start count : Int64} {s out : String} {v : Value}

/-! ## One string -/

theorem rewrite_eq (template : String) (start count : Int64)
    (hsearch : Regular s.toList.toArray.size (pattern.search s.toList.toArray)) :
    ∃ out, Rewrites pattern template start count s out ∧ rewrite pattern template start count s = .ok out := by
  have hstart := Nat.min_le_right start.toInt.toNat s.toList.toArray.size
  obtain ⟨hits, htiling, hloop⟩ := hsearch.finderOf.exists_tiling (limitOf count) hstart
  refine ⟨_, ⟨hits, htiling, rfl⟩, ?_⟩
  rw [rewrite, Pattern.Regex.finder, replaceFrom, hloop _ (by omega)]
  rfl

/-- Where no replacement is asked for, a string is left as it is. -/
theorem Rewrites.eq_of_none (h : Rewrites pattern template start 0 s out) : out = s := by
  obtain ⟨hits, htiling, rfl⟩ := h
  have hnone : hits = [] := List.eq_nil_of_length_eq_zero (Nat.le_zero.1 (htiling.atMost 0 rfl))
  rw [hnone, splice, Pattern.tail_zero]
  exact String.ofList_toList

/-! ## The template of the whole match -/

theorem template_whole : Pattern.template "$0".toList = [.group "0"] := by decide

/-- The template of group 0 stands for the whole match where no group has the name `0`. -/
theorem expand_whole {names : List (String × Nat)} {text : Array Char} {groups : Pattern.Captures} {span : Nat × Nat}
    (hnames : List.lookup "0" names = none) (hspan : (groups[0]?).join = some span) :
    expand names text groups [.group "0"] = spanText text span := by
  have hnumber : Text.Numeral.nat64? "0".toList = some 0 := by decide
  have hmeant : Pattern.spanOf? names groups "0" = some span := by
    unfold Pattern.spanOf?
    rw [hnames, hnumber]
    exact hspan
  rw [expand, List.flatMap_singleton]
  simp only [hmeant]

/-- Matches that make room for themselves leave a string as it is. -/
theorem Rewrites.eq_of_whole (hnames : List.lookup "0" pattern.names = none)
    (h : Rewrites pattern "$0" start count s out) : out = s := by
  obtain ⟨hits, htiling, rfl⟩ := h
  have hown : ∀ hit ∈ hits, hit.2 = spanText s.toList.toArray hit.1 := by
    intro hit hhit
    obtain ⟨before, behind, hhits⟩ := List.append_of_mem hhit
    obtain ⟨groups, _, hspan, hput⟩ := Pattern.finderOf_eq_some.1 (htiling.found before hit behind hhits)
    rw [hput, template_whole, expand_whole hnames hspan]
  have hself := Pattern.splice_self 0 (fun hit hhit => ⟨Nat.zero_le _, (htiling.within hit hhit).2⟩) htiling.ordered hown
  rw [hself, Pattern.tail_zero]
  exact String.ofList_toList

/-! ## Values -/

theorem compiled_eq {expr : String} (h : Pattern.Regex.compile .extended expr = .ok pattern) :
    compiled expr = .ok pattern := by
  rw [compiled, h]
  rfl

theorem regexpreplace_eq (hasked : Asked params pattern template start count) (v : Value) :
    regexpreplace v params = if count = 0 then .ok v else v.mapStrings (rewrite pattern template start count) := by
  rw [regexpreplace]
  simp only [hasked.start, hasked.count, compiled_eq hasked.pattern, hasked.template]
  by_cases hcount : count = 0
  · rw [if_pos hcount, hcount]
    rfl
  · rw [if_neg hcount]
    show (if (count == 0) = true then _ else _) = _
    rw [if_neg (by simpa using hcount)]
    rfl

theorem withLeaves_of_kept {p : String → String → Prop} {outs : List String} (hkept : ∀ s out, p s out → out = s)
    (h : List.Forall₂ p v.leaves outs) : v.withLeaves outs = v := by
  have hsame : List.Forall₂ Eq v.leaves outs := h.imp fun s out hout => (hkept s out hout).symm
  rw [List.forall₂_eq_eq_eq] at hsame
  rw [← hsame, v.withLeaves_leaves]

/-- The strings of a value are rewritten one by one. -/
theorem regexpreplace_leaves (hasked : Asked params pattern template start count)
    (hsearch : ∀ s ∈ v.leaves, Regular s.toList.toArray.size (pattern.search s.toList.toArray)) :
    ∃ outs, List.Forall₂ (Rewrites pattern template start count) v.leaves outs ∧
      regexpreplace v params = .ok (v.withLeaves outs) := by
  obtain ⟨outs, houts, hmap⟩ := mapM_of_forall v.leaves fun s hs => rewrite_eq template start count (hsearch s hs)
  refine ⟨outs, houts, ?_⟩
  rw [regexpreplace_eq hasked]
  by_cases hcount : count = 0
  · subst hcount
    rw [if_pos rfl, withLeaves_of_kept (fun s out => Rewrites.eq_of_none) houts]
  · rw [if_neg hcount, Value.mapStrings, Value.mapStringsM_eq, hmap]
    rfl

/-- **Replacing tiles the text.**  Whatever the search is, as long as it does not fail and finds matches between the
position and the end: the loop ends, and it yields the text with the matches of a tiling replaced, each by its own
expansion.  So does the filter with each string of a value, and with the template of group 0 it changes nothing where
no group of the pattern has the name `0`. -/
theorem replacement_tiles :
    (∀ (names : List (String × Nat)) (text : Array Char) (search : Searcher) (template : List Part)
      (limit : Option Nat) (start : Nat), Regular text.size search → start ≤ text.size →
      let find := finderOf names search text template
      ∃ hits, Tiling text.size find limit start hits ∧
        replaceFrom text find start limit = .ok (splice text 0 hits) ∧
        (∀ fuel, text.size < start + fuel → replaceLoop text find fuel limit 0 start = .ok (splice text 0 hits)) ∧
        (∀ hit ∈ hits, ∃ pos groups, search pos = .ok (some groups) ∧ (groups[0]?).join = some hit.1 ∧
          hit.2 = expand names text groups template) ∧
        spanText text (0, start) <+: splice text 0 hits) ∧
    ∀ (params template : String) (pattern : Pattern.Regex) (start count : Int64),
      Asked params pattern template start count → ∀ v : Value,
      (∀ s ∈ v.leaves, Regular s.toList.toArray.size (pattern.search s.toList.toArray)) →
      (∃ outs, List.Forall₂ (Rewrites pattern template start count) v.leaves outs ∧
        regexpreplace v params = .ok (v.withLeaves outs)) ∧
      (template = "$0" → List.lookup "0" pattern.names = none → regexpreplace v params = .ok v) := by
  constructor
  · intro names text search template limit start hsearch hstart find
    obtain ⟨hits, htiling, hloop⟩ := hsearch.finderOf.exists_tiling limit hstart
    refine ⟨hits, htiling, hloop _ (by omega), hloop, fun hit hhit => ?_, ?_⟩
    · obtain ⟨before, behind, hhits⟩ := List.append_of_mem hhit
      exact ⟨_, Pattern.finderOf_eq_some.1 (htiling.found before hit behind hhits)⟩
    · exact Pattern.spanText_prefix_splice (Nat.zero_le _) hstart fun hit hhit => (htiling.within hit hhit).1
  · intro params template pattern start count hasked v hsearch
    obtain ⟨outs, houts, hfilter⟩ := regexpreplace_leaves hasked hsearch
    refine ⟨⟨outs, houts, hfilter⟩, ?_⟩
    rintro rfl hnames
    rw [hfilter, withLeaves_of_kept (fun s out => Rewrites.eq_of_whole hnames) houts]

theorem exists_compiled (expr : String) (p : Pattern.Regex → Bool)
    (h : (Pattern.Regex.compile .extended expr).map p = .ok true) :
    ∃ pattern, Pattern.Regex.compile .extended expr = .ok pattern ∧ p pattern = true := by
  cases hcompile : Pattern.Regex.compile .extended expr with
  | error why =>
    rw [hcompile] at h
    cases h
  | ok pattern =>
    rw [hcompile] at h
    exact ⟨pattern, rfl, Except.ok.inj h⟩

/-- A dash at each place from the second character on; and the places in front of a letter, replaced by themselves. -/
theorem replacement_tiles_places : ∃ pattern : Pattern.Regex,
    Regular 2 (fun pos => .ok (some #[some (pos, pos)])) ∧
    (∃ hits, Tiling 2 (finderOf [] (fun pos => .ok (some #[some (pos, pos)])) #['a', 'b'] [.literal '-']) none 1 hits ∧
      splice #['a', 'b'] 0 hits = ['a', '-', 'b', '-']) ∧
    Asked "(?=b),$0,1,2" pattern "$0" 1 2 ∧ List.lookup "0" pattern.names = none ∧
    (∀ s ∈ Value.leaves (.string "bab"), Regular s.toList.toArray.size (pattern.search s.toList.toArray)) ∧
    regexpreplace (.string "bab") "(?=b),$0,1,2" = .ok (.string "bab") := by
  have hplaces : Regular 2 (fun pos => .ok (some #[some (pos, pos)])) := by decide
  have hrun : replaceFrom #['a', 'b']
      (finderOf [] (fun pos => .ok (some #[some (pos, pos)])) #['a', 'b'] [.literal '-']) 1 none =
        .ok ['a', '-', 'b', '-'] := by decide
  obtain ⟨hits, htiling, hloop, _⟩ := replacement_tiles.1 [] #['a', 'b'] _ [.literal '-'] none 1 hplaces (by decide)
  rw [hrun] at hloop
  have hsplit : splitParams "(?=b),$0,1,2" = ["(?=b)", "$0", "1", "2"] := by decide
  obtain ⟨pattern, hcompile, hchecked⟩ := exists_compiled "(?=b)" (fun pattern =>
    decide (List.lookup "0" pattern.names = none ∧ Regular 3 (pattern.search "bab".toList.toArray))) (by decide +kernel)
  obtain ⟨hnames, hregular⟩ := of_decide_eq_true hchecked
  have hasked : Asked "(?=b),$0,1,2" pattern "$0" 1 2 := by
    constructor <;> rw [hsplit]
    · exact hcompile
    all_goals rfl
  have hsearch : ∀ s ∈ Value.leaves (.string "bab"),
      Regular s.toList.toArray.size (pattern.search s.toList.toArray) := by
    intro s hs
    rw [List.mem_singleton.1 hs]
    exact hregular
  exact ⟨pattern, hplaces, ⟨hits, htiling, (Except.ok.inj hloop).symm⟩, hasked, hnames, hsearch,
    (replacement_tiles.2 _ _ pattern 1 2 hasked _ hsearch).2 rfl hnames⟩

/-- A group of the name `0` comes before group 0: a match makes room for what that group has, here for nothing. -/
theorem whole_match_not_kept : ∃ pattern : Pattern.Regex, Asked "a(?<0>(?!b)),$0" pattern "$0" 0 (-1) ∧
    Regular 1 (pattern.search "a".toList.toArray) ∧
    regexpreplace (.string "a") "a(?<0>(?!b)),$0" = .ok (.string "") := by
  have hsplit : splitParams "a(?<0>(?!b)),$0" = ["a(?<0>(?!b))", "$0"] := by decide
  obtain ⟨pattern, hcompile, hchecked⟩ := exists_compiled "a(?<0>(?!b))" (fun pattern =>
    decide (Regular 1 (pattern.search "a".toList.toArray) ∧ replaceFrom "a".toList.toArray
      (pattern.finder "a".toList.toArray (Pattern.template "$0".toList)) 0 none = .ok [])) (by decide +kernel)
  obtain ⟨hregular, hrun⟩ := of_decide_eq_true hchecked
  have hasked : Asked "a(?<0>(?!b)),$0" pattern "$0" 0 (-1) := by
    constructor <;> rw [hsplit]
    · exact hcompile
    all_goals rfl
  have hrewrite : rewrite pattern "$0" 0 (-1) "a" = .ok "" := by
    have hstart : min (0 : Int64).toInt.toNat "a".toList.toArray.size = 0 := by decide
    have hlimit : limitOf (-1) = none := by decide
    rw [rewrite, hstart, hlimit, hrun]
    rfl
  refine ⟨pattern, hasked, hregular, ?_⟩
  rw [regexpreplace_eq hasked, if_neg (by decide), Value.mapStrings, Value.mapStringsM, hrewrite]
  rfl

end Harvest.Filter
