import Harvest.Proofs.Filter.Agreement
import Harvest.Proofs.Pattern.Machine
import Harvest.Proofs.Unicode.Ranges
/-!
# The attribute that `hrefreplace` rewrites

The pattern of an `href` attribute runs on a machine that goes back to what it left open.  In a text with one attribute
the machine passes over what stands before it, reads the name, the quote and the value, finds the quote again, and from
there on finds nothing more.
-/
namespace Harvest.Filter.Href

open Pattern (Regex begins replaceAll spanText)
open Pattern.Extended.Machine (Leads Seeks captured initial limit)
open Unicode (CharSet Ordered covers_cons covers_nil)

/-! ## The program of the pattern -/

/-- A small letter in either case. -/
def eitherCase (letter : Char) : CharSet :=
  ⟨#[(letter.toNat - 32, letter.toNat - 32), (letter.toNat, letter.toNat)]⟩

/-- The name of the attribute. -/
def name : List Char := ['h', 'r', 'e', 'f']

def quote : CharSet := ⟨#[(34, 34), (39, 39)]⟩

/-- The characters of a value: all but quotes and the space. -/
def value : CharSet := ⟨#[(0, 31), (33, 33), (35, 38), (40, 0xD7FF), (0xE000, 0x10FFFF)]⟩

open Pattern.Extended.Machine (read) in
/-- The program: the search for the name, blanks, the equals sign, blanks, a quote if there is one, the value, and the
quote once more. -/
def code : Array Pattern.Extended.XInst := #[
  .split 3 1, .any true, .jump 0, .save 0, read (name.map eitherCase),
  .split 6 8, read [Unicode.space], .jump 5,
  read [.singleton '='],
  .split 10 12, read [Unicode.space], .jump 9,
  .save 2, .split 14 15, read [quote], .save 3,
  .save 4, .split 18 20, read [value], .jump 17, .save 5,
  .backref 1, .save 1, .accept]

def regex : Regex := ⟨.machine ⟨code, 6⟩, 3, []⟩

theorem compile_hrefPattern : Regex.compile .extended hrefPattern = .ok regex := by decide +kernel

theorem seeks : Seeks code (name.map eitherCase) := ⟨rfl, rfl, rfl, rfl, rfl⟩

/-! ## The name in a text -/

theorem toNat_toLower (c : Char) :
    c.toLower.toNat = if 65 ≤ c.toNat ∧ c.toNat ≤ 90 then c.toNat + 32 else c.toNat := by
  by_cases h : 65 ≤ c.toNat ∧ c.toNat ≤ 90
  · have hmoved : c.toLower.toNat = (c.val + 32).toNat := congrArg Char.toNat (dif_pos h)
    rw [if_pos h, hmoved]
    exact Nat.mod_eq_of_lt (show c.toNat + 32 < 2 ^ 32 by omega)
  · rw [if_neg h]
    exact congrArg Char.toNat (dif_neg h)

theorem contains_eitherCase {letter : Char} (h : 97 ≤ letter.toNat ∧ letter.toNat ≤ 122) (c : Char) :
    (eitherCase letter).contains c = true ↔ c.toLower = letter := by
  have hordered : Ordered (eitherCase letter).ranges.toList :=
    ⟨by simp [eitherCase], List.pairwise_pair.2 (show letter.toNat - 32 < letter.toNat by omega)⟩
  rw [CharSet.contains_iff hordered, ← Char.toNat_inj, toNat_toLower]
  simp only [eitherCase, covers_cons, covers_nil, or_false]
  split <;> omega

/-- Does a text hold the name of the attribute, in any case? -/
def Mentions (cs : List Char) : Prop := name <:+: cs.map Char.toLower

instance (cs : List Char) : Decidable (Mentions cs) := inferInstanceAs (Decidable (_ <:+: _))

theorem begins_name_iff (cs : List Char) : begins (name.map eitherCase) cs = true ↔ name <+: cs.map Char.toLower := by
  refine Pattern.begins_iff_of_lower (List.forall₂_map_left_iff.2 (List.forall₂_same.2 fun letter hmem => ?_)) cs
  have hsmall : 97 ≤ letter.toNat ∧ letter.toNat ≤ 122 := by
    simp only [name, List.mem_cons, List.not_mem_nil, or_false] at hmem
    rcases hmem with rfl | rfl | rfl | rfl <;> decide
  exact contains_eitherCase hsmall

theorem begins_name_drop {cs : List Char} (h : ¬ Mentions cs) (i : Nat) :
    begins (name.map eitherCase) (cs.drop i) = false := by
  refine Bool.eq_false_iff.2 fun hbegins => h ?_
  rw [begins_name_iff, List.map_drop] at hbegins
  exact hbegins.isInfix.trans (List.drop_suffix _ _).isInfix

/-- No end of the name is a beginning of it, so the name begins nowhere between a text without it and the name. -/
theorem prefix_of_prefix_append : ∀ {before behind : List Char}, before ≠ [] → name <+: before ++ (name ++ behind) →
    name <+: before
  | [], _, hne, _ => absurd rfl hne
  | [a], _, _, h => by simp [name] at h
  | [a, b], _, _, h => by simp [name] at h
  | [a, b, c], _, _, h => by simp [name] at h
  | a :: b :: c :: d :: before, _, _, h => by simpa [name] using h

theorem begins_name_before {pre behind : List Char} (h : ¬ Mentions pre) {i : Nat} (hi : i < pre.length) :
    begins (name.map eitherCase) ((pre ++ (name ++ behind)).drop i) = false := by
  refine Bool.eq_false_iff.2 fun hbegins => h ?_
  have hne : (pre.drop i).map Char.toLower ≠ [] := by simpa using hi
  rw [begins_name_iff, List.drop_append_of_le_length (Nat.le_of_lt hi), List.map_append, List.map_append,
    show name.map Char.toLower = name from rfl] at hbegins
  have hbefore := prefix_of_prefix_append hne hbegins
  rw [List.map_drop] at hbefore
  exact hbefore.isInfix.trans (List.drop_suffix _ _).isInfix

/-! ## The run over an attribute -/

theorem contains_value (c : Char) : value.contains c = true ↔ c ≠ '"' ∧ c ≠ '\'' ∧ c ≠ ' ' := by
  have hvalid : c.toNat < 0xD800 ∨ 0xDFFF < c.toNat ∧ c.toNat < 0x110000 := c.valid
  have hne : ∀ d : Char, c ≠ d ↔ c.toNat ≠ d.toNat := fun d => not_congr Char.toNat_inj.symm
  rw [CharSet.contains_iff (by decide)]
  simp only [hne, value, covers_cons, covers_nil, or_false, Char.reduceToNat]
  omega

section Run

variable {text : Array Char} {origin : Option Nat} {pos height returns : Nat} {slots : Array (Option Nat)}
  {stack : List Pattern.Extended.Machine.Thread} {q : Char} {u behind : List Char}

/-- Nothing but the sign stands between the name and the quote, so both repetitions of blanks go back at once. -/
theorem run_sign (hq : q = '"' ∨ q = '\'') (h : text.toList.drop pos = '=' :: q :: behind) :
    Leads code text origin 5 ⟨⟨5, pos, slots, []⟩, stack, height, returns⟩ (height < limit ∧ returns + 1 < limit)
      ⟨⟨12, pos + 1, slots, []⟩, stack, height, returns + 2⟩ := by
  have hsign : begins [Unicode.space] (text.toList.drop pos) = false := by rw [h]; rfl
  have htake : begins [.singleton '='] (text.toList.drop pos) = true := by rw [h]; rfl
  have hquote : begins [Unicode.space] (text.toList.drop (pos + 1)) = false := by
    rw [← List.drop_drop, h]
    rcases hq with rfl | rfl <;> rfl
  have hbefore : Leads code text origin 3 ⟨⟨5, pos, slots, []⟩, stack, height, returns⟩ _
      ⟨⟨9, pos + 1, slots, []⟩, stack, height, returns + 1⟩ :=
    ((Leads.split rfl).trans (.misses rfl hsign)).trans (.takes rfl htake)
  have hbehind : Leads code text origin 2 ⟨⟨9, pos + 1, slots, []⟩, stack, height, returns + 1⟩ _
      ⟨⟨12, pos + 1, slots, []⟩, stack, height, returns + 2⟩ := (Leads.split rfl).trans (.misses rfl hquote)
  exact (hbefore.trans hbehind).congr rfl (by simp only [and_true]; omega)

/-- The quote is read, and the branch without it stays open. -/
theorem run_quote (hq : q = '"' ∨ q = '\'') (h : text.toList.drop pos = q :: behind) :
    Leads code text origin 4 ⟨⟨12, pos, slots, []⟩, stack, height, returns⟩ (height < limit)
      ⟨⟨16, pos + 1, (slots.setIfInBounds 2 (some pos)).setIfInBounds 3 (some (pos + 1)), []⟩,
        ⟨15, pos, slots.setIfInBounds 2 (some pos), []⟩ :: stack, height + 1, returns⟩ := by
  have htake : begins [quote] (text.toList.drop pos) = true := by
    rw [h]
    rcases hq with rfl | rfl <;> rfl
  exact ((((Leads.save rfl).trans (.split rfl)).trans (.takes rfl htake)).trans (.save rfl)).congr rfl
    (by simp only [and_true, true_and])

/-- The value is read up to the quote, with a branch open for each of its characters. -/
theorem run_value (hq : q = '"' ∨ q = '\'') (hu : ∀ c ∈ u, value.contains c = true)
    (h : text.toList.drop pos = u ++ q :: behind) : ∃ opened,
      Leads code text origin (3 * u.length + 4) ⟨⟨16, pos, slots, []⟩, stack, height, returns⟩
        (height + u.length < limit ∧ returns < limit)
        ⟨⟨21, pos + u.length, (slots.setIfInBounds 4 (some pos)).setIfInBounds 5 (some (pos + u.length)), []⟩,
          opened ++ stack, height + u.length, returns + 1⟩ := by
  have hstop : begins [value] (q :: behind) = false := by rcases hq with rfl | rfl <;> rfl
  obtain ⟨opened, hread⟩ : ∃ opened, Leads code text origin (3 * u.length + 2)
      ⟨⟨17, pos, slots.setIfInBounds 4 (some pos), []⟩, stack, height, returns⟩ _
      ⟨⟨20, pos + u.length, slots.setIfInBounds 4 (some pos), []⟩, opened ++ stack, height + u.length, returns + 1⟩ :=
    Leads.star rfl rfl rfl hstop u pos height stack hu h
  exact ⟨opened, (((Leads.save rfl).trans hread).trans (.save rfl)).congr (by omega)
    (by simp only [and_true, true_and])⟩

/-- The quote behind the value is the one before it. -/
theorem run_last {a b : Nat} (hab : a ≤ b) (hspan : (text.extract a b).toList = [q]) (ha : slots.getD 2 none = some a)
    (hb : slots.getD 3 none = some b) (h : text.toList.drop pos = q :: behind) :
    Leads code text origin 2 ⟨⟨21, pos, slots, []⟩, stack, height, returns⟩ True
      ⟨⟨23, pos + 1, slots.setIfInBounds 1 (some (pos + 1)), []⟩, stack, height, returns⟩ := by
  have hback : Leads code text origin 1 ⟨⟨21, pos, slots, []⟩, stack, height, returns⟩ True _ :=
    .backref rfl ha hb hab (by rw [hspan, h]; exact List.prefix_append [q] behind)
  rw [hspan] at hback
  exact (hback.trans (.save rfl)).congr rfl (by simp only [and_true])

/-- The attribute with a quote around its value. -/
def assignment (q : Char) (u : List Char) : List Char := name ++ '=' :: q :: (u ++ [q])

/-- The slots of a match that begins at a position: the whole match, the quote and the value. -/
def slotsOf (pos : Nat) (u : List Char) : Array (Option Nat) :=
  #[some pos, some (pos + 6 + u.length + 1), some (pos + 5), some (pos + 6), some (pos + 6), some (pos + 6 + u.length)]

/-- **The machine reads the attribute**: it goes back for the blanks that are not there and for what is behind the
value, and the quote behind the value is the one before it. -/
theorem run_assignment (hq : q = '"' ∨ q = '\'') (hu : ∀ c ∈ u, value.contains c = true)
    (h : text.toList.drop pos = assignment q u ++ behind) : ∃ stack height,
      Leads code text origin (3 * u.length + 18) ⟨⟨0, pos, Array.replicate 6 none, []⟩, [], 0, returns⟩
        (u.length + 2 < limit ∧ returns + 2 < limit)
        ⟨⟨23, pos + 6 + u.length + 1, slotsOf pos u, []⟩, stack, height, returns + 3⟩ := by
  have hopen : 0 < limit := by decide
  have hdrop : ∀ n, text.toList.drop (pos + n) = (assignment q u ++ behind).drop n := fun n => by
    rw [← List.drop_drop, h]
  have hname : begins (name.map eitherCase) (text.toList.drop pos) = true := by
    rw [begins_name_iff, h, assignment, List.append_assoc, List.map_append]
    exact List.prefix_append name _
  have hsign : text.toList.drop (pos + 4) = '=' :: q :: (u ++ q :: behind) := by rw [hdrop]; simp [assignment, name]
  have hquote : text.toList.drop (pos + 5) = q :: (u ++ q :: behind) := by rw [hdrop]; simp [assignment, name]
  have hvalue : text.toList.drop (pos + 6) = u ++ q :: behind := by rw [hdrop]; simp [assignment, name]
  have hlast : text.toList.drop (pos + 6 + u.length) = q :: behind := by
    rw [← List.drop_drop, hvalue, List.drop_left]
  have hspan : (text.extract (pos + 5) (pos + 6)).toList = [q] := by
    rw [Array.toList_extract, List.extract_eq_take_drop, hquote]
    simp
  have runName : Leads code text origin 3 ⟨⟨0, pos, Array.replicate 6 none, []⟩, [], 0, returns⟩ _
      ⟨⟨5, pos + 4, #[some pos, none, none, none, none, none], []⟩, _, 1, returns⟩ :=
    ((Leads.split seeks.split).trans (.save seeks.save)).trans (.takes seeks.read hname)
  obtain ⟨opened, runValue⟩ := run_value hq hu hvalue
  exact ⟨_, _, ((((runName.trans (run_sign hq hsign)).trans (run_quote hq hquote)).trans runValue).trans
    (run_last (Nat.le_succ _) hspan rfl rfl hlast)).congr (by omega) (by simp only [hopen, and_true, true_and]; omega)⟩

end Run

/-! ## The two searches -/

section Search

variable {text : Array Char} {q : Char} {pre u post : List Char}

/-- The groups of the match at an attribute: all of it, the quote and the value. -/
def groupsOf (pos : Nat) (u : List Char) : Pattern.Captures :=
  #[some (pos, pos + 6 + u.length + 1), some (pos + 5, pos + 6), some (pos + 6, pos + 6 + u.length)]

theorem captured_slotsOf (pos : Nat) (u : List Char) : captured 3 (slotsOf pos u) = groupsOf pos u := by
  have hmin : min pos (pos + 6 + u.length + 1) = pos := Nat.min_eq_left (by omega)
  simp [captured, slotsOf, groupsOf, List.range_succ, hmin]

/-- **The first search finds the attribute**, if what stands before it and its value are not too long. -/
theorem search_assignment (hq : q = '"' ∨ q = '\'') (hu : ∀ c ∈ u, value.contains c = true) (hpre : ¬ Mentions pre)
    (h : text.toList = pre ++ (assignment q u ++ post)) :
    ∃ l, regex.search text 0 =
      if pre.length + 2 < limit ∧ u.length + 2 < limit then .ok (some (groupsOf pre.length u))
      else .error (.exhausted l) := by
  have hsize : text.size = pre.length + (u.length + 7 + post.length) := by
    rw [← Array.length_toList, h]
    simp [assignment, name]
    omega
  have hskip : Leads code text (some 0) (5 * pre.length) (initial 6 0) (pre.length ≤ limit)
      ⟨⟨0, 0 + pre.length, Array.replicate 6 none, []⟩, [], 0, pre.length⟩ :=
    seeks.skip 0 pre.length (by omega) fun i _ hi => by
      rw [h, assignment, List.append_assoc]
      exact begins_name_before hpre (by omega)
  rw [Nat.zero_add] at hskip
  obtain ⟨stack, height, hread⟩ : ∃ stack height, Leads code text (some 0) (3 * u.length + 18)
      ⟨⟨0, pre.length, Array.replicate 6 none, []⟩, [], 0, pre.length⟩ _
      ⟨⟨23, pre.length + 6 + u.length + 1, slotsOf pre.length u, []⟩, stack, height, pre.length + 3⟩ :=
    run_assignment hq hu (by rw [h, List.drop_left])
  have hrun : Leads code text (some 0) _ (initial 6 0) (pre.length + 2 < limit ∧ u.length + 2 < limit) _ :=
    (hskip.trans hread).congr rfl ⟨fun h => ⟨h.2.2, h.2.1⟩, fun h => ⟨by omega, h.2, h.1⟩⟩
  rw [← captured_slotsOf]
  exact hrun.search_eq (b := ⟨code, 6⟩) (r := some _) (Pattern.Extended.Machine.lt_steps _ (by omega)) fun fuel => rfl

theorem search_behind {pos : Nat} (hpos : pos ≤ text.size) (h : text.toList.drop pos = post) (hpost : ¬ Mentions post) :
    ∃ l, regex.search text pos = if post.length < limit then .ok none else .error (.exhausted l) := by
  have hlength : text.size - pos = post.length := by
    rw [← h, List.length_drop, Array.length_toList]
  rw [← hlength]
  exact seeks.search_none (b := ⟨code, 6⟩) hpos fun i hlo hhi => by
    obtain ⟨j, rfl⟩ := Nat.exists_eq_add_of_le hlo
    rw [← List.drop_drop, h]
    exact begins_name_drop hpost j

end Search

/-! ## The text that is left -/

section Text

variable {text : Array Char}

theorem spanText_of_drop {pos : Nat} {cs behind : List Char} (h : text.toList.drop pos = cs ++ behind) :
    spanText text (pos, pos + cs.length) = cs := by
  rw [spanText, Array.toList_extract, List.extract_eq_take_drop, h, Nat.add_sub_cancel_left, List.take_left]

/-- The template's brackets stand around the value. -/
theorem expand_groupsOf {pos : Nat} {u behind : List Char} (h : text.toList.drop (pos + 6) = u ++ behind) :
    Pattern.expand [] text (groupsOf pos u) (Pattern.template "[$2]".toList) = '[' :: (u ++ [']']) := by
  have htemplate : Pattern.template "[$2]".toList = [.literal '[', .group "2", .literal ']'] := by decide
  have hspan : Pattern.spanOf? [] (groupsOf pos u) "2" = some (pos + 6, pos + 6 + u.length) := rfl
  simp only [htemplate, Pattern.expand, List.flatMap_cons, List.flatMap_nil, hspan, spanText_of_drop h]
  rfl

/-- The loop over a text with one match, when either search may fail. -/
theorem replaceAll_once {find : Bool → Pattern.Finder} {why why' : Pattern.Failure} {a b : Nat} {put : List Char}
    {first last : Prop} [Decidable first] [Decidable last] (hab : a < b) (hb : b ≤ text.size)
    (hfirst : find false 0 = if first then .ok (some ((a, b), put)) else .error why)
    (hlast : find false b = if last then .ok none else .error why') :
    replaceAll text find =
      if first ∧ last then .ok (spanText text (0, a) ++ put ++ Pattern.tail text b)
      else .error (if first then why' else why) := by
  have hne : (a == b) = false := by simpa using Nat.ne_of_lt hab
  have hbehind : (some b).any (· < b) = false := decide_eq_false (Nat.lt_irrefl b)
  have hrest : ∀ fuel, Pattern.replaceAllLoop text find (fuel + 1) b b (some b) =
      if last then .ok (Pattern.tail text b) else .error why' := fun fuel => by
    rw [Pattern.replaceAllLoop, if_neg (Nat.not_lt.2 hb), hbehind, hlast]
    split <;> rfl
  rw [replaceAll, Pattern.replaceAllLoop, if_neg (Nat.not_lt.2 (Nat.zero_le _))]
  show (find false 0 >>= _) = _
  rw [hfirst]
  by_cases h : first
  · rw [if_pos h]
    show (if (a == b && (none : Option Nat) == some b) = true then _ else
      Pattern.gap text 0 a >>= fun lead => Pattern.replaceAllLoop text find _ b _ (some b) >>= _) = _
    rw [Pattern.gap_of_le text (Nat.zero_le a)]
    simp only [hne, Bool.false_and, if_neg Bool.false_ne_true, hrest]
    by_cases h' : last
    · rw [if_pos h', if_pos ⟨h, h'⟩]
      rfl
    · rw [if_neg h', if_neg fun hboth => h' hboth.2, if_pos h]
      rfl
  · rw [if_neg h, if_neg fun hboth => h hboth.1, if_neg h]
    rfl

/-- Both searches together: the loop finds the attribute, and nothing behind it. -/
theorem replaceAll_assignment {q : Char} {pre u post : List Char} (hq : q = '"' ∨ q = '\'')
    (hu : ∀ c ∈ u, value.contains c = true) (hpre : ¬ Mentions pre) (hpost : ¬ Mentions post)
    (h : text.toList = pre ++ (assignment q u ++ post)) :
    ∃ l, replaceAll text (regex.finderAll text "[$2]".toList) =
      if (pre.length + 2 < limit ∧ u.length + 2 < limit) ∧ post.length < limit then
        .ok (pre ++ '[' :: (u ++ [']']) ++ post)
      else .error (.exhausted l) := by
  have hvalue : text.toList.drop (pre.length + 6) = u ++ q :: post := by
    rw [← List.drop_drop, h, List.drop_left]
    simp [assignment, name]
  have hbehind : text.toList.drop (pre.length + 6 + u.length + 1) = post := by
    rw [← List.drop_drop, ← List.drop_drop, hvalue, List.drop_left]
    rfl
  have hend : pre.length + 6 + u.length + 1 ≤ text.size := by
    rw [← Array.length_toList, h]
    simp [assignment, name]
    omega
  obtain ⟨l, hsearch⟩ := search_assignment hq hu hpre h
  obtain ⟨l', hsearch'⟩ := search_behind hend hbehind hpost
  have hfirst : regex.finderAll text "[$2]".toList false 0 =
      if pre.length + 2 < limit ∧ u.length + 2 < limit then
        .ok (some ((pre.length, pre.length + 6 + u.length + 1), '[' :: (u ++ [']'])))
      else .error (.exhausted l) := by
    show Pattern.finderOf [] (regex.search text) text (Pattern.template "[$2]".toList) 0 = _
    rw [Pattern.finderOf, hsearch]
    split
    · show Except.ok (some (_, Pattern.expand [] text (groupsOf pre.length u) _)) = _
      rw [expand_groupsOf hvalue]
    · rfl
  have hlast : regex.finderAll text "[$2]".toList false (pre.length + 6 + u.length + 1) =
      if post.length < limit then .ok none else .error (.exhausted l') := by
    show Pattern.finderOf [] (regex.search text) text (Pattern.template "[$2]".toList) _ = _
    rw [Pattern.finderOf, hsearch']
    split <;> rfl
  have hlead : spanText text (0, 0 + pre.length) = pre := spanText_of_drop (by rw [List.drop_zero, h])
  rw [Nat.zero_add] at hlead
  have hsize : text.size = pre.length + 6 + u.length + 1 + post.length := by
    have hlength := congrArg List.length hbehind
    rw [List.length_drop, Array.length_toList] at hlength
    omega
  have htail : Pattern.tail text (pre.length + 6 + u.length + 1) = post := by
    rw [Pattern.tail, hsize]
    exact spanText_of_drop (by rw [hbehind, List.append_nil])
  refine ⟨if pre.length + 2 < limit ∧ u.length + 2 < limit then l' else l, ?_⟩
  rw [replaceAll_once (by omega) hend hfirst hlast, hlead, htail, apply_ite Pattern.Failure.exhausted]

end Text

/-! ## The filter -/

theorem hrefreplace_string (s template : String) :
    hrefreplace (.string s) template =
      (ofMatch (replaceAll s.toList.toArray (regex.finderAll s.toList.toArray template.toList))).map
        fun cs => .string (String.ofList cs) := by
  rw [hrefreplace_eq compile_hrefPattern]
  show (rewriteAll regex template s >>= fun t => pure (Value.string t)) = _
  rw [rewriteAll]
  cases ofMatch (replaceAll s.toList.toArray (regex.finderAll s.toList.toArray template.toList)) <;> rfl

/-- **The filter rewrites the attribute**, and nothing else: in a text with one quoted attribute, whose value holds
neither a quote nor a space, the attribute is replaced by the template.  It gives up where the machine exceeds one of
its limits, which takes texts of about a million characters. -/
theorem hrefreplace_attribute (pre u post : String) (q : Char) (hq : q = '"' ∨ q = '\'')
    (hu : ∀ c ∈ u.toList, c ≠ '"' ∧ c ≠ '\'' ∧ c ≠ ' ') (hpre : ¬ Mentions pre.toList)
    (hpost : ¬ Mentions post.toList) :
    ∃ l, hrefreplace (.string (pre ++ "href=" ++ String.singleton q ++ u ++ String.singleton q ++ post)) "[$2]" =
      if pre.length ≤ 999997 ∧ u.length ≤ 999997 ∧ post.length ≤ 999999 then
        .ok (.string (pre ++ "[" ++ u ++ "]" ++ post))
      else .error (.invalidParams (.replacement l)) := by
  have htext : (pre ++ "href=" ++ String.singleton q ++ u ++ String.singleton q ++ post).toList.toArray.toList =
      pre.toList ++ (assignment q u.toList ++ post.toList) := by
    simp [assignment, name]
  have hfits : ((pre.toList.length + 2 < limit ∧ u.toList.length + 2 < limit) ∧ post.toList.length < limit) ↔
      pre.length ≤ 999997 ∧ u.length ≤ 999997 ∧ post.length ≤ 999999 := by
    simp only [String.length_toList, limit]
    omega
  have hresult : String.ofList (pre.toList ++ '[' :: (u.toList ++ [']']) ++ post.toList) =
      pre ++ "[" ++ u ++ "]" ++ post := by
    rw [← String.toList_inj]
    simp
  obtain ⟨l, hreplaced⟩ := replaceAll_assignment hq (fun c hc => (contains_value c).2 (hu c hc)) hpre hpost htext
  refine ⟨l, ?_⟩
  rw [hrefreplace_string, hreplaced]
  simp only [hfits]
  split
  · rw [← hresult]
    rfl
  · rfl

/-- Of a link in a page the address is kept, in brackets. -/
theorem hrefreplace_attribute_link :
    (∀ c ∈ "/a?b=1".toList, c ≠ '"' ∧ c ≠ '\'' ∧ c ≠ ' ') ∧ ¬ Mentions "<a ".toList ∧ ¬ Mentions ">b</a>".toList ∧
      hrefreplace (.string "<a href='/a?b=1'>b</a>") "[$2]" = .ok (.string "<a [/a?b=1]>b</a>") := by
  have hvalue : ∀ c ∈ "/a?b=1".toList, c ≠ '"' ∧ c ≠ '\'' ∧ c ≠ ' ' := by simp
  have hbefore : ¬ Mentions "<a ".toList := by decide
  have hbehind : ¬ Mentions ">b</a>".toList := by decide
  obtain ⟨l, hlink⟩ := hrefreplace_attribute "<a " "/a?b=1" ">b</a>" '\'' (.inr rfl) hvalue hbefore hbehind
  exact ⟨hvalue, hbefore, hbehind, hlink⟩

/-- **A value with a space is not kept**: its end is not behind a quote, so what is taken for the attribute ends in
front of the first one and has no value. -/
theorem spaced_value_not_kept :
    ¬ ∀ (pre u post : String) (q : Char), (q = '"' ∨ q = '\'') → (∀ c ∈ u.toList, c ≠ '"' ∧ c ≠ '\'') →
      ¬ Mentions u.toList → ¬ Mentions pre.toList → ¬ Mentions post.toList →
      hrefreplace (.string (pre ++ "href=" ++ String.singleton q ++ u ++ String.singleton q ++ post)) "[$2]" =
        .ok (.string (pre ++ "[" ++ u ++ "]" ++ post)) := by
  intro h
  have hkept : hrefreplace (.string "href=\"a b\"") "[$2]" = .ok (.string "[a b]") :=
    h "" "a b" "" '"' (.inl rfl) (by simp) (by decide) (by decide) (by decide)
  have hleft : replaceAll "href=\"a b\"".toList.toArray
      (regex.finderAll "href=\"a b\"".toList.toArray "[$2]".toList) = .ok "[]\"a b\"".toList := by
    decide +kernel
  rw [hrefreplace_string, hleft] at hkept
  exact absurd (Value.string.inj (Except.ok.inj hkept)) (by decide)

end Harvest.Filter.Href
