import Harvest.Pattern.Replace
/-!
# Texts tiled by matches

Replacing matches tiles a text: each match makes room for its expansion, and what lies before, between and behind the
matches is taken over.  A search is any function from positions to matches; all that is asked of it is that a match
lies between the position and the end of the text (`Regular`).
-/
namespace Harvest.Pattern

/-! ## Searches -/

/-- A search that does not fail on a text of some size, and whose matches lie between the position and the end. -/
structure Regular (size : Nat) (search : Searcher) : Prop where
  answers : ∀ pos ≤ size, ∃ found, search pos = .ok found
  bounded : ∀ pos ≤ size, ∀ groups, search pos = .ok (some groups) →
    ∀ span, (groups[0]?).join = some span → pos ≤ span.1 ∧ span.1 ≤ span.2 ∧ span.2 ≤ size

/-- Is an answer from a position as a regular search gives it? -/
def regularAt (size pos : Nat) : Except Failure (Option Captures) → Bool
  | .error _ => false
  | .ok none => true
  | .ok (some groups) =>
    match (groups[0]?).join with
    | none => true
    | some (a, b) => pos ≤ a && a ≤ b && b ≤ size

theorem regular_iff {size : Nat} {search : Searcher} :
    Regular size search ↔ ∀ pos < size + 1, regularAt size pos (search pos) = true := by
  constructor
  · intro h pos hpos
    obtain ⟨found, hfound⟩ := h.answers pos (Nat.le_of_lt_succ hpos)
    rw [hfound]
    cases found with
    | none => rfl
    | some groups =>
      have hbounded := h.bounded pos (Nat.le_of_lt_succ hpos) groups hfound
      cases hspan : (groups[0]?).join with
      | none => simp [regularAt, hspan]
      | some span => simpa [regularAt, hspan, and_assoc] using hbounded span hspan
  · intro h
    constructor
    · intro pos hpos
      have hat := h pos (Nat.lt_succ_of_le hpos)
      cases hfound : search pos with
      | error why =>
        rw [hfound] at hat
        cases hat
      | ok found => exact ⟨found, rfl⟩
    · intro pos hpos groups hfound span hspan
      have hat := h pos (Nat.lt_succ_of_le hpos)
      rw [hfound] at hat
      simpa [regularAt, hspan, and_assoc] using hat

instance (size : Nat) (search : Searcher) : Decidable (Regular size search) := decidable_of_iff' _ regular_iff

/-- A match that is replaced: its span, and what takes its place. -/
abbrev Hit := (Nat × Nat) × List Char

section Search

variable {names : List (String × Nat)} {search : Searcher} {text : Array Char} {template : List Part} {pos : Nat}

theorem finderOf_eq_some {hit : Hit} : finderOf names search text template pos = .ok (some hit) ↔
    ∃ groups, search pos = .ok (some groups) ∧ (groups[0]?).join = some hit.1 ∧
      hit.2 = expand names text groups template := by
  unfold finderOf
  cases search pos with
  | error why => exact ⟨nofun, fun ⟨_, h, _⟩ => nomatch h⟩
  | ok found =>
    cases found with
    | none => exact ⟨nofun, fun ⟨_, h, _⟩ => nomatch h⟩
    | some groups =>
      obtain ⟨span, put⟩ := hit
      show Except.ok ((groups[0]?).join.map _) = _ ↔ _
      simp only [Except.ok.injEq, Option.map_eq_some_iff, Prod.mk.injEq, Option.some.injEq]
      constructor
      · rintro ⟨span', hspan, rfl, hput⟩
        exact ⟨groups, rfl, hspan, hput.symm⟩
      · rintro ⟨groups', rfl, hspan, hput⟩
        exact ⟨span, hspan, rfl, hput.symm⟩

/-- A finder that answers with matches between the position and the end of a text of some size. -/
def Bounded (size : Nat) (find : Finder) : Prop :=
  ∀ pos ≤ size, find pos = .ok none ∨ ∃ hit, find pos = .ok (some hit) ∧
    pos ≤ hit.1.1 ∧ hit.1.1 ≤ hit.1.2 ∧ hit.1.2 ≤ size

theorem Regular.finderOf {size : Nat} (h : Regular size search) :
    Bounded size (finderOf names search text template) := by
  intro pos hpos
  obtain ⟨found, hfound⟩ := h.answers pos hpos
  cases hhit : Pattern.finderOf names search text template pos with
  | error why =>
    unfold Pattern.finderOf at hhit
    rw [hfound] at hhit
    cases found <;> cases hhit
  | ok hit? =>
    cases hit? with
    | none => exact .inl rfl
    | some hit =>
      obtain ⟨groups, hgroups, hspan, _⟩ := finderOf_eq_some.1 hhit
      exact .inr ⟨hit, rfl, h.bounded pos hpos groups hgroups hit.1 hspan⟩

end Search

/-! ## Texts with matches replaced -/

/-- The text from a place on, with what takes the place of some matches. -/
def splice (text : Array Char) : Nat → List Hit → List Char
  | copied, [] => tail text copied
  | copied, (span, put) :: hits => spanText text (copied, span.1) ++ put ++ splice text span.2 hits

theorem spanText_append (text : Array Char) {a b c : Nat} (hab : a ≤ b) (hbc : b ≤ c) :
    spanText text (a, b) ++ spanText text (b, c) = spanText text (a, c) := by
  simp only [spanText]
  rw [← Array.toList_append, Array.extract_append_extract, Nat.min_eq_left hab, Nat.max_eq_right hbc]

theorem tail_zero (text : Array Char) : tail text 0 = text.toList := by
  rw [tail, spanText, Array.extract_size]

theorem spanText_prefix_splice {text : Array Char} {copied start : Nat} (hcopied : copied ≤ start)
    (hstart : start ≤ text.size) {hits : List Hit} (hhits : ∀ hit ∈ hits, start ≤ hit.1.1) :
    spanText text (copied, start) <+: splice text copied hits := by
  cases hits with
  | nil => exact ⟨_, spanText_append text hcopied hstart⟩
  | cons hit hits =>
    have hlead := spanText_append text hcopied (hhits hit List.mem_cons_self)
    rw [splice, ← hlead, List.append_assoc, List.append_assoc]
    exact List.prefix_append _ _

/-- Matches that stand behind one another, no two of them the same. -/
def Ordered (hits : List Hit) : Prop := hits.Pairwise fun hit later => hit.1.2 ≤ later.1.1 ∧ hit.1 ≠ later.1

/-- **Matches in whose places their own texts are put leave a text as it is.** -/
theorem splice_self {text : Array Char} : ∀ {hits : List Hit} (copied : Nat),
    (∀ hit ∈ hits, copied ≤ hit.1.1 ∧ hit.1.1 ≤ hit.1.2 ∧ hit.1.2 ≤ text.size) → Ordered hits →
    (∀ hit ∈ hits, hit.2 = spanText text hit.1) → splice text copied hits = tail text copied
  | [], _, _, _, _ => rfl
  | (span, put) :: hits, copied, hwithin, hordered, hown => by
    obtain ⟨hlead, hspan, hend⟩ := hwithin _ List.mem_cons_self
    obtain ⟨hbehind, hrest⟩ := List.pairwise_cons.1 hordered
    have hput : put = spanText text span := hown _ List.mem_cons_self
    have hself := splice_self span.2
      (fun hit hhit => ⟨(hbehind hit hhit).1, (hwithin hit (List.mem_cons_of_mem _ hhit)).2⟩) hrest
      fun hit hhit => hown hit (List.mem_cons_of_mem _ hhit)
    rw [splice, hself, hput, tail, tail, spanText_append text hlead hspan,
      spanText_append text (Nat.le_trans hlead hspan) hend]

/-! ## Runs of the loop -/

/-- Where a search goes on behind a match: one character further behind an empty one. -/
def resume (span : Nat × Nat) : Nat := if span.1 = span.2 then span.2 + 1 else span.2

/-- Where a search goes on behind some matches. -/
def position (start : Nat) (hits : List Hit) : Nat := hits.foldl (fun _ hit => resume hit.1) start

theorem le_resume (span : Nat × Nat) : span.2 ≤ resume span := by
  unfold resume
  split <;> omega

theorem lt_resume {span : Nat × Nat} (h : span.1 ≤ span.2) : span.1 < resume span := by
  unfold resume
  split <;> omega

/-- The matches that are replaced from a position on, up to a number of them: one for each round of the loop. -/
inductive Edits (size : Nat) (find : Finder) : Option Nat → Nat → List Hit → Prop where
  | spent (pos : Nat) : Edits size find (some 0) pos []
  | noMatch {limit : Option Nat} {pos : Nat} : find pos = .ok none → Edits size find limit pos []
  | atEnd {limit : Option Nat} {pos : Nat} {hit : Hit} : limit ≠ some 0 → find pos = .ok (some hit) →
      hit.1 = (size, size) → Edits size find limit pos [hit]
  | next {limit : Option Nat} {pos : Nat} {hit : Hit} {hits : List Hit} : limit ≠ some 0 →
      find pos = .ok (some hit) → resume hit.1 ≤ size → Edits size find (limit.map (· - 1)) (resume hit.1) hits →
      Edits size find limit pos (hit :: hits)

variable {size : Nat} {find : Finder} {limit : Option Nat} {pos : Nat} {hits : List Hit}

theorem Bounded.of_some (h : Bounded size find) (hpos : pos ≤ size) {hit : Hit} (hhit : find pos = .ok (some hit)) :
    pos ≤ hit.1.1 ∧ hit.1.1 ≤ hit.1.2 ∧ hit.1.2 ≤ size := by
  rcases h pos hpos with hnone | ⟨hit', hsome, hbounds⟩
  · rw [hnone] at hhit
    cases hhit
  · rw [hsome] at hhit
    cases hhit
    exact hbounds

/-- A match ends the run where it is empty and at the end of the text; else the search can go on behind it. -/
theorem resume_le_or_end {span : Nat × Nat} (hspan : span.1 ≤ span.2) (hend : span.2 ≤ size) :
    resume span ≤ size ∨ span = (size, size) := by
  obtain ⟨a, b⟩ := span
  unfold resume
  by_cases hempty : a = b
  · by_cases hlt : b < size
    · rw [if_pos hempty]
      exact .inl hlt
    · have hb : b = size := Nat.le_antisymm hend (Nat.not_lt.1 hlt)
      exact .inr (by rw [hempty, hb])
  · rw [if_neg hempty]
    exact .inl hend

theorem Bounded.exists_edits (h : Bounded size find) (limit : Option Nat) {pos : Nat} (hpos : pos ≤ size) :
    ∃ hits, Edits size find limit pos hits := by
  by_cases hlimit : limit = some 0
  · exact ⟨[], hlimit ▸ .spent pos⟩
  · rcases h pos hpos with hnone | ⟨hit, hsome, hlead, hspan, hend⟩
    · exact ⟨[], .noMatch hnone⟩
    · rcases resume_le_or_end hspan hend with hresume | hlast
      · -- even behind an empty match fewer positions are left
        have hlt := lt_resume hspan
        obtain ⟨hits, hrun⟩ := h.exists_edits (limit.map (· - 1)) hresume
        exact ⟨hit :: hits, .next hlimit hsome hresume hrun⟩
      · exact ⟨[hit], .atEnd hlimit hsome hlast⟩
termination_by size - pos

/-- A gap between matches has a text where they do not overlap. -/
theorem gap_of_le (text : Array Char) {copied start : Nat} (h : copied ≤ start) :
    gap text copied start = .ok (spanText text (copied, start)) := if_neg (Nat.not_lt.2 h)

/-- **The loop follows the run**, with any fuel that covers the positions left. -/
theorem Edits.replaceLoop_eq {text : Array Char} (hfind : Bounded text.size find)
    (h : Edits text.size find limit pos hits) : pos ≤ text.size → ∀ fuel copied : Nat, copied ≤ pos →
      text.size < pos + fuel → replaceLoop text find fuel limit copied pos = .ok (splice text copied hits) := by
  induction h with
  | spent pos =>
    intro _ fuel copied _ _
    cases fuel <;> rfl
  | @noMatch limit pos hnone =>
    intro hpos fuel copied _ hfuel
    obtain ⟨n, rfl⟩ : ∃ n, fuel = n + 1 := ⟨fuel - 1, by omega⟩
    rw [replaceLoop, hnone]
    by_cases hlimit : (limit == some 0) = true
    · rw [if_pos hlimit]
      rfl
    · rw [if_neg hlimit]
      rfl
  | @atEnd limit pos hit hlimit hsome hlast =>
    intro hpos fuel copied hcopied hfuel
    obtain ⟨n, rfl⟩ : ∃ n, fuel = n + 1 := ⟨fuel - 1, by omega⟩
    obtain ⟨⟨a, b⟩, put⟩ := hit
    obtain ⟨rfl, rfl⟩ := Prod.mk.inj hlast
    rw [replaceLoop, if_neg (by simpa using hlimit), hsome]
    show (gap text copied text.size >>= fun lead => if (text.size != text.size) = true then _ else _) = _
    rw [gap_of_le text (Nat.le_trans hcopied hpos)]
    show (if (text.size != text.size) = true then _ else _) = _
    rw [if_neg (by simp), if_neg (Nat.lt_irrefl _)]
    rfl
  | @next limit pos hit hits hlimit hsome hresume hrun ih =>
    intro hpos fuel copied hcopied hfuel
    obtain ⟨n, rfl⟩ : ∃ n, fuel = n + 1 := ⟨fuel - 1, by omega⟩
    obtain ⟨⟨a, b⟩, put⟩ := hit
    obtain ⟨hlead, hspan, hend⟩ := hfind.of_some hpos hsome
    have hlt := lt_resume hspan
    -- the text is taken over up to the end of the match, whether the search goes on there or one character further
    have hgo := ih hresume n b (le_resume (a, b)) (by omega)
    rw [replaceLoop, if_neg (by simpa using hlimit), hsome]
    show (gap text copied a >>= fun lead => if (a != b) = true then _ else _) = _
    rw [gap_of_le text (Nat.le_trans hcopied hlead)]
    show (if (a != b) = true then _ else _) = _
    by_cases hempty : a = b
    · have hresumed : resume (a, b) = b + 1 := if_pos hempty
      have hmore : b < text.size := Nat.le_trans (Nat.le_of_eq hresumed.symm) hresume
      rw [hresumed] at hgo
      rw [if_neg (by simpa using hempty), if_pos hmore, hgo]
      rfl
    · have hresumed : resume (a, b) = b := if_neg hempty
      rw [hresumed] at hgo
      rw [if_pos (by simpa using hempty), hgo]
      rfl

/-! ## What a run has replaced -/

theorem Edits.within (hfind : Bounded size find) (h : Edits size find limit pos hits) : pos ≤ size →
    ∀ hit ∈ hits, pos ≤ hit.1.1 ∧ hit.1.1 ≤ hit.1.2 ∧ hit.1.2 ≤ size := by
  induction h with
  | spent => exact fun _ => nofun
  | noMatch => exact fun _ => nofun
  | atEnd _ hsome _ =>
    intro hpos hit hhit
    rw [List.mem_singleton.1 hhit]
    exact hfind.of_some hpos hsome
  | next _ hsome hresume _ ih =>
    intro hpos hit hhit
    obtain ⟨hlead, hspan, hend⟩ := hfind.of_some hpos hsome
    rcases List.mem_cons.1 hhit with rfl | hhit
    · exact ⟨hlead, hspan, hend⟩
    · obtain ⟨hlead', hspan', hend'⟩ := ih hresume hit hhit
      have hlt := lt_resume hspan
      exact ⟨by omega, hspan', hend'⟩

theorem Edits.ordered (hfind : Bounded size find) (h : Edits size find limit pos hits) :
    pos ≤ size → Ordered hits := by
  induction h with
  | spent => exact fun _ => .nil
  | noMatch => exact fun _ => .nil
  | atEnd => exact fun _ => List.pairwise_singleton _ _
  | @next limit pos hit hits _ hsome hresume hrun ih =>
    intro hpos
    obtain ⟨_, hspan, _⟩ := hfind.of_some hpos hsome
    refine List.pairwise_cons.2 ⟨fun later hlater => ?_, ih hresume⟩
    obtain ⟨hbehind, _, _⟩ := hrun.within hfind hresume later hlater
    have hend := le_resume hit.1
    have hlt := lt_resume hspan
    -- a later match starts at `resume` or behind it, and so behind the start of this one
    refine ⟨by omega, fun hsame => ?_⟩
    rw [← hsame] at hbehind
    omega

/-- Each match is the one that is found from where the search goes on behind those before it. -/
theorem Edits.found (h : Edits size find limit pos hits) : ∀ {before behind : List Hit} {hit : Hit},
    hits = before ++ hit :: behind → find (position pos before) = .ok (some hit) := by
  induction h with
  | spent => exact fun hhits => absurd hhits (by simp)
  | noMatch => exact fun hhits => absurd hhits (by simp)
  | atEnd _ hsome _ =>
    intro before behind hit hhits
    cases before with
    | nil =>
      cases hhits
      exact hsome
    | cons => exact absurd hhits (by simp)
  | next _ hsome _ _ ih =>
    intro before behind hit hhits
    cases before with
    | nil =>
      cases hhits
      exact hsome
    | cons first before =>
      obtain ⟨rfl, hrest⟩ := List.cons.inj hhits
      exact ih hrest

theorem Edits.length_le (h : Edits size find limit pos hits) : ∀ n, limit = some n → hits.length ≤ n := by
  induction h with
  | spent => exact fun _ _ => Nat.zero_le _
  | noMatch => exact fun _ _ => Nat.zero_le _
  | atEnd hlimit _ _ =>
    rintro n rfl
    exact Nat.pos_of_ne_zero fun hn => hlimit (congrArg some hn)
  | next hlimit _ _ _ ih =>
    rintro n rfl
    have hpos : n ≠ 0 := fun hn => hlimit (congrArg some hn)
    have hrest := ih (n - 1) rfl
    rw [List.length_cons]
    omega

/-- A run has a round for each position that is left, at most. -/
theorem Edits.length_le_size (hfind : Bounded size find) (h : Edits size find limit pos hits) :
    pos ≤ size → hits.length ≤ size - pos + 1 := by
  induction h with
  | spent => exact fun _ => Nat.zero_le _
  | noMatch => exact fun _ => Nat.zero_le _
  | atEnd => exact fun _ => Nat.succ_le_succ (Nat.zero_le _)
  | next _ hsome hresume _ ih =>
    intro hpos
    obtain ⟨hlead, hspan, _⟩ := hfind.of_some hpos hsome
    have hlt := lt_resume hspan
    have hrest := ih hresume
    rw [List.length_cons]
    omega

/-- A run ends where all matches that are allowed are replaced, where nothing more is found, or behind an empty match at
the end of the text. -/
theorem Edits.ends (h : Edits size find limit pos hits) : limit = some hits.length ∨
    find (position pos hits) = .ok none ∨ ∃ hit, hits.getLast? = some hit ∧ hit.1 = (size, size) := by
  induction h with
  | spent => exact .inl rfl
  | noMatch hnone => exact .inr (.inl hnone)
  | @atEnd _ _ hit _ _ hlast => exact .inr (.inr ⟨hit, rfl, hlast⟩)
  | @next limit pos hit hits hlimit _ _ _ ih =>
    rcases ih with hspent | hnone | ⟨last, hlast, hend⟩
    · obtain ⟨n, rfl, hn⟩ := Option.map_eq_some_iff.1 hspent
      have hpos : n ≠ 0 := fun h => hlimit (congrArg some h)
      exact .inl (congrArg some (by rw [List.length_cons]; omega))
    · exact .inr (.inl hnone)
    · exact .inr (.inr ⟨last, by rw [List.getLast?_cons, hlast]; rfl, hend⟩)

/-! ## Tilings -/

/-- The matches that replacing up to `limit` of them, from a position on, comes to. -/
structure Tiling (size : Nat) (find : Finder) (limit : Option Nat) (start : Nat) (hits : List Hit) : Prop where
  ordered : Ordered hits
  within : ∀ hit ∈ hits, start ≤ hit.1.1 ∧ hit.1.1 ≤ hit.1.2 ∧ hit.1.2 ≤ size
  found : ∀ before hit behind, hits = before ++ hit :: behind → find (position start before) = .ok (some hit)
  atMost : ∀ n, limit = some n → hits.length ≤ n
  rounds : hits.length ≤ size - start + 1
  ends : limit = some hits.length ∨ find (position start hits) = .ok none ∨
    ∃ hit, hits.getLast? = some hit ∧ hit.1 = (size, size)

theorem Edits.tiling (hfind : Bounded size find) (h : Edits size find limit pos hits) (hpos : pos ≤ size) :
    Tiling size find limit pos hits where
  ordered := h.ordered hfind hpos
  within := h.within hfind hpos
  found _ _ _ := h.found
  atMost := h.length_le
  rounds := h.length_le_size hfind hpos
  ends := h.ends

/-- **Replacing tiles the text**: the loop ends, whatever fuel it has beyond the positions left, and it yields the text
with the matches of a tiling replaced. -/
theorem Bounded.exists_tiling {text : Array Char} {start : Nat} (hfind : Bounded text.size find)
    (limit : Option Nat) (hstart : start ≤ text.size) : ∃ hits, Tiling text.size find limit start hits ∧
      ∀ fuel, text.size < start + fuel → replaceLoop text find fuel limit 0 start = .ok (splice text 0 hits) := by
  obtain ⟨hits, hrun⟩ := hfind.exists_edits limit hstart
  exact ⟨hits, hrun.tiling hfind hstart,
    fun fuel hfuel => hrun.replaceLoop_eq hfind hstart fuel 0 (Nat.zero_le _) hfuel⟩

end Harvest.Pattern
