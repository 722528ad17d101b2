import Harvest.Proofs.Pattern.Tiling
import Mathlib.Data.List.Chain
/-!
# Empty matches right behind other matches

The two loops that replace matches go on behind a match in the same way.  `replaceFrom` replaces all matches that it
comes to, `replaceAll` leaves out an empty match right behind the match before it.  Its search is told where it follows
an empty match.  Where it finds what the other finds all the same, the two loops run over the same matches, and agree
exactly where such a match would make room for nothing (`Scan.loops_agree_iff`).
-/
namespace Harvest.Pattern

/-- The match is empty and stands right behind the one that ends at `last`. -/
def Adjoins (last : Option Nat) (hit : Hit) : Prop := hit.1.1 = hit.1.2 ∧ last = some hit.1.2

instance (last : Option Nat) (hit : Hit) : Decidable (Adjoins last hit) := inferInstanceAs (Decidable (_ ∧ _))

/-- The matches without the empty ones right behind another one; `last` is where the match before them ends. -/
def apart : Option Nat → List Hit → List Hit
  | _, [] => []
  | last, hit :: hits =>
    if Adjoins last hit then apart (some hit.1.2) hits else hit :: apart (some hit.1.2) hits

/-- Each match that adjoins the one before it makes room for nothing. -/
def Idle (hits : List Hit) : Prop := hits.IsChain fun hit next => Adjoins (some hit.1.2) next → next.2 = []

variable {last : Option Nat} {hit : Hit} {hits : List Hit}

theorem apart_of_adjoins (h : Adjoins last hit) (hits : List Hit) :
    apart last (hit :: hits) = apart (some hit.1.2) hits := if_pos h

theorem apart_of_not_adjoins (h : ¬ Adjoins last hit) (hits : List Hit) :
    apart last (hit :: hits) = hit :: apart (some hit.1.2) hits := if_neg h

theorem apart_sublist : ∀ (last : Option Nat) (hits : List Hit), (apart last hits).Sublist hits
  | _, [] => .slnil
  | last, hit :: hits => by
    by_cases h : Adjoins last hit
    · rw [apart_of_adjoins h]
      exact (apart_sublist _ hits).cons hit
    · rw [apart_of_not_adjoins h]
      exact (apart_sublist _ hits).cons_cons hit

/-- No match that is kept adjoins the one kept before it. -/
theorem isChain_apart : ∀ (last : Option Nat) (hits : List Hit),
    (∀ hit ∈ (apart last hits).head?, ¬ Adjoins last hit) ∧
      (apart last hits).IsChain fun hit next => ¬ Adjoins (some hit.1.2) next
  | _, [] => ⟨nofun, .nil⟩
  | last, hit :: hits => by
    obtain ⟨hfirst, hchain⟩ := isChain_apart (some hit.1.2) hits
    by_cases h : Adjoins last hit
    · -- the match left out ends where the one before it does
      rw [apart_of_adjoins h, h.2]
      exact ⟨hfirst, hchain⟩
    · rw [apart_of_not_adjoins h]
      exact ⟨fun first hmem => Option.mem_some.1 hmem ▸ h, List.isChain_cons.2 ⟨hfirst, hchain⟩⟩

/-! ## Searches that do not ask where to go on -/

namespace Extended.Machine

variable {prog : Array XInst} {text : Array Char}

theorem step_origin {i : XInst} (h : i ≠ .searchStart) (origin origin' : Option Nat) (s : State) :
    step text origin s i = step text origin' s i := by
  cases i with
  | searchStart => exact absurd rfl h
  | _ => rfl

/-- A program that does not ask where a match may go on runs alike wherever that is. -/
theorem run_origin (h : XInst.searchStart ∉ prog) (origin origin' : Option Nat) : ∀ (fuel : Nat) (s : State),
    run prog text origin fuel s = run prog text origin' fuel s
  | 0, _ => rfl
  | fuel + 1, s => by
    rw [run, run]
    cases hi : prog[s.thread.pc]? with
    | none => rfl
    | some i =>
      have hne : i ≠ .searchStart := fun heq => h (heq ▸ Array.mem_of_getElem? hi)
      simp only [step_origin hne origin origin', run_origin h origin origin' fuel]

theorem search_origin {b : Build} (h : XInst.searchStart ∉ b.code) (groups start : Nat) (origin origin' : Option Nat) :
    search b groups text start origin = search b groups text start origin' := by
  unfold search
  simp only [run_origin h origin origin']

end Extended.Machine

/-- Does a pattern ask anywhere where a match may go on from the match before? -/
def Regex.asks (r : Regex) : Bool :=
  match r.method with
  | .linear _ => false
  | .machine b => b.code.contains .searchStart

theorem Regex.searchFrom_eq {r : Regex} (h : r.asks = false) (text : Array Char) (start : Nat) (origin : Option Nat) :
    r.searchFrom text start origin = r.search text start := by
  unfold Regex.asks at h
  unfold Regex.search Regex.searchFrom
  cases hmethod : r.method with
  | linear code => rfl
  | machine b =>
    rw [hmethod] at h
    have hnone : Extended.XInst.searchStart ∉ b.code := fun hmem =>
      Bool.eq_false_iff.1 h (Array.contains_iff_mem.2 hmem)
    exact Extended.Machine.search_origin hnone r.groups start origin (some start)

/-- The search for all matches is the plain one where the template can name groups, and where the pattern does not ask
where a match may go on. -/
theorem Regex.searchAll_eq {r : Regex} {template : List Char} (h : '$' ∈ template ∨ r.asks = false)
    (text : Array Char) (stepped : Bool) : r.searchAll text template stepped = r.search text := by
  funext pos
  rcases h with hmem | hasks
  · have hcontains : template.contains '$' = true := List.contains_iff_mem.2 hmem
    unfold Regex.searchAll
    rw [hcontains, Bool.not_true, Bool.and_false]
    rfl
  · exact r.searchFrom_eq hasks text pos _

/-! ## Runs over all matches -/

/-- The matches that a search for all of them comes to; it is told whether the match before was an empty one. -/
inductive Scan (size : Nat) (find : Bool → Finder) : Bool → Nat → List Hit → Prop where
  | past {stepped : Bool} {pos : Nat} : size < pos → Scan size find stepped pos []
  | noMatch {stepped : Bool} {pos : Nat} : pos ≤ size → find stepped pos = .ok none → Scan size find stepped pos []
  | next {stepped : Bool} {pos : Nat} {hit : Hit} {hits : List Hit} : pos ≤ size →
      find stepped pos = .ok (some hit) → Scan size find (hit.1.1 == hit.1.2) (resume hit.1) hits →
      Scan size find stepped pos (hit :: hits)

section Scan

variable {size pos : Nat} {find : Finder} {all : Bool → Finder} {stepped : Bool} {limit : Option Nat}

theorem exists_scan (hall : ∀ stepped, Bounded size (all stepped)) (stepped : Bool) (pos : Nat) :
    ∃ hits, Scan size all stepped pos hits := by
  by_cases hpos : pos ≤ size
  · rcases hall stepped pos hpos with hnone | ⟨hit, hsome, hlead, hspan, _⟩
    · exact ⟨[], .noMatch hpos hnone⟩
    · have hlt := lt_resume hspan
      obtain ⟨hits, hrun⟩ := exists_scan hall (hit.1.1 == hit.1.2) (resume hit.1)
      exact ⟨hit :: hits, .next hpos hsome hrun⟩
  · exact ⟨[], .past (Nat.lt_of_not_le hpos)⟩
termination_by size + 1 - pos

theorem Scan.unique (h : Scan size all stepped pos hits) : ∀ {hits' : List Hit}, Scan size all stepped pos hits' →
    hits = hits' := by
  induction h with
  | past hpast =>
    intro hits' h'
    cases h' with
    | past => rfl
    | noMatch hpos => exact absurd hpast (Nat.not_lt.2 hpos)
    | next hpos => exact absurd hpast (Nat.not_lt.2 hpos)
  | noMatch hpos hnone =>
    intro hits' h'
    cases h' with
    | past hpast => exact absurd hpast (Nat.not_lt.2 hpos)
    | noMatch => rfl
    | next _ hsome =>
      rw [hnone] at hsome
      cases hsome
  | next hpos hsome _ ih =>
    intro hits' h'
    cases h' with
    | past hpast => exact absurd hpast (Nat.not_lt.2 hpos)
    | noMatch _ hnone =>
      rw [hsome] at hnone
      cases hnone
    | next _ hsome' hrun' =>
      rw [hsome] at hsome'
      cases hsome'
      rw [ih hrun']

/-- A search that does not mind what it is told comes to the matches of the other loop. -/
theorem Edits.scan (hsame : ∀ stepped pos, all stepped pos = find pos) (h : Edits size find limit pos hits) :
    limit = none → pos ≤ size → ∀ stepped, Scan size all stepped pos hits := by
  induction h with
  | spent => exact fun hlimit => nomatch hlimit
  | noMatch hnone => exact fun _ hpos stepped => .noMatch hpos ((hsame stepped _).trans hnone)
  | atEnd _ hsome hlast =>
    intro _ hpos stepped
    refine .next hpos ((hsame stepped _).trans hsome) (.past ?_)
    rw [hlast, resume, if_pos rfl]
    exact Nat.lt_succ_self _
  | next _ hsome hresume _ ih =>
    rintro rfl hpos stepped
    exact .next hpos ((hsame stepped _).trans hsome) (ih rfl hresume _)

end Scan

/-! ## The loop over matches that stand apart -/

section Loop

variable {text : Array Char} {find : Finder} {all : Bool → Finder} {stepped : Bool} {limit : Option Nat} {pos : Nat}

theorem replaceAllLoop_of_lt (h : text.size < pos) (all : Bool → Finder) (copied : Nat) (last : Option Nat) :
    ∀ fuel : Nat, replaceAllLoop text all fuel copied pos last = .ok (tail text copied)
  | 0 => rfl
  | fuel + 1 => by
    rw [replaceAllLoop, if_pos h]
    rfl

/-- The search has gone on behind the end of the last match exactly if that match was an empty one. -/
theorem stepped_resume (span : Nat × Nat) : (some span.2).any (· < resume span) = (span.1 == span.2) := by
  obtain ⟨a, b⟩ := span
  by_cases h : a = b <;> simp [resume, h]

/-- **The loop that leaves out what adjoins follows the scan**, with any fuel that covers the positions left. -/
theorem Scan.replaceAllLoop_eq (hall : ∀ stepped, Bounded text.size (all stepped))
    (h : Scan text.size all stepped pos hits) : ∀ (fuel copied : Nat) (last : Option Nat), copied ≤ pos →
      text.size < pos + fuel → last.any (· < pos) = stepped →
      replaceAllLoop text all fuel copied pos last = .ok (splice text copied (apart last hits)) := by
  induction h with
  | past hpast => exact fun fuel copied last _ _ _ => replaceAllLoop_of_lt hpast all copied last fuel
  | @noMatch stepped pos hpos hnone =>
    rintro fuel copied last _ hfuel rfl
    obtain ⟨n, rfl⟩ : ∃ n, fuel = n + 1 := ⟨fuel - 1, by omega⟩
    rw [replaceAllLoop, if_neg (Nat.not_lt.2 hpos), hnone]
    rfl
  | @next stepped pos hit hits hpos hsome _ ih =>
    rintro fuel copied last hcopied hfuel rfl
    obtain ⟨n, rfl⟩ : ∃ n, fuel = n + 1 := ⟨fuel - 1, by omega⟩
    obtain ⟨hlead, hspan, _⟩ := (hall _).of_some hpos hsome
    have hlt := lt_resume hspan
    have hend := le_resume hit.1
    obtain ⟨⟨a, b⟩, put⟩ := hit
    have hnext : (if (a == b) = true then b + 1 else b) = resume (a, b) := by simp only [resume, beq_iff_eq]
    rw [replaceAllLoop, if_neg (Nat.not_lt.2 hpos), hsome]
    show (if (a == b && last == some b) = true then
      replaceAllLoop text all n copied (if (a == b) = true then b + 1 else b) last else _) = _
    rw [hnext]
    by_cases h : Adjoins last ((a, b), put)
    · -- the match left out ends where the one before it does, so this is where the last match still ends
      rw [if_pos (by simpa [Adjoins] using h), apart_of_adjoins h, h.2]
      exact ih n copied (some b) (Nat.le_trans hcopied (Nat.le_trans hlead (Nat.le_trans hspan hend))) (by omega)
        (stepped_resume (a, b))
    · rw [if_neg (by simpa [Adjoins] using h), apart_of_not_adjoins h]
      show (gap text copied a >>= fun lead => replaceAllLoop text all n b (resume (a, b)) (some b) >>= _) = _
      rw [gap_of_le text (Nat.le_trans hcopied hlead)]
      show (replaceAllLoop text all n b (resume (a, b)) (some b) >>= _) = _
      rw [ih n b (some b) hend (by omega) (stepped_resume (a, b))]
      rfl

/-! ## Where the loops agree -/

/-- Leaving out a match that adjoins takes away what it makes room for. -/
theorem splice_of_adjoins {copied : Nat} (h : Adjoins (some copied) hit) (hits : List Hit) :
    splice text copied (hit :: hits) = hit.2 ++ splice text copied hits := by
  obtain ⟨⟨a, b⟩, put⟩ := hit
  obtain ⟨rfl, hb⟩ : a = b ∧ some copied = some b := h
  obtain rfl := Option.some.inj hb
  simp [splice, spanText]

theorem length_splice_apart_le (text : Array Char) : ∀ (hits : List Hit) {last : Option Nat} {copied : Nat},
    (∀ e, last = some e → copied = e) →
      (splice text copied (apart last hits)).length ≤ (splice text copied hits).length
  | [], _, _, _ => Nat.le_refl _
  | hit :: hits, last, copied, hcopied => by
    have hend : ∀ e, some hit.1.2 = some e → hit.1.2 = e := fun e => Option.some.inj
    have hrest := length_splice_apart_le text hits hend
    by_cases h : Adjoins last hit
    · obtain rfl := hcopied _ h.2
      rw [apart_of_adjoins h, splice_of_adjoins ⟨h.1, rfl⟩, List.length_append]
      exact Nat.le_trans hrest (Nat.le_add_left _ _)
    · rw [apart_of_not_adjoins h]
      simpa [splice] using hrest

/-- The texts with and without the matches that adjoin are the same where those make room for nothing, and nowhere
else. -/
theorem splice_apart_eq_iff : ∀ (hits : List Hit) {last : Option Nat} {copied : Nat},
    (∀ e, last = some e → copied = e) →
      (splice text copied (apart last hits) = splice text copied hits ↔
        (∀ hit ∈ hits.head?, Adjoins last hit → hit.2 = []) ∧ Idle hits)
  | [], _, _, _ => iff_of_true rfl ⟨nofun, .nil⟩
  | hit :: hits, last, copied, hcopied => by
    have hend : ∀ e, some hit.1.2 = some e → hit.1.2 = e := fun e => Option.some.inj
    have hrest := splice_apart_eq_iff hits hend
    have hchain : Idle (hit :: hits) ↔ (∀ next ∈ hits.head?, Adjoins (some hit.1.2) next → next.2 = []) ∧ Idle hits :=
      List.isChain_cons
    rw [hchain, ← hrest]
    by_cases h : Adjoins last hit
    · obtain rfl := hcopied _ h.2
      have hlength := length_splice_apart_le text hits hend
      rw [apart_of_adjoins h, splice_of_adjoins ⟨h.1, rfl⟩]
      constructor
      · intro heq
        have hput : hit.2 = [] := by
          rw [heq, List.length_append] at hlength
          exact List.eq_nil_of_length_eq_zero (by omega)
        rw [hput, List.nil_append] at heq
        exact ⟨fun first hfirst _ => Option.mem_some.1 hfirst ▸ hput, heq⟩
      · rintro ⟨hput, heq⟩
        rw [hput hit rfl h, List.nil_append, heq]
    · rw [apart_of_not_adjoins h]
      show _ ++ _ ++ _ = _ ++ _ ++ _ ↔ _
      rw [List.append_cancel_left_eq]
      exact ⟨fun heq => ⟨fun first hfirst hadj => absurd (Option.mem_some.1 hfirst ▸ hadj) h, heq⟩, And.right⟩

/-- **What the two loops make of a text**: each follows its own run. -/
theorem Scan.loops_eq {hits' : List Hit} (hfind : Bounded text.size find)
    (hall : ∀ stepped, Bounded text.size (all stepped)) (h : Edits text.size find none 0 hits)
    (h' : Scan text.size all false 0 hits') :
    replaceFrom text find 0 none = .ok (splice text 0 hits) ∧
      replaceAll text all = .ok (splice text 0 (apart none hits')) :=
  ⟨h.replaceLoop_eq hfind (Nat.zero_le _) (text.size + 2) 0 (Nat.le_refl _) (by omega),
    h'.replaceAllLoop_eq hall (2 * text.size + 2) 0 none (Nat.le_refl _) (by omega) rfl⟩

/-- **Over the same matches the two loops agree exactly where those that adjoin make room for nothing.** -/
theorem Scan.loops_agree_iff (hfind : Bounded text.size find) (hall : ∀ stepped, Bounded text.size (all stepped))
    (h : Edits text.size find none 0 hits) (h' : Scan text.size all false 0 hits) :
    replaceFrom text find 0 none = replaceAll text all ↔ Idle hits := by
  obtain ⟨hfrom, hreplaced⟩ := Scan.loops_eq hfind hall h h'
  have hnone : ∀ e, none = some e → 0 = e := fun _ => nofun
  have hfirst : ∀ hit ∈ hits.head?, Adjoins none hit → hit.2 = [] := fun _ _ hadj => nomatch hadj.2
  rw [hfrom, hreplaced, Except.ok.injEq, eq_comm, splice_apart_eq_iff hits hnone]
  exact and_iff_right hfirst

end Loop

end Harvest.Pattern
