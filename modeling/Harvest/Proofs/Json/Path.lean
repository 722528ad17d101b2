import Harvest.Json.Path
import Harvest.Proofs.Text.Numeral
/-!
# Paths put together, and paths as texts

The path of two texts with a dot between them is the path of the one and then that of the other (`parse_dotted`), and it
leads where these lead one after the other (`resolve_append`).  Steps that can be written come back from their text
(`parse_toText`).
-/
namespace Harvest

namespace Json

open Text (splitAt)

namespace Path

theorem indices_cons {fuel : Nat} {c : Char} {body : List Char} {steps : List Step} :
    indices (fuel + 1) (c :: body) = .ok steps ↔ ∃ inner rest i more, c = '[' ∧ Text.cut? [']'] body = some (inner, rest) ∧
      inner.isEmpty = false ∧ inner.all Text.Numeral.isDigit = true ∧ Text.Numeral.nat64? inner = some i ∧
      indices fuel rest = .ok more ∧ steps = .index i :: more := by
  constructor
  · intro h
    unfold indices at h
    split at h
    · cases h
    · rename_i hc
      split at h
      · cases h
      · rename_i inner rest hcut
        split at h
        · cases h
        · rename_i hinner
          split at h
          · cases h
          · rename_i i hi
            cases hmore : indices fuel rest with
            | error fault =>
              rw [hmore] at h
              cases h
            | ok more =>
              rw [hmore] at h
              cases h
              exact ⟨inner, rest, i, more, by simpa using hc, hcut, by simp_all, by simp_all, hi, hmore, rfl⟩
  · rintro ⟨inner, rest, i, more, rfl, hcut, hempty, hdigits, hi, hmore, rfl⟩
    simp [indices, hcut, hempty, hdigits, hi, hmore, Bind.bind, Except.bind, Pure.pure, Except.pure]

def bracketed (n : Nat) : List Char := '[' :: (Nat.toDigits 10 n ++ [']'])

theorem cut?_bracketed (n : Nat) (rest : List Char) :
    Text.cut? [']'] (Nat.toDigits 10 n ++ ']' :: rest) = some (Nat.toDigits 10 n, rest) := by
  refine Text.cut?_append fun h => ?_
  exact absurd (Nat.isDigit_of_mem_toDigits (by decide) (by decide) h) (by decide)

-- Both fuels are free: the one is the length of the whole rest, the other that of the rest with an index behind it.
theorem indices_append {n : Nat} (hn : n < 0x10000000000000000) : ∀ {fuel fuel' : Nat} {rest : List Char} {steps : List Step},
    indices fuel rest = .ok steps → rest.length ≤ fuel → (rest ++ bracketed n).length ≤ fuel' →
      indices fuel' (rest ++ bracketed n) = .ok (steps ++ [.index n])
  | _, 0, rest, _, _, _, hfuel' => by
    rw [List.length_append] at hfuel'
    exact absurd hfuel' (by simp [bracketed])
  | fuel, fuel' + 1, [], steps, h, _, _ => by
    have hsteps : steps = [] := by
      cases fuel <;> cases h <;> rfl
    have hdone : indices fuel' [] = .ok [] := by
      cases fuel' <;> rfl
    rw [hsteps]
    refine indices_cons.2 ⟨_, [], n, [], rfl, cut?_bracketed n [], ?_, Text.Numeral.all_isDigit_toDigits n,
      Text.Numeral.nat64?_toDigits hn, hdone, rfl⟩
    simp [Nat.toDigits_ne_nil]
  | fuel + 1, fuel' + 1, c :: body, steps, h, hfuel, hfuel' => by
    obtain ⟨inner, rest, i, more, rfl, hcut, hempty, hdigits, hi, hmore, rfl⟩ := indices_cons.1 h
    obtain ⟨rfl, hinner⟩ := Text.cut?_eq_some.1 hcut
    simp only [List.length_append, List.length_cons] at hfuel hfuel'
    have hlength : (rest ++ bracketed n).length ≤ fuel' := by
      rw [List.length_append]
      omega
    have hmore' := indices_append hn hmore (by omega) hlength
    refine indices_cons.2 ⟨inner, rest ++ bracketed n, i, more ++ [.index n], rfl, ?_, hempty, hdigits, hi, hmore', rfl⟩
    show Text.cut? [']'] ((inner ++ ']' :: rest) ++ bracketed n) = _
    rw [List.append_assoc]
    exact Text.cut?_append hinner

/-! ## Segments -/

/-- The step of what stands before the indices of a segment. -/
def keyed (key : List Char) : List Step :=
  if key.isEmpty || String.ofList key == "this" then [] else [.key (String.ofList key)]

theorem segment_eq_ok {cs : List Char} {steps : List Step} : segment cs = .ok steps ↔ cs ≠ [] ∧
    ∃ more, indices (cs.dropWhile (· != '[')).length (cs.dropWhile (· != '[')) = .ok more ∧
      steps = keyed (cs.takeWhile (· != '[')) ++ more := by
  have hempty : ((cs.takeWhile (· != '[')).isEmpty && (cs.dropWhile (· != '[')).isEmpty) = cs.isEmpty := by
    cases cs with
    | nil => rfl
    | cons c cs => by_cases hc : c = '[' <;> simp [hc]
  unfold segment keyed
  simp only [hempty]
  cases cs with
  | nil => simp
  | cons c cs =>
    cases indices ((c :: cs).dropWhile (· != '[')).length ((c :: cs).dropWhile (· != '[')) with
    | error fault => simp [Bind.bind, Except.bind]
    | ok more =>
      simp only [List.isEmpty_cons, Bool.false_eq_true, if_false, Bind.bind, Except.bind, Pure.pure, Except.pure,
        Except.ok.injEq, ne_eq, reduceCtorEq, not_false_eq_true, true_and, exists_eq_left']
      split <;> exact eq_comm

theorem segment_key {k : String} (hempty : k ≠ "") (hthis : k ≠ "this") (hbracket : '[' ∉ k.toList) :
    segment k.toList = .ok [.key k] := by
  have hkey : ∀ c ∈ k.toList, (c != '[') = true := by
    intro c hc
    rw [bne_iff_ne]
    rintro rfl
    exact hbracket hc
  have hkeyed : keyed k.toList = [.key k] := by
    simp [keyed, hempty, hthis]
  rw [segment_eq_ok, List.takeWhile_eq_self_iff.2 hkey, List.dropWhile_eq_nil_iff.2 hkey, hkeyed]
  exact ⟨by simpa using hempty, [], rfl, rfl⟩

/-- **A segment takes one index more.** -/
theorem segment_append {n : Nat} (hn : n < 0x10000000000000000) {cs : List Char} {steps : List Step} (h : segment cs = .ok steps) :
    segment (cs ++ bracketed n) = .ok (steps ++ [.index n]) := by
  obtain ⟨hne, more, hmore, rfl⟩ := segment_eq_ok.1 h
  have hkey : (cs ++ bracketed n).takeWhile (· != '[') = cs.takeWhile (· != '[') := by
    rw [List.takeWhile_append]
    split
    · rename_i hlength
      rw [(List.takeWhile_prefix _).eq_of_length hlength]
      exact List.append_nil cs
    · rfl
  have hrest : (cs ++ bracketed n).dropWhile (· != '[') = cs.dropWhile (· != '[') ++ bracketed n := by
    rw [List.dropWhile_append]
    split
    · rename_i hempty
      rw [List.isEmpty_iff.1 hempty]
      rfl
    · rfl
  rw [segment_eq_ok, hkey, hrest]
  refine ⟨List.append_ne_nil_of_left_ne_nil hne _, more ++ [.index n], ?_, List.append_assoc ..⟩
  exact indices_append hn hmore (Nat.le_refl _) (Nat.le_refl _)

theorem segments_cons {x : List Char} {xs : List (List Char)} {steps : List Step} :
    segments (x :: xs) = .ok steps ↔ ∃ p q, segment x = .ok p ∧ segments xs = .ok q ∧ steps = p ++ q := by
  rw [segments]
  cases segment x with
  | error fault => simp [Bind.bind, Except.bind]
  | ok p =>
    cases segments xs with
    | error fault => simp [Bind.bind, Except.bind]
    | ok q => simp [Bind.bind, Except.bind, Pure.pure, Except.pure, eq_comm]

theorem segments_append (ys : List (List Char)) : ∀ {xs : List (List Char)} {steps : List Step},
    segments (xs ++ ys) = .ok steps ↔ ∃ p q, segments xs = .ok p ∧ segments ys = .ok q ∧ steps = p ++ q
  | [], steps => by
    simp [segments]
  | x :: xs, steps => by
    rw [List.cons_append, segments_cons]
    constructor
    · rintro ⟨p, q, hx, hrest, rfl⟩
      obtain ⟨r, t, hxs, hys, rfl⟩ := (segments_append ys).1 hrest
      exact ⟨p ++ r, t, segments_cons.2 ⟨p, r, hx, hxs, rfl⟩, hys, (List.append_assoc ..).symm⟩
    · rintro ⟨p, q, hxxs, hys, rfl⟩
      obtain ⟨r, t, hx, hxs, rfl⟩ := segments_cons.1 hxxs
      exact ⟨r, t ++ q, hx, (segments_append ys).2 ⟨t, q, hxs, hys, rfl⟩, List.append_assoc ..⟩

/-! ## Paths -/

theorem parse_eq_ok {raw : String} {path : Path} : parse raw = .ok path ↔ segments (splitAt '.' raw.toList) = .ok path := by
  unfold parse
  cases segments (splitAt '.' raw.toList) <;> simp

/-- **The path of two texts with a dot between them** is the path of the one and then that of the other. -/
theorem parse_dotted {a b : String} {path : Path} :
    parse (a ++ "." ++ b) = .ok path ↔ ∃ p q, parse a = .ok p ∧ parse b = .ok q ∧ path = p ++ q := by
  have hchars : (a ++ "." ++ b).toList = a.toList ++ '.' :: b.toList := by simp
  simp only [parse_eq_ok, hchars, Text.splitAt_append, segments_append]

theorem walk_eq_ok : ∀ {walked steps : List Step} {j k : Json},
    walk walked steps j = .ok k ↔ steps.foldlM (fun j s => step? s j) j = some k
  | _, [], j, k => by simp [walk]
  | walked, s :: steps, j, k => by
    rw [List.foldlM_cons, walk]
    cases step? s j with
    | none => simp
    | some i => exact walk_eq_ok

/-- **A path leads where its parts lead one after the other.** -/
theorem resolve_append {p q : Path} {j k : Json} :
    resolve (p ++ q) j = .ok k ↔ ∃ i, resolve p j = .ok i ∧ resolve q i = .ok k := by
  unfold resolve
  simp only [walk_eq_ok, List.foldlM_append, Option.bind_eq_bind, Option.bind_eq_some_iff]

def follow (raw : String) (j : Json) : Except ExtractError Json := (parse raw).bind fun path => path.resolve j

theorem follow_eq_ok {raw : String} {j k : Json} :
    follow raw j = .ok k ↔ ∃ path, parse raw = .ok path ∧ path.resolve j = .ok k := by
  unfold follow
  cases parse raw <;> simp [Except.bind]

theorem follow_dotted {a b : String} {j k : Json} :
    follow (a ++ "." ++ b) j = .ok k ↔ ∃ i, follow a j = .ok i ∧ follow b i = .ok k := by
  simp only [follow_eq_ok]
  constructor
  · rintro ⟨path, hpath, hk⟩
    obtain ⟨p, q, hp, hq, rfl⟩ := parse_dotted.1 hpath
    obtain ⟨i, hi, hk⟩ := resolve_append.1 hk
    exact ⟨i, ⟨p, hp, hi⟩, q, hq, hk⟩
  · rintro ⟨i, ⟨p, hp, hi⟩, q, hq, hk⟩
    exact ⟨p ++ q, parse_dotted.2 ⟨p, q, hp, hq, rfl⟩, resolve_append.2 ⟨i, hi, hk⟩⟩

/-! ## Texts of paths -/

end Path

/-- A step that can be written: a key that is neither empty nor `this` and has no dot and no bracket in it, or an index
of 64 bits. -/
def Step.Writable : Step → Prop
  | key k => k ≠ "" ∧ k ≠ "this" ∧ '.' ∉ k.toList ∧ '[' ∉ k.toList
  | index i => i < 0x10000000000000000

namespace Path

/-- Steps as they are written behind others: each key behind a dot, each index in brackets. -/
def behind (steps : List Step) : List Char := steps.flatMap fun s => s.render.toList

/-- The text of a path: its keys with dots between them and its indices in brackets, behind `this` if no key is first. -/
def toText : Path → String
  | .key k :: steps => k ++ String.ofList (behind steps)
  | steps => "this" ++ String.ofList (behind steps)

theorem behind_key (k : String) (steps : List Step) : behind (.key k :: steps) = '.' :: (k.toList ++ behind steps) := by
  simp [behind, Step.render]

theorem behind_index (n : Nat) (steps : List Step) : behind (.index n :: steps) = bracketed n ++ behind steps := by
  simp [behind, Step.render, bracketed, Text.Numeral.ofNat]

theorem dot_not_mem_bracketed (n : Nat) : '.' ∉ bracketed n := by
  intro h
  rcases List.mem_cons.1 h with h | h
  · exact absurd h (by decide)
  · rcases List.mem_append.1 h with h | h
    · exact absurd (Nat.isDigit_of_mem_toDigits (by decide) (by decide) h) (by decide)
    · exact absurd (List.mem_singleton.1 h) (by decide)

-- By induction on the steps; `cs` is the segment that has been begun, whose steps are `done`.
theorem segments_behind : ∀ {steps : List Step} {cs : List Char} {done : List Step}, (∀ s ∈ steps, s.Writable) →
    '.' ∉ cs → segment cs = .ok done → segments (splitAt '.' (cs ++ behind steps)) = .ok (done ++ steps)
  | [], cs, done, _, hdot, h => by
    have hcs : cs ++ behind [] = cs := List.append_nil cs
    rw [hcs, Text.splitAt_of_not_mem hdot]
    exact segments_cons.2 ⟨done, [], h, rfl, rfl⟩
  | .key k :: steps, cs, done, hsteps, hdot, h => by
    obtain ⟨⟨hempty, hthis, hkdot, hbracket⟩, hrest⟩ := List.forall_mem_cons.1 hsteps
    have hbehind := segments_behind hrest hkdot (segment_key hempty hthis hbracket)
    rw [behind_key, Text.splitAt_append, Text.splitAt_of_not_mem hdot]
    exact segments_cons.2 ⟨done, .key k :: steps, h, hbehind, rfl⟩
  | .index n :: steps, cs, done, hsteps, hdot, h => by
    obtain ⟨hn, hrest⟩ := List.forall_mem_cons.1 hsteps
    have hdots : '.' ∉ cs ++ bracketed n := fun hmem =>
      (List.mem_append.1 hmem).elim hdot (dot_not_mem_bracketed n)
    have hbehind := segments_behind hrest hdots (segment_append hn h)
    rw [behind_index, ← List.append_assoc, hbehind, List.append_assoc]
    rfl

/-- **A path comes back from its text.** -/
theorem parse_toText {path : Path} (h : ∀ s ∈ path, s.Writable) : parse path.toText = .ok path := by
  have hthis : segment "this".toList = .ok [] := rfl
  rw [parse_eq_ok]
  unfold toText
  split
  · rename_i k steps
    obtain ⟨⟨hempty, hthis, hdot, hbracket⟩, hsteps⟩ := List.forall_mem_cons.1 h
    rw [String.toList_append, String.toList_ofList]
    exact segments_behind hsteps hdot (segment_key hempty hthis hbracket)
  · have hchars : ("this" ++ String.ofList (behind path)).toList = "this".toList ++ behind path := by simp
    rw [hchars]
    exact segments_behind h (by decide) hthis

end Path

end Json

end Harvest
