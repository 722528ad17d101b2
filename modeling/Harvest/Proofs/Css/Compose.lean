import Harvest.Css.Chain
import Harvest.Proofs.Text.Find
/-!
# Chains put together

The chain of two texts with a bar between them runs that of the one and then, on what it leaves, that of the other
(`parse_piped`).  The text of a chain is its pieces between bars, the first of them the selector and the others
operators (`parse_eq`, and `parse_eq_ok` for a text without a mode).
-/
namespace Harvest.Css

open Harvest.Markup (Document)

theorem Op.runAll_append (behind : List Op) : ∀ (ops : List Op) (d : Document) (nodes : List Nat),
    runAll d nodes (ops ++ behind) = runAll (runAll d nodes ops).1 (runAll d nodes ops).2 behind
  | [], _, _ => rfl
  | op :: ops, d, nodes => runAll_append behind ops (op.run d nodes).1 (op.run d nodes).2

namespace Chain

theorem parseOps_cons {p : List Char} {ps : List (List Char)} {ops : List Op} : parseOps (p :: ps) = .ok ops ↔
    ∃ op rest, Op.parse p = .ok op ∧ parseOps ps = .ok rest ∧ ops = op :: rest := by
  rw [parseOps]
  cases Op.parse p with
  | error err => simp
  | ok op => cases parseOps ps <;> simp [Except.map, eq_comm]

theorem parseOps_append_eq (qs : List (List Char)) : ∀ ps : List (List Char), parseOps (ps ++ qs) = do
    let front ← parseOps ps
    let behind ← parseOps qs
    return front ++ behind
  | [] => (bind_pure (parseOps qs)).symm
  | p :: ps => by
    rw [List.cons_append, parseOps, parseOps, parseOps_append_eq qs ps]
    cases Op.parse p with
    | error err => rfl
    | ok op =>
      cases parseOps ps with
      | error err => rfl
      | ok front => cases parseOps qs <;> rfl

theorem parseOps_append (qs : List (List Char)) {ps : List (List Char)} {ops : List Op} :
    parseOps (ps ++ qs) = .ok ops ↔ ∃ a b, parseOps ps = .ok a ∧ parseOps qs = .ok b ∧ ops = a ++ b := by
  rw [parseOps_append_eq]
  cases parseOps ps with
  | error err => exact iff_of_false nofun nofun
  | ok a =>
    cases parseOps qs with
    | error err => exact iff_of_false nofun nofun
    | ok b =>
      refine ⟨fun h => ⟨a, b, rfl, rfl, (Except.ok.inj h).symm⟩, ?_⟩
      rintro ⟨a', b', ha, hb, rfl⟩
      cases ha
      cases hb
      rfl

/-! ## Texts part by part -/

/-- The trimmed pieces of a text between bars. -/
def pieces (cs : List Char) : List (List Char) := (Text.splitAt '|' cs).map Text.trimBlank

/-- The selector that a piece writes, none if it is empty. -/
def primary? (p : List Char) : Except ExtractError (Option Selector) :=
  if p.isEmpty then .ok none else (Css.parse (String.ofList p)).map some

/-- The pieces of what stands before the mode of a text. -/
def parts (text : String) : List (List Char) := pieces (cutMode text.toList).1

/-- The chain that pieces write: a selector and, behind it, operators. -/
def ofParts : List (List Char) → Except ExtractError Chain
  | [] => .ok ⟨"", none, [], .text⟩
  | p :: ps => do
    let primary ← primary? p
    let ops ← parseOps ps
    return ⟨"", primary, ops, .text⟩

theorem pieces_ne_nil (cs : List Char) : pieces cs ≠ [] := fun h =>
  Text.splitAt_ne_nil '|' cs (List.map_eq_nil_iff.1 h)

theorem pieces_trimBlank (cs : List Char) : pieces (Text.trimBlank cs) = pieces cs :=
  Text.map_trimBy_splitAt (by decide) cs

theorem pieces_append (before behind : List Char) : pieces (before ++ '|' :: behind) = pieces before ++ pieces behind := by
  unfold pieces
  rw [Text.splitAt_append, List.map_append]

/-- **A text is the chain of its parts**, with its own mode. -/
theorem parse_eq (text : String) : parse text = (ofParts (parts text)).map fun c =>
    { c with source := String.ofList (cutMode text.toList).1, mode := (cutMode text.toList).2 } := by
  have hparts : (Text.splitAt '|' (cutMode text.toList).1).map Text.trimBlank = parts text := rfl
  unfold parse
  simp only [hparts]
  cases hps : parts text with
  | nil => exact absurd hps (pieces_ne_nil _)
  | cons p ps =>
    have hp : (if p.isEmpty = true then .ok none else (Css.parse (String.ofList p)).map some) = primary? p := rfl
    simp only [hp, ofParts]
    cases primary? p with
    | error err => rfl
    | ok primary => cases parseOps ps <;> rfl

/-- A text does what the chain of its parts does, or is no chain for the same reason. -/
theorem parse_map_run (text : String) : (parse text).map run = (ofParts (parts text)).map run := by
  rw [parse_eq]
  cases ofParts (parts text) <;> rfl

theorem ofParts_append {front : List (List Char)} (hfront : front ≠ []) (behind : List (List Char)) :
    ofParts (front ++ behind) = do
      let c ← ofParts front
      let ops ← parseOps behind
      return { c with ops := c.ops ++ ops } := by
  obtain ⟨p, ps, rfl⟩ := List.exists_cons_of_ne_nil hfront
  rw [List.cons_append, ofParts, ofParts, parseOps_append_eq]
  cases primary? p with
  | error err => rfl
  | ok primary =>
    cases parseOps ps with
    | error err => rfl
    | ok ops => cases parseOps behind <;> rfl

theorem run_append (c : Chain) (ops : List Op) (d : Document) (context : List Nat) :
    run { c with ops := c.ops ++ ops } d context = Op.runAll (c.run d context).1 (c.run d context).2 ops :=
  Op.runAll_append ops c.ops d _

/-! ## Texts without a mode -/

/-- A text without two slashes in it, behind which a mode would stand. -/
def Modeless (text : String) : Prop := ¬ ['/', '/'] <:+: text.toList

/-- **A chain without a mode, piece by piece.** -/
theorem parse_eq_ok {text : String} (h : Modeless text) {c : Chain} : parse text = .ok c ↔
    ∃ p ps, pieces text.toList = p :: ps ∧ primary? p = .ok c.primary ∧ parseOps ps = .ok c.ops ∧ c.mode = .text ∧
      c.source = Text.trim text := by
  have hmode : cutMode text.toList = (Text.trimBlank text.toList, .text) := by
    unfold cutMode
    rw [Text.cut?_eq_none.2 h]
  have hparts : parts text = pieces text.toList := by
    rw [parts, hmode, pieces_trimBlank]
  obtain ⟨p, ps, hps⟩ := List.exists_cons_of_ne_nil (pieces_ne_nil text.toList)
  rw [parse_eq, hmode, hparts, hps, ofParts]
  obtain ⟨source, primary, ops, mode⟩ := c
  constructor
  · intro hc
    cases hprimary : primary? p with
    | error err =>
      rw [hprimary] at hc
      cases hc
    | ok primary =>
      cases hops : parseOps ps with
      | error err =>
        rw [hprimary, hops] at hc
        cases hc
      | ok ops =>
        rw [hprimary, hops] at hc
        cases hc
        exact ⟨p, ps, rfl, hprimary, hops, rfl, rfl⟩
  · rintro ⟨p', ps', hps', hprimary, hops, hm, hsource⟩
    cases hps'
    simp only at hprimary hops hm hsource
    rw [hprimary, hops, hm, hsource]
    rfl

theorem parse_bar {b : String} (hb : Modeless ("|" ++ b)) {c : Chain} : parse ("|" ++ b) = .ok c ↔
    c.primary = none ∧ parseOps (pieces b.toList) = .ok c.ops ∧ c.mode = .text ∧ c.source = Text.trim ("|" ++ b) := by
  have hpieces : pieces ("|" ++ b).toList = [] :: pieces b.toList := by
    have hchars : ("|" ++ b).toList = [] ++ '|' :: b.toList := by simp
    rw [hchars, pieces_append]
    rfl
  rw [parse_eq_ok hb, hpieces]
  constructor
  · rintro ⟨p, ps, hps, hprimary, hrest⟩
    cases hps
    exact ⟨(Except.ok.inj hprimary).symm, hrest⟩
  · rintro ⟨hprimary, hrest⟩
    exact ⟨[], _, rfl, congrArg Except.ok hprimary.symm, hrest⟩

theorem slashes_append {a b : List Char} (h : ['/', '/'] <:+: a ++ '|' :: b) :
    ['/', '/'] <:+: a ∨ ['/', '/'] <:+: b := by
  obtain ⟨before, behind, heq⟩ := h
  rw [List.append_assoc] at heq
  rcases List.append_eq_append_iff.1 heq with ⟨x, rfl, hx⟩ | ⟨x, rfl, hx⟩
  · rcases x with _ | ⟨c, _ | ⟨e, x⟩⟩
    · simp at hx
    · simp at hx
    · simp only [List.cons_append, List.nil_append, List.cons.injEq] at hx
      obtain ⟨rfl, rfl, -⟩ := hx
      exact .inl ⟨before, x, by simp⟩
  · cases x with
    | nil => simp at hx
    | cons c x =>
      simp only [List.cons_append, List.nil_append, List.cons.injEq] at hx
      exact .inr ⟨x, behind, by simp [hx.2]⟩

theorem Modeless.piped {a b : String} (ha : Modeless a) (hb : Modeless b) : Modeless (a ++ "|" ++ b) := by
  have hchars : (a ++ "|" ++ b).toList = a.toList ++ '|' :: b.toList := by simp
  unfold Modeless
  rw [hchars]
  exact fun h => (slashes_append h).elim ha hb

theorem modeless_bar {b : String} (hb : Modeless b) : Modeless ("|" ++ b) := by
  have hempty : Modeless "" := fun h => absurd h.length_le (by decide)
  simpa using hempty.piped hb

/-- The chain of two texts is the selector of the first one with the operators of both. -/
theorem parse_piped_eq_ok {a b : String} (ha : Modeless a) (hb : Modeless b) {c : Chain} :
    parse (a ++ "|" ++ b) = .ok c ↔ ∃ first rest, parse a = .ok first ∧ parse ("|" ++ b) = .ok rest ∧
      c = ⟨Text.trim (a ++ "|" ++ b), first.primary, first.ops ++ rest.ops, .text⟩ := by
  have hbar := modeless_bar hb
  have hchars : (a ++ "|" ++ b).toList = a.toList ++ '|' :: b.toList := by simp
  rw [parse_eq_ok (ha.piped hb), hchars, pieces_append]
  constructor
  · rintro ⟨p, ps, hps, hprimary, hops, hmode, hsource⟩
    obtain ⟨q, qs, hqs⟩ := List.exists_cons_of_ne_nil (pieces_ne_nil a.toList)
    rw [hqs, List.cons_append] at hps
    cases hps
    obtain ⟨x, y, hx, hy, hxy⟩ := (parseOps_append _).1 hops
    refine ⟨⟨Text.trim a, c.primary, x, .text⟩, ⟨Text.trim ("|" ++ b), none, y, .text⟩, ?_, ?_, ?_⟩
    · exact (parse_eq_ok ha).2 ⟨_, qs, hqs, hprimary, hx, rfl, rfl⟩
    · exact (parse_bar hbar).2 ⟨rfl, hy, rfl, rfl⟩
    · rw [← hsource, ← hmode, ← hxy]
  · rintro ⟨first, rest, hfirst, hrest, rfl⟩
    obtain ⟨p, ps, hps, hprimary, hops, -, -⟩ := (parse_eq_ok ha).1 hfirst
    obtain ⟨-, hops', -, -⟩ := (parse_bar hbar).1 hrest
    refine ⟨p, ps ++ pieces b.toList, ?_, hprimary, (parseOps_append _).2 ⟨_, _, hops, hops', rfl⟩, rfl, rfl⟩
    rw [hps]
    rfl

/-- **Chains compose.**  A text with a bar between two texts, neither of which has a mode, is a chain exactly if the first
one is a chain and the second one is one behind the bar, and it does what that second one does behind the first one, on
every document and from all nodes. -/
theorem parse_piped (a b : String) (ha : Modeless a) (hb : Modeless b) :
    ((∃ c, parse (a ++ "|" ++ b) = .ok c) ↔ (∃ c, parse a = .ok c) ∧ ∃ c, parse ("|" ++ b) = .ok c) ∧
    ∀ c first rest, parse (a ++ "|" ++ b) = .ok c → parse a = .ok first → parse ("|" ++ b) = .ok rest →
      ∀ (d : Document) (context : List Nat),
        c.run d context = rest.run (first.run d context).1 (first.run d context).2 := by
  constructor
  · constructor
    · rintro ⟨c, hc⟩
      obtain ⟨first, rest, hfirst, hrest, -⟩ := (parse_piped_eq_ok ha hb).1 hc
      exact ⟨⟨first, hfirst⟩, rest, hrest⟩
    · rintro ⟨⟨first, hfirst⟩, rest, hrest⟩
      exact ⟨_, (parse_piped_eq_ok ha hb).2 ⟨first, rest, hfirst, hrest, rfl⟩⟩
  · intro c first rest hc hfirst hrest d context
    obtain ⟨first', rest', hfirst', hrest', rfl⟩ := (parse_piped_eq_ok ha hb).1 hc
    cases hfirst'.symm.trans hfirst
    cases hrest'.symm.trans hrest
    have hprimary : rest.primary = none := ((parse_bar (modeless_bar hb)).1 hrest).1
    have hrun : ∀ (d : Document) (nodes : List Nat), rest.run d nodes = Op.runAll d nodes rest.ops := by
      intro d nodes
      unfold run
      rw [hprimary]
    rw [hrun]
    exact Op.runAll_append rest.ops first.ops d _

theorem parse_piped_remove : Modeless "|rm(*)" ∧ Modeless "first" ∧ ∃ c, parse ("|rm(*)" ++ "|" ++ "first") = .ok c ∧
    ∀ (d : Document) (context : List Nat),
      c.run d context = ((find d [.compound [.any]] context).foldl Document.remove d, context.take 1) := by
  have hbar : "|" ++ "rm(*)" = "|rm(*)" := rfl
  have ha : Modeless "|rm(*)" := by
    refine hbar ▸ modeless_bar ?_
    unfold Modeless
    decide
  have hb : Modeless "first" := by
    unfold Modeless
    decide
  have hop : Op.parse ['r', 'm', '(', '*', ')'] = .ok (.remove [.compound [.any]]) := rfl
  have hfirst : parse "|rm(*)" = .ok ⟨"|rm(*)", none, [.remove [.compound [.any]]], .text⟩ := by
    refine hbar ▸ (parse_bar (hbar.symm ▸ ha)).2 ⟨rfl, ?_, rfl, rfl⟩
    exact parseOps_cons.2 ⟨_, [], hop, rfl, rfl⟩
  have hrest : parse ("|" ++ "first") = .ok ⟨"|first", none, [.first], .text⟩ := rfl
  obtain ⟨hparse, hrun⟩ := parse_piped "|rm(*)" "first" ha hb
  obtain ⟨c, hc⟩ := hparse.2 ⟨⟨_, hfirst⟩, _, hrest⟩
  exact ⟨ha, hb, c, hc, hrun c _ _ hc hfirst hrest⟩

end Chain

end Harvest.Css
