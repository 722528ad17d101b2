import Harvest.Proofs.Css.Compose
import Harvest.Proofs.Text.Numeral
/-!
# Positions among nodes

`eq`, `first` and `last` keep one of the nodes before them, the one that an integer names (`place`).  Which integer that
is can be read off the text of the operator (`Op.Names`), and so off that of a chain (`positions_exact`).
-/
namespace Harvest.Css

open Harvest.Markup (Document)
open Text.Numeral (Denotes Fits)

/-! ## Nodes by their positions -/

/-- The node that an integer names: counted from the front, or from the end if it is negative. -/
def place (nodes : List Nat) (n : Int) : List Nat :=
  if h : 0 ≤ n ∧ n < nodes.length then [nodes.get ⟨n.toNat, by omega⟩]
  else if h : -nodes.length ≤ n ∧ n < 0 then [nodes.get ⟨(nodes.length + n).toNat, by omega⟩]
  else []

variable {nodes : List Nat} {n : Int}

theorem place_of_lt (h : n < -nodes.length) : place nodes n = [] := by
  rw [place, dif_neg (by omega), dif_neg (by omega)]

theorem place_of_le (h : nodes.length ≤ n) : place nodes n = [] := by
  rw [place, dif_neg (by omega), dif_neg (by omega)]

/-- **An index of 64 bits picks the node that it names.** -/
theorem pick_eq_place (nodes : List Nat) (n : Int64) : pick nodes n = place nodes n.toInt := by
  unfold pick
  extract_lets k
  by_cases hneg : n.toInt < 0
  · have hk : k = nodes.length + n.toInt := if_pos hneg
    by_cases hout : n.toInt < -nodes.length
    · rw [place_of_lt hout, if_pos (by omega)]
    · rw [place, dif_neg (by omega), dif_pos (by omega), if_neg (by omega), hk, List.getElem?_eq_getElem (by omega)]
      rfl
  · have hk : k = n.toInt := if_neg hneg
    rw [hk, if_neg hneg]
    by_cases hout : nodes.length ≤ n.toInt
    · rw [place_of_le hout, List.getElem?_eq_none (by omega)]
      rfl
    · rw [place, dif_pos (by omega), List.getElem?_eq_getElem (by omega)]
      rfl

theorem place_zero : ∀ nodes : List Nat, place nodes 0 = nodes.take 1
  | [] => rfl
  | i :: nodes => by
    rw [place, dif_pos (by simp)]
    rfl

theorem place_neg_one (nodes : List Nat) : place nodes (-1) = nodes.getLast?.toList := by
  by_cases hnil : nodes = []
  · rw [hnil]
    rfl
  · have hpos := List.length_pos_iff.2 hnil
    have hlast : (nodes.length + -1 : Int).toNat = nodes.length - 1 := by omega
    rw [place, dif_neg (by omega), dif_pos (by omega), List.getLast?_eq_some_getLast hnil, List.getLast_eq_getElem]
    simp only [hlast, List.get_eq_getElem, Option.toList_some]

/-- Zero in the place of an integer that does not fit into 64 bits makes a difference wherever there is a node. -/
theorem place_fitting_eq_iff (h : nodes.length ≤ 0x8000000000000000) :
    place nodes (if Fits n then n else 0) = place nodes n ↔ Fits n ∨ nodes = [] := by
  by_cases hn : Fits n
  · rw [if_pos hn]
    exact iff_of_true rfl (.inl hn)
  · have hnone : place nodes n = [] := by
      by_cases hneg : n < 0
      · exact place_of_lt (by unfold Fits at hn; omega)
      · exact place_of_le (by unfold Fits at hn; omega)
    rw [if_neg hn, hnone, place_zero, or_iff_right hn]
    simp

/-! ## Operators in their written form -/

/-- The ways to write an operator of a name: alone, or with an argument in parentheses, around which and before which
white space may stand. -/
inductive Op.Spells (name : String) : List Char → List Char → Prop where
  | bare : Spells name [] name.toList
  | call {arg a b c : List Char} : (∀ x ∈ a, Text.isBlank x = true) → (∀ x ∈ b, Text.isBlank x = true) →
    (∀ x ∈ c, Text.isBlank x = true) → Spells name arg (name.toList ++ (a ++ '(' :: (b ++ (arg ++ c) ++ [')'])))

/-- A character of a name is no white space. -/
theorem isBlank_of_name {c : Char} (h : (c.isAlpha || c == '_') = true) : Text.isBlank c = false := by
  refine Text.Numeral.isBlank_of_printed ?_
  have hkind : ((c.isUpper || c.isLower) || c == '_') = true := h
  rw [Bool.or_eq_true, Bool.or_eq_true, beq_iff_eq] at hkind
  rcases hkind with (hupper | hlower) | rfl
  · have hrange : 'A'.val ≤ c.val ∧ c.val ≤ 'Z'.val := of_decide_eq_true hupper
    have hlow : 65 ≤ c.toNat := hrange.1
    have hhigh : c.toNat ≤ 90 := hrange.2
    omega
  · obtain ⟨hfrom, hto⟩ := Bool.and_eq_true_iff.1 hlower
    have hlow : 97 ≤ c.toNat := of_decide_eq_true hfrom
    have hhigh : c.toNat ≤ 122 := of_decide_eq_true hto
    omega
  · decide

theorem argument?_call {arg a b c : List Char} (ha : ∀ x ∈ a, Text.isBlank x = true)
    (hb : ∀ x ∈ b, Text.isBlank x = true) (hc : ∀ x ∈ c, Text.isBlank x = true) :
    Op.argument? (a ++ '(' :: (b ++ (arg ++ c) ++ [')'])) = some (Text.trimBlank arg) := by
  have hopen : (a ++ '(' :: (b ++ (arg ++ c) ++ [')'])).dropWhile Text.isBlank =
      '(' :: (b ++ (arg ++ c) ++ [')']) := by
    rw [List.dropWhile_append_of_pos ha]
    rfl
  have htrim : Text.trimBlank (b ++ (arg ++ c)) = Text.trimBlank arg :=
    (Text.trimBy_front hb).trans (Text.trimBy_back hc)
  unfold Op.argument?
  rw [hopen]
  simp only [List.getLast?_concat, List.dropLast_concat, htrim]
  rfl

/-- **A written operator is that of its name**, with the argument without the white space at its ends. -/
theorem Op.parse_of_spells {name : String} (hname : name.toList ≠ [])
    (hchars : name.toList.all (fun c => c.isAlpha || c == '_') = true) {arg cs : List Char}
    (h : Op.Spells name arg cs) : Op.parse cs = Op.ofName name (String.ofList (Text.trimBlank arg)) := by
  obtain ⟨rest, hcs, hstop, harg⟩ : ∃ rest, cs = name.toList ++ rest ∧
      rest.takeWhile (fun c => c.isAlpha || c == '_') = [] ∧ Op.argument? rest = some (Text.trimBlank arg) := by
    cases h with
    | bare => exact ⟨[], (List.append_nil _).symm, rfl, rfl⟩
    | @call arg a b c ha hb hc =>
      refine ⟨_, rfl, ?_, argument?_call ha hb hc⟩
      cases a with
      | nil => rfl
      | cons d a =>
        refine List.takeWhile_cons_of_neg fun hd => ?_
        have hblank := ha d List.mem_cons_self
        rw [isBlank_of_name hd] at hblank
        cases hblank
  have hword : cs.takeWhile (fun c => c.isAlpha || c == '_') = name.toList := by
    rw [hcs, List.takeWhile_append_of_pos (List.all_eq_true.1 hchars), hstop, List.append_nil]
  unfold Op.parse
  simp only [hword, List.isEmpty_iff, if_neg hname]
  rw [hcs, List.drop_left, harg]
  simp only [String.ofList_toList]

/-! ## Operators that name a position -/

/-- The piece of a chain that keeps, of the nodes before it, the one that an integer names. -/
def Op.Names (piece : List Char) (n : Int) : Prop :=
  ∃ op, Op.parse piece = .ok op ∧ ∀ (d : Document) (nodes : List Nat), op.run d nodes = (d, place nodes n)

variable {piece arg numeral : List Char}

theorem Op.names_eq (h : Op.Spells "eq" numeral piece) (hn : Denotes numeral n) :
    Op.Names piece (if Fits n then n else 0) := by
  refine ⟨.eq ((Text.Numeral.int64? numeral).getD 0), ?_, fun d nodes => ?_⟩
  · rw [Op.parse_of_spells (by decide) (by decide) h, Text.Numeral.trimBlank_of_not_isBlank hn.not_isBlank]
    unfold Op.ofName
    simp only [String.toList_ofList]
  · rw [← Text.Numeral.toInt_int64?_getD hn, ← pick_eq_place]
    rfl

theorem Op.names_first (h : Op.Spells "first" arg piece) : Op.Names piece 0 := by
  refine ⟨.first, (Op.parse_of_spells (by decide) (by decide) h).trans rfl, fun d nodes => ?_⟩
  rw [place_zero]
  rfl

theorem Op.names_last (h : Op.Spells "last" arg piece) : Op.Names piece (-1) := by
  refine ⟨.last, (Op.parse_of_spells (by decide) (by decide) h).trans rfl, fun d nodes => ?_⟩
  rw [place_neg_one]
  rfl

/-- **A chain that names a position** does, from the node at that position, what stands behind the name. -/
theorem Chain.run_names {front : List (List Char)} (hfront : front ≠ []) (h : Op.Names piece n)
    (behind : List (List Char)) : (ofParts (front ++ piece :: behind)).map run = do
      let c ← ofParts front
      let ops ← parseOps behind
      return fun d context => Op.runAll (c.run d context).1 (place (c.run d context).2 n) ops := by
  obtain ⟨op, hop, hrun⟩ := h
  rw [ofParts_append hfront, parseOps, hop]
  cases ofParts front with
  | error err => rfl
  | ok c =>
    cases parseOps behind with
    | error err => rfl
    | ok ops =>
      refine congrArg Except.ok (funext fun d => funext fun context => (run_append c (op :: ops) d context).trans ?_)
      rw [Op.runAll, hrun]

/-- **Positions are those of the written integers, if they fit into 64 bits.**  A chain that ends in `eq` with a numeral
keeps, of the nodes that the chain before it yields, the one that the integer names, counted from the front or, if it is
negative, from the end; it keeps none if there are not so many.  But an integer that does not fit is taken for zero, so
that the first node is kept wherever there is one, and no list of up to 2^63 nodes has a node at such a position.
`first` is `eq(0)` and `last` is `eq(-1)`, wherever they stand in a chain. -/
theorem positions_exact {front : List (List Char)} (hfront : front ≠ []) (hpiece : Op.Spells "eq" numeral piece)
    (hn : Denotes numeral n) :
    (∀ text : String, Chain.parts text = front ++ [piece] →
      (Chain.parse text).map Chain.run = (Chain.ofParts front).map fun before d context =>
        ((before.run d context).1, place (before.run d context).2 (if Fits n then n else 0))) ∧
    (∀ nodes : List Nat, nodes.length ≤ 0x8000000000000000 →
      (place nodes (if Fits n then n else 0) = place nodes n ↔ Fits n ∨ nodes = [])) ∧
    ∀ (text text' : String) (behind : List (List Char)) (named arg : List Char),
      Chain.parts text = front ++ piece :: behind → Chain.parts text' = front ++ named :: behind →
      (Op.Spells "first" arg named ∧ n = 0 ∨ Op.Spells "last" arg named ∧ n = -1) →
      (Chain.parse text').map Chain.run = (Chain.parse text).map Chain.run := by
  have hpiece' := Op.names_eq hpiece hn
  refine ⟨fun text hparts => ?_, fun nodes => place_fitting_eq_iff,
    fun text text' behind named arg hparts hparts' h => ?_⟩
  · rw [Chain.parse_map_run, hparts, Chain.run_names hfront hpiece']
    cases Chain.ofParts front <;> rfl
  · have hnamed : Op.Names named (if Fits n then n else 0) := by
      rcases h with ⟨hnamed, rfl⟩ | ⟨hnamed, rfl⟩
      · exact Op.names_first hnamed
      · exact Op.names_last hnamed
    rw [Chain.parse_map_run, Chain.parse_map_run, hparts, hparts', Chain.run_names hfront hnamed,
      Chain.run_names hfront hpiece']

/-- Of some paragraphs the first one is kept at the position 2^63, where there is none, and the last one at -1. -/
theorem positions_exact_paragraphs :
    (Chain.parts "p | eq(9223372036854775808)//html" = [['p']] ++ ["eq(9223372036854775808)".toList] ∧
      Denotes "9223372036854775808".toList 9223372036854775808 ∧ ∃ before, Chain.ofParts [['p']] = .ok before ∧
      (Chain.parse "p | eq(9223372036854775808)//html").map Chain.run = .ok fun d context =>
        ((before.run d context).1, place (before.run d context).2 0)) ∧
    place [4] 0 ≠ place [4] 9223372036854775808 ∧
    (Chain.parse "p | last | next").map Chain.run = (Chain.parse "p | eq ( -01 ) | next").map Chain.run := by
  have hwide : ¬ Fits 9223372036854775808 := by decide
  have hnumeral : Denotes "9223372036854775808".toList 9223372036854775808 :=
    .plain (by decide) (List.all_eq_true.1 (by decide))
  have hblank : ∀ c ∈ [' '], Text.isBlank c = true := List.forall_mem_singleton.2 rfl
  have hparts : Chain.parts "p | eq(9223372036854775808)//html" = [['p']] ++ ["eq(9223372036854775808)".toList] := by
    decide
  obtain ⟨hends, hfits, -⟩ := positions_exact (List.cons_ne_nil ['p'] [])
    (@Op.Spells.call "eq" _ [] [] [] nofun nofun nofun) hnumeral
  obtain ⟨-, -, hlast⟩ := positions_exact (List.cons_ne_nil ['p'] []) (.call hblank hblank hblank)
    (.minus (List.cons_ne_nil '0' ['1']) (List.all_eq_true.1 (by decide)))
  rw [if_neg hwide] at hends
  refine ⟨⟨hparts, hnumeral, _, rfl, hends _ hparts⟩, fun h => ?_, ?_⟩
  · have hnot := hfits [4] (by decide)
    rw [if_neg hwide] at hnot
    exact absurd (hnot.1 h) (by decide)
  · exact hlast _ _ ["next".toList] _ _ (by decide) (by decide) (.inr ⟨.bare, rfl⟩)

end Harvest.Css
