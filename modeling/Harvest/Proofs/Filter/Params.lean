import Harvest.Filter.Params
import Harvest.Proofs.Text.Find
import Mathlib.Data.List.Basic
/-!
# Parameters divided and joined

Dividing parameters by a separator reads a text from left to right: a separator right behind a backslash is taken into
the parameter in the backslash's place, and any other one ends it (`splitParamsBy_eq_scan`).  Joining the parameters
with their separators escaped is the way back, in both directions (`splitParamsBy_joinParams`).
-/
namespace Harvest.Filter

/-- A parameter with a backslash before each separator. -/
def escapeParam (sep : Char) (p : List Char) : List Char := p.flatMap fun c => if c = sep then ['\\', c] else [c]

def joinParams (sep : Char) (ps : List (List Char)) : List Char := Text.join [sep] (ps.map (escapeParam sep))

/-- Reads the rest of a text behind the part `p` of a parameter; `escaped` says that the last character read is a
backslash. -/
def scanFrom (sep : Char) : List Char → Bool → List Char → List (List Char)
  | p, _, [] => [p]
  | p, escaped, c :: cs =>
    if c = sep then
      if escaped then scanFrom sep (p.dropLast ++ [sep]) false cs else p :: scanFrom sep [] false cs
    else scanFrom sep (p ++ [c]) (c == '\\') cs

def scanParams (sep : Char) (cs : List Char) : List (List Char) := scanFrom sep [] false cs

variable {sep : Char} {p : List Char}

/-! ## Steps of the scanner

The flag of the scanner is what can be seen at the end of the part that it has read, so that the lemmas speak of the
part alone. -/

def endsEscaped (p : List Char) : Bool := p.getLast? == some '\\'

theorem endsEscaped_concat (p : List Char) (c : Char) : endsEscaped (p ++ [c]) = (c == '\\') := by
  simp [endsEscaped]

theorem endsEscaped_behind (hsep : sep ≠ '\\') (a p : List Char) :
    endsEscaped (a ++ sep :: p) = endsEscaped p := by
  cases p with
  | nil => simp [endsEscaped, hsep]
  | cons c p => simp [endsEscaped, List.getLast?_append]

theorem dropLast_of_endsEscaped (h : endsEscaped p = true) : p.dropLast ++ ['\\'] = p := by
  have hlast : '\\' ∈ p.getLast? := eq_of_beq h
  exact List.dropLast_append_getLast? '\\' hlast

theorem scanFrom_escaped (hsep : sep ≠ '\\') (h : endsEscaped p = true) (cs : List Char) :
    scanFrom sep p (endsEscaped p) (sep :: cs) =
      scanFrom sep (p.dropLast ++ [sep]) (endsEscaped (p.dropLast ++ [sep])) cs := by
  rw [scanFrom, if_pos rfl, if_pos h, endsEscaped_concat, beq_false_of_ne hsep]

theorem scanFrom_sep (h : endsEscaped p = false) (cs : List Char) :
    scanFrom sep p (endsEscaped p) (sep :: cs) = p :: scanFrom sep [] (endsEscaped []) cs := by
  rw [scanFrom, if_pos rfl, h]
  rfl

theorem scanFrom_of_ne {c : Char} (hc : c ≠ sep) (cs : List Char) :
    scanFrom sep p (endsEscaped p) (c :: cs) = scanFrom sep (p ++ [c]) (endsEscaped (p ++ [c])) cs := by
  rw [scanFrom, if_neg hc, endsEscaped_concat]

theorem scanFrom_ne_nil : ∀ (p : List Char) (escaped : Bool) (cs : List Char), scanFrom sep p escaped cs ≠ []
  | p, escaped, [] => List.cons_ne_nil _ _
  | p, escaped, c :: cs => by
    rw [scanFrom]
    split
    · split
      · exact scanFrom_ne_nil _ _ cs
      · exact List.cons_ne_nil _ _
    · exact scanFrom_ne_nil _ _ cs

/-! ## Dividing is scanning -/

theorem regroup_cons (p : List Char) (ps : List (List Char)) : regroup sep (p :: ps) =
    if endsEscaped p then
      match regroup sep ps with
      | [] => [p]
      | q :: qs => (p.dropLast ++ sep :: q) :: qs
    else p :: regroup sep ps := rfl

/-- What stands before a piece up to a separator stays before what the piece is joined with. -/
theorem regroup_front (hsep : sep ≠ '\\') (a p : List Char) (ps : List (List Char)) :
    ∃ q qs, regroup sep (p :: ps) = q :: qs ∧ regroup sep ((a ++ sep :: p) :: ps) = (a ++ sep :: q) :: qs := by
  rw [regroup_cons, regroup_cons, endsEscaped_behind hsep]
  by_cases hp : endsEscaped p = true
  · have hne : p ≠ [] := by
      rintro rfl
      cases hp
    rw [if_pos hp, if_pos hp]
    cases hps : regroup sep ps with
    | nil => exact ⟨p, [], rfl, rfl⟩
    | cons q qs =>
      refine ⟨p.dropLast ++ sep :: q, qs, rfl, ?_⟩
      simp [List.dropLast_append_of_ne_nil, List.dropLast_cons_of_ne_nil, hne]
  · rw [if_neg hp, if_neg hp]
    exact ⟨p, regroup sep ps, rfl, rfl⟩

-- The part `p` may hold separators that were escaped, so it stands before the first piece and not before the text.
theorem scanFrom_eq (hsep : sep ≠ '\\') : ∀ (cs p : List Char), ∃ q qs, Text.splitAt sep cs = q :: qs ∧
    scanFrom sep p (endsEscaped p) cs = regroup sep ((p ++ q) :: qs)
  | [], p => by
    refine ⟨[], [], rfl, ?_⟩
    rw [scanFrom, List.append_nil, regroup_cons]
    split <;> rfl
  | c :: cs, p => by
    rw [Text.splitAt]
    by_cases hc : c = sep
    · rw [if_pos (beq_iff_eq.2 hc), hc]
      refine ⟨[], Text.splitAt sep cs, rfl, ?_⟩
      rw [List.append_nil, regroup_cons]
      by_cases hp : endsEscaped p = true
      · obtain ⟨q, qs, hsplit, hscan⟩ := scanFrom_eq hsep cs (p.dropLast ++ [sep])
        obtain ⟨r, rs, hrest, hfront⟩ := regroup_front hsep p.dropLast q qs
        rw [List.append_assoc, List.singleton_append, hfront] at hscan
        rw [scanFrom_escaped hsep hp, hscan, hsplit, hrest, if_pos hp]
      · obtain ⟨q, qs, hsplit, hscan⟩ := scanFrom_eq hsep cs []
        rw [scanFrom_sep (Bool.eq_false_iff.2 hp), hscan, hsplit, if_neg hp]
        rfl
    · obtain ⟨q, qs, hsplit, hscan⟩ := scanFrom_eq hsep cs (p ++ [c])
      rw [if_neg (mt beq_iff_eq.1 hc), hsplit]
      refine ⟨c :: q, qs, rfl, ?_⟩
      rw [scanFrom_of_ne hc, hscan, List.append_assoc]
      rfl

/-- **Dividing parameters is reading them from left to right.** -/
theorem splitParamsBy_eq_scan (hsep : sep ≠ '\\') (cs : List Char) : splitParamsBy sep cs = scanParams sep cs := by
  obtain ⟨q, qs, hsplit, hscan⟩ := scanFrom_eq hsep cs []
  unfold splitParamsBy scanParams
  rw [hsplit]
  exact hscan.symm

/-! ## The way back -/

theorem escapeParam_append (p q : List Char) : escapeParam sep (p ++ q) = escapeParam sep p ++ escapeParam sep q :=
  List.flatMap_append

theorem escapeParam_of_ne {c : Char} (hc : c ≠ sep) : escapeParam sep [c] = [c] := by
  simp [escapeParam, hc]

theorem escapeParam_sep : escapeParam sep [sep] = ['\\', sep] := by
  simp [escapeParam]

theorem joinParams_cons (p : List Char) {ps : List (List Char)} (h : ps ≠ []) :
    joinParams sep (p :: ps) = escapeParam sep p ++ sep :: joinParams sep ps := by
  have hmap : ps.map (escapeParam sep) ≠ [] := fun hnil => h (List.map_eq_nil_iff.1 hnil)
  unfold joinParams
  rw [List.map_cons, Text.join_cons _ _ hmap, List.append_assoc]
  rfl

/-- **The scanned parameters joined are the text.** -/
theorem joinParams_scanFrom (hsep : sep ≠ '\\') : ∀ (cs p : List Char),
    joinParams sep (scanFrom sep p (endsEscaped p) cs) = escapeParam sep p ++ cs
  | [], p => by
    rw [scanFrom, List.append_nil]
    rfl
  | c :: cs, p => by
    by_cases hc : c = sep
    · rw [hc]
      by_cases hp : endsEscaped p = true
      · have hescape : escapeParam sep p = escapeParam sep p.dropLast ++ ['\\'] := by
          conv => lhs; rw [← dropLast_of_endsEscaped hp]
          rw [escapeParam_append, escapeParam_of_ne (Ne.symm hsep)]
        rw [scanFrom_escaped hsep hp, joinParams_scanFrom hsep cs, escapeParam_append, escapeParam_sep, hescape]
        simp
      · rw [scanFrom_sep (Bool.eq_false_iff.2 hp), joinParams_cons _ (scanFrom_ne_nil _ _ cs),
          joinParams_scanFrom hsep cs]
        rfl
    · rw [scanFrom_of_ne hc, joinParams_scanFrom hsep cs, escapeParam_append, escapeParam_of_ne hc]
      simp

/-- An escaped parameter is read as it was, whatever stands behind it. -/
theorem scanFrom_escapeParam (hsep : sep ≠ '\\') (rest : List Char) : ∀ (q p : List Char),
    scanFrom sep p (endsEscaped p) (escapeParam sep q ++ rest) = scanFrom sep (p ++ q) (endsEscaped (p ++ q)) rest
  | [], p => by
    rw [List.append_nil]
    rfl
  | c :: q, p => by
    have hstep : scanFrom sep p (endsEscaped p) (escapeParam sep [c] ++ (escapeParam sep q ++ rest)) =
        scanFrom sep (p ++ [c]) (endsEscaped (p ++ [c])) (escapeParam sep q ++ rest) := by
      by_cases hc : c = sep
      · have hends : endsEscaped (p ++ ['\\']) = true := endsEscaped_concat p '\\'
        rw [hc, escapeParam_sep, List.cons_append, List.singleton_append, scanFrom_of_ne (Ne.symm hsep),
          scanFrom_escaped hsep hends, List.dropLast_concat]
      · rw [escapeParam_of_ne hc, List.singleton_append, scanFrom_of_ne hc]
    rw [← List.singleton_append, escapeParam_append, List.append_assoc, hstep, scanFrom_escapeParam hsep rest q,
      List.append_assoc]

theorem scanParams_joinParams (hsep : sep ≠ '\\') : ∀ {ps : List (List Char)}, ps ≠ [] →
    (∀ p ∈ ps.dropLast, endsEscaped p = false) → scanParams sep (joinParams sep ps) = ps
  | [p], _, _ => by
    have hread := scanFrom_escapeParam hsep [] p []
    rw [List.append_nil] at hread
    exact hread
  | p :: q :: ps, _, h => by
    have hp : endsEscaped p = false := h p List.mem_cons_self
    have hrest := scanParams_joinParams hsep (List.cons_ne_nil q ps) fun r hr => h r (List.mem_cons_of_mem p hr)
    have hread := scanFrom_escapeParam hsep (sep :: joinParams sep (q :: ps)) p []
    rw [List.nil_append, scanFrom_sep hp] at hread
    rw [joinParams_cons p (List.cons_ne_nil q ps)]
    exact hread.trans (congrArg (p :: ·) hrest)

/-- Only the last of the scanned parameters can end in a backslash. -/
theorem endsEscaped_of_mem_dropLast (hsep : sep ≠ '\\') : ∀ (cs p : List Char),
    ∀ q ∈ (scanFrom sep p (endsEscaped p) cs).dropLast, endsEscaped q = false
  | [], p => nofun
  | c :: cs, p => by
    by_cases hc : c = sep
    · rw [hc]
      by_cases hp : endsEscaped p = true
      · rw [scanFrom_escaped hsep hp]
        exact endsEscaped_of_mem_dropLast hsep cs _
      · have hfalse : endsEscaped p = false := Bool.eq_false_iff.2 hp
        rw [scanFrom_sep hfalse, List.dropLast_cons_of_ne_nil (scanFrom_ne_nil _ _ cs)]
        exact List.forall_mem_cons.2 ⟨hfalse, endsEscaped_of_mem_dropLast hsep cs []⟩
    · rw [scanFrom_of_ne hc]
      exact endsEscaped_of_mem_dropLast hsep cs _

/-- **Dividing and joining are inverse to each other**: a text is divided into one or more parameters, none but the last
ending in a backslash, which joined are the text; any such list is what its joined text is divided into; and dividing is
reading from left to right. -/
theorem splitParamsBy_joinParams (hsep : sep ≠ '\\') :
    (∀ cs, splitParamsBy sep cs ≠ [] ∧ joinParams sep (splitParamsBy sep cs) = cs ∧
      ∀ p ∈ (splitParamsBy sep cs).dropLast, p.getLast? ≠ some '\\') ∧
    (∀ ps, ps ≠ [] → (∀ p ∈ ps.dropLast, p.getLast? ≠ some '\\') → splitParamsBy sep (joinParams sep ps) = ps) ∧
    ∀ cs, splitParamsBy sep cs = scanParams sep cs := by
  have hends : ∀ p : List Char, endsEscaped p = false ↔ p.getLast? ≠ some '\\' := fun p => beq_eq_false_iff_ne
  refine ⟨fun cs => ?_, fun ps hps h => ?_, splitParamsBy_eq_scan hsep⟩
  · rw [splitParamsBy_eq_scan hsep]
    exact ⟨scanFrom_ne_nil _ _ cs, joinParams_scanFrom hsep cs [],
      fun p hp => (hends p).1 (endsEscaped_of_mem_dropLast hsep cs [] p hp)⟩
  · rw [splitParamsBy_eq_scan hsep]
    exact scanParams_joinParams hsep hps fun p hp => (hends p).2 (h p hp)

/-- A comma and an empty parameter before one that ends in a backslash. -/
theorem splitParamsBy_joinParams_commas : ',' ≠ '\\' ∧ (∀ p ∈ [[','], []], p.getLast? ≠ some '\\') ∧
    joinParams ',' [[','], [], ['a', '\\']] = ['\\', ',', ',', ',', 'a', '\\'] ∧
    splitParamsBy ',' ['\\', ',', ',', ',', 'a', '\\'] = [[','], [], ['a', '\\']] := by
  have hsep : ',' ≠ '\\' := by decide
  have hends : ∀ p ∈ [[','], []], p.getLast? ≠ some '\\' := by decide
  exact ⟨hsep, hends, by decide, (splitParamsBy_joinParams hsep).2.1 [[','], [], ['a', '\\']] (by decide) hends⟩

end Harvest.Filter
