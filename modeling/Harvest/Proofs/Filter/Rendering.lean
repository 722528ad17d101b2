import Harvest.Filter.Call
import Mathlib.Data.List.TakeWhile
/-!
# Chains as they are written

The calls in the expression that a chain was written as are the calls of the chain, and behind a bar the text goes on
as if it stood by itself (`calls_written`).  Whatever a text is, its calls are such that they can be written
(`plain_of_mem_scan`), so that a chain which was read and written is read the same again.
-/
namespace Harvest.Filter.Call

/-- A call that can be written: its name is one, and its parameters hold nothing that ends them. -/
structure Plain (c : Call) : Prop where
  name_ne : c.name ≠ ""
  name_chars : ∀ ch ∈ c.name.toList, isNameChar ch = true
  params : ¬[')', '|'] <:+: c.params.toList

def written (cs : List Call) : String := "|".intercalate (cs.map render)

/-- What stands behind a call, and the text from which the next one is read: nothing, or a bar and the rest. -/
inductive Closes : List Char → List Char → Prop where
  | done : Closes [] []
  | bar (rest : List Char) : Closes ('|' :: rest) rest

/-! ## Parameters -/

/-- Parameters end at the first closing parenthesis behind which a call may end. -/
theorem params?_closed {tail rest : List Char} (htail : Closes tail rest) :
    ∀ {p : List Char}, ¬[')', '|'] <:+: p → params? (p ++ ')' :: tail) = some (p, rest)
  | [], _ => by cases htail <;> rfl
  | c :: p, h => by
    -- The character behind `c` is no bar if `c` is a closing parenthesis.
    obtain ⟨d, ds, hds, hcd⟩ : ∃ d ds, p ++ ')' :: tail = d :: ds ∧ (c == ')' && d == '|') = false := by
      cases p with
      | nil => exact ⟨')', tail, rfl, Bool.and_false _⟩
      | cons d p =>
        refine ⟨d, p ++ ')' :: tail, rfl, ?_⟩
        rw [Bool.and_eq_false_iff, beq_eq_false_iff_ne, beq_eq_false_iff_ne, ← not_and_or]
        rintro ⟨rfl, rfl⟩
        exact h ⟨[], p, rfl⟩
    have hp := params?_closed htail fun hp => h (hp.trans (List.suffix_cons c p).isInfix)
    rw [List.cons_append, hds, params?, hcd, ← hds, hp]
    rfl

/-- What is read as parameters stands before a closing parenthesis behind which a call may end, the first of this
kind. -/
theorem closed_of_params? {cs p rest : List Char} (h : params? cs = some (p, rest)) :
    ∃ tail, Closes tail rest ∧ cs = p ++ ')' :: tail ∧ ¬[')', '|'] <:+: p := by
  have hnil : ¬[')', '|'] <:+: ([] : List Char) := by simp
  fun_induction params? cs generalizing p with
  | case1 => cases h
  | case2 c hc =>
    cases h
    exact ⟨[], .done, by rw [eq_of_beq hc]; rfl, hnil⟩
  | case3 => cases h
  | case4 c d r hcd =>
    cases h
    rw [Bool.and_eq_true, beq_iff_eq, beq_iff_eq] at hcd
    exact ⟨'|' :: rest, .bar rest, by rw [hcd.1, hcd.2]; rfl, hnil⟩
  | case5 c d r hcd ih =>
    obtain ⟨⟨q, r'⟩, hq, heq⟩ := Option.map_eq_some_iff.1 h
    cases heq
    obtain ⟨tail, htail, hcs, hfree⟩ := ih hq
    refine ⟨tail, htail, by rw [hcs]; rfl, fun hp => ?_⟩
    rcases List.infix_cons_iff.1 hp with hp | hp
    · obtain ⟨hc, hq⟩ := List.cons_prefix_cons.1 hp
      cases q with
      | nil => simp at hq
      | cons e q =>
        obtain ⟨he, -⟩ := List.cons_prefix_cons.1 hq
        cases hcs
        exact hcd (by simp [← hc, ← he])
    · exact hfree hp

/-- What is read behind a name are the parameters of a call that can be written, and no more than there is. -/
theorem closed_of_tail? {cs p rest : List Char} (h : tail? cs = some (p, rest)) :
    ¬[')', '|'] <:+: p ∧ rest.length ≤ cs.length := by
  unfold tail? at h
  split at h
  · cases h
    exact ⟨by simp, Nat.le_refl _⟩
  · cases h
    exact ⟨by simp, Nat.le_succ _⟩
  · obtain ⟨tail, htail, rfl, hfree⟩ := closed_of_params? h
    refine ⟨hfree, ?_⟩
    cases htail <;> simp
    omega
  · cases h

/-! ## Texts -/

def calls (cs : List Char) : List Call := scan cs.length cs

theorem parse_eq (expr : String) : parse expr = calls expr.toList := by
  unfold parse calls
  rw [String.length_toList]

/-- The first character of a name in a text, if there is one, starts what is left from there on. -/
theorem name_cases (cs : List Char) : cs.dropWhile (!isNameChar ·) = [] ∨ ∃ c ds,
    cs.dropWhile (!isNameChar ·) = c :: ds ∧ isNameChar c = true ∧ ds.length < cs.length := by
  cases hds : cs.dropWhile (!isNameChar ·) with
  | nil => exact .inl rfl
  | cons c ds =>
    have hhead := List.head?_dropWhile_not (!isNameChar ·) cs
    have hlength := (List.dropWhile_suffix (!isNameChar ·) (l := cs)).length_le
    rw [hds] at hhead hlength
    exact .inr ⟨c, ds, rfl, by simpa using hhead, hlength⟩

/-- The calls of a text from the first character of a name on. -/
theorem scan_name {c : Char} (hc : isNameChar c = true) {n : Nat} {cs ds : List Char}
    (h : cs.dropWhile (!isNameChar ·) = c :: ds) :
    scan (n + 1) cs = match tail? (ds.dropWhile isNameChar) with
      | some (p, rest) => ⟨String.ofList (c :: ds.takeWhile isNameChar), String.ofList p⟩ :: scan n rest
      | none => scan n (ds.dropWhile isNameChar) := by
  rw [scan]
  simp only [h, List.takeWhile_cons_of_pos hc, List.dropWhile_cons_of_pos hc]
  rfl

theorem scan_of_no_name {n : Nat} {cs : List Char} (h : cs.dropWhile (!isNameChar ·) = []) : scan n cs = [] := by
  cases n with
  | zero => rfl
  | succ n =>
    unfold scan
    rw [h]
    rfl

/-- **A text is read to its end**, however much longer it might be. -/
theorem scan_eq_calls {n : Nat} {cs : List Char} (h : cs.length ≤ n) : scan n cs = calls cs := by
  have hscan : ∀ {n m : Nat} {cs : List Char}, cs.length ≤ n → cs.length ≤ m → scan n cs = scan m cs := by
    intro n
    induction n with
    | zero =>
      intro m cs hn _
      rw [List.length_eq_zero_iff.1 (Nat.le_zero.1 hn), scan_of_no_name rfl, scan_of_no_name rfl]
    | succ n ih =>
      intro m cs hn hm
      rcases name_cases cs with h | ⟨c, ds, h, hc, hlt⟩
      · rw [scan_of_no_name h, scan_of_no_name h]
      · obtain ⟨m, rfl⟩ : ∃ k, m = k + 1 := ⟨m - 1, by omega⟩
        have hrest := (List.dropWhile_suffix isNameChar (l := ds)).length_le
        rw [scan_name hc h, scan_name hc h]
        split
        · next p rest htail =>
          have hle := (closed_of_tail? htail).2
          rw [ih (m := m) (by omega) (by omega)]
        · rw [ih (m := m) (by omega) (by omega)]
  exact hscan h (Nat.le_refl _)

/-! ## Written calls -/

def shownParams (p : List Char) : List Char := if p.isEmpty then [] else '(' :: (p ++ [')'])

theorem render_toList (c : Call) : c.render.toList = c.name.toList ++ shownParams c.params.toList := by
  unfold render shownParams
  by_cases h : c.params = ""
  · simp [h]
  · simp [h, String.isEmpty_iff]

theorem tail?_shownParams {tail rest p : List Char} (htail : Closes tail rest) (hp : ¬[')', '|'] <:+: p) :
    tail? (shownParams p ++ tail) = some (p, rest) := by
  unfold shownParams
  cases p with
  | nil => cases htail <;> rfl
  | cons c p =>
    show params? (c :: p ++ [')'] ++ tail) = _
    rw [List.append_assoc]
    exact params?_closed htail hp

/-- What follows the name of a written call does not go on with the name. -/
theorem name_stops {tail rest : List Char} (htail : Closes tail rest) (p : List Char) :
    (shownParams p ++ tail).takeWhile isNameChar = [] ∧
      (shownParams p ++ tail).dropWhile isNameChar = shownParams p ++ tail := by
  cases p with
  | nil => cases htail <;> exact ⟨rfl, rfl⟩
  | cons c p => exact ⟨rfl, rfl⟩

/-- **A written call is read as it was**, and what is behind it as if it stood by itself. -/
theorem calls_render {c : Call} (hc : c.Plain) {tail rest : List Char} (htail : Closes tail rest) :
    calls (c.render.toList ++ tail) = c :: calls rest := by
  obtain ⟨name, params⟩ := c
  obtain ⟨ch, chs, hname⟩ := List.exists_cons_of_ne_nil (l := name.toList) (by simpa using hc.name_ne)
  have hchs : ∀ d ∈ ch :: chs, isNameChar d = true := hname ▸ hc.name_chars
  have hrest : ∀ d ∈ chs, isNameChar d = true := fun d hd => hchs d (List.mem_cons_of_mem ch hd)
  obtain ⟨htake, hdrop⟩ := name_stops htail params.toList
  have hstart : (ch :: (chs ++ (shownParams params.toList ++ tail))).dropWhile (!isNameChar ·) =
      ch :: (chs ++ (shownParams params.toList ++ tail)) :=
    List.dropWhile_cons_of_neg (by simp [hchs ch List.mem_cons_self])
  have hshown : rest.length ≤ (shownParams params.toList ++ tail).length :=
    (closed_of_tail? (tail?_shownParams htail hc.params)).2
  have hle := hshown.trans (List.suffix_append chs _).length_le
  rw [render_toList, List.append_assoc, hname, List.cons_append, calls, List.length_cons,
    scan_name (hchs ch List.mem_cons_self) hstart, List.takeWhile_append_of_pos hrest,
    List.dropWhile_append_of_pos hrest, htake, hdrop, tail?_shownParams htail hc.params, List.append_nil, ← hname]
  simp only [String.ofList_toList, scan_eq_calls hle]

theorem calls_written {tail rest : List Char} (htail : Closes tail rest) : ∀ {cs : List Call}, cs ≠ [] →
    (∀ c ∈ cs, c.Plain) → calls ((written cs).toList ++ tail) = cs ++ calls rest
  | [c], _, h => by
    have hc := calls_render (h c List.mem_cons_self) htail
    rwa [show written [c] = c.render from String.intercalate_singleton]
  | c :: d :: cs, _, h => by
    have hcs := calls_written htail (List.cons_ne_nil d cs) fun e he => h e (List.mem_cons_of_mem c he)
    have hwritten : written (c :: d :: cs) = c.render ++ "|" ++ written (d :: cs) := String.intercalate_cons_cons
    have hc := calls_render (h c List.mem_cons_self) (.bar ((written (d :: cs)).toList ++ tail))
    rw [hwritten, String.toList_append, String.toList_append, List.append_assoc, List.append_assoc, List.cons_append,
      ← hcs]
    exact hc

/-! ## Calls of any text -/

/-- **The calls that are read in a text can be written.** -/
theorem plain_of_mem_scan : ∀ {n : Nat} {cs : List Char} {c : Call}, c ∈ scan n cs → c.Plain
  | 0, _, _, h => by cases h
  | n + 1, cs, c, h => by
    rcases name_cases cs with hname | ⟨ch, ds, hname, hch, -⟩
    · rw [scan_of_no_name hname] at h
      cases h
    · rw [scan_name hch hname] at h
      split at h
      · next p rest htail =>
        rcases List.mem_cons.1 h with rfl | h
        · refine ⟨by simp, fun d hd => ?_, by simpa using (closed_of_tail? htail).1⟩
          rw [String.toList_ofList] at hd
          rcases List.mem_cons.1 hd with rfl | hd
          · exact hch
          · exact List.mem_takeWhile_imp hd
        · exact plain_of_mem_scan h
      · exact plain_of_mem_scan h

/-- **Reading a chain undoes writing it, and is stable.**  The calls of a chain that was written are read as they were,
with the calls of whatever stands behind a bar; and the calls that are read in any text can be written, and are read
the same again. -/
theorem parse_written :
    (∀ cs : List Call, (∀ c ∈ cs, c.Plain) →
      (∀ e, cs ≠ [] → parse (written cs ++ "|" ++ e) = cs ++ parse e) ∧ parse (written cs) = cs) ∧
    ∀ e, (∀ c ∈ parse e, c.Plain) ∧ parse (written (parse e)) = parse e := by
  have hwritten : ∀ cs : List Call, (∀ c ∈ cs, c.Plain) → parse (written cs) = cs := by
    intro cs h
    cases cs with
    | nil => rfl
    | cons c cs =>
      have hcs := calls_written .done (List.cons_ne_nil c cs) h
      rw [List.append_nil] at hcs
      rw [parse_eq, hcs]
      exact List.append_nil _
  refine ⟨fun cs h => ⟨fun e hne => ?_, hwritten cs h⟩, fun e => ?_⟩
  · rw [parse_eq, parse_eq, String.toList_append, String.toList_append, List.append_assoc]
    exact calls_written (.bar e.toList) hne h
  · have hplain : ∀ c ∈ parse e, c.Plain := fun c hc => plain_of_mem_scan hc
    exact ⟨hplain, hwritten _ hplain⟩

end Harvest.Filter.Call
