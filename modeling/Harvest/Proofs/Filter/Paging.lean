import Harvest.Proofs.Filter.Placeholder
/-!
# Pages of a range

A range whose start and end lie at most 2^63 apart, in either direction, and that has no more pages than allowed is
expanded page by page, and the parameters are at fault exactly where an offset that is needed does not fit or a list
has no template for a page (`paging_exact`).  Any other range is refused, one that ends far before its start among them.
-/
namespace Harvest.Filter.Paging

open Text.Numeral (ofInt)

variable {α β : Type}

/-! ## Results with a condition -/

/-- A result that is there exactly under a condition; else the parameters are at fault. -/
structure Guarded (result : Except FilterError α) (p : Prop) (a : α) : Prop where
  ok : p → result = .ok a
  fault : ¬ p → ∃ why, result = .error (.invalidParams why)

variable {result : Except FilterError α} {p q : Prop} {a : α}

theorem Guarded.congr (h : Guarded result p a) (hpq : p ↔ q) : Guarded result q a :=
  ⟨fun hq => h.ok (hpq.2 hq), fun hq => h.fault (mt hpq.1 hq)⟩

theorem Guarded.bind {f : α → Except FilterError β} {b : β} (h : Guarded result p a) (hf : Guarded (f a) q b) :
    Guarded (result >>= f) (p ∧ q) b := by
  constructor
  · rintro ⟨hp, hq⟩
    rw [h.ok hp]
    exact hf.ok hq
  · intro hpq
    by_cases hp : p
    · obtain ⟨why, hwhy⟩ := hf.fault fun hq => hpq ⟨hp, hq⟩
      rw [h.ok hp]
      exact ⟨why, hwhy⟩
    · obtain ⟨why, hwhy⟩ := h.fault hp
      rw [hwhy]
      exact ⟨why, rfl⟩

theorem guarded_ok (a : α) : Guarded (.ok a) True a := ⟨fun _ => rfl, fun h => absurd trivial h⟩

theorem Guarded.map {result : Except FilterError α} (h : Guarded result p a) (f : α → β) :
    Guarded (do return f (← result)) p (f a) :=
  (h.bind (f := fun a => .ok (f a)) (guarded_ok (f a))).congr (and_iff_left trivial)

theorem guarded_mapM {f : α → Except FilterError β} {p : α → Prop} {g : α → β} : ∀ as : List α,
    (∀ a ∈ as, Guarded (f a) (p a) (g a)) → Guarded (as.mapM f) (∀ a ∈ as, p a) (as.map g)
  | [], _ => (guarded_ok []).congr (iff_of_true trivial nofun)
  | a :: as, h => by
    have hrest := guarded_mapM as fun b hb => h b (List.mem_cons_of_mem a hb)
    rw [List.mapM_cons]
    exact ((h a List.mem_cons_self).bind (hrest.map (g a :: ·))).congr List.forall_mem_cons.symm

/-! ## Parameters of a range -/

/-- The parameters that a range is written as. -/
def PageRange.params (r : PageRange) : String :=
  ofInt r.start.toInt ++ "," ++ ofInt r.stop.toInt ++
    match r.step with
    | none => ""
    | some step => "," ++ ofInt step.toInt

variable {r : PageRange}

theorem integer_ofInt (n : Int64) : integer (ofInt n.toInt).toList = .ok n := by
  rw [integer, Text.Numeral.trimBlank_ofInt, Text.Numeral.int64?_ofInt]

theorem comma_not_mem_ofInt (n : Int) : ',' ∉ (ofInt n).toList := by
  intro h
  rcases Text.Numeral.of_mem_ofInt h with hdigit | heq
  · cases hdigit
  · cases heq

theorem splitAt_params (r : PageRange) : Text.splitAt ',' r.params.toList =
    (ofInt r.start.toInt).toList :: (ofInt r.stop.toInt).toList ::
      (r.step.map fun step => (ofInt step.toInt).toList).toList := by
  have hone : ∀ n : Int, Text.splitAt ',' (ofInt n).toList = [(ofInt n).toList] := fun n =>
    Text.splitAt_of_not_mem (comma_not_mem_ofInt n)
  have hmore : ∀ (n : Int) (rest : List Char), Text.splitAt ',' ((ofInt n).toList ++ ',' :: rest) =
      (ofInt n).toList :: Text.splitAt ',' rest := fun n rest => by
    rw [Text.splitAt_append, hone]
    rfl
  have hcomma : ",".toList = [','] := by decide
  unfold PageRange.params
  cases r.step with
  | none =>
    simp only [String.toList_append, hcomma, String.toList_empty, List.append_assoc, List.cons_append, List.nil_append,
      List.append_nil, hmore, hone]
    rfl
  | some step =>
    simp only [String.toList_append, hcomma, List.append_assoc, List.cons_append, List.nil_append, hmore, hone]
    rfl

/-- The distance of start and end fits into 64 bits, and there are not too many pages. -/
def PageRange.Spans (r : PageRange) : Prop :=
  -0x8000000000000000 ≤ r.stop.toInt - r.start.toInt ∧ r.stop.toInt - r.start.toInt + 1 ≤ 10000

/-- **A range is read back from its parameters**, or refused for what it spans. -/
theorem parse_params (hstep : ∀ step ∈ r.step, 1 ≤ step) :
    (r.Spans → PageRange.parse r.params = .ok r) ∧
      (¬ r.Spans → PageRange.parse r.params = .error (.invalidParams (.pagingSpan r.start r.stop))) := by
  have hsteps : stepOf (r.step.map fun step => (ofInt step.toInt).toList).toList = .ok r.step := by
    cases hr : r.step with
    | none => rfl
    | some step =>
      have hnot : ¬ step < 1 := Int64.not_lt.2 (hstep step hr)
      show (integer (ofInt step.toInt).toList >>= _) = _
      rw [integer_ofInt]
      exact if_neg hnot
  have hspan : (fits (r.stop.toInt - r.start.toInt) && fits (r.stop.toInt - r.start.toInt + 1) &&
      decide (r.stop.toInt - r.start.toInt + 1 ≤ maxPages)) = true ↔ r.Spans := by
    have hmax : (maxPages : Int) = 10000 := rfl
    simp only [fits, hmax, PageRange.Spans, Bool.and_eq_true, decide_eq_true_eq]
    omega
  have hparse : PageRange.parse r.params = if fits (r.stop.toInt - r.start.toInt) &&
      fits (r.stop.toInt - r.start.toInt + 1) && decide (r.stop.toInt - r.start.toInt + 1 ≤ maxPages) then .ok r
      else .error (.invalidParams (.pagingSpan r.start r.stop)) := by
    rw [PageRange.parse, splitAt_params]
    simp only [hsteps, integer_ofInt]
    rfl
  rw [hparse]
  exact ⟨fun h => if_pos (hspan.2 h), fun h => if_neg (mt hspan.1 h)⟩

/-! ## Pages -/

theorem length_pages (r : PageRange) : r.pages.length = (r.stop.toInt - r.start.toInt + 1).toNat := by
  simp [PageRange.pages]

theorem mem_pages {page : Int} : page ∈ r.pages ↔ r.start.toInt ≤ page ∧ page ≤ r.stop.toInt := by
  simp only [PageRange.pages, List.mem_map, List.mem_range]
  constructor
  · rintro ⟨i, hi, rfl⟩
    simp only [Int.ofNat_eq_natCast]
    omega
  · intro h
    exact ⟨(page - r.start.toInt).toNat, by omega, by simp only [Int.ofNat_eq_natCast]; omega⟩

theorem pages_increasing (r : PageRange) : r.pages.Pairwise (· < ·) := by
  refine List.pairwise_map.2 (List.pairwise_lt_range.imp fun {i j} hij => ?_)
  simp only [Int.ofNat_eq_natCast]
  omega

/-! ## Templates -/

theorem guarded_fill (hstep : ∀ step ∈ r.step, 1 ≤ step) (template : String) (page : Int) :
    Guarded (r.fill template page) (r.Reaches page) (r.expansion template page) :=
  ⟨(fill_eq hstep template).1, fun h => ⟨_, (fill_eq hstep template).2 h⟩⟩

theorem guarded_pick (ts : List String) (page : Int) :
    Guarded (pick ts page) (0 ≤ page ∧ page < ts.length) (ts[page.toNat]?.getD "") := by
  unfold pick
  constructor
  · rintro ⟨hlow, hhigh⟩
    have hlt : page.toNat < ts.length := by omega
    rw [if_pos hlow, List.getElem?_eq_getElem hlt]
    rfl
  · intro h
    by_cases hlow : 0 ≤ page
    · have hle : ts.length ≤ page.toNat := by omega
      rw [if_pos hlow, List.getElem?_eq_none hle]
      exact ⟨_, rfl⟩
    · rw [if_neg hlow]
      exact ⟨_, rfl⟩

theorem mapM_map_of_ok {f : β → Except FilterError α} {g : α → β} (h : ∀ a, f (g a) = .ok a) :
    ∀ as : List α, (as.map g).mapM f = .ok as
  | [] => rfl
  | a :: as => by
    rw [List.map_cons, List.mapM_cons, h, mapM_map_of_ok h as]
    rfl

/-! ## Ranges expanded -/

/-- The texts for the pages of a range that spans what it may, of a template, of a list of values and of a list of
strings. -/
theorem guarded_paging (hstep : ∀ step ∈ r.step, 1 ≤ step) (hspans : r.Spans) :
    (∀ t, Guarded (paging (.string t) r.params) (∀ page ∈ r.pages, r.Reaches page)
      (.strings (r.pages.map (r.expansion t)))) ∧
    (∀ ts : List String, Guarded (paging (.array (ts.map .string)) r.params)
      (ts ≠ [] → ∀ page ∈ r.pages, r.Reaches page)
      (.strings (r.pages.flatMap fun page => ts.map fun t => r.expansion t page))) ∧
    (∀ ts : List String, Guarded (paging (.strings ts) r.params)
      (ts ≠ [] → ∀ page ∈ r.pages, (0 ≤ page ∧ page < ts.length) ∧ r.Reaches page)
      (.strings (r.pages.flatMap fun page => List.replicate ts.length (r.expansion (ts[page.toNat]?.getD "") page)))) := by
  have hparse := (parse_params hstep).1 hspans
  refine ⟨fun t => ?_, fun ts => ?_, fun ts => ?_⟩
  · have hpages := guarded_mapM r.pages fun page _ => guarded_fill hstep t page
    rw [paging, hparse]
    exact hpages.map _
  · have hpages := (guarded_mapM (r.pages.flatMap fun page => ts.map fun t => (t, page))
      fun p _ => guarded_fill hstep p.1 p.2).map Value.strings
    have hneeded : (∀ p ∈ r.pages.flatMap fun page => ts.map fun t => (t, page), r.Reaches p.2) ↔
        (ts ≠ [] → ∀ page ∈ r.pages, r.Reaches page) := by
      simp only [List.mem_flatMap, List.mem_map]
      constructor
      · intro h hne page hpage
        obtain ⟨t, ht⟩ := List.exists_mem_of_ne_nil ts hne
        exact h (t, page) ⟨page, hpage, t, ht, rfl⟩
      · rintro h p ⟨page, hpage, t, ht, rfl⟩
        exact h (List.ne_nil_of_mem ht) page hpage
    rw [List.map_flatMap] at hpages
    simp only [List.map_map] at hpages
    rw [paging, hparse]
    show Guarded (List.mapM _ _ >>= _) _ _
    rw [mapM_map_of_ok]
    · exact hpages.congr hneeded
    · exact fun t => rfl
  · have hpages := (guarded_mapM (r.pages.flatMap fun page => List.replicate ts.length page)
      fun page _ => (guarded_pick ts page).bind (f := fun t => r.fill t page) (guarded_fill hstep _ page)).map
        Value.strings
    have hneeded : (∀ page ∈ r.pages.flatMap fun page => List.replicate ts.length page,
        (0 ≤ page ∧ page < ts.length) ∧ r.Reaches page) ↔
        (ts ≠ [] → ∀ page ∈ r.pages, (0 ≤ page ∧ page < ts.length) ∧ r.Reaches page) := by
      simp only [List.mem_flatMap, List.mem_replicate]
      constructor
      · intro h hne page hpage
        exact h page ⟨page, hpage, mt List.length_eq_zero_iff.1 hne, rfl⟩
      · rintro h page ⟨page', hpage, hlength, rfl⟩
        exact h (mt List.length_eq_zero_iff.2 hlength) page hpage
    rw [List.map_flatMap] at hpages
    simp only [List.map_replicate] at hpages
    rw [paging, hparse]
    exact hpages.congr hneeded

/-- **A range expanded, exactly**: whatever value it is asked for, a range of more pages than allowed is refused, and so
is one that ends more than 2^63 before its start.  Any other range is expanded page by page in increasing order; the
parameters are at fault exactly where an offset that is needed does not fit into 64 bits, or a list of strings that is
not empty has no string for a page. -/
theorem paging_exact (start stop : Int64) (step : Option Int64) (hstep : ∀ s ∈ step, 1 ≤ s) :
    let r : PageRange := ⟨start, stop, step⟩
    let count := stop.toInt - start.toInt + 1
    (10000 < count ∨ stop.toInt - start.toInt < -0x8000000000000000 →
      ∀ v, paging v r.params = .error (.invalidParams (.pagingSpan start stop))) ∧
    (count ≤ 10000 → -0x8000000000000000 ≤ stop.toInt - start.toInt →
      (r.pages.length = count.toNat ∧ r.pages.Pairwise (· < ·) ∧
        ∀ page, page ∈ r.pages ↔ start.toInt ≤ page ∧ page ≤ stop.toInt) ∧
      (∀ t, Guarded (paging (.string t) r.params) (∀ page ∈ r.pages, r.Reaches page)
        (.strings (r.pages.map (r.expansion t)))) ∧
      (∀ ts : List String, Guarded (paging (.array (ts.map .string)) r.params)
        (ts ≠ [] → ∀ page ∈ r.pages, r.Reaches page)
        (.strings (r.pages.flatMap fun page => ts.map fun t => r.expansion t page))) ∧
      ∀ ts : List String, Guarded (paging (.strings ts) r.params)
        (ts ≠ [] → ∀ page ∈ r.pages, (0 ≤ page ∧ page < ts.length) ∧ r.Reaches page)
        (.strings (r.pages.flatMap fun page =>
          List.replicate ts.length (r.expansion (ts[page.toNat]?.getD "") page)))) := by
  intro r count
  refine ⟨fun hwide v => ?_, fun hcount hlow => ⟨⟨length_pages r, pages_increasing r, fun page => mem_pages⟩, ?_⟩⟩
  · have hspans : ¬ r.Spans := fun h => by
      obtain ⟨hlow, hhigh⟩ := h
      rcases hwide with hwide | hwide
      · exact absurd hhigh (Int.not_le.2 hwide)
      · exact absurd hlow (Int.not_le.2 hwide)
    rw [paging, (parse_params hstep).2 hspans]
    rfl
  · exact guarded_paging hstep ⟨hlow, hcount⟩

/-- The first two pages of a template, with a step of ten; and a range that ends too far before its start. -/
theorem paging_exact_steps : (∀ s ∈ some (10 : Int64), 1 ≤ s) ∧
    paging (.string "o=\x7b0\x7d&l=\x7b1\x7d") "0,1,10" = .ok (.strings ["o=0&l=10", "o=10&l=20"]) ∧
    Int64.minValue.toInt - Int64.maxValue.toInt < -0x8000000000000000 ∧
    paging (.string "x") "9223372036854775807,-9223372036854775808,10" =
      .error (.invalidParams (.pagingSpan Int64.maxValue Int64.minValue)) := by
  have hstep : ∀ s ∈ some (10 : Int64), 1 ≤ s := by
    rintro s ⟨⟩
    decide
  have hpages : PageRange.pages ⟨0, 1, some 10⟩ = [0, 1] := by decide
  have hreaches : ∀ page ∈ PageRange.pages ⟨0, 1, some 10⟩, PageRange.Reaches ⟨0, 1, some 10⟩ page := by
    rw [hpages]
    rintro page hpage step ⟨⟩
    revert page
    decide
  have hwide : Int64.minValue.toInt - Int64.maxValue.toInt < -0x8000000000000000 := by decide
  have hparams : PageRange.params ⟨0, 1, some 10⟩ = "0,1,10" := by decide
  have hparams' : PageRange.params ⟨Int64.maxValue, Int64.minValue, some 10⟩ =
      "9223372036854775807,-9223372036854775808,10" := by decide
  have hrun := ((paging_exact 0 1 (some 10) hstep).2 (by decide) (by decide)).2.1 "o=\x7b0\x7d&l=\x7b1\x7d"
  have hrefused := (paging_exact Int64.maxValue Int64.minValue (some 10) hstep).1 (.inr hwide) (.string "x")
  rw [hparams, hpages] at hrun
  rw [hparams'] at hrefused
  exact ⟨hstep, hrun.ok (hpages ▸ hreaches), hwide, hrefused⟩

end Harvest.Filter.Paging
