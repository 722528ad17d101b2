import Harvest.Proofs.Filter.Guard
/-!
# Refused values

A filter that changes values may fail but refuses none (`transforms_obliging`), and a validator changes none.  So what
a chain yields is what its calls of other names than the validators' make of a value, and where it is refused the first
validator that does so stands behind calls that have all been run, and before calls of which none is.
-/
namespace Harvest.Filter

variable {σ : Type} {α β : Type}

/-! ## What a filter can fail with -/

/-- All that a result can fail with satisfies `P`. -/
def Errs (P : FilterError → Prop) (r : Except FilterError α) : Prop := ∀ e, r = .error e → P e

section Errs

variable {P Q : FilterError → Prop}

theorem errs_ok (a : α) : Errs P (.ok a : Except FilterError α) := nofun

theorem errs_error {e : FilterError} (h : P e) : Errs P (.error e : Except FilterError α) :=
  fun _ he => Except.error.inj he ▸ h

theorem Errs.mono {r : Except FilterError α} (h : Errs P r) (hPQ : ∀ e, P e → Q e) : Errs Q r :=
  fun e he => hPQ e (h e he)

theorem Errs.bind {r : Except FilterError α} {f : α → Except FilterError β} (h : Errs P r)
    (hf : ∀ a, Errs P (f a)) : Errs P (r >>= f) := by
  cases r with
  | ok a => exact hf a
  | error e => exact fun e' he => h e' (congrArg _ (Except.error.inj he))

theorem Errs.map {r : Except FilterError α} (h : Errs P r) (f : α → β) :
    Errs P (do return f (← r) : Except FilterError β) := h.bind fun a => errs_ok (f a)

theorem errs_mapM {f : α → Except FilterError β} (h : ∀ a, Errs P (f a)) : ∀ as : List α, Errs P (as.mapM f)
  | [] => errs_ok []
  | a :: as => by
    rw [List.mapM_cons]
    exact (h a).bind fun b => (errs_mapM h as).map _

mutual
theorem errs_mapStrings {f : String → Except FilterError String} (h : ∀ s, Errs P (f s)) :
    ∀ v : Value, Errs P (v.mapStrings f)
  | .string s => (h s).map _
  | .strings ss => (errs_mapM h ss).map _
  | .array items => (errs_mapItems h items).map _
  | .int _ | .float _ | .bool _ | .ints _ | .floats _ | .bools _ | .map _ | .json _ => errs_ok _

theorem errs_mapItems {f : String → Except FilterError String} (h : ∀ s, Errs P (f s)) :
    ∀ items : List Value, Errs P (Value.mapItemsM f items)
  | [] => errs_ok []
  | v :: vs => (errs_mapStrings h v).bind fun _ => (errs_mapItems h vs).map _
end

end Errs

/-! ## Filters that refuse nothing -/

abbrev Obliging (r : Except FilterError α) : Prop := Errs (· ≠ .invalidContent) r

theorem Obliging.ne {r : Except FilterError α} (h : Obliging r) : r ≠ .error .invalidContent := fun he => h _ he rfl

/-! ### Failures that a chain goes on behind -/

/-- An error that is no refusal and no panic. -/
def Passing (e : FilterError) : Prop := e ≠ .invalidContent ∧ ∀ p, e ≠ .panic p

/-- An error that is no refusal, and no panic but for what a search asks for of a text. -/
def Searching (e : FilterError) : Prop := e ≠ .invalidContent ∧ ∀ p, e = .panic p → p = .inverted

theorem Passing.searching {e : FilterError} (h : Passing e) : Searching e :=
  ⟨h.1, fun p he => absurd he (h.2 p)⟩

/-- A result that is no failure at which a chain stops. -/
def Passable (r : Except FilterError α) : Prop := Errs Passing r

theorem Passable.searching {r : Except FilterError α} (h : Passable r) : Errs Searching r :=
  h.mono fun _ => Passing.searching

theorem Passable.obliging {r : Except FilterError α} (h : Passable r) : Obliging r := h.mono fun _ he => he.1

/-- A pattern that cannot be searched is an error of the parameters. -/
theorem passable_compiled (expr : String) : Passable (compiled expr) := by
  unfold compiled
  cases Pattern.Regex.compile .extended expr with
  | ok pattern => exact errs_ok pattern
  | error f => exact errs_error ⟨nofun, nofun⟩

/-- What is made of the matches in a text fails for its own reasons. -/
theorem searching_ofMatch (r : Except Pattern.Failure α) : Errs Searching (ofMatch r) := by
  cases r with
  | ok a => exact errs_ok a
  | error f =>
    cases f with
    | exhausted l => exact errs_error ⟨nofun, nofun⟩
    | inverted => exact errs_error ⟨nofun, fun p he => (FilterError.panic.inj he).symm⟩

theorem passable_integerParam (what raw : String) : Passable (integerParam what raw) := by
  unfold integerParam
  split
  · exact errs_ok _
  · exact errs_error ⟨nofun, nofun⟩

theorem passable_numberArg (what : String) (default : Int64) (raw : Option String) :
    Passable (numberArg what default raw) := by
  cases raw with
  | some raw => exact passable_integerParam what raw
  | none => exact errs_ok default

theorem passable_replaceArgs (params : String) : Passable (replaceArgs params) := by
  unfold replaceArgs
  split
  · exact errs_ok _
  · exact errs_ok _
  · exact (passable_integerParam _ _).bind fun _ => errs_ok _
  · exact errs_error ⟨nofun, nofun⟩

theorem passable_sliceIndex (raw : List Char) : Passable (sliceIndex raw) := by
  unfold sliceIndex
  split
  · exact errs_ok _
  · exact errs_error ⟨nofun, nofun⟩

theorem passable_slice (start : Nat) (stop : Option Nat) (s : String) : Passable (slice start stop s) := by
  unfold slice
  simp only
  split
  · exact errs_error ⟨nofun, nofun⟩
  · exact errs_ok _

/-! ### Templates and pages -/

theorem obliging_argumentText (v : Template.Verb) (value : Value) : Obliging (Template.argumentText v value) := by
  unfold Template.argumentText
  split
  · split
    · exact errs_error nofun
    · exact errs_ok _
  · split
    · split <;> exact errs_ok _
    · split <;> exact errs_ok _

theorem obliging_pad (v : Template.Verb) (text : List Char) : Obliging (Template.pad v text) := by
  unfold Template.pad
  simp only
  split
  · exact errs_error nofun
  · split <;> exact errs_ok _

theorem obliging_render : ∀ (ps : List Template.Piece) (args : List (Option Value)), Obliging (Template.render ps args)
  | [], _ => errs_ok []
  | .literal _ :: ps, args => (obliging_render ps args).map _
  | .unfinished :: _, _ => errs_ok _
  | .verb _ :: ps, [] => (obliging_render ps []).map _
  | .verb v :: ps, arg :: args => by
    have hrest : ∀ text : String, Obliging (do
        return (← Template.pad v text.toList) ++ (← Template.render ps args)) := fun text =>
      (obliging_pad v text.toList).bind fun _ => (obliging_render ps args).map _
    cases arg with
    | none => exact hrest "<nil>"
    | some value => exact (obliging_argumentText v value).bind hrest

theorem obliging_expand (template : String) (args : List (Option Value)) : Obliging (Template.expand template args) :=
  (obliging_render _ args).map _

theorem obliging_integer (raw : List Char) : Obliging (Paging.integer raw) := by
  unfold Paging.integer
  split
  · exact errs_ok _
  · exact errs_error nofun

theorem obliging_stepOf (raws : List (List Char)) : Obliging (Paging.stepOf raws) := by
  cases raws with
  | nil => exact errs_ok none
  | cons raw _ =>
    refine (obliging_integer raw).bind fun step => ?_
    split
    · exact errs_error nofun
    · exact errs_ok _

theorem obliging_pageRange (params : String) : Obliging (Paging.PageRange.parse params) := by
  unfold Paging.PageRange.parse
  split
  · refine (obliging_stepOf _).bind fun step => (obliging_integer _).bind fun start =>
      (obliging_integer _).bind fun stop => ?_
    simp only
    split
    · exact errs_ok _
    · exact errs_error nofun
  · exact errs_error nofun

theorem obliging_fill (r : Paging.PageRange) (template : String) (page : Int) : Obliging (r.fill template page) := by
  unfold Paging.PageRange.fill
  split
  · exact errs_ok _
  · simp only
    split
    · exact errs_ok _
    · exact errs_error nofun

theorem obliging_pick (templates : List String) (page : Int) : Obliging (Paging.pick templates page) := by
  unfold Paging.pick
  split
  · exact errs_ok _
  · exact errs_error fun h => by cases h

theorem obliging_paging (value : Value) (params : String) : Obliging (Paging.paging value params) := by
  unfold Paging.paging
  refine (obliging_pageRange params).bind fun r => ?_
  split
  · exact (errs_mapM (obliging_fill r _) _).map _
  · refine Errs.bind (errs_mapM (fun item => ?_) _) fun templates =>
      (errs_mapM (fun p : String × Int => obliging_fill r p.1 p.2) _).map _
    split
    · exact errs_ok _
    · exact errs_error nofun
  · exact (errs_mapM (fun page => (obliging_pick _ page).bind fun t => obliging_fill r t page) _).map _
  · exact errs_error nofun

/-! ### The table -/

theorem obliging_replace (value : Value) (params : String) : Obliging (replace value params) :=
  (passable_replaceArgs params).obliging.bind fun _ => errs_mapStrings (fun _ => errs_ok _) value

theorem obliging_split (value : Value) (params : String) : Obliging (split value params) := by
  unfold split
  split <;> exact errs_ok _

theorem obliging_join (value : Value) (params : String) : Obliging (join value params) := by
  unfold join
  split <;> exact errs_ok _

theorem obliging_substr (value : Value) (params : String) : Obliging (substr value params) := by
  unfold substr
  split
  · exact (passable_sliceIndex _).obliging.bind fun start =>
      errs_mapStrings (fun s => (passable_slice start none s).obliging) value
  · exact (passable_sliceIndex _).obliging.bind fun start => (passable_sliceIndex _).obliging.bind fun stop =>
      errs_mapStrings (fun s => (passable_slice start (some stop) s).obliging) value
  · exact errs_ok _

theorem obliging_intval (value : Value) (params : String) : Obliging (intval value params) := by
  unfold intval
  split
  · split
    · exact errs_ok _
    · exact errs_error nofun
  · exact errs_ok _
  · exact errs_ok _

theorem obliging_floatval (value : Value) (params : String) : Obliging (floatval value params) := by
  unfold floatval
  split
  · split
    · exact errs_ok _
    · exact errs_error nofun
  · exact errs_ok _
  · exact errs_ok _

theorem searching_hrefreplace (value : Value) (params : String) : Errs Searching (hrefreplace value params) :=
  (passable_compiled _).searching.bind fun _ => errs_mapStrings (fun _ => (searching_ofMatch _).map _) value

theorem searching_regexpreplace (value : Value) (params : String) : Errs Searching (regexpreplace value params) := by
  refine (passable_numberArg _ _ _).searching.bind fun start => (passable_numberArg _ _ _).searching.bind fun count =>
    (passable_compiled _).searching.bind fun pattern => ?_
  split
  · exact errs_ok _
  · exact errs_mapStrings (fun _ => (searching_ofMatch _).map _) value

theorem obliging_wraphtml (value : Value) (params : String) : Obliging (wraphtml value params) := by
  unfold wraphtml
  split
  · exact errs_error nofun
  · exact errs_mapStrings (fun _ => errs_ok _) value

theorem obliging_sprintf (value : Value) (params : String) : Obliging (sprintf value params) := by
  unfold sprintf
  split
  · refine (errs_mapM (fun s => ?_) _).map _
    split
    · exact errs_ok _
    · exact obliging_expand _ _
  · exact (obliging_expand _ _).map _

theorem obliging_sprintfmap (value : Value) (params : String) : Obliging (sprintfmap value params) := by
  unfold sprintfmap
  split
  · split
    · exact (obliging_expand _ _).map _
    · exact errs_error nofun
  · exact errs_error nofun

theorem obliging_unquote (value : Value) (params : String) : Obliging (unquote value params) := by
  refine errs_mapStrings (fun s => ?_) value
  split
  · exact errs_ok _
  · exact errs_error nofun

/-- **No filter that changes values refuses one**, and none acts on a state. -/
theorem transforms_obliging (σ : Type) (clock : Clock) : ∀ f ∈ transforms σ clock,
    ∃ g : Value → String → Except FilterError Value, (∀ v params, Obliging (g v params)) ∧
      f.run = fun v params s => (g v params, s) := by
  have hstrings : ∀ g : String → String → String, ∀ v params,
      Obliging (Value.mapStrings (fun s => .ok (g params s)) v) :=
    fun g v params => errs_mapStrings (fun _ => errs_ok _) v
  have hsearching : ∀ {g : Value → String → Except FilterError Value}, (∀ v params, Errs Searching (g v params)) →
      ∀ v params, Obliging (g v params) := fun h v params => (h v params).mono fun _ he => he.1
  unfold transforms
  simp only [List.forall_mem_cons, Filter.stateless]
  refine ⟨⟨_, hstrings _, rfl⟩, ⟨_, hstrings _, rfl⟩, ⟨_, obliging_replace, rfl⟩, ⟨_, obliging_split, rfl⟩,
    ⟨_, obliging_join, rfl⟩, ⟨_, hstrings _, rfl⟩, ⟨_, hstrings _, rfl⟩, ⟨_, obliging_substr, rfl⟩,
    ⟨_, obliging_intval, rfl⟩, ⟨_, obliging_floatval, rfl⟩, ⟨_, hsearching searching_hrefreplace, rfl⟩,
    ⟨_, hsearching searching_regexpreplace, rfl⟩, ⟨_, obliging_wraphtml, rfl⟩, ⟨_, hstrings _, rfl⟩,
    ⟨_, hstrings _, rfl⟩, ⟨_, hstrings _, rfl⟩, ⟨_, obliging_sprintf, rfl⟩, ⟨_, obliging_sprintfmap, rfl⟩,
    ⟨_, fun _ _ => errs_ok _, rfl⟩, ⟨_, fun _ _ => errs_ok _, rfl⟩, ⟨_, obliging_paging, rfl⟩, ⟨_, hstrings _, rfl⟩,
    ⟨_, obliging_unquote, rfl⟩, List.forall_mem_nil _⟩

end Harvest.Filter
