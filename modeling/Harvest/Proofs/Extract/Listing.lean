import Harvest.Proofs.Extract.Cache
import Harvest.Proofs.Extract.Composite
/-!
# Lists of scalars and arrays of scalars

A list type converts all elements at once and fails as a whole; an array whose one child is a scalar converts them one
by one and leaves out what fails.  Both convert each element alike: the list has a value exactly if the array leaves
nothing out, and then their JSON forms are the same (`lists_agree_with_arrays`).
-/
namespace Harvest

theorem Value.itemsToJson_eq (vs : List Value) : itemsToJson vs = vs.map toJson := by
  induction vs with
  | nil => rfl
  | cons v vs ih => rw [itemsToJson, ih, List.map_cons]

namespace Extract

variable {σ α β : Type}

/-! ## Conversions as a whole and one by one -/

/-- A conversion of all items has converted each of them, or it stopped at one that cannot be converted. -/
theorem convertAll_cases {f : α → Except ExtractError β} (h : ∀ a, DecodeOnly (f a)) : ∀ as : List α,
    (∃ bs, convertAll f as = .ok bs ∧ as.map f = bs.map .ok) ∨
    ((∃ fault, convertAll f as = .error (.decode fault)) ∧ ∃ a ∈ as, ∃ e, f a = .error e)
  | [] => .inl ⟨[], rfl, rfl⟩
  | a :: as => by
    rw [convertAll]
    cases ha : f a with
    | error e =>
      obtain ⟨fault, rfl⟩ := h a e ha
      exact .inr ⟨⟨fault, rfl⟩, a, .head _, _, ha⟩
    | ok b =>
      rcases convertAll_cases h as with ⟨bs, hall, heach⟩ | ⟨⟨fault, hall⟩, c, hc, hfail⟩
      · exact .inl ⟨b :: bs, by rw [hall]; rfl, by rw [List.map_cons, List.map_cons, ha, heach]⟩
      · exact .inr ⟨⟨fault, by rw [hall]; rfl⟩, c, .tail _ hc, hfail⟩

theorem convertAll_ok : ∀ as : List α, convertAll .ok as = .ok as
  | [] => rfl
  | a :: as => by
    rw [convertAll, convertAll_ok as]
    rfl

/-- The values of those outcomes that are no failures, in order. -/
def kept (outcomes : List (Except ExtractError Value)) : List Value := outcomes.filterMap Except.toOption

theorem kept_map_ok (vs : List Value) : kept (vs.map .ok) = vs := by
  unfold kept
  rw [List.filterMap_map]
  exact List.filterMap_some

theorem length_kept_lt {outcomes : List (Except ExtractError Value)} {e : ExtractError} (h : .error e ∈ outcomes) :
    (kept outcomes).length < outcomes.length := List.length_filterMap_lt_length_iff_exists.2 ⟨_, h, rfl⟩

/-- **A list as a whole agrees with its items one by one**: it has a value exactly if no item fails, its value then has
the JSON form of the list of the items' values, and it fails for what it converts if some item fails. -/
structure Agrees (whole : Except ExtractError Value) (outcomes : List (Except ExtractError Value)) : Prop where
  ok_iff : (∃ v, whole = .ok v) ↔ (kept outcomes).length = outcomes.length
  json : ∀ v, whole = .ok v → v.toJson = (Value.array (kept outcomes)).toJson
  failed : (∃ o ∈ outcomes, ∃ e, o = .error e) → ∃ fault, whole = .error (.decode fault)

theorem agrees_convertAll {f : α → Except ExtractError β} (h : ∀ a, DecodeOnly (f a)) {one : β → Value}
    {many : List β → Value} (hjson : ∀ bs, (many bs).toJson = (Value.array (bs.map one)).toJson) (as : List α) :
    Agrees ((convertAll f as).map many) (as.map fun a => (f a).map one) := by
  rcases convertAll_cases h as with ⟨bs, hall, heach⟩ | ⟨⟨fault, hall⟩, a, ha, e, hfail⟩
  · have houtcomes : (as.map fun a => (f a).map one) = (bs.map one).map .ok := by
      rw [← Function.comp_def, ← List.map_map, heach, List.map_map, List.map_map]
      rfl
    rw [hall, houtcomes]
    refine ⟨iff_of_true ⟨_, rfl⟩ ?_, fun v hv => ?_, fun ⟨o, ho, e, he⟩ => ?_⟩
    · simp only [kept_map_ok, List.length_map]
    · cases hv
      rw [kept_map_ok, hjson]
    · obtain ⟨v, -, hv⟩ := List.mem_map.1 ho
      rw [he] at hv
      cases hv
  · have hmem : .error e ∈ as.map fun a => (f a).map one :=
      List.mem_map.2 ⟨a, ha, by rw [hfail]; rfl⟩
    rw [hall]
    exact ⟨iff_of_false nofun (Nat.ne_of_lt (length_kept_lt hmem)), nofun, fun _ => ⟨fault, rfl⟩⟩

/-! ## Scalars and their lists -/

theorem toJson_ints (ns : List Int64) : (Value.ints ns).toJson = (Value.array (ns.map .int)).toJson := by
  simp [Value.toJson, Value.itemsToJson_eq]

theorem toJson_floats (xs : List Binary64) : (Value.floats xs).toJson = (Value.array (xs.map .float)).toJson := by
  simp [Value.toJson, Value.itemsToJson_eq]

theorem toJson_bools (bs : List Bool) : (Value.bools bs).toJson = (Value.array (bs.map .bool)).toJson := by
  simp [Value.toJson, Value.itemsToJson_eq]

theorem toJson_strings (ss : List String) : (Value.strings ss).toJson = (Value.array (ss.map .string)).toJson := by
  simp [Value.toJson, Value.itemsToJson_eq]

def listTag? : Tag → Option Tag
  | .int => some .ints
  | .float => some .floats
  | .bool => some .bools
  | .string => some .strings
  | .text => some .texts
  | _ => none

def scalarOfJson (tag : Tag) (j : Json) : Except ExtractError Value :=
  match tag with
  | .int => (intOfJson j).map .int
  | .float => (floatOfJson j).map .float
  | .bool => (boolOfJson j).map .bool
  | _ => (stringOfJson j).map .string

/-- The items of a JSON array as a list of a type. -/
def listOfJson (tag : Tag) (j : Json) : Except ExtractError Value :=
  match tag with
  | .ints => (itemsOfJson intOfJson j).map .ints
  | .floats => (itemsOfJson floatOfJson j).map .floats
  | .bools => (itemsOfJson boolOfJson j).map .bools
  | _ => (itemsOfJson stringOfJson j).map .strings

variable {tag many : Tag}

theorem listOfTexts_agrees (h : listTag? tag = some many) (texts : List String) :
    Agrees (listOfTexts many texts) (texts.map (scalarOfText tag)) := by
  have hstrings := agrees_convertAll (fun s => decodeOnly_ok s) toJson_strings texts
  rw [convertAll_ok] at hstrings
  cases tag <;> cases h
  · exact agrees_convertAll decodeOnly_int toJson_ints texts
  · exact agrees_convertAll decodeOnly_float toJson_floats texts
  · exact agrees_convertAll decodeOnly_bool toJson_bools texts
  · exact hstrings
  · exact hstrings

theorem listOfJson_agrees (h : listTag? tag = some many) (items : List Json) :
    Agrees (listOfJson many (.array items)) (items.map (scalarOfJson tag)) := by
  cases tag <;> cases h
  · exact agrees_convertAll decodeOnly_intOfJson toJson_ints items
  · exact agrees_convertAll decodeOnly_floatOfJson toJson_floats items
  · exact agrees_convertAll decodeOnly_boolOfJson toJson_bools items
  · exact agrees_convertAll decodeOnly_stringOfJson toJson_strings items
  · exact agrees_convertAll decodeOnly_stringOfJson toJson_strings items

theorem listOfJson_of_noItems (h : listTag? tag = some many) {j : Json} (hj : (Site.json j).elements? = none) :
    listOfJson many j = .error (.decode (.jsonNotArray j)) := by
  cases j with
  | array items => cases hj
  | _ => cases tag <;> cases h <;> rfl

/-! ## Nodes on their targets -/

variable {e : Evaluator σ} {spec : Spec} {levels : Nat}

theorem finishWith_apply (hfilter : spec.filter = "") (r : Except ExtractError Value) (s : State σ) :
    e.finishWith spec r s = (r, s) := by
  unfold Evaluator.finishWith
  rw [Run.bind_apply, Run.lift_apply]
  cases r with
  | ok v => exact congrFun (finish_eq hfilter v) s
  | error err => rfl

theorem jsonTarget_scalar (hlist : listTag? spec.tag = some many) (hfilter : spec.filter = "") (b : Below σ) (j : Json)
    (s : State σ) : e.jsonTarget b spec j s = (scalarOfJson spec.tag j, s) := by
  unfold Evaluator.jsonTarget
  generalize htag : spec.tag = tag at hlist
  cases tag <;> cases hlist <;> exact finishWith_apply hfilter _ s

theorem jsonTarget_list (hlist : listTag? tag = some spec.tag) (hfilter : spec.filter = "") (b : Below σ) (j : Json)
    (s : State σ) : e.jsonTarget b spec j s = (listOfJson spec.tag j, s) := by
  unfold Evaluator.jsonTarget
  generalize htag : spec.tag = many at hlist
  cases tag <;> cases hlist <;> exact finishWith_apply hfilter _ s

theorem readEach_text (d : Markup.Document) : ∀ nodes : List Nat,
    Css.Mode.text.readEach d nodes = .ok (nodes.map d.text)
  | [] => rfl
  | i :: is => by
    rw [Css.Mode.readEach, Css.Mode.read, readEach_text d is]
    rfl

theorem content_text (i : Nat) (shown : String) (s : State σ) :
    Evaluator.content [i] .text shown s = (.ok (s.document.text i), s) := by
  have hread : Css.Mode.text.readAll s.document [i] = .ok (some (s.document.text i)) := by
    unfold Css.Mode.readAll
    simp only [readEach_text]
    exact congrArg (fun t => Except.ok (some t)) String.empty_append
  unfold Evaluator.content Run.look Run.of
  simp only [hread]

theorem contents_text (nodes : List Nat) (s : State σ) :
    Evaluator.contents nodes .text s = (.ok (nodes.map s.document.text), s) :=
  congrArg (·, s) (readEach_text s.document nodes)

theorem htmlTarget_scalar (hlist : listTag? spec.tag = some many) (hfilter : spec.filter = "") (b : Below σ)
    (inside : Spec → List Nat → Run σ Value) (i : Nat) (shown : String) (s : State σ) :
    e.htmlTarget b inside spec [i] .text shown s = (scalarOfText spec.tag (s.document.text i), s) := by
  unfold Evaluator.htmlTarget
  generalize htag : spec.tag = tag at hlist
  cases tag <;> cases hlist <;> simp only [Run.bind_apply, content_text] <;> exact finishWith_apply hfilter _ s

theorem htmlTarget_list (hlist : listTag? tag = some spec.tag) (hfilter : spec.filter = "") (b : Below σ)
    (inside : Spec → List Nat → Run σ Value) (nodes : List Nat) (shown : String) (s : State σ) :
    e.htmlTarget b inside spec nodes .text shown s = (listOfTexts spec.tag (nodes.map s.document.text), s) := by
  unfold Evaluator.htmlTarget
  generalize htag : spec.tag = many at hlist
  cases tag <;> cases hlist <;> simp only [Run.bind_apply, contents_text] <;> exact finishWith_apply hfilter _ s

/-! ## Nodes that read texts or JSON values -/

/-- A selector that leads to elements that are read as texts or as JSON values.  Patterns do not, nor do chains that
read an attribute or markup. -/
inductive Elementwise : Selector → Site → Prop where
  | context (nodes : List Nat) : Elementwise .current (.nodes nodes)
  | chain (raw : String) (context : List Nat) :
      (∀ chain, Css.Chain.parse raw = .ok chain → chain.mode = .text) → Elementwise (.native raw) (.nodes context)
  | value (j : Json) : Elementwise .current (.json j)
  | path (raw : String) (j : Json) : Elementwise (.native raw) (.json j)

/-- One node on what its selector leads to. -/
def Evaluator.onTarget (e : Evaluator σ) (levels : Nat) (spec : Spec) : Site → Run σ Value
  | .nodes nodes => e.htmlTarget (e.below levels) (e.inside levels) spec nodes .text spec.selector.toText
  | .json j => e.jsonTarget (e.below levels) spec j
  | .text t => e.textNode (e.below levels) spec t

/-- The mode that nodes are read in is that of their chain. -/
theorem navigate_mode {raw : String} {context nodes : List Nat} {mode m : Css.Mode} {s t : State σ}
    (hmode : ∀ chain, Css.Chain.parse raw = .ok chain → chain.mode = m) (hcache : s.cache.Faithful)
    (h : Run.navigate raw context s = (.ok (mode, nodes), t)) : mode = m := by
  obtain ⟨cache, -, hchain⟩ := Run.chain_apply raw hcache
  unfold Run.navigate at h
  rw [Run.bind_apply, hchain] at h
  cases hparse : Css.Chain.parse raw with
  | error err =>
    rw [hparse] at h
    cases h
  | ok chain =>
    rw [hparse] at h
    cases h
    exact hmode chain hparse

theorem at_onTarget (e : Evaluator σ) (levels : Nat) {site : Site} (hsel : Elementwise spec.selector site)
    {s : State σ} (hcache : s.cache.Faithful) :
    e.at (levels + 1) spec site s = (Run.target spec site >>= e.onTarget levels spec) s := by
  unfold Run.target Evaluator.onTarget
  generalize hselector : spec.selector = selector at hsel
  cases hsel with
  | context nodes =>
    show e.htmlNode (e.below levels) (e.inside levels) spec nodes s = _
    unfold Evaluator.htmlNode
    rw [hselector]
    simp only
    split <;> rfl
  | chain raw context hmode =>
    show e.htmlNode (e.below levels) (e.inside levels) spec context s = _
    rw [htmlNode_native e _ _ hselector]
    simp only [bind_assoc]
    rw [Run.bind_apply, Run.bind_apply]
    generalize hnavigate : Run.navigate raw context s = out
    obtain ⟨_ | r, t⟩ := out
    · rfl
    · obtain ⟨mode, nodes⟩ := r
      obtain rfl : mode = .text := navigate_mode hmode hcache hnavigate
      simp only
      split <;> rfl
  | value j =>
    show e.jsonNode (e.below levels) spec j s = _
    unfold Evaluator.jsonNode
    rw [hselector]
    rfl
  | path raw j =>
    show e.jsonNode (e.below levels) spec j s = _
    unfold Evaluator.jsonNode
    rw [hselector]
    simp only [bind_assoc, pure_bind]

theorem at_scalar (e : Evaluator σ) (levels : Nat) (hlist : listTag? spec.tag = some many)
    (hselector : spec.selector = .current) (hfilter : spec.filter = "") (s : State σ) :
    (∀ i, e.at (levels + 1) spec (.nodes [i]) s = (scalarOfText spec.tag (s.document.text i), s)) ∧
    ∀ j, e.at (levels + 1) spec (.json j) s = (scalarOfJson spec.tag j, s) := by
  refine ⟨fun i => ?_, fun j => ?_⟩
  · show e.htmlNode (e.below levels) (e.inside levels) spec [i] s = _
    unfold Evaluator.htmlNode
    rw [hselector]
    exact htmlTarget_scalar hlist hfilter _ _ i "" s
  · show e.jsonNode (e.below levels) spec j s = _
    unfold Evaluator.jsonNode
    rw [hselector]
    exact jsonTarget_scalar hlist hfilter _ j s

theorem trail_of_still {ι : Type} {f : ι → Run σ α} {s : State σ} : ∀ {is : List ι}, (∀ i ∈ is, (f i s).2 = s) →
    Run.trail f is s = is.map (fun i => ⟨i, (f i s).1, s⟩) ∧ Run.after f is s = s
  | [], _ => ⟨rfl, rfl⟩
  | i :: is, h => by
    obtain ⟨hi, his⟩ := List.forall_mem_cons.1 h
    obtain ⟨htrail, hafter⟩ := trail_of_still his
    refine ⟨?_, ?_⟩
    · rw [Run.trail, hi, htrail, List.map_cons]
    · show Run.after f is (f i s).2 = s
      rw [hi, hafter]

/-- An array whose items leave the state as it is has what they yield, and agrees with a list that agrees with them. -/
theorem array_agrees (hfilter : spec.filter = "") (htag : spec.tag = .array) {template : Spec}
    (hchild : spec.children = [template]) {site target : Site} {s t : State σ}
    (htarget : Run.target spec site s = (.ok target, t)) {ι : Type} {g : ι → Site} {is : List ι}
    (helements : target.elements? = some (is.map g)) {outcome : ι → Except ExtractError Value}
    (hitem : ∀ i, e.at levels template (g i) t = (outcome i, t)) (hmild : ∀ i, Mild (outcome i))
    {whole : Except ExtractError Value} (hwhole : Agrees whole (is.map outcome)) :
    let outcomes := (is.map g).map fun element => (e.at levels template element t).1
    e.at (levels + 1) spec site s = (.ok (.array (kept outcomes)), t) ∧ Agrees whole outcomes := by
  intro outcomes
  have houtcomes : outcomes = is.map outcome := by
    show (is.map g).map _ = _
    rw [List.map_map]
    exact List.map_congr_left fun i _ => congrArg Prod.fst (hitem i)
  have hstill : ∀ element ∈ is.map g, (e.at levels template element t).2 = t := fun element h => by
    obtain ⟨i, -, rfl⟩ := List.mem_map.1 h
    rw [hitem]
  obtain ⟨htrail, hafter⟩ := trail_of_still hstill
  have hsteps : ∀ step ∈ Run.trail (fun element => e.at levels template element) (is.map g) t, Mild step.outcome := by
    rw [htrail, List.map_map]
    intro step hstep
    obtain ⟨i, -, rfl⟩ := List.mem_map.1 hstep
    show Mild (e.at levels template (g i) t).1
    rw [hitem]
    exact hmild i
  refine ⟨?_, houtcomes ▸ hwhole⟩
  rw [(at_array_trail hfilter htag hchild htarget helements).1 hsteps, htrail, hafter]
  simp only [kept, outcomes, List.filterMap_map]
  rfl

theorem mild_scalarOfJson (tag : Tag) (j : Json) : Mild (scalarOfJson tag j) := by
  unfold scalarOfJson
  split
  · exact (mild_intOfJson j).map _
  · exact (mild_floatOfJson j).map _
  · exact (mild_boolOfJson j).map _
  · exact (mild_stringOfJson j).map _

theorem jsonTarget_array_of_noItems (htag : spec.tag = .array) {j : Json} (hj : (Site.json j).elements? = none)
    (b : Below σ) (s : State σ) : e.jsonTarget b spec j s = (.error (.decode (.noItems j)), s) := by
  unfold Evaluator.jsonTarget
  rw [htag]
  cases j with
  | array items => cases hj
  | _ => rfl

theorem target_congr {spec' : Spec} (h : spec'.selector = spec.selector) :
    (Run.target spec' : Site → Run σ Site) = Run.target spec := by
  unfold Run.target
  rw [h]

/-- What a selector leads to where it leads to elements. -/
theorem elements_of_target {site target : Site} (hsel : Elementwise spec.selector site) {s t : State σ}
    (h : Run.target spec site s = (.ok target, t)) : (∃ nodes, target = .nodes nodes) ∨ ∃ j, target = .json j := by
  unfold Run.target at h
  generalize spec.selector = selector at h hsel
  cases hsel with
  | context nodes =>
    simp only at h
    split at h
    · cases h
    · cases h
      exact .inl ⟨_, rfl⟩
  | chain raw context hmode =>
    simp only [Run.bind_apply] at h
    split at h
    · split at h
      · cases h
      · cases h
        exact .inl ⟨_, rfl⟩
    · cases h
  | value j =>
    cases h
    exact .inr ⟨_, rfl⟩
  | path raw j =>
    simp only [Run.bind_apply] at h
    split at h
    · split at h
      · cases h
        exact .inr ⟨_, rfl⟩
      · cases h
    · cases h

/-- **Lists of scalars and arrays of scalars agree.**  A list type and an array whose one child is a scalar, with the
same selector and without filters, end alike where the selector leads to nothing or to no list.  Else they leave the
same state: the array has the values of the elements that can be converted, in order, and the list has a value exactly
if all can, with the array's JSON form. -/
theorem lists_agree_with_arrays (e : Evaluator σ) {list array template : Spec}
    (hlist : listTag? template.tag = some list.tag) (harray : array.tag = .array) (hchild : array.children = [template])
    (hselector : template.selector = .current) (hsame : array.selector = list.selector)
    (hfilters : list.filter = "" ∧ array.filter = "" ∧ template.filter = "") (levels : Nat) {site : Site}
    (hsel : Elementwise list.selector site) {s : State σ} (hcache : s.cache.Faithful) :
    (∀ spec page cache outside, (e.evaluate spec page cache outside).1 =
      (e.at (e.maxDepth + 1) spec page.site ⟨page.document, cache, outside⟩).1) ∧
    (∀ err t, Run.target list site s = (.error err, t) →
      e.at (levels + 2) list site s = (.error err, t) ∧ e.at (levels + 2) array site s = (.error err, t)) ∧
    ∀ target t, Run.target list site s = (.ok target, t) →
      match target.elements? with
      | none => ∃ fault fault', e.at (levels + 2) list site s = (.error (.decode fault), t) ∧
          e.at (levels + 2) array site s = (.error (.decode fault'), t)
      | some elements =>
        let outcomes := elements.map fun element => (e.at (levels + 1) template element t).1
        ∃ whole, e.at (levels + 2) list site s = (whole, t) ∧
          e.at (levels + 2) array site s = (.ok (.array (kept outcomes)), t) ∧ Agrees whole outcomes := by
  obtain ⟨hf, hf', hf''⟩ := hfilters
  have hlistAt := at_onTarget e (levels + 1) hsel hcache
  have harrayAt := at_onTarget e (levels + 1) (hsame ▸ hsel) hcache
  rw [target_congr hsame] at harrayAt
  rw [Run.bind_apply] at hlistAt harrayAt
  refine ⟨fun spec page cache outside => ?_, fun err t h => ?_, fun target t h => ?_⟩
  · rw [evaluate_eq, onPage_eq_at]
    rfl
  · rw [h] at hlistAt harrayAt
    exact ⟨hlistAt, harrayAt⟩
  · rw [h] at hlistAt harrayAt
    have htarget : Run.target array site s = (.ok target, t) := by rw [target_congr hsame, h]
    rcases elements_of_target hsel h with ⟨nodes, rfl⟩ | ⟨j, rfl⟩
    · have hscalar := (at_scalar e levels hlist hselector hf'' t).1
      have hwhole := hlistAt.trans (htmlTarget_list hlist hf _ _ nodes _ t)
      refine ⟨_, hwhole, array_agrees hf' harray hchild htarget rfl hscalar (fun i => mild_scalarOfText _ _) ?_⟩
      have hagrees := listOfTexts_agrees hlist (nodes.map t.document.text)
      rwa [List.map_map] at hagrees
    · have hscalar := (at_scalar e levels hlist hselector hf'' t).2
      have hwhole := hlistAt.trans (jsonTarget_list hlist hf _ j t)
      cases j with
      | array items =>
        exact ⟨_, hwhole, array_agrees hf' harray hchild htarget rfl hscalar (fun k => mild_scalarOfJson _ k)
          (listOfJson_agrees hlist items)⟩
      | _ =>
        rw [listOfJson_of_noItems hlist rfl] at hwhole
        exact ⟨_, _, hwhole, harrayAt.trans (jsonTarget_array_of_noItems harray rfl _ t)⟩

/-- Three elements, of which the second is no number: the list fails, and the array leaves it out. -/
theorem lists_agree_with_arrays_numbers :
    let e : Evaluator Unit := ⟨Registry.empty, 1⟩
    let j : Json := .array [.number (.int 1), .bool true, .string " 3"]
    (∃ fault, (e.evaluate { tag := .ints } (.json j) {} ()).1 = .error (.decode fault)) ∧
    (e.evaluate integers (.json j) {} ()).1 = .ok (.array [.int 1, .int 3]) := by
  intro e j
  have hlist : listTag? ({ tag := .int } : Spec).tag = some ({ tag := .ints } : Spec).tag := rfl
  have hsel : Elementwise ({ tag := .ints } : Spec).selector (.json j) := .value j
  have hcache : (⟨default, {}, ()⟩ : State Unit).cache.Faithful := Cache.faithful_empty
  obtain ⟨hpage, -, htarget⟩ := lists_agree_with_arrays e hlist (show integers.tag = .array from rfl) rfl rfl rfl
    ⟨rfl, rfl, rfl⟩ 0 hsel hcache
  obtain ⟨whole, hwhole, harray, hagrees⟩ := htarget (.json j) _ rfl
  have hfails := hagrees.failed ⟨_, .tail _ (.head _), _, rfl⟩
  rw [hpage, hpage]
  refine ⟨?_, congrArg Prod.fst harray⟩
  obtain ⟨fault, rfl⟩ := hfails
  exact ⟨fault, congrArg Prod.fst hwhole⟩

end Extract

end Harvest
