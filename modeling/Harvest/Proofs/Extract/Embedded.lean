import Harvest.Proofs.Extract.Cache
import Harvest.Proofs.Json.Locality
import Harvest.Proofs.Json.Path
/-!
# Ways to a document in a document

A JSON document is evaluated alike wherever it stands: in a text, in a string of another document, or in another
document as it is.  Each of these ways takes one level, so that only the limit in an error tells them from the
evaluation of the document itself (`embedded_routes`).
-/
namespace Harvest

/-! ## Plain keys -/

def Selector.Unmarked (text : String) : Prop := ∀ engine, ¬ (Pattern.Engine.mark engine).toList <+: text.toList

theorem Selector.ofText_unmarked {text : String} (hempty : text ≠ "") (hmark : Unmarked text) :
    ofText text = .native text := by
  have hbehind : ∀ engine, behind? (Pattern.Engine.mark engine) text = none := by
    intro engine
    unfold behind?
    rw [Text.after?_eq_none (hmark engine)]
    rfl
  have hne : text.isEmpty = false := by
    simpa using hempty
  unfold ofText
  rw [hbehind, hbehind, hne]
  rfl

/-- A key that is a whole path by itself. -/
structure PlainKey (k : String) : Prop where
  ne_empty : k ≠ ""
  ne_this : k ≠ "this"
  no_dot : '.' ∉ k.toList
  no_bracket : '[' ∉ k.toList
  no_mark : ∀ engine, ¬ (Pattern.Engine.mark engine).toList <+: k.toList

namespace PlainKey

variable {k : String}

theorem selector (h : PlainKey k) : Selector.ofText k = .native k := Selector.ofText_unmarked h.ne_empty h.no_mark

theorem path (h : PlainKey k) : Json.Path.parse k = .ok [.key k] := by
  have hsegment := Json.Path.segment_key h.ne_empty h.ne_this h.no_bracket
  rw [Json.Path.parse_eq_ok, Text.splitAt_of_not_mem h.no_dot]
  exact Json.Path.segments_cons.2 ⟨[.key k], [], hsegment, rfl, rfl⟩

theorem resolve (k : String) (j : Json) : Json.Path.resolve [.key k] (.object [(k, j)]) = .ok j := by
  unfold Json.Path.resolve Json.Path.walk Json.Path.step? Fields.find?
  simp [Json.Path.walk]

end PlainKey

/-- The array or object of a JSON text is what the text holds. -/
theorem Scalar.embedded_of_read {s : String} {j : Json} (hs : Json.read? s = some j) (hj : j.container? = some j) :
    Scalar.embedded s = .ok j := by
  have hparse := Json.parse?_trimBlank hs hj
  have hne : (Text.trimBlank s.toList).isEmpty = false := by
    cases h : Text.trimBlank s.toList with
    | nil =>
      rw [h] at hparse
      cases hparse
    | cons c cs => rfl
  unfold Scalar.embedded Scalar.container?
  simp only [hparse, Option.bind_some, hj, hne]
  rfl

/-- The error with another limit in it, where it says one. -/
def ExtractError.withLimit (limit : Nat) : ExtractError → ExtractError
  | .depthExceeded _ => .depthExceeded limit
  | e => e

namespace Extract

variable {σ : Type}

/-! ## The ways -/

/-- The spec that evaluates its one child on the document that a selector leads to. -/
def parsing (name : String) (selector : Selector) (t : Spec) : Spec :=
  { name, selector, tag := .jsonParse, children := [t] }

/-- The ways to a document: in the text `s`, in a string under the key `k`, or under that key as it is. -/
inductive Route (s k : String) (j : Json) : Selector → Page → Prop where
  | text : Route s k j .current (.text s)
  | string : Route s k j (.ofText k) (.json (.object [(k, .string s)]))
  | value : Route s k j (.ofText k) (.json (.object [(k, j)]))

theorem lift_bind {α β : Type} (a : α) (f : α → Run σ β) : Run.lift (.ok a) >>= f = f a := by
  funext s
  rw [Run.bind_apply, Run.lift_apply]

/-- A node without filters that evaluates its one child yields what the child does. -/
theorem parsing_finish (e : Evaluator σ) (name : String) (selector : Selector) (t : Spec) (x : Run σ Value) :
    (do e.finish (parsing name selector t) (← x)) = x := by
  have hfinish : ∀ v, e.finish (parsing name selector t) v = pure v := fun v => rfl
  simp only [hfinish, bind_pure]

theorem parsing_text (e : Evaluator σ) (below : Below σ) (name : String) (selector : Selector) (t : Spec) {s : String}
    {j : Json} (h : Scalar.embedded s = .ok j) : e.embedded below (parsing name selector t) s = below.json t j := by
  have htemplate : (parsing name selector t).template = .ok t := rfl
  unfold Evaluator.embedded
  rw [h, htemplate, lift_bind, lift_bind, parsing_finish]

theorem parsing_value (e : Evaluator σ) (below : Below σ) (name : String) (selector : Selector) (t : Spec) {j : Json}
    (hj : j.container? = some j) : e.jsonTarget below (parsing name selector t) j = below.json t j := by
  have htemplate : (parsing name selector t).template = .ok t := rfl
  cases j with
  | array items =>
    show (Run.lift _ >>= fun template => _) = _
    rw [htemplate, lift_bind, parsing_finish]
  | object fields =>
    show (Run.lift _ >>= fun template => _) = _
    rw [htemplate, lift_bind, parsing_finish]
  | _ => cases hj

/-- A node with a path for its selector works on what that leads to. -/
theorem native_apply {raw : String} (e : Evaluator σ) (below : Below σ) {spec : Spec} (hspec : spec.selector = .native raw)
    (j : Json) (st : State σ) (hst : st.cache.Faithful) :
    ∃ c : Cache, c.Faithful ∧ e.jsonNode below spec j st =
      match Json.Path.follow raw j with
      | .ok k => e.jsonTarget below spec k { st with cache := c }
      | .error err => (.error err, { st with cache := c }) := by
  obtain ⟨c, hc, hpath⟩ := Run.path_apply raw hst
  refine ⟨c, hc, ?_⟩
  unfold Evaluator.jsonNode Json.Path.follow
  rw [hspec]
  simp only
  rw [Run.bind_apply, hpath]
  cases Json.Path.parse raw with
  | error err => rfl
  | ok path =>
    simp only [Except.bind]
    rw [Run.bind_apply, Run.lift_apply]
    cases path.resolve j <;> rfl

theorem keyed_apply {k : String} (hk : PlainKey k) (e : Evaluator σ) (below : Below σ) (name : String) (t : Spec)
    (v : Json) (st : State σ) (hst : st.cache.Faithful) :
    ∃ c : Cache, c.Faithful ∧ e.jsonNode below (parsing name (.ofText k) t) (.object [(k, v)]) st =
      e.jsonTarget below (parsing name (.ofText k) t) v { st with cache := c } := by
  have hfollow : Json.Path.follow k (.object [(k, v)]) = .ok v :=
    Json.Path.follow_eq_ok.2 ⟨[.key k], hk.path, PlainKey.resolve k v⟩
  have hselector : (parsing name (.ofText k) t).selector = .native k := hk.selector
  obtain ⟨c, hc, happ⟩ := native_apply e below hselector (.object [(k, v)]) st hst
  rw [hfollow] at happ
  exact ⟨c, hc, happ⟩

/-- **Each way leads to the evaluation of the document itself, one level below.** -/
theorem Route.apply {s k : String} {j : Json} {selector : Selector} {page : Page} (route : Route s k j selector page)
    (hj : j.container? = some j) (hs : Json.read? s = some j) (hk : PlainKey k) (registry : Registry σ) (m : Nat)
    (name : String) (t : Spec) (st : State σ) (hst : st.cache.Faithful) :
    ∃ c : Cache, c.Faithful ∧ Evaluator.onPage ⟨registry, m + 1⟩ (parsing name selector t) page st =
      (Evaluator.below ⟨registry, m + 1⟩ (m + 1)).json t j { st with cache := c } := by
  let e : Evaluator σ := ⟨registry, m + 1⟩
  have htext := fun selector => parsing_text e (e.below (m + 1)) name selector t (Scalar.embedded_of_read hs hj)
  cases route with
  | text => exact ⟨st.cache, hst, congrFun (htext .current) st⟩
  | string =>
    obtain ⟨c, hc, happ⟩ := keyed_apply hk e (e.below (m + 1)) name t (.string s) st hst
    exact ⟨c, hc, happ.trans (congrFun (htext (.ofText k)) _)⟩
  | value =>
    obtain ⟨c, hc, happ⟩ := keyed_apply hk e (e.below (m + 1)) name t j st hst
    exact ⟨c, hc, happ.trans (congrFun (parsing_value _ _ name (.ofText k) t hj) _)⟩

/-! ## The limit -/

theorem withLimit_of_mild {e : ExtractError} (h : e.isFatal = false) (limit : Nat) : e.withLimit limit = e := by
  cases e with
  | depthExceeded n => cases h
  | _ => rfl

/-- With as many levels left, two limits differ in the error that says them only. -/
theorem below_withLimit (registry : Registry σ) (m m' n : Nat) (t : Spec) (j : Json) {c c' : Cache} (hc : c.Faithful)
    (hc' : c'.Faithful) (d : Markup.Document) (outside : σ) :
    let direct := (Evaluator.below ⟨registry, m⟩ n).json t j ⟨d, c, outside⟩
    let result := (Evaluator.below ⟨registry, m'⟩ n).json t j ⟨d, c', outside⟩
    result.1 = direct.1.mapError (.withLimit m') ∧ result.2.outside = direct.2.outside := by
  have hagree : (Link.blind σ (fun e _ f => f = e.withLimit m') fun _ => True).Agrees (fun _ _ => True)
      ⟨registry, m⟩ ⟨registry, m'⟩ n n t :=
    blind_plain (rfl : registry = registry) (fun _ => rfl) (fun _ _ => rfl) (fun _ => rfl) n t
  have h := hagree.level.json j ⟨d, c, outside⟩ ⟨d, c', outside⟩ ⟨rfl, rfl, hc, hc', trivial⟩
  intro direct result
  change Link.Outcome _ _ direct result at h
  clear_value direct result
  cases h with
  | ok ha hs =>
    obtain ⟨rfl, -⟩ := ha
    exact ⟨rfl, hs.outside.symm⟩
  | error he hs => exact ⟨congrArg Except.error (withLimit_of_mild he m').symm, hs.outside.symm⟩
  | fatal he hf hs =>
    obtain ⟨rfl, hs⟩ := hs
    exact ⟨rfl, hs.outside.symm⟩
  | lost _ _ hl => exact hl.elim

/-- **All ways to a document agree with its own evaluation**, which has one level less: they yield the same value or
the same error, but for the limit that an error says, and leave the filters in the same state. -/
theorem embedded_routes (registry : Registry σ) (m : Nat) (t : Spec) {j : Json} (hj : j.container? = some j)
    {s : String} (hs : Json.read? s = some j) {k : String} (hk : PlainKey k) (name : String) {cache cache' : Cache}
    (hcache : cache.Faithful) (hcache' : cache'.Faithful) (outside : σ) {selector : Selector} {page : Page}
    (route : Route s k j selector page) :
    let direct := Evaluator.evaluate ⟨registry, m⟩ t (.json j) cache outside
    let result := Evaluator.evaluate ⟨registry, m + 1⟩ (parsing name selector t) page cache' outside
    result.1 = direct.1.mapError (.withLimit (m + 1)) ∧ result.2.2.2 = direct.2.2.2 := by
  obtain ⟨c, hc, happ⟩ := route.apply hj hs hk registry m name t ⟨page.document, cache', outside⟩ hcache'
  rw [evaluate_eq, evaluate_eq, happ]
  have hpage : page.document = default := by cases route <;> rfl
  rw [hpage]
  exact below_withLimit registry m (m + 1) (m + 1) t j hcache hc default outside

def wholes : Spec := { tag := .array, children := [{ tag := .int }] }

/-- A way leads to the list of one number, and ends one level above it where that is the limit. -/
def LeadsToSeven (selector : Selector) (page : Page) : Prop :=
  (Evaluator.evaluate ⟨Registry.empty, 2⟩ (parsing "" selector wholes) page {} ()).1 = .ok (.array [.int 7]) ∧
    (Evaluator.evaluate ⟨Registry.empty, 1⟩ (parsing "" selector wholes) page {} ()).1 = .error (.depthExceeded 1)

theorem embedded_routes_wholes : LeadsToSeven .current (.text " [7]") ∧
    LeadsToSeven (.ofText "d") (.json (.object [("d", .string " [7]")])) ∧
    LeadsToSeven (.ofText "d") (.json (.object [("d", .array [.number (.int 7)])])) := by
  have hk : PlainKey "d" := ⟨by decide, by decide, by decide, by decide, fun engine => by cases engine <;> decide⟩
  have hread : Json.read? " [7]" = some (.array [.number (.int 7)]) := rfl
  have hleads : ∀ {selector page}, Route " [7]" "d" (.array [.number (.int 7)]) selector page →
      LeadsToSeven selector page := by
    intro selector page route
    have hroute := fun m => (embedded_routes Registry.empty m wholes rfl hread hk "" Cache.faithful_empty
      Cache.faithful_empty () route).1
    exact ⟨(hroute 1).trans rfl, (hroute 0).trans rfl⟩
  exact ⟨hleads .text, hleads .string, hleads .value⟩

end Extract

end Harvest
