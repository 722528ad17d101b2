import Harvest.Proofs.Extract.Level
/-!
# Where nodes work

A node works on nodes of the document, on a JSON value or on a text: its site.  Its selector leads to its target, the
site of its children.  Records and lists are the same on all kinds of sites: a record evaluates its children on its
target (`at_map`), a list evaluates its one child on each of the sites that its target consists of (`at_array`).
-/
namespace Harvest.Extract

variable {σ : Type}

/-- What a node works on. -/
inductive Site where
  | nodes (context : List Nat)
  | json (j : Json)
  | text (t : String)

/-- The sites of the items of a list; JSON values other than arrays have none, nor have texts. -/
def Site.elements? : Site → Option (List Site)
  | nodes context => some (context.map fun i => nodes [i])
  | json (.array items) => some (items.map json)
  | _ => none

/-- The site that a spec is evaluated on for a page. -/
def Page.site : Page → Site
  | html _ => .nodes [0]
  | json j => .json j
  | text t => .text t

/-- The evaluation of a spec on a site where `levels` levels are left. -/
def Evaluator.at (e : Evaluator σ) (levels : Nat) (spec : Spec) : Site → Run σ Value
  | .nodes context => e.inside levels spec context
  | .json j => (e.below levels).json spec j
  | .text t => (e.below levels).text spec t

theorem onPage_eq_at (e : Evaluator σ) (spec : Spec) (page : Page) :
    e.onPage spec page = e.at (e.maxDepth + 1) spec page.site := by
  cases page <;> rfl

namespace Run

def written : Site → Run σ String
  | .nodes context => look fun d => match context with
    | i :: _ => d.inner i
    | [] => .ok ""
  | .json j => pure j.render
  | .text t => pure t

def matched (engine : Pattern.Engine) (pattern text : String) : Run σ String := do
  let groups ← lift (firstMatch (← Run.pattern engine pattern) text)
  lift (match groups with
    | some gs => .ok (Pattern.scalarOf gs)
    | none => .error (.nodeNotFound (.pattern (patternKey engine pattern))))

/-- Where a selector leads to: the site of the children of its node.  Texts have no selectors of their own. -/
def target (spec : Spec) (site : Site) : Run σ Site :=
  match spec.selector, site with
  | .pattern engine pattern, site => do return .text (← matched engine pattern (← written site))
  | .native raw, .nodes context => do
    let r ← navigate raw context
    if r.2.isEmpty then throw (.nodeNotFound (.selector raw)) else return .nodes r.2
  | .current, .nodes context =>
    if context.isEmpty then throw (.nodeNotFound (.selector "")) else return .nodes context
  | .native raw, .json j => do return .json (← lift ((← path raw).resolve j))
  | .current, .json j => return .json j
  | _, .text t => return .text t

end Run

variable {e : Evaluator σ} {levels : Nat} {spec : Spec}

theorem patternNode_map (b : Below σ) (htag : spec.tag = .map) (engine : Pattern.Engine) (pattern text : String)
    (kind : PageKind) : e.patternNode b spec engine pattern text kind =
      Run.matched engine pattern text >>= fun t => e.record spec fun child => b.text child t := by
  unfold Evaluator.patternNode Run.matched
  rw [htag]
  refine (bind_congr fun r => ?_).trans (bind_assoc _ _ _).symm
  exact (bind_assoc _ _ _).symm

/-- **A record evaluates its children on its target.** -/
theorem at_map (htag : spec.tag = .map) (site : Site) : e.at (levels + 1) spec site =
    Run.target spec site >>= fun target => e.record spec fun child => e.at levels child target := by
  cases site with
  | nodes context =>
    show e.htmlNode (e.below levels) (e.inside levels) spec context = _
    cases hsel : spec.selector with
    | pattern engine pattern =>
      unfold Evaluator.htmlNode Run.target
      simp only [hsel, patternNode_map _ htag, bind_assoc, pure_bind]
      rfl
    | current =>
      unfold Evaluator.htmlNode Run.target Evaluator.htmlTarget
      simp only [hsel, htag]
      split
      · rfl
      · rfl
    | native raw =>
      rw [htmlNode_native e _ _ hsel]
      unfold Run.target Evaluator.htmlTarget
      simp only [hsel, htag, bind_assoc]
      refine bind_congr fun r => ?_
      split
      · rfl
      · rfl
  | json j =>
    show e.jsonNode (e.below levels) spec j = _
    unfold Evaluator.jsonNode Run.target Evaluator.jsonTarget
    cases hsel : spec.selector with
    | pattern engine pattern =>
      simp only [patternNode_map _ htag, bind_assoc, pure_bind]
      rfl
    | current => simp only [htag, pure_bind]; rfl
    | native raw => simp only [htag, bind_assoc, pure_bind]; rfl
  | text t =>
    show e.textNode (e.below levels) spec t = _
    unfold Evaluator.textNode Run.target
    cases hsel : spec.selector with
    | pattern engine pattern =>
      simp only [patternNode_map _ htag, bind_assoc, pure_bind]
      rfl
    | current => simp only [htag, pure_bind]; rfl
    | native raw => simp only [htag, pure_bind]; rfl

theorem Run.survivors_map {α ι κ : Type} (f : κ → Run σ α) (g : ι → κ) : ∀ is : List ι,
    Run.survivors f (is.map g) = Run.survivors (fun i => f (g i)) is
  | [] => rfl
  | i :: is => by
    rw [List.map_cons, Run.survivors, Run.survivors, survivors_map f g is]

theorem each_map {ι κ : Type} (elements : List ι) (g : ι → κ) (item : Spec → κ → Run σ Value) :
    e.each spec (elements.map g) item = e.each spec elements fun template i => item template (g i) := by
  unfold Evaluator.each
  simp only [Run.survivors_map]

theorem target_of_pattern {engine : Pattern.Engine} {pattern : String} (hsel : spec.selector = .pattern engine pattern)
    {site target : Site} {s t : State σ} (h : Run.target spec site s = (.ok target, t)) :
    ∃ text, target = .text text := by
  unfold Run.target at h
  rw [hsel] at h
  simp only [Run.bind_apply] at h
  split at h
  · split at h
    · cases h
      exact ⟨_, rfl⟩
    · cases h
  · cases h

/-- A list on nodes of the document, and on a JSON value. -/
theorem htmlTarget_array (htag : spec.tag = .array) {nodes : List Nat} {elements : List Site}
    (h : (Site.nodes nodes).elements? = some elements) (mode : Css.Mode) (shown : String) :
    e.htmlTarget (e.below levels) (e.inside levels) spec nodes mode shown =
      e.each spec elements fun template element => e.at levels template element := by
  cases h
  unfold Evaluator.htmlTarget
  rw [htag]
  exact (each_map nodes (fun i => .nodes [i]) fun template element => e.at levels template element).symm

theorem jsonTarget_array (htag : spec.tag = .array) {j : Json} {elements : List Site}
    (h : (Site.json j).elements? = some elements) :
    e.jsonTarget (e.below levels) spec j =
      e.each spec elements fun template element => e.at levels template element := by
  cases j with
  | array items =>
    cases h
    unfold Evaluator.jsonTarget
    rw [htag]
    exact (each_map items Site.json fun template element => e.at levels template element).symm
  | _ => cases h

/-- **A list evaluates its one child on each site that its target consists of.** -/
theorem at_array (htag : spec.tag = .array) {site target : Site} {elements : List Site} {s t : State σ}
    (htarget : Run.target spec site s = (.ok target, t)) (helements : target.elements? = some elements) :
    e.at (levels + 1) spec site s = e.each spec elements (fun template element => e.at levels template element) t := by
  -- This is no equation of runs as it is for records: a target without elements fails in its own way on each kind of site.
  cases hsel : spec.selector with
  | pattern engine pattern =>
    obtain ⟨text, rfl⟩ := target_of_pattern hsel htarget
    cases helements
  | current =>
    unfold Run.target at htarget
    rw [hsel] at htarget
    cases site with
    | nodes context =>
      show e.htmlNode (e.below levels) (e.inside levels) spec context s = _
      unfold Evaluator.htmlNode
      rw [hsel]
      simp only at htarget ⊢
      split at htarget
      · cases htarget
      · rename_i hcontext
        cases htarget
        rw [if_neg hcontext, htmlTarget_array htag helements]
    | json j =>
      cases htarget
      show e.jsonNode (e.below levels) spec j s = _
      unfold Evaluator.jsonNode
      rw [hsel]
      exact congrFun (jsonTarget_array htag helements) s
    | text text =>
      cases htarget
      cases helements
  | native raw =>
    unfold Run.target at htarget
    rw [hsel] at htarget
    cases site with
    | nodes context =>
      show e.htmlNode (e.below levels) (e.inside levels) spec context s = _
      rw [htmlNode_native e _ _ hsel]
      simp only [Run.bind_apply] at htarget ⊢
      split at htarget
      · rename_i r u hr
        split at htarget
        · cases htarget
        · rename_i hnodes
          cases htarget
          rw [if_neg hnodes, htmlTarget_array htag helements]
      · cases htarget
    | json j =>
      show e.jsonNode (e.below levels) spec j s = _
      unfold Evaluator.jsonNode
      rw [hsel]
      simp only [Run.bind_apply] at htarget ⊢
      split at htarget
      · rename_i path u hpath
        simp only [Run.lift_apply] at htarget ⊢
        cases hj : path.resolve j with
        | ok k =>
          rw [hj] at htarget
          cases htarget
          exact congrFun (jsonTarget_array htag helements) _
        | error err =>
          rw [hj] at htarget
          cases htarget
      · cases htarget
    | text text =>
      cases htarget
      cases helements

end Harvest.Extract
