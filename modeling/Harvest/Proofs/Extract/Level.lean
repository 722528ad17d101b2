import Harvest.Proofs.Extract.Node
/-!
# Evaluations of whole trees, side by side

What two evaluators agree on at every node they agree on at every level (`Agrees.run`), from the level at which one of
them stops.  An evaluation of a page is one run from a state (`evaluate_eq`), whatever the kind of the page.
-/
namespace Harvest.Extract

variable {σ τ : Type}

namespace Page

/-- The document that an evaluation of the page starts with; pages of other kinds have none. -/
def document : Page → Markup.Document
  | html d => d
  | _ => default

/-- The page with the document that an evaluation left. -/
def withDocument (page : Page) (d : Markup.Document) : Page :=
  match page with
  | html _ => html d
  | page => page

end Page

/-- The run that evaluates a spec on a page. -/
def Evaluator.onPage (e : Evaluator σ) (spec : Spec) : Page → Run σ Value
  | .html _ => e.inside (e.maxDepth + 1) spec [0]
  | .json j => (e.below (e.maxDepth + 1)).json spec j
  | .text t => (e.below (e.maxDepth + 1)).text spec t

theorem evaluate_eq (e : Evaluator σ) (spec : Spec) (page : Page) (cache : Cache) (outside : σ) :
    e.evaluate spec page cache outside =
      match e.onPage spec page ⟨page.document, cache, outside⟩ with
      | (r, s) => (r, page.withDocument s.document, s.cache, s.outside) := by
  cases page <;> rfl

/-- Two evaluators agree on a spec, with `n` levels left for the one and `n'` for the other. -/
structure Link.Agrees (L : Link σ τ) (Q : Spec → Value → Prop) (e : Evaluator σ) (e' : Evaluator τ) (n n' : Nat)
    (spec : Spec) : Prop where
  level : L.Level Q (e.below n) (e'.below n') spec
  inside : ∀ context, Linked L (Same (Q spec)) (e.inside n spec context) (e'.inside n' spec context)

namespace Link.Agrees

variable {L : Link σ τ} {Q : Spec → Value → Prop} {e : Evaluator σ} {e' : Evaluator τ} {n n' : Nat} {spec : Spec}

/-- **One level up**: what is agreed on below the children of a node is agreed on at the node. -/
theorem step (hL : L.Fits) (hn : L.Node Q e e' spec) (h : ∀ c ∈ spec.children, L.Agrees Q e e' n n' c) :
    L.Agrees Q e e' (n + 1) (n' + 1) spec where
  level := ⟨Linked.jsonNode hL hn fun c hc => (h c hc).level, Linked.textNode hL hn fun c hc => (h c hc).level⟩
  inside := Linked.htmlNode hL hn (fun c hc => (h c hc).level) fun c hc => (h c hc).inside

/-- Where no levels are left both runs end, each with its own limit. -/
theorem zero (h : ∀ s t, L.state s t → L.fatal (.depthExceeded e.maxDepth) s (.depthExceeded e'.maxDepth) t) :
    L.Agrees Q e e' 0 0 spec where
  level := ⟨fun _ s t hs => .fatal rfl rfl (h s t hs), fun _ s t hs => .fatal rfl rfl (h s t hs)⟩
  inside := fun _ s t hs => .fatal rfl rfl (h s t hs)

/-- **All levels**: evaluators that agree on every node of a tree agree on the tree. -/
theorem run (hL : L.Fits) {P : Spec → Prop} (hn : ∀ spec, P spec → L.Node Q e e' spec) {k : Nat}
    (hzero : ∀ spec, L.Agrees Q e e' 0 k spec) : ∀ (n : Nat) (spec : Spec), spec.All P → L.Agrees Q e e' n (n + k) spec
  | 0, spec, _ => by
    rw [Nat.zero_add]
    exact hzero spec
  | n + 1, spec, h => by
    rw [Nat.add_right_comm]
    exact step hL (hn spec h.here) fun c hc => run hL hn hzero n c (h.child c hc)

theorem onPage (h : L.Agrees Q e e' (e.maxDepth + 1) (e'.maxDepth + 1) spec) (page : Page) :
    Linked L (Same (Q spec)) (e.onPage spec page) (e'.onPage spec page) := by
  cases page with
  | html d => exact h.inside [0]
  | json j => exact h.level.json j
  | text t => exact h.level.text t

end Link.Agrees

end Harvest.Extract
