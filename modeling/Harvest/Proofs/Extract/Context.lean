import Harvest.Proofs.Css.NodeSet
import Harvest.Proofs.Extract.Level
import Harvest.Proofs.Extract.Removal
/-!
# The nodes that nodes of a spec are evaluated on

Every node of a spec is evaluated on some nodes of the document, none of them twice (`Context`), and works on such nodes
of its own.  `checked` evaluates as `inside` does, but does something else wherever this does not hold; whatever that
is, it is never done (`checked_eq`).
-/
namespace Harvest.Extract

open Css (NodeSet)

variable {σ : Type} {α : Type}

/-- What a node of a spec is evaluated on in a document of so many nodes: some of its nodes, at least one, and none of
them twice. -/
def Context (size : Nat) (nodes : List Nat) : Prop := nodes ≠ [] ∧ NodeSet size nodes

instance (size : Nat) (nodes : List Nat) : Decidable (Context size nodes) :=
  inferInstanceAs (Decidable (nodes ≠ [] ∧ NodeSet size nodes))

theorem context_singleton {size i : Nat} (h : i < size) : Context size [i] :=
  ⟨List.cons_ne_nil i [], List.nodup_singleton i, by simpa using h⟩

/-! ## Runs on a document of a size -/

/-- A run beside itself on a document of so many nodes. -/
def Link.sized (σ : Type) (size : Nat) : Link σ σ where
  state s t := s = t ∧ s.document.size = size
  fatal e s f t := e = f ∧ s = t
  lost _ := False

section Sized

variable {size : Nat}

theorem Linked.sized {P : α → Prop} {x : Run σ α} (h : ∀ s : State σ, s.document.size = size →
    (x s).2.document.size = size ∧ ∀ a, (x s).1 = .ok a → P a) : Linked (.sized σ size) (Same P) x x := by
  rintro s t ⟨rfl, hs⟩
  obtain ⟨hx, hP⟩ := h s hs
  generalize x s = p at hx hP ⊢
  obtain ⟨r, s'⟩ := p
  cases r with
  | ok a => exact .ok ⟨rfl, hP a rfl⟩ ⟨rfl, hx⟩
  | error e =>
    cases he : e.isFatal with
    | false => exact .error he ⟨rfl, hx⟩
    | true => exact .fatal he he ⟨rfl, rfl⟩

/-- Runs side by side have the same outcome. -/
theorem Linked.eq_of_sized {P : α → Prop} {x y : Run σ α} (h : Linked (.sized σ size) (Same P) x y) {s : State σ}
    (hs : s.document.size = size) : x s = y s := by
  have h := h s s ⟨rfl, hs⟩
  generalize x s = p at h ⊢
  generalize y s = q at h ⊢
  cases h with
  | ok ha hs => rw [ha.1, hs.1]
  | error _ hs => rw [hs.1]
  | fatal _ _ hs => rw [hs.1, hs.2]
  | lost _ _ hl => exact hl.elim

theorem sized_once {entries : Cache → Fields α} {keep : Cache → Fields α → Cache} {key : String}
    {read : Unit → Except ExtractError α} :
    Linked (.sized σ size) Eq (Run.once entries keep key read) (Run.once entries keep key read) := by
  refine Linked.eq_of_same (.sized (P := fun _ => True) fun s hs => ⟨?_, fun _ _ => trivial⟩)
  dsimp only [Run.once, Run.of]
  split
  · exact hs
  · split <;> exact hs

theorem sized_fits (σ : Type) (size : Nat) : (Link.sized σ size).Fits where
  document hs := hs.1 ▸ rfl
  rootless hs _ := ⟨rfl, hs.1⟩
  panic hs := ⟨rfl, hs.1⟩
  path _ := sized_once
  pattern _ _ := sized_once

/-- **A chain leads from some nodes, none of them twice, to such nodes**, and the document keeps its size. -/
theorem sized_navigate (raw : String) (context : List Nat) : Linked (.sized σ size)
    (Same fun r : Css.Mode × List Nat => NodeSet size context → NodeSet size r.2) (Run.navigate raw context)
      (Run.navigate raw context) := by
  refine .bind sized_once fun c _ hc => ?_
  subst hc
  refine .bind (A := Same fun nodes => NodeSet size context → NodeSet size nodes) (.sized fun s hs => ⟨?_, ?_⟩)
    fun nodes _ hnodes => .pure ⟨by rw [hnodes.1], hnodes.2⟩
  · exact (c.size_run s.document context).trans hs
  · rintro nodes hnodes hcontext
    cases hnodes
    exact hs ▸ (c.nodeSet_run (hs.symm ▸ hcontext)).1

theorem sized_node (e : Evaluator σ) (spec : Spec) : (Link.sized σ size).Node (fun _ _ => True) e e spec where
  finish v _ := by
    unfold Evaluator.finish
    split
    · exact .pure ⟨rfl, trivial⟩
    · refine .bind sized_once fun calls _ hcalls => ?_
      subst hcalls
      refine .sized fun s hs => ⟨?_, fun _ _ => trivial⟩
      rw [Run.filtered_apply]
      split <;> exact hs
  navigate raw context _ := (sized_navigate raw context).eq_of_same

theorem sized_below (e : Evaluator σ) (levels : Nat) (spec : Spec) :
    (Link.sized σ size).Level (fun _ _ => True) (e.below levels) (e.below levels) spec :=
  (Link.Agrees.run (k := 0) (sized_fits σ size) (P := fun _ => True) (fun spec _ => sized_node e spec)
    (fun _ => .zero fun _ _ hs => ⟨rfl, hs.1⟩) levels spec (.of_forall (fun _ => trivial) spec)).level

end Sized

/-! ## Checks of what nodes are evaluated on -/

/-- The evaluation of nodes of a document of so many nodes.  It does something else wherever a node of the spec is
evaluated on nodes, or works on nodes, that are no context: of what a node works on a list takes a text of each, an
array evaluates its template on each, and a record evaluates its fields on all. -/
def Evaluator.checked (e : Evaluator σ) (size : Nat) (other : Spec → List Nat → Run σ Value) :
    Nat → Spec → List Nat → Run σ Value
  | 0, _, _ => throw (.depthExceeded e.maxDepth)
  | levels + 1, spec, context =>
    if Context size context then
      e.nodeWith (e.below levels) spec context fun nodes mode shown =>
        if Context size nodes then
          e.htmlTarget (e.below levels) (e.checked size other levels) spec nodes mode shown
        else other spec nodes
    else other spec context

/-- **Whatever is done where a check fails, it is never done.** -/
theorem linked_checked (e : Evaluator σ) {size : Nat} (other : Spec → List Nat → Run σ Value) :
    ∀ (levels : Nat) (spec : Spec) (context : List Nat), Context size context →
      Linked (.sized σ size) (Same fun _ => True) (e.checked size other levels spec context)
        (e.inside levels spec context)
  | 0, _, _, _ => fun _ _ hs => .fatal rfl rfl ⟨rfl, hs.1⟩
  | levels + 1, spec, context, h => by
    have hL := sized_fits σ size
    have hn : (Link.sized σ size).Node (fun _ _ => True) e e spec := sized_node e spec
    have hbelow : ∀ c ∈ spec.children, (Link.sized σ size).Level (fun _ _ => True) (e.below levels) (e.below levels) c :=
      fun c _ => sized_below e levels c
    unfold Evaluator.checked Evaluator.inside
    rw [if_pos h, htmlNode_eq]
    refine Linked.nodeWith hL hn hbelow h.2 (fun raw _ => ?_) fun nodes mode shown hne hnodes => ?_
    · exact (sized_navigate raw context).mono fun _ _ hr => ⟨hr.1, hr.2 h.2⟩
    · rw [if_pos ⟨hne, hnodes⟩]
      refine Linked.htmlTarget hL hn hbelow nodes (fun c _ context hcontext => ?_) mode shown
      refine linked_checked e other levels c context ?_
      rcases hcontext with rfl | ⟨i, hi, rfl⟩
      · exact ⟨hne, hnodes⟩
      · exact context_singleton (hnodes.inside i hi)

/-- **Every node of a spec is evaluated on some nodes of the document, none of them twice**, and so is all that it
works on. -/
theorem checked_eq (e : Evaluator σ) (other : Spec → List Nat → Run σ Value) {d : Markup.Document} (h : 0 < d.size)
    (spec : Spec) (cache : Cache) (outside : σ) : e.evaluate spec (.html d) cache outside =
      match e.checked d.size other (e.maxDepth + 1) spec [0] ⟨d, cache, outside⟩ with
      | (r, s) => (r, .html s.document, s.cache, s.outside) := by
  have hrun := (linked_checked e other (e.maxDepth + 1) spec [0] (context_singleton h)).eq_of_sized
    (s := ⟨d, cache, outside⟩) rfl
  rw [hrun]
  rfl

/-! ## Documents that are parsed and pruned -/

theorem size_prune : ∀ (runs : List (Css.Chain × List Nat)) (d : Markup.Document), (Css.prune d runs).size = d.size
  | [], _ => rfl
  | (c, context) :: runs, d => (size_prune runs (c.run d context).1).trans (c.size_run d context)

theorem size_ofTree_pos (t : Markup.Tree) : 0 < (Markup.Document.ofTree t).size := by
  obtain ⟨entry, below, hentries, -⟩ := t.entries_head none 0
  rw [Markup.Document.size_ofTree, hentries, List.length_cons]
  exact Nat.succ_pos _

/-- **Lists of nodes stay without repetitions**, in whatever chains leave of a parsed document.  From some of its nodes,
none of them twice, a chain leads to such nodes, each an element or, if the chain has no selector of its own, one of
those that it started from.  So wherever an evaluation enters a node of its spec it is with some nodes of the document,
none of them twice, and such are also the nodes that a list reads one after the other, and that an array evaluates its
template on one after the other: whatever would be done otherwise makes no difference. -/
theorem nodes_unrepeated (body : List UInt8) : ∃ parsed, Page.parse body .html = .ok (.html parsed) ∧
    ∀ runs : List (Css.Chain × List Nat),
      let d := Css.prune parsed runs
      (∀ (c : Css.Chain) (context : List Nat), NodeSet d.size context →
        let r := c.run d context
        r.1.size = d.size ∧ NodeSet d.size r.2 ∧
          ∀ i ∈ r.2, r.1.isElement i = true ∨ c.primary = none ∧ i ∈ context) ∧
      ∀ {σ : Type} (e : Evaluator σ) (other : Spec → List Nat → Run σ Value) (spec : Spec) (cache : Cache) (outside : σ),
        e.evaluate spec (.html d) cache outside =
          match e.checked d.size other (e.maxDepth + 1) spec [0] ⟨d, cache, outside⟩ with
          | (r, s) => (r, .html s.document, s.cache, s.outside) := by
  refine ⟨_, rfl, fun runs => ⟨fun c context hcontext => ?_, fun e other spec cache outside => ?_⟩⟩
  · obtain ⟨hset, hmem⟩ := c.nodeSet_run hcontext
    refine ⟨c.size_run _ context, hset, fun i hi => (hmem i hi).imp_left fun helement => ?_⟩
    exact (Css.isElement_congr (c.nodes_run _ context) i).trans helement
  · exact checked_eq e other ((size_ofTree_pos _).trans_eq (size_prune runs _).symm) spec cache outside

/-- Without the title of a page, the elements around a link and those around the template that it stands in are listed
once. -/
theorem nodes_unrepeated_parents :
    let rm : Css.Chain := ⟨"| rm(title)", none, [.remove [.compound [.type "title"]]], .text⟩
    let parents : Css.Chain := ⟨"| parents", none, [.walk .parents none], .text⟩
    ∃ parsed, Page.parse (Text.Utf8.ofString "<title>x</title><template><link>") .html = .ok (.html parsed) ∧
      let d := Css.prune parsed [(rm, [0])]
      parsed.isCut 3 = false ∧ d.isCut 3 = true ∧ NodeSet d.size (parents.run d [7, 5]).2 := by
  intro rm parents
  obtain ⟨parsed, hparse, h⟩ := nodes_unrepeated (Text.Utf8.ofString "<title>x</title><template><link>")
  cases hparse
  exact ⟨_, rfl, by decide +kernel, by decide +kernel,
    ((h [(rm, [0])]).1 parents [7, 5] (by decide +kernel)).2.1⟩

end Harvest.Extract
