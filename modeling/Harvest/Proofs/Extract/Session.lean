import Harvest.Proofs.Css.Uproot
import Harvest.Proofs.Extract.Cache
/-!
# Several specs on one document

Specs that are evaluated one after the other share a document, which the selector chains of each prune for those behind
it.  A parsed document has a root element, and an evaluation fails for want of one only if a chain has taken it away.
-/
namespace Harvest

/-- A chain is the selector of a node of a spec. -/
inductive Spec.Writes (c : Css.Chain) : Spec → Prop where
  | here {s : Spec} {raw : String} : s.selector = .native raw → Css.Chain.parse raw = .ok c → Writes c s
  | child {s child : Spec} : child ∈ s.children → Writes c child → Writes c s

theorem Spec.all_of_writes {P : Css.Chain → Prop} : ∀ {spec : Spec}, (∀ c, spec.Writes c → P c) →
    spec.All fun s => ∀ raw c, s.selector = .native raw → Css.Chain.parse raw = .ok c → P c
  | ⟨_, _, _, _, _⟩, h => .node (fun _ c hsel hparse => h c (.here hsel hparse)) fun _ hchild =>
    Spec.all_of_writes fun c hc => h c (.child hchild hc)

namespace Extract

variable {σ : Type}

/-- What specs yield that are evaluated one after the other, and the state that each of them leaves. -/
def Evaluator.session (e : Evaluator σ) : List Spec → State σ → List (Except ExtractError Value × State σ)
  | [], _ => []
  | spec :: specs, s =>
    match e.evaluate spec (.html s.document) s.cache s.outside with
    | (r, page, cache, outside) =>
      (r, ⟨page.document, cache, outside⟩) :: e.session specs ⟨page.document, cache, outside⟩

/-- What chains of which `P` holds leave of a document. -/
def Pruned (P : Css.Chain → Prop) (d d' : Markup.Document) : Prop :=
  ∃ runs : List (Css.Chain × List Nat), (∀ r ∈ runs, P r.1) ∧ d' = Css.prune d runs

variable {P : Css.Chain → Prop} {d d' : Markup.Document}

theorem pruned_refl (P : Css.Chain → Prop) (d : Markup.Document) : Pruned P d d :=
  ⟨[], fun _ h => absurd h List.not_mem_nil, rfl⟩

theorem Pruned.run (h : Pruned P d d') {c : Css.Chain} (hc : P c) (context : List Nat) :
    Pruned P d (c.run d' context).1 := by
  obtain ⟨runs, hruns, rfl⟩ := h
  refine ⟨runs ++ [(c, context)], fun r hr => ?_, ?_⟩
  · rcases List.mem_append.1 hr with hr | hr
    · exact hruns r hr
    · rw [List.mem_singleton.1 hr]
      exact hc
  · unfold Css.prune
    rw [List.foldl_append]
    rfl

/-- **An evaluation prunes its document with the chains of its spec**; where it ends for want of a root element, the
document has none. -/
theorem onPage_pruned (e : Evaluator σ) {spec : Spec} (hspec : ∀ c, spec.Writes c → P c) {s : State σ}
    (hcache : s.cache.Faithful) (hs : Pruned P d s.document) {r : Except ExtractError Value} {t : State σ}
    (h : e.onPage spec (.html s.document) s = (r, t)) :
    t.cache.Faithful ∧ Pruned P d t.document ∧ (r = .error .rootless → t.document.rootElement? = none) := by
  have hagree := blind_agrees (R := fun e d f => e = f ∧ (e = .rootless → d.rootElement? = none)) (I := Pruned P d)
    (Q := fun _ _ => True) (rfl : e.registry = e.registry) (fun _ _ hroot => ⟨rfl, fun _ => hroot⟩)
    (fun _ _ => ⟨rfl, fun h => nomatch h⟩) (fun _ => ⟨rfl, fun h => nomatch h⟩) (fun _ _ _ _ => trivial)
    (fun _ _ _ _ _ _ _ _ => trivial)
    (fun spec hP raw c d context hsel hparse hd => hd.run (hP raw c hsel hparse) context) (e.maxDepth + 1) spec
    (Spec.all_of_writes hspec)
  have houtcome := hagree.onPage (.html s.document) s s ⟨rfl, rfl, hcache, hcache, hs⟩
  rw [h] at houtcome
  cases houtcome with
  | ok _ ht => exact ⟨ht.left, ht.holds, fun h => nomatch h⟩
  | error he ht =>
    refine ⟨ht.left, ht.holds, fun h => ?_⟩
    cases h
    cases he
  | fatal _ _ ht =>
    refine ⟨ht.2.left, ht.2.holds, fun h => ?_⟩
    cases h
    exact ht.1.2 rfl
  | lost _ _ hl => exact hl.elim

/-- The first of several evaluations, and the others from the state that it leaves. -/
theorem session_cons (e : Evaluator σ) {spec : Spec} {s t : State σ} {r : Except ExtractError Value}
    (h : e.onPage spec (.html s.document) s = (r, t)) (specs : List Spec) :
    e.session (spec :: specs) s = (r, t) :: e.session specs t := by
  have hrun : e.onPage spec (.html s.document) ⟨(Page.html s.document).document, s.cache, s.outside⟩ = (r, t) := h
  have heval : e.evaluate spec (.html s.document) s.cache s.outside = (r, .html t.document, t.cache, t.outside) := by
    rw [evaluate_eq, hrun]
    rfl
  rw [Evaluator.session, heval]
  rfl

/-- **Every evaluation of several does that**, with the chains of all specs. -/
theorem session_pruned (e : Evaluator σ) : ∀ {specs : List Spec} {s : State σ}, s.cache.Faithful →
    Pruned P d s.document → (∀ spec ∈ specs, ∀ c, spec.Writes c → P c) → ∀ step ∈ e.session specs s,
      Pruned P d step.2.document ∧ (step.1 = .error .rootless → step.2.document.rootElement? = none)
  | [], _, _, _, _ => fun _ h => nomatch h
  | spec :: specs, s, hcache, hs, hspecs => by
    intro step hstep
    cases hrun : e.onPage spec (.html s.document) s with
    | mk r t =>
      obtain ⟨htcache, ht, hroot⟩ := onPage_pruned e (hspecs spec List.mem_cons_self) hcache hs hrun
      rw [session_cons e hrun] at hstep
      rcases List.mem_cons.1 hstep with rfl | hstep
      · exact ⟨ht, hroot⟩
      · exact session_pruned e htcache ht (fun spec hspec => hspecs spec (List.mem_cons_of_mem _ hspec)) step hstep

/-! ## The markup of the document -/

/-- The markup of a node cannot be had exactly if it is no element and there is no root element in its place. -/
theorem outer_rootless (d : Markup.Document) (i : Nat) :
    d.outer i = .error .rootless ↔ d.isElement i = false ∧ d.rootElement? = none := by
  unfold Markup.Document.outer
  cases d.isElement i with
  | true => exact iff_of_false (fun h => nomatch h) (fun h => nomatch h.1)
  | false =>
    cases d.rootElement? with
    | none => exact iff_of_true rfl ⟨rfl, rfl⟩
    | some j => exact iff_of_false (fun h => nomatch h) (fun h => nomatch h.2)

theorem inner_rootless (d : Markup.Document) (i : Nat) :
    d.inner i = .error .rootless ↔ d.isElement i = false ∧ d.rootElement? = none := by
  unfold Markup.Document.inner
  split
  · rename_i h
    rw [h]
    exact iff_of_false (fun h => nomatch h) (fun h => nomatch h.1)
  · exact outer_rootless d i

theorem content_apply (i : Nat) (shown : String) (s : State σ) :
    Evaluator.content [i] .inner shown s = ((s.document.inner i).map fun t => String.join [t], s) := by
  simp only [Evaluator.content, Run.look, Run.of, Css.Mode.readAll, Css.Mode.readEach, Css.Mode.read]
  cases s.document.inner i <;> rfl

theorem html_apply (e : Evaluator σ) {spec : Spec} (hfilter : spec.filter = "") (i : Nat) (shown : String)
    (s : State σ) :
    ((Evaluator.content [i] .inner shown >>= fun text => e.finish spec (.string text)) s).1 = .error .rootless ↔
      s.document.inner i = .error .rootless := by
  rw [Run.bind_apply, content_apply]
  unfold Evaluator.finish
  rw [hfilter]
  cases s.document.inner i with
  | ok text => exact iff_of_false (fun h => nomatch h) (fun h => nomatch h)
  | error err =>
    show Except.error err = Except.error ExtractError.rootless ↔ Except.error err = Except.error ExtractError.rootless
    constructor <;> (intro h; cases h; rfl)

def wholePage : Spec := { tag := .html }

theorem evaluate_html (e : Evaluator σ) (spec : Spec) (cache : Cache) (outside : σ) :
    (e.evaluate spec (.html d) cache outside).1 =
      (e.htmlNode (e.below e.maxDepth) (e.inside e.maxDepth) spec [0] ⟨d, cache, outside⟩).1 := rfl

theorem evaluate_wholePage (e : Evaluator σ) (htop : d.isElement 0 = false) (cache : Cache) (outside : σ) :
    (e.evaluate wholePage (.html d) cache outside).1 = .error .rootless ↔ d.rootElement? = none := by
  rw [evaluate_html]
  refine (html_apply e rfl 0 "" ⟨d, cache, outside⟩).trans ((inner_rootless d 0).trans ?_)
  exact and_iff_right htop

/-- The markup of the page without any element. -/
def uproot : Spec := { selector := .native "| rm(*)", tag := .html }

theorem parse_uproot : Css.Chain.parse "| rm(*)" =
    .ok ⟨"| rm(*)", none, [.remove [.compound [.any]]], .text⟩ := by
  have hmode : Css.Chain.cutMode "| rm(*)".toList = ("| rm(*)".toList, .text) := rfl
  have hparts : (Text.splitAt '|' "| rm(*)".toList).map Text.trimBlank = [[], "rm(*)".toList] := rfl
  have hop : Css.Op.parse "rm(*)".toList = .ok (.remove [.compound [.any]]) := rfl
  have hops : Css.Chain.parseOps ["rm(*)".toList] = .ok [.remove [.compound [.any]]] := by
    unfold Css.Chain.parseOps
    rw [hop]
    rfl
  unfold Css.Chain.parse
  rw [hmode]
  simp only
  rw [hparts]
  simp only
  rw [hops, String.ofList_toList]
  rfl

theorem uproots_any (d : Markup.Document) (source : String) (mode : Css.Mode) :
    Css.Chain.Uproots ⟨source, none, [.remove [.compound [.any]]], mode⟩ d [0] := by
  refine ⟨rfl, .inl ⟨List.mem_singleton_self 0, fun i _ hi => ?_⟩⟩
  unfold Css.selects
  rw [hi]
  simp [Css.anyHolds, Css.Complex.holds, Css.allHold, Css.Simple.holds]

theorem evaluate_uproot (e : Evaluator σ) (hd : d.WellFormed) {cache : Cache} (hcache : cache.Faithful)
    (outside : σ) : (e.evaluate uproot (.html d) cache outside).1 = .error .rootless := by
  let chain : Css.Chain := ⟨"| rm(*)", none, [.remove [.compound [.any]]], .text⟩
  have hroot : (chain.run d [0]).1.rootElement? = none :=
    (Css.Chain.rootElement?_run hd chain [0]).2 (.inr (uproots_any d _ _))
  obtain ⟨c, -, hchain⟩ := Run.chain_apply (σ := σ) "| rm(*)" (s := ⟨d, cache, outside⟩) hcache
  have hnavigate : Run.navigate "| rm(*)" [0] ⟨d, cache, outside⟩ =
      (.ok (.text, [0]), ⟨(chain.run d [0]).1, c, outside⟩) := by
    unfold Run.navigate
    rw [Run.bind_apply, hchain, parse_uproot]
    rfl
  have hselector : uproot.selector = .native "| rm(*)" := rfl
  rw [evaluate_html, htmlNode_native e _ _ hselector, Run.bind_apply, hnavigate]
  exact (html_apply e rfl 0 _ _).2 ((inner_rootless _ 0).2 ⟨(chain.wellFormed_run hd [0]).top, hroot⟩)

theorem parse_html (body : List UInt8) : ∃ d, Page.parse body .html = .ok (.html d) ∧ d.WellFormed ∧
    d.rootElement? ≠ none := by
  have htree := Markup.parse_isRooted (Text.Utf8.toStringLossy body)
  exact ⟨.ofTree (Markup.parse (Text.Utf8.toStringLossy body)), rfl, Markup.Document.wellFormed_ofTree htree.top,
    Markup.Document.rootElement?_ofTree htree⟩

theorem pipe_eq (e : Evaluator σ) (spec : Spec) {body : List UInt8} {kind : PageKind} {page : Page}
    (h : Page.parse body kind = .ok page) (outside : σ) :
    (e.pipe spec body kind outside).1 = (e.evaluate spec page {} outside).1 := by
  unfold Evaluator.pipe
  rw [h]

/-! ## All evaluations -/

/-- What the evaluations leave, and what it takes for one to fail for want of a root element. -/
theorem session_runs (e : Evaluator σ) (hd : d.WellFormed) (hroot : d.rootElement? ≠ none) (specs : List Spec)
    (outside : σ) : ∀ step ∈ e.session specs ⟨d, {}, outside⟩, ∃ runs : List (Css.Chain × List Nat),
      (∀ r ∈ runs, ∃ spec ∈ specs, spec.Writes r.1) ∧ step.2.document = Css.prune d runs ∧
      (step.2.document.rootElement? = none ↔ Css.Uprooted d runs) ∧
      (step.1 = .error .rootless → Css.Uprooted d runs) := by
  intro step hstep
  obtain ⟨⟨runs, hruns, hdoc⟩, hrootless⟩ := session_pruned (P := fun c => ∃ spec ∈ specs, spec.Writes c) e
    Cache.faithful_empty (pruned_refl _ d) (fun spec hspec c hc => ⟨spec, hspec, hc⟩) step hstep
  have huprooted : step.2.document.rootElement? = none ↔ Css.Uprooted d runs := by
    rw [hdoc, Css.rootElement?_prune runs hd]
    exact or_iff_right hroot
  exact ⟨runs, hruns, hdoc, huprooted, fun h => huprooted.1 (hrootless h)⟩

/-- **Evaluations never fail for want of a root element if every `rm` stands behind a selector.** -/
theorem session_ne_rootless (e : Evaluator σ) (body : List UInt8) {specs : List Spec}
    (hspecs : ∀ spec ∈ specs, ∀ c, spec.Writes c → c.primary = none → ∀ s, .remove s ∉ c.ops) (outside : σ) :
    ∃ d, Page.parse body .html = .ok (.html d) ∧
      ∀ step ∈ e.session specs ⟨d, {}, outside⟩, step.1 ≠ .error .rootless := by
  obtain ⟨d, hparse, hd, hroot⟩ := parse_html body
  refine ⟨d, hparse, fun step hstep hrootless => ?_⟩
  obtain ⟨runs, hruns, -, -, huprooted⟩ := session_runs e hd hroot specs outside step hstep
  obtain ⟨before, r, behind, rfl, hprimary, hops⟩ := huprooted hrootless
  obtain ⟨spec, hspec, hwrites⟩ := hruns r (by simp)
  obtain ⟨s, hs⟩ := Css.Op.exists_remove hops
  exact hspecs spec hspec r.1 hwrites hprimary s hs

/-- **A page has a root element when it has been read, and evaluations fail for want of one only behind a chain that
uproots it.**  From there on only elements have markup, and the page has none; every page can be brought there. -/
theorem session_rootless_exact (e : Evaluator σ) (body : List UInt8) (specs : List Spec) (outside : σ) :
    (e.pipe uproot body .html outside).1 = .error .rootless ∧
    ∃ d, Page.parse body .html = .ok (.html d) ∧ d.rootElement? ≠ none ∧
      ∀ step ∈ e.session specs ⟨d, {}, outside⟩, ∃ runs : List (Css.Chain × List Nat),
        (∀ r ∈ runs, ∃ spec ∈ specs, spec.Writes r.1) ∧ step.2.document = Css.prune d runs ∧
        (step.2.document.rootElement? = none ↔ Css.Uprooted d runs) ∧
        (step.1 = .error .rootless → Css.Uprooted d runs) ∧
        (∀ i, step.2.document.inner i = .error .rootless ↔
          step.2.document.isElement i = false ∧ Css.Uprooted d runs) ∧
        (∀ i, step.2.document.outer i = .error .rootless ↔
          step.2.document.isElement i = false ∧ Css.Uprooted d runs) ∧
        ((e.evaluate wholePage (.html step.2.document) step.2.cache step.2.outside).1 = .error .rootless ↔
          Css.Uprooted d runs) := by
  obtain ⟨d, hparse, hd, hroot⟩ := parse_html body
  refine ⟨?_, d, hparse, hroot, fun step hstep => ?_⟩
  · rw [pipe_eq e uproot hparse]
    exact evaluate_uproot e hd Cache.faithful_empty outside
  · obtain ⟨runs, hruns, hdoc, huprooted, hrootless⟩ := session_runs e hd hroot specs outside step hstep
    have htop : step.2.document.isElement 0 = false := by
      rw [hdoc]
      exact (Css.wellFormed_prune runs hd).top
    refine ⟨runs, hruns, hdoc, huprooted, hrootless, fun i => ?_, fun i => ?_, ?_⟩
    · rw [inner_rootless, huprooted]
    · rw [outer_rootless, huprooted]
    · exact (evaluate_wholePage e htop _ _).trans huprooted

end Extract

end Harvest
