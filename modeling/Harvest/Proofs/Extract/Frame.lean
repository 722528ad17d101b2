import Harvest.Proofs.Extract.Removal
import Harvest.Proofs.Extract.Site
import Harvest.Proofs.Extract.View
import Harvest.Proofs.Filter.Clock
/-!
# Evaluations that write nothing

A step is settled on a document if it has the same outcome wherever it starts with that document, and leaves all there
but what has been read (`Settled`).  So is the evaluation of a spec whose chains leave the document as it is and whose
filters do not read the clock (`settled_at`), and so specs without `rm` can share a document (`session_quiet`).
-/
namespace Harvest

open Harvest.Markup (Document)

variable {σ τ : Type} {α β : Type}

/-- No selector of the spec is a chain with an `rm` that has an argument (`Css.Op.ofName_eq_remove`). -/
def Spec.ReadOnly (spec : Spec) : Prop := ∀ c, spec.Writes c → ∀ s, Css.Op.remove s ∉ c.ops

/-- The built-in filters do without the clock: those that read it are not held, or the spec does not call them. -/
def Spec.Timeless (r : Registry σ) (spec : Spec) : Prop :=
  r = Filter.timeless σ ∨ ∃ clock, r = Filter.builtin σ clock ∧
    spec.All fun s => ∀ c ∈ Filter.Call.parse s.filter, c.name ∉ Filter.clockNames

theorem Spec.Timeless.steady {r : Registry σ} {spec : Spec} (h : spec.Timeless r) :
    spec.All fun s => Filter.Steady r (Filter.Call.parse s.filter) := by
  rcases h with rfl | ⟨clock, rfl, h⟩
  · exact .of_forall (fun _ => Filter.steady_timeless _) spec
  · exact h.mono fun s hs => Filter.steady_builtin hs

namespace Extract

/-- A node of a spec that leaves a document as it is and the clock unread. -/
structure Quiet (r : Registry σ) (d : Document) (spec : Spec) : Prop where
  filters : Filter.Steady r (Filter.Call.parse spec.filter)
  chains : ∀ raw c context, spec.selector = .native raw → Css.Chain.parse raw = .ok c → (c.run d context).1 = d

/-- From every state with the document a step has the same outcome, and it changes nothing but what has been read. -/
def Settled (d : Document) (x : Run σ α) (r : Except ExtractError α) : Prop :=
  ∀ s : State σ, s.document = d → s.cache.Faithful → ∃ c : Cache, c.Faithful ∧ x s = (r, { s with cache := c })

variable {d : Document}

/-- Runs that are alike but for what has been read, on a document that stays. -/
abbrev Link.still (σ : Type) (d : Document) : Link σ σ := .blind σ (fun e _ f => e = f) (· = d)

/-- The run to the right does without what is outside the other one, which stays. -/
abbrev Link.alone (o : σ) : Link σ Unit := .through (fun _ => ()) (· = o) (fun _ o' => o' = o) fun _ => False

/-- **A step that depends neither on what has been read nor on what is outside is settled.** -/
theorem settled_of_linked {x y : Run σ α} {z : Run Unit α} (hxy : Linked (.still σ d) Eq x y)
    (hyz : ∀ o, Linked (.alone o) Eq y z) : Settled d x (z ⟨d, {}, ()⟩).1 := by
  intro s hs hcache
  have h := hxy s ⟨d, {}, s.outside⟩ ⟨hs, rfl, hcache, Cache.faithful_empty, hs⟩
  have h' := hyz s.outside ⟨d, {}, s.outside⟩ ⟨d, {}, ()⟩ ⟨⟨rfl, rfl, rfl⟩, rfl⟩
  generalize x s = p at h ⊢
  generalize y ⟨d, {}, s.outside⟩ = q at h h'
  generalize z ⟨d, {}, ()⟩ = w at h' ⊢
  -- The state behind the step has the document and what is outside of before.
  have hstate : ∀ {u v : State σ}, SameView (· = d) u v → v.outside = s.outside →
      u = { s with cache := u.cache } := by
    intro u v huv hv
    obtain ⟨du, cu, ou⟩ := u
    cases huv.holds.trans hs.symm
    cases huv.outside.trans hv
    rfl
  cases h with
  | ok ha hu =>
    cases ha
    cases h' with
    | ok hb hv =>
      cases hb
      exact ⟨_, hu.left, Prod.ext rfl (hstate hu hv.2)⟩
  | error he hu =>
    cases h' with
    | error _ hv => exact ⟨_, hu.left, Prod.ext rfl (hstate hu hv.2)⟩
    | fatal hf => rw [he] at hf; cases hf
    | lost _ _ hl => exact hl.elim
  | fatal he hf hu =>
    obtain ⟨rfl, hu⟩ := hu
    cases h' with
    | error hf' => rw [he] at hf'; cases hf'
    | fatal _ _ hv =>
      obtain ⟨rfl, -, hv⟩ := hv
      exact ⟨_, hu.left, Prod.ext rfl (hstate hu hv)⟩
    | lost _ _ hl => exact hl.elim
  | lost _ _ hl => exact hl.elim

/-! ## Specs on sites -/

theorem Link.Agrees.at {L : Link σ τ} {Q : Spec → Value → Prop} {e : Evaluator σ} {e' : Evaluator τ} {n n' : Nat}
    {spec : Spec} (h : L.Agrees Q e e' n n' spec) (site : Site) :
    Linked L (Same (Q spec)) (e.at n spec site) (e'.at n' spec site) := by
  cases site with
  | nodes context => exact h.inside context
  | json j => exact h.level.json j
  | text t => exact h.level.text t

theorem Linked.written {L : Link σ τ} (hL : L.Fits) (site : Site) :
    Linked L Eq (Run.written site) (Run.written site) := by
  unfold Run.written
  cases site with
  | nodes context =>
    refine Linked.look hL fun d err hd he => ?_
    cases context with
    | nil => cases hd
    | cons i is => exact looks_inner i d err hd he
  | json j => exact .pure rfl
  | text t => exact .pure rfl

theorem Linked.matched {L : Link σ τ} (hL : L.Fits) (engine : Pattern.Engine) (pattern text : String) :
    Linked L Eq (Run.matched engine pattern text) (Run.matched engine pattern text) := by
  refine bind (hL.pattern engine pattern) fun r _ hr => ?_
  subst hr
  refine bind (firstMatch hL r text) fun groups _ hg => ?_
  subst hg
  refine (lift (P := fun _ => True) ?_ fun _ _ => trivial).eq_of_same
  cases groups with
  | some gs => exact mild_ok _
  | none => exact mild_error rfl

theorem Linked.target {L : Link σ τ} (hL : L.Fits) {spec : Spec} (hnavigate : ∀ raw context,
      spec.selector = .native raw → Linked L Eq (Run.navigate raw context) (Run.navigate raw context)) (site : Site) :
    Linked L Eq (Run.target spec site) (Run.target spec site) := by
  unfold Run.target
  cases hsel : spec.selector with
  | pattern engine pattern =>
    refine bind (written hL site) fun text _ ht => ?_
    subst ht
    refine bind (matched hL engine pattern text) fun t _ ht => ht ▸ .pure rfl
  | current =>
    cases site with
    | nodes context =>
      simp only
      split
      · exact throw rfl
      · exact .pure rfl
    | json j => exact .pure rfl
    | text t => exact .pure rfl
  | native raw =>
    cases site with
    | nodes context =>
      refine bind (hnavigate raw context hsel) fun r _ hr => ?_
      subst hr
      split
      · exact throw rfl
      · exact .pure rfl
    | json j =>
      refine bind (hL.path raw) fun path _ hp => ?_
      subst hp
      refine bind (lift (P := fun _ => True) (mild_walk path [] j) fun _ _ => trivial) fun k _ hk => ?_
      exact hk.1 ▸ .pure rfl
    | text t => exact .pure rfl

/-- The outcome of a spec on a site of a document by itself, without a clock and without anything outside. -/
def alone (maxDepth levels : Nat) (spec : Spec) (site : Site) (d : Document) : Except ExtractError Value :=
  (Evaluator.at ⟨Filter.timeless Unit, maxDepth⟩ levels spec site ⟨d, {}, ()⟩).1

theorem viewed_timeless (o : σ) : Viewed (fun _ => ()) (· = o) (Filter.timeless σ) (Filter.timeless Unit) := by
  refine ⟨fun name v params o => ?_, fun name v params o' ho => ?_⟩
  · rw [Filter.timeless_apply name v params o]
  · rw [Filter.timeless_apply name v params o']
    exact ho

/-- **A quiet spec has one outcome on each site of its document.** -/
theorem settled_at (e : Evaluator σ) {spec : Spec} (h : spec.All (Quiet e.registry d)) (levels : Nat) (site : Site) :
    Settled d (e.at levels spec site) (alone e.maxDepth levels spec site d) := by
  -- First to the filters without a clock and an empty cache, then to a run without anything outside.
  let still : Evaluator σ := ⟨Filter.timeless σ, e.maxDepth⟩
  have hstill : (Link.still σ d).Agrees (fun _ _ => True) e still levels levels spec :=
    blind_agrees_of_run (fun _ hq v o => hq.filters.run_eq v o) (fun _ _ _ => rfl) (fun _ _ => rfl) (fun _ => rfl)
      (fun _ _ _ _ => trivial) (fun _ _ _ _ _ _ _ _ => trivial)
      (fun spec hq raw c d' context hsel hparse hd => by subst hd; exact hq.chains raw c context hsel hparse) levels
      spec h
  have halone : ∀ o, (Link.alone o).Agrees (fun _ _ => True) still ⟨Filter.timeless Unit, e.maxDepth⟩ levels levels
      spec := by
    intro o
    exact .run (L := .alone o) (k := 0) (P := fun _ => True) (through_fits fun _ _ _ ho => ho)
      (fun spec _ => through_node (F := fun _ o' => o' = o) (viewed_timeless o) (fun _ _ _ ho => ho) spec)
      (fun spec => .zero fun s t hs => ⟨rfl, hs.1, hs.2⟩) levels spec (.of_forall (fun _ => trivial) spec)
  exact settled_of_linked (hstill.at site).eq_of_same fun o => ((halone o).at site).eq_of_same

theorem settled_target {r : Registry σ} {spec : Spec} (h : Quiet r d spec) (site : Site) :
    Settled d (Run.target (σ := σ) spec site) (Run.target (σ := Unit) spec site ⟨d, {}, ()⟩).1 := by
  refine settled_of_linked (y := Run.target spec site) (Linked.target (blind_fits (fun _ _ _ => rfl) fun _ _ => rfl)
    (fun raw context hsel => blind_navigate raw context fun c d' hparse hd => ?_) site) fun o =>
      Linked.target (L := .alone o) (through_fits fun _ _ _ ho => ho)
        (fun raw context _ => through_navigate raw context) site
  subst hd
  exact h.chains raw c context hsel hparse

/-! ## Pages -/

/-- Pages other than documents have no nodes that a chain could take out. -/
theorem quiet_page {r : Registry σ} {spec : Spec} (htime : spec.Timeless r) (page : Page)
    (hread : ∀ d, page = .html d → spec.ReadOnly) : spec.All (Quiet r page.document) := by
  have hchains : spec.All fun s => ∀ raw c, s.selector = .native raw → Css.Chain.parse raw = .ok c →
      ∀ context, (c.run page.document context).1 = page.document := by
    refine Spec.all_of_writes fun c hc context => ?_
    cases page with
    | html d => exact c.run_document (hread d rfl c hc) context
    | json j => exact Css.Op.runAll_default c.ops _
    | text t => exact Css.Op.runAll_default c.ops _
  refine (htime.steady.and hchains).mono fun s hs => ⟨hs.1, fun raw c context hsel hparse => ?_⟩
  exact hs.2 raw c hsel hparse context

theorem evaluate_quiet (e : Evaluator σ) {spec : Spec} {page : Page} (h : spec.All (Quiet e.registry page.document))
    {cache : Cache} (hcache : cache.Faithful) (outside : σ) : ∃ c : Cache, c.Faithful ∧
      e.evaluate spec page cache outside =
        (alone e.maxDepth (e.maxDepth + 1) spec page.site page.document, page, c, outside) := by
  obtain ⟨c, hc, happ⟩ := settled_at e h (e.maxDepth + 1) page.site ⟨page.document, cache, outside⟩ rfl hcache
  refine ⟨c, hc, ?_⟩
  rw [evaluate_eq, onPage_eq_at, happ]
  cases page <;> rfl

/-- Quiet specs that are evaluated one after the other each have the outcome that they have alone. -/
theorem session_quiet (e : Evaluator σ) : ∀ (specs : List Spec) {s : State σ}, s.cache.Faithful →
    (∀ spec ∈ specs, spec.All (Quiet e.registry s.document)) →
      (e.session specs s).map (fun step => (step.1, step.2.document)) =
        specs.map fun spec => (alone e.maxDepth (e.maxDepth + 1) spec (.nodes [0]) s.document, s.document)
  | [], _, _, _ => rfl
  | spec :: specs, s, hcache, h => by
    obtain ⟨c, hc, happ⟩ := settled_at e (h spec List.mem_cons_self) (e.maxDepth + 1) (.nodes [0]) s rfl hcache
    have hspecs := session_quiet e specs (s := { s with cache := c }) hc fun spec hspec =>
      h spec (List.mem_cons_of_mem _ hspec)
    rw [session_cons e ((congrFun (onPage_eq_at e spec (.html s.document)) s).trans happ), List.map_cons, hspecs]
    rfl

/-- **Only `rm` writes to the document.**  Specs without it that do not read the clock leave the document on which they
are evaluated one after the other, whether they fail or not, and each has the outcome that it has alone, at any time,
on a document that has just been read. -/
theorem only_rm_writes (e : Evaluator σ) (e' : Evaluator τ) (hlimit : e'.maxDepth = e.maxDepth) {specs : List Spec}
    (hread : ∀ spec ∈ specs, spec.ReadOnly)
    (htime : ∀ spec ∈ specs, spec.Timeless e.registry ∧ spec.Timeless e'.registry) {s : State σ}
    (hcache : s.cache.Faithful) (outside : τ) :
    (∀ step ∈ e.session specs s, step.2.document = s.document) ∧
    (e.session specs s).map Prod.fst = specs.map (fun spec => (e'.evaluate spec (.html s.document) {} outside).1) ∧
    ∀ body, Page.parse body .html = .ok (.html s.document) →
      (e.session specs s).map Prod.fst = specs.map fun spec => (e'.pipe spec body .html outside).1 := by
  have hsession := session_quiet e specs hcache fun spec hspec =>
    quiet_page (htime spec hspec).1 (.html s.document) fun _ _ => hread spec hspec
  have halone : (e.session specs s).map Prod.fst =
      specs.map fun spec => (e'.evaluate spec (.html s.document) {} outside).1 := by
    have houtcomes := congrArg (List.map Prod.fst) hsession
    rw [List.map_map, List.map_map] at houtcomes
    refine houtcomes.trans (List.map_congr_left fun spec hspec => ?_)
    obtain ⟨c, -, heval⟩ := evaluate_quiet e' (quiet_page (htime spec hspec).2 (.html s.document)
      fun _ _ => hread spec hspec) Cache.faithful_empty outside
    rw [heval, hlimit]
    rfl
  refine ⟨fun step hstep => ?_, halone, fun body hparse => ?_⟩
  · have hmem := List.mem_map_of_mem (f := fun step => (step.1, step.2.document)) hstep
    rw [hsession] at hmem
    obtain ⟨spec, -, heq⟩ := List.mem_map.1 hmem
    exact (congrArg Prod.snd heq).symm
  · rw [halone]
    exact List.map_congr_left fun spec _ => (pipe_eq e' spec hparse outside).symm

theorem readOnly_node {spec : Spec} (hself : ∀ raw c, spec.selector = .native raw → Css.Chain.parse raw = .ok c →
      ∀ s, Css.Op.remove s ∉ c.ops) (hchildren : ∀ c ∈ spec.children, c.ReadOnly) : spec.ReadOnly := by
  intro c hc
  cases hc with
  | here hsel hparse => exact hself _ c hsel hparse
  | child hchild hc => exact hchildren _ hchild c hc

/-- The text of a page without the blanks around it. -/
def trimmed : Spec := { selector := .native "| first", tag := .text, filter := "trimspace" }

theorem readOnly_trimmed : trimmed.ReadOnly := by
  have hparse : (Css.Chain.parse "| first").map Css.Chain.ops = .ok [.first] := rfl
  refine readOnly_node (fun raw c hsel hc s hs => ?_) nofun
  cases hsel
  rw [hc] at hparse
  rw [Except.ok.inj hparse] at hs
  cases List.mem_singleton.1 hs

theorem only_rm_writes_trimmed :
    let body := Text.Utf8.ofString "<title> x </title>"
    let e (time : Int64) : Evaluator Unit := ⟨Filter.builtin Unit ⟨time, time⟩, 64⟩
    let specs := [wholePage, trimmed, wholePage]
    ∃ d, Page.parse body .html = .ok (.html d) ∧ d.rootElement? ≠ none ∧
      ((e 1).session specs ⟨d, {}, ()⟩).map Prod.fst =
        specs.map (fun spec => ((e 2).evaluate spec (.html d) {} ()).1) ∧
      ((e 1).session specs ⟨d, {}, ()⟩).map Prod.fst = specs.map fun spec => ((e 2).pipe spec body .html ()).1 := by
  intro body e specs
  obtain ⟨d, hparse, -, hroot⟩ := parse_html body
  have hspecs : ∀ spec ∈ specs, spec.ReadOnly ∧ ∀ time, spec.Timeless (e time).registry := by
    have hwhole : wholePage.ReadOnly ∧ ∀ time, wholePage.Timeless (e time).registry :=
      ⟨readOnly_node nofun nofun, fun time => .inr ⟨_, rfl, .node (by decide) fun c hc => nomatch hc⟩⟩
    have htrimmed : ∀ time, trimmed.Timeless (e time).registry :=
      fun time => .inr ⟨_, rfl, .node (by decide) fun c hc => nomatch hc⟩
    simpa [specs] using ⟨hwhole, ⟨readOnly_trimmed, htrimmed⟩, hwhole⟩
  obtain ⟨-, halone, hpiped⟩ := only_rm_writes (e 1) (e 2) rfl (fun spec hspec => (hspecs spec hspec).1)
    (fun spec hspec => ⟨(hspecs spec hspec).2 1, (hspecs spec hspec).2 2⟩) (s := ⟨d, {}, ()⟩) Cache.faithful_empty ()
  exact ⟨d, hparse, hroot, halone, hpiped body hparse⟩

end Extract

end Harvest
