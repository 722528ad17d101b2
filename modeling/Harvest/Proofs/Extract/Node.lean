import Harvest.Extract.Evaluator
import Harvest.Proofs.Extract.Shape
/-!
# The rules of one node, side by side

Two evaluators that agree on what they read of texts, on the filters of a node and on what is below it agree on the
node (`jsonNode`, `textNode`, `htmlNode`), and its value has the shape of its type.  Each of the four rules is walked
through once here; what is said of whole runs follows from it by induction on the levels.
-/
namespace Harvest.Extract

variable {σ τ : Type} {α : Type}

/-- What a selector chain's text leads to, and how that is read. -/
def Run.navigate (raw : String) (context : List Nat) : Run σ (Css.Mode × List Nat) := do
  let chain ← Run.chain raw
  let nodes ← Run.select chain context
  return (chain.mode, nodes)

/-- A look at a document fails for good only where the document has no root element. -/
def Looks (f : Markup.Document → Except ExtractError α) : Prop :=
  ∀ d e, f d = .error e → e.isFatal = true → e = .rootless ∧ d.rootElement? = none

namespace Link

/-- What a link has to say of the steps that all nodes share. -/
structure Fits (L : Link σ τ) : Prop where
  document : ∀ {s t}, L.state s t → s.document = t.document
  rootless : ∀ {s t}, L.state s t → s.document.rootElement? = none → L.fatal .rootless s .rootless t
  panic : ∀ {p s t}, L.state s t → L.fatal (.panic p) s (.panic p) t
  path : ∀ raw, Linked L Eq (Run.path raw) (Run.path raw)
  pattern : ∀ engine text, Linked L Eq (Run.pattern engine text) (Run.pattern engine text)

/-- What a link has to say of the steps of one node: its filters make of a value of its shape one of which `Q` holds,
and its selector chain leads both runs to the same nodes. -/
structure Node (L : Link σ τ) (Q : Spec → Value → Prop) (e : Evaluator σ) (e' : Evaluator τ) (spec : Spec) :
    Prop where
  finish : ∀ v, Shape Q spec v → Linked L (Same (Q spec)) (e.finish spec v) (e'.finish spec v)
  navigate : ∀ raw context, spec.selector = .native raw →
    Linked L Eq (Run.navigate raw context) (Run.navigate raw context)

/-- Both runs evaluate a spec in the same way on JSON values and on texts. -/
structure Level (L : Link σ τ) (Q : Spec → Value → Prop) (b : Below σ) (b' : Below τ) (c : Spec) : Prop where
  json : ∀ j, Linked L (Same (Q c)) (b.json c j) (b'.json c j)
  text : ∀ t, Linked L (Same (Q c)) (b.text c t) (b'.text c t)

end Link

variable {L : Link σ τ} {Q : Spec → Value → Prop} {e : Evaluator σ} {e' : Evaluator τ} {b : Below σ} {b' : Below τ}
  {spec : Spec}

namespace Linked

theorem look (hL : L.Fits) {f : Markup.Document → Except ExtractError α} (hf : Looks f) :
    Linked L Eq (Run.look f) (Run.look f) := by
  intro s t hs
  show L.Outcome Eq (f s.document, s) (f t.document, t)
  rw [← hL.document hs]
  cases hd : f s.document with
  | ok a => exact .ok rfl hs
  | error e =>
    cases he : e.isFatal with
    | false => exact .error he hs
    | true =>
      obtain ⟨rfl, hr⟩ := hf _ e hd he
      exact .fatal rfl rfl (hL.rootless hs hr)

theorem firstMatch (hL : L.Fits) (r : Pattern.Regex) (text : String) :
    Linked L Eq (Run.lift (Extract.firstMatch r text)) (Run.lift (Extract.firstMatch r text)) := by
  intro s t hs
  rw [Run.lift_apply, Run.lift_apply]
  cases hr : Extract.firstMatch r text with
  | ok groups => exact .ok rfl hs
  | error e =>
    cases he : e.isFatal with
    | false => exact .error he hs
    | true =>
      obtain ⟨p, rfl⟩ := firstMatch_fatal hr he
      exact .fatal rfl rfl (hL.panic hs)

/-! ## Composites -/

theorem finishWith (hn : L.Node Q e e' spec) {r : Except ExtractError Value} (hr : Mild r)
    (hs : ∀ v, r = .ok v → Shape Q spec v) : Linked L (Same (Q spec)) (e.finishWith spec r) (e'.finishWith spec r) :=
  bind (lift hr hs) fun v _ hv => hv.1 ▸ hn.finish v hv.2

theorem unsupported (kind : PageKind) :
    Linked L (Same (Q spec)) (Evaluator.unsupported spec kind) (Evaluator.unsupported spec kind) := throw rfl

theorem jsonOfText (hn : L.Node Q e e' spec) (htag : spec.tag = .json) (text : String) :
    Linked L (Same (Q spec)) (e.jsonOfText spec text) (e'.jsonOfText spec text) := by
  refine finishWith hn ((mild_embedded text).map _) fun v hv => ?_
  unfold Shape
  rw [htag]
  exact map_eq_ok hv

theorem record (hn : L.Node Q e e' spec) (htag : spec.tag = .map) {f : Spec → Run σ Value} {g : Spec → Run τ Value}
    (h : ∀ c ∈ spec.children, Linked L (Same (Q c)) (f c) (g c)) :
    Linked L (Same (Q spec)) (e.record spec f) (e'.record spec g) := by
  unfold Evaluator.record
  split
  · exact throw rfl
  · refine bind (fields (P := fun n v => n ≠ "" ∧ ∃ c ∈ spec.children, c.name = n ∧ Q c v) (fun c hc => ?_)
      fun p hp => by cases hp) fun fs _ hfs => ?_
    · obtain ⟨hc, hne⟩ := Spec.mem_namedChildren.1 hc
      exact (h c hc).mono fun v w hv => ⟨hv.1, hne, c, hc, rfl, hv.2⟩
    · obtain ⟨rfl, hfs⟩ := hfs
      refine hn.finish _ ?_
      unfold Shape
      rw [htag]
      exact ⟨fs, rfl, hfs⟩

theorem each {ι : Type} (hn : L.Node Q e e' spec) (htag : spec.tag = .array) {elements : List ι}
    {f : Spec → ι → Run σ Value} {g : Spec → ι → Run τ Value}
    (h : ∀ c ∈ spec.children, ∀ i ∈ elements, Linked L (Same (Q c)) (f c i) (g c i)) :
    Linked L (Same (Q spec)) (e.each spec elements f) (e'.each spec elements g) := by
  unfold Evaluator.each
  refine bind (lift (mild_template spec) fun _ hc => Spec.template_eq_ok hc) fun c _ hc => ?_
  obtain ⟨rfl, hc⟩ := hc
  refine bind (survivors fun i hi => h c (by simp [hc]) i hi) fun vs _ hvs => ?_
  obtain ⟨rfl, hvs⟩ := hvs
  refine hn.finish _ ?_
  unfold Shape
  rw [htag]
  exact ⟨c, hc, vs, rfl, hvs⟩

/-- The one child on a JSON value, and the filters of its parent on what it yields. -/
theorem inner (hn : L.Node Q e e' spec) (htag : spec.tag = .jsonParse) {c : Spec} (hc : spec.children = [c])
    {x : Run σ Value} {y : Run τ Value} (h : Linked L (Same (Q c)) x y) :
    Linked L (Same (Q spec)) (x >>= e.finish spec) (y >>= e'.finish spec) := by
  refine bind h fun v _ hv => ?_
  obtain ⟨rfl, hv⟩ := hv
  refine hn.finish v ?_
  unfold Shape
  rw [htag]
  exact ⟨c, hc, hv⟩

theorem embedded (hn : L.Node Q e e' spec) (htag : spec.tag = .jsonParse)
    (h : ∀ c ∈ spec.children, L.Level Q b b' c) (text : String) :
    Linked L (Same (Q spec)) (e.embedded b spec text) (e'.embedded b' spec text) := by
  unfold Evaluator.embedded
  refine bind (lift (mild_template spec) fun _ hc => Spec.template_eq_ok hc) fun c _ hc => ?_
  obtain ⟨rfl, hc⟩ := hc
  refine bind (lift (P := fun _ => True) (mild_embedded text) fun _ _ => trivial) fun j _ hj => ?_
  obtain ⟨rfl, -⟩ := hj
  exact inner hn htag hc ((h c (by simp [hc])).json j)

/-! ## The four rules -/

theorem scalar (hn : L.Node Q e e' spec) {text : Except ExtractError String} (hr : Mild text)
    (htag : spec.tag = .int ∨ spec.tag = .float ∨ spec.tag = .bool ∨ spec.tag = .string ∨ spec.tag = .text) :
    Linked L (Same (Q spec)) (e.finishWith spec (text.bind (scalarOfText spec.tag)))
      (e'.finishWith spec (text.bind (scalarOfText spec.tag))) := by
  refine finishWith hn (hr.bind (mild_scalarOfText spec.tag)) fun v hv => ?_
  cases text with
  | ok t => exact shape_scalarOfText htag hv
  | error e => cases hv

theorem list (hn : L.Node Q e e' spec) (texts : List String)
    (htag : spec.tag = .ints ∨ spec.tag = .floats ∨ spec.tag = .bools ∨ spec.tag = .strings ∨ spec.tag = .texts) :
    Linked L (Same (Q spec)) (e.finishWith spec (listOfTexts spec.tag texts))
      (e'.finishWith spec (listOfTexts spec.tag texts)) :=
  finishWith hn (mild_listOfTexts spec.tag texts) fun _ hv => shape_listOfTexts htag hv

theorem patternNode (hL : L.Fits) (hn : L.Node Q e e' spec) (h : ∀ c ∈ spec.children, L.Level Q b b' c)
    (engine : Pattern.Engine) (pattern text : String) (kind : PageKind) :
    Linked L (Same (Q spec)) (e.patternNode b spec engine pattern text kind)
      (e'.patternNode b' spec engine pattern text kind) := by
  unfold Evaluator.patternNode
  refine bind (hL.pattern engine pattern) fun r _ hr => ?_
  subst hr
  refine bind (firstMatch hL r text) fun groups _ hg => ?_
  subst hg
  extract_lets found
  -- A pattern that matches nothing is a failure of this node alone.
  have hfound : Mild found := by
    unfold found
    cases groups with
    | some gs => exact mild_ok _
    | none => exact mild_error rfl
  have htext := lift (L := L) (P := fun _ => True) hfound fun _ _ => trivial
  split <;> rename_i ht
  · exact scalar hn hfound (by simp [ht])
  · exact scalar hn hfound (by simp [ht])
  · exact scalar hn hfound (by simp [ht])
  · exact scalar hn hfound (by simp [ht])
  · exact scalar hn hfound (by simp [ht])
  · exact list hn _ (by simp [ht])
  · exact list hn _ (by simp [ht])
  · exact list hn _ (by simp [ht])
  · exact list hn _ (by simp [ht])
  · exact list hn _ (by simp [ht])
  · exact bind htext fun t _ heq => heq.1 ▸ embedded hn ht h t
  · exact bind htext fun t _ heq => heq.1 ▸ jsonOfText hn ht t
  · exact bind htext fun t _ heq => heq.1 ▸ record hn ht fun c hc => (h c hc).text t
  · exact unsupported kind

theorem textNode (hL : L.Fits) (hn : L.Node Q e e' spec) (h : ∀ c ∈ spec.children, L.Level Q b b' c) (text : String) :
    Linked L (Same (Q spec)) (e.textNode b spec text) (e'.textNode b' spec text) := by
  unfold Evaluator.textNode
  split
  · exact patternNode hL hn h _ _ text .text
  · split <;> rename_i ht
    · exact scalar hn (mild_ok text) (by simp [ht])
    · exact scalar hn (mild_ok text) (by simp [ht])
    · exact scalar hn (mild_ok text) (by simp [ht])
    · exact scalar hn (mild_ok text) (by simp [ht])
    · exact scalar hn (mild_ok text) (by simp [ht])
    · exact embedded hn ht h text
    · exact jsonOfText hn ht text
    · exact record hn ht fun c hc => (h c hc).text text
    · exact unsupported .text

theorem jsonTarget (hn : L.Node Q e e' spec) (h : ∀ c ∈ spec.children, L.Level Q b b' c) (target : Json) :
    Linked L (Same (Q spec)) (e.jsonTarget b spec target) (e'.jsonTarget b' spec target) := by
  -- A conversion of the target wraps what it yields in the one kind of value that the type has.
  have conv : ∀ {γ : Type} {r : Except ExtractError γ} {wrap : γ → Value}, Mild r → (∀ a, Shape Q spec (wrap a)) →
      Linked L (Same (Q spec)) (e.finishWith spec (r.map wrap)) (e'.finishWith spec (r.map wrap)) := by
    intro γ r wrap hr hs
    refine finishWith hn (hr.map wrap) fun v hv => ?_
    obtain ⟨a, rfl⟩ := map_eq_ok hv
    exact hs a
  unfold Evaluator.jsonTarget
  split <;> rename_i ht
  · exact conv (mild_intOfJson target) fun n => by simp [Shape, ht]
  · exact conv (mild_floatOfJson target) fun n => by simp [Shape, ht]
  · exact conv (mild_boolOfJson target) fun n => by simp [Shape, ht]
  · exact conv (mild_stringOfJson target) fun n => by simp [Shape, ht]
  · exact conv (mild_stringOfJson target) fun n => by simp [Shape, ht]
  · exact conv (mild_itemsOfJson mild_intOfJson target) fun n => by simp [Shape, ht]
  · exact conv (mild_itemsOfJson mild_floatOfJson target) fun n => by simp [Shape, ht]
  · exact conv (mild_itemsOfJson mild_boolOfJson target) fun n => by simp [Shape, ht]
  · exact conv (mild_itemsOfJson mild_stringOfJson target) fun n => by simp [Shape, ht]
  · exact conv (mild_itemsOfJson mild_stringOfJson target) fun n => by simp [Shape, ht]
  · split
    · exact jsonOfText hn ht _
    · exact hn.finish _ (by simp [Shape, ht])
  · have hcontainer : Linked L (Same (Q spec))
        (do e.finish spec (← b.json (← Run.lift spec.template) target))
        (do e'.finish spec (← b'.json (← Run.lift spec.template) target)) := by
      refine bind (lift (mild_template spec) fun _ hc => Spec.template_eq_ok hc) fun c _ hc => ?_
      obtain ⟨rfl, hc⟩ := hc
      exact inner hn ht hc ((h c (by simp [hc])).json target)
    split
    · exact embedded hn ht h _
    · exact hcontainer
    · exact hcontainer
    · exact throw rfl
  · split
    · exact each hn ht fun c hc i _ => (h c hc).json i
    · exact throw rfl
  · exact record hn ht fun c hc => (h c hc).json target
  · exact unsupported .json

theorem jsonNode (hL : L.Fits) (hn : L.Node Q e e' spec) (h : ∀ c ∈ spec.children, L.Level Q b b' c) (j : Json) :
    Linked L (Same (Q spec)) (e.jsonNode b spec j) (e'.jsonNode b' spec j) := by
  unfold Evaluator.jsonNode
  split
  · exact patternNode hL hn h _ _ j.render .json
  · exact jsonTarget hn h j
  · refine bind (hL.path _) fun path _ hp => ?_
    subst hp
    refine bind (lift (P := fun _ => True) (mild_walk path [] j) fun _ _ => trivial) fun target _ ht => ?_
    exact ht.1 ▸ jsonTarget hn h target

/-! ## Markup -/

end Linked

theorem looks_of_mild {f : Markup.Document → Except ExtractError α} (h : ∀ d, Mild (f d)) : Looks f :=
  fun d e hd he => by rw [h d e hd] at he; cases he

theorem Looks.map {γ : Type} {f : Markup.Document → Except ExtractError α} (h : Looks f) (g : α → γ) :
    Looks fun d => (f d).map g := by
  intro d e hd he
  cases hf : f d with
  | ok a => simp only [hf] at hd; cases hd
  | error e' =>
    simp only [hf] at hd
    cases hd
    exact h d e hf he

theorem looks_outer (i : Nat) : Looks fun d => d.outer i := by
  intro d e hd he
  simp only [Markup.Document.outer] at hd
  split at hd
  · cases hd
  · rename_i hr
    cases hd
    split at hr
    · cases hr
    · exact ⟨rfl, hr⟩

theorem looks_inner (i : Nat) : Looks fun d => d.inner i := by
  intro d e hd he
  simp only [Markup.Document.inner] at hd
  split at hd
  · cases hd
  · exact looks_outer i d e hd he

theorem looks_read (m : Css.Mode) (i : Nat) : Looks fun d => m.read d i := by
  cases m with
  | text => exact looks_of_mild fun d => mild_ok _
  | attr name => exact looks_of_mild fun d => mild_ok _
  | inner => exact (looks_inner i).map some
  | outer => exact (looks_outer i).map some

theorem looks_readEach (m : Css.Mode) : ∀ nodes, Looks fun d => m.readEach d nodes
  | [] => looks_of_mild fun _ => mild_ok []
  | i :: is => by
    intro d e hd he
    simp only [Css.Mode.readEach] at hd
    split at hd
    · rename_i e' hr
      cases hd
      exact looks_read m i d e hr he
    · exact (looks_readEach m is).map _ d e hd he

theorem looks_readAll (m : Css.Mode) (nodes : List Nat) : Looks fun d => m.readAll d nodes := by
  cases m with
  | attr name => exact looks_of_mild fun d => mild_ok _
  | text => exact (looks_readEach .text nodes).map _
  | inner => exact (looks_readEach .inner nodes).map _
  | outer => exact (looks_readEach .outer nodes).map _

/-- The rule of one node on nodes of the document; `target` is what it does with the nodes that it works on. -/
def Evaluator.nodeWith (e : Evaluator σ) (b : Below σ) (spec : Spec) (context : List Nat)
    (target : List Nat → Css.Mode → String → Run σ Value) : Run σ Value :=
  match spec.selector with
  | .pattern engine pattern => do
    let text ← Run.look fun d => match context with
      | i :: _ => d.inner i
      | [] => .ok ""
    e.patternNode b spec engine pattern text .html
  | .current => if context.isEmpty then throw (.nodeNotFound (.selector "")) else target context .text ""
  | .native raw => do
    let chain ← Run.chain raw
    let nodes ← Run.select chain context
    if nodes.isEmpty then throw (.nodeNotFound (.selector raw)) else target nodes chain.mode raw

theorem htmlNode_eq (e : Evaluator σ) (b : Below σ) (inside : Spec → List Nat → Run σ Value) (spec : Spec)
    (context : List Nat) : e.htmlNode b inside spec context = e.nodeWith b spec context (e.htmlTarget b inside spec) :=
  rfl

/-- The rule of a node whose selector is a chain, in one step through the chain. -/
theorem nodeWith_native (e : Evaluator σ) (b : Below σ) (target : List Nat → Css.Mode → String → Run σ Value)
    {spec : Spec} {raw : String} (hsel : spec.selector = .native raw) (context : List Nat) :
    e.nodeWith b spec context target = Run.navigate raw context >>= fun r =>
      if r.2.isEmpty then throw (.nodeNotFound (.selector raw)) else target r.2 r.1 raw := by
  unfold Evaluator.nodeWith Run.navigate
  rw [hsel]
  simp only [bind_assoc, pure_bind]

theorem htmlNode_native (e : Evaluator σ) (b : Below σ) (inside : Spec → List Nat → Run σ Value) {spec : Spec}
    {raw : String} (hsel : spec.selector = .native raw) (context : List Nat) :
    e.htmlNode b inside spec context = Run.navigate raw context >>= fun r =>
      if r.2.isEmpty then throw (.nodeNotFound (.selector raw)) else e.htmlTarget b inside spec r.2 r.1 raw :=
  nodeWith_native e b _ hsel context

namespace Linked

theorem content (hL : L.Fits) (nodes : List Nat) (mode : Css.Mode) (shown : String) :
    Linked L Eq (Evaluator.content nodes mode shown) (Evaluator.content nodes mode shown) := by
  refine look hL fun d e hd he => ?_
  split at hd
  · cases hd
  · cases hd
    cases he
  · rename_i e' hr
    cases hd
    exact looks_readAll mode nodes d e hr he

theorem contents (hL : L.Fits) (nodes : List Nat) (mode : Css.Mode) :
    Linked L Eq (Evaluator.contents nodes mode) (Evaluator.contents nodes mode) := look hL (looks_readEach mode nodes)

theorem firstAttr (hL : L.Fits) (nodes : List Nat) (name shown : String) :
    Linked L (Same fun v => ∃ s, v = .string s) (Evaluator.firstAttr nodes name shown)
      (Evaluator.firstAttr nodes name shown) := by
  intro s t hs
  dsimp only [Evaluator.firstAttr, Run.look, Run.of]
  rw [← hL.document hs]
  split
  · exact .ok ⟨rfl, _, rfl⟩ hs
  · exact .error rfl hs

variable {inside : Spec → List Nat → Run σ Value} {inside' : Spec → List Nat → Run τ Value}

/-- **One node of a spec on nodes**: its children are evaluated on these nodes, or on one of them. -/
theorem htmlTarget (hL : L.Fits) (hn : L.Node Q e e' spec) (h : ∀ c ∈ spec.children, L.Level Q b b' c)
    (nodes : List Nat)
    (hin : ∀ c ∈ spec.children, ∀ context, (context = nodes ∨ ∃ i ∈ nodes, context = [i]) →
      Linked L (Same (Q c)) (inside c context) (inside' c context)) (mode : Css.Mode) (shown : String) :
    Linked L (Same (Q spec)) (e.htmlTarget b inside spec nodes mode shown)
      (e'.htmlTarget b' inside' spec nodes mode shown) := by
  have htext := fun mode => content hL nodes mode shown
  have hlist := fun mode => contents hL nodes mode
  have attr : (∀ s, Shape Q spec (.string s)) → ∀ name,
      Linked L (Same (Q spec)) (do e.finish spec (← Evaluator.firstAttr nodes name shown))
        (do e'.finish spec (← Evaluator.firstAttr nodes name shown)) := by
    intro hs name
    refine bind (firstAttr hL nodes name shown) fun v _ hv => ?_
    obtain ⟨rfl, t, rfl⟩ := hv
    exact hn.finish _ (hs t)
  unfold Evaluator.htmlTarget
  split <;> rename_i ht
  · exact bind (htext mode) fun t _ heq => heq ▸ scalar hn (mild_ok t) (by simp [ht])
  · exact bind (htext mode) fun t _ heq => heq ▸ scalar hn (mild_ok t) (by simp [ht])
  · exact bind (htext mode) fun t _ heq => heq ▸ scalar hn (mild_ok t) (by simp [ht])
  · exact bind (htext mode) fun t _ heq => heq ▸ scalar hn (mild_ok t) (by simp [ht])
  · exact bind (htext mode) fun t _ heq => heq ▸ scalar hn (mild_ok t) (by simp [ht])
  · exact bind (hlist mode) fun ts _ heq => heq ▸ list hn ts (by simp [ht])
  · exact bind (hlist mode) fun ts _ heq => heq ▸ list hn ts (by simp [ht])
  · exact bind (hlist mode) fun ts _ heq => heq ▸ list hn ts (by simp [ht])
  · exact bind (hlist mode) fun ts _ heq => heq ▸ list hn ts (by simp [ht])
  · exact bind (hlist mode) fun ts _ heq => heq ▸ list hn ts (by simp [ht])
  · exact bind (htext .inner) fun t _ heq => heq ▸ hn.finish _ (by simp [Shape, ht])
  · exact bind (htext .outer) fun t _ heq => heq ▸ hn.finish _ (by simp [Shape, ht])
  · exact attr (fun s => by simp [Shape, ht]) _
  · exact attr (fun s => by simp [Shape, ht]) _
  · exact attr (fun s => by simp [Shape, ht]) _
  · exact attr (fun s => by simp [Shape, ht]) _
  · exact bind (hlist _) fun ts _ heq => heq ▸ hn.finish _ (by simp [Shape, ht])
  · exact bind (hlist _) fun ts _ heq => heq ▸ hn.finish _ (by simp [Shape, ht])
  · exact bind (htext mode) fun t _ heq => heq ▸ embedded hn ht h t
  · exact bind (htext mode) fun t _ heq => heq ▸ jsonOfText hn ht t
  · exact each hn ht fun c hc i hi => hin c hc [i] (.inr ⟨i, hi, rfl⟩)
  · exact record hn ht fun c hc => hin c hc nodes (.inl rfl)
  · exact unsupported .html

/-- **What a node works on**: the rule of the node goes on in the same way where what it does with the nodes does.  `N`
holds of what its chain leads to, and of its context. -/
theorem nodeWith (hL : L.Fits) (hn : L.Node Q e e' spec) (h : ∀ c ∈ spec.children, L.Level Q b b' c)
    {N : List Nat → Prop} {context : List Nat} (hcontext : N context)
    (hnavigate : ∀ raw, spec.selector = .native raw →
      Linked L (Same fun r : Css.Mode × List Nat => N r.2) (Run.navigate raw context) (Run.navigate raw context))
    {target : List Nat → Css.Mode → String → Run σ Value} {target' : List Nat → Css.Mode → String → Run τ Value}
    (htarget : ∀ nodes mode shown, nodes ≠ [] → N nodes →
      Linked L (Same (Q spec)) (target nodes mode shown) (target' nodes mode shown)) :
    Linked L (Same (Q spec)) (e.nodeWith b spec context target) (e'.nodeWith b' spec context target') := by
  cases hsel : spec.selector with
  | pattern engine pattern =>
    unfold Evaluator.nodeWith
    rw [hsel]
    refine bind (look hL fun d e hd he => ?_) fun t _ heq => heq ▸ patternNode hL hn h engine pattern t .html
    cases context with
    | nil => cases hd
    | cons i is => exact looks_inner i d e hd he
  | current =>
    unfold Evaluator.nodeWith
    rw [hsel]
    simp only
    split
    · exact throw rfl
    · next hne => exact htarget context .text "" (fun hnil => hne (List.isEmpty_iff.2 hnil)) hcontext
  | native raw =>
    rw [nodeWith_native e b target hsel, nodeWith_native e' b' target' hsel]
    refine bind (hnavigate raw hsel) fun r _ hr => ?_
    obtain ⟨rfl, hr⟩ := hr
    split
    · exact throw rfl
    · next hne => exact htarget r.2 r.1 raw (fun hnil => hne (List.isEmpty_iff.2 hnil)) hr

theorem htmlNode (hL : L.Fits) (hn : L.Node Q e e' spec) (h : ∀ c ∈ spec.children, L.Level Q b b' c)
    (hin : ∀ c ∈ spec.children, ∀ context, Linked L (Same (Q c)) (inside c context) (inside' c context))
    (context : List Nat) :
    Linked L (Same (Q spec)) (e.htmlNode b inside spec context) (e'.htmlNode b' inside' spec context) := by
  rw [htmlNode_eq, htmlNode_eq]
  refine nodeWith hL hn h (N := fun _ => True) trivial (fun raw hsel => ?_) fun nodes mode shown _ _ => ?_
  · exact (hn.navigate raw context hsel).mono fun _ _ heq => ⟨heq, trivial⟩
  · exact htmlTarget hL hn h nodes (fun c hc context _ => hin c hc context) mode shown

end Linked

end Harvest.Extract
