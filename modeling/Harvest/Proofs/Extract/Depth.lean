import Harvest.Proofs.Extract.View
/-!
# The limit of depth

An evaluation ends for being too deep exactly when it enters a node below its limit: `trace` evaluates as `evaluate`
does and notes the depth of each node it enters.  So a tree that is no higher than the limit is never too deep, and a
higher limit changes nothing about an evaluation that has come to another end.
-/
namespace Harvest

mutual
/-- How many levels of nodes are below the root of a tree. -/
def Spec.height : Spec → Nat
  | ⟨_, _, _, _, children⟩ => Spec.heightAll children

/-- How many levels there are in several trees, each with its root. -/
def Spec.heightAll : List Spec → Nat
  | [] => 0
  | c :: cs => max (c.height + 1) (Spec.heightAll cs)
end

theorem Spec.height_lt_heightAll {c : Spec} : ∀ {cs : List Spec}, c ∈ cs → c.height < Spec.heightAll cs
  | d :: ds, h => by
    unfold Spec.heightAll
    rcases List.mem_cons.1 h with rfl | h
    · omega
    · have := height_lt_heightAll h
      omega

theorem Spec.height_eq (s : Spec) : s.height = Spec.heightAll s.children := by
  cases s
  rfl

theorem Spec.height_lt {s c : Spec} (h : c ∈ s.children) : c.height < s.height := by
  rw [height_eq s]
  exact Spec.height_lt_heightAll h

namespace Extract

variable {σ : Type}

/-! ## Entered depths -/

/-- A filter that leaves alone what is noted beside its state. -/
def tracedFilter (f : Filter σ) : Filter (σ × List Nat) :=
  { f with run := fun v params o =>
      match f.run v params o.1 with
      | (r, t) => (r, (t, o.2)) }

/-- A registry whose filters leave alone what is noted. -/
def tracedRegistry (r : Registry σ) : Registry (σ × List Nat) := ⟨r.entries.map fun p => (p.1, tracedFilter p.2)⟩

/-- Notes that a node at a depth is entered. -/
def enter (depth : Nat) : Run (σ × List Nat) Unit :=
  Run.of fun s => (.ok (), { s with outside := (s.outside.1, depth :: s.outside.2) })

namespace Evaluator

/-- The evaluation of JSON values and of texts at a depth where `levels` levels are left, with notes of each node. -/
def tracedBelow (e : Evaluator (σ × List Nat)) : Nat → Nat → Below (σ × List Nat)
  | 0, depth =>
    ⟨fun _ _ => do enter depth; throw (.depthExceeded e.maxDepth),
      fun _ _ => do enter depth; throw (.depthExceeded e.maxDepth)⟩
  | levels + 1, depth =>
    ⟨fun spec j => do enter depth; e.jsonNode (e.tracedBelow levels (depth + 1)) spec j,
      fun spec t => do enter depth; e.textNode (e.tracedBelow levels (depth + 1)) spec t⟩

/-- The evaluation of nodes of the document at a depth where `levels` levels are left, with notes of each node. -/
def tracedInside (e : Evaluator (σ × List Nat)) : Nat → Nat → Spec → List Nat → Run (σ × List Nat) Value
  | 0, depth, _, _ => do enter depth; throw (.depthExceeded e.maxDepth)
  | levels + 1, depth, spec, context => do
    enter depth
    e.htmlNode (e.tracedBelow levels (depth + 1)) (e.tracedInside levels (depth + 1)) spec context

def traced (e : Evaluator σ) : Evaluator (σ × List Nat) := ⟨tracedRegistry e.registry, e.maxDepth⟩

/-- The run that evaluates a spec on a page, with notes. -/
def traceOnPage (e : Evaluator σ) (spec : Spec) : Page → Run (σ × List Nat) Value
  | .html _ => e.traced.tracedInside (e.maxDepth + 1) 0 spec [0]
  | .json j => (e.traced.tracedBelow (e.maxDepth + 1) 0).json spec j
  | .text t => (e.traced.tracedBelow (e.maxDepth + 1) 0).text spec t

/-- Evaluates a spec on a page, and says at which depths it has entered nodes. -/
def trace (e : Evaluator σ) (spec : Spec) (page : Page) (cache : Cache) (outside : σ) :
    (Except ExtractError Value × Page × Cache × σ) × List Nat :=
  match e.traceOnPage spec page ⟨page.document, cache, (outside, [])⟩ with
  | (r, s) => ((r, page.withDocument s.document, s.cache, s.outside.1), s.outside.2)

end Evaluator

theorem find?_tracedRegistry (r : Registry σ) (name : String) :
    (tracedRegistry r).find? name = (r.find? name).map tracedFilter := by
  unfold tracedRegistry Registry.find?
  induction r.entries with
  | nil => rfl
  | cons p ps ih =>
    rw [List.map_cons]
    unfold Fields.find?
    split
    · rfl
    · exact ih

theorem viewed_traced (r : Registry σ) (I : List Nat → Prop) :
    Viewed (τ := σ) Prod.fst (fun o => I o.2) (tracedRegistry r) r where
  apply name v params o := by
    unfold Registry.apply
    rw [find?_tracedRegistry]
    cases r.find? name with
    | none => rfl
    | some f => rfl
  keeps name v params o h := by
    unfold Registry.apply
    rw [find?_tracedRegistry]
    cases r.find? name with
    | none => exact h
    | some f => exact h

/-! ## The limit is exact -/

/-- The run without notes beside the run with notes: while it goes on all depths are within the limit, and where it
ends for good it is too deep if a depth is not. -/
def traceLink (σ : Type) (m : Nat) : Link (σ × List Nat) σ :=
  .through Prod.fst (fun o => ∀ d ∈ o.2, d ≤ m)
    (fun f o => ∀ n, f = .depthExceeded n ↔ n = m ∧ ∃ d ∈ o.2, m < d) fun _ => False

/-- What ends with all depths within the limit does not end for being too deep. -/
theorem noted_other {α : Type} {m : Nat} {ds : List Nat} {r : α} {deep : Nat → α} (h : ∀ d ∈ ds, d ≤ m)
    (hr : ∀ n, r ≠ deep n) (n : Nat) : r = deep n ↔ n = m ∧ ∃ d ∈ ds, m < d := by
  constructor
  · intro hn
    exact absurd hn (hr n)
  · rintro ⟨-, d, hd, hlt⟩
    exact absurd (h d hd) (by omega)

theorem traceLink_panic (m : Nat) (err : ExtractError) (herr : err.isPanic = true) (ds : List Nat)
    (h : ∀ d ∈ ds, d ≤ m) (n : Nat) : err = .depthExceeded n ↔ n = m ∧ ∃ d ∈ ds, m < d := by
  refine noted_other h (fun _ h => ?_) n
  subst h
  cases herr

theorem traceLink_fits (m : Nat) : (traceLink σ m).Fits :=
  through_fits fun err herr o h => traceLink_panic m err herr o.2 h

theorem traceLink_node (e : Evaluator σ) (spec : Spec) :
    (traceLink σ e.maxDepth).Node (fun _ _ => True) e.traced e spec :=
  through_node (viewed_traced e.registry fun ds => ∀ d ∈ ds, d ≤ e.maxDepth)
    (fun err herr o h => traceLink_panic e.maxDepth err herr o.2 h) spec

/-- A node within the limit is noted, and the runs go on. -/
theorem linked_enter {m depth : Nat} (hd : depth ≤ m) {A : Value → Value → Prop} {x : Run (σ × List Nat) Value}
    {y : Run σ Value} (h : Linked (traceLink σ m) A x y) : Linked (traceLink σ m) A (do enter depth; x) y := by
  intro s t ⟨hs, hI⟩
  refine h { s with outside := (s.outside.1, depth :: s.outside.2) } t ⟨⟨hs.document, hs.cache, hs.outside⟩, ?_⟩
  intro d hd'
  rcases List.mem_cons.1 hd' with rfl | hd'
  · exact hd
  · exact hI d hd'

/-- A node below the limit is noted, and both runs end. -/
theorem linked_tooDeep {m depth : Nat} (hd : m < depth) {A : Value → Value → Prop} :
    Linked (traceLink σ m) A (do enter depth; throw (.depthExceeded m)) (throw (.depthExceeded m)) := by
  intro s t ⟨hs, hI⟩
  refine .fatal rfl rfl ⟨rfl, ⟨hs.document, hs.cache, hs.outside⟩, fun n => ?_⟩
  constructor
  · intro h
    cases h
    exact ⟨rfl, depth, List.mem_cons_self, hd⟩
  · rintro ⟨rfl, -⟩
    rfl

/-- **With and without notes an evaluation is the same**, at each depth with the levels that it leaves. -/
theorem traced_agrees (e : Evaluator σ) : ∀ (levels depth : Nat) (spec : Spec), levels + depth = e.maxDepth + 1 →
    (traceLink σ e.maxDepth).Level (fun _ _ => True) (e.traced.tracedBelow levels depth) (e.below levels) spec ∧
      ∀ context, Linked (traceLink σ e.maxDepth) (Same fun _ => True) (e.traced.tracedInside levels depth spec context)
        (e.inside levels spec context)
  | 0, depth, spec, h => by
    have hdeep : e.maxDepth < depth := by omega
    exact ⟨⟨fun _ => linked_tooDeep hdeep, fun _ => linked_tooDeep hdeep⟩, fun _ => linked_tooDeep hdeep⟩
  | levels + 1, depth, spec, h => by
    have hd : depth ≤ e.maxDepth := by omega
    have hL := traceLink_fits (σ := σ) e.maxDepth
    have hn := traceLink_node e spec
    have hbelow := fun c (_ : c ∈ spec.children) => traced_agrees e levels (depth + 1) c (by omega)
    refine ⟨⟨fun j => linked_enter hd ?_, fun t => linked_enter hd ?_⟩, fun context => linked_enter hd ?_⟩
    · exact Linked.jsonNode hL hn (fun c hc => (hbelow c hc).1) j
    · exact Linked.textNode hL hn (fun c hc => (hbelow c hc).1) t
    · exact Linked.htmlNode hL hn (fun c hc => (hbelow c hc).1) (fun c hc => (hbelow c hc).2) context

theorem trace_onPage (e : Evaluator σ) (spec : Spec) (page : Page) :
    Linked (traceLink σ e.maxDepth) (Same fun _ => True) (e.traceOnPage spec page) (e.onPage spec page) := by
  have h := traced_agrees e (e.maxDepth + 1) 0 spec rfl
  cases page with
  | html d => exact h.2 [0]
  | json j => exact h.1.json j
  | text t => exact h.1.text t

theorem trace_eq (e : Evaluator σ) (spec : Spec) (page : Page) (cache : Cache) (outside : σ) :
    (e.trace spec page cache outside).1 = e.evaluate spec page cache outside ∧
      ∀ n, (e.evaluate spec page cache outside).1 = .error (.depthExceeded n) ↔
        n = e.maxDepth ∧ ∃ d ∈ (e.trace spec page cache outside).2, e.maxDepth < d := by
  have h := trace_onPage e spec page ⟨page.document, cache, (outside, [])⟩ ⟨page.document, cache, outside⟩
    ⟨⟨rfl, rfl, rfl⟩, fun d hd => nomatch hd⟩
  rw [evaluate_eq]
  unfold Evaluator.trace
  generalize e.traceOnPage spec page _ = p at h ⊢
  generalize e.onPage spec page _ = q at h ⊢
  cases h with
  | ok ha hs =>
    obtain ⟨rfl, -⟩ := ha
    obtain ⟨⟨hd, hc, ho⟩, hI⟩ := hs
    exact ⟨by simp only [hd, hc, ho], noted_other hI fun n h => nomatch h⟩
  | error he hs =>
    obtain ⟨⟨hd, hc, ho⟩, hI⟩ := hs
    refine ⟨by simp only [hd, hc, ho], noted_other hI fun n h => ?_⟩
    cases h
    cases he
  | fatal he hf hs =>
    obtain ⟨rfl, ⟨hd, hc, ho⟩, hF⟩ := hs
    refine ⟨by simp only [hd, hc, ho], fun n => ?_⟩
    rw [← hF n, Except.error.injEq]
  | lost q he hl => exact hl.elim

/-! ## Trees that are no higher than the limit -/

/-- A run beside itself that never ends for being too deep. -/
def shallowLink (σ : Type) : Link σ σ :=
  .through id (fun _ => True) (fun e _ => ∀ n, e ≠ .depthExceeded n) fun _ => False

theorem shallow_agrees (e : Evaluator σ) : ∀ (n : Nat) (spec : Spec), spec.height < n →
    (shallowLink σ).Agrees (fun _ _ => True) e e n n spec
  | n + 1, spec, h => by
    have hpanic : ∀ err : ExtractError, err.isPanic = true → ∀ o : σ, True → ∀ n, err ≠ .depthExceeded n := by
      rintro err herr - - n rfl
      cases herr
    refine .step (through_fits hpanic) (through_node (viewed_self _) hpanic spec) fun c hc => shallow_agrees e n c ?_
    have := Spec.height_lt hc
    omega

theorem not_deep_of_height {e : Evaluator σ} {spec : Spec} (h : spec.height ≤ e.maxDepth) (page : Page) (cache : Cache)
    (outside : σ) (n : Nat) : (e.evaluate spec page cache outside).1 ≠ .error (.depthExceeded n) := by
  rw [evaluate_eq]
  have h := (shallow_agrees e (e.maxDepth + 1) spec (by omega)).onPage page ⟨page.document, cache, outside⟩
    ⟨page.document, cache, outside⟩ ⟨⟨rfl, rfl, rfl⟩, trivial⟩
  generalize e.onPage spec page _ = p at h ⊢
  intro hp
  obtain ⟨r, s⟩ := p
  cases hp
  cases h with
  | error he _ => cases he
  | fatal _ _ hF => exact hF.2.2 n rfl
  | lost _ _ hl => exact hl

/-! ## Higher limits -/

/-- Runs with two limits; where the first one is too deep nothing is said of the second one. -/
def higherLink (σ : Type) : Link σ σ :=
  .through id (fun _ => True) (fun _ _ => True) fun e => ∃ n, e = .depthExceeded n

theorem higher_agrees (e : Evaluator σ) (k n : Nat) (spec : Spec) :
    (higherLink σ).Agrees (fun _ _ => True) e { e with maxDepth := e.maxDepth + k } n (n + k) spec := by
  have hzero : ∀ spec, (higherLink σ).Agrees (fun _ _ => True) e { e with maxDepth := e.maxDepth + k } 0 k spec :=
    fun spec => ⟨⟨fun _ _ _ _ => .lost _ rfl ⟨_, rfl⟩, fun _ _ _ _ => .lost _ rfl ⟨_, rfl⟩⟩,
      fun _ _ _ _ => .lost _ rfl ⟨_, rfl⟩⟩
  have hnode : ∀ spec, (higherLink σ).Node (fun _ _ => True) e { e with maxDepth := e.maxDepth + k } spec := by
    intro spec
    refine through_node ?_ (fun _ _ _ _ => trivial) spec
    exact viewed_self e.registry
  exact .run (through_fits fun _ _ _ _ => trivial) (fun spec _ => hnode spec) hzero n spec
    (.of_forall (fun _ => trivial) spec)

theorem evaluate_of_higher {e : Evaluator σ} {m : Nat} (hm : e.maxDepth ≤ m) {spec : Spec} {page : Page} {cache : Cache}
    {outside : σ} (h : ∀ n, (e.evaluate spec page cache outside).1 ≠ .error (.depthExceeded n)) :
    Evaluator.evaluate { e with maxDepth := m } spec page cache outside = e.evaluate spec page cache outside := by
  obtain ⟨k, rfl⟩ := Nat.exists_eq_add_of_le hm
  have hagree := higher_agrees e k (e.maxDepth + 1) spec
  rw [Nat.add_right_comm] at hagree
  have hrun := hagree.onPage page ⟨page.document, cache, outside⟩ ⟨page.document, cache, outside⟩
    ⟨⟨rfl, rfl, rfl⟩, trivial⟩
  rw [evaluate_eq] at h
  rw [evaluate_eq, evaluate_eq]
  generalize e.onPage spec page _ = p at h hrun ⊢
  generalize Evaluator.onPage _ spec page _ = q at hrun ⊢
  cases hrun with
  | ok ha hs =>
    obtain ⟨rfl, -⟩ := ha
    obtain ⟨⟨hd, hc, ho⟩, -⟩ := hs
    simp only [hd, hc, ← ho, id]
  | error he hs =>
    obtain ⟨⟨hd, hc, ho⟩, -⟩ := hs
    simp only [hd, hc, ← ho, id]
  | fatal he hf hs =>
    obtain ⟨rfl, ⟨hd, hc, ho⟩, -⟩ := hs
    simp only [hd, hc, ← ho, id]
  | lost q he hl =>
    obtain ⟨n, rfl⟩ := hl
    exact absurd rfl (h n)

/-- **The limit of depth is exact**: no evaluation of a tree within the limit is too deep; one is too deep if and only
if it enters a node below the limit, and then it ends with that limit, whatever encloses the node; and an evaluation
that is not too deep is the same under every higher limit, with the page and all that it leaves behind. -/
theorem depth_limit_exact (e : Evaluator σ) (spec : Spec) (page : Page) (cache : Cache) (outside : σ) :
    (spec.height ≤ e.maxDepth → ∀ n, (e.evaluate spec page cache outside).1 ≠ .error (.depthExceeded n)) ∧
      ((e.trace spec page cache outside).1 = e.evaluate spec page cache outside ∧
        ∀ n, (e.evaluate spec page cache outside).1 = .error (.depthExceeded n) ↔
          n = e.maxDepth ∧ ∃ depth ∈ (e.trace spec page cache outside).2, e.maxDepth < depth) ∧
      ∀ m, e.maxDepth ≤ m → (∀ n, (e.evaluate spec page cache outside).1 ≠ .error (.depthExceeded n)) →
        Evaluator.evaluate { e with maxDepth := m } spec page cache outside = e.evaluate spec page cache outside :=
  ⟨fun h => not_deep_of_height h page cache outside, trace_eq e spec page cache outside,
    fun _ hm h => evaluate_of_higher hm h⟩

/-- Numbers in a text in a list in a record. -/
def boxed : Spec :=
  { tag := .map, children := [
    { name := "a", tag := .array, selector := .native "a", children := [
      { tag := .jsonParse, children := [{ tag := .ints }] }] }] }

/-- The page that numbers are taken from, as its text is in a list. -/
def box : Page := .json (.object [("a", .array [.string "[7]"])])

theorem depth_limit_exact_boxed :
    (∀ n, (Evaluator.evaluate ⟨Registry.empty, 3⟩ boxed box {} ()).1 ≠ .error (.depthExceeded n)) ∧
      (Evaluator.evaluate ⟨Registry.empty, 2⟩ boxed box {} ()).1 = .error (.depthExceeded 2) ∧
      (Evaluator.evaluate ⟨Registry.empty, 9⟩ boxed box {} ()).1 = .ok (.map [("a", .array [.ints [7]])]) := by
  have hshallow := (depth_limit_exact ⟨Registry.empty, 3⟩ boxed box {} ()).1 (by decide)
  have hhigher := (depth_limit_exact ⟨Registry.empty, 3⟩ boxed box {} ()).2.2 9 (by decide) hshallow
  have hdeep := (depth_limit_exact ⟨Registry.empty, 2⟩ boxed box {} ()).2.1.2 2
  refine ⟨hshallow, hdeep.2 ⟨rfl, 3, ?_, by decide⟩, ?_⟩
  · decide
  · rw [hhigher]
    rfl

end Extract

end Harvest
