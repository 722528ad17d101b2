import Harvest.Proofs.Extract.Cache
import Mathlib.Logic.ExistsUnique
/-!
# One evaluator for many evaluations

An evaluator takes what it has read along from one evaluation to the next.  Each entry is under a key that denotes one
text, and is what that text reads as (`Cache.Exact`); every evaluation keeps this, whatever its outcome, so no client can
tell an evaluator from a fresh one (`replies_fresh`).
-/
namespace Harvest.Extract

variable {σ : Type} {α : Type}

/-- **Every entry is what its key denotes**, which for patterns is one engine with one pattern. -/
structure Cache.Exact (c : Cache) : Prop extends c.Faithful where
  denotes : ∀ key r, c.patterns.find? key = some r →
    ∃! d : Pattern.Engine × String, key = patternKey d.1 d.2

theorem Cache.exact_empty : Cache.Exact {} where
  toFaithful := faithful_empty
  denotes _ _ h := nomatch h

/-! ## What an evaluation keeps of its cache -/

/-- A property of caches that each kind of new entry keeps. -/
structure Cache.Kept (K : Cache → Prop) : Prop where
  chain : ∀ c raw a, K c → Css.Chain.parse raw = .ok a → K { c with chains := c.chains.insert raw a }
  path : ∀ c raw a, K c → Json.Path.parse raw = .ok a → K { c with paths := c.paths.insert raw a }
  pattern : ∀ c engine p a, K c → compilePattern engine p = .ok a →
    K { c with patterns := c.patterns.insert (patternKey engine p) a }
  calls : ∀ c expr, K c → K { c with filters := c.filters.insert expr (Filter.Call.parse expr) }

/-- A run beside itself, with a cache of which `K` holds. -/
def Link.kept (σ : Type) (K : Cache → Prop) : Link σ σ where
  state s t := s = t ∧ K s.cache
  fatal _ s _ _ := K s.cache
  lost _ := False

section Kept

variable {K : Cache → Prop}

theorem Linked.kept {x : Run σ α} (h : ∀ s : State σ, K s.cache → K (x s).2.cache) : Linked (.kept σ K) Eq x x := by
  rintro s t ⟨rfl, hs⟩
  have hx := h s hs
  generalize x s = p at hx ⊢
  obtain ⟨r, s'⟩ := p
  cases r with
  | ok a => exact .ok rfl ⟨rfl, hx⟩
  | error e =>
    cases he : e.isFatal with
    | false => exact .error he ⟨rfl, hx⟩
    | true => exact .fatal he he hx

theorem kept_once {entries : Cache → Fields α} {keep : Cache → Fields α → Cache} {key : String}
    {read : Unit → Except ExtractError α}
    (h : ∀ c a, K c → read () = .ok a → K (keep c ((entries c).insert key a))) :
    Linked (.kept σ K) Eq (Run.once entries keep key read) (Run.once entries keep key read) := by
  refine .kept fun s hs => ?_
  dsimp only [Run.once, Run.of]
  split
  · exact hs
  · split
    · next a ha => exact h s.cache a hs ha
    · exact hs

theorem kept_fits (hK : Cache.Kept K) : (Link.kept σ K).Fits where
  document hs := hs.1 ▸ rfl
  rootless hs _ := hs.2
  panic hs := hs.2
  path raw := kept_once fun c a => hK.path c raw a
  pattern engine text := kept_once fun c a => hK.pattern c engine text a

theorem kept_navigate (hK : Cache.Kept K) (raw : String) (context : List Nat) :
    Linked (.kept σ K) Eq (Run.navigate raw context) (Run.navigate raw context) := by
  refine .bind (kept_once fun c a => hK.chain c raw a) fun c _ hc => ?_
  subst hc
  exact .bind (.kept fun s hs => hs) fun nodes _ hn => hn ▸ .pure rfl

theorem kept_filtered (r : Registry σ) (calls : List Filter.Call) (v : Value) :
    Linked (.kept σ K) Eq (Run.filtered r calls v) (Run.filtered r calls v) := by
  refine .kept fun s hs => ?_
  rw [Run.filtered_apply]
  split <;> exact hs

theorem kept_node (hK : Cache.Kept K) (e : Evaluator σ) (spec : Spec) :
    (Link.kept σ K).Node (fun _ _ => True) e e spec where
  finish v _ := by
    refine Linked.mono (A := Eq) (fun _ _ h => ⟨h, trivial⟩) ?_
    unfold Evaluator.finish
    split
    · exact .pure rfl
    · refine .bind (kept_once fun c a hc ha => ?_) fun calls _ hcalls => ?_
      · cases ha
        exact hK.calls c spec.filter hc
      · subst hcalls
        exact kept_filtered e.registry calls v
  navigate raw context _ := kept_navigate hK raw context

/-- **What each new entry keeps, a whole evaluation keeps**, whether it fails or not. -/
theorem evaluate_keeps (hK : Cache.Kept K) (e : Evaluator σ) (spec : Spec) (page : Page) {cache : Cache}
    (hcache : K cache) (outside : σ) : K (e.evaluate spec page cache outside).2.2.1 := by
  have hagree := Link.Agrees.run (k := 0) (kept_fits hK) (P := fun _ => True) (fun spec _ => kept_node hK e spec)
    (fun spec => .zero fun s t hs => hs.2) (e.maxDepth + 1) spec (.of_forall (fun _ => trivial) spec)
  have h := hagree.onPage page ⟨page.document, cache, outside⟩ ⟨page.document, cache, outside⟩ ⟨rfl, hcache⟩
  rw [evaluate_eq]
  generalize e.onPage spec page _ = p at h ⊢
  cases h with
  | ok _ hs => exact hs.2
  | error _ hs => exact hs.2
  | fatal _ _ hs => exact hs
  | lost _ _ hl => exact hl.elim

end Kept

theorem patternKey_denotes (engine : Pattern.Engine) (p : String) :
    ∃! d : Pattern.Engine × String, patternKey engine p = patternKey d.1 d.2 := by
  refine ⟨(engine, p), rfl, fun d hd => ?_⟩
  obtain ⟨he, hp⟩ := patternKey_inj hd
  exact Prod.ext he.symm hp.symm

theorem kept_denotes : Cache.Kept fun c => ∀ key r, c.patterns.find? key = some r →
    ∃! d : Pattern.Engine × String, key = patternKey d.1 d.2 where
  chain _ _ _ hc _ := hc
  path _ _ _ hc _ := hc
  calls _ _ hc := hc
  pattern c engine p a hc _ key r hr := by
    rcases find?_of_insert hr with ⟨rfl, -⟩ | hr
    · exact patternKey_denotes engine p
    · exact hc key r hr

/-- **An evaluation keeps its cache exact**, whether it fails or not. -/
theorem evaluate_exact (e : Evaluator σ) (spec : Spec) (page : Page) {cache : Cache} (hcache : cache.Exact)
    (outside : σ) : (e.evaluate spec page cache outside).2.2.1.Exact where
  toFaithful := evaluate_faithful e spec page hcache.toFaithful outside
  denotes := evaluate_keeps kept_denotes e spec page hcache.denotes outside

/-! ## What a client sees -/

/-- What an evaluation gives back: its outcome, the page as it then is, and the state of the filters. -/
abbrev Reply (σ : Type) := Except ExtractError Value × Page × σ

/-- An evaluation without what it has read. -/
def Evaluator.reply (e : Evaluator σ) (spec : Spec) (page : Page) (cache : Cache) (outside : σ) : Reply σ :=
  match e.evaluate spec page cache outside with
  | (r, page, _, outside) => (r, page, outside)

/-- **What has been read does not show**: two faithful caches make no difference. -/
theorem reply_eq (e : Evaluator σ) (spec : Spec) (page : Page) {cache cache' : Cache} (hcache : cache.Faithful)
    (hcache' : cache'.Faithful) (outside : σ) :
    e.reply spec page cache outside = e.reply spec page cache' outside := by
  have hagree := blind_plain (R := fun e _ f => e = f) (rfl : e.registry = e.registry) (fun _ => rfl) (fun _ _ => rfl)
    (fun _ => rfl) (e.maxDepth + 1) spec
  have h := hagree.onPage page ⟨page.document, cache, outside⟩ ⟨page.document, cache', outside⟩
    ⟨rfl, rfl, hcache, hcache', trivial⟩
  unfold Evaluator.reply
  rw [evaluate_eq, evaluate_eq]
  generalize e.onPage spec page _ = p at h ⊢
  generalize e.onPage spec page _ = q at h ⊢
  cases h with
  | ok ha hs => simp only [ha.1, hs.document, hs.outside]
  | error _ hs => simp only [hs.document, hs.outside]
  | fatal _ _ hs => simp only [hs.1, hs.2.document, hs.2.outside]
  | lost _ _ hl => exact hl.elim

/-- Who has pages evaluated one after the other: with each reply in hand, the next spec, the page to evaluate it on and
the state of the filters. -/
abbrev Client (σ : Type) := List (Reply σ) → Spec × Page × σ

/-- The replies to the first so many questions of a client, and what has been read by then.  Of what has been read
before, `start` says what an evaluation starts with. -/
def Evaluator.serve (e : Evaluator σ) (start : Cache → Cache) (client : Client σ) : Nat → List (Reply σ) × Cache
  | 0 => ([], {})
  | n + 1 =>
    match e.serve start client n with
    | (replies, cache) =>
      match client replies with
      | (spec, page, outside) =>
        (replies ++ [e.reply spec page (start cache) outside], (e.evaluate spec page (start cache) outside).2.2.1)

theorem serve_exact (e : Evaluator σ) (client : Client σ) : ∀ n, (e.serve id client n).2.Exact
  | 0 => Cache.exact_empty
  | n + 1 => evaluate_exact e _ _ (serve_exact e client n) _

/-- **No client can tell an evaluator from a fresh one for each evaluation.**  Whatever it asks, on pages of any kinds
and also on those that it got back, the replies are the same.  By then every selector chain, path, pattern and filter
expression that has been read is what its key denotes; and an evaluation keeps this, also where it fails. -/
theorem replies_fresh (e : Evaluator σ) :
    (∀ (client : Client σ) (n : Nat), (e.serve id client n).1 = (e.serve (fun _ => {}) client n).1
        ∧ (e.serve id client n).2.Exact)
      ∧ ∀ (spec : Spec) (page : Page) (cache : Cache) (outside : σ), cache.Exact →
        (e.evaluate spec page cache outside).2.2.1.Exact := by
  refine ⟨fun client n => ⟨?_, serve_exact e client n⟩, fun spec page cache outside hcache =>
    evaluate_exact e spec page hcache outside⟩
  induction n with
  | zero => rfl
  | succ n ih =>
    have hreply := reply_eq e (client (e.serve id client n).1).1 (client (e.serve id client n).1).2.1
      (serve_exact e client n).toFaithful Cache.faithful_empty (client (e.serve id client n).1).2.2
    show _ ++ [_] = _ ++ [_]
    rw [← ih]
    exact congrArg (fun r => (e.serve id client n).1 ++ [r]) hreply

end Harvest.Extract
