import Harvest.Proofs.Extract.Cache
import Harvest.Proofs.Extract.Composite
import Harvest.Proofs.Filter.Verdict
/-!
# Filters behind what a node takes

What a node yields is what it takes from its site without its filters, and then what these make of it (`at_bare`).  So
two nodes with the same validators are accepted or refused alike where the one takes a list of strings and the other
the list of the values that are these strings (`lists_validated_alike`).
-/
namespace Harvest

/-- The node without its filters. -/
def Spec.bare (spec : Spec) : Spec := { spec with filter := "" }

namespace Extract

variable {σ : Type} {e : Evaluator σ} {b : Below σ} {spec : Spec}

theorem finish_bare (v : Value) : e.finish spec.bare v = pure v := finish_eq rfl v

theorem finishWith_bare (r : Except ExtractError Value) :
    e.finishWith spec r = e.finishWith spec.bare r >>= e.finish spec := by
  unfold Evaluator.finishWith
  simp only [finish_bare, bind_pure]

theorem record_bare (child : Spec → Run σ Value) :
    e.record spec child = e.record spec.bare child >>= e.finish spec := by
  unfold Evaluator.record
  have hnamed : spec.bare.namedChildren = spec.namedChildren := rfl
  rw [hnamed]
  split
  · rfl
  · simp only [finish_bare, bind_assoc, pure_bind]

theorem each_bare {ι : Type} (elements : List ι) (item : Spec → ι → Run σ Value) :
    e.each spec elements item = e.each spec.bare elements item >>= e.finish spec := by
  unfold Evaluator.each
  have htemplate : spec.bare.template = spec.template := rfl
  simp only [htemplate, finish_bare, bind_assoc, pure_bind]

theorem embedded_bare (text : String) : e.embedded b spec text = e.embedded b spec.bare text >>= e.finish spec := by
  unfold Evaluator.embedded
  have htemplate : spec.bare.template = spec.template := rfl
  simp only [htemplate, finish_bare, bind_assoc, pure_bind]

theorem jsonOfText_bare (text : String) : e.jsonOfText spec text = e.jsonOfText spec.bare text >>= e.finish spec :=
  finishWith_bare _

theorem unsupported_bare (kind : PageKind) :
    Evaluator.unsupported spec kind = Evaluator.unsupported spec.bare kind >>= e.finish spec := rfl

theorem patternNode_bare (engine : Pattern.Engine) (pattern text : String) (kind : PageKind) :
    e.patternNode b spec engine pattern text kind =
      e.patternNode b spec.bare engine pattern text kind >>= e.finish spec := by
  unfold Evaluator.patternNode
  have htag : spec.bare.tag = spec.tag := rfl
  rw [htag, bind_assoc]
  refine bind_congr fun r => ?_
  rw [bind_assoc]
  refine bind_congr fun groups => ?_
  cases spec.tag <;>
    simp only [bind_assoc, ← finishWith_bare, ← embedded_bare, ← jsonOfText_bare, ← record_bare, ← unsupported_bare]

theorem textNode_bare (text : String) : e.textNode b spec text = e.textNode b spec.bare text >>= e.finish spec := by
  unfold Evaluator.textNode
  have hselector : spec.bare.selector = spec.selector := rfl
  have htag : spec.bare.tag = spec.tag := rfl
  rw [hselector, htag]
  cases spec.selector with
  | pattern engine pattern => exact patternNode_bare engine pattern text .text
  | _ =>
    cases spec.tag <;>
      simp only [← finishWith_bare, ← embedded_bare, ← jsonOfText_bare, ← record_bare, ← unsupported_bare]

theorem jsonTarget_bare (target : Json) :
    e.jsonTarget b spec target = e.jsonTarget b spec.bare target >>= e.finish spec := by
  unfold Evaluator.jsonTarget
  have htag : spec.bare.tag = spec.tag := rfl
  have htemplate : spec.bare.template = spec.template := rfl
  rw [htag, htemplate]
  cases spec.tag <;> cases target <;>
    simp only [← finishWith_bare, ← embedded_bare, ← jsonOfText_bare, ← record_bare, ← each_bare, ← unsupported_bare,
      finish_bare, bind_assoc, pure_bind] <;> rfl

theorem jsonNode_bare (j : Json) : e.jsonNode b spec j = e.jsonNode b spec.bare j >>= e.finish spec := by
  unfold Evaluator.jsonNode
  have hselector : spec.bare.selector = spec.selector := rfl
  rw [hselector]
  cases spec.selector with
  | pattern engine pattern => exact patternNode_bare engine pattern _ .json
  | current => exact jsonTarget_bare j
  | native raw => simp only [bind_assoc, ← jsonTarget_bare]

theorem htmlTarget_bare (inside : Spec → List Nat → Run σ Value) (nodes : List Nat) (mode : Css.Mode) (shown : String) :
    e.htmlTarget b inside spec nodes mode shown =
      e.htmlTarget b inside spec.bare nodes mode shown >>= e.finish spec := by
  unfold Evaluator.htmlTarget
  have htag : spec.bare.tag = spec.tag := rfl
  rw [htag]
  cases spec.tag <;>
    simp only [← finishWith_bare, ← embedded_bare, ← jsonOfText_bare, ← record_bare, ← each_bare, ← unsupported_bare,
      finish_bare, bind_assoc, pure_bind]

theorem htmlNode_bare (inside : Spec → List Nat → Run σ Value) (context : List Nat) :
    e.htmlNode b inside spec context = e.htmlNode b inside spec.bare context >>= e.finish spec := by
  unfold Evaluator.htmlNode
  have hselector : spec.bare.selector = spec.selector := rfl
  rw [hselector]
  cases spec.selector with
  | pattern engine pattern => simp only [bind_assoc, ← patternNode_bare]
  | current =>
    simp only
    split
    · rfl
    · exact htmlTarget_bare inside context .text ""
  | native raw =>
    simp only [bind_assoc]
    refine bind_congr fun chain => bind_congr fun nodes => ?_
    split
    · rfl
    · exact htmlTarget_bare inside nodes chain.mode raw

/-- **A node runs its filters on what it yields without them.** -/
theorem at_bare (levels : Nat) (site : Site) :
    e.at (levels + 1) spec site = e.at (levels + 1) spec.bare site >>= e.finish spec := by
  cases site with
  | nodes context => exact htmlNode_bare _ context
  | json j => exact jsonNode_bare j
  | text t => exact textNode_bare t

/-! ## How the filters of a node end -/

open Harvest.Filter (Alike Stop asValues builtin verdict)

theorem filtered_eq (r : Registry σ) (calls : List Filter.Call) (v : Value) (s : State σ) :
    Run.filtered r calls v s = ((Filter.Chain.run r calls v s.outside).1.mapError Stop.toError,
      { s with outside := (Filter.Chain.run r calls v s.outside).2 }) := by
  rw [Run.filtered_apply]
  split
  · next h => rw [h]; rfl
  · next h => rw [h]; rfl
  · next h => rw [h]; rfl

/-- A node without an expression for its filters runs none of them. -/
theorem finish_apply (e : Evaluator σ) (spec : Spec) (v : Value) {s : State σ} (hs : s.cache.Faithful) :
    (e.finish spec v s).1 =
      (Filter.Chain.run e.registry (Filter.Call.parse spec.filter) v s.outside).1.mapError Stop.toError := by
  unfold Evaluator.finish
  split
  -- The empty expression is not parsed; the chain that it would parse to has no call.
  · next hempty =>
    rw [String.isEmpty_iff.1 hempty]
    rfl
  · obtain ⟨c, -, hcalls⟩ := Run.calls_apply spec.filter hs
    rw [Run.bind_apply, hcalls]
    exact congrArg Prod.fst (filtered_eq ..)

/-- What a spec takes from a page without its filters goes through them, in the state that this has left. -/
theorem evaluate_of_bare {page : Page} {cache : Cache} (hcache : cache.Faithful) {outside : σ} {v : Value}
    (h : (e.evaluate spec.bare page cache outside).1 = .ok v) : ∃ left, (e.evaluate spec page cache outside).1 =
      (Filter.Chain.run e.registry (Filter.Call.parse spec.filter) v left).1.mapError Stop.toError := by
  have hfaithful := evaluate_faithful e spec.bare page hcache outside
  rw [evaluate_eq, onPage_eq_at] at h hfaithful ⊢
  rw [at_bare, Run.bind_apply]
  generalize e.at (e.maxDepth + 1) spec.bare page.site ⟨page.document, cache, outside⟩ = p at h hfaithful ⊢
  obtain ⟨r, s⟩ := p
  cases h
  exact ⟨s.outside, finish_apply e spec v hfaithful⟩

/-- **Lists of strings are validated in both forms alike, but for `_required`.**  A validator says the same of a list
of strings and of the list of the values that are these strings, but for `_required` where one of them is empty: that
refuses the list of strings and lets the list of values pass.  So where two specs with the same validators take the two
forms of one list, both are accepted or the same validator refuses both, unless one of the strings is empty and
`_required` is among the validators; then the list of strings is not accepted. -/
theorem lists_validated_alike (clock : Filter.Clock) :
    (∀ c : Filter.Call, c.IsGuard → ∀ (ss : List String) (s : σ),
      let strings := ((builtin σ clock).apply c.name (.strings ss) c.params s).1
      let values := ((builtin σ clock).apply c.name (asValues ss) c.params s).1
      (verdict strings = verdict values ↔ ¬ (c.name = "_required" ∧ "" ∈ ss)) ∧
      (c.name = "_required" → "" ∈ ss → strings = .error .invalidContent ∧ values = .ok (asValues ss))) ∧
    ∀ (e : Evaluator σ) (list array : Spec) (page page' : Page) (cache cache' : Cache) (outside outside' : σ)
      (ss : List String), e.registry = builtin σ clock → cache.Faithful → cache'.Faithful →
      list.filter = array.filter → (∀ c ∈ Filter.Call.parse list.filter, c.IsGuard) →
      (e.evaluate list.bare page cache outside).1 = .ok (.strings ss) →
      (e.evaluate array.bare page' cache' outside').1 = .ok (asValues ss) →
        ((∀ c ∈ Filter.Call.parse list.filter, ¬ (c.name = "_required" ∧ "" ∈ ss)) →
          Alike (.strings ss) (asValues ss) (e.evaluate list page cache outside).1
            (e.evaluate array page' cache' outside').1) ∧
        ((∃ c ∈ Filter.Call.parse list.filter, c.name = "_required") → "" ∈ ss →
          ∀ v, (e.evaluate list page cache outside).1 ≠ .ok v) := by
  refine ⟨fun c hc ss s => Filter.verdict_alike_iff clock hc ss s, ?_⟩
  intro e list array page page' cache cache' outside outside' ss hreg hcache hcache' hfilter hguards hlist harray
  obtain ⟨s, hone⟩ := evaluate_of_bare hcache hlist
  obtain ⟨t, hother⟩ := evaluate_of_bare hcache' harray
  rw [hone, hother, ← hfilter, hreg]
  refine ⟨fun hcalls => Filter.run_alike clock s t fun c hc => ⟨hguards c hc, hcalls c hc⟩,
    fun hrequired hempty v hv => ?_⟩
  have hrun := Filter.run_required clock hempty s
  cases hres : (Filter.Chain.run (builtin σ clock) (Filter.Call.parse list.filter) (.strings ss) s).1 with
  | ok w => exact hrun w hguards hrequired hres
  | error stop =>
    rw [hres] at hv
    cases hv

/-- The two types of a list of texts, with the same filters. -/
def textList (filter : String) : Spec := { tag := .strings, filter }

def textArray (filter : String) : Spec := { tag := .array, filter, children := [{ tag := .string }] }

theorem lists_validated_alike_letters :
    let clock : Filter.Clock := ⟨0, 0⟩
    let e : Evaluator Unit := { registry := builtin Unit clock }
    let page : Page := .json (.array [.string "a", .string ""])
    Alike (.strings ["a", ""]) (asValues ["a", ""]) (e.evaluate (textList "_alpha") page {} ()).1
      (e.evaluate (textArray "_alpha") page {} ()).1 ∧
    (e.evaluate (textList "_required") page {} ()).1 ≠ .ok (.strings ["a", ""]) ∧
    ((builtin Unit clock).apply "_required" (asValues ["a", ""]) "" ()).1 = .ok (asValues ["a", ""]) := by
  intro clock e page
  have halpha : Filter.Call.parse "_alpha" = [⟨"_alpha", ""⟩] := by decide
  have hrequired : Filter.Call.parse "_required" = [⟨"_required", ""⟩] := by decide
  obtain ⟨hverdict, hspecs⟩ := lists_validated_alike (σ := Unit) clock
  have hboth := fun filter hguards => hspecs e (textList filter) (textArray filter) page page {} {} () ()
    ["a", ""] rfl Cache.faithful_empty Cache.faithful_empty rfl hguards rfl rfl
  refine ⟨(hboth "_alpha" ?_).1 ?_, (hboth "_required" ?_).2 ?_ (by decide) _, ?_⟩
  · simp only [textList, halpha]
    decide
  · simp only [textList, halpha]
    decide
  · simp only [textList, hrequired]
    decide
  · simp only [textList, hrequired]
    decide
  · exact ((hverdict ⟨"_required", ""⟩ (by decide) ["a", ""] ()).2 rfl (by decide)).2

end Extract

end Harvest
