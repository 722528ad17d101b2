import Mathlib.Data.List.Chain
import Harvest.Proofs.Css.Pruning
import Harvest.Proofs.Extract.Session
/-!
# Evaluations only prune their document

An evaluation changes its document by the chains of its spec alone, whether it ends with a value or not.  So of several
evaluations on one document each leaves what it was given with whole subtrees deleted (`rm_prunes_exactly`).
-/
namespace Harvest.Extract

open Harvest.Markup (Document)

variable {σ : Type}

/-- **Each of several evaluations deletes whole subtrees**, and changes nothing else. -/
theorem session_prunes (e : Evaluator σ) : ∀ {specs : List Spec} {s : State σ}, s.cache.Faithful →
    s.document.Nested →
      List.IsChain Document.Prunes (s.document :: (e.session specs s).map fun step => step.2.document)
  | [], _, _, _ => .singleton _
  | spec :: specs, s, hcache, hs => by
    cases hrun : e.onPage spec (.html s.document) s with
    | mk r t =>
      obtain ⟨htcache, ⟨runs, -, hdoc⟩, -⟩ := onPage_pruned (P := fun _ => True) e (fun _ _ => trivial) hcache
        (pruned_refl _ _) hrun
      obtain ⟨ht, hprunes⟩ := Css.prunes_prune runs hs
      rw [← hdoc] at ht hprunes
      rw [session_cons e hrun, List.map_cons]
      exact .cons_cons hprunes (session_prunes e htcache ht)

/-- The document of a body, where every node's parent is the nearest node that it stands inside. -/
theorem parse_nested (body : List UInt8) : ∃ d, Page.parse body .html = .ok (.html d) ∧ d.Nested :=
  ⟨.ofTree (Markup.parse (Text.Utf8.toStringLossy body)), rfl,
    Markup.Document.nested_ofTree (Markup.parse_isRooted (Text.Utf8.toStringLossy body)).top⟩

/-- **`rm` only prunes, and prunes exactly what it names.**  In whatever chains leave of a parsed document it keeps the
nodes that it works on, takes away the subtrees of what its selector matches below them in the document as it stands,
and changes nothing else.  So of evaluations one after the other, each leaves the document that it was given with whole
subtrees deleted, whether it fails or not. -/
theorem rm_prunes_exactly (e : Evaluator σ) (body : List UInt8) (outside : σ) :
    ∃ d, Page.parse body .html = .ok (.html d) ∧
      (∀ (runs : List (Css.Chain × List Nat)) (nodes : List Nat) (sel : Css.Selector),
        let before := Css.prune d runs
        let after := (Css.Op.remove sel).run before nodes
        after.2 = nodes ∧
          Document.Lopped (fun j => ∃ i ∈ nodes, j ∈ before.descendants i ∧ Css.selects before sel j = true)
            before after.1) ∧
      ∀ specs, List.IsChain Document.Prunes
        (d :: (e.session specs ⟨d, {}, outside⟩).map fun step => step.2.document) := by
  obtain ⟨d, hparse, hd⟩ := parse_nested body
  refine ⟨d, hparse, fun runs nodes sel => ?_, fun specs => ?_⟩
  · exact ⟨rfl, Css.lopped_remove (Css.prunes_prune runs hd).1 sel nodes⟩
  · exact session_prunes e (s := ⟨d, {}, outside⟩) Cache.faithful_empty hd

end Harvest.Extract
