import Harvest.Proofs.Extract.Shape
import Mathlib.Data.List.Basic
/-!
# Specs that are built

Selectors and type tags are read from texts, and nothing of a text is lost (`Selector.toText_ofText`,
`Tag.toText_ofText`).  So a tree is made with the builder methods exactly when each node has the selector and the tag
that their own texts write (`Spec.built_iff`).
-/
namespace Harvest

/-! ## The texts of selectors and tags -/

theorem Selector.behind?_eq_some {mark text rest : String} (h : behind? mark text = some rest) :
    mark ++ rest = text := by
  obtain ⟨cs, hcs, rfl⟩ := Option.map_eq_some_iff.1 h
  rw [← String.toList_inj, String.toList_append, String.toList_ofList]
  exact (Text.after?_eq_some.1 hcs).symm

/-- **A selector is written as the text that it is read from.** -/
theorem Selector.toText_ofText (text : String) : (Selector.ofText text).toText = text := by
  unfold ofText
  split
  · next h => exact behind?_eq_some h
  · split
    · next h => exact behind?_eq_some h
    · split
      · next h => exact (String.isEmpty_iff.1 h).symm
      · rfl

theorem Tag.bracketed?_eq_some {opening text : List Char} {name : String} (h : bracketed? opening text = some name) :
    text = opening ++ name.toList ++ [']'] := by
  unfold bracketed? at h
  split at h
  · rename_i rest hrest
    split at h
    · rename_i hlast
      cases h
      rw [Text.after?_eq_some.1 hrest, String.toList_ofList, List.append_assoc]
      simp only [Bool.and_eq_true, beq_iff_eq] at hlast
      rw [List.dropLast_append_getLast? _ hlast.1]
    · cases h
  · cases h

theorem Tag.toText_of_mem_words : ∀ p ∈ words, p.2.toText = p.1 := by simp [words, toText]

/-- **A tag is written as the text that it is read from**, whether it is known or not. -/
theorem Tag.toText_ofText (raw : String) : (Tag.ofText raw).toText = raw := by
  unfold ofText
  split
  · next t h =>
    obtain ⟨l, l', hwords, -⟩ := List.lookup_eq_some_iff.1 h
    exact toText_of_mem_words (raw, t) (by simp [hwords])
  · split
    · next name h =>
      rw [← String.toList_inj, bracketed?_eq_some h]
      simp [toText, attrOpening]
    · split
      · next name h =>
        rw [← String.toList_inj, bracketed?_eq_some h]
        simp [toText, attrsOpening]
      · rfl

namespace Spec

/-! ## Built trees -/

/-- The trees that the builder methods make. -/
inductive Built : Spec → Prop where
  | ofTag (tag : String) : Built (ofTag (.ofText tag))
  | named {s : Spec} (h : Built s) (name : String) : Built (s.named name)
  | withSelector {s : Spec} (h : Built s) (text : String) : Built (s.withSelector text)
  | withFilter {s : Spec} (h : Built s) (filter : String) : Built (s.withFilter filter)
  | withChildren {s : Spec} {children : List Spec} (h : Built s) (hc : ∀ c ∈ children, Built c) :
    Built (s.withChildren children)

/-- The node's selector and tag are those that their texts write. -/
def Classified (s : Spec) : Prop := Selector.ofText s.selector.toText = s.selector ∧ Tag.ofText s.tag.toText = s.tag

theorem Classified.setText {s : Spec} (h : s.Classified) (field text : String) : (s.setText field text).Classified := by
  unfold Spec.setText
  split
  · exact h
  · split
    · exact ⟨congrArg Selector.ofText (Selector.toText_ofText text), h.2⟩
    · split
      · exact ⟨h.1, congrArg Tag.ofText (Tag.toText_ofText text)⟩
      · split
        · exact h
        · exact h

theorem Built.classified {s : Spec} (h : Built s) : s.All Classified := by
  induction h with
  | ofTag tag => exact .node ⟨rfl, congrArg Tag.ofText (Tag.toText_ofText tag)⟩ fun c hc => nomatch hc
  | named h name ih => exact .node ih.here ih.child
  | withSelector h text ih =>
    exact .node ⟨congrArg Selector.ofText (Selector.toText_ofText text), ih.here.2⟩ ih.child
  | withFilter h filter ih => exact .node ih.here ih.child
  | withChildren h hc ih ihc => exact .node ih.here ihc

/-- **A tree is built exactly when each of its nodes has the selector and the tag that their texts write.** -/
theorem built_iff {s : Spec} : Built s ↔ s.All Classified := by
  refine ⟨Built.classified, fun h => ?_⟩
  induction h with
  | @node s h hc ih =>
    have hs : s = ((((ofTag (.ofText s.tag.toText)).named s.name).withSelector s.selector.toText).withFilter
        s.filter).withChildren s.children := by
      obtain ⟨hselector, htag⟩ := h
      cases s
      simp only [ofTag, named, withSelector, withFilter, withChildren, hselector, htag]
    rw [hs]
    exact ((((Built.ofTag _).named _).withSelector _).withFilter _).withChildren ih

end Spec

end Harvest
