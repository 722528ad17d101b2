import Harvest.Markup.Rules
import Harvest.Proofs.Markup.Rooted
/-!
# Every rule keeps the root element

Each rule of building keeps the root element in its place, so a whole text does once it has one.
-/
namespace Harvest.Markup.Builder

variable {r : Nat} {b : Builder}

@[grind ←]
theorem Rooted.done (h : Rooted r b) : Rooted r (done b).1 := h

@[grind ←]
theorem Rooted.again (h : Rooted r b) (mode : Mode) (t : Token) : Rooted r (b.again mode t).1 := h

@[grind ←]
theorem Rooted.goTo (h : Rooted r b) (mode : Mode) : Rooted r (b.goTo mode).1 := h

theorem rooted_ite {c : Prop} [Decidable c] {b₁ b₂ : Builder} (h₁ : Rooted r b₁) (h₂ : Rooted r b₂) :
    Rooted r (if c then b₁ else b₂) := by
  split
  · exact h₁
  · exact h₂

theorem rooted_ite_step {c : Prop} [Decidable c] {s₁ s₂ : Step} (h₁ : Rooted r s₁.1) (h₂ : Rooted r s₂.1) :
    Rooted r (if c then s₁ else s₂).1 := by
  split
  · exact h₁
  · exact h₂

/-! ## The head and the body -/

@[grind ←]
theorem Rooted.noFrameset (h : Rooted r b) : Rooted r b.noFrameset := h

theorem Rooted.addAttrs (h : Rooted r b) (i : Nat) (attrs : List Attr) :
    Sound r (b.tree.addAttrs i attrs) b.stack b.head := ⟨h.holds.addAttrs i attrs, h.above, h.head⟩

theorem Rooted.secondRoot (h : Rooted r b) (t : StartTag) : Rooted r (b.secondRoot t).1 := by
  have hattrs := h.addAttrs
  unfold Builder.secondRoot
  split <;> grind

theorem Rooted.startInHead (h : Rooted r b) (t : StartTag) : Rooted r (b.startInHead t) := by
  unfold Builder.startInHead
  repeat' split
  all_goals grind

theorem Rooted.endTemplate (h : Rooted r b) : Rooted r b.endTemplate := by
  unfold Builder.endTemplate
  split <;> grind

theorem Rooted.inHead (h : Rooted r b) (t : Token) : Rooted r (b.inHead t).1 := by
  have hroot := h.secondRoot
  have hhead := h.startInHead
  have htemplate := h.endTemplate
  unfold Builder.inHead
  repeat' split
  all_goals grind

theorem Rooted.closeItem (h : Rooted r b) (words : List String) : ∀ stack, Rooted r (b.closeItem words stack)
  | [] => h
  | i :: rest => by
    unfold Builder.closeItem
    simp only
    repeat' split
    · grind
    · exact h
    · exact closeItem h words rest

theorem Rooted.insertVoid (h : Rooted r b) (t : StartTag) : Rooted r (b.insertVoid t) := by
  unfold Builder.insertVoid
  split <;> grind

theorem Rooted.closeLink (h : Rooted r b) : Rooted r b.closeLink := by
  unfold Builder.closeLink
  split <;> grind

theorem Rooted.startInBody (h : Rooted r b) (t : StartTag) : Rooted r (b.startInBody t) := by
  have hitem := fun words => h.noFrameset.closeItem words b.stack
  have hvoid := h.insertVoid
  have hlink := h.closeLink
  unfold Builder.startInBody
  dsimp only
  repeat' with_reducible apply rooted_ite
  all_goals grind

theorem Rooted.endInScope (h : Rooted r b) (hides : Name → Bool) (word : String) :
    Rooted r (b.endInScope hides word) := by
  unfold Builder.endInScope
  split <;> grind

theorem Rooted.endForm (h : Rooted r b) : Rooted r b.endForm := by
  have hscope := h.endInScope
  unfold Builder.endForm
  dsimp only
  repeat' split
  all_goals grind

theorem Rooted.endInBody (h : Rooted r b) (word : String) : Rooted r (b.endInBody word) := by
  have hscope := h.endInScope
  have hform := h.endForm
  have hvoid := h.insertVoid
  unfold Builder.endInBody
  repeat' split
  all_goals grind

theorem Rooted.body_other (h : Rooted r b) {i : Nat} (hi : b.body? = some i) : Other r i := by
  unfold Builder.body? at hi
  split at hi
  · rename_i j k rest hs
    split at hi
    · cases hi
      have hs := congrArg List.reverse hs
      rw [List.reverse_reverse, List.reverse_cons, List.reverse_cons] at hs
      exact h.other_of_above hs i (by simp)
    · cases hi
  · cases hi

theorem Rooted.startFrameset (h : Rooted r b) (t : StartTag) : Rooted r (b.startFrameset t) := by
  unfold Builder.startFrameset
  split
  · rename_i i hi
    split
    · have hdetach : Rooted r { b with tree := b.tree.detach i, stack := [b.root] } :=
        ⟨h.holds.detach (h.body_other hi).1, List.pairwise_singleton _ _, h.head⟩
      exact hdetach.insert t
    · exact h
  · exact h

theorem Rooted.endOfTemplates (h : Rooted r b) (t : Token) : Rooted r (b.endOfTemplates t).1 := by
  unfold Builder.endOfTemplates
  split <;> grind

theorem Rooted.inBody (h : Rooted r b) (t : Token) : Rooted r (b.inBody t).1 := by
  have hroot := h.secondRoot
  have hattrs := h.addAttrs
  have hhead := h.startInHead
  have htemplate := h.endTemplate
  have hframeset := h.startFrameset
  have hstart := h.startInBody
  have hend := h.endInBody
  have htemplates := h.endOfTemplates
  unfold Builder.inBody
  repeat' split
  all_goals grind

theorem Rooted.outsideTable (h : Rooted r b) (t : Token) : Rooted r (b.outsideTable t).1 := by
  have hfoster : Rooted r { b with foster := true } := h
  exact hfoster.inBody t

/-! ## Before the body -/

theorem Rooted.initial (h : Rooted r b) (t : Token) : Rooted r (b.initial t).1 := by
  unfold Builder.initial
  split
  · exact h
  · exact h.addCommentTo 0 _
  · rename_i d
    exact ⟨(h.holds.create _).append (h.holds.create_ne (.doctype d.name)) 0, h.above, h.head⟩
  · exact h

/-- A second root element leaves the first one where it is. -/
theorem Rooted.insertRoot (h : Rooted r b) (attrs : List Attr) : Rooted r (b.insertRoot attrs) := by
  have hnew := h.create_other (.html "html") attrs
  have hb := h.create (.html "html") attrs
  exact ⟨hb.holds.append hnew.1 0, List.pairwise_singleton _ _, hb.head⟩

theorem Rooted.push_head (h : Rooted r b) {i : Nat} (hi : b.head = some i) : Rooted r (b.push i) := h.push (h.head i hi)

theorem Rooted.beforeHtml (h : Rooted r b) (t : Token) : Rooted r (b.beforeHtml t).1 := by
  have hinsert := h.insertRoot
  unfold Builder.beforeHtml
  repeat' split
  all_goals grind

theorem Rooted.insertHead (h : Rooted r b) (t : StartTag) : Rooted r (b.insertHead t) := by
  refine ⟨(h.insert t).holds, (h.insert t).above, fun i hi => ?_⟩
  cases hi
  exact h.current_insert t

theorem Rooted.beforeHead (h : Rooted r b) (t : Token) : Rooted r (b.beforeHead t).1 := by
  have hroot := h.secondRoot
  have hinsert := h.insertHead
  unfold Builder.beforeHead
  dsimp only
  repeat' split
  all_goals grind

theorem Rooted.afterHead (h : Rooted r b) (t : Token) : Rooted r (b.afterHead t).1 := by
  have hroot := h.secondRoot
  have hhead := fun i (hi : b.head = some i) => (h.push_head hi).startInHead
  have htemplate := h.endTemplate
  unfold Builder.afterHead
  dsimp only
  repeat' split
  all_goals grind

theorem Rooted.text (h : Rooted r b) (t : Token) : Rooted r (b.text t).1 := by
  unfold Builder.text
  split <;> grind

/-! ## Tables -/

theorem Rooted.inTable (h : Rooted r b) (t : Token) : Rooted r (b.inTable t).1 := by
  have hbody := h.inBody
  have houtside := h.outsideTable
  have hhead := h.startInHead
  have htemplate := h.endTemplate
  unfold Builder.inTable
  dsimp only
  split
  all_goals repeat' with_reducible apply rooted_ite_step
  all_goals grind

theorem rooted_foldl {f : Builder → Token → Builder} (hf : ∀ b t, Rooted r b → Rooted r (f b t)) :
    ∀ (tokens : List Token) {b : Builder}, Rooted r b → Rooted r (tokens.foldl f b)
  | [], _, h => h
  | t :: tokens, b, h => rooted_foldl hf tokens (hf b t h)

theorem Rooted.settlePending (h : Rooted r b) : Rooted r b.settlePending := by
  unfold Builder.settlePending
  dsimp only
  refine rooted_ite (rooted_foldl (fun b t hb => ?_) _ h) (rooted_foldl (fun b t hb => hb.outsideTable t) _ h)
  split
  · exact hb.addText _
  · exact hb

theorem Rooted.inTableText (h : Rooted r b) (t : Token) : Rooted r (b.inTableText t).1 := by
  have hpending := h.settlePending
  unfold Builder.inTableText
  split <;> grind

theorem Rooted.inCaption (h : Rooted r b) (t : Token) : Rooted r (b.inCaption t).1 := by
  have hscope := h.endInScope
  have hbody := h.inBody
  unfold Builder.inCaption
  dsimp only
  split
  all_goals repeat' with_reducible apply rooted_ite_step
  all_goals grind

theorem Rooted.inColumnGroup (h : Rooted r b) (t : Token) : Rooted r (b.inColumnGroup t).1 := by
  have hbody := h.inBody
  have hroot := h.secondRoot
  have hhead := h.startInHead
  have htemplate := h.endTemplate
  unfold Builder.inColumnGroup
  dsimp only
  split
  all_goals repeat' with_reducible apply rooted_ite_step
  all_goals grind

theorem Rooted.inTableBody (h : Rooted r b) (t : Token) : Rooted r (b.inTableBody t).1 := by
  have htable := h.inTable
  unfold Builder.inTableBody
  dsimp only
  split
  all_goals repeat' with_reducible apply rooted_ite_step
  all_goals grind

theorem Rooted.inRow (h : Rooted r b) (t : Token) : Rooted r (b.inRow t).1 := by
  have htable := h.inTable
  unfold Builder.inRow
  dsimp only
  split
  all_goals repeat' with_reducible apply rooted_ite_step
  all_goals grind

@[grind ←]
theorem Rooted.closeCell (h : Rooted r b) : Rooted r b.closeCell := (h.implyEnds.popThrough _).unmark

theorem Rooted.inCell (h : Rooted r b) (t : Token) : Rooted r (b.inCell t).1 := by
  have hscope := h.endInScope
  have hbody := h.inBody
  unfold Builder.inCell
  split
  all_goals repeat' with_reducible apply rooted_ite_step
  all_goals grind

/-! ## Choices and templates -/

@[grind ←]
theorem Rooted.popIf (h : Rooted r b) (word : String) : Rooted r (b.popIf word) := rooted_ite h.pop h

@[grind ←]
theorem Rooted.closeSelect (h : Rooted r b) : Rooted r b.closeSelect := h.popThrough (Name.is "select")

theorem Rooted.inSelect (h : Rooted r b) (t : Token) : Rooted r (b.inSelect t).1 := by
  have hbody := h.inBody
  have hroot := h.secondRoot
  have hhead := h.startInHead
  have htemplate := h.endTemplate
  unfold Builder.inSelect
  dsimp only
  split
  all_goals repeat' with_reducible apply rooted_ite_step
  all_goals grind

theorem Rooted.inSelectInTable (h : Rooted r b) (t : Token) : Rooted r (b.inSelectInTable t).1 := by
  have hselect := h.inSelect
  unfold Builder.inSelectInTable
  dsimp only
  split
  all_goals repeat' with_reducible apply rooted_ite_step
  all_goals grind

theorem Rooted.inTemplate (h : Rooted r b) (t : Token) : Rooted r (b.inTemplate t).1 := by
  have hbody := h.inBody
  have hhead := h.startInHead
  have htemplate := h.endTemplate
  have htemplates := h.endOfTemplates
  unfold Builder.inTemplate
  dsimp only
  split
  all_goals repeat' with_reducible apply rooted_ite_step
  all_goals grind

/-! ## Behind the body -/

theorem Rooted.afterBody (h : Rooted r b) (t : Token) : Rooted r (b.afterBody t).1 := by
  have hbody := h.inBody
  have hroot := h.secondRoot
  unfold Builder.afterBody
  split
  all_goals repeat' with_reducible apply rooted_ite_step
  all_goals grind

theorem Rooted.inFrameset (h : Rooted r b) (t : Token) : Rooted r (b.inFrameset t).1 := by
  have hroot := h.secondRoot
  have hhead := h.startInHead
  unfold Builder.inFrameset
  dsimp only
  split
  all_goals repeat' with_reducible apply rooted_ite_step
  all_goals grind

theorem Rooted.afterFrameset (h : Rooted r b) (t : Token) : Rooted r (b.afterFrameset t).1 := by
  have hroot := h.secondRoot
  have hhead := h.startInHead
  unfold Builder.afterFrameset
  split
  all_goals repeat' with_reducible apply rooted_ite_step
  all_goals grind

theorem Rooted.afterAfterBody (h : Rooted r b) (t : Token) : Rooted r (b.afterAfterBody t).1 := by
  have hbody := h.inBody
  have hroot := h.secondRoot
  unfold Builder.afterAfterBody
  split
  all_goals repeat' with_reducible apply rooted_ite_step
  all_goals grind

theorem Rooted.afterAfterFrameset (h : Rooted r b) (t : Token) : Rooted r (b.afterAfterFrameset t).1 := by
  have hbody := h.inBody
  have hroot := h.secondRoot
  have hhead := h.startInHead
  unfold Builder.afterAfterFrameset
  split
  all_goals repeat' with_reducible apply rooted_ite_step
  all_goals grind

/-! ## All rules -/

/-- **The rule of every mode keeps the root element.** -/
theorem Rooted.rule (h : Rooted r b) (t : Token) : Rooted r (b.rule t).1 := by
  unfold Builder.rule
  split
  · exact h.initial t
  · exact h.beforeHtml t
  · exact h.beforeHead t
  · exact h.inHead t
  · exact h.afterHead t
  · exact h.inBody t
  · exact h.text t
  · exact h.inTable t
  · exact h.inTableText t
  · exact h.inCaption t
  · exact h.inColumnGroup t
  · exact h.inTableBody t
  · exact h.inRow t
  · exact h.inCell t
  · exact h.inSelect t
  · exact h.inSelectInTable t
  · exact h.inTemplate t
  · exact h.afterBody t
  · exact h.inFrameset t
  · exact h.afterFrameset t
  · exact h.afterAfterBody t
  · exact h.afterAfterFrameset t

theorem Rooted.endForeign (h : Rooted r b) (word : String) : ∀ (first : Bool) (stack : List Nat),
    stack.Sublist b.stack → Rooted r (b.endForeign word first stack).1
  | _, [], _ => h
  | _, [_], _ => h
  | first, i :: j :: rest, hs => by
    have hrest := (List.sublist_cons_self i (j :: rest)).trans hs
    unfold Builder.endForeign
    dsimp only
    refine rooted_ite_step (h.rule _) (rooted_ite_step ?_ ?_)
    · exact h.sublist hrest
    · exact h.endForeign word false (j :: rest) hrest

theorem Rooted.foreign (h : Rooted r b) (t : Token) : Rooted r (b.foreign t).1 := by
  have hrule := (h.popTo endsForeign).rule
  have hstop := fun word => h.endForeign word true b.stack (List.Sublist.refl _)
  unfold Builder.foreign
  dsimp only
  split
  all_goals repeat' with_reducible apply rooted_ite_step
  all_goals grind

theorem Rooted.feed : ∀ (fuel : Nat) (t : Token) (b : Builder), Rooted r b → Rooted r (feed fuel t b)
  | 0, _, _, h => h
  | fuel + 1, t, b, h => by
    have hstep : Rooted r (if b.isForeign t then b.foreign t else b.rule t).1 :=
      rooted_ite_step (h.foreign t) (h.rule t)
    unfold Builder.feed
    split
    · rename_i b' hb
      rw [hb] at hstep
      exact hstep
    · rename_i b' t' hb
      rw [hb] at hstep
      exact feed fuel t' b' hstep

theorem take_induction {P : Builder → Prop} (hskip : ∀ b, P b → P { b with skipNewline := false })
    (hreading : ∀ b, P b → P { b with reading := .markup }) (hfeed : ∀ fuel t b, P b → P (feed fuel t b))
    (h : P b) (t : Token) : P (b.take t) := by
  have hfed : ∀ fuel, P (feed fuel (b.trimmed t) { b with skipNewline := false }) := fun fuel =>
    hfeed fuel _ _ (hskip b h)
  unfold Builder.take
  dsimp only
  split
  · exact h
  · split
    · exact hskip b h
    · split
      · split
        · exact hreading _ (hfed _)
        · exact hfed _
      · exact hfed _

theorem Rooted.take (h : Rooted r b) (t : Token) : Rooted r (b.take t) :=
  take_induction (fun _ h => h) (fun _ h => h) Rooted.feed h t

/-- **A text that is read on keeps the root element.** -/
theorem Rooted.takeAll : ∀ (fuel : Nat) (b : Builder) (cs : List Char), Rooted r b → Rooted r (takeAll fuel b cs)
  | 0, _, _, h => h
  | fuel + 1, b, cs, h => by
    unfold Builder.takeAll
    dsimp only
    split
    · exact h.take .eof
    · exact takeAll fuel _ _ (h.take _)

end Harvest.Markup.Builder
