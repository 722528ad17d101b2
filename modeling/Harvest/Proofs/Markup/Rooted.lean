import Harvest.Markup.Builder
import Harvest.Proofs.Markup.Growth
/-!
# The root element is never moved

A builder that has a root element keeps it right below the document (`Rooted`): a node is moved only if it is new, or
if another element is open inside it, and the root is open inside all others.  The operations that the rules are made
of keep this.
-/
namespace Harvest.Markup.Builder

def Other (r i : Nat) : Prop := i ≠ r ∧ i ≠ 0

/-- `r` is the root element of a tree; of the open elements only the outermost one can be the root. -/
structure Sound (r : Nat) (tree : Growth) (stack : List Nat) (head : Option Nat) : Prop where
  holds : tree.Holds r
  above : stack.Pairwise fun i _ => Other r i
  head : ∀ i ∈ head, Other r i

/-- `r` is the root element of what is built. -/
def Rooted (r : Nat) (b : Builder) : Prop := Sound r b.tree b.stack b.head

variable {r : Nat} {b : Builder}

@[grind =]
theorem rooted_mk {tree mode outer stack formatting head form templates framesetOk skipNewline old foster pending
    reading} : Rooted r ⟨tree, mode, outer, stack, formatting, head, form, templates, framesetOk, skipNewline, old,
      foster, pending, reading⟩ ↔ Sound r tree stack head := Iff.rfl

@[grind =]
theorem sound_fields : Sound r b.tree b.stack b.head ↔ Rooted r b := Iff.rfl

/-! ## The open elements -/

theorem Rooted.sublist (h : Rooted r b) {stack : List Nat} (hs : stack.Sublist b.stack) :
    Rooted r { b with stack } := ⟨h.holds, h.above.sublist hs, h.head⟩

/-- What is open above another element is not the root. -/
theorem Rooted.other_of_above (h : Rooted r b) {above rest : List Nat} {j : Nat} (hs : b.stack = above ++ j :: rest) :
    ∀ i ∈ above, Other r i := by
  intro i hi
  have h := h.above
  rw [hs] at h
  exact (List.pairwise_append.1 h).2.2 i hi j List.mem_cons_self

@[grind ←]
theorem Rooted.pop (h : Rooted r b) : Rooted r b.pop := h.sublist (List.tail_sublist _)

theorem Rooted.push (h : Rooted r b) {i : Nat} (hi : Other r i) : Rooted r (b.push i) :=
  ⟨h.holds, List.pairwise_cons.2 ⟨fun _ _ => hi, h.above⟩, h.head⟩

@[grind ←]
theorem Rooted.close (h : Rooted r b) (i : Nat) : Rooted r (b.close i) := h.sublist List.filter_sublist

@[grind ←]
theorem Rooted.popWhile (h : Rooted r b) (test : Name → Bool) : Rooted r (b.popWhile test) :=
  h.sublist (List.dropWhile_sublist _)

@[grind ←]
theorem Rooted.popTo (h : Rooted r b) (test : Name → Bool) : Rooted r (b.popTo test) :=
  h.sublist (List.dropWhile_sublist _)

@[grind ←]
theorem Rooted.popThrough (h : Rooted r b) (test : Name → Bool) : Rooted r (b.popThrough test) := (h.popTo test).pop

@[grind ←]
theorem Rooted.implyEnds (h : Rooted r b) : Rooted r b.implyEnds := h.popWhile _

@[grind ←]
theorem Rooted.implyEndsBut (h : Rooted r b) (word : String) : Rooted r (b.implyEndsBut word) := h.popWhile _

@[grind ←]
theorem Rooted.closeParagraph (h : Rooted r b) : Rooted r b.closeParagraph := by
  unfold Builder.closeParagraph
  split
  · exact (h.implyEndsBut "p").popThrough _
  · exact h

/-! ## Putting nodes in -/

theorem Rooted.put (h : Rooted r b) (place : Place) {i : Nat} (hi : i ≠ r) : Rooted r (b.put place i) := by
  cases place with
  | inside p => exact ⟨h.holds.append hi p, h.above, h.head⟩
  | before s => exact ⟨h.holds.insertBefore hi s, h.above, h.head⟩

@[grind ←]
theorem Rooted.addText (h : Rooted r b) (cs : List Char) : Rooted r (b.addText cs) := by
  unfold Builder.addText
  split
  · exact h
  · split
    · exact ⟨h.holds.appendText _ _, h.above, h.head⟩
    · exact ⟨h.holds.insertText _ _, h.above, h.head⟩

@[grind ←]
theorem Rooted.addCommentTo (h : Rooted r b) (parent : Nat) (text : String) : Rooted r (b.addCommentTo parent text) :=
  ⟨(h.holds.create _).append (h.holds.create_ne (.comment text)) parent, h.above, h.head⟩

@[grind ←]
theorem Rooted.addComment (h : Rooted r b) (text : String) : Rooted r (b.addComment text) := by
  have hnew : Rooted r { b with tree := (b.tree.create (.comment text)).2 } :=
    ⟨h.holds.create _, h.above, h.head⟩
  exact hnew.put _ (h.holds.create_ne (.comment text))

theorem Rooted.create_other (h : Rooted r b) (name : Name) (attrs : List Attr) : Other r (b.create name attrs).1 := by
  have hlt := h.holds.lt
  have hi : (b.create name attrs).1 = b.tree.cells.size := by
    unfold Builder.create
    simp only
    split <;> rfl
  rw [hi]
  exact ⟨by omega, by omega⟩

theorem Rooted.create (h : Rooted r b) (name : Name) (attrs : List Attr) : Rooted r (b.create name attrs).2 := by
  have hnew := h.holds.create (.element name attrs)
  unfold Builder.create
  simp only
  split
  · exact ⟨(hnew.create .fragment).append (hnew.create_ne .fragment) _, h.above, h.head⟩
  · exact ⟨hnew, h.above, h.head⟩

@[grind ←]
theorem Rooted.addElement (h : Rooted r b) (name : Name) (attrs : List Attr) : Rooted r (b.addElement name attrs).2 :=
  (h.create name attrs).put _ (h.create_other name attrs).1

theorem Rooted.addElement_other (h : Rooted r b) (name : Name) (attrs : List Attr) :
    Other r (b.addElement name attrs).1 := h.create_other name attrs

@[grind ←]
theorem Rooted.insert (h : Rooted r b) (t : StartTag) : Rooted r (b.insert t) :=
  (h.addElement _ _).push (h.addElement_other _ _)

/-- The current element is the one that has been inserted. -/
theorem Rooted.current_insert (h : Rooted r b) (t : StartTag) : Other r (b.insert t).current := h.addElement_other _ _

@[grind ←]
theorem Rooted.insertClosed (h : Rooted r b) (t : StartTag) : Rooted r (b.insertClosed t) := h.addElement _ _

@[grind ←]
theorem Rooted.insertBare (h : Rooted r b) (word : String) : Rooted r (b.insertBare word) := h.insert _

@[grind ←]
theorem Rooted.insertForeign (h : Rooted r b) (space : Space) (t : StartTag) : Rooted r (b.insertForeign space t) := by
  unfold Builder.insertForeign
  simp only
  split
  · exact h.addElement _ _
  · exact (h.addElement _ _).push (h.addElement_other _ _)

@[grind ←]
theorem Rooted.insertText (h : Rooted r b) (t : StartTag) (reading : Reading) : Rooted r (b.insertText t reading) :=
  h.insert t

/-! ## Formatting elements -/

@[grind ←]
theorem Rooted.mark (h : Rooted r b) : Rooted r b.mark := h

@[grind ←]
theorem Rooted.unmark (h : Rooted r b) : Rooted r b.unmark := h

@[grind ←]
theorem Rooted.forget (h : Rooted r b) (i : Nat) : Rooted r (b.forget i) := h

@[grind ←]
theorem Rooted.insertFormatting (h : Rooted r b) (t : StartTag) : Rooted r (b.insertFormatting t) := by
  unfold Builder.insertFormatting
  simp only
  split
  · exact (h.forget _).insert t
  · exact h.insert t

theorem rooted_openAgain : ∀ (entries kept : List Formatting) (b : Builder), Rooted r b →
    Rooted r (openAgain kept entries b)
  | [], _, _, h => h
  | .element _ t :: rest, _, b, h => rooted_openAgain rest _ (b.insert t) (h.insert t)
  | .marker :: rest, _, b, h => rooted_openAgain rest _ b h

@[grind ←]
theorem Rooted.reconstruct (h : Rooted r b) : Rooted r b.reconstruct := rooted_openAgain _ _ b h

@[grind ←]
theorem Rooted.endAny (h : Rooted r b) (word : String) : Rooted r (b.endAny word) := by
  unfold Builder.endAny
  split
  · exact h
  · exact (h.implyEndsBut word).sublist ((List.tail_sublist _).trans (List.dropWhile_sublist _))

/-! ## Misnested formatting -/

/-- What copying the elements in between keeps: none of the elements that it handles is the root. -/
structure Moving.Rooted (r : Nat) (m : Moving) : Prop where
  builder : Builder.Rooted r m.builder
  last : Other r m.last
  between : ∀ i ∈ m.between, Other r i

theorem Moving.rooted_copyBetween (block : Nat) : ∀ (between : List Nat) (count : Nat) (m : Moving),
    m.Rooted r → (copyBetween block count between m).Rooted r
  | [], _, _, h => by
    unfold copyBetween
    exact h
  | i :: rest, count, m, h => by
    unfold copyBetween
    simp only
    split
    · rename_i n _ t _
      have hnew := h.builder.create_other (.html t.name) (attrsOf t)
      have hb := h.builder.create (.html t.name) (attrsOf t)
      refine rooted_copyBetween block rest n _ ⟨⟨hb.holds.append h.last.1 _, hb.above, hb.head⟩, hnew, ?_⟩
      intro j hj
      rcases List.mem_append.1 hj with hj | hj
      · exact h.between j hj
      · rw [List.mem_singleton.1 hj]
        exact hnew
    · exact rooted_copyBetween block rest 0 _ ⟨h.builder.forget i, h.last, h.between⟩
    · exact rooted_copyBetween block rest _ m h

theorem eq_takeWhile_append {i : Nat} {l : List Nat} (h : i ∈ l) : ∃ rest, l = l.takeWhile (· != i) ++ i :: rest := by
  induction l with
  | nil => cases h
  | cons j l ih =>
    by_cases hj : j = i
    · subst hj
      exact ⟨l, by simp⟩
    · obtain ⟨rest, hrest⟩ := ih ((List.mem_cons.1 h).resolve_left (Ne.symm hj))
      refine ⟨rest, ?_⟩
      rw [List.takeWhile_cons_of_pos (by simp [hj]), List.cons_append, ← hrest]

/-- The elements that are open above one of the open elements can take its place. -/
theorem above_append {above rest : List Nat} (ha : ∀ i ∈ above, Other r i) (hr : rest.Pairwise fun i _ => Other r i) :
    (above ++ rest).Pairwise fun i _ => Other r i := by
  refine List.pairwise_append.2 ⟨?_, hr, fun i hi _ _ => ha i hi⟩
  exact List.pairwise_of_forall_mem_list fun i hi _ _ => ha i hi

theorem Rooted.rearrange (h : Rooted r b) (element : Nat) (tag : StartTag) {block : Nat} (hblock : block ∈ b.stack)
    (hother : Other r block) : Rooted r (b.rearrange element tag block) := by
  obtain ⟨rest, hrest⟩ := eq_takeWhile_append hblock
  have hinner := h.other_of_above hrest
  unfold Builder.rearrange
  extract_lets inner between outer m b₀ b₁ b₂
  have hm : m.Rooted r := Moving.rooted_copyBetween block between 3 _ ⟨h, hother, fun _ hi => nomatch hi⟩
  have h₁ : Rooted r b₁ := ⟨hm.builder.holds.detach hm.last.1, hm.builder.above, hm.builder.head⟩
  have h₂ : Rooted r b₂ := h₁.put _ hm.last.1
  clear_value b₂
  have hnew := h₂.create_other (.html tag.name) (attrsOf tag)
  have h₃ := h₂.create (.html tag.name) (attrsOf tag)
  have houter : outer.Pairwise fun i _ => Other r i := h.above.sublist (List.drop_sublist _ _)
  refine ⟨(h₃.holds.moveChildren hother.2 _).append hnew.1 block, ?_, h₃.head⟩
  refine above_append (fun i hi => ?_) houter
  rcases List.mem_append.1 hi with hi | hi
  · exact hinner i hi
  · rcases List.mem_cons.1 hi with rfl | hi
    · exact hnew
    · rcases List.mem_cons.1 hi with rfl | hi
      · exact hother
      · exact hm.between i hi

theorem Rooted.endFormatting (word : String) : ∀ (fuel : Nat) (b : Builder), Rooted r b →
    Rooted r (endFormatting word fuel b)
  | 0, _, h => h
  | fuel + 1, b, h => by
    unfold Builder.endFormatting
    split
    · exact h.endAny word
    · rename_i i tag _
      split
      · exact h.forget i
      · split
        · exact h
        · simp only
          split
          · exact h.sublist (List.drop_sublist _ _)
          · rename_i hopen _ _ block hblock
            have hi : i ∈ b.stack := by simpa using hopen
            obtain ⟨rest, hrest⟩ := eq_takeWhile_append hi
            have habove := List.mem_reverse.1 (List.mem_of_find?_eq_some hblock)
            have hmem := (List.takeWhile_sublist _).mem habove
            exact Rooted.endFormatting word fuel _ (h.rearrange i tag hmem (h.other_of_above hrest block habove))

@[grind ←]
theorem Rooted.adopt (h : Rooted r b) (word : String) : Rooted r (b.adopt word) := by
  unfold Builder.adopt
  split
  · exact h.pop
  · exact h.endFormatting word 8

end Harvest.Markup.Builder
