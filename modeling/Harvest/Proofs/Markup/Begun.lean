import Harvest.Proofs.Markup.RootedRules
import Harvest.Proofs.Markup.Token
/-!
# Every text has a root element

Before there is a root element nothing is open, and only comments and a document type can have been added (`Bare`).
What ends that adds the root element; the end of the text does so at the latest.
-/
namespace Harvest.Markup

namespace Builder

/-- There is no root element yet. -/
structure Bare (b : Builder) : Prop where
  tidy : b.tree.Tidy
  mode : b.mode = .initial ∨ b.mode = .beforeHtml
  stack : b.stack = []
  head : b.head = none

/-- There is no root element yet, or there is one in its place. -/
def Begun (b : Builder) : Prop := Bare b ∨ ∃ r, Rooted r b

variable {b : Builder}

theorem bare_start : Bare start := ⟨Growth.tidy_start, .inl rfl, rfl, rfl⟩

theorem Bare.addCommentTo (h : Bare b) (text : String) : Bare (b.addCommentTo 0 text) :=
  ⟨h.tidy.adopt _, h.mode, h.stack, h.head⟩

/-- The root element is new, and the same is known as the head as before. -/
theorem insertRoot_eq (b : Builder) (attrs : List Attr) : b.insertRoot attrs =
    { b with tree := b.tree.adopt (.element (.html "html") attrs), stack := [b.tree.cells.size] } := by
  have hname : Name.is "template" (.html "html") = false := by decide
  simp [Builder.insertRoot, Builder.create, hname, Growth.adopt, Growth.create]

/-- **The first root element is in its place.** -/
theorem Bare.insertRoot (h : Bare b) (attrs : List Attr) : Rooted b.tree.cells.size (b.insertRoot attrs) := by
  rw [insertRoot_eq]
  refine ⟨h.tidy.holds_adopt rfl, List.pairwise_singleton _ _, fun i hi => ?_⟩
  have hhead : b.head = some i := hi
  rw [h.head] at hhead
  cases hhead

theorem Bare.initial (h : Bare b) (t : Token) : Begun (b.initial t).1 := by
  unfold Builder.initial
  split
  · exact .inl h
  · exact .inl (h.addCommentTo _)
  · exact .inl ⟨h.tidy.adopt _, .inr rfl, h.stack, h.head⟩
  · exact .inl ⟨h.tidy, .inr rfl, h.stack, h.head⟩

theorem Bare.beforeHtml (h : Bare b) (t : Token) : Begun (b.beforeHtml t).1 := by
  unfold Builder.beforeHtml
  split
  · exact .inl h
  · exact .inl (h.addCommentTo _)
  · split
    · exact .inr ⟨_, h.insertRoot _⟩
    · exact .inr ⟨_, h.insertRoot _⟩
  · split
    · exact .inr ⟨_, h.insertRoot _⟩
    · exact .inl h
  · exact .inr ⟨_, h.insertRoot _⟩

theorem Bare.rule (h : Bare b) (t : Token) : Begun (b.rule t).1 := by
  unfold Builder.rule
  rcases h.mode with hm | hm
  · rw [hm]
    exact h.initial t
  · rw [hm]
    exact h.beforeHtml t

theorem Bare.isForeign (h : Bare b) (t : Token) : b.isForeign t = false := by
  unfold Builder.isForeign
  simp [h.stack]

theorem Begun.feed : ∀ (fuel : Nat) (t : Token) (b : Builder), Begun b → Begun (feed fuel t b)
  | 0, _, _, h => h
  | fuel + 1, t, b, .inr ⟨r, h⟩ => .inr ⟨r, h.feed (fuel + 1) t b⟩
  | fuel + 1, t, b, .inl h => by
    have hstep := h.rule t
    unfold Builder.feed
    rw [h.isForeign]
    simp only [Bool.false_eq_true, if_false]
    split
    · rename_i b' hb
      rw [hb] at hstep
      exact hstep
    · rename_i b' t' hb
      rw [hb] at hstep
      exact feed fuel t' b' hstep

theorem Begun.take (h : Begun b) (t : Token) : Begun (b.take t) :=
  take_induction (P := Begun) (fun _ h => h.imp (fun h => ⟨h.tidy, h.mode, h.stack, h.head⟩) id)
    (fun _ h => h.imp (fun h => ⟨h.tidy, h.mode, h.stack, h.head⟩) id) Begun.feed h t

/-! ## The end of the text -/

/-- The end of the text changes hands once or twice before the root element is there. -/
theorem Bare.feed_eof (h : Bare b) (fuel : Nat) : ∃ r, Rooted r (Builder.feed (fuel + 2) .eof b) := by
  have hroot : ∀ fuel b, Bare b → b.mode = .beforeHtml → ∃ r, Rooted r (Builder.feed (fuel + 1) .eof b) := by
    intro fuel b hb hm
    refine ⟨b.tree.cells.size, ?_⟩
    unfold Builder.feed Builder.rule
    rw [hb.isForeign, hm]
    exact Rooted.feed fuel .eof _ ((hb.insertRoot []).again .beforeHead .eof)
  rcases h.mode with hm | hm
  · unfold Builder.feed Builder.rule
    rw [h.isForeign, hm]
    exact hroot fuel _ ⟨h.tidy, .inr rfl, h.stack, h.head⟩ rfl
  · exact hroot (fuel + 1) b h hm

theorem take_eof_eq (b : Builder) :
    b.take .eof = Builder.feed (4 * b.stack.length + 32) .eof { b with skipNewline := false } := by
  have htrimmed : b.trimmed .eof = .eof := by
    unfold trimmed
    split
    · rename_i h
      cases h
    · rename_i h
      cases h
    · rfl
  unfold Builder.take
  rw [htrimmed]
  rfl

theorem Begun.take_eof : Begun b → ∃ r, Rooted r (b.take .eof)
  | .inr ⟨r, h⟩ => ⟨r, h.take .eof⟩
  | .inl h => by
    have hbare : Bare { b with skipNewline := false } := ⟨h.tidy, h.mode, h.stack, h.head⟩
    rw [take_eof_eq]
    exact hbare.feed_eof (4 * b.stack.length + 30)

theorem rooted_takeAll : ∀ (fuel : Nat) (b : Builder) (cs : List Char), Begun b → cs.length < fuel →
    ∃ r, Rooted r (takeAll fuel b cs)
  | 0, _, _, _, hlt => absurd hlt (Nat.not_lt_zero _)
  | fuel + 1, b, cs, h, hlt => by
    unfold takeAll
    simp only
    have htakes := Token.takes_next b.reading (!b.stack.isEmpty && b.currentName.space != .html) cs
    split
    · exact h.take_eof
    · rename_i t rest hne hnext
      rw [hnext] at htakes
      have hlt' : rest.length < cs.length := htakes.resolve_left hne
      exact rooted_takeAll fuel _ rest (h.take t) (by omega)

end Builder

/-! ## The tree -/

def Tree.data : Tree → Data
  | .node data _ => data

def Tree.kids : Tree → List Tree
  | .node _ kids => kids

/-- The top is no element, but there is one right below it. -/
structure Tree.IsRooted (t : Tree) : Prop where
  top : t.data.isElement = false
  root : ∃ kid ∈ t.kids, kid.data.isElement = true

theorem Growth.data_finish (g : Growth) (fuel i : Nat) : (g.finish fuel i).data = g.data i := by
  cases fuel <;> rfl

theorem Growth.Holds.isRooted {g : Growth} {r : Nat} (h : g.Holds r) : g.tree.IsRooted := by
  unfold Growth.tree
  obtain ⟨n, hn⟩ := Nat.exists_eq_add_one_of_ne_zero (Nat.ne_of_gt (Nat.zero_lt_of_lt h.lt))
  rw [hn]
  refine ⟨h.top, g.finish n r, List.mem_map_of_mem (Array.mem_toList_iff.2 h.kid), ?_⟩
  rw [Growth.data_finish]
  exact h.element

/-- **The tree of every text has a root element.** -/
theorem parse_isRooted (text : String) : (parse text).IsRooted := by
  have hfuel : (normalize text.toList).length < 2 * (normalize text.toList).length + 2 := by omega
  obtain ⟨r, hr⟩ := Builder.rooted_takeAll _ .start (normalize text.toList) (.inl Builder.bare_start) hfuel
  exact hr.holds.isRooted

end Harvest.Markup
