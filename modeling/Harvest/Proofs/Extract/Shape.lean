import Harvest.Extract.Conversion
import Harvest.Proofs.Extract.Link
import Harvest.Spec.Basic
/-!
# What a value of a type looks like

`Shape` says what the value of one node is, given what the values of its children are; `Conforms` is the same all the
way down the tree.  The conversions of texts give values of the shape of their type.
-/
namespace Harvest

namespace Spec

/-- A property of all nodes of a tree. -/
inductive All (P : Spec → Prop) : Spec → Prop where
  | node {s : Spec} : P s → (∀ c ∈ s.children, All P c) → All P s

theorem All.here {P : Spec → Prop} {s : Spec} : All P s → P s
  | .node h _ => h

theorem All.child {P : Spec → Prop} {s : Spec} : All P s → ∀ c ∈ s.children, All P c
  | .node _ h => h

theorem All.of_forall {P : Spec → Prop} (h : ∀ s, P s) : ∀ s, All P s
  | ⟨name, selector, tag, filter, children⟩ => .node (h _) fun c _ => All.of_forall h c

theorem All.mono {P Q : Spec → Prop} (h : ∀ s, P s → Q s) : ∀ {s : Spec}, All P s → All Q s
  | _, .node hs hcs => .node (h _ hs) fun c hc => All.mono h (hcs c hc)

theorem All.and {P Q : Spec → Prop} : ∀ {s : Spec}, All P s → All Q s → All (fun s => P s ∧ Q s) s
  | _, .node h hs, .node h' hs' => .node ⟨h, h'⟩ fun c hc => All.and (hs c hc) (hs' c hc)

theorem template_eq_ok {s c : Spec} (h : s.template = .ok c) : s.children = [c] := by
  unfold template at h
  split at h
  · cases h
  · rename_i only hc
    cases h
    exact hc
  · cases h

theorem mem_namedChildren {s c : Spec} : c ∈ s.namedChildren ↔ c ∈ s.children ∧ c.name ≠ "" := by
  unfold namedChildren
  rw [List.mem_filter]
  simp

end Spec

namespace Extract

variable {α β : Type}

/-- What a value of a node is, where `Q` says the same of the values of its children. -/
def Shape (Q : Spec → Value → Prop) (spec : Spec) (v : Value) : Prop :=
  match spec.tag with
  | .int => ∃ n, v = .int n
  | .float => ∃ x, v = .float x
  | .bool => ∃ b, v = .bool b
  | .string | .text | .html | .outHtml | .href | .src | .alt | .attr _ => ∃ s, v = .string s
  | .ints => ∃ ns, v = .ints ns
  | .floats => ∃ xs, v = .floats xs
  | .bools => ∃ bs, v = .bools bs
  | .strings | .texts | .hrefs | .attrs _ => ∃ ss, v = .strings ss
  | .json => ∃ j, v = .json j
  | .jsonParse => ∃ c, spec.children = [c] ∧ Q c v
  | .array => ∃ c, spec.children = [c] ∧ ∃ items, v = .array items ∧ ∀ w ∈ items, Q c w
  | .map =>
    ∃ fields, v = .map fields ∧ ∀ p ∈ fields, p.1 ≠ "" ∧ ∃ c ∈ spec.children, c.name = p.1 ∧ Q c p.2
  | .unknown _ => False

/-- A value of the shape of its node all the way down. -/
def Conforms (spec : Spec) (v : Value) : Prop := Shape (fun c w => ∃ _ : c ∈ spec.children, Conforms c w) spec v
termination_by spec
decreasing_by
  cases spec
  rename_i h
  have := List.sizeOf_lt_of_mem h
  simp_all only [Spec.mk.sizeOf_spec]
  omega

theorem Shape.mono {Q R : Spec → Value → Prop} {spec : Spec} {v : Value}
    (h : ∀ c ∈ spec.children, ∀ w, Q c w → R c w) (hv : Shape Q spec v) : Shape R spec v := by
  unfold Shape at hv ⊢
  split at hv <;> try exact hv
  · obtain ⟨c, hc, hq⟩ := hv
    exact ⟨c, hc, h c (by simp [hc]) v hq⟩
  · obtain ⟨c, hc, items, rfl, hq⟩ := hv
    exact ⟨c, hc, items, rfl, fun w hw => h c (by simp [hc]) w (hq w hw)⟩
  · obtain ⟨fields, rfl, hq⟩ := hv
    refine ⟨fields, rfl, fun p hp => ?_⟩
    obtain ⟨hne, c, hc, hn, hcq⟩ := hq p hp
    exact ⟨hne, c, hc, hn, h c hc p.2 hcq⟩

theorem conforms_iff (spec : Spec) (v : Value) : Conforms spec v ↔ Shape Conforms spec v := by
  rw [Conforms]
  exact ⟨Shape.mono fun c _ w ⟨_, hw⟩ => hw, Shape.mono fun c hc w hw => ⟨hc, hw⟩⟩

/-! ## Conversions -/

theorem map_eq_ok {r : Except ExtractError α} {f : α → β} {b : β} (h : r.map f = .ok b) : ∃ a, b = f a := by
  cases r with
  | ok a => exact ⟨a, by cases h; rfl⟩
  | error e => cases h

theorem shape_scalarOfText {Q : Spec → Value → Prop} {spec : Spec} {text : String} {v : Value}
    (htag : spec.tag = .int ∨ spec.tag = .float ∨ spec.tag = .bool ∨ spec.tag = .string ∨ spec.tag = .text)
    (h : scalarOfText spec.tag text = .ok v) : Shape Q spec v := by
  unfold Shape
  rcases htag with ht | ht | ht | ht | ht <;> rw [ht] at h ⊢
  · exact map_eq_ok h
  · exact map_eq_ok h
  · exact map_eq_ok h
  · exact ⟨text, by cases h; rfl⟩
  · exact ⟨text, by cases h; rfl⟩

theorem shape_listOfTexts {Q : Spec → Value → Prop} {spec : Spec} {texts : List String} {v : Value}
    (htag : spec.tag = .ints ∨ spec.tag = .floats ∨ spec.tag = .bools ∨ spec.tag = .strings ∨ spec.tag = .texts)
    (h : listOfTexts spec.tag texts = .ok v) : Shape Q spec v := by
  unfold Shape
  rcases htag with ht | ht | ht | ht | ht <;> rw [ht] at h ⊢
  · exact map_eq_ok h
  · exact map_eq_ok h
  · exact map_eq_ok h
  · exact ⟨texts, by cases h; rfl⟩
  · exact ⟨texts, by cases h; rfl⟩

end Extract

end Harvest
