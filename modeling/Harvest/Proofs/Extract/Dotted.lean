import Harvest.Proofs.Extract.Embedded
/-!
# Paths put together, as selectors

A selector of two paths with a dot between them evaluates what the second one does on what the first one leads to
(`paths_compose`).
-/
namespace Harvest

/-- No pattern is behind an unmarked text with more behind a dot: marks have no dot in them. -/
theorem Selector.Unmarked.dotted {a : String} (ha : Unmarked a) (b : String) : Unmarked (a ++ "." ++ b) := by
  intro engine hmark
  have hdot : '.' ∉ (Pattern.Engine.mark engine).toList := by
    cases engine <;> decide
  have hchars : (a ++ "." ++ b).toList = a.toList ++ '.' :: b.toList := by simp
  rw [hchars] at hmark
  rcases List.prefix_or_prefix_of_prefix hmark (List.prefix_append _ _) with h | ⟨rest, hrest⟩
  · exact ha engine h
  · rw [← hrest, List.prefix_append_right_inj] at hmark
    cases rest with
    | nil => exact ha engine ⟨[], by rw [← hrest]; simp⟩
    | cons c rest =>
      rw [List.cons_prefix_cons] at hmark
      rw [← hrest, ← hmark.1] at hdot
      exact hdot (by simp)

theorem Selector.ofText_dotted {a : String} (ha : Unmarked a) (b : String) :
    ofText (a ++ "." ++ b) = .native (a ++ "." ++ b) :=
  ofText_unmarked (by simp) (ha.dotted b)

namespace Extract

variable {σ : Type}

/-- What has been read before does not count on a value that a path has led to. -/
theorem jsonTarget_blind (e : Evaluator σ) (n : Nat) (spec : Spec) (k : Json) {c c' : Cache} (hc : c.Faithful)
    (hc' : c'.Faithful) (d : Markup.Document) (outside : σ) :
    let one := e.jsonTarget (e.below n) spec k ⟨d, c, outside⟩
    let other := e.jsonTarget (e.below n) spec k ⟨d, c', outside⟩
    (∀ v, one.1 = .ok v ↔ other.1 = .ok v) ∧ one.2.outside = other.2.outside := by
  have hlevel : e.jsonTarget (e.below n) spec k = (e.below (n + 1)).json { spec with selector := .current } k := rfl
  obtain ⟨hvalue, houtside⟩ := below_withLimit e.registry e.maxDepth e.maxDepth (n + 1)
    { spec with selector := .current } k hc hc' d outside
  simp only [hlevel]
  refine ⟨fun v => ?_, houtside.symm⟩
  rw [hvalue]
  cases ((e.below (n + 1)).json { spec with selector := .current } k ⟨d, c, outside⟩).1 with
  | ok w => rfl
  | error err => simp [Except.mapError]

theorem follow_rest {a b : String} {i j : Json} (hi : Json.Path.follow a j = .ok i) (k : Json) :
    Json.Path.follow (a ++ "." ++ b) j = .ok k ↔ Json.Path.follow b i = .ok k := by
  rw [Json.Path.follow_dotted]
  constructor
  · rintro ⟨i', hi', hk⟩
    cases hi.symm.trans hi'
    exact hk
  · exact fun hk => ⟨i, hi, hk⟩

/-- **A selector behind another one and a dot** does on a value what it does by itself on what the other leads to. -/
theorem jsonNode_dotted (e : Evaluator σ) (n : Nat) (spec : Spec) {a b : String} (hempty : b ≠ "")
    (ha : Selector.Unmarked a) (hb : Selector.Unmarked b) {i j : Json} (hi : Json.Path.follow a j = .ok i)
    {c c' : Cache} (hc : c.Faithful) (hc' : c'.Faithful) (d : Markup.Document) (outside : σ) :
    let dotted := e.jsonNode (e.below n) (spec.withSelector (a ++ "." ++ b)) j ⟨d, c, outside⟩
    let direct := e.jsonNode (e.below n) (spec.withSelector b) i ⟨d, c', outside⟩
    (∀ v, dotted.1 = .ok v ↔ direct.1 = .ok v) ∧ dotted.2.outside = direct.2.outside := by
  have hdotted : (spec.withSelector (a ++ "." ++ b)).selector = .native (a ++ "." ++ b) := Selector.ofText_dotted ha b
  have hdirect : (spec.withSelector b).selector = .native b := Selector.ofText_unmarked hempty hb
  obtain ⟨r, hr, happ⟩ := native_apply e (e.below n) hdotted j ⟨d, c, outside⟩ hc
  obtain ⟨r', hr', happ'⟩ := native_apply e (e.below n) hdirect i ⟨d, c', outside⟩ hc'
  simp only [happ, happ']
  cases hk : Json.Path.follow b i with
  | ok k =>
    rw [(follow_rest hi k).2 hk]
    exact jsonTarget_blind e n spec k hr hr' d outside
  | error err =>
    cases hk' : Json.Path.follow (a ++ "." ++ b) j with
    | ok k => cases hk.symm.trans ((follow_rest hi k).1 hk')
    | error err' =>
      refine ⟨fun v => ?_, rfl⟩
      exact iff_of_false (fun h => nomatch h) fun h => nomatch h

/-- **Paths compose.**  The path of two texts with a dot between them is the path of the one and then that of the other,
and it leads where these lead one after the other; a path whose steps can be written comes back from its text; and a
selector behind another one and a dot does on a document what it does by itself on what the other one leads to. -/
theorem paths_compose (e : Evaluator σ) :
    (∀ a b path, Json.Path.parse (a ++ "." ++ b) = .ok path ↔
      ∃ p q, Json.Path.parse a = .ok p ∧ Json.Path.parse b = .ok q ∧ path = p ++ q) ∧
    (∀ (p q : Json.Path) (j k : Json),
      Json.Path.resolve (p ++ q) j = .ok k ↔ ∃ i, Json.Path.resolve p j = .ok i ∧ Json.Path.resolve q i = .ok k) ∧
    (∀ path : Json.Path, (∀ s ∈ path, s.Writable) → Json.Path.parse path.toText = .ok path) ∧
    ∀ (spec : Spec) (a b : String) (p : Json.Path) (i j : Json) (cache cache' : Cache) (outside : σ),
      a ≠ "" → b ≠ "" → Selector.Unmarked a → Selector.Unmarked b → Json.Path.parse a = .ok p → p.resolve j = .ok i →
      cache.Faithful → cache'.Faithful →
        let dotted := e.evaluate (spec.withSelector (a ++ "." ++ b)) (.json j) cache outside
        let direct := e.evaluate (spec.withSelector b) (.json i) cache' outside
        (∀ v, dotted.1 = .ok v ↔ direct.1 = .ok v) ∧ dotted.2.2.2 = direct.2.2.2 := by
  refine ⟨fun a b path => Json.Path.parse_dotted, fun p q j k => Json.Path.resolve_append,
    fun path h => Json.Path.parse_toText h, ?_⟩
  intro spec a b p i j cache cache' outside _ hempty ha hb hp hi hcache hcache'
  have hfollow : Json.Path.follow a j = .ok i := Json.Path.follow_eq_ok.2 ⟨p, hp, hi⟩
  exact jsonNode_dotted e e.maxDepth spec hempty ha hb hfollow hcache hcache' default outside

theorem paths_compose_title :
    let e : Evaluator Unit := { registry := .empty }
    let doc : Json := .object [("data", .array [.object [("title", .string "x")]])]
    Json.Path.parse "this[0].title" = .ok [.index 0, .key "title"] ∧
      (e.evaluate (Spec.withSelector { tag := .string } "data[0].title") (.json doc) {} ()).1 = .ok (.string "x") := by
  intro e doc
  obtain ⟨-, -, htext, hdotted⟩ := paths_compose e
  refine ⟨htext [.index 0, .key "title"] ?_, ?_⟩
  · simp [Json.Step.Writable]
  · refine ((hdotted { tag := .string } "data[0]" "title" [.key "data", .index 0] (.object [("title", .string "x")]) doc
      {} {} () (by decide) (by decide) ?_ ?_ rfl rfl Cache.faithful_empty Cache.faithful_empty).1 _).2 rfl
    · intro engine
      cases engine <;> decide
    · intro engine
      cases engine <;> decide

end Extract

end Harvest
