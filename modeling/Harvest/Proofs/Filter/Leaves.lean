import Harvest.Filter.Basic
/-!
# The strings in a value

The strings of a value stand in it in an order.  Rewriting them one by one is rewriting their list from first to last,
and putting what comes of it in their places (`mapStringsM_eq`); this holds for every kind of effect.
-/
namespace Harvest

namespace Value

mutual
/-- The strings of a value that filters rewrite, from first to last. -/
def leaves : Value → List String
  | .string s => [s]
  | .strings ss => ss
  | .array items => itemLeaves items
  | _ => []

def itemLeaves : List Value → List String
  | [] => []
  | v :: vs => v.leaves ++ itemLeaves vs
end

mutual
/-- A value with some texts, as many as it has strings, in the places of its strings. -/
def withLeaves : Value → List String → Value
  | .string s, texts => .string (texts.headD s)
  | .strings _, texts => .strings texts
  | .array items, texts => .array (itemsWithLeaves items texts)
  | v, _ => v

/-- The items of a list with some texts in the places of their strings. -/
def itemsWithLeaves : List Value → List String → List Value
  | [], _ => []
  | v :: vs, texts =>
    v.withLeaves (texts.take v.leaves.length) :: itemsWithLeaves vs (texts.drop v.leaves.length)
end

mutual
theorem leaves_withLeaves : ∀ (v : Value) {texts : List String}, texts.length = v.leaves.length →
    (v.withLeaves texts).leaves = texts
  | .string s, texts, h => by
    obtain ⟨t, rfl⟩ := List.length_eq_one_iff.1 h
    rfl
  | .strings ss, texts, h => rfl
  | .array items, texts, h => itemLeaves_itemsWithLeaves items h
  | .int _, texts, h | .float _, texts, h | .bool _, texts, h | .ints _, texts, h | .floats _, texts, h
  | .bools _, texts, h | .map _, texts, h | .json _, texts, h => (List.eq_nil_of_length_eq_zero h).symm

theorem itemLeaves_itemsWithLeaves : ∀ (vs : List Value) {texts : List String}, texts.length = (itemLeaves vs).length →
    itemLeaves (itemsWithLeaves vs texts) = texts
  | [], texts, h => (List.eq_nil_of_length_eq_zero h).symm
  | v :: vs, texts, h => by
    rw [itemLeaves, List.length_append] at h
    rw [itemsWithLeaves, itemLeaves, leaves_withLeaves v (by rw [List.length_take]; omega),
      itemLeaves_itemsWithLeaves vs (by rw [List.length_drop]; omega), List.take_append_drop]
end

mutual
theorem withLeaves_leaves : ∀ v : Value, v.withLeaves v.leaves = v
  | .string _ | .strings _ => rfl
  | .array items => congrArg Value.array (itemsWithLeaves_itemLeaves items)
  | .int _ | .float _ | .bool _ | .ints _ | .floats _ | .bools _ | .map _ | .json _ => rfl

theorem itemsWithLeaves_itemLeaves : ∀ vs : List Value, itemsWithLeaves vs (itemLeaves vs) = vs
  | [] => rfl
  | v :: vs => by
    rw [itemLeaves, itemsWithLeaves, List.take_left, List.drop_left, withLeaves_leaves v,
      itemsWithLeaves_itemLeaves vs]
end

mutual
/-- The strings of a value put back undo whatever stood in their places. -/
theorem withLeaves_undo : ∀ (v : Value) {texts : List String}, texts.length = v.leaves.length →
    (v.withLeaves texts).withLeaves v.leaves = v
  | .string _, _, _ | .strings _, _, _ => rfl
  | .array items, _, h => congrArg Value.array (itemsWithLeaves_undo items h)
  | .int _, _, _ | .float _, _, _ | .bool _, _, _ | .ints _, _, _ | .floats _, _, _ | .bools _, _, _ | .map _, _, _
  | .json _, _, _ => rfl

theorem itemsWithLeaves_undo : ∀ (vs : List Value) {texts : List String}, texts.length = (itemLeaves vs).length →
    itemsWithLeaves (itemsWithLeaves vs texts) (itemLeaves vs) = vs
  | [], _, _ => rfl
  | v :: vs, texts, h => by
    rw [itemLeaves, List.length_append] at h
    have hfirst : (texts.take v.leaves.length).length = v.leaves.length := by
      rw [List.length_take]
      omega
    have hrest : (texts.drop v.leaves.length).length = (itemLeaves vs).length := by
      rw [List.length_drop]
      omega
    rw [itemsWithLeaves, itemLeaves, itemsWithLeaves, leaves_withLeaves v hfirst, hfirst, List.take_left,
      List.drop_left, withLeaves_undo v hfirst, itemsWithLeaves_undo vs hrest]
end

section

variable {m : Type → Type} [Monad m] [LawfulMonad m]

/-- What goes on behind a traversal sees lists of the length of the one that is traversed. -/
theorem mapM_bind_congr {α β γ : Type} {f : α → m β} :
    ∀ (as : List α) {k k' : List β → m γ}, (∀ bs, bs.length = as.length → k bs = k' bs) →
      as.mapM f >>= k = as.mapM f >>= k'
  | [], k, k', h => by rw [List.mapM_nil, pure_bind, pure_bind, h [] rfl]
  | a :: as, k, k', h => by
    rw [List.mapM_cons, bind_assoc, bind_assoc]
    refine bind_congr fun b => ?_
    rw [bind_assoc, bind_assoc]
    refine mapM_bind_congr as fun bs hbs => ?_
    rw [pure_bind, pure_bind, h (b :: bs) (congrArg Nat.succ hbs)]

variable (f : String → m String)

mutual
/-- **Rewriting the strings of a value is rewriting their list.** -/
theorem mapStringsM_eq : ∀ v : Value, v.mapStringsM f = v.withLeaves <$> v.leaves.mapM f
  | .string s => by
    rw [mapStringsM, leaves, List.mapM_cons, List.mapM_nil, map_bind]
    simp only [pure_bind, map_pure]
    rfl
  | .strings ss => by
    rw [mapStringsM, leaves, bind_pure_comp]
    rfl
  | .array items => by
    rw [mapStringsM, leaves, mapItemsM_eq items, bind_pure_comp, ← comp_map]
    rfl
  | .int _ | .float _ | .bool _ | .ints _ | .floats _ | .bools _ | .map _ | .json _ => by
    rw [mapStringsM, leaves, List.mapM_nil, map_pure]
    · rfl
    all_goals nofun

theorem mapItemsM_eq : ∀ vs : List Value, mapItemsM f vs = itemsWithLeaves vs <$> (itemLeaves vs).mapM f
  | [] => by
    rw [mapItemsM, itemLeaves, List.mapM_nil, map_pure]
    rfl
  | v :: vs => by
    rw [mapItemsM, itemLeaves, List.mapM_append, mapStringsM_eq v, mapItemsM_eq vs]
    simp only [map_eq_pure_bind, bind_assoc, pure_bind]
    refine mapM_bind_congr _ fun texts htexts => ?_
    simp only [itemsWithLeaves, ← htexts, List.take_left, List.drop_left]
end

end

end Value

end Harvest
