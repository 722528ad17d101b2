import Harvest.Proofs.Text.Find
/-!
# Pieces between separators

The pieces of a text are cut off it one after the other at the first place of a separator (`Parted`).  Splitting yields
them (`splitOn_eq_iff`), joining puts them together again (`Parted.join_eq`), and texts without a character are the
pieces of what they are joined to with it (`parted_join`).
-/
namespace Harvest.Text

/-- The pieces of a text between the places of a separator, each of which is the first one behind the place before. -/
inductive Parted (sep : List Char) : List Char → List (List Char) → Prop where
  | whole {cs : List Char} : ¬ sep <:+: cs → Parted sep cs [cs]
  | cut {before rest : List Char} {ps : List (List Char)} : ¬ sep <:+: before ++ sep.dropLast → Parted sep rest ps →
    Parted sep (before ++ (sep ++ rest)) (before :: ps)

variable {sep cs : List Char} {ps : List (List Char)}

/-! ## Splitting -/

theorem parted_go (hsep : sep ≠ []) : ∀ {fuel : Nat} {cs : List Char}, cs.length ≤ fuel →
    Parted sep cs (splitOn.go sep fuel cs)
  | 0, cs, h => by
    rw [List.length_eq_zero_iff.1 (Nat.le_zero.1 h)]
    exact .whole (by simpa using hsep)
  | fuel + 1, cs, h => by
    rw [splitOn.go]
    cases hcut : cut? sep cs with
    | none => exact .whole (cut?_eq_none.1 hcut)
    | some p =>
      obtain ⟨rfl, hfirst⟩ := (cut?_eq_some_iff hsep).1 hcut
      have hpos := List.length_pos_iff.2 hsep
      rw [List.length_append, List.length_append] at h
      exact .cut hfirst (parted_go hsep (by omega))

theorem Parted.go_eq (hsep : sep ≠ []) (h : Parted sep cs ps) : ∀ fuel : Nat, cs.length ≤ fuel →
    splitOn.go sep fuel cs = ps := by
  induction h with
  | whole hnot =>
    rintro (_ | fuel) _
    · rfl
    · rw [splitOn.go, cut?_eq_none.2 hnot]
  | @cut before rest ps hfirst _ ih =>
    intro fuel hfuel
    have hpos := List.length_pos_iff.2 hsep
    rw [List.length_append, List.length_append] at hfuel
    cases fuel with
    | zero => omega
    | succ fuel =>
      rw [splitOn.go, (cut?_eq_some_iff hsep).2 ⟨rfl, hfirst⟩]
      exact congrArg (before :: ·) (ih fuel (by omega))

/-- **Splitting yields the pieces of a text, and nothing else.** -/
theorem splitOn_eq_iff (hsep : sep ≠ []) : splitOn sep cs = ps ↔ Parted sep cs ps :=
  ⟨fun h => h ▸ parted_go hsep (Nat.le_refl _), fun h => h.go_eq hsep _ (Nat.le_refl _)⟩

/-! ## Joining -/

theorem Parted.ne_nil (h : Parted sep cs ps) : ps ≠ [] := by
  cases h <;> exact List.cons_ne_nil _ _

/-- **The pieces of a text with the separator between them are the text.** -/
theorem Parted.join_eq (h : Parted sep cs ps) : join sep ps = cs := by
  induction h with
  | whole => rfl
  | cut _ hrest ih => rw [join_cons _ _ hrest.ne_nil, ih, List.append_assoc]

/-- **Texts without a character are the pieces of what they are joined to with it.** -/
theorem parted_join {c : Char} : ∀ {ps : List (List Char)}, ps ≠ [] → (∀ p ∈ ps, c ∉ p) →
    Parted [c] (join [c] ps) ps
  | [p], _, h => .whole (by simpa [join, List.singleton_infix_iff] using h)
  | p :: q :: ps, _, h => by
    obtain ⟨hp, hrest⟩ := List.forall_mem_cons.1 h
    rw [join_cons [c] p (List.cons_ne_nil q ps), List.append_assoc]
    exact .cut (by simpa [List.singleton_infix_iff] using hp) (parted_join (List.cons_ne_nil q ps) hrest)

theorem join_eq_intercalate (sep : List Char) : ∀ ps : List (List Char), join sep ps = sep.intercalate ps
  | [] => rfl
  | [p] => List.intercalate_singleton.symm
  | p :: q :: ps => by
    rw [join_cons sep p (List.cons_ne_nil q ps), join_eq_intercalate, List.intercalate_cons_cons]

/-! ## The ends of joined texts -/

theorem head?_join {p : List Char} (hp : p ≠ []) (ps : List (List Char)) : (join sep (p :: ps)).head? = p.head? := by
  cases ps with
  | nil => rfl
  | cons q ps =>
    rw [join_cons sep p (List.cons_ne_nil q ps), List.append_assoc, List.head?_append_of_ne_nil _ hp]

theorem getLast?_join {p : List Char} (hp : p ≠ []) (ps : List (List Char)) :
    (join sep (ps ++ [p])).getLast? = p.getLast? := by
  cases ps with
  | nil => rfl
  | cons q ps =>
    rw [join_concat sep p (List.cons_ne_nil q ps), List.getLast?_append_of_ne_nil _ (by simp [hp]),
      List.getLast?_append_of_ne_nil _ hp]

theorem join_ne_nil (hps : ps ≠ []) (hne : ∀ p ∈ ps, p ≠ []) : join sep ps ≠ [] := by
  obtain ⟨p, ps, rfl⟩ := List.exists_cons_of_ne_nil hps
  have hp := hne p List.mem_cons_self
  intro h
  have hhead : (join sep (p :: ps)).head? = p.head? := head?_join hp ps
  rw [h] at hhead
  exact hp (List.head?_eq_none_iff.1 hhead.symm)

/-- Nothing is trimmed of joined texts if neither the first of them starts nor the last ends with the class. -/
theorem trimBy_join {class_ : Char → Bool} (sep : List Char) (hne : ∀ p ∈ ps, p ≠ [])
    (hfirst : ∀ p ∈ ps.head?, ∀ c ∈ p.head?, class_ c = false)
    (hlast : ∀ p ∈ ps.getLast?, ∀ c ∈ p.getLast?, class_ c = false) : trimBy class_ (join sep ps) = join sep ps := by
  refine trimBy_of_ends ?_ ?_
  · cases ps with
    | nil => exact nofun
    | cons p ps =>
      rw [head?_join (hne p List.mem_cons_self)]
      exact hfirst p rfl
  · rcases ps.eq_nil_or_concat with rfl | ⟨front, p, rfl⟩
    · exact nofun
    · rw [List.concat_eq_append] at hne hlast ⊢
      rw [getLast?_join (hne p List.mem_concat_self)]
      exact hlast p List.getLast?_concat

end Harvest.Text
