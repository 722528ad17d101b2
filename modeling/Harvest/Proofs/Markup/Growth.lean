import Harvest.Markup.Tree
/-!
# A child of the document stays one

Once an element is right below the document and nowhere else, nothing that moves other nodes changes that (`Holds`):
each way of changing a growing tree keeps it, as long as the node itself is not moved.
-/
namespace Harvest.Markup.Growth

/-! ## Cells -/

theorem cell_modify (g : Growth) (i : Nat) (f : Cell → Cell) (j : Nat) :
    (g.modify i f).cell j = if i = j ∧ j < g.cells.size then f (g.cell j) else g.cell j := by
  unfold cell modify
  by_cases hj : j < g.cells.size
  · simp [Array.getD, hj, Array.getElem_modify]
  · simp [Array.getD, hj]

theorem size_modify (g : Growth) (i : Nat) (f : Cell → Cell) : (g.modify i f).cells.size = g.cells.size :=
  Array.size_modify

theorem cell_create (g : Growth) (d : Data) (j : Nat) :
    (g.create d).2.cell j = if j = g.cells.size then ⟨d, none, #[]⟩ else g.cell j := by
  unfold cell create
  by_cases hj : j < g.cells.size
  · have hne : j ≠ g.cells.size := by omega
    simp [Array.getD, hj, hne, Array.getElem_push, Nat.lt_succ_of_lt hj]
  · by_cases he : j = g.cells.size
    · simp [Array.getD, he]
    · have hlt : ¬ j < g.cells.size + 1 := by omega
      simp [Array.getD, hj, he, hlt]

/-! ## The root -/

/-- An element that is right below the document and below nothing else; the document itself is no element. -/
structure Holds (g : Growth) (r : Nat) : Prop where
  top : (g.data 0).isElement = false
  ne_zero : r ≠ 0
  lt : r < g.cells.size
  element : (g.data r).isElement = true
  kid : r ∈ (g.cell 0).kids
  only : ∀ p, r ∈ (g.cell p).kids → p = 0

variable {g : Growth} {r : Nat}

/-- A change of one cell that neither adds nor takes the root. -/
theorem Holds.modify (h : g.Holds r) {i : Nat} {f : Cell → Cell} (hkids : ∀ c, r ∈ (f c).kids ↔ r ∈ c.kids)
    (hdata : ∀ c, (f c).data.isElement = c.data.isElement) : (g.modify i f).Holds r := by
  have helement : ∀ j, ((g.modify i f).data j).isElement = (g.data j).isElement := by
    intro j
    unfold data
    rw [cell_modify]
    split
    · exact hdata _
    · rfl
  have hcell : ∀ j, r ∈ ((g.modify i f).cell j).kids ↔ r ∈ (g.cell j).kids := by
    intro j
    rw [cell_modify]
    split
    · exact hkids _
    · exact Iff.rfl
  refine ⟨(helement 0).trans h.top, h.ne_zero, ?_, (helement r).trans h.element, (hcell 0).2 h.kid,
    fun p hp => h.only p ((hcell p).1 hp)⟩
  rw [size_modify]
  exact h.lt

theorem Holds.create (h : g.Holds r) (d : Data) : (g.create d).2.Holds r := by
  have hne : r ≠ g.cells.size := Nat.ne_of_lt h.lt
  have h0 : 0 ≠ g.cells.size := fun h0 => by
    have := h.lt
    omega
  refine ⟨?_, h.ne_zero, ?_, ?_, ?_, fun p hp => ?_⟩
  · unfold data
    rw [cell_create, if_neg h0]
    exact h.top
  · exact Nat.lt_of_lt_of_le h.lt (by simp [Growth.create])
  · unfold data
    rw [cell_create, if_neg hne]
    exact h.element
  · rw [cell_create, if_neg h0]
    exact h.kid
  · rw [cell_create] at hp
    split at hp
    · simp at hp
    · exact h.only p hp

theorem Holds.create_ne (h : g.Holds r) (d : Data) : (g.create d).1 ≠ r := Nat.ne_of_gt h.lt

theorem Holds.putIn (h : g.Holds r) (i : Nat) (p : Option Nat) :
    (g.modify i fun c => { c with parent := p }).Holds r := h.modify (fun _ => Iff.rfl) fun _ => rfl

/-- The children of a node change, but the root stays one if it is. -/
theorem Holds.rearrange (h : g.Holds r) {f : Array Nat → Array Nat} (hf : ∀ kids, r ∈ f kids ↔ r ∈ kids) (p : Nat) :
    (g.modify p fun c => { c with kids := f c.kids }).Holds r := h.modify (fun c => hf c.kids) fun _ => rfl

theorem Holds.detach (h : g.Holds r) {i : Nat} (hi : i ≠ r) : (g.detach i).Holds r := by
  unfold Growth.detach
  split
  · exact h
  · rename_i p _
    have hkids : ∀ kids : Array Nat, r ∈ kids.filter (· != i) ↔ r ∈ kids := fun kids => by simp [Ne.symm hi]
    exact (h.rearrange hkids p).putIn i none

theorem Holds.append (h : g.Holds r) {i : Nat} (hi : i ≠ r) (parent : Nat) : (g.append parent i).Holds r := by
  have hkids : ∀ kids : Array Nat, r ∈ kids.push i ↔ r ∈ kids := fun kids => by simp [Ne.symm hi]
  exact ((h.detach hi).rearrange hkids parent).putIn i (some parent)

theorem mem_insertInto {kids : Array Nat} {sibling i : Nat} (hi : i ≠ r) :
    r ∈ insertInto kids sibling i ↔ r ∈ kids := by
  unfold insertInto
  rw [List.mem_toArray, List.mem_flatMap]
  constructor
  · rintro ⟨k, hk, hr⟩
    split at hr
    · rcases List.mem_cons.1 hr with rfl | hr
      · exact absurd rfl hi
      · rw [List.mem_singleton.1 hr]
        exact Array.mem_toList_iff.1 hk
    · rw [List.mem_singleton.1 hr]
      exact Array.mem_toList_iff.1 hk
  · intro hr
    refine ⟨r, Array.mem_toList_iff.2 hr, ?_⟩
    split <;> simp

theorem Holds.insertBefore (h : g.Holds r) {i : Nat} (hi : i ≠ r) (sibling : Nat) :
    (g.insertBefore sibling i).Holds r := by
  unfold Growth.insertBefore
  simp only
  split
  · exact h.detach hi
  · rename_i p _
    exact ((h.detach hi).rearrange (fun kids => mem_insertInto hi) p).putIn i (some p)

theorem Holds.extend (h : g.Holds r) (i : Nat) (s : String) : (g.extend i s).Holds r := by
  refine h.modify (fun c => ?_) fun c => ?_
  · split <;> exact Iff.rfl
  · split
    · rename_i hd
      rw [hd]
      rfl
    · rfl

theorem Holds.appendText (h : g.Holds r) (parent : Nat) (s : String) : (g.appendText parent s).Holds r := by
  have hnew : ((g.create (.text s)).2.append parent (g.create (.text s)).1).Holds r :=
    (h.create _).append (h.create_ne _) parent
  unfold Growth.appendText
  split
  · split
    · exact h.extend _ s
    · exact hnew
  · exact hnew

theorem Holds.insertText (h : g.Holds r) (sibling : Nat) (s : String) : (g.insertText sibling s).Holds r := by
  have hnew : ((g.create (.text s)).2.insertBefore sibling (g.create (.text s)).1).Holds r :=
    (h.create _).insertBefore (h.create_ne _) sibling
  unfold Growth.insertText
  split
  · exact h
  · split
    · split
      · exact h.extend _ s
      · exact hnew
    · exact hnew

/-- The children of any node but the document can be moved. -/
theorem Holds.moveChildren (h : g.Holds r) {source : Nat} (hs : source ≠ 0) (target : Nat) :
    (g.moveChildren source target).Holds r := by
  have hkids : ∀ i ∈ (g.cell source).kids.toList, i ≠ r := by
    rintro i hi rfl
    exact hs (h.only source (Array.mem_toList_iff.1 hi))
  unfold Growth.moveChildren
  rw [← Array.foldl_toList]
  generalize (g.cell source).kids.toList = is at hkids
  induction is generalizing g with
  | nil => exact h
  | cons i is ih =>
    have hg := h.append (hkids i List.mem_cons_self) target
    exact ih hg fun j hj => hkids j (List.mem_cons_of_mem i hj)

theorem Holds.addAttrs (h : g.Holds r) (i : Nat) (attrs : List Attr) : (g.addAttrs i attrs).Holds r := by
  refine h.modify (fun c => ?_) fun c => ?_
  · split <;> exact Iff.rfl
  · split
    · rename_i hd
      rw [hd]
      rfl
    · rfl

/-! ## The first one -/

/-- There is a document, and no node has a child that there is not. -/
structure Tidy (g : Growth) : Prop where
  top : (g.data 0).isElement = false
  pos : 0 < g.cells.size
  lt : ∀ p, ∀ k ∈ (g.cell p).kids, k < g.cells.size

def adopt (g : Growth) (d : Data) : Growth := (g.create d).2.append 0 (g.create d).1

theorem cell_adopt (h : 0 < g.cells.size) (d : Data) (j : Nat) :
    (g.adopt d).cell j = if j = g.cells.size then ⟨d, some 0, #[]⟩
      else if j = 0 then { g.cell 0 with kids := (g.cell 0).kids.push g.cells.size } else g.cell j := by
  have hdetach : (g.create d).2.detach g.cells.size = (g.create d).2 := by
    unfold Growth.detach
    rw [cell_create, if_pos rfl]
  have hsize : (g.create d).2.cells.size = g.cells.size + 1 := Array.size_push _
  unfold adopt Growth.append
  rw [show (g.create d).1 = g.cells.size from rfl, hdetach]
  simp only [cell_modify, size_modify, cell_create, hsize]
  by_cases hj : j = g.cells.size
  · subst hj
    simp [Nat.ne_of_lt h]
  · by_cases h0 : j = 0
    · subst h0
      simp [hj, Ne.symm hj]
    · simp [hj, h0, Ne.symm hj, Ne.symm h0]

theorem size_adopt (g : Growth) (d : Data) : (g.adopt d).cells.size = g.cells.size + 1 := by
  have hsize : ∀ g : Growth, ∀ i, (g.detach i).cells.size = g.cells.size := by
    intro g i
    unfold Growth.detach
    split
    · rfl
    · rw [size_modify, size_modify]
  unfold adopt Growth.append
  rw [size_modify, size_modify, hsize]
  exact Array.size_push _

theorem data_adopt_zero (h : 0 < g.cells.size) (d : Data) : (g.adopt d).data 0 = g.data 0 := by
  unfold data
  rw [cell_adopt h, if_neg (Nat.ne_of_lt h), if_pos rfl]

theorem Tidy.adopt (h : g.Tidy) (d : Data) : (g.adopt d).Tidy := by
  refine ⟨?_, ?_, fun p k hk => ?_⟩
  · rw [data_adopt_zero h.pos]
    exact h.top
  · rw [size_adopt]
    exact Nat.succ_pos _
  · rw [size_adopt]
    rw [cell_adopt h.pos] at hk
    split at hk
    · simp at hk
    · split at hk
      · rcases Array.mem_push.1 hk with hk | rfl
        · exact Nat.lt_succ_of_lt (h.lt 0 k hk)
        · exact Nat.lt_succ_self _
      · exact Nat.lt_succ_of_lt (h.lt p k hk)

/-- A new element right below the document is below nothing else. -/
theorem Tidy.holds_adopt (h : g.Tidy) {d : Data} (hd : d.isElement = true) : (g.adopt d).Holds g.cells.size := by
  refine ⟨?_, Nat.ne_of_gt h.pos, ?_, ?_, ?_, fun p hp => ?_⟩
  · rw [data_adopt_zero h.pos]
    exact h.top
  · rw [size_adopt]
    exact Nat.lt_succ_self _
  · unfold data
    rw [cell_adopt h.pos, if_pos rfl]
    exact hd
  · rw [cell_adopt h.pos, if_neg (Nat.ne_of_lt h.pos), if_pos rfl]
    exact Array.mem_push_self
  · rw [cell_adopt h.pos] at hp
    split at hp
    · simp at hp
    · split at hp
      · assumption
      · exact absurd (h.lt p _ hp) (Nat.lt_irrefl _)

theorem tidy_start : start.Tidy := by
  refine ⟨rfl, Nat.one_pos, fun p k hk => ?_⟩
  have hkids : (start.cell p).kids = #[] := by
    cases p <;> rfl
  rw [hkids] at hk
  exact absurd hk (Array.not_mem_empty k)

end Harvest.Markup.Growth
