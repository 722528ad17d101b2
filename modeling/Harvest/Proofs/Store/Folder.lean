import Harvest.Proofs.Store.Disk
import Harvest.Store.Folder
/-!
# A folder keeps to itself

Storing below a folder makes folders on the way to one file and writes that file, or it fails, and then it has written
nothing but what a device takes that gives out in the middle of the write (`outcome_store`).  A path with two dots for
one of its segments is refused and touches nothing; whatever else it looks like, nothing outside the folder changes
(`store_confined`).
-/
namespace Harvest.Store

open Disk

namespace Folder

variable {f : Folder} {d : Disk} {path : String}

theorem escapes_iff : escapes path = true ↔ ".." ∈ segments path := List.contains_iff_mem

theorem names_cons (s : String) (ss : List String) :
    names (s :: ss) = if s.isEmpty || s == "." then names ss else s :: names ss := by
  unfold names
  rw [List.filter_cons]
  cases h : s.isEmpty <;> simp [bne]

def EndsInName (ss : List String) : Prop := ∃ s, ss.getLast? = some s ∧ s.isEmpty = false ∧ s ≠ "."

theorem endsInName_iff : endsInName path = true ↔ EndsInName (segments path) := by
  unfold endsInName EndsInName
  cases (segments path).getLast? <;> simp

theorem EndsInName.names_ne_nil {ss : List String} (h : EndsInName ss) : names ss ≠ [] := by
  obtain ⟨s, hlast, hempty, hdot⟩ := h
  exact List.ne_nil_of_mem (List.mem_filter.2 ⟨List.mem_of_getLast? hlast, by simp [hempty, hdot]⟩)

/-- **What storing below a folder can come to.** -/
inductive Outcome (dev : Device) (f : Folder) (bytes : List UInt8) (path : String) (d : Disk) :
    Except FilterError String × Disk → Prop where
  | escaped : ".." ∈ segments path → Outcome dev f bytes path d (.error (.invalidParams (.escapingPath path)), d)
  | failed {d' : Disk} {text : String} : ".." ∉ segments path → d.Paves d' (f.parent path) →
      Outcome dev f bytes path d (.error (.external text), d')
  /-- The device gives out in the middle of the write. -/
  | cut {d' : Disk} {text : String} : ".." ∉ segments path → EndsInName (segments path) → d.Paves d' (f.parent path) →
      d'.find? (f.target path) ≠ some .folder →
      dev.takes (f.answer path) d' (f.target path) bytes < bytes.length →
        Outcome dev f bytes path d (.error (.external text),
          d'.put (f.target path) (.file (bytes.take (dev.takes (f.answer path) d' (f.target path) bytes))))
  | written {d' : Disk} : ".." ∉ segments path → EndsInName (segments path) → d.Paves d' (f.parent path) →
      d'.HasFolder (f.parent path) → d'.find? (f.target path) ≠ some .folder →
        Outcome dev f bytes path d (.ok (f.answer path), d'.put (f.target path) (.file bytes))

theorem outcome_store (dev : Device) (f : Folder) (bytes : List UInt8) (path : String) (d : Disk) :
    Outcome dev f bytes path d (f.store dev bytes path d) := by
  unfold store
  split
  · rename_i h
    exact .escaped (escapes_iff.1 h)
  · rename_i h
    have hsafe : ".." ∉ segments path := fun hmem => h (escapes_iff.2 hmem)
    have hmake := paves_makeFolder dev (f.answer path) d (f.parent path)
    simp only
    generalize d.makeFolder dev (f.answer path) (f.parent path) = made at hmake ⊢
    obtain ⟨done, d'⟩ := made
    obtain ⟨hpaves, hthere⟩ := hmake
    cases done with
    | false => exact .failed hsafe hpaves
    | true =>
      by_cases hname : endsInName path = true
      · have hwrite := outcome_write dev (f.answer path) d' (f.target path) bytes
        simp only [if_pos hname]
        generalize d'.write dev (f.answer path) (f.target path) bytes = out at hwrite ⊢
        cases hwrite with
        | refused => exact .failed hsafe hpaves
        | whole _ hfree => exact .written hsafe (endsInName_iff.1 hname) hpaves (hthere rfl) hfree
        | cut _ hfree htaken => exact .cut hsafe (endsInName_iff.1 hname) hpaves hfree htaken
      · simp only [if_neg hname]
        exact .failed hsafe hpaves

/-! ## What lies below the folder -/

/-- The path is that of something in the folder, at any depth. -/
def Below (f : Folder) (p : Path) : Prop := f.path <+: p ∧ p ≠ f.path

theorem target_ne_nil (h : EndsInName (segments path)) : f.target path ≠ [] :=
  List.append_ne_nil_of_right_ne_nil f.path h.names_ne_nil

theorem below_target (h : EndsInName (segments path)) : f.Below (f.target path) := by
  refine ⟨List.prefix_append _ _, fun heq => h.names_ne_nil ?_⟩
  exact List.append_right_eq_self.1 heq

/-- A folder that is made lies below the folder, on the way to the target. -/
theorem below_of_fresh (hroot : d.HasFolder f.path) {p : Path} (hnone : d.find? p = none)
    (hp : p <+: f.parent path) : f.Below p ∧ p <+: f.target path ∧ p ≠ f.target path := by
  unfold parent at hp
  have hout : ¬ p <+: f.path := fun h => by
    rw [hroot p h] at hnone
    cases hnone
  have hbelow : f.path <+: p :=
    (List.prefix_or_prefix_of_prefix hp (List.prefix_append _ _)).resolve_left hout
  -- The folder itself is there, so the way to the target has a name, and the last of its names is no new folder.
  have hnames : names (segments path) ≠ [] := fun hnil => by
    rw [hnil, List.dropLast_nil, List.append_nil] at hp
    exact hout hp
  have hlength := hp.length_le
  rw [List.length_append, List.length_dropLast] at hlength
  have hpos := List.length_pos_iff.2 hnames
  refine ⟨⟨hbelow, fun h => hout (h ▸ List.prefix_refl _)⟩, hp.trans ?_, fun h => ?_⟩
  · exact (List.prefix_append_right_inj _).2 (List.dropLast_prefix _)
  · rw [h] at hlength
    unfold target at hlength
    rw [List.length_append] at hlength
    omega

/-! ## What the answer leads to -/

theorem not_back {s : String} {ss : List String} (h : ".." ∉ s :: ss) : ¬ (s == "..") = true :=
  fun hs => h (eq_of_beq hs ▸ .head ss)

/-- **Segments without two dots lead along their names**, through folders that are there. -/
theorem walk?_names (d : Disk) : ∀ (ss : List String) (here : Path), EndsInName ss → ".." ∉ ss →
    d.HasFolder (here ++ (names ss).dropLast) → d.walk? here ss = some (here ++ names ss)
  | [], _, ⟨_, hlast, _⟩, _, _ => by cases hlast
  | [s], here, ⟨x, hlast, hempty, hdot⟩, hup, hway => by
    obtain rfl : s = x := Option.some.inj hlast
    have hhere : d.find? here = some .folder := hway here (List.prefix_append _ _)
    have hgo : ¬ (s.isEmpty || s == ".") = true := by simpa [hempty] using hdot
    rw [walk?, if_neg (by simp [hhere]), if_neg hgo, if_neg (not_back hup), names_cons, if_neg hgo]
    rfl
  | s :: t :: ss, here, hends, hup, hway => by
    have hends : EndsInName (t :: ss) := by
      unfold EndsInName at hends
      rwa [List.getLast?_cons_cons] at hends
    have hhere : d.find? here = some .folder := hway here (List.prefix_append _ _)
    rw [walk?, if_neg (by simp [hhere])]
    rw [names_cons] at hway ⊢
    by_cases hstay : (s.isEmpty || s == ".") = true
    · rw [if_pos hstay] at hway ⊢
      rw [if_pos hstay]
      exact walk?_names d (t :: ss) here hends (fun h => hup (.tail _ h)) hway
    · rw [if_neg hstay] at hway ⊢
      rw [if_neg hstay, if_neg (not_back hup)]
      rw [List.dropLast_cons_of_ne_nil hends.names_ne_nil, List.append_cons] at hway
      rw [List.append_cons here s (names (t :: ss))]
      exact walk?_names d (t :: ss) (here ++ [s]) hends (fun h => hup (.tail _ h)) hway

theorem head?_relative_ne (path : String) : (relative path).head? ≠ some '/' := fun h => by
  have hfirst := List.head?_dropWhile_not (fun c => c == '/') path.toList
  unfold relative at h
  rw [h] at hfirst
  exact absurd hfirst (by decide)

/-- How a path is written below the folder: alone, behind the slash that the folder's path ends in, or behind a new
one. -/
theorem toList_answer (f : Folder) (path : String) :
    (f.shown.toList = [] ∧ (f.answer path).toList = relative path) ∨
    (∃ before, f.shown.toList = before ++ ['/'] ∧ (f.answer path).toList = before ++ '/' :: relative path) ∨
    (f.shown.toList ≠ [] ∧ (f.answer path).toList = f.shown.toList ++ '/' :: relative path) := by
  unfold answer
  rcases List.eq_nil_or_concat f.shown.toList with h | ⟨before, c, h⟩
  · exact .inl ⟨h, by simp [h]⟩
  · by_cases hc : c = '/'
    · exact .inr (.inl ⟨before, by simp [h, hc], by simp [h, hc]⟩)
    · exact .inr (.inr ⟨by simp [h], by simp [h, hc]⟩)

/-- What is written behind the folder's path is walked from the folder on. -/
theorem lead?_answer_eq {cwd : Path} (hshown : d.lead? cwd f.shown = some f.path) (path : String) :
    d.lead? cwd (f.answer path) = d.walk? f.path (segments path) := by
  unfold lead? at hshown ⊢
  obtain ⟨hnil, htext⟩ | ⟨before, hslash, htext⟩ | ⟨hne, htext⟩ := toList_answer f path
  · rw [hnil, if_neg nofun] at hshown
    rw [htext, if_neg (head?_relative_ne path), walk?_empty d hshown]
    rfl
  · -- The walk along the folder's path ends with an empty segment, which stays where it is.
    rw [hslash, pieces_append, walk?_append] at hshown
    obtain ⟨p, hp, hstay⟩ := Option.bind_eq_some_iff.1 hshown
    obtain rfl : p = f.path := walk?_empty d hstay
    have hhead : (before ++ '/' :: relative path).head? = (before ++ ['/']).head? := by
      simp only [List.head?_append, List.head?_cons]
    rw [htext, hhead, pieces_append, walk?_append, hp]
    rfl
  · have hhead : (f.shown.toList ++ '/' :: relative path).head? = f.shown.toList.head? := by
      rw [List.head?_append, Option.or_of_isSome (List.isSome_head?.2 hne)]
    rw [htext, hhead, pieces_append, walk?_append, hshown]
    rfl

/-- The answer leads to the target, where the way there is made of folders. -/
theorem lead?_answer {cwd : Path} (hshown : d.lead? cwd f.shown = some f.path) (hup : ".." ∉ segments path)
    (hname : EndsInName (segments path)) (hway : d.HasFolder (f.parent path)) :
    d.lead? cwd (f.answer path) = some (f.target path) := by
  rw [lead?_answer_eq hshown]
  exact walk?_names d (segments path) f.path hname hup hway

/-- **What is stored is at the target**: its answer leads there, no other file changes, and folders stay. -/
theorem store_eq_ok {dev : Device} {bytes : List UInt8} {text : String} {d' : Disk}
    (h : f.store dev bytes path d = (.ok text, d')) :
    text = f.answer path ∧ (∀ p, d.find? p = some .folder → d'.find? p = some .folder) ∧
      (∀ p, d'.bytes? p = if p = f.target path then some bytes else d.bytes? p) ∧
      ∀ cwd, d'.lead? cwd f.shown = some f.path → d'.lead? cwd (f.answer path) = some (f.target path) := by
  have houtcome := outcome_store dev f bytes path d
  rw [h] at houtcome
  cases houtcome with
  | @written d₁ hup hname hpaves hway hfree =>
    have hfolders : ∀ p, d₁.find? p = some .folder → (d₁.put (f.target path) (.file bytes)).find? p = some .folder :=
      fun p hp => folder_put (target_ne_nil hname) hfree hp
    refine ⟨rfl, fun p hp => hfolders p (hpaves.kept p _ hp), fun p => ?_, fun cwd hshown => ?_⟩
    · rw [bytes?_put d₁ (target_ne_nil hname), hpaves.bytes?_eq]
    · exact lead?_answer hshown hup hname fun p hp => hfolders p (hway p hp)

/-! ## What is left as it was -/

/-- **What may change at most where a path is stored**: folders come inside the folder, on the way to the target, and
what is there stays a folder or a file. -/
structure Confined (f : Folder) (path : String) (d d' : Disk) : Prop where
  outside : ∀ p, ¬ f.Below p → d'.find? p = d.find? p
  folders : ∀ p, d.find? p = some .folder → d'.find? p = some .folder
  files : ∀ p bytes, d.find? p = some (.file bytes) → ∃ bytes', d'.find? p = some (.file bytes')
  fresh : ∀ p, d'.find? p = some .folder → d.find? p = some .folder ∨
    (d.find? p = none ∧ f.Below p ∧ p <+: f.target path ∧ p ≠ f.target path)

theorem confined_of_paves (hroot : d.HasFolder f.path) {d' : Disk}
    (h : d.Paves d' (f.parent path)) : f.Confined path d d' where
  outside p hp := by
    cases hd : d.find? p with
    | some e => exact h.kept p e hd
    | none =>
      refine (h.fresh p hd).resolve_right fun hnew => hp ?_
      exact (below_of_fresh hroot hd hnew.2).1
  folders p hp := h.kept p _ hp
  files p bytes hp := ⟨bytes, h.kept p _ hp⟩
  fresh p hp := by
    cases hd : d.find? p with
    | some e => exact .inl (by rw [← hp, h.kept p e hd])
    | none =>
      rcases h.fresh p hd with hnone | ⟨-, hway⟩
      · rw [hp] at hnone
        cases hnone
      · exact .inr ⟨rfl, below_of_fresh hroot hd hway⟩

/-- A file at the target, in place of a file or of nothing. -/
theorem Confined.put {d' : Disk} (h : f.Confined path d d') (hname : EndsInName (segments path))
    (hfree : d'.find? (f.target path) ≠ some .folder) (bytes : List UInt8) :
    f.Confined path d (d'.put (f.target path) (.file bytes)) := by
  have hput := find?_put d' (target_ne_nil (f := f) hname) (.file bytes)
  refine ⟨fun p hp => ?_, fun p hp => ?_, fun p bs hp => ?_, fun p hp => ?_⟩
  · rw [hput p, if_neg fun heq : p = f.target path => hp (heq ▸ below_target hname)]
    exact h.outside p hp
  · exact folder_put (target_ne_nil hname) hfree (h.folders p hp)
  · rw [hput p]
    split
    · exact ⟨bytes, rfl⟩
    · exact h.files p bs hp
  · rw [hput p] at hp
    split at hp
    · cases hp
    · exact h.fresh p hp

/-- Where the target is put, no other file changes. -/
theorem file_iff_put {d' : Disk} (hpaves : d.Paves d' (f.parent path)) (hname : EndsInName (segments path))
    (bytes : List UInt8) {p : Path} (hp : p ≠ f.target path) (bs : List UInt8) :
    (d'.put (f.target path) (.file bytes)).find? p = some (.file bs) ↔ d.find? p = some (.file bs) := by
  rw [find?_put d' (target_ne_nil hname), if_neg hp]
  exact hpaves.file_iff p bs

/-- With the folders made the device gives out in the middle of the write, and the target holds what it took. -/
def GivesOut (dev : Device) (f : Folder) (bytes : List UInt8) (path : String) (d d' : Disk) : Prop :=
  ∃ d₁, d.Paves d₁ (f.parent path) ∧ dev.takes (f.answer path) d₁ (f.target path) bytes < bytes.length ∧
    d'.find? (f.target path) = some (.file (bytes.take (dev.takes (f.answer path) d₁ (f.target path) bytes)))

end Folder

end Harvest.Store
