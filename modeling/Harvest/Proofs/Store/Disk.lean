import Harvest.Proofs.Text.Find
import Harvest.Store.Disk
/-!
# What changes on a disk

`find?_put` says what one entry changes.  Making folders puts folders where nothing was, all of them on the way to the
path that is asked for (`paves_makeFolder`); writing puts one file, or a head of it, at a path that is no folder, or
nothing (`outcome_write`).  A path that is written as a text is walked segment by segment (`walk?`), and the walk stays
the same where folders come.
-/
namespace Harvest

namespace Store

namespace Disk

variable {d d' : Disk} {path p q : Path}

theorem find?_of_ne_nil (h : p ≠ []) : d.find? p = d.entries.lookup p := by
  unfold find?
  rw [if_neg (by rwa [List.isEmpty_iff])]

theorem lookup_filter_ne (path q : Path) : ∀ entries : List (Path × Entry),
    (entries.filter fun p => p.1 != path).lookup q = if q = path then none else entries.lookup q
  | [] => (ite_self none).symm
  | (n, e) :: entries => by
    rw [List.filter_cons]
    by_cases hn : n = path
    · subst hn
      rw [if_neg (by simp), lookup_filter_ne n q entries]
      split
      · rfl
      · rename_i hq
        rw [List.lookup_cons, beq_false_of_ne hq]
    · rw [if_pos (by simpa using hn), List.lookup_cons, List.lookup_cons, lookup_filter_ne path q entries]
      split
      · rename_i hq
        rw [if_neg fun h => hn ((eq_of_beq hq).symm.trans h)]
      · rfl

/-- **Putting something at a path changes what is there, and nothing else.** -/
theorem find?_put (d : Disk) (hpath : path ≠ []) (e : Entry) (q : Path) :
    (d.put path e).find? q = if q = path then some e else d.find? q := by
  by_cases hq : q = []
  · subst hq
    rw [if_neg hpath.symm]
    rfl
  · rw [find?_of_ne_nil hq, find?_of_ne_nil hq]
    unfold put
    rw [List.lookup_append, lookup_filter_ne, List.lookup_cons]
    by_cases h : q = path
    · subst h
      rw [if_pos rfl, if_pos rfl, beq_self_eq_true]
      rfl
    · rw [if_neg h, if_neg h, beq_false_of_ne h]
      exact Option.or_none

/-- The folder is there with all that it is in. -/
def HasFolder (d : Disk) (path : Path) : Prop := ∀ p, p <+: path → d.find? p = some .folder

theorem hasFolder_nil (d : Disk) : d.HasFolder [] := fun p hp => by
  rw [List.prefix_nil.1 hp]
  rfl

theorem HasFolder.here (h : d.HasFolder path) : d.find? path = some .folder := h path (List.prefix_refl path)

theorem HasFolder.concat {name : String} (h : d.HasFolder path) (hname : d.find? (path ++ [name]) = some .folder) :
    d.HasFolder (path ++ [name]) := fun p hp => by
  rcases List.prefix_concat_iff.1 hp with rfl | hp
  · exact hname
  · exact h p hp

/-! ## Folders on the way -/

/-- **Folders come where nothing was, on the way to a path**, and all that was there stays. -/
structure Paves (d d' : Disk) (path : Path) : Prop where
  kept : ∀ p e, d.find? p = some e → d'.find? p = some e
  fresh : ∀ p, d.find? p = none → d'.find? p = none ∨ (d'.find? p = some .folder ∧ p <+: path)

theorem Paves.refl (d : Disk) (path : Path) : d.Paves d path := ⟨fun _ _ h => h, fun _ h => .inl h⟩

theorem Paves.trans {d'' : Disk} (h : d.Paves d' path) (h' : d'.Paves d'' path) : d.Paves d'' path where
  kept p e hp := h'.kept p e (h.kept p e hp)
  fresh p hp := by
    rcases h.fresh p hp with hp | ⟨hp, hpath⟩
    · exact h'.fresh p hp
    · exact .inr ⟨h'.kept p _ hp, hpath⟩

theorem paves_put (hnone : d.find? p = none) (hp : p <+: path) : d.Paves (d.put p .folder) path := by
  have hne : p ≠ [] := fun h => by
    subst h
    cases hnone
  refine ⟨fun q e hq => ?_, fun q hq => ?_⟩
  · rw [find?_put d hne, if_neg fun h => by rw [h, hnone] at hq; cases hq]
    exact hq
  · rw [find?_put d hne]
    split
    · rename_i h
      exact .inr ⟨rfl, h ▸ hp⟩
    · exact .inl hq

theorem Paves.hasFolder (h : d.Paves d' path) (hp : d.HasFolder p) : d'.HasFolder p :=
  fun q hq => h.kept q _ (hp q hq)

/-- What stays a file, or was none, where folders are made. -/
theorem Paves.file_iff (h : d.Paves d' path) (p : Path) (bytes : List UInt8) :
    d'.find? p = some (.file bytes) ↔ d.find? p = some (.file bytes) := by
  refine ⟨fun hp => ?_, h.kept p _⟩
  cases hd : d.find? p with
  | some e => rw [← hp, h.kept p e hd]
  | none =>
    rcases h.fresh p hd with hn | ⟨hf, -⟩
    · rw [hn] at hp; cases hp
    · rw [hf] at hp; cases hp

variable (dev : Device) (shown : String)

theorem makeFrom_cons (d : Disk) (base : Path) (name : String) (names : List String) :
    d.makeFrom dev shown base (name :: names) = match d.find? (base ++ [name]) with
      | some .folder => d.makeFrom dev shown (base ++ [name]) names
      | some (.file _) => (false, d)
      | none =>
        if isShort name && dev.makes shown d (base ++ [name]) then
          (d.put (base ++ [name]) .folder).makeFrom dev shown (base ++ [name]) names
        else (false, d) :=
  rfl

/-- Making folders one below the other; the way to `base` is there. -/
theorem paves_makeFrom : ∀ (names : List String) (d : Disk) (base : Path), d.HasFolder base →
    d.Paves (d.makeFrom dev shown base names).2 (base ++ names) ∧
      ((d.makeFrom dev shown base names).1 = true → (d.makeFrom dev shown base names).2.HasFolder (base ++ names))
  | [], d, base, h => ⟨.refl _ _, fun _ => by rwa [List.append_nil]⟩
  | name :: names, d, base, h => by
    have hway : base ++ name :: names = (base ++ [name]) ++ names := by rw [List.append_assoc]; rfl
    rw [hway, makeFrom_cons]
    cases hfind : d.find? (base ++ [name]) with
    | some e =>
      cases e with
      | folder => exact paves_makeFrom names d _ (h.concat hfind)
      | file bytes => exact ⟨.refl _ _, nofun⟩
    | none =>
      simp only
      split
      · have hput : d.Paves (d.put (base ++ [name]) .folder) ((base ++ [name]) ++ names) :=
          paves_put hfind (List.prefix_append _ _)
        have hthere : (d.put (base ++ [name]) .folder).HasFolder (base ++ [name]) := by
          refine (hput.hasFolder h).concat ?_
          rw [find?_put d (List.append_ne_nil_of_right_ne_nil _ (List.cons_ne_nil _ _)), if_pos rfl]
        obtain ⟨hpaves, hdone⟩ := paves_makeFrom names _ _ hthere
        exact ⟨hput.trans hpaves, hdone⟩
      · exact ⟨.refl _ _, nofun⟩

theorem paves_makeFolder (d : Disk) (path : Path) : d.Paves (d.makeFolder dev shown path).2 path ∧
    ((d.makeFolder dev shown path).1 = true → (d.makeFolder dev shown path).2.HasFolder path) := by
  unfold makeFolder
  split
  · exact paves_makeFrom dev shown path d [] (hasFolder_nil d)
  · exact ⟨.refl _ _, nofun⟩

/-! ## Files -/

theorem isOpen_eq_true (h : d.isOpen dev shown path = true) : path ≠ [] ∧ d.find? path ≠ some .folder := by
  unfold isOpen at h
  split at h
  · cases h
  · next name hlast =>
    simp only [Bool.and_eq_true, bne_iff_ne] at h
    exact ⟨fun hnil => by simp [hnil] at hlast, h.1.1.1.2⟩

/-- **What writing a file can come to**: nothing is written, the whole of it, or a head where the device gives out. -/
inductive Write (dev : Device) (shown : String) (d : Disk) (path : Path) (bytes : List UInt8) : Bool × Disk → Prop where
  | refused : Write dev shown d path bytes (false, d)
  | whole : path ≠ [] → d.find? path ≠ some .folder → Write dev shown d path bytes (true, d.put path (.file bytes))
  | cut : path ≠ [] → d.find? path ≠ some .folder → dev.takes shown d path bytes < bytes.length →
      Write dev shown d path bytes (false, d.put path (.file (bytes.take (dev.takes shown d path bytes))))

theorem outcome_write (d : Disk) (path : Path) (bytes : List UInt8) :
    Write dev shown d path bytes (d.write dev shown path bytes) := by
  unfold write
  split
  · next hopen =>
    obtain ⟨hpath, hfree⟩ := isOpen_eq_true dev shown hopen
    simp only
    by_cases htaken : bytes.length ≤ dev.takes shown d path bytes
    · rw [decide_eq_true htaken, List.take_of_length_le htaken]
      exact .whole hpath hfree
    · rw [decide_eq_false htaken]
      exact .cut hpath hfree (Nat.lt_of_not_le htaken)
  · exact .refused

/-- Folders stay where a file is put at a path that is none. -/
theorem folder_put {bytes : List UInt8} (hpath : path ≠ []) (hfree : d.find? path ≠ some .folder)
    (hp : d.find? p = some .folder) : (d.put path (.file bytes)).find? p = some .folder := by
  rw [find?_put d hpath, if_neg fun heq : p = path => hfree (heq ▸ hp)]
  exact hp

def bytes? (d : Disk) (path : Path) : Option (List UInt8) :=
  match d.find? path with
  | some (.file bytes) => some bytes
  | _ => none

theorem bytes?_eq_some {bytes : List UInt8} : d.bytes? p = some bytes ↔ d.find? p = some (.file bytes) := by
  unfold bytes?
  split
  · rename_i b hb
    rw [hb, Option.some.injEq, Option.some.injEq, Entry.file.injEq]
  · rename_i hb
    exact ⟨nofun, fun h => absurd h (hb bytes)⟩

theorem Paves.bytes?_eq (h : d.Paves d' path) (p : Path) : d'.bytes? p = d.bytes? p :=
  Option.ext fun bytes => by rw [bytes?_eq_some, bytes?_eq_some, h.file_iff]

theorem bytes?_put (d : Disk) (hpath : path ≠ []) (bytes : List UInt8) (p : Path) :
    (d.put path (.file bytes)).bytes? p = if p = path then some bytes else d.bytes? p := by
  unfold bytes?
  rw [find?_put d hpath]
  by_cases hp : p = path
  · rw [if_pos hp, if_pos hp]
  · rw [if_neg hp, if_neg hp]

/-! ## Paths as texts -/

/-- Where some segments lead to from a place.  Each of them asks for a folder to walk on from: empty ones and single
dots stay there, two dots go back to the folder that it is in. -/
def walk? (d : Disk) (here : Path) : List String → Option Path
  | [] => some here
  | s :: ss =>
    if d.find? here != some .folder then none
    else if s.isEmpty || s == "." then d.walk? here ss
    else if s == ".." then d.walk? here.dropLast ss
    else d.walk? (here ++ [s]) ss

/-- The segments of a path that is written as a text. -/
def pieces (cs : List Char) : List String := (Text.splitAt '/' cs).map String.ofList

theorem pieces_append (before behind : List Char) :
    pieces (before ++ '/' :: behind) = pieces before ++ pieces behind := by
  unfold pieces
  rw [Text.splitAt_append, List.map_append]

/-- Where a path that is written as a text leads to from the folder `cwd`: from the top if it starts with a slash. -/
def lead? (d : Disk) (cwd : Path) (text : String) : Option Path :=
  d.walk? (if text.toList.head? = some '/' then [] else cwd) (pieces text.toList)

/-- The bytes of the file that a path written as a text leads to. -/
def read? (d : Disk) (cwd : Path) (text : String) : Option (List UInt8) := (d.lead? cwd text).bind d.bytes?

theorem walk?_append (d : Disk) (ts : List String) : ∀ (ss : List String) (here : Path),
    d.walk? here (ss ++ ts) = (d.walk? here ss).bind fun p => d.walk? p ts
  | [], _ => rfl
  | s :: ss, here => by
    rw [List.cons_append, walk?, walk?, walk?_append d ts ss, walk?_append d ts ss, walk?_append d ts ss]
    split
    · rfl
    · split
      · rfl
      · split <;> rfl

theorem walk?_empty (d : Disk) {here : Path} (h : d.walk? here [""] = some p) : here = p := by
  rw [walk?] at h
  split at h
  · cases h
  · exact Option.some.inj h

theorem walk?_mono (h : ∀ p, d.find? p = some .folder → d'.find? p = some .folder) : ∀ (ss : List String)
    {here : Path}, d.walk? here ss = some p → d'.walk? here ss = some p
  | [], _, hp => hp
  | s :: ss, here, hp => by
    rw [walk?] at hp ⊢
    split at hp
    · cases hp
    · rename_i hhere
      rw [if_neg (by simpa using h here (by simpa using hhere))]
      split at hp
      · rename_i hs
        rw [if_pos hs]
        exact walk?_mono h ss hp
      · rename_i hs
        rw [if_neg hs]
        split at hp
        · rename_i hup
          rw [if_pos hup]
          exact walk?_mono h ss hp
        · rename_i hup
          rw [if_neg hup]
          exact walk?_mono h ss hp

theorem lead?_mono (h : ∀ p, d.find? p = some .folder → d'.find? p = some .folder) {cwd : Path} {text : String}
    (hlead : d.lead? cwd text = some p) : d'.lead? cwd text = some p := walk?_mono h _ hlead

end Disk

end Store

end Harvest
