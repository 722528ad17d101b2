import Harvest.Proofs.Filter.Leaves
import Harvest.Proofs.Filter.Registry
import Harvest.Proofs.Store.Folder
/-!
# What storing filters leave behind

`store` and `download` write one file for each string of their value, in order.  What a file holds afterwards is the
last write to it (`Stored.bytes?_eq`), so a string of the answer is read back as what it stands for unless a later
string of the value went to the same file with other bytes (`stored_strings_read`).
-/
namespace Harvest.Filter

open Store Store.Disk

/-- Some bytes and the path that they are stored under. -/
structure Write where
  bytes : List UInt8
  path : String

variable {dev : Device} {f : Folder} {d d' : Disk} {cwd : Path} {ws : List Write} {texts : List String}

/-! ## The last write to a place -/

/-- The places that writes go to, with the bytes. -/
def sent (f : Folder) (ws : List Write) : List (Path × List UInt8) := ws.map fun x => (f.target x.path, x.bytes)

/-- The bytes of the last write to a place. -/
def lastTo (f : Folder) (ws : List Write) (p : Path) : Option (List UInt8) := (sent f ws).reverse.lookup p

theorem lastTo_cons (x : Write) (ws : List Write) (p : Path) :
    lastTo f (x :: ws) p = (lastTo f ws p).or (if p = f.target x.path then some x.bytes else none) := by
  unfold lastTo sent
  rw [List.map_cons, List.reverse_cons, List.lookup_append, List.lookup_cons, List.lookup_nil]
  by_cases hp : p = f.target x.path
  · rw [if_pos hp, hp, beq_self_eq_true]
  · rw [if_neg hp, beq_false_of_ne hp]

theorem mem_of_lastTo_eq_some {p : Path} {bytes : List UInt8} (h : lastTo f ws p = some bytes) :
    ∃ x ∈ ws, f.target x.path = p ∧ x.bytes = bytes := by
  induction ws with
  | nil => cases h
  | cons x ws ih =>
    rw [lastTo_cons, Option.or_eq_some_iff] at h
    rcases h with h | ⟨-, h⟩
    · obtain ⟨y, hy, hbytes⟩ := ih h
      exact ⟨y, .tail _ hy, hbytes⟩
    · split at h
      · rename_i hp
        exact ⟨x, .head _, hp.symm, Option.some.inj h⟩
      · cases h

theorem exists_lastTo_eq_some {x : Write} (h : x ∈ ws) : ∃ bytes, lastTo f ws (f.target x.path) = some bytes := by
  induction h with
  | head ws =>
    rw [lastTo_cons, if_pos rfl]
    cases lastTo f ws (f.target x.path) <;> exact ⟨_, rfl⟩
  | tail y _ ih =>
    obtain ⟨bytes, hbytes⟩ := ih
    exact ⟨bytes, by rw [lastTo_cons, hbytes, Option.some_or]⟩

/-! ## Runs of writes -/

/-- Writes that succeed one after the other, with their answers. -/
inductive Stored (dev : Device) (f : Folder) : List Write → Disk → List String → Disk → Prop where
  | nil (d : Disk) : Stored dev f [] d [] d
  | cons {x : Write} {ws : List Write} {d d₁ d' : Disk} {text : String} {texts : List String} :
      f.store dev x.bytes x.path d = (.ok text, d₁) → Stored dev f ws d₁ texts d' →
        Stored dev f (x :: ws) d (text :: texts) d'

namespace Stored

theorem answers (h : Stored dev f ws d texts d') : texts = ws.map fun x => f.answer x.path := by
  induction h with
  | nil => rfl
  | cons hstore _ ih => rw [ih, (Folder.store_eq_ok hstore).1, List.map_cons]

theorem folders (h : Stored dev f ws d texts d') : ∀ p, d.find? p = some .folder → d'.find? p = some .folder := by
  induction h with
  | nil => exact fun _ hp => hp
  | cons hstore _ ih => exact fun p hp => ih p ((Folder.store_eq_ok hstore).2.1 p hp)

/-- **A file holds the last write to it**, and what it held before if there is none. -/
theorem bytes?_eq (h : Stored dev f ws d texts d') (p : Path) : d'.bytes? p = (lastTo f ws p).or (d.bytes? p) := by
  induction h with
  | nil => rfl
  | cons hstore _ ih =>
    rw [ih, (Folder.store_eq_ok hstore).2.2.1, lastTo_cons, Option.or_assoc]
    split <;> rfl

theorem leads (h : Stored dev f ws d texts d') (hshown : d.lead? cwd f.shown = some f.path) :
    ∀ x ∈ ws, d'.lead? cwd (f.answer x.path) = some (f.target x.path) := by
  induction h with
  | nil => nofun
  | cons hstore hrest ih =>
    obtain ⟨-, hfolders, -, hleads⟩ := Folder.store_eq_ok hstore
    have hshown := lead?_mono hfolders hshown
    exact List.forall_mem_cons.2 ⟨lead?_mono hrest.folders (hleads cwd hshown), ih hshown⟩

/-- **Every answer is read as the last write to the same place.** -/
theorem reads (h : Stored dev f ws d texts d') (hshown : d.lead? cwd f.shown = some f.path) :
    ∀ x ∈ ws, d'.read? cwd (f.answer x.path) = lastTo f ws (f.target x.path) := fun x hx => by
  obtain ⟨bytes, hbytes⟩ := exists_lastTo_eq_some (f := f) hx
  unfold read?
  rw [h.leads hshown x hx, Option.bind_some, h.bytes?_eq, hbytes, Option.some_or]

end Stored

/-! ## What the filters write -/

theorem Action.bind_apply {σ α β : Type} (x : Action σ α) (g : α → Action σ β) (s : σ) :
    (x >>= g) s = ExceptT.bindCont g (x s).1 (x s).2 := rfl

theorem Action.bind_eq_ok {σ α β : Type} {x : Action σ α} {g : α → Action σ β} {s s' : σ} {b : β}
    (h : (x >>= g) s = (.ok b, s')) : ∃ a s₁, x s = (.ok a, s₁) ∧ g a s₁ = (.ok b, s') := by
  rw [bind_apply] at h
  generalize x s = out at h
  obtain ⟨r, s₁⟩ := out
  cases r with
  | ok a => exact ⟨a, s₁, rfl, h⟩
  | error e => cases h

/-- Makes the write that a string stands for. -/
def perform (dev : Device) (f : Folder) (x : Except FilterError Write) : Action Disk String := fun d =>
  match x with
  | .ok x => f.store dev x.bytes x.path d
  | .error e => (.error e, d)

/-- What `store` writes for a string. -/
def storeWrite (params text : String) : Write := ⟨Text.Utf8.ofString text, params⟩

/-- What `download` writes for a URL. -/
def downloadWrite (page : String → Except FilterError (List UInt8)) (params url : String) :
    Except FilterError Write := do
  let path ← Remote.downloadPath url params
  return ⟨← page url, path⟩

theorem download_eq_perform (dev : Device) (f : Folder) (page : String → Except FilterError (List UInt8))
    (params url : String) :
    Remote.download (.ofPages page) (.ofFolder dev f) params url = perform dev f (downloadWrite page params url) := by
  funext d
  unfold Remote.download downloadWrite perform
  rw [Action.bind_apply]
  cases Remote.downloadPath url params with
  | error e => rfl
  | ok path =>
    show (Remote.body (.ofPages page) url >>= fun bytes => Remote.save (.ofFolder dev f) bytes path true) d = _
    have hbody : Remote.body (.ofPages page) url d = (page url, d) := rfl
    rw [Action.bind_apply, hbody]
    cases hpage : page url <;> rfl

/-- A traversal that makes a write for each string is a run of the writes. -/
theorem stored_of_mapM {job : String → Except FilterError Write} : ∀ {strings : List String} {d : Disk}
    {texts : List String}, (strings.mapM fun s => perform dev f (job s)) d = (.ok texts, d') →
      ∃ ws, strings.mapM job = .ok ws ∧ ws.length = strings.length ∧ Stored dev f ws d texts d'
  | [], d, _, h => by
    cases h
    exact ⟨[], rfl, rfl, .nil _⟩
  | s :: strings, d, texts, h => by
    rw [List.mapM_cons] at h
    obtain ⟨text, d₁, hfirst, h⟩ := Action.bind_eq_ok h
    obtain ⟨rest, d₂, hrest, h⟩ := Action.bind_eq_ok h
    cases h
    obtain ⟨ws, hws, hcount, hstored⟩ := stored_of_mapM hrest
    unfold perform at hfirst
    split at hfirst
    · rename_i x hx
      refine ⟨x :: ws, ?_, congrArg Nat.succ hcount, .cons hfirst hstored⟩
      rw [List.mapM_cons, hx, hws]
      rfl
    · cases hfirst

/-- **What can be read behind some writes**: the answers stand where the value's strings stood, each of them is read as
the last write to the same place, and all are read as what was written for them exactly if no two writes to one place
differ. -/
structure ReadsBack (f : Folder) (cwd : Path) (v : Value) (ws : List Write) (w : Value) (d' : Disk) : Prop where
  count : ws.length = v.leaves.length
  answers : w = v.withLeaves (ws.map fun x => f.answer x.path)
  leaves : w.leaves = ws.map fun x => f.answer x.path
  reads : ∀ x ∈ ws, d'.read? cwd (f.answer x.path) = lastTo f ws (f.target x.path)
  faithful : (∀ x ∈ ws, d'.read? cwd (f.answer x.path) = some x.bytes) ↔
    ∀ x ∈ ws, ∀ y ∈ ws, f.target x.path = f.target y.path → x.bytes = y.bytes

theorem Stored.readsBack {v w : Value} (h : Stored dev f ws d texts d') (hshown : d.lead? cwd f.shown = some f.path)
    (hcount : ws.length = v.leaves.length) (hw : w = v.withLeaves texts) : ReadsBack f cwd v ws w d' where
  count := hcount
  answers := by rw [hw, h.answers]
  leaves := by
    rw [hw, h.answers]
    exact v.leaves_withLeaves (by rw [List.length_map, hcount])
  reads := h.reads hshown
  faithful := by
    refine ⟨fun hown x hx y hy heq => ?_, fun hsame x hx => ?_⟩
    · have hx' := hown x hx
      rw [h.reads hshown x hx, heq, ← h.reads hshown y hy, hown y hy] at hx'
      exact (Option.some.inj hx').symm
    · obtain ⟨bytes, hlast⟩ := exists_lastTo_eq_some (f := f) hx
      obtain ⟨y, hy, hplace, hbytes⟩ := mem_of_lastTo_eq_some hlast
      rw [h.reads hshown x hx, hlast, ← hbytes, hsame y hy x hx hplace]

/-- What a filter that makes a write for each string of its value leaves. -/
theorem readsBack_of_mapStringsM (job : String → Except FilterError Write) {v w : Value}
    (hshown : d.lead? cwd f.shown = some f.path) (h : v.mapStringsM (fun s => perform dev f (job s)) d = (.ok w, d')) :
    ∃ ws, v.leaves.mapM job = .ok ws ∧ ReadsBack f cwd v ws w d' := by
  rw [Value.mapStringsM_eq, map_eq_pure_bind] at h
  obtain ⟨texts, d₁, hwrites, h⟩ := Action.bind_eq_ok h
  cases h
  obtain ⟨ws, hws, hcount, hstored⟩ := stored_of_mapM hwrites
  exact ⟨ws, hws, hstored.readsBack hshown hcount rfl⟩

/-- **What `store` and `download` leave can be read back where no two strings of the value go to one file with different
bytes**: a string of the answer is read as the last write to its place. -/
theorem stored_strings_read {r : Registry Disk} {page : String → Except FilterError (List UInt8)}
    (hinstall : (Remote.install r (.ofPages page) (.ofFolder dev f)).2 = .ok ())
    (hshown : d.lead? cwd f.shown = some f.path) (v : Value) (params : String) {w : Value} {d' : Disk} :
    ((Remote.install r (.ofPages page) (.ofFolder dev f)).1.apply "store" v params d = (.ok w, d') →
      ReadsBack f cwd v (v.leaves.map (storeWrite params)) w d') ∧
    ((Remote.install r (.ofPages page) (.ofFolder dev f)).1.apply "download" v params d = (.ok w, d') →
      ∃ ws, v.leaves.mapM (downloadWrite page params) = .ok ws ∧ ReadsBack f cwd v ws w d') := by
  constructor
  · intro h
    have hrun := (Remote.apply_install hinstall (.tail _ (.tail _ (.head _))) v params d).symm.trans h
    change Remote.store (.ofFolder dev f) v params d = _ at hrun
    unfold Remote.store at hrun
    split at hrun
    · cases hrun
    · obtain ⟨ws, hws, hread⟩ := readsBack_of_mapStringsM (fun s => pure (storeWrite params s)) hshown hrun
      rw [List.mapM_pure] at hws
      cases hws
      exact hread
  · intro h
    have hrun := (Remote.apply_install hinstall (.tail _ (.head _)) v params d).symm.trans h
    change v.mapStringsM (Remote.download (.ofPages page) (.ofFolder dev f) params) d = _ at hrun
    rw [funext (download_eq_perform dev f page params)] at hrun
    exact readsBack_of_mapStringsM _ hshown hrun

/-- A list stored under one path: both answers are the same, and both are read as the second string. -/
theorem stored_strings_read_overwritten :
    (Remote.install Registry.empty (.ofPages fun _ => .ok []) (.ofFolder (.ideal "") ⟨["r"], "r"⟩)).2 = .ok () ∧
    (Disk.withFolder ["r"]).lead? [] "r" = some ["r"] ∧
    ∃ d', (Remote.install Registry.empty (.ofPages fun _ => .ok [])
        (.ofFolder (.ideal "") ⟨["r"], "r"⟩)).1.apply "store" (.strings ["x", "y"]) "a.txt" (Disk.withFolder ["r"]) =
          (.ok (.strings ["r/a.txt", "r/a.txt"]), d') ∧
      d'.read? [] "r/a.txt" = some (Text.Utf8.ofString "y") ∧
      ¬ ∀ x ∈ ["x", "y"].map (storeWrite "a.txt"), d'.read? [] (Folder.answer ⟨["r"], "r"⟩ x.path) = some x.bytes := by
  have hinstall : (Remote.install Registry.empty (.ofPages fun _ => .ok [])
      (.ofFolder (.ideal "") ⟨["r"], "r"⟩)).2 = .ok () := rfl
  have hshown : (Disk.withFolder ["r"]).lead? [] "r" = some ["r"] := by decide
  have hrun : (Remote.install Registry.empty (.ofPages fun _ => .ok [])
      (.ofFolder (.ideal "") ⟨["r"], "r"⟩)).1.apply "store" (.strings ["x", "y"]) "a.txt" (Disk.withFolder ["r"]) =
        (.ok (.strings ["r/a.txt", "r/a.txt"]), ⟨[(["r"], .folder), (["r", "a.txt"], .file [121])]⟩) := rfl
  have hread := (stored_strings_read hinstall hshown (.strings ["x", "y"]) "a.txt").1 hrun
  refine ⟨hinstall, hshown, _, hrun, (hread.reads (storeWrite "a.txt" "x") (.head _)).trans rfl, fun h => ?_⟩
  have hsame := hread.faithful.1 h _ (.head _) _ (.tail _ (.head _)) rfl
  exact absurd hsame (by decide)

end Harvest.Filter
