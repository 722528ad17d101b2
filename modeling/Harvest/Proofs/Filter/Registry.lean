import Harvest.Filter.Builtin
import Harvest.Filter.Remote
/-!
# Registries and what is put into them

An insertion changes the entry of one name (`Registry.find?_insert`).  Filters with different names are registered one
after the other up to the first whose name is taken (`registerAll_free`, `registerAll_taken`), so an installation adds
those of the three remote filters that come before the first taken one, and touches nothing else.
-/
namespace Harvest

variable {σ : Type}

theorem Fields.length_insert_of_find?_eq_none {α : Type} {name : String} {a : α} : ∀ {fs : Fields α},
    fs.find? name = none → (fs.insert name a).length = fs.length + 1
  | [], _ => rfl
  | (n, b) :: rest, h => by
    have hn : ¬ n = name := fun hn => by
      rw [find?, if_pos hn] at h
      cases h
    rw [find?, if_neg hn] at h
    unfold Fields.insert
    split
    · rfl
    · rw [List.length_cons, length_insert_of_find?_eq_none h, List.length_cons]

namespace Registry

theorem find?_insert (r : Registry σ) (f : Filter σ) (k : String) :
    (r.insert f).find? k = if f.name = k then some f else r.find? k := Fields.find?_insert f.name k f r.entries

theorem contains_eq_false {r : Registry σ} {k : String} : r.contains k = false ↔ r.find? k = none :=
  Option.isSome_eq_false_iff.trans Option.isNone_iff_eq_none

theorem size_insert {r : Registry σ} {f : Filter σ} (h : r.contains f.name = false) :
    (r.insert f).size = r.size + 1 := Fields.length_insert_of_find?_eq_none (contains_eq_false.1 h)

theorem contains_insert_of_ne {r : Registry σ} {f : Filter σ} {k : String} (h : f.name ≠ k) :
    (r.insert f).contains k = r.contains k := by
  show ((r.insert f).find? k).isSome = (r.find? k).isSome
  rw [find?_insert, if_neg h]

/-- Filters with different names keep clear of each other's entries. -/
theorem free_insert {r : Registry σ} {f : Filter σ} {fs : List (Filter σ)} (hf : f.name ∉ fs.map Filter.name)
    (h : ∀ g ∈ fs, r.contains g.name = false) : ∀ g ∈ fs, (r.insert f).contains g.name = false := fun g hg => by
  rw [contains_insert_of_ne fun heq => hf (heq ▸ List.mem_map_of_mem hg)]
  exact h g hg

/-- **The registry that holds some filters more**: each of them under its name, and else what it held before. -/
structure Gains (r : Registry σ) (fs : List (Filter σ)) (r' : Registry σ) : Prop where
  free : ∀ g ∈ fs, r.contains g.name = false
  held : ∀ g ∈ fs, r'.find? g.name = some g
  kept : ∀ k, k ∉ fs.map Filter.name → r'.find? k = r.find? k
  size : r'.size = r.size + fs.length

theorem Gains.nil (r : Registry σ) : r.Gains [] r where
  free _ h := nomatch h
  held _ h := nomatch h
  kept _ _ := rfl
  size := rfl

theorem Gains.cons {r r' : Registry σ} {f : Filter σ} {fs : List (Filter σ)} (hf : r.contains f.name = false)
    (hnames : f.name ∉ fs.map Filter.name) (hfree : ∀ g ∈ fs, r.contains g.name = false)
    (h : (r.insert f).Gains fs r') : r.Gains (f :: fs) r' where
  free := List.forall_mem_cons.2 ⟨hf, hfree⟩
  held := List.forall_mem_cons.2 ⟨by rw [h.kept _ hnames, find?_insert, if_pos rfl], h.held⟩
  kept k hk := by
    rw [List.map_cons, List.mem_cons, not_or] at hk
    rw [h.kept k hk.2, find?_insert, if_neg fun heq => hk.1 heq.symm]
  size := by
    rw [h.size, size_insert hf, List.length_cons]
    omega

theorem gains_foldl : ∀ {fs : List (Filter σ)} {r : Registry σ}, (fs.map Filter.name).Nodup →
    (∀ g ∈ fs, r.contains g.name = false) → r.Gains fs (fs.foldl Registry.insert r)
  | [], r, _, _ => .nil r
  | f :: fs, r, hnames, hfree => by
    obtain ⟨hf, hnames⟩ := List.nodup_cons.1 hnames
    obtain ⟨hfree, hrest⟩ := List.forall_mem_cons.1 hfree
    exact .cons hfree hf hrest (gains_foldl hnames (free_insert hf hrest))

/-- A registry that gains nothing stays as it is, and one that gains something does not. -/
theorem Gains.eq_iff {r r' : Registry σ} {fs : List (Filter σ)} (h : r.Gains fs r') (hr' : r' = fs.foldl insert r) :
    r' = r ↔ fs = [] := by
  refine ⟨fun heq => List.eq_nil_iff_length_eq_zero.2 ?_, fun hfs => by rw [hr', hfs]; rfl⟩
  have hsize := h.size
  rw [heq] at hsize
  omega

end Registry

namespace Filter

theorem nodup_builtin (σ : Type) (clock : Clock) : ((transforms σ clock ++ validators σ).map Filter.name).Nodup := by
  unfold transforms validators
  simp only [List.map_append, List.map_cons, List.map_nil, stateless]
  decide

/-- The registry of the built-in filters holds each of them under its name. -/
theorem apply_builtin {clock : Clock} {f : Filter σ} (hf : f ∈ transforms σ clock ++ validators σ) (v : Value)
    (params : String) (s : σ) : (builtin σ clock).apply f.name v params s = f.run v params s := by
  have hgains := Registry.gains_foldl (r := Registry.empty) (nodup_builtin σ clock) fun _ _ => rfl
  unfold Registry.apply builtin
  rw [hgains.held f hf]

theorem apply_transform {clock : Clock} {f : Filter σ} (hf : f ∈ transforms σ clock) (v : Value) (params : String)
    (s : σ) : (builtin σ clock).apply f.name v params s = f.run v params s :=
  apply_builtin (List.mem_append_left _ hf) v params s

end Filter

namespace Filter.Remote

variable {r : Registry σ}

theorem registerAll_cons {f : Filter σ} (h : r.contains f.name = false) (fs : List (Filter σ)) :
    registerAll r (f :: fs) = registerAll (r.insert f) fs := by
  rw [registerAll, Registry.register, h]
  rfl

theorem registerAll_free : ∀ {fs : List (Filter σ)} {r : Registry σ}, (fs.map Filter.name).Nodup →
    (∀ g ∈ fs, r.contains g.name = false) → registerAll r fs = (fs.foldl Registry.insert r, .ok ())
  | [], _, _, _ => rfl
  | f :: fs, r, hnames, hfree => by
    obtain ⟨hf, hnames⟩ := List.nodup_cons.1 hnames
    obtain ⟨hfree, hrest⟩ := List.forall_mem_cons.1 hfree
    rw [registerAll_cons hfree, registerAll_free hnames (Registry.free_insert hf hrest)]
    rfl

/-- **A taken name ends the registrations**; those before it have been made. -/
theorem registerAll_taken {g : Filter σ} (behind : List (Filter σ)) : ∀ {before : List (Filter σ)} {r : Registry σ},
    ((before ++ g :: behind).map Filter.name).Nodup → (∀ h ∈ before, r.contains h.name = false) →
      r.contains g.name = true → registerAll r (before ++ g :: behind) =
        (before.foldl Registry.insert r, .error (.alreadyRegistered g.name))
  | [], r, _, _, hg => by
    rw [List.nil_append, registerAll, Registry.register, hg]
    rfl
  | f :: before, r, hnames, hfree, hg => by
    rw [List.cons_append, List.map_cons, List.nodup_cons, List.map_append, List.mem_append, not_or] at hnames
    obtain ⟨⟨hf, hfg⟩, hnames⟩ := hnames
    obtain ⟨hfree, hrest⟩ := List.forall_mem_cons.1 hfree
    have hne : f.name ≠ g.name := fun heq => hfg (heq ▸ List.mem_cons_self)
    rw [List.cons_append, registerAll_cons hfree, registerAll_taken behind (by rwa [List.map_append])
      (Registry.free_insert hf hrest) (by rwa [Registry.contains_insert_of_ne hne])]
    rfl

theorem map_name_filters (f : Fetcher σ) (st : Storer σ) :
    (filters f st).map Filter.name = ["fetch", "download", "store"] := rfl

/-- **What registering filters with different names comes to.**  All are added, or those before the first whose name is
taken. -/
theorem registerAll_cases (r : Registry σ) {fs : List (Filter σ)} (hnames : (fs.map Filter.name).Nodup) :
    (r.Gains fs (registerAll r fs).1 ∧ (registerAll r fs).2 = .ok ()) ∨
    ∃ before g behind, fs = before ++ g :: behind ∧ r.contains g.name = true ∧ r.Gains before (registerAll r fs).1 ∧
      ((registerAll r fs).1 = r ↔ before = []) ∧ (registerAll r fs).2 = .error (.alreadyRegistered g.name) := by
  cases htaken : fs.find? fun g => r.contains g.name with
  | none =>
    have hfree : ∀ g ∈ fs, r.contains g.name = false := fun g hg =>
      Bool.eq_false_iff.2 (List.find?_eq_none.1 htaken g hg)
    rw [registerAll_free hnames hfree]
    exact .inl ⟨Registry.gains_foldl hnames hfree, rfl⟩
  | some g =>
    obtain ⟨hg, before, behind, rfl, hbefore⟩ := List.find?_eq_some_iff_append.1 htaken
    have hfree : ∀ h ∈ before, r.contains h.name = false := fun h hh => by simpa using hbefore h hh
    have hnodup := hnames
    rw [List.map_append] at hnodup
    have hgains := Registry.gains_foldl (List.nodup_append.1 hnodup).1 hfree
    rw [registerAll_taken behind hnames hfree hg]
    exact .inr ⟨before, g, behind, rfl, hg, hgains, hgains.eq_iff rfl, rfl⟩

theorem nodup_names (f : Fetcher σ) (st : Storer σ) : ((filters f st).map Filter.name).Nodup := by
  rw [map_name_filters]
  decide

theorem apply_install {f : Fetcher σ} {st : Storer σ} (h : (install r f st).2 = .ok ()) {g : Filter σ}
    (hg : g ∈ filters f st) (v : Value) (params : String) (s : σ) :
    (install r f st).1.apply g.name v params s = g.run v params s := by
  unfold install at h ⊢
  rcases registerAll_cases r (nodup_names f st) with ⟨hgains, -⟩ | ⟨before, x, behind, -, -, -, -, herr⟩
  · unfold Registry.apply
    rw [hgains.held g hg]
  · rw [h] at herr
    cases herr

/-- **An installation adds filters up to the first taken name.**  If it succeeds the registry gains the three filters
`fetch`, `download` and `store`, and nothing else changes.  If it fails the error names the first of the three that was
taken, the registry has gained those before it, and nothing else changes, so it stays as it was exactly if `fetch` was
taken. -/
theorem install_gains (r : Registry σ) (f : Fetcher σ) (st : Storer σ) :
    ((install r f st).2 = .ok () → r.Gains (filters f st) (install r f st).1) ∧
    (∀ err, (install r f st).2 = .error err → ∃ before g behind, filters f st = before ++ g :: behind ∧
      err = .alreadyRegistered g.name ∧ r.contains g.name = true ∧ r.Gains before (install r f st).1 ∧
      ((install r f st).1 = r ↔ r.contains "fetch" = true)) := by
  unfold install
  obtain ⟨hgains, hok⟩ | ⟨before, g, behind, hsplit, hg, hgains, hsame, herr⟩ :=
    registerAll_cases r (nodup_names f st)
  · rw [hok]
    exact ⟨fun _ => hgains, nofun⟩
  · rw [herr]
    refine ⟨nofun, fun err h => ⟨before, g, behind, hsplit, (Except.error.inj h).symm, hg, hgains, hsame.trans ?_⟩⟩
    -- The first filter is `fetch`: it is taken exactly if none comes before the taken one.
    cases before with
    | nil =>
      have hfetch : g.name = "fetch" := (congrArg Filter.name (List.cons.inj hsplit).1).symm
      exact iff_of_true rfl (hfetch ▸ hg)
    | cons first before =>
      have hfetch : first.name = "fetch" := (congrArg Filter.name (List.cons.inj hsplit).1).symm
      refine iff_of_false (List.cons_ne_nil _ _) ?_
      rw [← hfetch, hgains.free first List.mem_cons_self]
      exact Bool.false_ne_true

-- With `download` taken an installation fails and leaves `fetch` behind.
example :
    let r : Registry Unit := Registry.empty.insert (.stateless "download" "" "" fun v _ => .ok v)
    let installed := install r ⟨fun _ s => (.ok [], s)⟩ ⟨fun _ path _ s => (.ok path, s)⟩
    installed.2 = .error (.alreadyRegistered "download") ∧ r.contains "fetch" = false ∧
      installed.1.contains "fetch" = true :=
  ⟨rfl, rfl, rfl⟩

end Filter.Remote

end Harvest
