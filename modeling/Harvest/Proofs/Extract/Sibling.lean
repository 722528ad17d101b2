import Mathlib.Data.List.Nodup
import Harvest.Proofs.Extract.Composite
import Harvest.Proofs.Extract.Frame
/-!
# Siblings do not interfere

Where the children of a record write nothing, each of them has one outcome, whatever its siblings are.  So what the
record holds under a name depends on the children of that name alone, unless one of the others ends everything.
-/
namespace Harvest.Extract

open Harvest.Markup (Document)

variable {σ τ : Type} {α ι : Type}

/-! ## Items with one outcome each -/

/-- The items that do not fail, each with its result, where the outcome of each is known. -/
def keep (g : ι → Except ExtractError α) : List ι → Except ExtractError (List (ι × α))
  | [] => .ok []
  | i :: is =>
    match g i with
    | .ok a => (keep g is).map ((i, a) :: ·)
    | .error err => if err.isFatal then .error err else keep g is

theorem keep_cons {g : ι → Except ExtractError α} {i : ι} (h : Mild (g i)) (is : List ι) :
    keep g (i :: is) = (keep g is).map (((g i).toOption.map fun a => (i, a)).toList ++ ·) := by
  rw [keep]
  cases hg : g i with
  | ok a => rfl
  | error err =>
    simp only [h err hg]
    cases keep g is <;> rfl

theorem keep_of_error {g : ι → Except ExtractError α} {i : ι} {err : ExtractError} (h : g i = .error err)
    (herr : err.isFatal = true) (is : List ι) : keep g (i :: is) = .error err := by
  rw [keep, h]
  simp only [herr]
  rfl

theorem keep_of_mild {g : ι → Except ExtractError α} : ∀ {is : List ι}, (∀ i ∈ is, Mild (g i)) →
    keep g is = .ok (is.filterMap fun i => (g i).toOption.map fun a => (i, a))
  | [], _ => rfl
  | i :: is, h => by
    rw [keep_cons (h i List.mem_cons_self), keep_of_mild fun j hj => h j (List.mem_cons_of_mem i hj),
      List.filterMap_cons]
    cases g i <;> rfl

theorem exists_of_not_mild {r : Except ExtractError α} (h : ¬ Mild r) :
    ∃ err, r = .error err ∧ err.isFatal = true := by
  cases r with
  | ok a => exact absurd (mild_ok a) h
  | error err => exact ⟨err, rfl, Bool.of_not_eq_false fun hf => h (mild_error hf)⟩

/-- What ends one of the items, or one before it, ends all. -/
theorem keep_of_fatal {g : ι → Except ExtractError α} : ∀ {is : List ι}, (∃ i ∈ is, ¬ Mild (g i)) →
    ∃ err, keep g is = .error err ∧ err.isFatal = true
  | i :: is, ⟨j, hj, hg⟩ => by
    -- The item `j` may stand behind one that ends all before it is reached.
    by_cases hi : Mild (g i)
    · have hj : j ∈ is := (List.mem_cons.1 hj).resolve_left fun hji => hg (hji ▸ hi)
      obtain ⟨err, hkeep, herr⟩ := keep_of_fatal ⟨j, hj, hg⟩
      exact ⟨err, by rw [keep_cons hi, hkeep]; rfl, herr⟩
    · obtain ⟨err, hgi, herr⟩ := exists_of_not_mild hi
      exact ⟨err, keep_of_error hgi herr is, herr⟩

/-- **Items that are settled are so together.** -/
theorem settled_attempts {d : Document} {f : ι → Run σ α} {g : ι → Except ExtractError α} : ∀ {is : List ι},
    (∀ i ∈ is, Settled d (f i) (g i)) → Settled d (Run.attempts f is) (keep g is)
  | [], _ => fun s _ hcache => ⟨s.cache, hcache, rfl⟩
  | i :: is, h => by
    intro s hs hcache
    obtain ⟨c, hc, happ⟩ := h i List.mem_cons_self s hs hcache
    -- The others start with the document of before only because the first item is settled too.
    by_cases hi : Mild (g i)
    · obtain ⟨c', hc', hrest⟩ :=
        settled_attempts (fun j hj => h j (List.mem_cons_of_mem i hj)) { s with cache := c } hs hc
      refine ⟨c', hc', ?_⟩
      rw [Run.attempts_cons f happ hi, hrest, keep_cons hi]
      cases keep g is <;> rfl
    · obtain ⟨err, hgi, herr⟩ := exists_of_not_mild hi
      rw [hgi] at happ
      exact ⟨c, hc, by rw [Run.attempts_of_error f happ herr, keep_of_error hgi herr]⟩

/-! ## Records -/

/-- Where the selector of a spec leads to on a document by itself. -/
def leads (spec : Spec) (site : Site) (d : Document) : Except ExtractError Site :=
  (Run.target (σ := Unit) spec site ⟨d, {}, ()⟩).1

theorem leads_congr {spec spec' : Spec} (h : spec.selector = spec'.selector) (site : Site) (d : Document) :
    leads spec site d = leads spec' site d := by
  unfold leads Run.target
  rw [h]

/-- **What a record that writes nothing holds**, from the outcomes of its children alone. -/
theorem alone_map {spec : Spec} (htag : spec.tag = .map) (hfilter : spec.filter = "") {d : Document}
    (h : spec.All (Quiet (Filter.timeless Unit) d)) (maxDepth levels : Nat) (site : Site) :
    alone maxDepth (levels + 1) spec site d = (leads spec site d).bind fun target =>
      if spec.namedChildren = [] then .error (.schema .noNamedChild)
      else (keep (fun c => alone maxDepth levels c target d) spec.namedChildren).map fun ps =>
        .map (Fields.ofList (ps.map fun p => (p.1.name, p.2))) := by
  obtain ⟨c, hc, htarget⟩ := settled_target h.here site ⟨d, {}, ()⟩ rfl Cache.faithful_empty
  change Run.target spec site _ = (leads spec site d, _) at htarget
  unfold alone
  rw [at_map htag, Run.bind_apply, htarget]
  cases leads spec site d with
  | error err => rfl
  | ok target =>
    simp only [Except.bind]
    split
    · rename_i hnone
      unfold Evaluator.record
      rw [if_pos (by rw [hnone]; rfl)]
      rfl
    · rename_i hsome
      have hchildren : Settled d (Run.attempts _ spec.namedChildren) _ := settled_attempts fun child hchild =>
        settled_at ⟨Filter.timeless Unit, maxDepth⟩ (h.child child (Spec.mem_namedChildren.1 hchild).1) levels target
      obtain ⟨c', -, happ⟩ := hchildren ⟨d, c, ()⟩ rfl hc
      rw [record_eq hfilter hsome, Run.map_apply, happ]
      rfl

theorem find?_kept (k : String) (g : Spec → Except ExtractError Value) (cs : List Spec) :
    (Fields.ofList ((cs.filterMap fun c => (g c).toOption.map fun v => (c, v)).map fun p => (p.1.name, p.2))).find? k =
      ((cs.filter fun c => c.name = k).filterMap fun c => (g c).toOption).getLast? := by
  rw [Fields.find?_ofList, List.map_filterMap, List.filterMap_filterMap, List.filterMap_filter]
  congr 2
  funext c
  cases g c with
  | ok v => simp [Except.toOption]
  | error err => simp [Except.toOption]

theorem filter_namedChildren (spec : Spec) (k : String) : (spec.namedChildren.filter fun c => c.name = k) =
    (spec.children.filter fun c => c.name = k).filter fun c => !c.name.isEmpty := by
  unfold Spec.namedChildren
  exact List.filter_comm _ _ _

/-- The ways in which a record that writes nothing ends, from what its selector leads to and its children yield. -/
inductive Ends (lead : Except ExtractError Site) (g : Site → Spec → Except ExtractError Value) (named : List Spec) :
    Except ExtractError Value → Prop where
  | lost {err : ExtractError} : lead = .error err → Ends lead g named (.error err)
  | bare {target : Site} : lead = .ok target → named = [] → Ends lead g named (.error (.schema .noNamedChild))
  | whole {target : Site} {m : Fields Value} : lead = .ok target → named ≠ [] → (∀ c ∈ named, Mild (g target c)) →
      m.Sorted → (∀ k, m.find? k =
        ((named.filter fun c => c.name = k).filterMap fun c => (g target c).toOption).getLast?) →
          Ends lead g named (.ok (.map m))
  | torn {target : Site} {err : ExtractError} : lead = .ok target → (∃ c ∈ named, ¬ Mild (g target c)) →
      err.isFatal = true → Ends lead g named (.error err)

theorem ends_alone {spec : Spec} (htag : spec.tag = .map) (hfilter : spec.filter = "") {d : Document}
    (h : spec.All (Quiet (Filter.timeless Unit) d)) (maxDepth levels : Nat) (site : Site) :
    Ends (leads spec site d) (fun target c => alone maxDepth levels c target d) spec.namedChildren
      (alone maxDepth (levels + 1) spec site d) := by
  rw [alone_map htag hfilter h]
  cases hlead : leads spec site d with
  | error err => exact .lost rfl
  | ok target =>
    simp only [Except.bind]
    split
    · rename_i hnone
      exact .bare rfl hnone
    · rename_i hsome
      by_cases hmild : ∀ c ∈ spec.namedChildren, Mild (alone maxDepth levels c target d)
      · rw [keep_of_mild hmild]
        exact .whole rfl hsome hmild (Fields.sorted_ofList _) fun k => find?_kept k _ _
      · simp only [not_forall] at hmild
        obtain ⟨c, hc, hfatal⟩ := hmild
        obtain ⟨err, hkeep, herr⟩ := keep_of_fatal (g := fun c => alone maxDepth levels c target d)
          ⟨c, hc, hfatal⟩
        rw [hkeep]
        exact .torn rfl ⟨c, hc, hfatal⟩ herr

/-- The evaluation ends where the program cannot go on. -/
def Panics (r : Except ExtractError Value) : Prop := r = .error .rootless ∨ ∃ p, r = .error (.panic p)

theorem panics_of_fatal {err : ExtractError} (h : err.isFatal = true) (hdepth : ∀ n, err ≠ .depthExceeded n) :
    Panics (.error err) := by
  cases err with
  | depthExceeded n => exact absurd rfl (hdepth n)
  | rootless => exact .inl rfl
  | panic p => exact .inr ⟨p, rfl⟩
  | _ => cases h

/-- **The children of one name say what two records hold under it**, unless a sibling ends one of them. -/
theorem Ends.agree {lead : Except ExtractError Site} {g : Site → Spec → Except ExtractError Value}
    {named named' : List Spec} {r r' : Except ExtractError Value} {k : String}
    (hk : (named.filter fun c => c.name = k) = named'.filter fun c => c.name = k) (h : Ends lead g named r)
    (h' : Ends lead g named' r') (hdepth : ∀ n, r ≠ .error (.depthExceeded n) ∧ r' ≠ .error (.depthExceeded n))
    (hschema : ∀ f, r ≠ .error (.schema f) ∧ r' ≠ .error (.schema f)) :
    (∃ err, r = .error err ∧ r' = .error err) ∨
      (∃ m m', r = .ok (.map m) ∧ r' = .ok (.map m') ∧ Fields.find? k m = Fields.find? k m') ∨
      Panics r ∨ Panics r' := by
  cases h with
  | bare => exact absurd rfl (hschema _).1
  | torn _ _ herr => exact .inr (.inr (.inl (panics_of_fatal herr fun n hn => (hdepth n).1 (congrArg _ hn))))
  | lost hlead =>
    cases h' with
    | lost hlead' =>
      cases hlead.symm.trans hlead'
      exact .inl ⟨_, rfl, rfl⟩
    | bare => exact absurd rfl (hschema _).2
    | whole hlead' => cases hlead.symm.trans hlead'
    | torn hlead' => cases hlead.symm.trans hlead'
  | whole hlead _ _ _ hfind =>
    cases h' with
    | lost hlead' => cases hlead.symm.trans hlead'
    | bare => exact absurd rfl (hschema _).2
    | torn _ _ herr => exact .inr (.inr (.inr (panics_of_fatal herr fun n hn => (hdepth n).2 (congrArg _ hn))))
    | whole hlead' _ _ _ hfind' =>
      cases hlead.symm.trans hlead'
      exact .inr (.inl ⟨_, _, rfl, rfl, by rw [hfind, hfind', hk]⟩)

/-- **A record ends everything exactly if one of its children does**, or its own selector. -/
theorem Ends.fatal_iff {lead : Except ExtractError Site} {g : Site → Spec → Except ExtractError Value}
    {named : List Spec} {r : Except ExtractError Value} (h : Ends lead g named r) :
    ¬ Mild r ↔ ¬ Mild lead ∨ ∃ target, lead = .ok target ∧ ∃ c ∈ named, ¬ Mild (g target c) := by
  cases h with
  | lost hlead =>
    subst hlead
    refine ⟨fun h => .inl fun hmild => h (mild_error (hmild _ rfl)), ?_⟩
    rintro (h | ⟨_, hlead, _⟩)
    · exact fun hmild => h (mild_error (hmild _ rfl))
    · cases hlead
  | bare hlead hnone =>
    subst hlead hnone
    refine iff_of_false (fun h => h (mild_error rfl)) ?_
    rintro (h | ⟨_, _, _, hc, _⟩)
    · exact h (mild_ok _)
    · cases hc
  | whole hlead _ hmild =>
    subst hlead
    refine iff_of_false (fun h => h (mild_ok _)) ?_
    rintro (h | ⟨_, hlead, c, hc, h⟩)
    · exact h (mild_ok _)
    · cases hlead
      exact h (hmild c hc)
  | torn hlead hc herr =>
    refine iff_of_true (fun hmild => ?_) (.inr ⟨_, hlead, hc⟩)
    rw [hmild _ rfl] at herr
    cases herr

theorem eq_of_perm {l l' : List α} (h : l.Perm l') (hlength : l.length ≤ 1) : l = l' := by
  match l, hlength with
  | [], _ => exact (List.nil_perm.1 h).symm
  | [a], _ => exact List.singleton_perm.1 h

/-- Children with different names can stand in any order. -/
theorem filter_name_perm {cs cs' : List Spec} (h : cs.Perm cs') (hnames : (cs.map Spec.name).Nodup) (k : String) :
    (cs.filter fun c => c.name = k) = cs'.filter fun c => c.name = k := by
  refine eq_of_perm (h.filter _) ?_
  have hcount := List.nodup_iff_count_le_one.1 hnames k
  rw [List.count, List.countP_map, List.countP_eq_length_filter] at hcount
  refine le_trans (le_of_eq ?_) hcount
  congr 1

/-- **A record without failures that end everything is the same in any order of its children.** -/
theorem Ends.perm {lead : Except ExtractError Site} {g : Site → Spec → Except ExtractError Value}
    {named named' : List Spec} {m : Fields Value} {r' : Except ExtractError Value}
    (h : Ends lead g named (.ok (.map m))) (h' : Ends lead g named' r') (hperm : named.Perm named')
    (hnames : (named.map Spec.name).Nodup) : r' = .ok (.map m) := by
  cases h with
  | whole hlead hsome hmild hsorted hfind =>
    cases h' with
    | lost hlead' => cases hlead.symm.trans hlead'
    | bare _ hnone => exact absurd (List.perm_nil.1 (hnone ▸ hperm)) hsome
    | torn hlead' hc =>
      cases hlead.symm.trans hlead'
      obtain ⟨c, hc, hfatal⟩ := hc
      exact absurd (hmild c (hperm.mem_iff.2 hc)) hfatal
    | whole hlead' _ _ hsorted' hfind' =>
      cases hlead.symm.trans hlead'
      rw [hsorted'.eq_of_find? hsorted fun k => by rw [hfind, hfind', filter_name_perm hperm hnames k]]

/-! ## Pages -/

/-- The same node with other children, all of which it had before. -/
theorem quiet_withChildren {r : Registry σ} {d : Document} {spec : Spec} (h : spec.All (Quiet r d))
    (children : List Spec) (hsub : ∀ c ∈ children, c ∈ spec.children) :
    Spec.All (Quiet r d) (spec.withChildren children) :=
  .node ⟨h.here.filters, h.here.chains⟩ fun c hc => h.child c (hsub c hc)

theorem ends_evaluate (e : Evaluator σ) (spec : Spec) (htag : spec.tag = .map) (hfilter : spec.filter = "")
    {page : Page} (h : spec.All (Quiet e.registry page.document)) {cache : Cache} (hcache : cache.Faithful)
    (outside : σ) : Ends (leads spec page.site page.document)
      (fun target c => alone e.maxDepth e.maxDepth c target page.document) spec.namedChildren
      (e.evaluate spec page cache outside).1 := by
  obtain ⟨c, -, heval⟩ := evaluate_quiet e h hcache outside
  rw [heval]
  exact ends_alone htag hfilter (h.mono fun s hs => ⟨Filter.steady_timeless _, hs.chains⟩) _ _ _

theorem namedChildren_singleton {spec c : Spec} (h : c ∈ spec.namedChildren) :
    (spec.withChildren [c]).namedChildren = [c] :=
  List.filter_eq_self.2 fun c' hc' => by
    rw [List.mem_singleton.1 hc']
    exact (List.mem_filter.1 h).2

/-- **A record ends everything exactly if it does so with one of its children alone.** -/
theorem evaluate_fatal_iff (e : Evaluator σ) {spec : Spec} (htag : spec.tag = .map) (hfilter : spec.filter = "")
    (hnamed : spec.namedChildren ≠ []) {page : Page} (h : spec.All (Quiet e.registry page.document)) {cache : Cache}
    (hcache : cache.Faithful) (outside : σ) : ¬ Mild (e.evaluate spec page cache outside).1 ↔
      ∃ c ∈ spec.namedChildren, ¬ Mild (e.evaluate (spec.withChildren [c]) page {} outside).1 := by
  let lead := leads spec page.site page.document
  let g := fun (target : Site) (c : Spec) => alone e.maxDepth e.maxDepth c target page.document
  have hchild : ∀ c ∈ spec.namedChildren, (¬ Mild (e.evaluate (spec.withChildren [c]) page {} outside).1 ↔
      ¬ Mild lead ∨ ∃ target, lead = .ok target ∧ ¬ Mild (g target c)) := by
    intro c hc
    have hquiet := quiet_withChildren h [c] fun c' hc' =>
      List.mem_singleton.1 hc' ▸ (Spec.mem_namedChildren.1 hc).1
    have hends := ends_evaluate e (spec.withChildren [c]) htag hfilter hquiet Cache.faithful_empty outside
    rw [namedChildren_singleton hc] at hends
    rw [hends.fatal_iff]
    simp only [List.mem_singleton, exists_eq_left]
    rfl
  rw [(ends_evaluate e spec htag hfilter h hcache outside).fatal_iff]
  constructor
  · rintro (hlead | ⟨target, hlead, c, hc, hg⟩)
    · obtain ⟨c, hc⟩ := List.exists_mem_of_ne_nil _ hnamed
      exact ⟨c, hc, (hchild c hc).2 (.inl hlead)⟩
    · exact ⟨c, hc, (hchild c hc).2 (.inr ⟨target, hlead, hg⟩)⟩
  · rintro ⟨c, hc, hfatal⟩
    rcases (hchild c hc).1 hfatal with hlead | ⟨target, hlead, hg⟩
    · exact .inl hlead
    · exact .inr ⟨target, hlead, c, hc, hg⟩

/-- **Siblings do not interfere.**  Two records that write nothing and do not read the clock, with one selector and the
same children of a name, fail alike or hold the same under that name, whatever their other children are and whatever
has been read before, unless one of them panics.  A record panics, or gets too deep, exactly if it does so with one of
its children alone.  A record whose children have different names holds the same in any order of them. -/
theorem siblings_do_not_interfere (e : Evaluator σ) (e' : Evaluator τ) (hlimit : e'.maxDepth = e.maxDepth)
    (spec spec' : Spec) (htag : spec.tag = .map ∧ spec'.tag = .map) (hfilter : spec.filter = "" ∧ spec'.filter = "")
    (hselector : spec.selector = spec'.selector) {k : String}
    (hk : (spec.children.filter fun c => c.name = k) = spec'.children.filter fun c => c.name = k)
    (htime : spec.Timeless e.registry ∧ spec'.Timeless e'.registry) (page : Page)
    (hread : ∀ d, page = .html d → spec.ReadOnly ∧ spec'.ReadOnly) {cache cache' : Cache} (hcache : cache.Faithful)
    (hcache' : cache'.Faithful) (outside : σ) (outside' : τ) :
    let r := (e.evaluate spec page cache outside).1
    let r' := (e'.evaluate spec' page cache' outside').1
    ((∀ n, r ≠ .error (.depthExceeded n) ∧ r' ≠ .error (.depthExceeded n)) →
      (∀ f, r ≠ .error (.schema f) ∧ r' ≠ .error (.schema f)) →
        (∃ err, r = .error err ∧ r' = .error err) ∨
        (∃ m m', r = .ok (.map m) ∧ r' = .ok (.map m') ∧ Fields.find? k m = Fields.find? k m') ∨
        Panics r ∨ Panics r') ∧
    (spec.namedChildren ≠ [] → (¬ Mild r ↔
      ∃ c ∈ spec.namedChildren, ¬ Mild (e.evaluate (spec.withChildren [c]) page {} outside).1)) ∧
    ∀ children m, children.Perm spec.children → (spec.namedChildren.map Spec.name).Nodup → r = .ok (.map m) →
      ∀ c : Cache, c.Faithful → ∀ o, (e.evaluate (spec.withChildren children) page c o).1 = .ok (.map m) := by
  have hquiet := quiet_page htime.1 page fun d hd => (hread d hd).1
  have hquiet' := quiet_page htime.2 page fun d hd => (hread d hd).2
  have hends := ends_evaluate e spec htag.1 hfilter.1 hquiet hcache outside
  have hends' := ends_evaluate e' spec' htag.2 hfilter.2 hquiet' hcache' outside'
  rw [hlimit, ← leads_congr hselector] at hends'
  refine ⟨fun hdepth hschema => ?_,
    fun hnamed => evaluate_fatal_iff e htag.1 hfilter.1 hnamed hquiet hcache outside,
    fun children m hperm hnames hr c hc o => ?_⟩
  · refine hends.agree ?_ hends' hdepth hschema
    rw [filter_namedChildren, filter_namedChildren, hk]
  · have hquietp := quiet_withChildren hquiet children fun c hc => hperm.mem_iff.1 hc
    have hendsp := ends_evaluate e (spec.withChildren children) htag.1 hfilter.1 hquietp hc o
    rw [hr] at hends
    exact hends.perm hendsp (hperm.filter _).symm hnames

/-- Two records of the number that a page has for a title, each with another sibling of it. -/
def numbered : Spec :=
  { tag := .map, children := [{ name := "n", tag := .int, selector := .native "title" },
      { name := "b", tag := .bool, selector := .native "title" }] }

def lettered : Spec :=
  { tag := .map, children := [{ name := "a", tag := .string, selector := .native "body" },
      { name := "n", tag := .int, selector := .native "title" }] }

/-- Is an outcome a record? -/
def isRecord : Except ExtractError Value → Bool
  | .ok (.map _) => true
  | _ => false

theorem isRecord_iff {r : Except ExtractError Value} : isRecord r = true ↔ ∃ m, r = .ok (.map m) := by
  constructor
  · intro h
    unfold isRecord at h
    split at h
    · exact ⟨_, rfl⟩
    · cases h
  · rintro ⟨m, rfl⟩
    rfl

theorem siblings_do_not_interfere_numbered :
    let e : Evaluator Unit := ⟨Filter.timeless Unit, 1⟩
    ∃ d, Page.parse (Text.Utf8.ofString "<title>7</title>") .html = .ok (.html d) ∧
      ∃ m m', (e.evaluate numbered (.html d) {} ()).1 = .ok (.map m) ∧
        (e.evaluate lettered (.html d) {} ()).1 = .ok (.map m') ∧ Fields.find? "n" m = Fields.find? "n" m' := by
  intro e
  refine ⟨_, rfl, ?_⟩
  generalize hd : Document.ofTree _ = d
  obtain ⟨m, hr⟩ : ∃ m, (e.evaluate numbered (.html d) {} ()).1 = .ok (.map m) := by
    rw [← isRecord_iff, ← hd]
    decide +kernel
  obtain ⟨m', hr'⟩ : ∃ m, (e.evaluate lettered (.html d) {} ()).1 = .ok (.map m) := by
    rw [← isRecord_iff, ← hd]
    decide +kernel
  have hread : numbered.ReadOnly ∧ lettered.ReadOnly := by
    have hops : ∀ raw ∈ ["title", "body"], ((Css.Chain.parse raw).toOption.all fun c => c.ops.isEmpty) = true := by
      decide +kernel
    have hplain : ∀ name tag raw, raw ∈ ["title", "body"] →
        Spec.ReadOnly { name := name, tag := tag, selector := .native raw } := by
      intro name tag raw hraw
      refine readOnly_node (fun raw' c hsel hc s hs => ?_) nofun
      cases hsel
      have hnone := hops raw hraw
      rw [hc] at hnone
      rw [List.isEmpty_iff.1 hnone] at hs
      cases hs
    exact ⟨readOnly_node nofun (by simp [numbered, hplain]), readOnly_node nofun (by simp [lettered, hplain])⟩
  have h := (siblings_do_not_interfere e e rfl numbered lettered ⟨rfl, rfl⟩ ⟨rfl, rfl⟩ rfl
    (k := "n") rfl ⟨.inl rfl, .inl rfl⟩ (.html d) (fun _ _ => hread) Cache.faithful_empty
    Cache.faithful_empty () ()).1 (fun n => by rw [hr, hr']; exact ⟨nofun, nofun⟩)
    (fun f => by rw [hr, hr']; exact ⟨nofun, nofun⟩)
  rcases h with ⟨err, h, -⟩ | h | h | h
  · rw [hr] at h
    cases h
  · exact h
  · rw [hr] at h
    rcases h with h | ⟨_, h⟩ <;> cases h
  · rw [hr'] at h
    rcases h with h | ⟨_, h⟩ <;> cases h

end Harvest.Extract
