import Harvest.Proofs.Filter.Leaves
import Harvest.Proofs.Filter.Registry
import Harvest.Proofs.Filter.Rejection
import Harvest.Proofs.Text.Find
import Harvest.Proofs.Traversal
/-!
# Filters that rewrite strings one by one

Rewriting the strings of a value is all or nothing: it yields a value of the same form with each string rewritten, or it
fails with the error of the first string that cannot be (`mapStrings_eq_ok`, `mapStrings_eq_error`).  Fourteen of the
built-in filters do just that with what their parameters say, or fail on every value for their parameters alone
(`transforms_stringwise`), so they keep the form of a value and fail as a whole (`stringwise_exact`).
-/
namespace Harvest

variable {ε α β : Type}

namespace Value

/-! ## Values with other strings in their places -/

/-- A value in which filters see no strings: it is none and no list of any values. -/
def Stringless : Value → Prop
  | .string _ | .strings _ | .array _ => False
  | _ => True

/-- The value with other strings in the places of its own, each of which `p` allows there; all else stays. -/
inductive Rewritten (p : String → String → Prop) : Value → Value → Prop where
  | string {s t : String} : p s t → Rewritten p (.string s) (.string t)
  | strings {ss ts : List String} : List.Forall₂ p ss ts → Rewritten p (.strings ss) (.strings ts)
  | array {vs ws : List Value} : List.Forall₂ (Rewritten p) vs ws → Rewritten p (.array vs) (.array ws)
  | other {v : Value} : v.Stringless → Rewritten p v v

variable {f : String → Except FilterError String}

theorem mapItemsM_cons_eq (v : Value) (vs : List Value) :
    mapItemsM f (v :: vs) = (v.mapStrings f).bind fun w => (mapItemsM f vs).map (w :: ·) := by
  rw [mapItemsM, mapStrings]
  cases v.mapStringsM f with
  | error e => rfl
  | ok w => cases mapItemsM f vs <;> rfl

mutual
/-- **Rewriting the strings of a value yields the value with each string rewritten in its place.** -/
theorem mapStrings_eq_ok : ∀ {v w : Value}, v.mapStrings f = .ok w ↔ Rewritten (fun s t => f s = .ok t) v w
  | .string s, w => by
    show (f s).map Value.string = .ok w ↔ _
    rw [map_eq_ok_iff]
    constructor
    · rintro ⟨t, ht, rfl⟩
      exact .string ht
    · rintro (ht | _ | _ | h)
      · exact ⟨_, ht, rfl⟩
      · exact h.elim
  | .strings ss, w => by
    show (ss.mapM f).map Value.strings = .ok w ↔ _
    rw [map_eq_ok_iff]
    constructor
    · rintro ⟨ts, hts, rfl⟩
      exact .strings (mapM_eq_ok.1 hts)
    · rintro (_ | hts | _ | h)
      · exact ⟨_, mapM_eq_ok.2 hts, rfl⟩
      · exact h.elim
  | .array items, w => by
    show (mapItemsM f items).map Value.array = .ok w ↔ _
    rw [map_eq_ok_iff]
    constructor
    · rintro ⟨ws, hws, rfl⟩
      exact .array (mapItems_eq_ok.1 hws)
    · rintro (_ | _ | hws | h)
      · exact ⟨_, mapItems_eq_ok.2 hws, rfl⟩
      · exact h.elim
  | .int _, w | .float _, w | .bool _, w | .ints _, w | .floats _, w | .bools _, w | .map _, w | .json _, w => by
    constructor
    · intro h
      cases h
      exact .other trivial
    · rintro (_ | _ | _ | h)
      rfl

theorem mapItems_eq_ok : ∀ {vs ws : List Value},
    mapItemsM f vs = .ok ws ↔ List.Forall₂ (Rewritten fun s t => f s = .ok t) vs ws
  | [], ws => by
    rw [List.forall₂_nil_left_iff]
    exact ⟨fun h => (Except.ok.inj h).symm, fun h => by rw [h]; rfl⟩
  | v :: vs, ws => by
    rw [mapItemsM_cons_eq, cons_eq_ok, List.forall₂_cons_left_iff]
    exact exists_congr fun w => exists_congr fun ws' =>
      and_congr mapStrings_eq_ok (and_congr_left fun _ => mapItems_eq_ok)
end

/-- **Rewriting the strings of a value fails with the error of the first that fails.** -/
theorem mapStrings_eq_error {v : Value} {e : FilterError} : v.mapStrings f = .error e ↔ FirstError f v.leaves e := by
  rw [← mapM_eq_error, mapStrings, mapStringsM_eq]
  cases v.leaves.mapM f with
  | error e' => exact ⟨fun h => congrArg _ (Except.error.inj h), fun h => congrArg _ (Except.error.inj h)⟩
  | ok texts => exact iff_of_false (fun h => by cases h) (fun h => by cases h)

theorem mapStrings_total (g : String → String) (v : Value) :
    v.mapStrings (fun s => .ok (g s)) = .ok (v.withLeaves (v.leaves.map g)) := by
  rw [mapStrings, mapStringsM_eq, show (fun s => Except.ok (g s)) = fun s => (pure (g s) : Except FilterError String)
    from rfl, List.mapM_pure]
  rfl

theorem mapStrings_ok (v : Value) : v.mapStrings .ok = .ok v := by
  have htotal := mapStrings_total id v
  rw [List.map_id, v.withLeaves_leaves] at htotal
  exact htotal

/-- Rewriting strings a second time does nothing if it does nothing to any string. -/
theorem mapStrings_idempotent {g : String → String} (hg : ∀ s, g (g s) = g s) (v : Value) :
    ∃ w, v.mapStrings (fun s => .ok (g s)) = .ok w ∧ w.mapStrings (fun s => .ok (g s)) = .ok w := by
  have hleaves : (v.withLeaves (v.leaves.map g)).leaves = v.leaves.map g := v.leaves_withLeaves (List.length_map g)
  have hagain : (v.leaves.map g).map g = v.leaves.map g := by
    rw [List.map_map]
    exact List.map_congr_left fun s _ => hg s
  have hself := (v.withLeaves (v.leaves.map g)).withLeaves_leaves
  refine ⟨_, mapStrings_total g v, ?_⟩
  rw [hleaves] at hself
  rw [mapStrings_total, hleaves, hagain, hself]

end Value

namespace Filter

/-! ## Filters string by string -/

variable {P : FilterError → Prop}

/-- What a filter with its parameters does if it fails on every value alike or rewrites the strings of its value one by
one; `P` holds of each of its failures. -/
def Stringwise (P : FilterError → Prop) (f : Value → Except FilterError Value) : Prop :=
  (∃ e, P e ∧ ∀ v, f v = .error e) ∨
  ∃ g : String → Except FilterError String, (∀ s, Errs P (g s)) ∧ ∀ v, f v = v.mapStrings g

theorem stringwise_map {g : String → Except FilterError String} (hg : ∀ s, Errs P (g s)) :
    Stringwise P fun v => v.mapStrings g := .inr ⟨g, hg, fun _ => rfl⟩

theorem stringwise_keep : Stringwise P .ok := .inr ⟨.ok, errs_ok, fun v => v.mapStrings_ok.symm⟩

/-- What is read of the parameters beforehand decides for all values. -/
theorem stringwise_bind {r : Except FilterError α} {f : α → Value → Except FilterError Value} (hr : Errs P r)
    (hf : ∀ a, Stringwise P (f a)) : Stringwise P fun v => r >>= fun a => f a v := by
  cases r with
  | error e => exact .inl ⟨e, hr e rfl, fun _ => rfl⟩
  | ok a => exact hf a

theorem stringwise_replace (params : String) : Stringwise Passing fun v => replace v params :=
  stringwise_bind (passable_replaceArgs params) fun _ => stringwise_map fun _ => errs_ok _

theorem stringwise_hrefreplace (params : String) : Stringwise Searching fun v => hrefreplace v params :=
  stringwise_bind (passable_compiled _).searching fun _ => stringwise_map fun _ => (searching_ofMatch _).map _

theorem stringwise_regexpreplace (params : String) : Stringwise Searching fun v => regexpreplace v params := by
  refine stringwise_bind (passable_numberArg _ _ _).searching fun start =>
    stringwise_bind (passable_numberArg _ _ _).searching fun count =>
    stringwise_bind (passable_compiled _).searching fun pattern => ?_
  by_cases hcount : (count == 0) = true
  -- Without any replacement to make the strings are not searched at all, so no error of a search can occur.
  · simp only [if_pos hcount]
    exact stringwise_keep
  · simp only [if_neg hcount]
    exact stringwise_map fun _ => (searching_ofMatch _).map _

theorem stringwise_substr (params : String) : Stringwise Passing fun v => substr v params := by
  unfold substr
  generalize Text.splitAt ',' params.toList = parts
  rcases parts with _ | ⟨start, _ | ⟨stop, _ | ⟨third, rest⟩⟩⟩
  · exact stringwise_keep
  · exact stringwise_bind (passable_sliceIndex start) fun _ => stringwise_map (passable_slice _ _)
  · exact stringwise_bind (passable_sliceIndex start) fun _ => stringwise_bind (passable_sliceIndex stop) fun _ =>
      stringwise_map (passable_slice _ _)
  · exact stringwise_keep

theorem stringwise_wraphtml (params : String) : Stringwise Passing fun v => wraphtml v params := by
  unfold wraphtml
  split
  · exact .inl ⟨.invalidParams .noTag, ⟨nofun, nofun⟩, fun _ => rfl⟩
  · exact stringwise_map fun _ => errs_ok _

theorem stringwise_unquote (params : String) : Stringwise Passing fun v => unquote v params := by
  refine stringwise_map fun s => ?_
  split
  · exact errs_ok _
  · exact errs_error ⟨nofun, nofun⟩

/-- The names of the filters that work string by string. -/
def stringwiseNames : List String := ["preadd", "postadd", "replace", "trim", "trimspace", "substr", "hrefreplace",
  "regexpreplace", "wraphtml", "tosbc", "unescape", "escape", "quote", "unquote"]

/-- Those of them that search their strings for a pattern. -/
def searchingNames : List String := ["hrefreplace", "regexpreplace"]

/-- What a filter that works string by string can fail with: what a chain goes on behind or, if it searches, the panic
of a search. -/
def StringError (name : String) (e : FilterError) : Prop :=
  if name ∈ searchingNames then Searching e else Passing e

variable {σ : Type}

/-- **Fourteen filters work string by string**, and act on no state. -/
theorem transforms_stringwise (clock : Clock) : ∀ f ∈ transforms σ clock, f.name ∈ stringwiseNames →
    ∃ g : Value → String → Except FilterError Value,
      (∀ params, Stringwise (StringError f.name) fun v => g v params) ∧ f.run = fun v params s => (g v params, s) := by
  have htotal : ∀ (g : String → String → String) name params,
      Stringwise (StringError name) fun v => Value.mapStrings (fun s => .ok (g params s)) v :=
    fun g name params => stringwise_map fun _ => errs_ok _
  have hpassing : ∀ name ∉ searchingNames, StringError name = Passing :=
    fun _ h => funext fun _ => if_neg h
  have hsearching : ∀ name ∈ searchingNames, StringError name = Searching :=
    fun _ h => funext fun _ => if_pos h
  unfold transforms
  simp only [List.forall_mem_cons, Filter.stateless]
  refine ⟨fun _ => ⟨_, htotal _ _, rfl⟩, fun _ => ⟨_, htotal _ _, rfl⟩,
    fun _ => ⟨_, hpassing "replace" (by decide) ▸ stringwise_replace, rfl⟩,
    fun h => absurd h (by decide), fun h => absurd h (by decide), fun _ => ⟨_, htotal _ _, rfl⟩,
    fun _ => ⟨_, htotal _ _, rfl⟩, fun _ => ⟨_, hpassing "substr" (by decide) ▸ stringwise_substr, rfl⟩,
    fun h => absurd h (by decide), fun h => absurd h (by decide),
    fun _ => ⟨_, hsearching "hrefreplace" (by decide) ▸ stringwise_hrefreplace, rfl⟩,
    fun _ => ⟨_, hsearching "regexpreplace" (by decide) ▸ stringwise_regexpreplace, rfl⟩,
    fun _ => ⟨_, hpassing "wraphtml" (by decide) ▸ stringwise_wraphtml, rfl⟩, fun _ => ⟨_, htotal _ _, rfl⟩,
    fun _ => ⟨_, htotal _ _, rfl⟩, fun _ => ⟨_, htotal _ _, rfl⟩, fun h => absurd h (by decide),
    fun h => absurd h (by decide), fun h => absurd h (by decide), fun h => absurd h (by decide),
    fun h => absurd h (by decide), fun _ => ⟨_, htotal _ _, rfl⟩,
    fun _ => ⟨_, hpassing "unquote" (by decide) ▸ stringwise_unquote, rfl⟩, List.forall_mem_nil _⟩

theorem exists_stringwise (clock : Clock) {name : String} (h : name ∈ stringwiseNames) :
    ∃ g : Value → String → Except FilterError Value, (∀ params, Stringwise (StringError name) fun v => g v params) ∧
      ∀ v params (s : σ), (builtin σ clock).apply name v params s = (g v params, s) := by
  have hnames : ∀ n ∈ stringwiseNames, n ∈ (transforms σ clock).map Filter.name := by
    unfold transforms
    simp only [List.map_cons, List.map_nil, Filter.stateless]
    decide
  obtain ⟨f, hf, rfl⟩ := List.mem_map.1 (hnames name h)
  obtain ⟨g, hg, hrun⟩ := transforms_stringwise clock f hf h
  refine ⟨g, hg, fun v params s => ?_⟩
  rw [apply_transform hf, hrun]

theorem Stringwise.errs {f : Value → Except FilterError Value} (hf : Stringwise P f) (v : Value) : Errs P (f v) := by
  rcases hf with ⟨e, he, hall⟩ | ⟨g, hg, hall⟩
  · rw [hall]
    exact errs_error he
  · intro e h
    rw [hall, Value.mapStrings_eq_error] at h
    obtain ⟨-, t, -, -, -, ht⟩ := h
    exact hg t e ht

theorem mapStrings_string (g : String → Except FilterError String) (t : String) :
    (Value.string t).mapStrings g = (g t).map .string := by
  rw [Value.mapStrings, Value.mapStringsM]
  cases g t <;> rfl

/-- **What works string by string keeps the form of a value**, and puts in the place of each string what it makes of
that string alone. -/
theorem Stringwise.rewritten {f : Value → Except FilterError Value} (hf : Stringwise P f) {v w : Value}
    (h : f v = .ok w) : v.Rewritten (fun t u => f (.string t) = .ok (.string u)) w := by
  rcases hf with ⟨e, -, hall⟩ | ⟨g, -, hall⟩
  · rw [hall] at h
    cases h
  · have hone : (fun t u => f (.string t) = .ok (.string u)) = fun t u => g t = .ok u := by
      funext t u
      rw [hall, mapStrings_string]
      cases g t <;> simp [Except.map]
    rw [hall, Value.mapStrings_eq_ok] at h
    rwa [hone]

/-- **What works string by string fails on a value with strings as it does on the first of them that it fails on.** -/
theorem Stringwise.error_iff {f : Value → Except FilterError Value} (hf : Stringwise P f) {v : Value}
    (hv : v.leaves ≠ []) (e : FilterError) :
    f v = .error e ↔ FirstError (fun t => f (.string t)) v.leaves e := by
  rcases hf with ⟨e', -, hall⟩ | ⟨g, -, hall⟩
  -- Parameters that fail on every value fail on the first string too; this is where the value needs one.
  · obtain ⟨t, ts, hleaves⟩ := List.exists_cons_of_ne_nil hv
    rw [hleaves, firstError_cons, hall, hall]
    simp
  · simp only [hall, mapStrings_string]
    rw [Value.mapStrings_eq_error, firstError_map]

/-! ## Trimming and narrowing twice -/

/-- The half-width forms are no full-width characters. -/
theorem halfWidth_halfWidth (c : Char) : halfWidth (halfWidth c) = halfWidth c := by
  have hself : ∀ d : Char, d.toNat ≠ 0x3000 → ¬ (0xFF01 ≤ d.toNat ∧ d.toNat ≤ 0xFF5E) → halfWidth d = d := by
    intro d hspace hwide
    unfold halfWidth
    rw [if_neg (by simpa using hspace), if_neg (by simpa using hwide)]
  -- What comes of a full-width character is printable ASCII, below both of the ranges that are narrowed.
  by_cases hspace : c.toNat = 0x3000
  · have hnarrow : halfWidth c = ' ' := if_pos (by simpa using hspace)
    rw [hnarrow]
    rfl
  · by_cases hwide : 0xFF01 ≤ c.toNat ∧ c.toNat ≤ 0xFF5E
    · have hnarrow : halfWidth c = Char.ofNat (c.toNat - 0xFEE0) := by
        unfold halfWidth
        rw [if_neg (by simpa using hspace), if_pos (by simpa using hwide)]
      have hcode : (Char.ofNat (c.toNat - 0xFEE0)).toNat = c.toNat - 0xFEE0 := by
        have hvalid : (c.toNat - 0xFEE0).isValidChar := .inl (by omega)
        rw [Char.ofNat, dif_pos hvalid]
        rfl
      rw [hnarrow]
      exact hself _ (by omega) (by omega)
    · rw [hself c hspace hwide, hself c hspace hwide]

theorem ofList_twice {g : List Char → List Char} (hg : ∀ cs, g (g cs) = g cs) (t : String) :
    String.ofList (g (String.ofList (g t.toList)).toList) = String.ofList (g t.toList) := by
  rw [String.toList_ofList, hg]

/-- The three filters that do nothing a second time never fail. -/
theorem exists_idempotent (clock : Clock) {name : String} (h : name ∈ ["trimspace", "tosbc", "trim"])
    (params : String) : ∃ g : String → String, (∀ t, g (g t) = g t) ∧
      ∀ v (s : σ), (builtin σ clock).apply name v params s = (v.mapStrings fun t => .ok (g t), s) := by
  have happ : ∀ f ∈ transforms σ clock, ∀ v s, (builtin σ clock).apply f.name v params s = f.run v params s :=
    fun f hf v s => apply_transform hf v params s
  simp only [List.mem_cons, List.not_mem_nil, or_false] at h
  rcases h with rfl | rfl | rfl
  · exact ⟨Text.trim, ofList_twice (Text.trimBy_trimBy _),
      happ (.stateless "trimspace" "Strip surrounding whitespace" "trimspace" trimspace) (by simp [transforms])⟩
  · refine ⟨fun t => String.ofList (t.toList.map halfWidth), ofList_twice fun cs => ?_,
      happ (.stateless "tosbc" "Convert full-width punctuation and letters to half-width" "tosbc" tosbc)
        (by simp [transforms])⟩
    rw [List.map_map]
    exact List.map_congr_left fun c _ => halfWidth_halfWidth c
  · exact ⟨fun t => String.ofList (Text.trimBy params.toList.contains t.toList), ofList_twice (Text.trimBy_trimBy _),
      happ (.stateless "trim" "Strip the given characters from both ends" "trim(;)" trim) (by simp [transforms])⟩

/-- **Filters that work string by string keep the form of a value, or fail as a whole.**  A value that such a filter
yields has the form of its own value and, in the place of each string, what the filter makes of that string alone; all
else in it stays.  On a value with strings the filter fails exactly if it fails on one of them alone, with the error of
the first, and in a chain the next call then sees the value as it was; only a search can panic instead, and then the
chain ends.  `trimspace`, `tosbc` and `trim` never fail, and a second call of one of them in a row changes nothing. -/
theorem stringwise_exact (clock : Clock) (s : σ) :
    let r := builtin σ clock
    (∀ name ∈ stringwiseNames, ∀ (params : String) (v : Value),
      let result := r.apply name v params s
      let one := fun t : String => (r.apply name (.string t) params s).1
      result.2 = s ∧
      (∀ w, result.1 = .ok w → v.Rewritten (fun t u => one t = .ok (.string u)) w) ∧
      (v.leaves ≠ [] → ((∃ e, result.1 = .error e) ↔ ∃ t ∈ v.leaves, ∃ e, one t = .error e) ∧
        ∀ e, result.1 = .error e ↔ FirstError one v.leaves e) ∧
      (∀ e, result.1 = .error e → (∀ p, e ≠ .panic p) →
        ∀ cs, Chain.run r (⟨name, params⟩ :: cs) v s = Chain.run r cs v s) ∧
      ∀ p, result.1 = .error (.panic p) → (name ∈ searchingNames ∧ p = .inverted) ∧
        ∀ cs, Chain.run r (⟨name, params⟩ :: cs) v s = (.error (.panicked p), s)) ∧
    ∀ name ∈ ["trimspace", "tosbc", "trim"], ∀ (params : String) (v : Value),
      (∃ w, r.apply name v params s = (.ok w, s) ∧ r.apply name w params s = (.ok w, s)) ∧
      ∀ cs, Chain.run r (⟨name, params⟩ :: ⟨name, params⟩ :: cs) v s = Chain.run r (⟨name, params⟩ :: cs) v s := by
  intro r
  refine ⟨fun name hname params v => ?_, fun name hname params v => ?_⟩
  · obtain ⟨g, hg, happ⟩ := exists_stringwise (σ := σ) clock hname
    intro result one
    have hresult : result = (g v params, s) := happ v params s
    have hone : one = fun t => g (.string t) params := funext fun t => congrArg Prod.fst (happ _ params s)
    rw [hresult, hone]
    have happ' : ∀ {e}, g v params = .error e → r.apply name v params s = (.error e, s) :=
      fun he => hresult.trans (congrArg (·, s) he)
    have herr : Errs (StringError name) (g v params) := (hg params).errs v
    refine ⟨rfl, fun w => (hg params).rewritten, fun hv => ⟨?_, (hg params).error_iff hv⟩, fun e he hpanic cs => ?_,
      fun p hp => ⟨?_, fun cs => ?_⟩⟩
    · rw [← exists_firstError]
      exact exists_congr ((hg params).error_iff hv)
    · have hpassing : Passing e := by
        refine ⟨?_, hpanic⟩
        have he' := herr e he
        unfold StringError at he'
        split at he'
        · exact he'.1
        · exact he'.1
      exact (Chain.Passes.failed (c := ⟨name, params⟩) (happ' he) hpassing .nil).run_append cs
    · have hp' := herr _ hp
      unfold StringError at hp'
      split at hp'
      · next hmem => exact ⟨hmem, hp'.2 p rfl⟩
      · exact absurd rfl (hp'.2 p)
    · rw [Chain.run_cons]
      simp only [happ' hp, Chain.stopOf?]
  · obtain ⟨g, hg, happ⟩ := exists_idempotent (σ := σ) clock hname params
    obtain ⟨w, honce, htwice⟩ := v.mapStrings_idempotent hg
    have hfirst : r.apply name v params s = (.ok w, s) := (happ v s).trans (congrArg (·, s) honce)
    have hsecond : r.apply name w params s = (.ok w, s) := (happ w s).trans (congrArg (·, s) htwice)
    refine ⟨⟨w, hfirst, hsecond⟩, fun cs => ?_⟩
    rw [Chain.run_cons, Chain.run_cons r _ cs]
    simp only [hfirst, Chain.run_cons r _ cs, hsecond]

/-- A slice behind the end of the last string of a nested list fails on the whole list, and a chain keeps the list. -/
theorem stringwise_exact_sliced :
    let r := builtin Unit ⟨0, 0⟩
    let v : Value := .array [.string "abcd", .int 1, .array [.strings ["xyz", "ab"]]]
    (r.apply "substr" v "1,3" ()).1 = .error (.invalidParams (.sliceRange 1 3 2)) ∧
    Chain.run r [⟨"substr", "1,3"⟩] v () = (.ok v, ()) ∧
    (∃ w, r.apply "trimspace" v "" () = (.ok w, ()) ∧ v.Rewritten
      (fun t u => (r.apply "trimspace" (.string t) "" ()).1 = .ok (.string u)) w) := by
  intro r v
  obtain ⟨hall, htwice⟩ := stringwise_exact ⟨0, 0⟩ ()
  obtain ⟨-, -, herror, hchain, -⟩ := hall "substr" (by decide) "1,3" v
  have hfails : (r.apply "substr" v "1,3" ()).1 = .error (.invalidParams (.sliceRange 1 3 2)) :=
    ((herror (by decide)).2 _).2 ⟨["abcd", "xyz"], "ab", [], rfl,
      List.forall_mem_cons.2 ⟨⟨.string "bc", rfl⟩, List.forall_mem_cons.2 ⟨⟨.string "yz", rfl⟩, nofun⟩⟩, rfl⟩
  obtain ⟨⟨w, honce, -⟩, -⟩ := htwice "trimspace" (by decide) "" v
  exact ⟨hfails, hchain _ hfails nofun [], w, honce,
    (hall "trimspace" (by decide) "" v).2.1 w (congrArg Prod.fst honce)⟩

end Filter

end Harvest
