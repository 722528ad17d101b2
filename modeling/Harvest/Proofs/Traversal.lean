import Mathlib.Data.List.Forall2
/-!
# Traversals that may fail

A traversal of a list yields what comes of its items, one by one (`mapM_eq_ok`), or fails as the first of them that
fails (`mapM_eq_error`).
-/
namespace Harvest

variable {ε α β : Type}

theorem mapM_cons_eq (f : α → Except ε β) (a : α) (as : List α) :
    (a :: as).mapM f = (f a).bind fun b => (as.mapM f).map (b :: ·) := by
  rw [List.mapM_cons]
  cases f a with
  | error e => rfl
  | ok b => cases as.mapM f <;> rfl

theorem map_eq_ok_iff {r : Except ε α} {g : α → β} {b : β} : r.map g = .ok b ↔ ∃ a, r = .ok a ∧ g a = b := by
  cases r with
  | error e => exact iff_of_false nofun fun ⟨_, h, _⟩ => nomatch h
  | ok a => simp [Except.map]

theorem cons_eq_ok {r : Except ε β} {rs : Except ε (List β)} {bs : List β} :
    (r.bind fun b => rs.map (b :: ·)) = .ok bs ↔ ∃ b bs', r = .ok b ∧ rs = .ok bs' ∧ bs = b :: bs' := by
  cases r with
  | error e => exact iff_of_false nofun fun ⟨_, _, h, _⟩ => nomatch h
  | ok b =>
    cases rs with
    | error e => exact iff_of_false nofun fun ⟨_, _, _, h, _⟩ => nomatch h
    | ok bs' => simp [Except.bind, Except.map, eq_comm]

theorem mapM_eq_ok {f : α → Except ε β} : ∀ {as : List α} {bs : List β},
    as.mapM f = .ok bs ↔ List.Forall₂ (fun a b => f a = .ok b) as bs
  | [], bs => by
    rw [List.mapM_nil, List.forall₂_nil_left_iff]
    exact ⟨fun h => (Except.ok.inj h).symm, fun h => h ▸ rfl⟩
  | a :: as, bs => by
    rw [mapM_cons_eq, cons_eq_ok, List.forall₂_cons_left_iff]
    exact exists_congr fun b => exists_congr fun bs' => and_congr_right fun _ => and_congr_left fun _ => mapM_eq_ok

/-- Where something can be made of each item, something is made of the list, item by item. -/
theorem mapM_of_forall {f : α → Except ε β} {p : α → β → Prop} : ∀ as : List α,
    (∀ a ∈ as, ∃ b, p a b ∧ f a = .ok b) → ∃ bs, List.Forall₂ p as bs ∧ as.mapM f = .ok bs
  | [], _ => ⟨[], .nil, rfl⟩
  | a :: as, h => by
    obtain ⟨b, hab, hb⟩ := h a List.mem_cons_self
    obtain ⟨bs, habs, hbs⟩ := mapM_of_forall as fun a' ha' => h a' (List.mem_cons_of_mem a ha')
    refine ⟨b :: bs, .cons hab habs, ?_⟩
    rw [List.mapM_cons, hb, hbs]
    rfl

theorem exists_mapM_ok {f : α → Except ε β} {as : List α} (h : ∀ a ∈ as, ∃ b, f a = .ok b) :
    ∃ bs : List β, bs.length = as.length ∧ as.mapM f = .ok bs := by
  have htrivial : ∀ a ∈ as, ∃ b, True ∧ f a = .ok b := fun a ha => (h a ha).imp fun _ hb => ⟨trivial, hb⟩
  obtain ⟨bs, hbs, hmap⟩ := mapM_of_forall as htrivial
  exact ⟨bs, hbs.length_eq.symm, hmap⟩

/-- Two ways to rewrite a list, neither of which fails on any item, give the same where they do on each item. -/
theorem mapM_eq_iff {f g : α → Except ε β} : ∀ as : List α, (∀ a ∈ as, ∃ b, f a = .ok b) →
    (∀ a ∈ as, ∃ b, g a = .ok b) → (as.mapM f = as.mapM g ↔ ∀ a ∈ as, f a = g a)
  | [], _, _ => iff_of_true rfl nofun
  | a :: as, hf, hg => by
    -- Both traversals get through the rest of the list, so its results can be compared apart from the first.
    obtain ⟨⟨b, hb⟩, hf⟩ := List.forall_mem_cons.1 hf
    obtain ⟨⟨c, hc⟩, hg⟩ := List.forall_mem_cons.1 hg
    obtain ⟨bs, _, hbs⟩ := exists_mapM_ok hf
    obtain ⟨cs, _, hcs⟩ := exists_mapM_ok hg
    rw [List.forall_mem_cons, ← mapM_eq_iff as hf hg, List.mapM_cons, List.mapM_cons, hb, hc, hbs, hcs]
    show Except.ok (b :: bs) = Except.ok (c :: cs) ↔ _
    simp only [Except.ok.injEq, List.cons.injEq]

/-- The items before one that fails do not, and that one fails with an error. -/
def FirstError (f : α → Except ε β) (as : List α) (e : ε) : Prop :=
  ∃ before a after, as = before ++ a :: after ∧ (∀ b ∈ before, ∃ c, f b = .ok c) ∧ f a = .error e

theorem firstError_cons {f : α → Except ε β} {a : α} {as : List α} {e : ε} : FirstError f (a :: as) e ↔
    f a = .error e ∨ ((∃ c, f a = .ok c) ∧ FirstError f as e) := by
  constructor
  · rintro ⟨_ | ⟨b, before⟩, x, after, h, hbefore, hx⟩
    · rw [List.nil_append, List.cons.injEq] at h
      exact .inl (h.1 ▸ hx)
    · rw [List.cons_append, List.cons.injEq] at h
      obtain ⟨hb, hbefore⟩ := List.forall_mem_cons.1 hbefore
      exact .inr ⟨h.1 ▸ hb, before, x, after, h.2, hbefore, hx⟩
  · rintro (ha | ⟨ha, before, x, after, h, hbefore, hx⟩)
    · exact ⟨[], a, as, rfl, nofun, ha⟩
    · exact ⟨a :: before, x, after, congrArg (a :: ·) h, List.forall_mem_cons.2 ⟨ha, hbefore⟩, hx⟩

theorem firstError_map {γ : Type} {f : α → Except ε β} {g : β → γ} {as : List α} {e : ε} :
    FirstError (fun a => (f a).map g) as e ↔ FirstError f as e := by
  have hok : ∀ a, (∃ c, (f a).map g = .ok c) ↔ ∃ b, f a = .ok b := fun a => by cases f a <;> simp [Except.map]
  have herror : ∀ a, (f a).map g = .error e ↔ f a = .error e := fun a => by cases f a <;> simp [Except.map]
  simp only [FirstError, hok, herror]

theorem exists_firstError {f : α → Except ε β} : ∀ {as : List α},
    (∃ e, FirstError f as e) ↔ ∃ a ∈ as, ∃ e, f a = .error e
  | [] => iff_of_false (fun ⟨_, before, _, _, h, _⟩ => by cases before <;> cases h) fun ⟨_, ha, _⟩ => nomatch ha
  | a :: as => by
    have has : (∃ e, FirstError f as e) ↔ ∃ a ∈ as, ∃ e, f a = .error e := exists_firstError
    simp only [firstError_cons, List.exists_mem_cons_iff, exists_or]
    cases f a with
    | error e => simp
    | ok b => simpa using has

/-- **A traversal fails with the error of the first item that fails.** -/
theorem mapM_eq_error {f : α → Except ε β} {e : ε} : ∀ {as : List α}, as.mapM f = .error e ↔ FirstError f as e
  | [] => iff_of_false nofun fun ⟨before, _, _, h, _⟩ => by cases before <;> cases h
  | a :: as => by
    rw [mapM_cons_eq, firstError_cons, ← mapM_eq_error]
    cases f a with
    | error e' => simp [Except.bind]
    | ok b => cases as.mapM f <;> simp [Except.bind, Except.map]

end Harvest
