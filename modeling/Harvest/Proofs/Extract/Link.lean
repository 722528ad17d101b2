import Harvest.Extract.State
import Harvest.Proofs.Extract.Mild
/-!
# Two runs side by side

A `Link` relates the states of two runs step by step: while both go on, their states are related and what they yield
is; where both end for good, their last states and errors are; and some errors of the first run are let go, so that
nothing is said of the second run any more.  `Linked` says this of two steps from all related states, and every way of
putting steps together keeps it.  A run beside itself gives what one run keeps.
-/
namespace Harvest.Extract

variable {σ τ : Type} {α β γ δ : Type}

/-- How the states of two runs belong together. -/
structure Link (σ τ : Type) where
  /-- While both runs go on. -/
  state : State σ → State τ → Prop
  /-- Where both have ended for good, each with its error. -/
  fatal : ExtractError → State σ → ExtractError → State τ → Prop
  /-- The errors of the first run behind which the second one does not count. -/
  lost : ExtractError → Prop

/-- Two outcomes that a link allows; `A` relates what the runs yield. -/
inductive Link.Outcome (L : Link σ τ) (A : α → β → Prop) :
    Except ExtractError α × State σ → Except ExtractError β × State τ → Prop where
  | ok {a : α} {b : β} {s : State σ} {t : State τ} : A a b → L.state s t → L.Outcome A (.ok a, s) (.ok b, t)
  | error {e : ExtractError} {s : State σ} {t : State τ} :
      e.isFatal = false → L.state s t → L.Outcome A (.error e, s) (.error e, t)
  | fatal {e f : ExtractError} {s : State σ} {t : State τ} :
      e.isFatal = true → f.isFatal = true → L.fatal e s f t → L.Outcome A (.error e, s) (.error f, t)
  | lost {e : ExtractError} {s : State σ} (q : Except ExtractError β × State τ) :
      e.isFatal = true → L.lost e → L.Outcome A (.error e, s) q

/-- From related states, two steps have outcomes that the link allows. -/
def Linked (L : Link σ τ) (A : α → β → Prop) (x : Run σ α) (y : Run τ β) : Prop :=
  ∀ s t, L.state s t → L.Outcome A (x s) (y t)

/-- Both runs yield the same, and of that `P` holds. -/
def Same (P : α → Prop) (a b : α) : Prop := a = b ∧ P a

/-! ## How steps run -/

namespace Run

theorem bind_apply (x : Run σ α) (f : α → Run σ β) (s : State σ) :
    (x >>= f) s = match x s with
      | (.ok a, s) => f a s
      | (.error e, s) => (.error e, s) := by
  show (match x s with | (r, s) => ExceptT.bindCont f r s) = _
  rcases x s with ⟨_ | _, _⟩ <;> rfl

theorem lift_apply (r : Except ExtractError α) (s : State σ) : (lift r : Run σ α) s = (r, s) := rfl

theorem attempt_apply (x : Run σ α) (s : State σ) :
    attempt x s = match x s with
      | (.ok a, s) => (.ok (some a), s)
      | (.error e, s) => (if e.isFatal then .error e else .ok none, s) := rfl

theorem filtered_apply (r : Registry σ) (calls : List Filter.Call) (v : Value) (s : State σ) :
    filtered r calls v s = match Filter.Chain.run r calls v s.outside with
      | (.ok v, t) => (.ok v, { s with outside := t })
      | (.error (.rejected filter v), t) => (.error (.invalidContent filter v), { s with outside := t })
      | (.error (.panicked p), t) => (.error (.panic p), { s with outside := t }) := rfl

end Run

/-! ## Putting steps together -/

theorem Link.Outcome.mono {L : Link σ τ} {A B : α → β → Prop} (h : ∀ a b, A a b → B a b) {p q}
    (o : L.Outcome A p q) : L.Outcome B p q := by
  cases o with
  | ok ha hs => exact .ok (h _ _ ha) hs
  | error he hs => exact .error he hs
  | fatal he hf hs => exact .fatal he hf hs
  | lost q he hl => exact .lost q he hl

namespace Linked

variable {L : Link σ τ} {A : α → β → Prop} {B : γ → δ → Prop}

theorem mono {A' : α → β → Prop} (h : ∀ a b, A a b → A' a b) {x : Run σ α} {y : Run τ β} (hxy : Linked L A x y) :
    Linked L A' x y :=
  fun s t hs => (hxy s t hs).mono h

theorem pure {a : α} {b : β} (h : A a b) : Linked L A (pure a) (pure b) := fun _ _ hs => .ok h hs

theorem throw {e : ExtractError} (h : e.isFatal = false) : Linked L A (throw e) (throw e) := fun _ _ hs => .error h hs

/-- **A run goes on as the other does.** -/
theorem bind {x : Run σ α} {y : Run τ β} {f : α → Run σ γ} {g : β → Run τ δ} (hxy : Linked L A x y)
    (hfg : ∀ a b, A a b → Linked L B (f a) (g b)) : Linked L B (x >>= f) (y >>= g) := by
  intro s t hs
  rw [Run.bind_apply, Run.bind_apply]
  have h := hxy s t hs
  generalize x s = p at h
  generalize y t = q at h
  cases h with
  | ok ha hs => exact hfg _ _ ha _ _ hs
  | error he hs => exact .error he hs
  | fatal he hf hs => exact .fatal he hf hs
  | lost q he hl => exact .lost _ he hl

theorem lift {P : α → Prop} {r : Except ExtractError α} (h : Mild r) (hP : ∀ a, r = .ok a → P a) :
    Linked L (Same P) (Run.lift r) (Run.lift r) := by
  intro s t hs
  cases r with
  | ok a => exact .ok ⟨rfl, hP a rfl⟩ hs
  | error e => exact .error (h e rfl) hs

theorem attempt {P : α → Prop} {x : Run σ α} {y : Run τ α} (h : Linked L (Same P) x y) :
    Linked L (Same fun a? => ∀ a ∈ a?, P a) (Run.attempt x) (Run.attempt y) := by
  intro s t hs
  rw [Run.attempt_apply, Run.attempt_apply]
  have h := h s t hs
  generalize x s = p at h
  generalize y t = q at h
  cases h with
  | ok ha hs =>
    obtain ⟨rfl, ha⟩ := ha
    exact .ok ⟨rfl, fun a h => Option.mem_some.1 h ▸ ha⟩ hs
  | error he hs =>
    simp only [he]
    exact .ok ⟨rfl, fun a h => by cases h⟩ hs
  | fatal he hf hs =>
    simp only [he, hf]
    exact .fatal he hf hs
  | lost q he hl =>
    simp only [he]
    exact .lost _ he hl

theorem survivors {ι : Type} {P : α → Prop} {f : ι → Run σ α} {g : ι → Run τ α} :
    ∀ {is : List ι}, (∀ i ∈ is, Linked L (Same P) (f i) (g i)) →
      Linked L (Same fun as => ∀ a ∈ as, P a) (Run.survivors f is) (Run.survivors g is)
  | [], _ => .pure ⟨rfl, fun a h => by cases h⟩
  | i :: is, h => by
    refine bind (attempt (h i List.mem_cons_self)) fun a b hab => ?_
    refine bind (survivors fun j hj => h j (List.mem_cons_of_mem i hj)) fun as bs hs => .pure ?_
    obtain ⟨rfl, ha⟩ := hab
    obtain ⟨rfl, has⟩ := hs
    refine ⟨rfl, fun c hc => ?_⟩
    rcases List.mem_append.1 hc with hc | hc
    · exact ha c (Option.mem_toList.1 hc)
    · exact has c hc

theorem fields {P : String → Value → Prop} {f : Spec → Run σ Value} {g : Spec → Run τ Value} :
    ∀ {cs : List Spec} {acc : Fields Value}, (∀ c ∈ cs, Linked L (Same (P c.name)) (f c) (g c)) →
      (∀ p ∈ acc, P p.1 p.2) →
        Linked L (Same fun fs : Fields Value => ∀ p ∈ fs, P p.1 p.2) (Run.fields f acc cs) (Run.fields g acc cs)
  | [], _, _, hacc => .pure ⟨rfl, hacc⟩
  | c :: cs, acc, h, hacc => by
    refine bind (attempt (h c List.mem_cons_self)) fun a b hab => ?_
    obtain ⟨rfl, ha⟩ := hab
    have hcs : ∀ d ∈ cs, Linked L (Same (P d.name)) (f d) (g d) := fun d hd => h d (List.mem_cons_of_mem c hd)
    cases a with
    | none => exact fields hcs hacc
    | some v =>
      refine fields hcs fun p hp => ?_
      rcases Fields.mem_of_mem_insert hp with rfl | hp
      · exact ha v rfl
      · exact hacc p hp

end Linked

end Harvest.Extract
