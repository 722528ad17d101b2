import Harvest.Proofs.Css.Uproot
import Harvest.Proofs.Markup.Pruning
/-!
# Chains only prune

`rm` takes away the subtrees of what its selector matches below the nodes, all in the document as it was before
(`lopped_remove`); no other operator changes the document.  So a chain, and any number of them, leaves the document
with whole subtrees deleted.
-/
namespace Harvest.Css

open Harvest.Markup (Document)

variable {d : Document}

/-- **`rm` takes away exactly what it names**: what its selector matches below the nodes, with what is below that. -/
theorem lopped_remove (h : d.Nested) (s : Selector) (nodes : List Nat) :
    Document.Lopped (fun j => ∃ i ∈ nodes, j ∈ d.descendants i ∧ selects d s j = true) d
      ((Op.remove s).run d nodes).1 := by
  have hroots : (fun j => ∃ i ∈ nodes, j ∈ d.descendants i ∧ selects d s j = true) = (· ∈ find d s nodes) := by
    funext j
    rw [eq_iff_iff, mem_find]
    exact ⟨fun ⟨i, hi, hj, hs⟩ => ⟨⟨i, hi, hj⟩, hs⟩, fun ⟨⟨i, hi, hj⟩, hs⟩ => ⟨i, hi, hj, hs⟩⟩
  rw [hroots]
  exact Markup.Document.lopped_removeAll h (zero_not_mem_find h.toWellFormed s nodes)

/-! ## Operators, chains and several chains -/

/-- What an operator leaves is the document with whole subtrees deleted. -/
theorem Op.prunes_run (h : d.Nested) (nodes : List Nat) (op : Op) :
    (op.run d nodes).1.Nested ∧ d.Prunes (op.run d nodes).1 := by
  cases op with
  | remove s => exact ⟨h.removeAll _, _, lopped_remove h s nodes⟩
  | walk r among => cases among <;> exact ⟨h, Markup.Document.prunes_refl h⟩
  | _ => exact ⟨h, Markup.Document.prunes_refl h⟩

theorem Op.prunes_runAll : ∀ (ops : List Op) {d : Document} (nodes : List Nat), d.Nested →
    (Op.runAll d nodes ops).1.Nested ∧ d.Prunes (Op.runAll d nodes ops).1
  | [], _, _, h => ⟨h, Markup.Document.prunes_refl h⟩
  | op :: ops, d, nodes, h => by
    obtain ⟨hop, hpop⟩ := op.prunes_run h nodes
    obtain ⟨hops, hpops⟩ := prunes_runAll ops (op.run d nodes).2 hop
    exact ⟨hops, hpop.trans hpops h hop⟩

theorem Chain.prunes_run (h : d.Nested) (c : Chain) (context : List Nat) :
    (c.run d context).1.Nested ∧ d.Prunes (c.run d context).1 :=
  Op.prunes_runAll c.ops _ h

theorem prunes_prune : ∀ (runs : List (Chain × List Nat)) {d : Document}, d.Nested →
    (prune d runs).Nested ∧ d.Prunes (prune d runs)
  | [], _, h => ⟨h, Markup.Document.prunes_refl h⟩
  | r :: runs, d, h => by
    obtain ⟨hrun, hprun⟩ := r.1.prunes_run h r.2
    obtain ⟨hruns, hpruns⟩ := prunes_prune runs hrun
    exact ⟨hruns, hprun.trans hpruns h hrun⟩

/-! ## Chains without `rm` -/

/-- `rm` with an argument is the one operator that takes anything away. -/
theorem Op.ofName_eq_remove {name arg : String} {s : Selector} :
    Op.ofName name arg = .ok (.remove s) ↔ name = "rm" ∧ arg ≠ "" ∧ Css.parse arg = .ok s := by
  -- Operators of one kind with a selector are no operators of another kind.
  have hselector : ∀ {op : Selector → Op}, (∀ s', op s' ≠ .remove s) → Op.ofSelector arg op ≠ .ok (.remove s) := by
    intro op hop h
    unfold Op.ofSelector at h
    split at h
    · cases h
    · cases hparse : Css.parse arg with
      | error e => rw [hparse] at h; cases h
      | ok s' =>
        rw [hparse] at h
        exact hop s' (Except.ok.inj h)
  unfold Op.ofName
  split
  · simp
  · simp
  · simp
  · exact iff_of_false (hselector fun _ h => nomatch h) (by simp)
  · exact iff_of_false (hselector fun _ h => nomatch h) (by simp)
  · unfold Op.ofSelector
    by_cases harg : arg = ""
    · simp [harg]
    · rw [if_neg (by simpa using harg)]
      cases Css.parse arg with
      | ok s' => simp [Except.map, harg]
      | error e => simp [Except.map]
  · rename_i hrm
    refine iff_of_false ?_ fun h => hrm h.1
    split
    · exact fun h => nomatch h
    · split
      · exact hselector fun _ h => nomatch h
      · exact fun h => nomatch h

theorem Op.run_document (nodes : List Nat) {op : Op} (h : ∀ s, op ≠ .remove s) : (op.run d nodes).1 = d := by
  cases op with
  | remove s => exact absurd rfl (h s)
  | walk r among => cases among <;> rfl
  | _ => rfl

theorem Op.runAll_document : ∀ {ops : List Op} (nodes : List Nat), (∀ s, Op.remove s ∉ ops) →
    (Op.runAll d nodes ops).1 = d
  | [], _, _ => rfl
  | op :: ops, nodes, h => by
    have hop : (op.run d nodes).1 = d := op.run_document nodes fun s hs => h s (hs ▸ List.mem_cons_self)
    show (Op.runAll (op.run d nodes).1 (op.run d nodes).2 ops).1 = d
    rw [hop]
    exact runAll_document _ fun s hs => h s (List.mem_cons_of_mem op hs)

/-- **A chain without `rm` leaves its document as it is.** -/
theorem Chain.run_document {c : Chain} (h : ∀ s, Op.remove s ∉ c.ops) (context : List Nat) :
    (c.run d context).1 = d :=
  Op.runAll_document _ h

/-- There is nothing to be taken out of the document without nodes. -/
theorem Op.run_default (nodes : List Nat) (op : Op) : (op.run default nodes).1 = default := by
  have hremove : ∀ is : List Nat, is.foldl Document.remove default = default := by
    intro is
    induction is with
    | nil => rfl
    | cons i is ih => exact ih
  cases op with
  | remove s => exact hremove _
  | walk r among => cases among <;> rfl
  | _ => rfl

theorem Op.runAll_default : ∀ (ops : List Op) (nodes : List Nat), (Op.runAll default nodes ops).1 = default
  | [], _ => rfl
  | op :: ops, nodes => by
    show (Op.runAll (op.run default nodes).1 (op.run default nodes).2 ops).1 = default
    rw [op.run_default]
    exact runAll_default ops _

end Harvest.Css
