import Harvest.Proofs.Css.Uproot
import Harvest.Proofs.Markup.Ancestor
import Mathlib.Data.List.Nodup
/-!
# Lists of nodes

The nodes that a chain works on are some nodes of its document, none of them twice (`NodeSet`).  Every operator keeps
that, and yields nothing but elements and nodes that it was given (`Op.nodeSet_run`); so does a chain, which yields
only elements if it has a selector of its own (`Chain.nodeSet_run`).
-/
namespace Harvest.Css

open Harvest.Markup (Document)

/-! ## Lists without their repetitions -/

section EraseDups

variable {α : Type} [DecidableEq α]

theorem nodup_eraseDups : ∀ as : List α, as.eraseDups.Nodup
  | [] => List.nodup_nil
  | a :: as => by
    rw [List.eraseDups_cons, List.nodup_cons, List.mem_eraseDups]
    exact ⟨fun ha => by simpa using (List.mem_filter.1 ha).2, nodup_eraseDups (as.filter fun b => !b == a)⟩
termination_by as => as.length
decreasing_by exact Nat.lt_succ_of_le (List.length_filter_le _ as)

theorem eraseDups_of_nodup : ∀ {as : List α}, as.Nodup → as.eraseDups = as
  | [], _ => rfl
  | a :: as, h => by
    obtain ⟨ha, has⟩ := List.nodup_cons.1 h
    have hfilter : as.filter (fun b => !b == a) = as := List.filter_eq_self.2 fun b hb => by
      have hne : b ≠ a := fun hba => ha (hba ▸ hb)
      simp [hne]
    rw [List.eraseDups_cons, hfilter, eraseDups_of_nodup has]

end EraseDups

/-- Some nodes of a document of so many nodes, none of them twice. -/
structure NodeSet (size : Nat) (nodes : List Nat) : Prop where
  nodup : nodes.Nodup
  inside : ∀ i ∈ nodes, i < size

instance (size : Nat) (nodes : List Nat) : Decidable (NodeSet size nodes) :=
  decidable_of_iff (nodes.Nodup ∧ ∀ i ∈ nodes, i < size) ⟨fun h => ⟨h.1, h.2⟩, fun h => ⟨h.nodup, h.inside⟩⟩

theorem NodeSet.sublist {size : Nat} {nodes nodes' : List Nat} (h : NodeSet size nodes) (hsub : nodes'.Sublist nodes) :
    NodeSet size nodes' :=
  ⟨h.nodup.sublist hsub, fun i hi => h.inside i (hsub.subset hi)⟩

variable {d : Document} {nodes : List Nat}

theorem lt_size_of_isElement {i : Nat} (h : d.isElement i = true) : i < d.size := by
  refine Nat.lt_of_not_le fun hle => ?_
  rw [Document.isElement, Document.data, Document.entry_of_size_le hle] at h
  cases h

/-- What is gathered of elements is a list of nodes. -/
theorem nodeSet_gather {f : Nat → List Nat} (hf : ∀ i, ∀ j ∈ f i, d.isElement j = true) (nodes : List Nat) :
    NodeSet d.size (gather f nodes) ∧ ∀ j ∈ gather f nodes, d.isElement j = true := by
  have helement : ∀ j ∈ gather f nodes, d.isElement j = true := fun j hj => by
    obtain ⟨i, -, hij⟩ := mem_gather.1 hj
    exact hf i j hij
  exact ⟨⟨nodup_eraseDups _, fun j hj => lt_size_of_isElement (helement j hj)⟩, helement⟩

theorem nodeSet_find (d : Document) (s : Selector) (nodes : List Nat) :
    NodeSet d.size (find d s nodes) ∧ ∀ j ∈ find d s nodes, d.isElement j = true :=
  nodeSet_gather (fun _ _ hj => (Bool.and_eq_true_iff.1 (List.mem_filter.1 hj).2).1) nodes

theorem nodeSet_walk (d : Document) (r : Relation) (nodes : List Nat) :
    NodeSet d.size (gather (r.targets d) nodes) ∧ ∀ j ∈ gather (r.targets d) nodes, d.isElement j = true :=
  nodeSet_gather (fun _ _ hj => isElement_of_mem_targets hj) nodes

theorem pick_sublist (nodes : List Nat) (n : Int64) : (pick nodes n).Sublist nodes := by
  unfold pick
  extract_lets k
  split
  · exact List.nil_sublist nodes
  · cases hget : nodes[k.toNat]? with
    | none => exact List.nil_sublist nodes
    | some i => exact List.singleton_sublist.2 (List.mem_of_getElem? hget)

/-! ## Operators and chains -/

/-- What a document consists of stays, whatever is cut. -/
theorem Op.nodes_run (d : Document) (nodes : List Nat) (op : Op) : (op.run d nodes).1.nodes = d.nodes := by
  unfold Op.run
  split
  case h_8 => exact Document.nodes_removeAll d _
  all_goals rfl

theorem Op.nodes_runAll : ∀ (ops : List Op) (d : Document) (nodes : List Nat),
    (Op.runAll d nodes ops).1.nodes = d.nodes
  | [], _, _ => rfl
  | op :: ops, d, nodes => (nodes_runAll ops _ _).trans (op.nodes_run d nodes)

theorem Chain.nodes_run (c : Chain) (d : Document) (context : List Nat) : (c.run d context).1.nodes = d.nodes :=
  Op.nodes_runAll c.ops d _

theorem Chain.size_run (c : Chain) (d : Document) (context : List Nat) : (c.run d context).1.size = d.size :=
  congrArg Array.size (c.nodes_run d context)

theorem isElement_congr {d d' : Document} (h : d'.nodes = d.nodes) (i : Nat) : d'.isElement i = d.isElement i := by
  unfold Document.isElement Document.data Document.entry
  rw [h]

/-- **An operator yields a list of nodes**, each an element or one that it was given. -/
theorem Op.nodeSet_run (h : NodeSet d.size nodes) (op : Op) : NodeSet d.size (op.run d nodes).2 ∧
    ∀ i ∈ (op.run d nodes).2, d.isElement i = true ∨ i ∈ nodes := by
  have hsub : ∀ {nodes' : List Nat}, nodes'.Sublist nodes →
      NodeSet d.size nodes' ∧ ∀ i ∈ nodes', d.isElement i = true ∨ i ∈ nodes :=
    fun hsub => ⟨h.sublist hsub, fun i hi => .inr (hsub.subset hi)⟩
  cases op with
  | eq n => exact hsub (pick_sublist nodes n)
  | first => exact hsub (List.take_sublist 1 nodes)
  | last =>
    refine hsub ?_
    show nodes.getLast?.toList.Sublist nodes
    cases hlast : nodes.getLast? with
    | none => exact List.nil_sublist nodes
    | some i => exact List.singleton_sublist.2 (List.mem_of_getLast? hlast)
  | walk r among =>
    obtain ⟨hset, helement⟩ := nodeSet_walk d r nodes
    cases among with
    | none => exact ⟨hset, fun i hi => .inl (helement i hi)⟩
    | some s => exact ⟨hset.sublist List.filter_sublist, fun i hi => .inl (helement i (List.mem_filter.1 hi).1)⟩
  | keep s => exact hsub List.filter_sublist
  | drop s => exact hsub List.filter_sublist
  | remove s => exact hsub (List.Sublist.refl nodes)
  | pass => exact hsub (List.Sublist.refl nodes)

theorem Op.nodeSet_runAll : ∀ (ops : List Op) {d : Document} {nodes : List Nat}, NodeSet d.size nodes →
    NodeSet d.size (Op.runAll d nodes ops).2 ∧ ∀ i ∈ (Op.runAll d nodes ops).2, d.isElement i = true ∨ i ∈ nodes
  | [], _, _, h => ⟨h, fun _ hi => .inr hi⟩
  | op :: ops, d, nodes, h => by
    have hnodes := op.nodes_run d nodes
    have hsize : (op.run d nodes).1.size = d.size := congrArg Array.size hnodes
    obtain ⟨hset, hmem⟩ := op.nodeSet_run h
    rw [← hsize] at hset
    obtain ⟨hset', hmem'⟩ := nodeSet_runAll ops hset
    refine ⟨hsize ▸ hset', fun i hi => ?_⟩
    rcases hmem' i hi with helement | hi
    · exact .inl (isElement_congr hnodes i ▸ helement)
    · exact hmem i hi

/-- **A chain yields a list of nodes**, each an element or, if the chain has no selector of its own, one that it was
given. -/
theorem Chain.nodeSet_run (h : NodeSet d.size nodes) (c : Chain) :
    NodeSet d.size (c.run d nodes).2 ∧
      ∀ i ∈ (c.run d nodes).2, d.isElement i = true ∨ c.primary = none ∧ i ∈ nodes := by
  obtain ⟨source, primary, ops, mode⟩ := c
  cases primary with
  | none =>
    obtain ⟨hset, hmem⟩ := Op.nodeSet_runAll ops h
    exact ⟨hset, fun i hi => (hmem i hi).imp_right (And.intro rfl)⟩
  | some s =>
    obtain ⟨hfind, helement⟩ := nodeSet_find d s nodes
    obtain ⟨hset, hmem⟩ := Op.nodeSet_runAll ops hfind
    exact ⟨hset, fun i hi => .inl ((hmem i hi).elim id (helement i))⟩

end Harvest.Css
