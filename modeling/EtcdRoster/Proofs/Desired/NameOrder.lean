import EtcdRoster.Proofs.Stability
import EtcdRoster.Reconcile.Desired

/-!
# Nodes in name order

Nodes are called by name, and nodes of one name in the order in which they came. There is one such
order (`inNameOrder_iff`).
-/

namespace EtcdRoster.Desired

variable {nodes sorted : List Node}

/-- Whether a node may be called before another one. -/
abbrev namedBefore (a b : Node) : Bool :=
  decide (a.metadata.nameOrGenerated ≤ b.metadata.nameOrGenerated)

theorem namedBefore_total (a b : Node) (h : namedBefore a b = false) : namedBefore b a = true :=
  decide_eq_true ((String.le_total ..).resolve_left (of_decide_eq_false h))

theorem namedBefore_trans (a b c : Node) (hab : namedBefore a b = true)
    (hbc : namedBefore b c = true) : namedBefore a c = true :=
  decide_eq_true (String.le_trans (of_decide_eq_true hab) (of_decide_eq_true hbc))

/-- Nodes that may be called before each other have one name. -/
theorem name_eq_of_namedBefore {a b : Node} (hab : namedBefore a b = true)
    (hba : namedBefore b a = true) : a.metadata.nameOrGenerated = b.metadata.nameOrGenerated :=
  String.le_antisymm (of_decide_eq_true hab) (of_decide_eq_true hba)

theorem alike_namedBefore (a : Node) : Sorting.alike namedBefore a =
    fun b => decide (b.metadata.nameOrGenerated = a.metadata.nameOrGenerated) := by
  funext b
  rw [Bool.eq_iff_iff, Sorting.alike, Bool.and_eq_true]
  constructor
  · rintro ⟨hab, hba⟩
    exact decide_eq_true (name_eq_of_namedBefore hba hab)
  · intro h
    have hname := of_decide_eq_true h
    rw [namedBefore, namedBefore, hname]
    exact ⟨decide_eq_true (String.le_refl _), decide_eq_true (String.le_refl _)⟩

/-- The same nodes by name, those of one name in the order in which they came. -/
structure InNameOrder (nodes sorted : List Node) : Prop where
  ordered : sorted.Pairwise fun a b => a.metadata.nameOrGenerated ≤ b.metadata.nameOrGenerated
  stable : ∀ name, sorted.filter (·.metadata.nameOrGenerated = name)
    = nodes.filter (·.metadata.nameOrGenerated = name)

theorem inNameOrder_sortNodes (nodes : List Node) : InNameOrder nodes (sortNodes nodes) where
  ordered := (Sorting.sort_pairwise namedBefore_total namedBefore_trans nodes).imp of_decide_eq_true
  stable name := by
    refine Sorting.filter_sort (fun a b ha hb => ?_) nodes
    rw [of_decide_eq_true ha, of_decide_eq_true hb]
    exact decide_eq_true (String.le_refl name)

/-- There is one such order, and in this order a build calls the nodes. -/
theorem inNameOrder_iff : InNameOrder nodes sorted ↔ sorted = sortNodes nodes := by
  constructor
  · intro h
    have hsorted := inNameOrder_sortNodes nodes
    refine Sorting.eq_of_filter_alike namedBefore_total (h.ordered.imp decide_eq_true)
      (hsorted.ordered.imp decide_eq_true) fun a => ?_
    rw [alike_namedBefore, h.stable, hsorted.stable]
  · rintro rfl
    exact inNameOrder_sortNodes nodes

end EtcdRoster.Desired
