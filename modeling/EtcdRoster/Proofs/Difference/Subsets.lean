import EtcdRoster.Proofs.Difference.Metadata
import EtcdRoster.Proofs.Stability

/-!
# Comparing subsets

Two subsets that compare equal hold the same addresses in some order (`perm_of_subsetEqual`), and
the object to write always compares equal to the desired one (`subsetsEqual_reconcile`), whether its
subsets were kept or replaced. `reconcile_unchanged` is the exactness of the flag for whole objects.
-/

namespace EtcdRoster.Difference

theorem perm_of_subsetEqual {a b : EndpointSubset} (h : subsetEqual a b = true) :
    (a.addresses.getD []).Perm (b.addresses.getD []) := by
  simp only [subsetEqual, Bool.and_eq_true, beq_iff_eq] at h
  have hsorted := h.2
  have hperm : ∀ l : List EndpointAddress, (sortAddresses l).Perm l :=
    fun l => Sorting.sort_perm _ l
  exact (hperm _).symm.trans (hsorted ▸ hperm _)

theorem count_notReady_of_subsetEqual {a b : EndpointSubset} (h : subsetEqual a b = true) :
    count a.notReadyAddresses = count b.notReadyAddresses := by
  simp only [subsetEqual, Bool.and_eq_true, beq_iff_eq] at h
  exact h.1.1.2

theorem count_ports_of_subsetEqual {a b : EndpointSubset} (h : subsetEqual a b = true) :
    count a.ports = count b.ports := by
  simp only [subsetEqual, Bool.and_eq_true, beq_iff_eq] at h
  exact h.1.2

@[simp] theorem subsetEqual_refl (s : EndpointSubset) : subsetEqual s s = true := by
  simp [subsetEqual]

@[simp] theorem subsetsEqual_refl (subsets : List EndpointSubset) :
    subsetsEqual subsets subsets = true := by
  induction subsets with
  | nil => rfl
  | cons s rest ih => simp [subsetsEqual, ih]

theorem subsetsEqual_single_right {subsets : List EndpointSubset} {s : EndpointSubset}
    (h : subsetsEqual subsets [s] = true) : ∃ x, subsets = [x] ∧ subsetEqual x s = true := by
  cases subsets with
  | nil => simp [subsetsEqual] at h
  | cons x rest =>
    rw [subsetsEqual, Bool.and_eq_true] at h
    cases rest with
    | nil => exact ⟨x, rfl, h.1⟩
    | cons y rest => simp [subsetsEqual] at h

theorem eq_some_singleton_of_getD {α : Type} {items : Option (List α)} {x : α}
    (h : items.getD [] = [x]) : items = some [x] := by
  cases items with
  | none => cases h
  | some l => exact congrArg some h

/-! ## The object to write -/

/-- The object to write publishes what is desired, whether its subsets were kept or replaced. -/
theorem subsetsEqual_reconcile (existing required : Endpoints) :
    subsetsEqual ((reconcile existing required).1.subsets.getD []) (required.subsets.getD [])
      = true := by
  unfold reconcile
  dsimp only
  by_cases h : subsetsEqual (existing.subsets.getD []) (required.subsets.getD []) = true
  · rw [if_pos h]
    exact h
  · rw [if_neg h]
    exact subsetsEqual_refl _

/-- If one subset is desired, the object to write has one that compares equal to it. -/
theorem exists_subset_reconcile (existing required : Endpoints) {s : EndpointSubset}
    (h : required.subsets = some [s]) :
    ∃ x, (reconcile existing required).1.subsets = some [x] ∧ subsetEqual x s = true := by
  have hequal := subsetsEqual_reconcile existing required
  rw [h] at hequal
  obtain ⟨x, hsubsets, hx⟩ := subsetsEqual_single_right hequal
  exact ⟨x, eq_some_singleton_of_getD hsubsets, hx⟩

@[simp] theorem metadata_reconcile (existing required : Endpoints) :
    (reconcile existing required).1.metadata
      = (mergeMeta existing.metadata required.metadata).1 := by
  unfold reconcile
  dsimp only
  split <;> rfl

/-- The object to write keeps the version that was read. -/
theorem resourceVersion_reconcile (existing required : Endpoints) :
    (reconcile existing required).1.metadata.resourceVersion
      = existing.metadata.resourceVersion := by
  rw [metadata_reconcile]
  rfl

/-- No change is reported if neither the subsets nor the metadata call for one. -/
theorem reconcile_snd_eq_false {existing required : Endpoints}
    (hsubsets : subsetsEqual (existing.subsets.getD []) (required.subsets.getD []) = true)
    (hmeta : (mergeMeta existing.metadata required.metadata).2 = false) :
    (reconcile existing required).2 = false := by
  unfold reconcile
  dsimp only
  rw [if_pos hsubsets]
  exact hmeta

/-- If no change is reported, the object to write is the published one. -/
theorem reconcile_unchanged {existing required : Endpoints}
    (h : (reconcile existing required).2 = false) : (reconcile existing required).1 = existing := by
  unfold reconcile at h ⊢
  dsimp only at h ⊢
  by_cases heq : subsetsEqual (existing.subsets.getD []) (required.subsets.getD []) = true
  · rw [if_pos heq] at h ⊢
    simp only [mergeMeta_unchanged h]
  · rw [if_neg heq] at h
    cases h

/-- The object to write has the published subsets if these compare equal to the desired ones. -/
theorem subsets_reconcile_eq (existing required : Endpoints) :
    (reconcile existing required).1.subsets =
      if subsetsEqual (existing.subsets.getD []) (required.subsets.getD []) = true then
        existing.subsets
      else required.subsets := by
  unfold reconcile
  dsimp only
  split <;> rfl

/-- The object to write has the published subsets or the desired ones. -/
theorem subsets_reconcile (existing required : Endpoints) :
    (reconcile existing required).1.subsets = existing.subsets ∨
      (reconcile existing required).1.subsets = required.subsets := by
  rw [subsets_reconcile_eq]
  split
  · exact .inl rfl
  · exact .inr rfl

end EtcdRoster.Difference
