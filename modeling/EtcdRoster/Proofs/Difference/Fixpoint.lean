import EtcdRoster.Proofs.Difference.Patch
import EtcdRoster.Proofs.Difference.Subsets
import EtcdRoster.Proofs.Object.Documents

/-!
# The object to write is a fixed point

Comparing the object to write with the desired one again calls for no change (`reconcile_again`).
Everything else about the flag follows: **it is set exactly if the object to write differs from the
published one, and exactly if the patch that tells of the update says something**
(`reconcile_exact`).

Requests to set a key and to remove it contradict each other. Both are carried out in turn, so the
flag is set each time although nothing is different in the end.
-/

namespace EtcdRoster.Difference

variable {existing required : Endpoints}

/-- The object to write calls for no further change. -/
theorem reconcile_again (existing : Endpoints)
    (hlabels : Uncontradicted required.metadata.labels)
    (hannotations : Uncontradicted required.metadata.annotations) :
    reconcile (reconcile existing required).1 required
      = ((reconcile existing required).1, false) := by
  have hmeta : (mergeMeta (reconcile existing required).1.metadata required.metadata).2 = false := by
    rw [metadata_reconcile, mergeMeta_again hlabels hannotations]
  have hflag : (reconcile (reconcile existing required).1 required).2 = false :=
    reconcile_snd_eq_false (subsetsEqual_reconcile existing required) hmeta
  exact Prod.ext (reconcile_unchanged hflag) hflag

/-- The flag tells whether the object to write differs from the published one. -/
theorem reconcile_snd_eq_false_iff (hlabels : Uncontradicted required.metadata.labels)
    (hannotations : Uncontradicted required.metadata.annotations) :
    (reconcile existing required).2 = false ↔ (reconcile existing required).1 = existing := by
  constructor
  · exact reconcile_unchanged
  · intro h
    have hagain := reconcile_again existing hlabels hannotations
    rw [h] at hagain
    rw [hagain]

/-- The patch that tells of an update is empty exactly if nothing is updated. -/
theorem patch_reconcile_eq_empty_iff :
    patch existing (reconcile existing required).1 = .obj [] ↔
      (reconcile existing required).1 = existing := by
  have hnotes : existing.metadata.SameNotes (reconcile existing required).1.metadata := by
    rw [metadata_reconcile]
    exact ⟨rfl, rfl, rfl⟩
  have hempty : patch existing (reconcile existing required).1 = .obj [] ↔
      existing.toJson = (reconcile existing required).1.toJson :=
    Json.mergePatch_eq_empty_iff existing.describable_toJson (Endpoints.describable_toJson _)
  rw [hempty]
  constructor
  · intro h
    exact (Endpoints.eq_of_toJson_eq hnotes h).symm
  · intro h
    rw [h]

/-- Two objects differ at most in name, namespace, labels, annotations and subsets. -/
def DifferAtMostInContent (a b : Endpoints) : Prop :=
  ∃ name scope labels annotations subsets,
    a = { metadata := { b.metadata with name, «namespace» := scope, labels, annotations }, subsets }

theorem differAtMostInContent_reconcile (existing required : Endpoints) :
    DifferAtMostInContent (reconcile existing required).1 existing := by
  have hmetadata := metadata_reconcile existing required
  generalize (reconcile existing required).1 = written at hmetadata
  obtain ⟨metadata, subsets⟩ := written
  obtain rfl : metadata = (mergeMeta existing.metadata required.metadata).1 := hmetadata
  exact ⟨_, _, _, _, subsets, rfl⟩

/-- **The flag, the object to write and the patch tell the same.** If no request for a label or an
annotation contradicts another, then no change is reported exactly if the object to write is the
published one, and exactly if the patch between them is empty. The object to write keeps all that
is not up to the desired object, and comparing it once more calls for no change. -/
theorem reconcile_exact (existing : Endpoints)
    (hlabels : Uncontradicted required.metadata.labels)
    (hannotations : Uncontradicted required.metadata.annotations) :
    ((reconcile existing required).2 = false ↔ (reconcile existing required).1 = existing) ∧
    ((reconcile existing required).2 = false ↔
      patch existing (reconcile existing required).1 = .obj []) ∧
    DifferAtMostInContent (reconcile existing required).1 existing ∧
    reconcile (reconcile existing required).1 required
      = ((reconcile existing required).1, false) := by
  refine ⟨?flag, ?told, ?content, ?again⟩
  case flag => exact reconcile_snd_eq_false_iff hlabels hannotations
  case told =>
    rw [patch_reconcile_eq_empty_iff]
    exact reconcile_snd_eq_false_iff hlabels hannotations
  case content => exact differAtMostInContent_reconcile existing required
  case again => exact reconcile_again existing hlabels hannotations

/-- A published object whose owner is still named, and whose entries are in another order. -/
def owned : Endpoints :=
  { metadata :=
      { name := some Names.published
        labels := some ((Dict.empty.insert "owner" "installer").insert "tier" "control")
        resourceVersion := some "7" }
    subsets := some [{ addresses := some [{ ip := "10.0.0.2" }, { ip := "10.0.0.1" }] }] }

/-- The owner is to go and the tier to stay. -/
def released : Endpoints :=
  { metadata :=
      { name := some Names.published
        labels := some ((Dict.empty.insert "owner-" "").insert "tier" "control") }
    subsets := some [{ addresses := some [{ ip := "10.0.0.1" }, { ip := "10.0.0.2" }] }] }

theorem owned_released :
    Uncontradicted released.metadata.labels ∧ Uncontradicted released.metadata.annotations ∧
    (reconcile owned released).2 = true ∧
    (reconcile owned released).1 = { owned with
      metadata := { owned.metadata with labels := some (Dict.empty.insert "tier" "control") } } ∧
    patch owned (reconcile owned released).1 ≠ .obj [] ∧
    reconcile (reconcile owned released).1 released = ((reconcile owned released).1, false) := by
  have hlabels : Uncontradicted released.metadata.labels := by decide +kernel
  have hannotations : Uncontradicted released.metadata.annotations := by decide +kernel
  have hchanged : (reconcile owned released).2 = true := by decide +kernel
  obtain ⟨-, told, -, again⟩ := reconcile_exact owned hlabels hannotations
  refine ⟨hlabels, hannotations, hchanged, by decide +kernel, ?_, again⟩
  rw [ne_eq, ← told, hchanged]
  exact Bool.noConfusion

/-- Requests that contradict each other are reported as a change, though none is left. -/
example : mergeDict (some .empty) (some ((Dict.empty.insert "tier" "control").insert "tier-" ""))
    = (some .empty, true) := by
  decide +kernel

end EtcdRoster.Difference
