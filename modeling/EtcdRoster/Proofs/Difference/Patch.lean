import EtcdRoster.Names
import EtcdRoster.Proofs.Json.MergePatch
import EtcdRoster.Reconcile.Difference

/-!
# The patch that tells of an update

The documents of endpoints are records that leave out what is absent, so merge patches can describe
the change from one to another: `Endpoints.describable_toJson`. **The patch makes the published
document the written one, is empty exactly if they are the same, and says nothing about a member
that stays** (`patch_tells_change`).
-/

namespace EtcdRoster

open Json (Document canonical_record describable_record describable_arr_map describable_obj)

/-! ## The documents of endpoints -/

theorem ObjectReference.describable_toJson (r : ObjectReference) : r.toJson.Describable := by
  refine describable_record ?_
  simp

theorem EndpointAddress.describable_toJson (a : EndpointAddress) : a.toJson.Describable := by
  refine describable_record ?_
  simp [ObjectReference.describable_toJson]

theorem EndpointPort.describable_toJson (p : EndpointPort) : p.toJson.Describable := by
  refine describable_record ?_
  simp

theorem EndpointSubset.describable_toJson (s : EndpointSubset) : s.toJson.Describable := by
  refine describable_record ?_
  simp [EndpointSubset.addressesJson,
    describable_arr_map fun a => (EndpointAddress.describable_toJson a).canonical,
    describable_arr_map fun p => (EndpointPort.describable_toJson p).canonical]

theorem OwnerReference.describable_toJson (r : OwnerReference) : r.toJson.Describable := by
  refine describable_record ?_
  -- A flag is treated like any other member, not in two cases.
  simp [-Bool.exists_bool, -Bool.forall_bool]

/-- A document that is managed may have members that are `null`, but its members are in order. -/
theorem ManagedFieldsEntry.canonical_toJson (e : ManagedFieldsEntry) : e.toJson.Canonical := by
  have htext : ∀ s, (Json.str s).Canonical := fun _ => trivial
  refine canonical_record ?_
  simp [htext, Timestamp.toJson, Document.canonical]

/-- Labels and annotations are texts, in key order. -/
theorem ObjectMeta.describable_dictionary (d : Dict String) :
    (ObjectMeta.dictionary d).Describable := by
  refine describable_obj ?_ ?_
  · exact List.pairwise_map.mpr d.sorted
  · intro e he
    obtain ⟨entry, -, rfl⟩ := List.mem_map.mp he
    simp

theorem ObjectMeta.describable_toJson (m : ObjectMeta) : m.toJson.Describable := by
  refine describable_record ?_
  simp [ObjectMeta.strings, Timestamp.toJson, ObjectMeta.describable_dictionary,
    describable_arr_map fun s => (Json.describable_str s).canonical,
    describable_arr_map fun r => (OwnerReference.describable_toJson r).canonical,
    describable_arr_map ManagedFieldsEntry.canonical_toJson]

theorem Endpoints.describable_toJson (e : Endpoints) : e.toJson.Describable := by
  refine describable_record ?_
  simp [ObjectMeta.describable_toJson,
    describable_arr_map fun s => (EndpointSubset.describable_toJson s).canonical]

namespace Difference

/-! ## The patch -/

/-- **The patch tells the change between two objects.** Carried out on the document of the first it
gives that of the second; it is empty exactly if the documents are the same; and it mentions no
member, at whatever depth, that is the same in both or in neither. -/
theorem patch_tells_change (existing updated : Endpoints) :
    existing.toJson.applyMergePatch (patch existing updated) = updated.toJson ∧
    (patch existing updated = .obj [] ↔ existing.toJson = updated.toJson) ∧
    ∀ key path, existing.toJson.path? (key :: path) = updated.toJson.path? (key :: path) →
      (patch existing updated).path? (key :: path) = none := by
  have hexisting : existing.toJson.Describable := existing.describable_toJson
  have hupdated : updated.toJson.Describable := updated.describable_toJson
  refine ⟨?_, ?_, ?_⟩
  · exact Json.applyMergePatch_mergePatch hexisting hupdated
  · exact Json.mergePatch_eq_empty_iff hexisting hupdated
  · intro key path hsame
    exact Json.path?_mergePatch_eq_none hexisting hupdated hsame

/-- An object whose label is to go, with the note of who manages it, and whose discovery domain is
to change. -/
def labelled : Endpoints :=
  { metadata :=
      { name := some Names.published
        labels := some (Dict.empty.insert "owner" "installer")
        managedFields := some [
          { manager := some "installer"
            fieldsV1 := some (.ofJson (.obj [("f:subsets", .obj [])])) }]
        annotations := some (Dict.empty.insert Names.domainAnnotation "old.example") } }

def relabelled : Endpoints :=
  { metadata :=
      { name := some Names.published
        annotations := some (Dict.empty.insert Names.domainAnnotation "new.example") }
    subsets := some [] }

theorem relabelled_patch :
    patch labelled relabelled = .obj [
      ("metadata", .obj [
        ("annotations", .obj [(Names.domainAnnotation, .str "new.example")]),
        ("labels", .null),
        ("managedFields", .null)]),
      ("subsets", .arr [])] ∧
    labelled.toJson.applyMergePatch (patch labelled relabelled) = relabelled.toJson ∧
    labelled.toJson.path? ["metadata", "name"] = relabelled.toJson.path? ["metadata", "name"] ∧
    (patch labelled relabelled).path? ["metadata", "name"] = none := by
  have hname : labelled.toJson.path? ["metadata", "name"]
      = relabelled.toJson.path? ["metadata", "name"] := by decide +kernel
  obtain ⟨carried, -, silent⟩ := patch_tells_change labelled relabelled
  exact ⟨by decide +kernel, carried, hname, silent _ _ hname⟩

end Difference

end EtcdRoster
