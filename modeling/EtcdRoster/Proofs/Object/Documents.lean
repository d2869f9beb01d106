import EtcdRoster.Object.Endpoints
import Mathlib.Data.List.Basic

/-!
# Objects told apart by their documents

A record leaves out what is absent, so its members tell what is present and what is not
(`fields_eq_of_record_eq`). Hence objects that are written as the same document are the same object:
`EndpointSubset.toJson_injective` and, for metadata with the same notes of times,
`ObjectMeta.eq_of_toJson_eq`.
-/

namespace EtcdRoster

namespace Json

/-! ## Records -/

theorem get?_record_of_not_mem {fields : List (String × Option Json)} {key : String}
    (h : key ∉ fields.map Prod.fst) : (record fields).get? key = none := by
  induction fields with
  | nil => rfl
  | cons first rest ih =>
    obtain ⟨hfirst, hrest⟩ := not_or.mp (mt List.mem_cons.mpr h)
    rw [get?_record_cons, ih hrest]
    cases first.2 with
    | none => rfl
    | some value => exact if_neg hfirst

/-- The member of a record is the field of its name, if names are different. -/
theorem get?_record_of_mem {fields : List (String × Option Json)}
    (distinct : (fields.map Prod.fst).Nodup) {field : String × Option Json}
    (hfield : field ∈ fields) : (record fields).get? field.1 = field.2 := by
  induction fields with
  | nil => cases hfield
  | cons first rest ih =>
    obtain ⟨hfirst, hrest⟩ := List.nodup_cons.mp distinct
    rw [get?_record_cons]
    rcases List.mem_cons.mp hfield with rfl | hmem
    · cases hvalue : field.2 with
      | none => exact get?_record_of_not_mem hfirst
      | some value => exact if_pos rfl
    · have hother : field.1 ≠ first.1 := by
        intro hname
        exact hfirst (hname ▸ List.mem_map_of_mem hmem)
      cases first.2 with
      | none => exact ih hrest hmem
      | some value => exact (if_neg hother).trans (ih hrest hmem)

/-- Records with the same names of fields are equal only if all fields are. -/
theorem fields_eq_of_record_eq {fields fields' : List (String × Option Json)}
    (h : record fields = record fields') (names : fields.map Prod.fst = fields'.map Prod.fst)
    (distinct : (fields.map Prod.fst).Nodup) : fields = fields' := by
  -- Fields are what the record says about their names.
  have hread : ∀ l : List (String × Option Json), (l.map Prod.fst).Nodup →
      l = (l.map Prod.fst).map fun name => (name, (record l).get? name) := by
    intro l hl
    rw [List.map_map]
    refine (List.map_id l).symm.trans (List.map_congr_left fun field hfield => ?_)
    exact Prod.ext rfl (get?_record_of_mem hl hfield).symm
  rw [hread fields distinct, hread fields' (names ▸ distinct), names, h]

theorem str_injective : Function.Injective Json.str := fun _ _ h => Json.str.inj h

/-- Lists are told apart by their documents if their elements are. -/
theorem arr_map_injective {α : Type} {f : α → Json} (h : Function.Injective f) :
    Function.Injective fun items : List α => Json.arr (items.map f) :=
  fun _ _ heq => List.map_injective_iff.mpr h (Json.arr.inj heq)

/-- An optional field tells what it is written from. -/
theorem map_eq_map_iff {α : Type} {f : α → Json} (h : Function.Injective f) {a b : Option α} :
    a.map f = b.map f ↔ a = b :=
  (Option.map_injective h).eq_iff

@[simp] theorem map_str_eq_map_str_iff {a b : Option String} :
    a.map Json.str = b.map Json.str ↔ a = b :=
  map_eq_map_iff str_injective

end Json

open Json

/-! ## Subsets -/

theorem ObjectReference.toJson_injective : Function.Injective ObjectReference.toJson := by
  intro a b h
  have hfields := fields_eq_of_record_eq h rfl (by simp)
  cases a; cases b
  simp_all

theorem EndpointAddress.toJson_injective : Function.Injective EndpointAddress.toJson := by
  intro a b h
  have hfields := fields_eq_of_record_eq h rfl (by simp)
  cases a; cases b
  simp_all [map_eq_map_iff ObjectReference.toJson_injective]

theorem EndpointPort.toJson_injective : Function.Injective EndpointPort.toJson := by
  intro a b h
  have hfields := fields_eq_of_record_eq h rfl (by simp)
  cases a; cases b
  simp_all [Int32.toInt_inj]

theorem EndpointSubset.toJson_injective : Function.Injective EndpointSubset.toJson := by
  intro a b h
  have hfields := fields_eq_of_record_eq h rfl (by simp)
  have haddresses : Function.Injective EndpointSubset.addressesJson :=
    arr_map_injective EndpointAddress.toJson_injective
  have hports := arr_map_injective EndpointPort.toJson_injective
  cases a; cases b
  simp_all [map_eq_map_iff haddresses, map_eq_map_iff hports]

/-! ## Metadata -/

theorem OwnerReference.toJson_injective : Function.Injective OwnerReference.toJson := by
  intro a b h
  have hfields := fields_eq_of_record_eq h rfl (by simp)
  have hflag : Function.Injective Json.bool := fun _ _ hb => Json.bool.inj hb
  cases a; cases b
  simp_all [map_eq_map_iff hflag]

theorem ObjectMeta.dictionary_injective : Function.Injective ObjectMeta.dictionary := by
  intro a b h
  have hentry : Function.Injective fun e : String × String => (e.1, Json.str e.2) := by
    rintro ⟨key, value⟩ ⟨key', value'⟩ he
    simpa using he
  have hentries : a.entries = b.entries := List.map_injective_iff.mpr hentry (Json.obj.inj h)
  cases a; cases b
  cases hentries
  rfl

/-- What the cluster notes down in metadata with the time at which it does: when the object was
created, when it is to be deleted and who manages its members. -/
structure ObjectMeta.SameNotes (a b : ObjectMeta) : Prop where
  created : a.creationTimestamp = b.creationTimestamp
  deleted : a.deletionTimestamp = b.deletionTimestamp
  managed : a.managedFields = b.managedFields

/-- Metadata with the same notes is told apart by its document. -/
theorem ObjectMeta.eq_of_toJson_eq {a b : ObjectMeta} (notes : a.SameNotes b)
    (h : a.toJson = b.toJson) : a = b := by
  have hfields := fields_eq_of_record_eq h rfl (by simp)
  have hnumber : Function.Injective (Json.int ∘ Int64.toInt) := fun _ _ hn =>
    Int64.toInt_inj.mp (Json.int.inj hn)
  have hstrings : Function.Injective ObjectMeta.strings := arr_map_injective str_injective
  have howners := arr_map_injective OwnerReference.toJson_injective
  obtain ⟨created, deleted, managed⟩ := notes
  cases a; cases b
  simp_all [map_eq_map_iff hnumber, map_eq_map_iff hstrings, map_eq_map_iff howners,
    map_eq_map_iff ObjectMeta.dictionary_injective]

/-- Endpoints with the same notes are told apart by their documents. -/
theorem Endpoints.eq_of_toJson_eq {a b : Endpoints} (notes : a.metadata.SameNotes b.metadata)
    (h : a.toJson = b.toJson) : a = b := by
  have hfields := fields_eq_of_record_eq h rfl (by simp)
  have hsubsets := arr_map_injective EndpointSubset.toJson_injective
  simp only [List.cons.injEq, Prod.mk.injEq, true_and, and_true, Option.some.injEq,
    map_eq_map_iff hsubsets] at hfields
  obtain ⟨hmetadata, hsubsets⟩ := hfields
  cases a; cases b
  rw [Endpoints.mk.injEq]
  exact ⟨ObjectMeta.eq_of_toJson_eq notes hmetadata, hsubsets⟩

end EtcdRoster
