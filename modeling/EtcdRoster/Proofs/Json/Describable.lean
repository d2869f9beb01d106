import EtcdRoster.Json.Basic

/-!
# Documents that merge patches can describe

In a merge patch `null` stands for a member that is not there. So a patch can describe the change
between documents that have no `null` members, whatever stands in their lists, and whose members
are in order: `Describable`. Records that leave out what is absent are such documents
(`describable_record`).
-/

namespace EtcdRoster.Json

/-- Neither the document nor a member of it is `null`, at whatever depth. What stands in lists does
not count. -/
def NullFree (j : Json) : Prop := ∀ path, j.path? path ≠ some .null

/-- The documents that merge patches can describe. -/
structure Describable (j : Json) : Prop where
  canonical : j.Canonical
  nullFree : j.NullFree

theorem Describable.ne_null {j : Json} (h : j.Describable) : j ≠ .null := fun hnull =>
  h.nullFree [] (congrArg some hnull)

/-- A document is no object, or an object whose members are documents that have the property. -/
theorem induction_members {P : Json → Prop} (leaf : ∀ j, (∀ members, j ≠ .obj members) → P j)
    (object : ∀ members, (∀ e ∈ members, P e.2) → P (.obj members)) (j : Json) : P j := by
  refine @Json.rec P (fun _ => True) (fun members => ∀ e ∈ members, P e.2) (fun e => P e.2)
    ?null ?bool ?int ?real ?str ?arr object ?nilItems ?consItems ?nilMembers ?consMembers ?entry j
  case null => exact leaf _ (by simp)
  case bool => intro b; exact leaf _ (by simp)
  case int => intro n; exact leaf _ (by simp)
  case real => intro r; exact leaf _ (by simp)
  case str => intro s; exact leaf _ (by simp)
  case arr => intro items _; exact leaf _ (by simp)
  case nilItems => trivial
  case consItems => intros; trivial
  case nilMembers => simp
  case consMembers =>
    intro e rest he hrest other hother
    rcases List.mem_cons.mp hother with rfl | hother
    · exact he
    · exact hrest other hother
  case entry => intro key value hvalue; exact hvalue

theorem Describable.sorted {members : List (String × Json)} (h : (Json.obj members).Describable) :
    Entries.Sorted members :=
  h.canonical.1

theorem Describable.of_get? {j : Json} {key : String} {value : Json} (h : j.Describable)
    (hvalue : j.get? key = some value) : value.Describable := by
  constructor
  · cases j with
    | obj members => exact canonicalMembers_iff.mp h.canonical.2 _ (Entries.mem_of_get? hvalue)
    | _ => cases hvalue
  · intro path hnull
    have hpath : j.path? (key :: path) = some .null := by
      rw [path?, hvalue, Option.bind_some, hnull]
    exact h.nullFree (key :: path) hpath

/-- The members of a describable object are describable. -/
theorem Describable.member {members : List (String × Json)} {key : String} {value : Json}
    (h : (Json.obj members).Describable) (hvalue : Entries.get? key members = some value) :
    value.Describable :=
  h.of_get? hvalue

/-! ## Building describable documents -/

theorem describable_of_leaf {j : Json} (hleaf : ∀ members, j ≠ .obj members) (hne : j ≠ .null)
    (h : j.Canonical) : j.Describable := by
  refine ⟨h, ?_⟩
  intro path
  cases path with
  | nil => simpa [path?] using hne
  | cons key rest =>
    cases j with
    | obj members => exact absurd rfl (hleaf members)
    | _ => simp [path?, get?]

@[simp] theorem describable_str (s : String) : (Json.str s).Describable :=
  describable_of_leaf (by simp) (by simp) trivial

@[simp] theorem describable_int (n : Int) : (Json.int n).Describable :=
  describable_of_leaf (by simp) (by simp) trivial

@[simp] theorem describable_bool (b : Bool) : (Json.bool b).Describable :=
  describable_of_leaf (by simp) (by simp) trivial

/-- A list is describable if its items are in order, even if they have members that are `null`. -/
theorem describable_arr_map {α : Type} {f : α → Json} (h : ∀ a, (f a).Canonical)
    (items : List α) : (Json.arr (items.map f)).Describable := by
  refine describable_of_leaf (by simp) (by simp) (canonicalItems_iff.mpr ?_)
  intro item hitem
  obtain ⟨a, -, rfl⟩ := List.mem_map.mp hitem
  exact h a

/-- An object is describable if its members are in order and describable. -/
theorem describable_obj {members : List (String × Json)} (hsorted : Entries.Sorted members)
    (h : ∀ e ∈ members, e.2.Describable) : (Json.obj members).Describable := by
  refine ⟨⟨hsorted, canonicalMembers_iff.mpr fun e he => (h e he).canonical⟩, ?_⟩
  intro path hnull
  cases path with
  | nil => cases hnull
  | cons key rest =>
    rw [path?, Option.bind_eq_some_iff] at hnull
    obtain ⟨value, hvalue, hpath⟩ := hnull
    exact (h _ (Entries.mem_of_get? hvalue)).nullFree rest hpath

/-- A record is in order if the members that are present are. -/
theorem canonical_record {fields : List (String × Option Json)}
    (h : ∀ field ∈ fields, ∀ value, field.2 = some value → value.Canonical) :
    (record fields).Canonical := by
  refine ⟨Entries.sorted_ofList _, canonicalMembers_iff.mpr fun e he => ?_⟩
  obtain ⟨field, hfield, hpresent⟩ := List.mem_filterMap.mp (Entries.mem_ofList he)
  obtain ⟨value, hvalue, rfl⟩ := Option.map_eq_some_iff.mp hpresent
  exact h field hfield value hvalue

/-- A record is describable if the members that are present are. -/
theorem describable_record {fields : List (String × Option Json)}
    (h : ∀ field ∈ fields, ∀ value, field.2 = some value → value.Describable) :
    (record fields).Describable := by
  refine describable_obj (Entries.sorted_ofList _) ?_
  intro e he
  obtain ⟨field, hfield, hpresent⟩ := List.mem_filterMap.mp (Entries.mem_ofList he)
  obtain ⟨value, hvalue, rfl⟩ := Option.map_eq_some_iff.mp hpresent
  exact h field hfield value hvalue

end EtcdRoster.Json
