import EtcdRoster.Reconcile.Conditions
import Mathlib.Data.List.Nodup

/-!
# Lists of conditions

An update changes the first condition of one type and no other (`find?_update`,
`find?_update_of_ne`), in its place, or adds one at the end (`amends_update`). What it has changed
can be put into the old list to get the new one (`merge_update`). An update says nothing new exactly
if the condition of its type said the same before, whenever it changed, and no two conditions of one
type contradict each other: `equal_update_iff_coherent`.
-/

namespace EtcdRoster.Conditions

variable {conditions : List Condition} {type status reason message now : String}

/-- No two conditions have the same type. -/
def Distinct (conditions : List Condition) : Prop := (conditions.map (·.type)).Nodup

instance : DecidablePred Distinct := fun conditions =>
  inferInstanceAs (Decidable (conditions.map (·.type)).Nodup)

/-- A condition says this, whenever it changed. -/
structure Says (c : Condition) (status reason message : String) : Prop where
  status_eq : c.status = status
  reason_eq : c.reason = some reason
  message_eq : c.message = some message

theorem find?_cons (c : Condition) (rest : List Condition) (type : String) :
    find? (c :: rest) type = if c.type = type then some c else find? rest type := by
  unfold find?
  rw [List.find?_cons]
  by_cases h : c.type = type
  · rw [if_pos h, h, beq_self_eq_true]
  · rw [if_neg h, beq_eq_false_iff_ne.mpr h]

theorem type_of_find? {c : Condition} (h : find? conditions type = some c) : c.type = type :=
  eq_of_beq (List.find?_some (p := fun c : Condition => c.type == type) h)

/-- Every condition is the first of its type, if no two have the same. -/
theorem Distinct.find?_eq_some {c : Condition} (h : Distinct conditions) (hc : c ∈ conditions) :
    find? conditions c.type = some c := by
  induction conditions with
  | nil => cases hc
  | cons d rest ih =>
    obtain ⟨hd, hrest⟩ := List.nodup_cons.mp h
    rw [find?_cons]
    rcases List.mem_cons.mp hc with rfl | hc
    · exact if_pos rfl
    · rw [if_neg, ih hrest hc]
      intro heq
      exact hd (List.mem_map.mpr ⟨c, hc, heq.symm⟩)

/-! ## What an update changes -/

/-- The condition that an update leaves. -/
def updated (conditions : List Condition) (type status reason message now : String) : Condition :=
  match find? conditions type with
  | some c => change c status reason message now
  | none => create type status reason message now

theorem says_updated (conditions : List Condition) (type status reason message now : String) :
    Says (updated conditions type status reason message now) status reason message := by
  unfold updated
  split <;> exact ⟨rfl, rfl, rfl⟩

theorem updated_cons (c : Condition) (rest : List Condition) :
    updated (c :: rest) type status reason message now =
      if c.type = type then change c status reason message now
      else updated rest type status reason message now := by
  unfold updated
  rw [find?_cons]
  by_cases h : c.type = type
  · rw [if_pos h, if_pos h]
  · rw [if_neg h, if_neg h]

/-- An update leaves its condition first of its type. -/
theorem find?_update :
    find? (update conditions type status reason message now) type
      = some (updated conditions type status reason message now) := by
  induction conditions with
  | nil => exact (find?_cons ..).trans (if_pos rfl)
  | cons c rest ih =>
    rw [update, updated_cons]
    by_cases h : c.type = type
    · rw [if_pos h, if_pos h, find?_cons]
      exact if_pos h
    · rw [if_neg h, if_neg h, find?_cons, if_neg h, ih]

/-- An update leaves conditions of other types alone. -/
theorem find?_update_of_ne {other : String} (hne : other ≠ type) :
    find? (update conditions type status reason message now) other = find? conditions other := by
  induction conditions with
  | nil => exact (find?_cons ..).trans (if_neg hne.symm)
  | cons c rest ih =>
    rw [update]
    by_cases h : c.type = type
    · have hc : c.type ≠ other := fun ho => hne (ho ▸ h)
      rw [if_pos h, find?_cons, find?_cons, if_neg hc]
      exact if_neg hc
    · rw [if_neg h, find?_cons, find?_cons, ih]

theorem types_update (conditions : List Condition) (type status reason message now : String) :
    (update conditions type status reason message now).map (·.type) =
      if type ∈ conditions.map (·.type) then conditions.map (·.type)
      else conditions.map (·.type) ++ [type] := by
  induction conditions with
  | nil => rfl
  | cons c rest ih =>
    rw [update]
    by_cases h : c.type = type
    · rw [if_pos h, if_pos (h ▸ List.mem_cons_self ..)]
      rfl
    · simp only [if_neg h, List.map_cons, List.mem_cons, or_iff_right (Ne.symm h), ih]
      split <;> rfl

theorem Distinct.update (h : Distinct conditions) :
    Distinct (update conditions type status reason message now) := by
  unfold Distinct
  rw [types_update]
  split
  · exact h
  · rename_i hnew
    exact List.nodup_append_comm.mp (List.nodup_cons.mpr ⟨hnew, h⟩)

/-- To put in what an update leaves is to update. -/
theorem upsert_updated :
    upsert conditions (updated conditions type status reason message now)
      = update conditions type status reason message now := by
  have htype : ∀ l, (updated l type status reason message now).type = type := fun _ =>
    type_of_find? find?_update
  induction conditions with
  | nil => rfl
  | cons c rest ih =>
    rw [upsert, update, htype]
    by_cases h : c.type = type
    · rw [if_pos h, if_pos h, updated_cons, if_pos h]
    · rw [if_neg h, if_neg h, updated_cons, if_neg h, ih]

/-- What is written after an update makes the list the updated one. -/
theorem merge_update :
    merge conditions (find? (update conditions type status reason message now) type).toList
      = update conditions type status reason message now := by
  rw [find?_update]
  exact upsert_updated

/-! ## Where an update changes the list -/

/-- A condition of a type is set: in the place of the first one of this type, or else at the end. A
transition time that is recorded changes only with the status. -/
inductive Amends (type : String) (c : Condition) : (before after : List Condition) → Prop
  | inPlace (earlier : List Condition) (old : Condition) (later : List Condition)
      (first : ∀ d ∈ earlier, d.type ≠ type) (same_type : old.type = type)
      (time : old.status = c.status → ∀ t, old.lastTransitionTime = some t →
        c.lastTransitionTime = some t) :
      Amends type c (earlier ++ old :: later) (earlier ++ c :: later)
  | atEnd (before : List Condition) (new : ∀ d ∈ before, d.type ≠ type) :
      Amends type c before (before ++ [c])

/-- The first condition of a type divides the list. -/
theorem exists_of_find? {c : Condition} (h : find? conditions type = some c) :
    ∃ earlier later, conditions = earlier ++ c :: later ∧ ∀ d ∈ earlier, d.type ≠ type := by
  obtain ⟨-, earlier, later, rfl, hearlier⟩ := List.find?_eq_some_iff_append.mp h
  refine ⟨earlier, later, rfl, ?_⟩
  intro d hd
  simpa using hearlier d hd

theorem find?_eq_none_iff : find? conditions type = none ↔ ∀ d ∈ conditions, d.type ≠ type := by
  simp [find?]

/-- An update goes past conditions of other types. -/
theorem update_append {earlier : List Condition} (h : ∀ d ∈ earlier, d.type ≠ type)
    (rest : List Condition) :
    update (earlier ++ rest) type status reason message now
      = earlier ++ update rest type status reason message now := by
  induction earlier with
  | nil => rfl
  | cons c earlier ih =>
    obtain ⟨hc, hearlier⟩ := List.forall_mem_cons.mp h
    rw [List.cons_append, update, if_neg hc, ih hearlier, List.cons_append]

/-- An update replaces the first condition of its type. -/
theorem update_of_find? {earlier later : List Condition} {c : Condition}
    (h : ∀ d ∈ earlier, d.type ≠ type) (hc : c.type = type) :
    update (earlier ++ c :: later) type status reason message now
      = earlier ++ change c status reason message now :: later := by
  rw [update_append h, update, if_pos hc]

/-- An update adds a condition of a type that is new. -/
theorem update_of_new (h : ∀ d ∈ conditions, d.type ≠ type) :
    update conditions type status reason message now
      = conditions ++ [create type status reason message now] := by
  have hupdate : update (conditions ++ []) type status reason message now
      = conditions ++ update [] type status reason message now := update_append h []
  rwa [List.append_nil] at hupdate

theorem amends_update (conditions : List Condition) (type status reason message now : String) :
    Amends type (updated conditions type status reason message now) conditions
      (update conditions type status reason message now) := by
  unfold updated
  cases hfound : find? conditions type with
  | none =>
    have hnew : ∀ d ∈ conditions, d.type ≠ type := find?_eq_none_iff.mp hfound
    rw [update_of_new hnew]
    exact .atEnd conditions hnew
  | some c =>
    have hc : c.type = type := type_of_find? hfound
    obtain ⟨earlier, later, rfl, hearlier⟩ := exists_of_find? hfound
    rw [update_of_find? hearlier hc]
    refine .inPlace earlier c later hearlier hc ?_
    intro hstatus t ht
    have hkept : c.status = status := hstatus
    simp [change, hkept, ht]

/-- A list in which the first condition of a type is this one is as it would be after setting it. -/
theorem amends_self {c : Condition} (h : find? conditions type = some c) :
    Amends type c conditions conditions := by
  have hc : c.type = type := type_of_find? h
  obtain ⟨earlier, later, rfl, hearlier⟩ := exists_of_find? h
  exact .inPlace earlier c later hearlier hc fun _ _ ht => ht

/-! ## Whether an update says something new -/

@[simp] theorem sameContent_refl (c : Condition) : sameContent c c = true := by
  simp [sameContent]

theorem sameContent_iff {c d : Condition} (h : Says d status reason message) :
    sameContent c d = true ↔ Says c status reason message := by
  simp only [sameContent, h.status_eq, h.reason_eq, h.message_eq, Bool.and_eq_true, beq_iff_eq]
  constructor
  · rintro ⟨⟨hstatus, hreason⟩, hmessage⟩
    exact ⟨hstatus, hreason, hmessage⟩
  · rintro ⟨hstatus, hreason, hmessage⟩
    exact ⟨⟨hstatus, hreason⟩, hmessage⟩

/-- A condition says what the first condition of its type in the list says. -/
def Confirms (conditions : List Condition) (d : Condition) : Prop :=
  ∃ first, find? conditions d.type = some first ∧ sameContent first d = true

/-- Conditions of one type all say the same. -/
def Coherent (conditions : List Condition) : Prop := ∀ d ∈ conditions, Confirms conditions d

theorem Distinct.coherent (h : Distinct conditions) : Coherent conditions := fun d hd =>
  ⟨d, h.find?_eq_some hd, sameContent_refl d⟩

theorem equal_iff {new : List Condition} :
    equal conditions new = true ↔
      conditions.length = new.length ∧ ∀ d ∈ new, Confirms conditions d := by
  simp only [equal, Bool.and_eq_true, beq_iff_eq, List.all_eq_true, Confirms]
  refine and_congr_right fun _ => forall₂_congr fun d _ => ?_
  cases find? conditions d.type <;> simp

/-- An update says nothing new exactly if the condition of its type has said the same, and if the
list has not contradicted itself. -/
theorem equal_update_iff_coherent :
    equal conditions (update conditions type status reason message now) = true ↔
      Coherent conditions ∧ ∃ c, find? conditions type = some c ∧ Says c status reason message := by
  rw [equal_iff]
  cases hfound : find? conditions type with
  | none =>
    rw [update_of_new (find?_eq_none_iff.mp hfound)]
    simp
  | some c =>
    have hc : c.type = type := type_of_find? hfound
    obtain ⟨earlier, later, hsplit, hearlier⟩ := exists_of_find? hfound
    have hsays : Says (change c status reason message now) status reason message := ⟨rfl, rfl, rfl⟩
    have hfirst : Confirms conditions c := ⟨c, hc ▸ hfound, sameContent_refl c⟩
    -- Of the conditions after the update all but one have been there before.
    have hchanged : Confirms conditions (change c status reason message now) ↔
        Says c status reason message := by
      unfold Confirms
      rw [show (change c status reason message now).type = type from hc, hfound]
      simp [sameContent_iff hsays]
    have hupdate : update conditions type status reason message now
        = earlier ++ change c status reason message now :: later := by
      rw [hsplit, update_of_find? hearlier hc]
    have hlength : conditions.length
        = (update conditions type status reason message now).length := by
      rw [hupdate, hsplit, List.length_append, List.length_append, List.length_cons,
        List.length_cons]
    have hall : ∀ P : Condition → Prop, (∀ d ∈ conditions, P d) ↔
        (∀ d ∈ earlier, P d) ∧ P c ∧ ∀ d ∈ later, P d := by
      intro P
      rw [hsplit, List.forall_mem_append, List.forall_mem_cons]
    rw [Coherent, hall, hupdate, List.forall_mem_append, List.forall_mem_cons, hchanged,
      ← hupdate]
    constructor
    · rintro ⟨-, hbefore, hnow, hafter⟩
      exact ⟨⟨hbefore, hfirst, hafter⟩, c, rfl, hnow⟩
    · rintro ⟨⟨hbefore, -, hafter⟩, d, hd, hnow⟩
      cases hd
      exact ⟨hlength, hbefore, hnow, hafter⟩

/-- Among conditions of different types an update says nothing new exactly if the condition of its
type has said the same. -/
theorem equal_update_iff (distinct : Distinct conditions) :
    equal conditions (update conditions type status reason message now) = true ↔
      ∃ c, find? conditions type = some c ∧ Says c status reason message := by
  rw [equal_update_iff_coherent]
  exact and_iff_right distinct.coherent

end EtcdRoster.Conditions
