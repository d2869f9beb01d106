import EtcdRoster.Proofs.Conditions.Merging
import Mathlib.Data.List.Perm.Subperm

/-!
# What equal lists of conditions have in common

The comparison looks up the first condition of a type, and in one direction only. It sees nothing of
transition times (`equal_iff_timeless`).

* `equal_merge_iff` — a merge counts as no change exactly if it changes nothing but transition times
  and the list has not contradicted itself.
* `equal_iff_perm` — lists without two conditions of one type are equal exactly if each is a
  reordering of the other, up to transition times.
* `equal_exact` — **both together**, and that the comparison of such lists is an equivalence.
-/

namespace EtcdRoster.Conditions

variable {current updates a b : List Condition} {c d : Condition}

/-! ## Without transition times -/

theorem find?_map_timeless (conditions : List Condition) (type : String) :
    find? (conditions.map timeless) type = (find? conditions type).map timeless := by
  induction conditions with
  | nil => rfl
  | cons c rest ih =>
    rw [List.map_cons, find?_cons, find?_cons, ih, apply_ite (Option.map timeless)]
    rfl

theorem distinct_map_timeless_iff : Distinct (a.map timeless) ↔ Distinct a := by
  unfold Distinct
  rw [List.map_map]
  rfl

/-- To confirm a condition is to find it first of its type, up to transition times. -/
theorem confirms_iff_timeless :
    Confirms a c ↔ find? (a.map timeless) (timeless c).type = some (timeless c) := by
  rw [find?_map_timeless, Option.map_eq_some_iff]
  refine exists_congr fun first => and_congr_right fun hfirst => ?_
  rw [timeless_eq_iff]
  exact (and_iff_right (type_of_find? hfirst)).symm

/-- The comparison sees nothing of transition times. -/
theorem equal_iff_timeless :
    equal a b = true ↔ a.length = b.length ∧
      ∀ d ∈ b.map timeless, find? (a.map timeless) d.type = some d := by
  rw [equal_iff, List.forall_mem_map]
  simp only [confirms_iff_timeless]

/-! ## Merges -/

/-- A merge counts as no change exactly if it changes nothing but transition times, and the list has
not contradicted itself. -/
theorem equal_merge_iff :
    equal current (merge current updates) = true ↔
      (merge current updates).map timeless = current.map timeless ∧ Coherent current := by
  have hcoherent : Coherent current ↔
      ∀ d ∈ current.map timeless, find? (current.map timeless) d.type = some d := by
    rw [List.forall_mem_map]
    simp only [Coherent, confirms_iff_timeless]
  rw [hcoherent]
  constructor
  · intro same
    have htimeless := timeless_merge_of_equal same
    exact ⟨htimeless, htimeless ▸ (equal_iff_timeless.mp same).2⟩
  · rintro ⟨htimeless, hconfirms⟩
    have hlength := congrArg List.length htimeless
    rw [List.length_map, List.length_map] at hlength
    exact equal_iff_timeless.mpr ⟨hlength.symm, htimeless.symm ▸ hconfirms⟩

/-! ## Conditions of different types -/

/-- Among conditions of different types, each is the first of its type. -/
theorem Distinct.find?_eq_some_iff (h : Distinct a) : find? a c.type = some c ↔ c ∈ a :=
  ⟨List.mem_of_find?_eq_some, h.find?_eq_some⟩

/-- Lists of conditions of different types are equal exactly if one is a reordering of the other, up
to transition times. -/
theorem equal_iff_perm (ha : Distinct a) (hb : Distinct b) :
    equal a b = true ↔ (b.map timeless).Perm (a.map timeless) := by
  have hfound : ∀ d, find? (a.map timeless) d.type = some d ↔ d ∈ a.map timeless := fun _ =>
    (distinct_map_timeless_iff.mpr ha).find?_eq_some_iff
  simp only [equal_iff_timeless, hfound]
  constructor
  · rintro ⟨hlength, hsubset⟩
    have hnodup : (b.map timeless).Nodup := (distinct_map_timeless_iff.mpr hb).of_map
    -- A list without repetition that is part of an equally long one is all of it.
    exact (List.subperm_of_subset hnodup hsubset).perm_of_length_le (by simp [hlength])
  · intro hperm
    have hlength := hperm.length_eq
    rw [List.length_map, List.length_map] at hlength
    exact ⟨hlength.symm, fun d hd => hperm.mem_iff.mp hd⟩

/-- A list without two conditions of one type. -/
abbrev Keyed : Type := { conditions : List Condition // Distinct conditions }

theorem equivalence_equal : Equivalence fun a b : Keyed => equal a.1 b.1 = true where
  refl := fun a => (equal_iff_perm a.2 a.2).mpr .rfl
  symm := by
    intro a b h
    rw [equal_iff_perm a.2 b.2] at h
    exact (equal_iff_perm b.2 a.2).mpr h.symm
  trans := by
    intro a b c hab hbc
    rw [equal_iff_perm a.2 b.2] at hab
    rw [equal_iff_perm b.2 c.2] at hbc
    exact (equal_iff_perm a.2 c.2).mpr (hbc.trans hab)

/-! ## The meaning of the comparison -/

/-- **What equal lists of conditions have in common.** A merge that is equal to the list leaves
every condition in its place as it was, up to its transition time; conversely such a merge is equal
to the list, unless the list has contradicted itself. Lists without two conditions of one type are
equal exactly if one is a reordering of the other, up to transition times, so that the comparison of
such lists is an equivalence. -/
theorem equal_exact :
    (∀ current updates, equal current (merge current updates) = true ↔
      (merge current updates).map timeless = current.map timeless ∧ Coherent current) ∧
    (∀ a b, Distinct a → Distinct b →
      (equal a b = true ↔ (b.map timeless).Perm (a.map timeless))) ∧
    Equivalence fun a b : Keyed => equal a.1 b.1 = true :=
  ⟨fun _ _ => equal_merge_iff, fun _ _ => equal_iff_perm, equivalence_equal⟩

def available : Condition :=
  { type := "Available", status := "True", lastTransitionTime := some "10:00" }

def degraded : Condition :=
  { type := "Degraded", status := "False", reason := some "AsExpected"
    lastTransitionTime := some "11:00" }

/-- The order of two conditions and their times do not count. Where one type occurs twice, a list is
equal to one that is no reordering of it. -/
theorem available_and_degraded_in_any_order :
    Distinct [available, degraded] ∧ Distinct [degraded, timeless available] ∧
    equal [available, degraded] [degraded, timeless available] = true ∧
    equal [degraded, { degraded with status := "True" }] [degraded, degraded] = true ∧
    ¬ ([degraded, degraded].map timeless).Perm
      ([degraded, { degraded with status := "True" }].map timeless) := by
  have hbefore : Distinct [available, degraded] := by decide +kernel
  have hafter : Distinct [degraded, timeless available] := by decide +kernel
  refine ⟨hbefore, hafter, ?_, by decide +kernel, by decide +kernel⟩
  exact (equal_exact.2.1 _ _ hbefore hafter).mpr (List.Perm.swap ..)

end EtcdRoster.Conditions
