import EtcdRoster.Proofs.Conditions.History
import EtcdRoster.Proofs.Conditions.Merging

/-!
# The latest update of every type

What a merge makes of a list, told without going through the updates one by one. Types may occur
more than once, in the list as well as among the updates.

* `find?_merge`, `types_merge` — the last update of a type is what is found of it, and types new to
  the list follow behind it.
* `merge_again` — to merge the same updates again changes nothing, although each of them passes
  through the list once more.
* `merge_exact` — **all of it**, and that an update in place is a merge of what it leaves.
-/

namespace EtcdRoster.Conditions

variable {current updates : List Condition} {c : Condition}

/-- The last update of a type. -/
def latest (updates : List Condition) (type : String) : Option Condition :=
  (updates.filter (·.type == type)).getLast?

theorem latest_cons (u : Condition) (rest : List Condition) (type : String) :
    latest (u :: rest) type = (latest rest type).or (if u.type = type then some u else none) := by
  unfold latest
  by_cases h : u.type = type
  · rw [List.filter_cons_of_pos (by simpa using h), List.getLast?_cons, if_pos h]
    cases (rest.filter (·.type == type)).getLast? <;> rfl
  · rw [List.filter_cons_of_neg (by simpa using h), if_neg h, Option.or_none]

theorem latest_eq_none_iff {type : String} :
    latest updates type = none ↔ ∀ u ∈ updates, u.type ≠ type := by
  simp [latest]

/-! ## One update -/

theorem find?_upsert (conditions : List Condition) (c : Condition) (type : String) :
    find? (upsert conditions c) type = if c.type = type then some c else find? conditions type := by
  induction conditions with
  | nil => exact find?_cons ..
  | cons d rest ih =>
    rw [upsert]
    by_cases hd : d.type = c.type
    · rw [if_pos hd, find?_cons, find?_cons, hd]
      split <;> rfl
    · rw [if_neg hd, find?_cons, find?_cons, ih]
      by_cases hc : c.type = type
      · rw [if_neg fun h => hd (h.trans hc.symm), if_pos hc, if_pos hc]
      · rw [if_neg hc, if_neg hc]

theorem types_upsert (conditions : List Condition) (c : Condition) :
    (upsert conditions c).map (·.type) =
      if c.type ∈ conditions.map (·.type) then conditions.map (·.type)
      else conditions.map (·.type) ++ [c.type] := by
  induction conditions with
  | nil => rfl
  | cons d rest ih =>
    rw [upsert]
    by_cases h : d.type = c.type
    · rw [if_pos h, if_pos (h ▸ List.mem_cons_self ..), List.map_cons, List.map_cons, h]
    · simp only [if_neg h, List.map_cons, List.mem_cons, or_iff_right (Ne.symm h), ih]
      split <;> rfl

/-! ## Any number of updates -/

/-- The last update of a type is found, or else what has been found before. -/
theorem find?_merge (current updates : List Condition) (type : String) :
    find? (merge current updates) type = (latest updates type).or (find? current type) := by
  induction updates generalizing current with
  | nil => rfl
  | cons u rest ih =>
    have hstep : find? (merge current (u :: rest)) type
        = (latest rest type).or (find? (upsert current u) type) := ih (upsert current u)
    rw [hstep, latest_cons, Option.or_assoc, find?_upsert]
    split <;> rfl

theorem types_merge (current updates : List Condition) :
    (merge current updates).map (·.type)
      = withNew (current.map (·.type)) (updates.map (·.type)) := by
  induction updates generalizing current with
  | nil => exact (List.append_nil _).symm
  | cons u rest ih =>
    have hstep : (merge current (u :: rest)).map (·.type)
        = withNew ((upsert current u).map (·.type)) (rest.map (·.type)) := ih (upsert current u)
    rw [hstep, types_upsert, List.map_cons, withNew_cons]

/-! ## The same updates again -/

/-- Types that are there already are not added. -/
theorem withNew_again (types added : List String) :
    withNew (withNew types added) added = withNew types added := by
  have hthere : ∀ type ∈ added, type ∈ withNew types added := by
    intro type hadded
    by_cases hold : type ∈ types
    · exact List.mem_append_left _ hold
    · refine List.mem_append_right _ (List.mem_eraseDups.mpr (List.mem_filter.mpr ⟨hadded, ?_⟩))
      exact decide_eq_true hold
  have hnone : (added.filter fun type => type ∉ withNew types added) = [] := by
    refine List.filter_eq_nil_iff.mpr fun type hadded => ?_
    simp [hthere type hadded]
  rw [withNew, hnone]
  exact List.append_nil _

theorem types_merge_again (current updates : List Condition) :
    (merge (merge current updates) updates).map (·.type)
      = (merge current updates).map (·.type) := by
  rw [types_merge, types_merge, withNew_again]

/-- Where the first condition of a type stands depends on the types alone. -/
theorem place_congr {a b : List Condition} (h : a.map (·.type) = b.map (·.type)) (type : String) :
    place a type = place b type := by
  have hplace : ∀ l, place l type = (l.map (·.type)).findIdx (· == type) := by
    intro l
    rw [List.findIdx_map]
    rfl
  rw [hplace, hplace, h]

/-- To merge the same updates again changes nothing. In between an earlier update of a type stands
where the last one has stood, so this cannot be told update by update. -/
theorem merge_again (current updates : List Condition) :
    merge (merge current updates) updates = merge current updates := by
  have htypes := types_merge_again current updates
  refine List.ext_getElem? fun i => ?_
  cases hc : (merge current updates)[i]? with
  | none =>
    have hlength := congrArg List.length htypes
    rw [List.length_map, List.length_map] at hlength
    rw [List.getElem?_eq_none_iff] at hc ⊢
    omega
  | some c =>
    obtain hkept | ⟨hplace, d, hd, htype⟩ := getElem?_merge_of_getElem? updates hc
    · exact hkept
    · -- Both stand first of this type, and both times its last update is found.
      have hfirst : find? (merge current updates) c.type = some c := by
        rw [find?_eq_getElem?, ← hplace, hc]
      have hagain : find? (merge (merge current updates) updates) c.type = some d := by
        rw [find?_eq_getElem?, place_congr htypes, ← hplace, hd]
      rw [find?_merge, find?_merge, ← Option.or_assoc, Option.or_self, ← find?_merge, hfirst]
        at hagain
      rw [hd, ← hagain]

/-! ## The whole list -/

/-- What a list has become by merging updates into it. -/
structure Merged (current updates merged : List Condition) : Prop where
  found : ∀ type, find? merged type = (latest updates type).or (find? current type)
  /-- Only the first condition of a type that is updated gives up its place. -/
  kept : ∀ (i : Nat) (c : Condition), current[i]? = some c →
    latest updates c.type = none ∨ i ≠ place current c.type → merged[i]? = some c
  types : merged.map (·.type) = withNew (current.map (·.type)) (updates.map (·.type))
  settled : merge merged updates = merged

theorem merged_merge (current updates : List Condition) :
    Merged current updates (merge current updates) := by
  refine ⟨find?_merge current updates, ?kept, types_merge current updates,
    merge_again current updates⟩
  case kept =>
    rintro i c hc (hnone | hlater)
    · exact (getElem?_merge_iff (latest_eq_none_iff.mp hnone) i).mpr hc
    · exact (getElem?_merge_of_getElem? updates hc).resolve_right fun hfirst => hlater hfirst.1

/-- **What a merge does.** Of every type that is updated the last update is found, and of any other
type what has been found before. Conditions whose type is not updated keep their places and are as
they were, and so are those behind the first one of their type; new types follow once each in the
order in which they first occur among the updates. The same updates merged again change nothing.
A change in place is the merge of the one condition that it leaves. -/
theorem merge_exact (current : List Condition) :
    (∀ updates, Merged current updates (merge current updates)) ∧
    ∀ type status reason message now, ∃ c,
      find? (update current type status reason message now) type = some c ∧
      merge current [c] = update current type status reason message now := by
  refine ⟨merged_merge current, fun type status reason message now => ?_⟩
  have hmerge : merge current (find? (update current type status reason message now) type).toList
      = update current type status reason message now := merge_update
  rw [find?_update] at hmerge
  exact ⟨_, find?_update, hmerge⟩

/-- One type stands here twice. -/
def standing : List Condition :=
  [{ type := "Available", status := "True" }, { type := "Degraded", status := "False" },
    { type := "Available", status := "Unknown" }]

/-- Two types are updated twice, and one of them is new. -/
def reports : List Condition :=
  [{ type := "Progressing", status := "True" }, { type := "Available", status := "False" },
    { type := "Available", status := "True", reason := some "AsExpected" },
    { type := "Progressing", status := "False" }]

def reported : List Condition :=
  [{ type := "Available", status := "True", reason := some "AsExpected" },
    { type := "Degraded", status := "False" }, { type := "Available", status := "Unknown" },
    { type := "Progressing", status := "False" }]

theorem standing_reported : merge standing reports = reported ∧ Merged standing reports reported := by
  have hmerge : merge standing reports = reported := by decide +kernel
  refine ⟨hmerge, ?_⟩
  rw [← hmerge]
  exact (merge_exact standing).1 reports

end EtcdRoster.Conditions
