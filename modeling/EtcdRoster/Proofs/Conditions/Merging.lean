import EtcdRoster.Proofs.Conditions

/-!
# Conditions merged into a list

A merge puts conditions into a list one after the other, each in the place of the first one of its
type, or at the end. A type may occur more than once, in the list as well as among the updates.

* `place`, `getElem?_upsert` — the one place that an update changes.
* `getElem?_merge_iff` — **conditions of other types stay where they are**: a merge neither changes,
  moves or drops one, nor does it bring one in.
* `timeless_merge_of_equal` — a merge that counts as no change leaves the list as it is, element by
  element, up to transition times.
-/

namespace EtcdRoster.Conditions

variable {current updates : List Condition} {c d : Condition}

/-- Where the first condition of a type stands; the end, if there is none. -/
def place (conditions : List Condition) (type : String) : Nat :=
  conditions.findIdx fun c => c.type == type

theorem place_cons (c : Condition) (rest : List Condition) (type : String) :
    place (c :: rest) type = if c.type = type then 0 else place rest type + 1 := by
  unfold place
  rw [List.findIdx_cons]
  by_cases h : c.type = type
  · rw [if_pos h, h, beq_self_eq_true, cond_true]
  · rw [if_neg h, beq_eq_false_iff_ne.mpr h, cond_false]

theorem find?_eq_getElem? (conditions : List Condition) (type : String) :
    find? conditions type = conditions[place conditions type]? :=
  List.find?_eq_getElem?_findIdx

/-! ## One update -/

theorem getElem?_upsert (conditions : List Condition) (c : Condition) (i : Nat) :
    (upsert conditions c)[i]? = if i = place conditions c.type then some c else conditions[i]? := by
  induction conditions generalizing i with
  | nil => cases i <;> simp [upsert, place]
  | cons d rest ih =>
    rw [upsert, place_cons]
    by_cases h : d.type = c.type
    · cases i <;> simp [h]
    · cases i with
      | zero => simp [h]
      | succ i => simp [h, ih]

/-- An update leaves first what has been the first of its type. -/
theorem place_upsert (hd : d ∈ current) :
    place (upsert current c) d.type = place current d.type := by
  induction current with
  | nil => cases hd
  | cons b rest ih =>
    rw [upsert, place_cons]
    by_cases hb : b.type = c.type
    · rw [if_pos hb, place_cons, hb]
    · rw [if_neg hb, place_cons]
      by_cases hfirst : b.type = d.type
      · rw [if_pos hfirst, if_pos hfirst]
      · have hrest : d ∈ rest := by
          refine (List.mem_cons.mp hd).resolve_left ?_
          rintro rfl
          exact hfirst rfl
        rw [if_neg hfirst, if_neg hfirst, ih hrest]

/-- The first condition of a type is of this type. -/
theorem type_of_getElem?_place {type : String} (h : current[place current type]? = some c) :
    c.type = type := by
  rw [← find?_eq_getElem?] at h
  exact type_of_find? h

/-! ## Any number of updates -/

/-- A condition whose type is not updated stands exactly where it stood. -/
theorem getElem?_merge_iff (other : ∀ u ∈ updates, u.type ≠ c.type) (i : Nat) :
    (merge current updates)[i]? = some c ↔ current[i]? = some c := by
  induction updates generalizing current with
  | nil => rfl
  | cons u rest ih =>
    obtain ⟨hu, hrest⟩ := List.forall_mem_cons.mp other
    have hstep : (upsert current u)[i]? = some c ↔ current[i]? = some c := by
      rw [getElem?_upsert]
      by_cases hi : i = place current u.type
      · -- The update stands here now, and before it stood one of its type, or none.
        rw [if_pos hi, hi]
        constructor
        · rintro ⟨⟩
          exact absurd rfl hu
        · intro hc
          exact absurd (type_of_getElem?_place hc).symm hu
      · rw [if_neg hi]
    exact (ih hrest).trans hstep

/-- What stands in a place after a merge is what has stood there, or else this has been the first
place of its type, and a condition of the same type is there now. -/
theorem getElem?_merge_of_getElem? (updates : List Condition) {i : Nat}
    (hc : current[i]? = some c) :
    (merge current updates)[i]? = some c ∨
      i = place current c.type ∧ ∃ d, (merge current updates)[i]? = some d ∧ d.type = c.type := by
  induction updates generalizing current c with
  | nil => exact .inl hc
  | cons u rest ih =>
    have hstep := getElem?_upsert current u i
    by_cases hi : i = place current u.type
    · rw [if_pos hi] at hstep
      have htype : c.type = u.type := type_of_getElem?_place (hi ▸ hc)
      refine .inr ⟨htype ▸ hi, ?_⟩
      obtain hkept | ⟨-, d, hd, hdu⟩ := ih hstep
      · exact ⟨u, hkept, htype.symm⟩
      · exact ⟨d, hd, hdu.trans htype.symm⟩
    · rw [if_neg hi, hc] at hstep
      obtain hkept | ⟨hplace, hd⟩ := ih hstep
      · exact .inl hkept
      · exact .inr ⟨hplace.trans (place_upsert (List.mem_of_getElem? hc)), hd⟩

/-! ## Merges that count as no change -/

/-- The condition without the time of its last transition. -/
def timeless (c : Condition) : Condition := { c with lastTransitionTime := none }

theorem timeless_eq_iff : timeless c = timeless d ↔ c.type = d.type ∧ sameContent c d = true := by
  simp [timeless, sameContent, Condition.mk.injEq, and_assoc]

/-- A merge that counts as no change leaves every condition as it was, up to transition times. -/
theorem timeless_merge_of_equal (same : equal current (merge current updates) = true) :
    (merge current updates).map timeless = current.map timeless := by
  obtain ⟨hlength, hconfirms⟩ := equal_iff.mp same
  refine List.ext_getElem? fun i => ?_
  rw [List.getElem?_map, List.getElem?_map]
  cases hc : current[i]? with
  | none =>
    have hend : (merge current updates)[i]? = none := by
      rw [List.getElem?_eq_none_iff] at hc ⊢
      omega
    rw [hend]
  | some c =>
    obtain hkept | ⟨hplace, d, hd, htype⟩ := getElem?_merge_of_getElem? updates hc
    · rw [hkept]
    · obtain ⟨first, hfirst, hcontent⟩ := hconfirms d (List.mem_of_getElem? hd)
      rw [find?_eq_getElem?, htype, ← hplace, hc] at hfirst
      cases hfirst
      rw [hd, Option.map_some, Option.map_some, timeless_eq_iff.mpr ⟨htype.symm, hcontent⟩]

end EtcdRoster.Conditions
