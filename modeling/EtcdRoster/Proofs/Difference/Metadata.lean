import EtcdRoster.Reconcile.Difference

/-!
# Merging metadata

A merge tells whether it changed anything. What reports no change returns what it was given, an
absent map staying absent (`mergeEntry_unchanged` up to `mergeMeta_unchanged`).

* `get?_mergeDict` — what a merge makes of each key. Requests are carried out in key order, so one
  to set a key comes before one to remove it.
* `mergeDict_again`, `mergeMeta_again` — after a merge every request is settled, unless one
  contradicts another; so merging the same once more changes nothing and reports no change.
-/

namespace EtcdRoster.Difference

/-! ## No change reported, nothing changed -/

theorem erase_eq_self {d : Dict String} {key : String} (h : d.contains key = false) :
    d.erase key = d := by
  have hnone : d.get? key = none := by simpa [Dict.contains] using h
  refine Dict.ext_get? fun other => ?_
  rw [Dict.get?_erase]
  by_cases ho : other = key
  · rw [if_pos ho, ho, hnone]
  · rw [if_neg ho]

theorem mergeText_unchanged {existing required : Option String}
    (h : (mergeText existing required).2 = false) : (mergeText existing required).1 = existing := by
  cases required with
  | none => rfl
  | some value =>
    unfold mergeText at h ⊢
    dsimp only at h ⊢
    by_cases hset : value ≠ "" ∧ existing ≠ some value
    · rw [if_pos hset] at h
      cases h
    · rw [if_neg hset]

theorem mergeEntry_unchanged {existing : Option (Dict String)} {entry : String × String}
    (h : (mergeEntry existing entry).2 = false) : (mergeEntry existing entry).1 = existing := by
  unfold mergeEntry at h ⊢
  cases hr : removal? entry.1 with
  | some key =>
    rw [hr] at h
    cases existing with
    | none => rfl
    | some d => exact congrArg some (erase_eq_self h)
  | none =>
    rw [hr] at h
    dsimp only at h ⊢
    by_cases hset : (existing.getD .empty).get? entry.1 = some entry.2
    · rw [if_pos hset]
      cases existing with
      | none => simp at hset
      | some d => rfl
    · rw [if_neg hset] at h
      cases h

theorem mergeEntries_cons (existing : Option (Dict String)) (entry : String × String)
    (rest : List (String × String)) :
    mergeEntries existing (entry :: rest) =
      ((mergeEntries (mergeEntry existing entry).1 rest).1,
        (mergeEntry existing entry).2 || (mergeEntries (mergeEntry existing entry).1 rest).2) := rfl

theorem mergeEntries_unchanged {existing : Option (Dict String)} {entries : List (String × String)}
    (h : (mergeEntries existing entries).2 = false) :
    (mergeEntries existing entries).1 = existing := by
  induction entries generalizing existing with
  | nil => rfl
  | cons entry rest ih =>
    rw [mergeEntries_cons] at h ⊢
    obtain ⟨hfirst, hlater⟩ := Bool.or_eq_false_iff.mp h
    rw [mergeEntry_unchanged hfirst] at hlater ⊢
    exact ih hlater

theorem mergeDict_unchanged {existing required : Option (Dict String)}
    (h : (mergeDict existing required).2 = false) : (mergeDict existing required).1 = existing := by
  cases required with
  | none => rfl
  | some d => exact mergeEntries_unchanged h

/-- A merge of metadata that reports no change returns the metadata it was given. -/
theorem mergeMeta_unchanged {existing required : ObjectMeta}
    (h : (mergeMeta existing required).2 = false) : (mergeMeta existing required).1 = existing := by
  simp only [mergeMeta, Bool.or_eq_false_iff] at h
  obtain ⟨⟨⟨hscope, hname⟩, hlabels⟩, hannotations⟩ := h
  simp only [mergeMeta, mergeText_unchanged hscope, mergeText_unchanged hname,
    mergeDict_unchanged hlabels, mergeDict_unchanged hannotations]

/-! ## Key by key -/

/-- A request to remove a key is the key and a hyphen. -/
theorem removal?_eq_some_iff {request key : String} :
    removal? request = some key ↔ request = key ++ "-" := by
  simp only [removal?, Option.map_eq_some_iff, Text.dropEnding?_eq_some_iff]
  constructor
  · rintro ⟨rest, h, rfl⟩
    refine String.ext ?_
    simpa using h
  · rintro rfl
    exact ⟨key.toList, by simp, by simp⟩

/-- In key order, a key comes before the request to remove it. -/
theorem lt_removal (key : String) : key < key ++ "-" := by
  rw [String.lt_iff, String.toList_append]
  exact List.lt_iff_exists.mpr (.inl ⟨by simp, by simp⟩)

theorem get?_getD_empty (existing : Option (Dict String)) (key : String) :
    (existing.getD .empty).get? key = existing.bind (·.get? key) := by
  cases existing <;> rfl

/-- What one request makes of each key. -/
theorem get?_mergeEntry (existing : Option (Dict String)) (entry : String × String)
    (key : String) :
    (mergeEntry existing entry).1.bind (·.get? key) =
      if entry.1 = key ++ "-" then none
      else if entry.1 = key ∧ removal? key = none then some entry.2
      else existing.bind (·.get? key) := by
  unfold mergeEntry
  cases hrequest : removal? entry.1 with
  | some removed =>
    have hset : ¬ (entry.1 = key ∧ removal? key = none) := by
      rintro ⟨rfl, hnone⟩
      rw [hrequest] at hnone
      cases hnone
    have hremoved : entry.1 = key ++ "-" ↔ key = removed := by
      rw [removal?_eq_some_iff.mp hrequest]
      simp [eq_comm]
    rw [if_neg hset]
    simp only [hremoved]
    cases existing with
    | none => simp
    | some d => exact d.get?_erase removed key
  | none =>
    have hremoved : ¬ entry.1 = key ++ "-" := by
      intro h
      rw [removal?_eq_some_iff.mpr h] at hrequest
      cases hrequest
    rw [if_neg hremoved]
    dsimp only
    rw [get?_getD_empty]
    by_cases hset : existing.bind (·.get? entry.1) = some entry.2
    · rw [if_pos hset, Option.bind_some, get?_getD_empty]
      by_cases hkey : entry.1 = key
      · rw [if_pos ⟨hkey, hkey ▸ hrequest⟩, ← hkey, hset]
      · rw [if_neg fun h => hkey h.1]
    · rw [if_neg hset, Option.bind_some, Dict.get?_insert, get?_getD_empty]
      by_cases hkey : entry.1 = key
      · rw [if_pos hkey.symm, if_pos ⟨hkey, hkey ▸ hrequest⟩]
      · rw [if_neg (Ne.symm hkey), if_neg fun h => hkey h.1]

/-- What requests in key order make of each key. -/
theorem get?_mergeEntries {entries : List (String × String)} (h : Entries.Sorted entries)
    (existing : Option (Dict String)) (key : String) :
    (mergeEntries existing entries).1.bind (·.get? key) =
      if (Entries.get? (key ++ "-") entries).isSome then none
      else if removal? key = none then (Entries.get? key entries).or (existing.bind (·.get? key))
      else existing.bind (·.get? key) := by
  induction entries generalizing existing with
  | nil => simp [mergeEntries]
  | cons entry rest ih =>
    obtain ⟨hlater, hrest⟩ := List.pairwise_cons.mp h
    rw [mergeEntries_cons, ih hrest, get?_mergeEntry, Entries.get?_cons, Entries.get?_cons]
    by_cases hremoved : entry.1 = key ++ "-"
    · -- No later request can set the key again.
      have hunset : Entries.get? key rest = none := Entries.get?_eq_none_of_lt fun e he =>
        String.lt_trans (hremoved ▸ lt_removal key) (hlater e he)
      simp [hremoved, hunset]
    · rw [if_neg hremoved, if_neg (Ne.symm hremoved)]
      by_cases hset : entry.1 = key ∧ removal? key = none
      · have hunset : Entries.get? key rest = none := Entries.get?_eq_none_of_lt fun e he =>
          hset.1 ▸ hlater e he
        simp [hset, hunset]
      · rw [if_neg hset]
        by_cases hplain : removal? key = none
        · rw [if_neg fun hkey => hset ⟨Eq.symm hkey, hplain⟩]
        · rw [if_neg hplain, if_neg hplain]

/-- **What a merge makes of each key**: it is gone if its removal is asked for; otherwise a key that
asks for no removal has the required value, if there is one; any other key stays as it was. -/
theorem get?_mergeDict (existing : Option (Dict String)) (required : Dict String) (key : String) :
    (mergeDict existing (some required)).1.bind (·.get? key) =
      if required.contains (key ++ "-") then none
      else if removal? key = none then (required.get? key).or (existing.bind (·.get? key))
      else existing.bind (·.get? key) :=
  get?_mergeEntries required.sorted existing key

/-! ## Merging twice -/

/-- What a request asks for is so already. -/
def Settled (existing : Option (Dict String)) (entry : String × String) : Prop :=
  match removal? entry.1 with
  | some key => existing.bind (·.get? key) = none
  | none => existing.bind (·.get? entry.1) = some entry.2

/-- A request that is settled is no change, and any other one is. -/
theorem mergeEntry_snd_eq_false_iff {existing : Option (Dict String)} {entry : String × String} :
    (mergeEntry existing entry).2 = false ↔ Settled existing entry := by
  unfold Settled mergeEntry
  cases removal? entry.1 with
  | some key =>
    cases existing with
    | none => simp
    | some d => simp [Dict.contains]
  | none =>
    dsimp only
    rw [get?_getD_empty]
    split
    · rename_i hset
      simp [hset]
    · rename_i hset
      simp [hset]

/-- Merging reports no change exactly if every request is settled. -/
theorem mergeEntries_snd_eq_false_iff {existing : Option (Dict String)}
    {entries : List (String × String)} :
    (mergeEntries existing entries).2 = false ↔ ∀ entry ∈ entries, Settled existing entry := by
  induction entries with
  | nil => simp [mergeEntries]
  | cons entry rest ih =>
    rw [mergeEntries_cons, Bool.or_eq_false_iff, List.forall_mem_cons, mergeEntry_snd_eq_false_iff]
    refine and_congr_right fun hfirst => ?_
    rw [mergeEntry_unchanged (mergeEntry_snd_eq_false_iff.mpr hfirst), ih]

theorem mergeEntries_settled {existing : Option (Dict String)} {entries : List (String × String)}
    (h : ∀ entry ∈ entries, Settled existing entry) :
    mergeEntries existing entries = (existing, false) := by
  have hflag := mergeEntries_snd_eq_false_iff.mpr h
  exact Prod.ext (mergeEntries_unchanged hflag) hflag

/-- No key is asked to be set and asked to be removed. -/
def Uncontradicted (required : Option (Dict String)) : Prop :=
  ∀ d ∈ required, ∀ key, removal? key = none →
    ¬ (d.contains key = true ∧ d.contains (key ++ "-") = true)

/-- Only keys that are there have to be looked at. -/
theorem uncontradicted_iff {required : Option (Dict String)} :
    Uncontradicted required ↔ ∀ d ∈ required, ∀ entry ∈ d.entries, removal? entry.1 = none →
      d.contains (entry.1 ++ "-") = false := by
  refine forall₂_congr fun d _ => ⟨?_, ?_⟩
  · intro h entry hentry hplain
    have hcontains : d.contains entry.1 = true := by
      rw [Dict.contains, Dict.get?, Entries.get?_of_mem d.sorted hentry, Option.isSome_some]
    exact Bool.eq_false_iff.mpr fun hremoved => h entry.1 hplain ⟨hcontains, hremoved⟩
  · rintro h key hplain ⟨hcontains, hremoved⟩
    obtain ⟨value, hvalue⟩ := Option.isSome_iff_exists.mp hcontains
    rw [h (key, value) (Entries.mem_of_get? hvalue) hplain] at hremoved
    cases hremoved

instance : DecidablePred Uncontradicted := fun _ => decidable_of_iff _ uncontradicted_iff.symm

/-- A merge settles every request, unless one contradicts another. -/
theorem settled_mergeDict {required : Dict String} (h : Uncontradicted (some required))
    (existing : Option (Dict String)) :
    ∀ entry ∈ required.toList, Settled (mergeDict existing (some required)).1 entry := by
  intro entry hentry
  have hget : required.get? entry.1 = some entry.2 := Entries.get?_of_mem required.sorted hentry
  have hcontains : required.contains entry.1 = true := by rw [Dict.contains, hget, Option.isSome_some]
  unfold Settled
  cases hrequest : removal? entry.1 with
  | some key =>
    dsimp only
    rw [get?_mergeDict, ← removal?_eq_some_iff.mp hrequest, if_pos hcontains]
  | none =>
    have hstays : ¬ required.contains (entry.1 ++ "-") = true := fun hremoved =>
      h required rfl entry.1 hrequest ⟨hcontains, hremoved⟩
    dsimp only
    rw [get?_mergeDict, if_neg hstays, if_pos hrequest, hget, Option.some_or]

theorem mergeDict_again {required : Option (Dict String)} (h : Uncontradicted required)
    (existing : Option (Dict String)) :
    mergeDict (mergeDict existing required).1 required
      = ((mergeDict existing required).1, false) := by
  cases required with
  | none => rfl
  | some d => exact mergeEntries_settled (settled_mergeDict h existing)

theorem mergeText_again (existing required : Option String) :
    mergeText (mergeText existing required).1 required
      = ((mergeText existing required).1, false) := by
  unfold mergeText
  cases required with
  | none => rfl
  | some value =>
    by_cases hset : value ≠ "" ∧ existing ≠ some value <;> simp [hset]

/-- **Merging the same metadata once more changes nothing**, and reports no change. -/
theorem mergeMeta_again {required : ObjectMeta} (hlabels : Uncontradicted required.labels)
    (hannotations : Uncontradicted required.annotations) (existing : ObjectMeta) :
    mergeMeta (mergeMeta existing required).1 required = ((mergeMeta existing required).1, false) := by
  simp only [mergeMeta, mergeText_again, mergeDict_again hlabels, mergeDict_again hannotations,
    Bool.or_self]

/-! ## Setting one key -/

theorem mergeText_self (value : String) :
    mergeText (some value) (some value) = (some value, false) := by
  simp [mergeText]

/-- Merging the one key that is wanted sets it and leaves every other key alone. -/
theorem get?_mergeDict_single {existing : Option (Dict String)} {key value : String}
    (hkey : removal? key = none) (other : String) :
    (mergeDict existing (some (Dict.empty.insert key value))).1.bind (·.get? other) =
      if other = key then some value else existing.bind (·.get? other) := by
  have hsingle : mergeDict existing (some (Dict.empty.insert key value))
      = ((mergeEntry existing (key, value)).1, (mergeEntry existing (key, value)).2 || false) := rfl
  have hstays : ¬ key = other ++ "-" := by
    intro h
    rw [removal?_eq_some_iff.mpr h] at hkey
    cases hkey
  rw [hsingle, get?_mergeEntry, if_neg hstays]
  by_cases ho : other = key
  · rw [if_pos ho, if_pos ⟨ho.symm, ho ▸ hkey⟩]
  · rw [if_neg ho, if_neg fun h => ho h.1.symm]

/-- Merging a key that is set already reports no change. -/
theorem mergeDict_single_unchanged {existing : Option (Dict String)} {key value : String}
    (hkey : removal? key = none) (hset : existing.bind (·.get? key) = some value) :
    (mergeDict existing (some (Dict.empty.insert key value))).2 = false := by
  have hsettled : Settled existing (key, value) := by
    unfold Settled
    rw [hkey]
    exact hset
  exact congrArg Prod.snd (mergeEntries_settled (List.forall_mem_singleton.mpr hsettled))

end EtcdRoster.Difference
