import EtcdRoster.Proofs.Difference.Metadata

/-!
# Requests for metadata

The metadata of a desired object is read as requests: a text that is not empty is to be taken over,
a key that ends in a hyphen asks to remove the key before the hyphen, and any other key asks to be
set. `mergeMeta_exact` says what a merge does with them: **every request is carried out, where a
removal prevails over a setting of the same key, and all else stays as it was**. No change is
reported exactly if all requests are fulfilled already, and then there is none.
-/

namespace EtcdRoster.Difference

variable {before required : Option (Dict String)} {key : String}

/-- The value of a key; an absent dictionary has none. -/
def value? (d : Option (Dict String)) (key : String) : Option String := d.bind (·.get? key)

/-! ## What is asked for -/

def EndsInHyphen (key : String) : Prop := ∃ stem, key = stem ++ "-"

/-- A key is to be removed: it is required with a hyphen behind it. -/
def Removes (required : Option (Dict String)) (key : String) : Prop :=
  ∃ value, value? required (key ++ "-") = some value

/-- A key is to have this value: it is required with it, and does not end in a hyphen. -/
structure Sets (required : Option (Dict String)) (key value : String) : Prop where
  given : value? required key = some value
  plain : ¬ EndsInHyphen key

/-- What a dictionary becomes when another one is required. -/
structure MergedByKey (before required after : Option (Dict String)) : Prop where
  removed : ∀ key, Removes required key → value? after key = none
  set : ∀ key value, Sets required key value → ¬ Removes required key → value? after key = some value
  kept : ∀ key, (∀ value, ¬ Sets required key value) → ¬ Removes required key →
    value? after key = value? before key

/-- What a text becomes when another one is required. -/
structure MergedText (before required after : Option String) : Prop where
  taken : ∀ text, required = some text → text ≠ "" → after = some text
  kept : required = none ∨ required = some "" → after = before

/-- All that is asked of a dictionary is so already. -/
structure Fulfilled (before required : Option (Dict String)) : Prop where
  removed : ∀ key, Removes required key → value? before key = none
  set : ∀ key value, Sets required key value → value? before key = some value

/-- A text that is asked for is there already. -/
def FulfilledText (before required : Option String) : Prop :=
  ∀ text, required = some text → text ≠ "" → before = some text

/-! ## One dictionary -/

theorem removal?_eq_none_iff : removal? key = none ↔ ¬ EndsInHyphen key := by
  simp only [Option.eq_none_iff_forall_ne_some, ne_eq, removal?_eq_some_iff, EndsInHyphen,
    not_exists]

theorem not_removes_none (key : String) : ¬ Removes none key := by
  rintro ⟨value, ⟨⟩⟩

theorem not_sets_none (key value : String) : ¬ Sets none key value := by
  rintro ⟨⟨⟩, -⟩

theorem mergedByKey_mergeDict (before required : Option (Dict String)) :
    MergedByKey before required (mergeDict before required).1 := by
  cases required with
  | none =>
    refine ⟨?_, ?_, fun _ _ _ => rfl⟩
    · exact fun key hkey => absurd hkey (not_removes_none key)
    · exact fun key value hset => absurd hset (not_sets_none key value)
  | some d =>
    have hremoves : ∀ key, Removes (some d) key ↔ d.contains (key ++ "-") = true := fun key =>
      Option.isSome_iff_exists.symm
    refine ⟨?removed, ?set, ?kept⟩
    case removed =>
      intro key hkey
      rw [value?, get?_mergeDict, if_pos ((hremoves key).mp hkey)]
    case set =>
      intro key value hset hkey
      rw [value?, get?_mergeDict, if_neg (mt (hremoves key).mpr hkey),
        if_pos (removal?_eq_none_iff.mpr hset.plain),
        show d.get? key = some value from hset.given, Option.some_or]
    case kept =>
      intro key hset hkey
      rw [value?, get?_mergeDict, if_neg (mt (hremoves key).mpr hkey)]
      split
      · rename_i hplain
        have hnone : d.get? key = none := Option.eq_none_iff_forall_ne_some.mpr fun value hvalue =>
          hset value ⟨hvalue, removal?_eq_none_iff.mp hplain⟩
        rw [hnone, Option.none_or]
        rfl
      · rfl

/-- A merge reports no change exactly if all that is asked of the dictionary is so already. -/
theorem mergeDict_snd_eq_false_iff :
    (mergeDict before required).2 = false ↔ Fulfilled before required := by
  cases required with
  | none =>
    refine ⟨fun _ => ⟨?_, ?_⟩, fun _ => rfl⟩
    · exact fun key hkey => absurd hkey (not_removes_none key)
    · exact fun key value hset => absurd hset (not_sets_none key value)
  | some d =>
    rw [show mergeDict before (some d) = mergeEntries before d.toList from rfl,
      mergeEntries_snd_eq_false_iff]
    constructor
    · intro hsettled
      refine ⟨?removed, ?set⟩
      case removed =>
        rintro key ⟨value, hvalue⟩
        have hentry := hsettled _ (Entries.mem_of_get? hvalue)
        rwa [Settled, removal?_eq_some_iff.mpr rfl] at hentry
      case set =>
        rintro key value ⟨hvalue, hplain⟩
        have hentry := hsettled _ (Entries.mem_of_get? hvalue)
        rwa [Settled, removal?_eq_none_iff.mpr hplain] at hentry
    · intro hfulfilled entry hentry
      have hvalue : d.get? entry.1 = some entry.2 := Entries.get?_of_mem d.sorted hentry
      unfold Settled
      cases hrequest : removal? entry.1 with
      | some key =>
        refine hfulfilled.removed key ⟨entry.2, ?_⟩
        rwa [← removal?_eq_some_iff.mp hrequest]
      | none => exact hfulfilled.set _ _ ⟨hvalue, removal?_eq_none_iff.mp hrequest⟩

/-! ## One text -/

theorem mergedText_mergeText (before required : Option String) :
    MergedText before required (mergeText before required).1 := by
  constructor
  · rintro text rfl htext
    by_cases hset : before = some text
    · simp [mergeText, hset]
    · simp [mergeText, hset, htext]
  · rintro (rfl | rfl)
    · rfl
    · simp [mergeText]

theorem mergeText_snd_eq_false_iff {before required : Option String} :
    (mergeText before required).2 = false ↔ FulfilledText before required := by
  cases required with
  | none => simp [mergeText, FulfilledText]
  | some text =>
    by_cases hempty : text = "" <;> by_cases hset : before = some text <;>
      simp [mergeText, FulfilledText, hempty, hset]

/-! ## All metadata -/

/-- All that is asked of the metadata is so already. -/
structure FulfilledMeta (existing required : ObjectMeta) : Prop where
  scope : FulfilledText existing.namespace required.namespace
  name : FulfilledText existing.name required.name
  labels : Fulfilled existing.labels required.labels
  annotations : Fulfilled existing.annotations required.annotations

/-- What metadata becomes when other metadata is required. -/
structure MergedMeta (existing required after : ObjectMeta) : Prop where
  scope : MergedText existing.namespace required.namespace after.namespace
  name : MergedText existing.name required.name after.name
  labels : MergedByKey existing.labels required.labels after.labels
  annotations : MergedByKey existing.annotations required.annotations after.annotations
  rest : after = { existing with
    name := after.name
    «namespace» := after.namespace
    labels := after.labels
    annotations := after.annotations }

theorem mergedMeta_mergeMeta (existing required : ObjectMeta) :
    MergedMeta existing required (mergeMeta existing required).1 where
  scope := mergedText_mergeText existing.namespace required.namespace
  name := mergedText_mergeText existing.name required.name
  labels := mergedByKey_mergeDict existing.labels required.labels
  annotations := mergedByKey_mergeDict existing.annotations required.annotations
  rest := rfl

theorem mergeMeta_snd_eq_false_iff {existing required : ObjectMeta} :
    (mergeMeta existing required).2 = false ↔ FulfilledMeta existing required := by
  simp only [mergeMeta, Bool.or_eq_false_iff, mergeText_snd_eq_false_iff,
    mergeDict_snd_eq_false_iff, and_assoc]
  constructor
  · rintro ⟨scope, name, labels, annotations⟩
    exact ⟨scope, name, labels, annotations⟩
  · rintro ⟨scope, name, labels, annotations⟩
    exact ⟨scope, name, labels, annotations⟩

/-- **A merge carries out the requests and nothing else.** Name and namespace, labels and
annotations are merged as `MergedText` and `MergedByKey` say, and nothing else is touched. The flag
is not set exactly if all requests are fulfilled already; then the metadata is what it was, an
absent dictionary staying absent. -/
theorem mergeMeta_exact (existing required : ObjectMeta) :
    MergedMeta existing required (mergeMeta existing required).1 ∧
    ((mergeMeta existing required).2 = false ↔ FulfilledMeta existing required) ∧
    ((mergeMeta existing required).2 = false → (mergeMeta existing required).1 = existing) :=
  ⟨mergedMeta_mergeMeta existing required, mergeMeta_snd_eq_false_iff, mergeMeta_unchanged⟩

/-- Metadata with a key that itself ends in a hyphen, and without annotations. -/
def hyphened : ObjectMeta :=
  { name := some "host-etcd"
    labels := some ((Dict.empty.insert "a-" "kept").insert "tier" "compute")
    resourceVersion := some "7" }

/-- A key is to be set and to be removed at once, and the key with the hyphen is to go. -/
def conflicting : ObjectMeta :=
  { name := some ""
    labels := some ((((Dict.empty.insert "a--" "").insert "app" "etcd").insert "app-" "").insert
      "tier" "control")
    annotations := some (Dict.empty.insert "note-" "") }

theorem hyphened_merged :
    MergedMeta hyphened conflicting
      { hyphened with labels := some (Dict.empty.insert "tier" "control") } ∧
    (mergeMeta hyphened { conflicting with labels := none }).2 = false ∧
    (mergeMeta hyphened { conflicting with labels := none }).1 = hyphened := by
  have hmerged : (mergeMeta hyphened conflicting).1
      = { hyphened with labels := some (Dict.empty.insert "tier" "control") } := by decide +kernel
  have hflag : (mergeMeta hyphened { conflicting with labels := none }).2 = false := by
    decide +kernel
  refine ⟨?_, hflag, (mergeMeta_exact hyphened _).2.2 hflag⟩
  rw [← hmerged]
  exact (mergeMeta_exact hyphened conflicting).1

end EtcdRoster.Difference
