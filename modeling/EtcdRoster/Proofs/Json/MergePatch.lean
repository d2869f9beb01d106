import EtcdRoster.Json.MergePatch
import EtcdRoster.Proofs.Json.Describable

/-!
# The laws of merge patches

A merge patch is found member by member and carried out member by member, so both are known by what
they do to one key:

* `get?_changes` — the patch between two objects says for each key what happens to it
  (`memberPatch`).
* `get?_applyMembers` — carrying out a patch treats each key on its own (`patchedMember`).
* `patchedMember_memberPatch` — one undoes the other.

**Carrying out the patch between two documents gives the second one** (`applyMergePatch_diff?`).
There is no patch exactly between equal documents (`diff?_eq_none_iff`), and a patch says nothing
about a member that is the same on both sides (`path?_ne_of_diff?`).
-/

namespace EtcdRoster.Json

/-! ## Finding a patch -/

/-- What a patch says of a member, from what the member is on both sides: nothing if it stays. -/
def memberPatch : (source target : Option Json) → Option Json
  | none, target => target
  | some _, none => some .null
  | some old, some new => diff? old new

/-- The members that a patched object lacks, patched to `null`. -/
def removals (source target : List (String × Json)) : List (String × Json) :=
  source.filterMap fun member =>
    if (Entries.get? member.1 target).isNone then some (member.1, Json.null) else none

/-- The patch between two objects, by members. -/
def changes (source target : List (String × Json)) : List (String × Json) :=
  Entries.ofList (diffMembers source target ++ removals source target)

theorem diff?_obj (source target : List (String × Json)) :
    diff? (.obj source) (.obj target) =
      if changes source target = [] then none else some (.obj (changes source target)) := by
  rw [diff?, changes, removals]
  generalize diffMembers source target ++ _ = patches
  cases patches with
  | nil => simp [Entries.ofList]
  | cons e rest => simp [Entries.ofList_eq_nil_iff]

/-- A document that is no object is replaced as a whole. -/
theorem diff?_leaf {source target : Json} (h : ∀ members, target ≠ .obj members) :
    diff? source target = if source = target then none else some target := by
  cases target with
  | obj members => exact absurd rfl (h members)
  | _ => simp [diff?]

/-- In the place of a document that is no object the new one is put as a whole. -/
theorem diff?_of_leaf {source : Json} (h : ∀ members, source ≠ .obj members)
    (target : List (String × Json)) : diff? source (.obj target) = some (.obj target) := by
  cases source with
  | obj members => exact absurd rfl (h members)
  | _ => simp [diff?]

theorem get?_diffMembers {source target : List (String × Json)} (hsorted : Entries.Sorted target)
    (key : String) :
    Entries.get? key (diffMembers source target) =
      (Entries.get? key target).bind fun new => memberPatch (Entries.get? key source) new := by
  induction target with
  | nil => simp [diffMembers]
  | cons e rest ih =>
    obtain ⟨name, new⟩ := e
    obtain ⟨hlater, hrest⟩ := List.pairwise_cons.mp hsorted
    specialize ih hrest
    rw [diffMembers, Entries.get?_cons]
    by_cases hkey : key = name
    · subst hkey
      -- Each key stands once, so a member that stays leaves no trace further on.
      rw [Entries.get?_eq_none_of_lt hlater, Option.bind_none] at ih
      cases hold : Entries.get? key source with
      | none => simp [Entries.get?_cons, memberPatch]
      | some old => cases hdiff : diff? old new <;> simp [Entries.get?_cons, memberPatch, hdiff, ih]
    · cases hold : Entries.get? name source with
      | none => simp [Entries.get?_cons, hkey, ih]
      | some old => cases hdiff : diff? old new <;> simp [Entries.get?_cons, hkey, hdiff, ih]

theorem removals_cons (e : String × Json) (rest target : List (String × Json)) :
    removals (e :: rest) target =
      if Entries.get? e.1 target = none then (e.1, .null) :: removals rest target
      else removals rest target := by
  by_cases hgone : Entries.get? e.1 target = none <;> simp [removals, hgone]

theorem get?_removals (source target : List (String × Json)) (key : String) :
    Entries.get? key (removals source target) =
      if Entries.get? key target = none then (Entries.get? key source).map fun _ => Json.null
      else none := by
  induction source with
  | nil => simp [removals]
  | cons e rest ih =>
    rw [removals_cons, Entries.get?_cons]
    by_cases hkey : key = e.1
    · subst hkey
      by_cases hgone : Entries.get? e.1 target = none
      · simp [hgone, Entries.get?_cons]
      · simpa [hgone] using ih
    · by_cases hgone : Entries.get? e.1 target = none <;> simp [hgone, Entries.get?_cons, hkey, ih]

/-- The patch between two objects treats each key on its own. -/
theorem get?_changes {source target : List (String × Json)} (hsorted : Entries.Sorted target)
    (key : String) :
    Entries.get? key (changes source target) =
      memberPatch (Entries.get? key source) (Entries.get? key target) := by
  rw [changes, Entries.get?_ofList, Entries.get?_append, get?_diffMembers hsorted, get?_removals]
  cases hnew : Entries.get? key target with
  | none => cases hold : Entries.get? key source <;> simp [memberPatch]
  | some new => simp

theorem sorted_changes (source target : List (String × Json)) :
    Entries.Sorted (changes source target) :=
  Entries.sorted_ofList _

/-! ## Carrying a patch out -/

/-- What becomes of a member under what a patch says of it. -/
def patchedMember (old : Option Json) : (patch : Option Json) → Option Json
  | none => old
  | some .null => none
  | some patch => some (applyMergePatch (old.getD .null) patch)

theorem patchedMember_some {patch : Json} (h : patch ≠ .null) (old : Option Json) :
    patchedMember old (some patch) = some (applyMergePatch (old.getD .null) patch) := by
  cases patch with
  | null => exact absurd rfl h
  | _ => rfl

theorem applyMembers_cons (target : List (String × Json)) (key : String) (value : Json)
    (rest : List (String × Json)) :
    applyMembers target ((key, value) :: rest) =
      applyMembers
        (match patchedMember (Entries.get? key target) (some value) with
          | none => Entries.erase key target
          | some merged => Entries.insert key merged target)
        rest := by
  cases value <;> simp [applyMembers, patchedMember]

theorem sorted_applyMembers {target : List (String × Json)} (h : Entries.Sorted target)
    (patch : List (String × Json)) : Entries.Sorted (applyMembers target patch) := by
  induction patch generalizing target with
  | nil => simpa [applyMembers] using h
  | cons e rest ih =>
    obtain ⟨key, value⟩ := e
    rw [applyMembers_cons]
    cases patchedMember (Entries.get? key target) (some value) with
    | none => exact ih (Entries.sorted_erase h)
    | some merged => exact ih (Entries.sorted_insert h)

/-- Carrying out a patch treats each key on its own. -/
theorem get?_applyMembers {patch : List (String × Json)} (hsorted : Entries.Sorted patch)
    (target : List (String × Json)) (key : String) :
    Entries.get? key (applyMembers target patch) =
      patchedMember (Entries.get? key target) (Entries.get? key patch) := by
  induction patch generalizing target with
  | nil => simp [applyMembers, patchedMember]
  | cons e rest ih =>
    obtain ⟨name, value⟩ := e
    obtain ⟨hlater, hrest⟩ := List.pairwise_cons.mp hsorted
    rw [applyMembers_cons, ih hrest, Entries.get?_cons]
    by_cases hkey : key = name
    · subst hkey
      -- The rest of the patch does not come back to this key.
      rw [if_pos rfl, Entries.get?_eq_none_of_lt hlater]
      cases hmember : patchedMember (Entries.get? key target) (some value) with
      | none => simp [patchedMember, Entries.get?_erase]
      | some merged => simp [patchedMember, Entries.get?_insert]
    · rw [if_neg hkey]
      cases patchedMember (Entries.get? name target) (some value) with
      | none => simp [Entries.get?_erase, hkey]
      | some merged => simp [Entries.get?_insert, hkey]

/-- A document that is no object takes the place of any other. -/
theorem applyMergePatch_leaf {patch : Json} (h : ∀ members, patch ≠ .obj members) (target : Json) :
    applyMergePatch target patch = patch := by
  cases patch with
  | obj members => exact absurd rfl (h members)
  | _ => simp [applyMergePatch]

theorem applyMergePatch_of_leaf {target : Json} (h : ∀ members, target ≠ .obj members)
    (patch : List (String × Json)) :
    applyMergePatch target (.obj patch) = .obj (applyMembers [] patch) := by
  cases target with
  | obj members => exact absurd rfl (h members)
  | _ => simp [applyMergePatch]

/-- A describable document, carried out as a patch where no object is, gives itself. -/
theorem applyMergePatch_self {source target : Json} (hsource : ∀ members, source ≠ .obj members)
    (h : target.Describable) : applyMergePatch source target = target := by
  induction target using induction_members generalizing source with
  | leaf target hleaf => exact applyMergePatch_leaf hleaf source
  | object members ih =>
    rw [applyMergePatch_of_leaf hsource]
    congr 1
    have hempty : Entries.Sorted ([] : List (String × Json)) := List.Pairwise.nil
    refine Entries.eq_of_get?_eq (sorted_applyMembers hempty members) h.sorted fun key => ?_
    rw [get?_applyMembers h.sorted, Entries.get?_nil]
    cases hvalue : Entries.get? key members with
    | none => simp [patchedMember]
    | some value =>
      have hself : applyMergePatch .null value = value :=
        ih _ (Entries.mem_of_get? hvalue) (by simp) (h.member hvalue)
      rw [patchedMember_some (h.member hvalue).ne_null, Option.getD_none, hself]

/-! ## One undoes the other -/

/-- A patch is `null` only if `null` is wanted. -/
theorem ne_null_of_diff? {source target patch : Json} (htarget : target ≠ .null)
    (h : diff? source target = some patch) : patch ≠ .null := by
  by_cases hobj : ∃ members, target = .obj members
  · obtain ⟨members, rfl⟩ := hobj
    rintro rfl
    by_cases hsource : ∃ members, source = .obj members
    · obtain ⟨old, rfl⟩ := hsource
      rw [diff?_obj] at h
      split at h <;> cases h
    · rw [diff?_of_leaf (by simpa using hsource)] at h
      cases h
  · rw [diff?_leaf (by simpa using hobj)] at h
    split at h <;> cases h
    exact htarget

/-- There is no patch between equal documents, and between no others. -/
theorem diff?_eq_none_iff {source target : Json} (hsource : source.Describable)
    (htarget : target.Describable) : diff? source target = none ↔ source = target := by
  induction target using induction_members generalizing source with
  | leaf target hleaf =>
    rw [diff?_leaf hleaf]
    by_cases heq : source = target <;> simp [heq]
  | object new ih =>
    by_cases hobj : ∃ members, source = .obj members
    · obtain ⟨old, rfl⟩ := hobj
      have hkeys : ∀ key, memberPatch (Entries.get? key old) (Entries.get? key new) = none ↔
          Entries.get? key old = Entries.get? key new := by
        intro key
        cases hold : Entries.get? key old with
        | none => simp [memberPatch, eq_comm]
        | some was =>
          cases hnew : Entries.get? key new with
          | none => simp [memberPatch]
          | some is =>
            simpa [memberPatch] using ih _ (Entries.mem_of_get? hnew) (hsource.member hold)
              (htarget.member hnew)
      have hnil : diff? (.obj old) (.obj new) = none ↔ changes old new = [] := by
        rw [diff?_obj]
        by_cases hchanges : changes old new = [] <;> simp [hchanges]
      rw [hnil]
      constructor
      · intro hchanges
        congr 1
        refine Entries.eq_of_get?_eq hsource.sorted htarget.sorted fun key => (hkeys key).mp ?_
        rw [← get?_changes htarget.sorted, hchanges, Entries.get?_nil]
      · intro heq
        obtain rfl : old = new := by simpa using heq
        refine Entries.eq_nil_of_get?_eq_none fun key => ?_
        rw [get?_changes htarget.sorted]
        exact (hkeys key).mpr rfl
    · have hleaf : ∀ members, source ≠ .obj members := by simpa using hobj
      simp [diff?_of_leaf hleaf, hleaf new]

/-- Carrying out what a patch says of a member gives the member that is wanted. -/
theorem patchedMember_memberPatch {old new : Option Json}
    (hwanted : ∀ is, new = some is → is.Describable)
    (hkept : ∀ was is, old = some was → new = some is → diff? was is = none → was = is)
    (hchanged : ∀ was is patch, old = some was → new = some is → diff? was is = some patch →
      applyMergePatch was patch = is) :
    patchedMember old (memberPatch old new) = new := by
  cases old with
  | none =>
    cases new with
    | none => rfl
    | some is =>
      have his : is.Describable := hwanted is rfl
      rw [memberPatch, patchedMember_some his.ne_null, Option.getD_none,
        applyMergePatch_self (by simp) his]
  | some was =>
    cases new with
    | none => rfl
    | some is =>
      rw [memberPatch]
      cases hdiff : diff? was is with
      | none => rw [patchedMember, hkept was is rfl rfl hdiff]
      | some patch =>
        have hne : patch ≠ .null := ne_null_of_diff? (hwanted is rfl).ne_null hdiff
        rw [patchedMember_some hne, Option.getD_some, hchanged was is patch rfl rfl hdiff]

/-- **Carrying out the patch between two documents gives the second one.** -/
theorem applyMergePatch_diff? {source target patch : Json} (hsource : source.Describable)
    (htarget : target.Describable) (h : diff? source target = some patch) :
    applyMergePatch source patch = target := by
  induction target using induction_members generalizing source patch with
  | leaf target hleaf =>
    rw [diff?_leaf hleaf] at h
    split at h <;> cases h
    exact applyMergePatch_leaf hleaf source
  | object new ih =>
    by_cases hobj : ∃ members, source = .obj members
    · obtain ⟨old, rfl⟩ := hobj
      rw [diff?_obj] at h
      split at h <;> cases h
      rw [applyMergePatch]
      congr 1
      refine Entries.eq_of_get?_eq (sorted_applyMembers hsource.sorted _) htarget.sorted
        fun key => ?_
      rw [get?_applyMembers (sorted_changes ..), get?_changes htarget.sorted]
      refine patchedMember_memberPatch ?_ ?_ ?_
      · intro is hnew
        exact htarget.member hnew
      · intro was is hold hnew
        exact (diff?_eq_none_iff (hsource.member hold) (htarget.member hnew)).mp
      · intro was is patch hold hnew hdiff
        exact ih _ (Entries.mem_of_get? hnew) (hsource.member hold) (htarget.member hnew) hdiff
    · have hleaf : ∀ members, source ≠ .obj members := by simpa using hobj
      rw [diff?_of_leaf hleaf] at h
      cases h
      exact applyMergePatch_self hleaf htarget

/-- What a patch can say of a member: that it is new, that it has changed, or that it is gone. -/
theorem get?_of_diff? {source target patch change : Json} {key : String}
    (htarget : target.Describable) (h : diff? source target = some patch)
    (hchange : patch.get? key = some change) :
    (source.get? key = none ∧ target.get? key = some change) ∨
    (∃ was is, source.get? key = some was ∧ target.get? key = some is ∧
      diff? was is = some change) ∨
    (∃ was, source.get? key = some was ∧ target.get? key = none ∧ change = .null) := by
  by_cases htargetObj : ∃ members, target = .obj members
  · obtain ⟨new, rfl⟩ := htargetObj
    by_cases hsourceObj : ∃ members, source = .obj members
    · obtain ⟨old, rfl⟩ := hsourceObj
      rw [diff?_obj] at h
      split at h <;> cases h
      simp only [get?] at hchange ⊢
      rw [get?_changes htarget.sorted] at hchange
      cases hold : Entries.get? key old with
      | none => simp_all [memberPatch]
      | some was => cases hnew : Entries.get? key new <;> simp_all [memberPatch]
    · have hleaf : ∀ members, source ≠ .obj members := by simpa using hsourceObj
      rw [diff?_of_leaf hleaf] at h
      cases h
      refine .inl ⟨?_, hchange⟩
      cases source with
      | obj members => exact absurd rfl (hleaf members)
      | _ => rfl
  · have hleaf : ∀ members, target ≠ .obj members := by simpa using htargetObj
    rw [diff?_leaf hleaf] at h
    split at h <;> cases h
    cases target with
    | obj members => exact absurd rfl (hleaf members)
    | _ => cases hchange

/-- A patch says nothing about a member that is the same on both sides, at whatever depth. -/
theorem path?_ne_of_diff? {source target patch value : Json} {key : String} {path : List String}
    (hsource : source.Describable) (htarget : target.Describable)
    (h : diff? source target = some patch) (hvalue : patch.path? (key :: path) = some value) :
    source.path? (key :: path) ≠ target.path? (key :: path) := by
  induction path generalizing key source target patch with
  | nil =>
    simp only [path?, Option.bind_eq_some_iff, Option.some.injEq, exists_eq_right] at hvalue
    obtain ⟨hold, hnew⟩ | ⟨was, is, hold, hnew, hdiff⟩ | ⟨was, hold, hnew, -⟩ :=
      get?_of_diff? htarget h hvalue
    · simp [path?, hold, hnew]
    · have hne : was ≠ is := by
        rintro rfl
        have hwas : was.Describable := hsource.of_get? hold
        rw [(diff?_eq_none_iff hwas hwas).mpr rfl] at hdiff
        cases hdiff
      simpa [path?, hold, hnew] using hne
    · simp [path?, hold, hnew]
  | cons other rest ih =>
    rw [path?, Option.bind_eq_some_iff] at hvalue
    obtain ⟨change, hchange, hvalue⟩ := hvalue
    obtain ⟨hold, hnew⟩ | ⟨was, is, hold, hnew, hdiff⟩ | ⟨was, -, -, rfl⟩ :=
      get?_of_diff? htarget h hchange
    · rw [path?, path?, hold, hnew, Option.bind_none, Option.bind_some, hvalue]
      simp
    · rw [path?, path?, hold, hnew, Option.bind_some, Option.bind_some]
      exact ih (hsource.of_get? hold) (htarget.of_get? hnew) hdiff hvalue
    · -- Inside of `null` there is nothing.
      cases hvalue

/-! ## The patch of an object -/

section Object

variable {old : List (String × Json)} {target : Json}

/-- The patch of an object makes it the document that is wanted. -/
theorem applyMergePatch_mergePatch (hsource : (Json.obj old).Describable)
    (htarget : target.Describable) :
    applyMergePatch (.obj old) (mergePatch (.obj old) target) = target := by
  rw [mergePatch]
  cases hdiff : diff? (.obj old) target with
  | none =>
    rw [← (diff?_eq_none_iff hsource htarget).mp hdiff]
    simp [applyMergePatch, applyMembers]
  | some patch => exact applyMergePatch_diff? hsource htarget hdiff

/-- The patch is empty exactly if there is nothing to change. -/
theorem mergePatch_eq_empty_iff (hsource : (Json.obj old).Describable)
    (htarget : target.Describable) :
    mergePatch (.obj old) target = .obj [] ↔ Json.obj old = target := by
  rw [← diff?_eq_none_iff hsource htarget, mergePatch]
  cases hdiff : diff? (.obj old) target with
  | none => simp
  | some patch =>
    have hne : patch ≠ .obj [] := by
      rintro rfl
      by_cases hobj : ∃ new, target = .obj new
      · obtain ⟨new, rfl⟩ := hobj
        rw [diff?_obj] at hdiff
        split at hdiff <;> simp_all
      · rw [diff?_leaf (by simpa using hobj)] at hdiff
        split at hdiff <;> simp_all
    simpa using hne

/-- The patch says nothing about a member that is the same on both sides. -/
theorem path?_mergePatch_eq_none (hsource : (Json.obj old).Describable)
    (htarget : target.Describable) {key : String} {path : List String}
    (hsame : (Json.obj old).path? (key :: path) = target.path? (key :: path)) :
    (mergePatch (.obj old) target).path? (key :: path) = none := by
  rw [mergePatch]
  cases hdiff : diff? (.obj old) target with
  | none => rfl
  | some patch =>
    refine Option.eq_none_iff_forall_ne_some.mpr fun value hvalue => ?_
    exact path?_ne_of_diff? hsource htarget hdiff hvalue hsame

end Object

end EtcdRoster.Json
