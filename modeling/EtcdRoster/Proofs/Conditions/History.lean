import EtcdRoster.Proofs.Conditions

/-!
# Conditions over a history

Notices about conditions are entered into a list one after the other, each at its own time. The
condition of a type depends on the notices about this type alone (`find?_enterAll`).

* `types_enterAll` — types keep their places, and new ones follow in the order of their first
  notice.
* `since` — the time at which a type took its status, told by the history of its notices alone.
* `remembers_enterAll` — **a list that tells types apart remembers its history**: what the last
  notice about a type said, and since when its status has been what it is.
-/

namespace EtcdRoster.Conditions

/-! ## Notices -/

/-- A notice about the condition of a type, and the time at which it is entered. -/
structure Notice where
  type : String
  status : String
  reason : String
  message : String
  time : String

namespace Notice

def enter (conditions : List Condition) (n : Notice) : List Condition :=
  update conditions n.type n.status n.reason n.message n.time

/-- What a notice makes of the condition of its type. -/
def applied (n : Notice) : Option Condition → Condition
  | some c => change c n.status n.reason n.message n.time
  | none => create n.type n.status n.reason n.message n.time

end Notice

/-- Enters notices one after the other. -/
def enterAll (conditions : List Condition) (notices : List Notice) : List Condition :=
  notices.foldl Notice.enter conditions

theorem enterAll_cons (before : List Condition) (n : Notice) (rest : List Notice) :
    enterAll before (n :: rest) = enterAll (n.enter before) rest := rfl

/-- The notices about a type. -/
def about (type : String) (notices : List Notice) : List Notice := notices.filter (·.type == type)

/-- The notices of a row that change the status. The first one does if there has been none. -/
def changes (status : Option String) : List Notice → List Notice
  | [] => []
  | n :: rest =>
    if status = some n.status then changes status rest else n :: changes (some n.status) rest

/-- The time at which a type took its status: that of the notice that changed it last, or else the
time recorded before, or else that of the first notice. -/
def since (before : List Condition) (notices : List Notice) (type : String) : Option String :=
  let original := find? before type
  ((changes (original.map (·.status)) (about type notices)).getLast?.map (·.time)).or
    ((original.bind (·.lastTransitionTime)).or ((about type notices).head?.map (·.time)))

/-- A row of types with the new ones behind it, in the order in which they first occur. -/
def withNew (types added : List String) : List String :=
  types ++ (added.filter fun type => type ∉ types).eraseDups

/-- What a list of conditions remembers of the notices that have been entered into it. -/
structure Remembers (before : List Condition) (notices : List Notice) (after : List Condition) :
    Prop where
  distinct : Distinct after
  types : after.map (·.type) = withNew (before.map (·.type)) (notices.map (·.type))
  untouched : ∀ (i : Nat) (c : Condition), before[i]? = some c → about c.type notices = [] →
    after[i]? = some c
  updated : ∀ type n, (about type notices).getLast? = some n → ∃ c ∈ after, c.type = type ∧
    Says c n.status n.reason n.message ∧ c.lastTransitionTime = since before notices type

variable {before : List Condition} {notices : List Notice} {type : String}

/-! ## Types and places -/

/-- The first of some types goes to the end if it is new. -/
theorem withNew_cons (types : List String) (type : String) (added : List String) :
    withNew types (type :: added)
      = withNew (if type ∈ types then types else types ++ [type]) added := by
  unfold withNew
  by_cases hold : type ∈ types
  · rw [if_pos hold, List.filter_cons_of_neg (by simpa using hold)]
  · rw [if_neg hold, List.filter_cons_of_pos (by simpa using hold), List.eraseDups_cons,
      List.filter_filter, List.append_assoc, List.singleton_append]
    congr 4
    funext other
    rw [Bool.eq_iff_iff]
    simp [and_comm]

theorem types_enterAll (before : List Condition) (notices : List Notice) :
    (enterAll before notices).map (·.type)
      = withNew (before.map (·.type)) (notices.map (·.type)) := by
  induction notices generalizing before with
  | nil => exact (List.append_nil _).symm
  | cons n rest ih =>
    rw [enterAll_cons, ih, List.map_cons, withNew_cons]
    exact congrArg (withNew · _) (types_update ..)

theorem Distinct.enterAll (h : Distinct before) (notices : List Notice) :
    Distinct (enterAll before notices) := by
  induction notices generalizing before with
  | nil => exact h
  | cons n rest ih => exact ih h.update

/-! ## One type -/

theorem about_cons (type : String) (n : Notice) (rest : List Notice) :
    about type (n :: rest) = if n.type = type then n :: about type rest else about type rest := by
  by_cases h : n.type = type <;> simp [about, h]

/-- A condition after a row of notices about it. -/
def appliedAll (found : Option Condition) (row : List Notice) : Option Condition :=
  row.foldl (fun found n => some (n.applied found)) found

theorem appliedAll_cons (found : Option Condition) (n : Notice) (rest : List Notice) :
    appliedAll found (n :: rest) = appliedAll (some (n.applied found)) rest := rfl

/-- The condition of a type depends on the notices about this type alone. -/
theorem find?_enterAll (before : List Condition) (notices : List Notice) (type : String) :
    find? (enterAll before notices) type
      = appliedAll (find? before type) (about type notices) := by
  induction notices generalizing before with
  | nil => rfl
  | cons n rest ih =>
    rw [enterAll_cons, ih, about_cons]
    by_cases h : n.type = type
    · subst h
      have hfound : find? (n.enter before) n.type = some (n.applied (find? before n.type)) := by
        rw [Notice.enter, find?_update, updated]
        cases find? before n.type <;> rfl
      rw [if_pos rfl, hfound, appliedAll_cons]
    · rw [if_neg h, Notice.enter, find?_update_of_ne (Ne.symm h)]

/-- The last notice of a row says what the condition says. -/
theorem says_appliedAll (found : Option Condition) {row : List Notice} {n : Notice}
    (h : row.getLast? = some n) :
    ∃ c, appliedAll found row = some c ∧ Says c n.status n.reason n.message := by
  obtain ⟨earlier, rfl⟩ := List.getLast?_eq_some_iff.mp h
  refine ⟨n.applied (appliedAll found earlier), ?_, ?_⟩
  · rw [appliedAll, List.foldl_append]
    rfl
  · cases appliedAll found earlier <;> exact ⟨rfl, rfl, rfl⟩

/-- One notice changes the status and dates it, or leaves the time that there is. -/
theorem time_applied (n : Notice) (found : Option Condition) :
    (n.applied found).lastTransitionTime =
      if found.map (·.status) = some n.status then
        (found.bind (·.lastTransitionTime)).or (some n.time)
      else some n.time := by
  cases found with
  | none => rfl
  | some c =>
    by_cases h : c.status = n.status
    · simp [Notice.applied, change, h]
    · simp [Notice.applied, change, h]

/-- The time that a condition carries after a row of notices about it. -/
theorem time_appliedAll (found : Option Condition) (row : List Notice) :
    (appliedAll found row).bind (·.lastTransitionTime) =
      ((changes (found.map (·.status)) row).getLast?.map (·.time)).or
        ((found.bind (·.lastTransitionTime)).or (row.head?.map (·.time))) := by
  induction row generalizing found with
  | nil => simp [appliedAll, changes]
  | cons n rest ih =>
    have hstatus : (n.applied found).status = n.status := by cases found <;> rfl
    rw [appliedAll_cons, ih, changes, Option.map_some, hstatus, Option.bind_some, time_applied,
      List.head?_cons, Option.map_some]
    by_cases hsame : found.map (·.status) = some n.status
    · rw [if_pos hsame, if_pos hsame, hsame, Option.or_assoc, Option.some_or]
    · rw [if_neg hsame, if_neg hsame, List.getLast?_cons]
      cases (changes (some n.status) rest).getLast? <;> rfl

/-! ## The whole list -/

/-- A condition about which there was no notice stands where it stood. -/
theorem getElem?_enterAll (distinct : Distinct before) {i : Nat} {c : Condition}
    (hc : before[i]? = some c) (hnone : about c.type notices = []) :
    (enterAll before notices)[i]? = some c := by
  have hi : i < (before.map (·.type)).length := by
    rw [List.length_map]
    exact (List.getElem?_eq_some_iff.mp hc).1
  have hplace : ((enterAll before notices)[i]?).map (·.type) = some c.type := by
    rw [← List.getElem?_map, types_enterAll, withNew, List.getElem?_append_left hi,
      List.getElem?_map, hc, Option.map_some]
  obtain ⟨d, hd, htype⟩ := Option.map_eq_some_iff.mp hplace
  have hfound : find? (enterAll before notices) d.type = some c := by
    rw [find?_enterAll, htype, hnone, distinct.find?_eq_some (List.mem_of_getElem? hc)]
    rfl
  rw [hd, ← hfound, (distinct.enterAll notices).find?_eq_some (List.mem_of_getElem? hd)]

/-- **A list that tells types apart remembers its history.** After any row of notices no two
conditions have one type, the conditions that were there keep their places, and new types follow in
the order of their first notice. Where there was no notice a condition is as it was. Any other one
says what the last notice about it said and carries the time at which its status last changed; if it
never did, the time recorded before, or that of the first notice about it if there was none. -/
theorem remembers_enterAll (distinct : Distinct before) (notices : List Notice) :
    Remembers before notices (enterAll before notices) := by
  refine ⟨distinct.enterAll notices, types_enterAll before notices, ?untouched, ?updated⟩
  case untouched => exact fun i c hc hnone => getElem?_enterAll distinct hc hnone
  case updated =>
    intro type n hlast
    obtain ⟨c, hc, hsays⟩ := says_appliedAll (find? before type) hlast
    rw [← find?_enterAll] at hc
    refine ⟨c, List.mem_of_find?_eq_some hc, type_of_find? hc, hsays, ?_⟩
    have htime := time_appliedAll (find? before type) (about type notices)
    rwa [← find?_enterAll, hc] at htime

def morning : List Condition :=
  [{ type := "Available", status := "True", lastTransitionTime := some "07:00" },
    { type := "Degraded", status := "False" }]

/-- A type is noticed for the first time, and another one turns and turns back. -/
def shift : List Notice :=
  [⟨"Progressing", "True", "Rollout", "1 of 3", "08:00"⟩,
    ⟨"Degraded", "False", "AsExpected", "", "09:00"⟩,
    ⟨"Degraded", "True", "MemberDown", "etcd-1", "10:00"⟩,
    ⟨"Progressing", "True", "Rollout", "2 of 3", "11:00"⟩,
    ⟨"Degraded", "False", "AsExpected", "", "12:00"⟩,
    ⟨"Degraded", "False", "AsExpected", "all members", "13:00"⟩]

def evening : List Condition :=
  [{ type := "Available", status := "True", lastTransitionTime := some "07:00" },
    create "Degraded" "False" "AsExpected" "all members" "12:00",
    create "Progressing" "True" "Rollout" "2 of 3" "08:00"]

theorem morning_remembers_shift :
    Distinct morning ∧ enterAll morning shift = evening ∧ Remembers morning shift evening ∧
    since morning shift "Degraded" = some "12:00" ∧
    since morning (shift.take 2) "Degraded" = some "09:00" := by
  have distinct : Distinct morning := by decide +kernel
  have hafter : enterAll morning shift = evening := by decide +kernel
  refine ⟨distinct, hafter, ?_, by decide +kernel, by decide +kernel⟩
  rw [← hafter]
  exact remembers_enterAll distinct shift

end EtcdRoster.Conditions
