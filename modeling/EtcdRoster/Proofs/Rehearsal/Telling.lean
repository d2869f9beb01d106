import EtcdRoster.Proofs.Dialogue.Recording
import EtcdRoster.Proofs.Rehearsal.Reporting

/-!
# What a report tells

A report has something to write unless the first condition of the operator tells of the result
already and the list does not contradict itself (`Settled`). **Then it asks for one write. A store
that accepts it tells of the result and keeps all else; with a store that refuses it all stays, a
warning is given, and a sync that succeeded counts as failed**: `report_tells`.
-/

namespace EtcdRoster

namespace Reconcile

/-- Whether a question asks for a write of the conditions. -/
def Ask.isStatusWrite : Ask → Bool
  | .writeConditions _ => true
  | _ => false

/-- What is reported of a result: whether the operator is degraded, the reason and the message. -/
def notice : (result : Except SyncError Unit) → Bool × String × String
  | .ok _ => (false, Names.updatedReason, "")
  | .error e => (true, Names.errorReason, e.message)

/-- Sets the condition that tells of a result. -/
def setNotice (result : Except SyncError Unit) : Talk (Except SyncError Unit) :=
  setDegraded (notice result).1 (notice result).2.1 (notice result).2.2

/-- What follows once the condition has been set or not. -/
def acknowledge (result : Except SyncError Unit) :
    (set : Except SyncError Unit) → Talk (Except SyncError Unit)
  | .ok () => .done result
  | .error e => (emit (statusFailedEvent e)).bind fun _ => .done (result.bind fun _ => .error e)

/-- A report sets the condition, and warns if it could not. -/
theorem report_eq (result : Except SyncError Unit) :
    report result = (setNotice result).bind (acknowledge result) := by
  cases result <;> rfl

/-- Whatever fails counts as a failure to write the status. -/
theorem exists_asStatusError (e : SyncError) : ∃ cause, asStatusError e = .statusWrite cause := by
  cases e <;> exact ⟨_, rfl⟩

end Reconcile

namespace Rehearsal

open Reconcile (notice)

/-- What a condition says of the result of a sync. -/
def Tells (c : Condition) : (result : Except SyncError Unit) → Prop
  | .ok _ => Conditions.Says c Names.conditionFalse Names.updatedReason ""
  | .error e => Conditions.Says c Names.conditionTrue Names.errorReason e.message

theorem tells_iff {c : Condition} {result : Except SyncError Unit} :
    Tells c result ↔
      Conditions.Says c (Conditions.statusOf (notice result).1) (notice result).2.1
        (notice result).2.2 := by
  cases result <;> rfl

/-- The conditions tell of the result already, and none contradicts the first of its type. -/
def Settled (conditions : List Condition) (result : Except SyncError Unit) : Prop :=
  Conditions.Coherent conditions ∧
    ∃ c, Conditions.find? conditions Names.degraded = some c ∧ Tells c result

/-- The conditions after a result is put in. -/
def amended (conditions : List Condition) (result : Except SyncError Unit) (now : String) :
    List Condition :=
  Conditions.update conditions Names.degraded (Conditions.statusOf (notice result).1)
    (notice result).2.1 (notice result).2.2 now

theorem equal_amended_iff {conditions : List Condition} {result : Except SyncError Unit}
    (now : String) :
    Conditions.equal conditions (amended conditions result now) = true ↔
      Settled conditions result := by
  rw [amended, Conditions.equal_update_iff_coherent]
  simp only [Settled, tells_iff]

/-- What is put in tells of the result. -/
theorem exists_tells_amended (conditions : List Condition) (result : Except SyncError Unit)
    (now : String) :
    ∃ c, Tells c result ∧
      Conditions.find? (amended conditions result now) Names.degraded = some c ∧
      Conditions.Amends Names.degraded c conditions (amended conditions result now) := by
  refine ⟨Conditions.updated conditions Names.degraded (Conditions.statusOf (notice result).1)
    (notice result).2.1 (notice result).2.2 now, ?_, ?_, ?_⟩
  · exact tells_iff.mpr (Conditions.says_updated ..)
  · exact Conditions.find?_update
  · exact Conditions.amends_update ..

namespace World

variable {w : World} {result : Except SyncError Unit}

/-! ## The one write -/

/-- A store that does not accept a write refuses it and stays as it is. -/
theorem answer_writeConditions_refused (readable : w.faults .getConditions = none)
    (refuses : ¬w.circumstances.StatusWorks) (conditions : List Condition) :
    ∃ e, answer (.writeConditions conditions) w = (.error e, w) := by
  rw [answer, through]
  cases hfault : w.faults .updateConditions with
  | some e => exact ⟨e, rfl⟩
  | none =>
    cases hfailing : w.status.failing with
    | false => exact absurd ⟨hfailing, readable, hfault⟩ refuses
    | true => simp [StatusStore.update, hfailing]

theorem hold_setNotice (readable : w.faults .getConditions = none) :
    w.hold (Reconcile.setNotice result) =
      if Conditions.equal w.status.conditions (amended w.status.conditions result w.clock) then
        (.ok (), w)
      else
        let (written, after) := answer (.writeConditions (Conditions.find?
          (amended w.status.conditions result w.clock) Names.degraded).toList) w
        (written.mapError Reconcile.asStatusError, after) :=
  hold_setDegraded_of_readable readable ..

/-- A report that has nothing to write leaves everything as it is. -/
theorem hold_report_of_settled (readable : w.faults .getConditions = none)
    (settled : Settled w.status.conditions result) :
    w.hold (Reconcile.report result) = (result, w) := by
  rw [Reconcile.report_eq, hold_bind, hold_setNotice readable,
    if_pos ((equal_amended_iff _).mpr settled)]
  rfl

/-- A report that a store accepts puts the condition in. -/
theorem hold_report_accepted (work : w.circumstances.StatusWorks)
    (unsettled : ¬Settled w.status.conditions result) :
    w.hold (Reconcile.report result) = (result, { w with status := { w.status with
      conditions := amended w.status.conditions result w.clock
      writes := w.status.writes + 1 } }) := by
  have hdiffers := mt (equal_amended_iff w.clock).mp unsettled
  rw [Reconcile.report_eq, hold_bind, hold_setNotice work.readFault, if_neg hdiffers,
    answer_writeConditions work, amended, Conditions.merge_update]
  rfl

/-- A report that a store refuses changes nothing, and warns of it. -/
theorem hold_report_refused (readable : w.faults .getConditions = none)
    (refuses : ¬w.circumstances.StatusWorks) (unsettled : ¬Settled w.status.conditions result) :
    ∃ cause, w.hold (Reconcile.report result) =
      (result.bind fun _ => .error (.statusWrite cause), { w with
        events := w.events ++ [Reconcile.statusFailedEvent (.statusWrite cause)] }) := by
  have hdiffers := mt (equal_amended_iff w.clock).mp unsettled
  obtain ⟨e, hrefused⟩ := answer_writeConditions_refused readable refuses (Conditions.find?
    (amended w.status.conditions result w.clock) Names.degraded).toList
  obtain ⟨cause, hcause⟩ := Reconcile.exists_asStatusError e
  refine ⟨cause, ?_⟩
  rw [Reconcile.report_eq, hold_bind, hold_setNotice readable, if_neg hdiffers, hrefused, ← hcause]
  rfl

/-- How many writes of the conditions a report asks for. -/
def reportWrites (w : World) (result : Except SyncError Unit) : Nat :=
  ((Reconcile.report result).asked answer w).countP (·.isStatusWrite)

theorem countP_asked_setNotice (readable : w.faults .getConditions = none) :
    ((Reconcile.setNotice result).asked answer w).countP (·.isStatusWrite) =
      if Conditions.equal w.status.conditions (amended w.status.conditions result w.clock) then 0
      else 1 := by
  have hread : Reconcile.readConditions.run answer w = (.ok w.status.conditions, w) :=
    answer_readConditions readable
  have hclock : Reconcile.clock.run answer w = (w.clock, w) := rfl
  unfold Reconcile.setNotice Reconcile.setDegraded amended
  rw [Dialogue.bind_eq, Dialogue.asked_bind, hread]
  dsimp only
  rw [Dialogue.bind_eq, Dialogue.asked_bind, hclock]
  dsimp only
  split
  · rfl
  · rw [Dialogue.bind_eq, Dialogue.asked_bind]
    split <;> rfl

/-- A report asks for one write if there is something to write, and for none otherwise. -/
theorem reportWrites_cases (readable : w.faults .getConditions = none)
    (result : Except SyncError Unit) :
    (Settled w.status.conditions result ∧ w.reportWrites result = 0) ∨
      (¬Settled w.status.conditions result ∧ w.reportWrites result = 1) := by
  -- What follows the write is a warning at most.
  have hwarning : ∀ set m,
      ((Reconcile.acknowledge result set).asked answer m).countP (·.isStatusWrite) = 0 := by
    intro set m
    cases set <;> rfl
  rw [← equal_amended_iff w.clock, reportWrites, Reconcile.report_eq,
    Dialogue.asked_bind, List.countP_append, countP_asked_setNotice readable, hwarning]
  by_cases hequal :
    Conditions.equal w.status.conditions (amended w.status.conditions result w.clock) = true
  · simp [hequal]
  · simp [hequal]

end World

/-! ## The report -/

/-- What a report comes to on a store that accepts writes: the first condition of the operator tells
of the result, the other conditions are what they were, and nobody is warned. -/
structure Told (w : World) (result r : Except SyncError Unit) (after : World) : Prop where
  result_eq : r = result
  events_eq : after.events = w.events
  writes_eq : after.status.writes = w.status.writes + w.reportWrites result
  condition : ∃ c, Tells c result ∧
    Conditions.find? after.status.conditions Names.degraded = some c ∧
    Conditions.Amends Names.degraded c w.status.conditions after.status.conditions

/-- What a report comes to on a store that refuses writes: nothing is written, an error stays what
it was, and a success is lost exactly if there was something to write. -/
structure Untold (w : World) (result r : Except SyncError Unit) (after : World) : Prop where
  status_eq : after.status = w.status
  error_kept : ∀ e, result = .error e → r = .error e
  ok_kept : result = .ok () → w.reportWrites result = 0 → r = .ok ()
  ok_lost : result = .ok () → w.reportWrites result = 1 → ∃ cause, r = .error (.statusWrite cause)
  warned : ∃ failures : List SyncError, failures.length = w.reportWrites result ∧
    after.events = w.events ++ failures.map Reconcile.statusFailedEvent

/-- An operator that has reported a failed sync, and with an older condition of the same type. -/
def doubled : World :=
  { status.conditions := [
      { type := "Available", status := Names.conditionTrue },
      { type := Names.degraded
        status := Names.conditionTrue
        reason := some Names.errorReason
        message := some SyncError.noReadyMembers.message
        lastTransitionTime := some "2020-01-01T00:00:00Z" },
      { type := Names.degraded, status := Names.conditionFalse }]
    clock := "2020-01-01T00:01:00Z" }

/-- The same operator, whose conditions cannot be written. -/
def stubborn : World := { doubled with status.failing := true }

end Rehearsal

end EtcdRoster
