import EtcdRoster.Proofs.Conditions
import EtcdRoster.Proofs.Rehearsal.Circumstances

/-!
# What a report leaves

With a status store that works, a report writes the condition of the operator only if it says
something new, and gives the result back as it was: `World.hold_report`. The same report at any
later time writes nothing: `StatusStore.reported_reported`.
-/

namespace EtcdRoster.Rehearsal

open Reconcile (Ask Outcome)

namespace StatusStore

/-- The store after a condition has been set that may already say so. -/
def noted (s : StatusStore) (degraded : Bool) (reason message now : String) : StatusStore :=
  let updated := Conditions.update s.conditions Names.degraded (Conditions.statusOf degraded) reason
    message now
  if Conditions.equal s.conditions updated then s
  else { s with conditions := updated, writes := s.writes + 1 }

/-- The store after the result of a sync has been reported. -/
def reported (s : StatusStore) (result : Except SyncError Unit) (now : String) : StatusStore :=
  match result with
  | .error e => s.noted true Names.errorReason e.message now
  | .ok _ => s.noted false Names.updatedReason "" now

variable {s : StatusStore}

/-- A condition that says so already is not written again, whatever the time. -/
theorem noted_eq_self {degraded : Bool} {reason message : String} {c : Condition}
    (distinct : Conditions.Distinct s.conditions)
    (hfound : Conditions.find? s.conditions Names.degraded = some c)
    (hc : Conditions.Says c (Conditions.statusOf degraded) reason message) (now : String) :
    s.noted degraded reason message now = s :=
  if_pos ((Conditions.equal_update_iff distinct).mpr ⟨c, hfound, hc⟩)

theorem noted_noted (distinct : Conditions.Distinct s.conditions) (degraded : Bool)
    (reason message now later : String) :
    (s.noted degraded reason message now).noted degraded reason message later
      = s.noted degraded reason message now := by
  rw [noted.eq_def s]
  dsimp only
  split
  · rename_i hequal
    obtain ⟨c, hfound, hc⟩ := (Conditions.equal_update_iff distinct).mp hequal
    exact noted_eq_self distinct hfound hc later
  · exact noted_eq_self distinct.update Conditions.find?_update (Conditions.says_updated ..) later

/-- A report that is made twice is written once at most. -/
theorem reported_reported (distinct : Conditions.Distinct s.conditions)
    (result : Except SyncError Unit) (now later : String) :
    (s.reported result now).reported result later = s.reported result now := by
  cases result with
  | error e => exact noted_noted distinct ..
  | ok _ => exact noted_noted distinct ..

end StatusStore

/-- The status store can be read and written. -/
structure Circumstances.StatusWorks (c : Circumstances) : Prop where
  writable : c.statusFailing = false
  readFault : c.faults .getConditions = none
  writeFault : c.faults .updateConditions = none

namespace World

variable {w : World}

theorem hold_bind {α β : Type} (talk : Reconcile.Talk α) (next : α → Reconcile.Talk β) :
    w.hold (talk.bind next) = (w.hold talk).2.hold (next (w.hold talk).1) :=
  Dialogue.run_bind answer talk next w

theorem answer_readConditions (readable : w.faults .getConditions = none) :
    answer .readConditions w = (.ok w.status.conditions, w) := by
  rw [answer, through, readable]

theorem answer_writeConditions (work : w.circumstances.StatusWorks)
    (conditions : List Condition) :
    answer (.writeConditions conditions) w =
      (.ok (), { w with status := { w.status with
        conditions := Conditions.merge w.status.conditions conditions
        writes := w.status.writes + 1 } }) := by
  have hwritable : w.status.failing = false := work.writable
  rw [answer, through, show w.faults .updateConditions = none from work.writeFault]
  dsimp only
  rw [StatusStore.update, hwritable]
  rfl

/-- Setting the condition reads the list, and writes the condition if it says something new. -/
theorem hold_setDegraded_of_readable (readable : w.faults .getConditions = none) (degraded : Bool)
    (reason message : String) :
    w.hold (Reconcile.setDegraded degraded reason message) =
      let updated := Conditions.update w.status.conditions Names.degraded
        (Conditions.statusOf degraded) reason message w.clock
      if Conditions.equal w.status.conditions updated then (.ok (), w)
      else
        let (written, after) :=
          answer (.writeConditions (Conditions.find? updated Names.degraded).toList) w
        (written.mapError Reconcile.asStatusError, after) := by
  have hread : w.hold Reconcile.readConditions = (.ok w.status.conditions, w) :=
    answer_readConditions readable
  have hclock : w.hold Reconcile.clock = (w.clock, w) := rfl
  have hwrite : ∀ conditions, w.hold (Reconcile.writeConditions conditions)
      = answer (.writeConditions conditions) w := fun _ => rfl
  unfold Reconcile.setDegraded
  rw [Dialogue.bind_eq, hold_bind, hread]
  dsimp only
  rw [Dialogue.bind_eq, hold_bind, hclock]
  dsimp only
  split
  · rfl
  · rw [Dialogue.bind_eq, hold_bind, hwrite]
    split <;> rename_i hwritten <;> simp only [hwritten] <;> rfl

/-- Setting the condition writes it if it says something new. -/
theorem hold_setDegraded (work : w.circumstances.StatusWorks) (degraded : Bool)
    (reason message : String) :
    w.hold (Reconcile.setDegraded degraded reason message) =
      (.ok (), { w with status := w.status.noted degraded reason message w.clock }) := by
  rw [hold_setDegraded_of_readable work.readFault, StatusStore.noted]
  dsimp only
  split
  · rfl
  · rw [answer_writeConditions work, Conditions.merge_update]
    rfl

/-- A report gives the result back, and leaves the condition that tells of it. -/
theorem hold_report (work : w.circumstances.StatusWorks) (result : Except SyncError Unit) :
    w.hold (Reconcile.report result) =
      (result, { w with status := w.status.reported result w.clock }) := by
  unfold Reconcile.report StatusStore.reported
  cases result with
  | error e =>
    dsimp only
    rw [Dialogue.bind_eq, hold_bind, hold_setDegraded work]
    rfl
  | ok _ =>
    dsimp only
    rw [Dialogue.bind_eq, hold_bind, hold_setDegraded work]
    rfl

/-- A sync ends with what it came to, reported and measured. -/
theorem hold_conclude (work : w.circumstances.StatusWorks) (result : Except SyncError Outcome) :
    ∃ registry, w.hold (Reconcile.conclude result) =
      (result.map fun _ => (), { w with
        status := w.status.reported (result.map fun _ => ()) w.clock
        registry }) := by
  cases result with
  | error e =>
    have hreport := fun registry => hold_report (w := { w with registry }) work (.error e)
    exact ⟨_, hreport _⟩
  | ok outcome =>
    have hreport := fun registry => hold_report (w := { w with registry }) work (.ok ())
    exact ⟨_, hreport _⟩

end World

end EtcdRoster.Rehearsal
