import EtcdRoster.Reconcile.Collaborator
import EtcdRoster.Reconcile.Conditions

/-!
# Reporting a sync

The result of a sync becomes the `HostEndpointsDegraded` condition of the operator. It is written
only if it says something new. A failed sync keeps its error whether or not the condition could be
written; a successful sync whose condition could not be written fails with that error.
-/

namespace EtcdRoster.Reconcile

/-- An error of the status store, as a failure to write the status. -/
def asStatusError : SyncError → SyncError
  | .statusWrite reason => .statusWrite reason
  | other => .statusWrite other.message

/-- Writes the condition unless it says what it said before. -/
def setDegraded (degraded : Bool) (reason message : String) : Talk (Except SyncError Unit) := do
  match ← readConditions with
  | .error e => return .error (.statusWrite e.message)
  | .ok current =>
    let updated :=
      Conditions.update current Names.degraded (Conditions.statusOf degraded) reason message
        (← clock)
    if Conditions.equal current updated then return .ok ()
    else
      match ← writeConditions (Conditions.find? updated Names.degraded).toList with
      | .ok () => return .ok ()
      | .error e => return .error (asStatusError e)

def statusFailedEvent (e : SyncError) : Event := ⟨true, Names.statusFailedEvent, e.message⟩

/-- Reports the result of a sync and returns what the sync comes to. -/
def report (result : Except SyncError Unit) : Talk (Except SyncError Unit) := do
  match result with
  | .error e =>
    match ← setDegraded true Names.errorReason e.message with
    | .ok () => return .error e
    | .error statusError =>
      emit (statusFailedEvent statusError)
      return .error e
  | .ok () =>
    match ← setDegraded false Names.updatedReason "" with
    | .ok () => return .ok ()
    | .error statusError =>
      emit (statusFailedEvent statusError)
      return .error statusError

end EtcdRoster.Reconcile
