import EtcdRoster.Json.Printer
import EtcdRoster.Names
import EtcdRoster.Reconcile.Collaborator
import EtcdRoster.Reconcile.Difference

/-!
# Writing the published object

The published object is read, compared with the desired one and replaced only if it differs. The
replacement carries the version that was read, so when somebody else writes in between it meets a
conflict. Nothing is tried again here: the whole sync is.
-/

namespace EtcdRoster.Reconcile

/-- What applying the desired object came to. -/
inductive Outcome
  | created
  | updated
  | unchanged
deriving DecidableEq, Inhabited, Repr

def Outcome.label : Outcome → String
  | created => "created"
  | updated => "updated"
  | unchanged => "unchanged"

/-- How messages name the published object. -/
def describe (name scope : String) : String := "endpoints/" ++ name ++ " -n " ++ scope

def createdEvent (name scope : String) : Event :=
  ⟨true, Names.createdEvent, "Created " ++ describe name scope ++ " because it was missing"⟩

def createFailedEvent (name scope : String) (e : SyncError) : Event :=
  ⟨true, Names.createFailedEvent, "Failed to create " ++ describe name scope ++ ": " ++ e.message⟩

def updatedEvent (name scope : String) (patch : Json) : Event :=
  ⟨false, Names.updatedEvent,
    "Updated " ++ describe name scope ++ " because it changed: " ++ patch.print⟩

def updateFailedEvent (name scope : String) (e : SyncError) : Event :=
  ⟨true, Names.updateFailedEvent, "Failed to update " ++ describe name scope ++ ": " ++ e.message⟩

/-- Creates the object, which nobody has published yet. -/
def create (name scope : String) (required : Endpoints) : Talk (Except SyncError Outcome) := do
  match ← createEndpoints required with
  | .ok () =>
    emit (createdEvent name scope)
    record (.write Outcome.created.label)
    return .ok .created
  | .error e =>
    emit (createFailedEvent name scope e)
    return .error e

/-- Replaces the object by the one to write. -/
def replace (name scope : String) (existing written : Endpoints) :
    Talk (Except SyncError Outcome) := do
  match ← replaceEndpoints written with
  | .ok () =>
    emit (updatedEvent name scope (Difference.patch existing written))
    record (.write Outcome.updated.label)
    return .ok .updated
  | .error e =>
    emit (updateFailedEvent name scope e)
    return .error e

/-- Makes the published object match the desired one. -/
def apply (required : Endpoints) : ExceptT SyncError Talk Outcome := do
  let name := required.metadata.nameOrGenerated
  let scope := required.metadata.namespace.getD ""
  match ← readEndpoints name scope with
  | none => checked (create name scope required)
  | some existing =>
    let (written, changed) := Difference.reconcile existing required
    if changed then checked (replace name scope existing written)
    else return .unchanged

end EtcdRoster.Reconcile
