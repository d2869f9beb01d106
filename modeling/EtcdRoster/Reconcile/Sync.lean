import EtcdRoster.Reconcile.Apply
import EtcdRoster.Reconcile.Desired
import EtcdRoster.Reconcile.Report

/-!
# One sync

A sync computes the desired object from scratch and writes it if it differs from the published one.
It keeps nothing between two runs. The published object must exist: it is read first, because only
it knows the bootstrap entry.
-/

namespace EtcdRoster.Reconcile

/-- Makes the published object match the members of the cluster. -/
def syncEndpoints (scope : String) : ExceptT SyncError Talk Outcome := do
  let some published ← readEndpoints Names.published scope
    | throw (.preconditionNotFound Names.published scope)
  let infrastructure ← infrastructureConfig Names.cluster
  let some domain := infrastructure.discoveryDomain? | throw (.configMissing Names.cluster)
  let network ← networkConfig Names.cluster
  let nodes ← memberNodes Names.memberLabel
  let required ←
    inquire (Desired.build nodes network domain (Desired.bootstrapAddress? published) scope)
  let outcome ← apply required
  ExceptT.lift (record (.published required.firstAddresses.length))
  return outcome

/-- Runs a sync, measures it and reports it. -/
def sync (scope : String) : Talk (Except SyncError Unit) := do
  let result ← (syncEndpoints scope).run
  let took ← elapsed
  match result with
  | .ok _ =>
    record (.succeeded took)
    report (.ok ())
  | .error e =>
    record (.failed took)
    record (.error e.label)
    report (.error e)

end EtcdRoster.Reconcile
