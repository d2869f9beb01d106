/-!
# Why a sync fails

Every cause can be cured by trying again: a sync starts from the current state each time. A cause
has a message for people and a label for metrics.
-/

namespace EtcdRoster

/-- The causes that end a sync. -/
inductive SyncError
  /-- The infrastructure object carries no discovery domain. -/
  | configMissing (name : String)
  /-- A node has no internal address of the preferred family. -/
  | topologyIncomplete (node reason : String)
  /-- A service query or the lookup of one of its targets failed. -/
  | dnsFailure (query reason : String)
  /-- No target of the query resolves to the address of the node. -/
  | selfNotFound (query ip : String)
  /-- There is no address to publish. -/
  | noReadyMembers
  /-- The published object is made during bootstrap and does not exist yet. -/
  | preconditionNotFound (name scope : String)
  | storeRead (resource reason : String)
  | storeWrite (resource reason : String)
  /-- The object changed between the read and the write. -/
  | conflict (resource reason : String)
  | statusWrite (reason : String)
deriving DecidableEq, Inhabited, Repr

namespace SyncError

def message : SyncError → String
  | configMissing name =>
    "infrastructures.config.openshift.io/" ++ name ++ " missing .status.etcdDiscoveryDomain"
  | topologyIncomplete node reason =>
    "unable to determine internal ip address for node " ++ node ++ ": " ++ reason
  | dnsFailure query reason => "could not resolve " ++ query ++ ": " ++ reason
  | selfNotFound query ip =>
    "could not find self: no target of " ++ query ++ " resolves to " ++ ip
  | noReadyMembers => "no etcd member nodes are ready"
  | preconditionNotFound name scope => "endpoints/" ++ name ++ " -n " ++ scope ++ " does not exist"
  | storeRead resource reason => "failed to read " ++ resource ++ ": " ++ reason
  | storeWrite resource reason => "failed to write " ++ resource ++ ": " ++ reason
  | conflict resource reason => "conflict writing " ++ resource ++ ": " ++ reason
  | statusWrite reason => "failed to update operator status: " ++ reason

/-- The stable name of a cause, which metrics count by. -/
def label : SyncError → String
  | configMissing _ => "config_missing"
  | topologyIncomplete .. => "topology_incomplete"
  | dnsFailure .. => "dns_resolution_failure"
  | selfNotFound .. => "self_not_found"
  | noReadyMembers => "no_ready_members"
  | preconditionNotFound .. => "precondition_not_found"
  | storeRead .. => "store_read_failure"
  | storeWrite .. => "store_write_failure"
  | conflict .. => "conflict"
  | statusWrite _ => "status_write_failure"

/-- Whether the cause arises while the desired object is built, before anything is written. -/
def isBuildStage : SyncError → Bool
  | configMissing _ | topologyIncomplete .. | dnsFailure .. | selfNotFound .. | noReadyMembers
  | preconditionNotFound .. | storeRead .. => true
  | storeWrite .. | conflict .. | statusWrite _ => false

end SyncError

end EtcdRoster
