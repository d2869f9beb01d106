import EtcdRoster.Names
import EtcdRoster.Object.Config
import EtcdRoster.Object.Endpoints
import EtcdRoster.Object.Node
import EtcdRoster.Reconcile.Desired

/-!
# A cast of objects

The smallest objects that a sync can work with.
-/

namespace EtcdRoster.Rehearsal.Cast

/-- A node with internal addresses, which runs a member or not. -/
def node (name : String) (addresses : List String) (isMember : Bool) : Node :=
  { metadata :=
      { name := some name
        labels := if isMember then some (Dict.empty.insert Names.memberLabel "") else none }
    status := some
      { addresses := some (addresses.map fun address =>
          { type := Names.internalAddress, address }) } }

/-- A network whose services have addresses in this range. -/
def network (range : String) : Network :=
  { metadata := { name := some Names.cluster }, status := some { serviceNetwork := [range] } }

/-- An infrastructure with this discovery domain. -/
def infrastructure (domain : String) : Infrastructure :=
  { metadata := { name := some Names.cluster }
    status := some { etcdDiscoveryDomain := some domain } }

def address (ip hostname : String) (nodeName : Option String) : EndpointAddress :=
  { ip, hostname := some hostname, nodeName }

/-- The published object with these addresses in its first version. -/
def endpoints (addresses : List EndpointAddress) : Endpoints :=
  { metadata :=
      { name := some Names.published
        «namespace» := some Names.defaultScope
        resourceVersion := some "1" }
    subsets := some [{ addresses := some addresses, ports := some [Desired.etcdPort] }] }

end EtcdRoster.Rehearsal.Cast
