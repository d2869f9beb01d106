import EtcdRoster.Data.Sorting
import EtcdRoster.Dns.Member
import EtcdRoster.Names
import EtcdRoster.Object.Config
import EtcdRoster.Object.Endpoints
import EtcdRoster.Object.Node
import EtcdRoster.Text.Quoted

/-!
# The desired object

Each member node contributes one address: its internal address in the family that the service
network prefers, under the short name that the service records give to this address. The entry of
the bootstrap member, if one is published, is carried over as it stands. A node that has no such
address or no name ends the build, and so does an empty result.
-/

namespace EtcdRoster.Desired

/-! ## The object -/

/-- The one port of the published subset. -/
def etcdPort : EndpointPort :=
  { name := some Names.portName, port := Names.clientPort, protocol := some Names.portProtocol }

/-- The published object with these addresses, if any are known, and these annotations. -/
def hostEndpoints (scope : String) (annotations : Option (Dict String))
    (addresses : Option (List EndpointAddress)) : Endpoints :=
  { metadata := { name := some Names.published, «namespace» := some scope, annotations }
    subsets := some [{ addresses, ports := some [etcdPort] }] }

/-- The published object before anything is known about members. -/
def skeleton (scope : String) : Endpoints := hostEndpoints scope none none

/-! ## Addresses of nodes -/

/-- The family of the first service network, or what is wrong with it. -/
def preferredFamily (network : Network) : Except String IpFamily :=
  match network.status.bind fun status => status.serviceNetwork.head? with
  | none => .error "network status does not have a service network"
  | some cidr =>
    match IpAddress.parse? (String.ofList (cidr.toList.takeWhile (· ≠ '/'))) with
    | some ip => .ok ip.family
    | none =>
      .error ("invalid service network " ++ Text.quoted cidr ++ ": invalid IP address syntax")

/-- Reads an address of a node if it is internal and in the family. -/
def internalIp? (family : IpFamily) (address : NodeAddress) : Option (IpAddress × String) :=
  if address.type = Names.internalAddress then
    match IpAddress.parse? address.address with
    | some ip => if ip.family = family then some (ip, address.address) else none
    | none => none
  else none

/-- The first internal address of a node in the preferred family, read and as the node spells it. -/
def preferredInternalIp (network : Network) (node : Node) :
    Except SyncError (IpAddress × String) :=
  let name := node.metadata.nameOrGenerated
  match preferredFamily network with
  | .error reason => .error (.topologyIncomplete name reason)
  | .ok family =>
    match node.addresses.findSome? (internalIp? family) with
    | some found => .ok found
    | none => .error (.topologyIncomplete name ("no matches found for ip family " ++ family.label))

/-! ## The bootstrap member -/

def isBootstrap (address : EndpointAddress) : Bool := address.hostname == some Names.bootstrapHost

/-- The first bootstrap entry of the first subset. -/
def bootstrapAddress? (published : Endpoints) : Option EndpointAddress :=
  published.firstAddresses.find? isBootstrap

/-! ## The build -/

/-- Nodes by name; nodes of one name keep their order. -/
def sortNodes (nodes : List Node) : List Node :=
  Sorting.sort
    (fun a b => decide (a.metadata.nameOrGenerated ≤ b.metadata.nameOrGenerated)) nodes

/-- The address of one member. -/
def memberAddress (network : Network) (domain : String) (node : Node) :
    ExceptT SyncError Dns.Inquiry EndpointAddress := do
  let (ip, spelled) ← ExceptT.mk (pure (preferredInternalIp network node))
  let name ← Dns.resolveMember Dns.etcdService Dns.etcdProto domain ip
  return {
    ip := spelled
    hostname := some (Dns.stripDomain name domain)
    nodeName := some node.metadata.nameOrGenerated }

/-- The addresses of members, in order; the first that fails ends the build. -/
def memberAddresses (network : Network) (domain : String) :
    List Node → ExceptT SyncError Dns.Inquiry (List EndpointAddress)
  | [] => pure []
  | node :: rest => do
    let address ← memberAddress network domain node
    let addresses ← memberAddresses network domain rest
    return address :: addresses

/-- The object that ought to be published. -/
def build (nodes : List Node) (network : Network) (domain : String)
    (bootstrap : Option EndpointAddress) (scope : String) :
    ExceptT SyncError Dns.Inquiry Endpoints := do
  let members ← memberAddresses network domain (sortNodes nodes)
  let addresses := members ++ bootstrap.toList
  if addresses.isEmpty then throw .noReadyMembers
  return hostEndpoints scope (some (Dict.empty.insert Names.domainAnnotation domain))
    (some addresses)

end EtcdRoster.Desired
