import EtcdRoster.Object.Meta

/-!
# Configuration of the cluster

Two objects named `cluster` describe the cluster as a whole: its networks, and the infrastructure
under it.
-/

namespace EtcdRoster

open Json Json.Record

/-! ## Network -/

/-- A network of pods and the size of each node's part of it. -/
structure ClusterNetworkEntry where
  cidr : String
  hostPrefix : Option UInt32 := none
deriving DecidableEq, Inhabited

structure NetworkSpec where
  clusterNetwork : List ClusterNetworkEntry := []
  serviceNetwork : List String := []
  networkType : Option String := none
deriving DecidableEq, Inhabited

structure NetworkStatus where
  clusterNetwork : List ClusterNetworkEntry := []
  serviceNetwork : List String := []
  networkType : Option String := none
  clusterNetworkMtu : Option Int32 := none
deriving DecidableEq, Inhabited

structure Network where
  metadata : ObjectMeta := {}
  spec : NetworkSpec := {}
  status : Option NetworkStatus := none
deriving DecidableEq, Inhabited

namespace ClusterNetworkEntry

def decode : Json.Decoder ClusterNetworkEntry :=
  listDecoder "ClusterNetworkEntry" <|
    ClusterNetworkEntry.mk <$> required text "cidr"
      <*> optional uint32 "hostPrefix"

def toJson (e : ClusterNetworkEntry) : Json :=
  Json.record [
    ("cidr", some (.str e.cidr)),
    ("hostPrefix", e.hostPrefix.map fun n => .int n.toNat)]

end ClusterNetworkEntry

def clusterNetworkJson (entries : List ClusterNetworkEntry) : Json :=
  .arr (entries.map ClusterNetworkEntry.toJson)

namespace NetworkSpec

def decode : Json.Decoder NetworkSpec :=
  listDecoder "NetworkSpec" <|
    NetworkSpec.mk <$> defaulted [] (list ClusterNetworkEntry.decode) "clusterNetwork"
      <*> defaulted [] (list text) "serviceNetwork"
      <*> optional text "networkType"

def toJson (s : NetworkSpec) : Json :=
  Json.record [
    ("clusterNetwork", some (clusterNetworkJson s.clusterNetwork)),
    ("networkType", s.networkType.map .str),
    ("serviceNetwork", some (ObjectMeta.strings s.serviceNetwork))]

end NetworkSpec

namespace NetworkStatus

def decode : Json.Decoder NetworkStatus :=
  listDecoder "NetworkStatus" <|
    NetworkStatus.mk <$> defaulted [] (list ClusterNetworkEntry.decode) "clusterNetwork"
      <*> defaulted [] (list text) "serviceNetwork"
      <*> optional text "networkType"
      <*> optional int32 "clusterNetworkMTU"

def toJson (s : NetworkStatus) : Json :=
  Json.record [
    ("clusterNetwork", some (clusterNetworkJson s.clusterNetwork)),
    ("clusterNetworkMTU", s.clusterNetworkMtu.map fun n => .int n.toInt),
    ("networkType", s.networkType.map .str),
    ("serviceNetwork", some (ObjectMeta.strings s.serviceNetwork))]

end NetworkStatus

namespace Network

def decode : Json.Decoder Network :=
  listDecoder "Network" <|
    Network.mk <$> required ObjectMeta.decode "metadata"
      <*> required NetworkSpec.decode "spec"
      <*> optional NetworkStatus.decode "status"

def ofJson? (j : Json) : Option Network := (Network.decode j).toOption

def toJson (n : Network) : Json :=
  Json.record [
    ("apiVersion", some (.str "config.openshift.io/v1")),
    ("kind", some (.str "Network")),
    ("metadata", some n.metadata.toJson),
    ("spec", some n.spec.toJson),
    ("status", n.status.map NetworkStatus.toJson)]

end Network

/-! ## Infrastructure -/

/-- A key of a config map. -/
structure ConfigMapFileReference where
  name : String
  key : Option String := none
deriving DecidableEq, Inhabited

structure InfrastructureSpec where
  cloudConfig : Option ConfigMapFileReference := none
deriving DecidableEq, Inhabited

structure InfrastructureStatus where
  infrastructureName : Option String := none
  platform : Option String := none
  etcdDiscoveryDomain : Option String := none
  apiServerUrl : Option String := none
  apiServerInternalUri : Option String := none
deriving DecidableEq, Inhabited

structure Infrastructure where
  metadata : ObjectMeta := {}
  spec : InfrastructureSpec := {}
  status : Option InfrastructureStatus := none
deriving DecidableEq, Inhabited

namespace ConfigMapFileReference

def decode : Json.Decoder ConfigMapFileReference :=
  listDecoder "ConfigMapFileReference" <|
    ConfigMapFileReference.mk <$> required text "name"
      <*> optional text "key"

def toJson (r : ConfigMapFileReference) : Json :=
  Json.record [("key", r.key.map .str), ("name", some (.str r.name))]

end ConfigMapFileReference

namespace InfrastructureSpec

def decode : Json.Decoder InfrastructureSpec :=
  listDecoder "InfrastructureSpec" <|
    InfrastructureSpec.mk <$> optional ConfigMapFileReference.decode "cloudConfig"

def toJson (s : InfrastructureSpec) : Json :=
  Json.record [("cloudConfig", s.cloudConfig.map ConfigMapFileReference.toJson)]

end InfrastructureSpec

namespace InfrastructureStatus

def decode : Json.Decoder InfrastructureStatus :=
  listDecoder "InfrastructureStatus" <|
    InfrastructureStatus.mk <$> optional text "infrastructureName"
      <*> optional text "platform"
      <*> optional text "etcdDiscoveryDomain"
      <*> optional text "apiServerURL"
      <*> optional text "apiServerInternalURI"

def toJson (s : InfrastructureStatus) : Json :=
  Json.record [
    ("apiServerInternalURI", s.apiServerInternalUri.map .str),
    ("apiServerURL", s.apiServerUrl.map .str),
    ("etcdDiscoveryDomain", s.etcdDiscoveryDomain.map .str),
    ("infrastructureName", s.infrastructureName.map .str),
    ("platform", s.platform.map .str)]

end InfrastructureStatus

namespace Infrastructure

def decode : Json.Decoder Infrastructure :=
  listDecoder "Infrastructure" <|
    Infrastructure.mk <$> required ObjectMeta.decode "metadata"
      <*> required InfrastructureSpec.decode "spec"
      <*> optional InfrastructureStatus.decode "status"

def ofJson? (j : Json) : Option Infrastructure := (Infrastructure.decode j).toOption

def toJson (i : Infrastructure) : Json :=
  Json.record [
    ("apiVersion", some (.str "config.openshift.io/v1")),
    ("kind", some (.str "Infrastructure")),
    ("metadata", some i.metadata.toJson),
    ("spec", some i.spec.toJson),
    ("status", i.status.map InfrastructureStatus.toJson)]

/-- The zone under which etcd members publish their service records; an empty one counts as none. -/
def discoveryDomain? (i : Infrastructure) : Option String :=
  (i.status.bind (·.etcdDiscoveryDomain)).filter (· ≠ "")

end Infrastructure

end EtcdRoster
