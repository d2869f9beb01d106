import EtcdRoster.Object.Meta

/-!
# Endpoints

A list of endpoints is published in subsets. Each subset holds addresses, addresses that are not
ready, and the ports that all of them serve.
-/

namespace EtcdRoster

open Json Json.Record

structure ObjectReference where
  apiVersion : Option String := none
  kind : Option String := none
  «namespace» : Option String := none
  name : Option String := none
  uid : Option String := none
  resourceVersion : Option String := none
  fieldPath : Option String := none
deriving DecidableEq, Inhabited

structure EndpointAddress where
  ip : String := ""
  hostname : Option String := none
  nodeName : Option String := none
  targetRef : Option ObjectReference := none
deriving DecidableEq, Inhabited

structure EndpointPort where
  name : Option String := none
  port : Int32 := 0
  protocol : Option String := none
  appProtocol : Option String := none
deriving DecidableEq, Inhabited

structure EndpointSubset where
  addresses : Option (List EndpointAddress) := none
  notReadyAddresses : Option (List EndpointAddress) := none
  ports : Option (List EndpointPort) := none
deriving DecidableEq, Inhabited

structure Endpoints where
  metadata : ObjectMeta := {}
  subsets : Option (List EndpointSubset) := none
deriving DecidableEq, Inhabited

namespace ObjectReference

def decode : Json.Decoder ObjectReference :=
  decoder "ObjectReference" <|
    ObjectReference.mk <$> optional text "apiVersion"
      <*> optional text "kind"
      <*> optional text "namespace"
      <*> optional text "name"
      <*> optional text "uid"
      <*> optional text "resourceVersion"
      <*> optional text "fieldPath"

def toJson (r : ObjectReference) : Json :=
  Json.record [
    ("apiVersion", r.apiVersion.map .str),
    ("fieldPath", r.fieldPath.map .str),
    ("kind", r.kind.map .str),
    ("name", r.name.map .str),
    ("namespace", r.namespace.map .str),
    ("resourceVersion", r.resourceVersion.map .str),
    ("uid", r.uid.map .str)]

end ObjectReference

namespace EndpointAddress

def decode : Json.Decoder EndpointAddress :=
  decoder "EndpointAddress" <|
    EndpointAddress.mk <$> lenient "" text "ip"
      <*> optional text "hostname"
      <*> optional text "nodeName"
      <*> optional ObjectReference.decode "targetRef"

def ofJson? (j : Json) : Option EndpointAddress := (EndpointAddress.decode j).toOption

def toJson (a : EndpointAddress) : Json :=
  Json.record [
    ("hostname", a.hostname.map .str),
    ("ip", some (.str a.ip)),
    ("nodeName", a.nodeName.map .str),
    ("targetRef", a.targetRef.map ObjectReference.toJson)]

/-- What an entry is known by. -/
def key (a : EndpointAddress) : String × Option String × Option String :=
  (a.ip, a.hostname, a.nodeName)

end EndpointAddress

namespace EndpointPort

def decode : Json.Decoder EndpointPort :=
  decoder "EndpointPort" <|
    EndpointPort.mk <$> optional text "name"
      <*> lenient 0 int32 "port"
      <*> optional text "protocol"
      <*> optional text "appProtocol"

def toJson (p : EndpointPort) : Json :=
  Json.record [
    ("appProtocol", p.appProtocol.map .str),
    ("name", p.name.map .str),
    ("port", some (.int p.port.toInt)),
    ("protocol", p.protocol.map .str)]

end EndpointPort

namespace EndpointSubset

def decode : Json.Decoder EndpointSubset :=
  decoder "EndpointSubset" <|
    EndpointSubset.mk <$> optional (list EndpointAddress.decode) "addresses"
      <*> optional (list EndpointAddress.decode) "notReadyAddresses"
      <*> optional (list EndpointPort.decode) "ports"

def ofJson? (j : Json) : Option EndpointSubset := (EndpointSubset.decode j).toOption

def addressesJson (addresses : List EndpointAddress) : Json :=
  .arr (addresses.map EndpointAddress.toJson)

def toJson (s : EndpointSubset) : Json :=
  Json.record [
    ("addresses", s.addresses.map addressesJson),
    ("notReadyAddresses", s.notReadyAddresses.map addressesJson),
    ("ports", s.ports.map fun ports => .arr (ports.map EndpointPort.toJson))]

end EndpointSubset

namespace Endpoints

def decode : Json.Decoder Endpoints :=
  decoder "Endpoints" <|
    (fun _ _ => Endpoints.mk) <$> constant "v1" "apiVersion"
      <*> constant "Endpoints" "kind"
      <*> lenient {} ObjectMeta.decode "metadata"
      <*> optional (list EndpointSubset.decode) "subsets"

def ofJson? (j : Json) : Option Endpoints := (Endpoints.decode j).toOption

def toJson (e : Endpoints) : Json :=
  Json.record [
    ("apiVersion", some (.str "v1")),
    ("kind", some (.str "Endpoints")),
    ("metadata", some e.metadata.toJson),
    ("subsets", e.subsets.map fun subsets => .arr (subsets.map EndpointSubset.toJson))]

/-- The addresses of the first subset. -/
def firstAddresses (e : Endpoints) : List EndpointAddress :=
  ((e.subsets.bind List.head?).bind (·.addresses)).getD []

end Endpoints

end EtcdRoster
