import EtcdRoster.Object.Condition
import EtcdRoster.Object.Meta

/-!
# The etcd operator

The object named `cluster` configures the etcd operator, and its status carries one condition for
each of the operator's controllers.
-/

namespace EtcdRoster

open Json Json.Record

structure EtcdSpec where
  managementState : Option String := none
  logLevel : Option String := none
  operatorLogLevel : Option String := none
deriving DecidableEq, Inhabited

structure EtcdStatus where
  conditions : List Condition := []
  observedGeneration : Option Int64 := none
  readyReplicas : Option Int32 := none
deriving DecidableEq, Inhabited

structure Etcd where
  metadata : ObjectMeta := {}
  spec : EtcdSpec := {}
  status : Option EtcdStatus := none
deriving DecidableEq, Inhabited

namespace EtcdSpec

def decode : Json.Decoder EtcdSpec :=
  listDecoder "EtcdSpec" <|
    EtcdSpec.mk <$> optional text "managementState"
      <*> optional text "logLevel"
      <*> optional text "operatorLogLevel"

def toJson (s : EtcdSpec) : Json :=
  Json.record [
    ("logLevel", s.logLevel.map .str),
    ("managementState", s.managementState.map .str),
    ("operatorLogLevel", s.operatorLogLevel.map .str)]

end EtcdSpec

namespace EtcdStatus

def decode : Json.Decoder EtcdStatus :=
  listDecoder "EtcdStatus" <|
    EtcdStatus.mk <$> defaulted [] (list Condition.decode) "conditions"
      <*> optional int64 "observedGeneration"
      <*> optional int32 "readyReplicas"

def toJson (s : EtcdStatus) : Json :=
  Json.record [
    ("conditions", some (.arr (s.conditions.map Condition.toJson))),
    ("observedGeneration", s.observedGeneration.map fun n => .int n.toInt),
    ("readyReplicas", s.readyReplicas.map fun n => .int n.toInt)]

end EtcdStatus

namespace Etcd

def decode : Json.Decoder Etcd :=
  listDecoder "Etcd" <|
    Etcd.mk <$> required ObjectMeta.decode "metadata"
      <*> required EtcdSpec.decode "spec"
      <*> optional EtcdStatus.decode "status"

def ofJson? (j : Json) : Option Etcd := (Etcd.decode j).toOption

def toJson (e : Etcd) : Json :=
  Json.record [
    ("apiVersion", some (.str "operator.openshift.io/v1")),
    ("kind", some (.str "Etcd")),
    ("metadata", some e.metadata.toJson),
    ("spec", some e.spec.toJson),
    ("status", e.status.map EtcdStatus.toJson)]

def conditions (e : Etcd) : List Condition := (e.status.map (·.conditions)).getD []

end Etcd

end EtcdRoster
