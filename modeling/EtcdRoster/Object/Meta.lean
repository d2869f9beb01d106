import EtcdRoster.Json.Document
import EtcdRoster.Object.Timestamp

/-!
# Metadata of objects

Every object of the cluster carries a name, labels, annotations and the version under which it is
stored, and the cluster notes down in it who owns it, who manages which of its members and whether
it is to be deleted. Absent members stay absent: an absent map is not an empty one.
-/

namespace EtcdRoster

open Json Json.Record

/-- Points to the object that owns another one. -/
structure OwnerReference where
  apiVersion : String := ""
  kind : String := ""
  name : String := ""
  uid : String := ""
  controller : Option Bool := none
  blockOwnerDeletion : Option Bool := none
deriving DecidableEq, Inhabited

/-- Who manages which members of an object, and since when. -/
structure ManagedFieldsEntry where
  apiVersion : Option String := none
  fieldsType : Option String := none
  fieldsV1 : Option Document := none
  manager : Option String := none
  operation : Option String := none
  subresource : Option String := none
  time : Option Timestamp := none
deriving DecidableEq, Inhabited

structure ObjectMeta where
  name : Option String := none
  generateName : Option String := none
  «namespace» : Option String := none
  labels : Option (Dict String) := none
  annotations : Option (Dict String) := none
  resourceVersion : Option String := none
  uid : Option String := none
  generation : Option Int64 := none
  finalizers : Option (List String) := none
  ownerReferences : Option (List OwnerReference) := none
  creationTimestamp : Option Timestamp := none
  deletionTimestamp : Option Timestamp := none
  deletionGracePeriodSeconds : Option Int64 := none
  managedFields : Option (List ManagedFieldsEntry) := none
  selfLink : Option String := none
deriving DecidableEq, Inhabited

/-- A point in time is given as a text. -/
def Timestamp.decode : Json.Decoder Timestamp
  | .str s =>
    match Timestamp.parse? s with
    | some t => .ok t
    | none => .error ⟨"failed to parse timestamp " ++ Text.quoted s, (Json.str s).size⟩
  | j => .error (wrongType "a timestamp string" j)

def Timestamp.toJson (t : Timestamp) : Json := .str t.text

namespace OwnerReference

def decode : Json.Decoder OwnerReference :=
  decoder "OwnerReference" <|
    OwnerReference.mk <$> lenient "" text "apiVersion"
      <*> lenient "" text "kind"
      <*> lenient "" text "name"
      <*> lenient "" text "uid"
      <*> optional flag "controller"
      <*> optional flag "blockOwnerDeletion"

def toJson (r : OwnerReference) : Json :=
  Json.record [
    ("apiVersion", some (.str r.apiVersion)),
    ("blockOwnerDeletion", r.blockOwnerDeletion.map .bool),
    ("controller", r.controller.map .bool),
    ("kind", some (.str r.kind)),
    ("name", some (.str r.name)),
    ("uid", some (.str r.uid))]

end OwnerReference

namespace ManagedFieldsEntry

def decode : Json.Decoder ManagedFieldsEntry :=
  decoder "ManagedFieldsEntry" <|
    ManagedFieldsEntry.mk <$> optional text "apiVersion"
      <*> optional text "fieldsType"
      <*> optional Document.decode "fieldsV1"
      <*> optional text "manager"
      <*> optional text "operation"
      <*> optional text "subresource"
      <*> optional Timestamp.decode "time"

def toJson (e : ManagedFieldsEntry) : Json :=
  Json.record [
    ("apiVersion", e.apiVersion.map .str),
    ("fieldsType", e.fieldsType.map .str),
    ("fieldsV1", e.fieldsV1.map Document.json),
    ("manager", e.manager.map .str),
    ("operation", e.operation.map .str),
    ("subresource", e.subresource.map .str),
    ("time", e.time.map Timestamp.toJson)]

end ManagedFieldsEntry

namespace ObjectMeta

/-- The name if there is one, else the name to generate from, else nothing. -/
def nameOrGenerated (m : ObjectMeta) : String := (m.name.or m.generateName).getD ""

def decode : Json.Decoder ObjectMeta :=
  decoder "ObjectMeta" <|
    ObjectMeta.mk <$> optional text "name"
      <*> optional text "generateName"
      <*> optional text "namespace"
      <*> optional (dict text) "labels"
      <*> optional (dict text) "annotations"
      <*> optional text "resourceVersion"
      <*> optional text "uid"
      <*> optional int64 "generation"
      <*> optional (list text) "finalizers"
      <*> optional (list OwnerReference.decode) "ownerReferences"
      <*> optional Timestamp.decode "creationTimestamp"
      <*> optional Timestamp.decode "deletionTimestamp"
      <*> optional int64 "deletionGracePeriodSeconds"
      <*> optional (list ManagedFieldsEntry.decode) "managedFields"
      <*> optional text "selfLink"

def ofJson? (j : Json) : Option ObjectMeta := (ObjectMeta.decode j).toOption

def strings (texts : List String) : Json := .arr (texts.map .str)

def dictionary (d : Dict String) : Json := .obj (d.entries.map fun e => (e.1, .str e.2))

def toJson (m : ObjectMeta) : Json :=
  Json.record [
    ("annotations", m.annotations.map dictionary),
    ("creationTimestamp", m.creationTimestamp.map Timestamp.toJson),
    ("deletionGracePeriodSeconds", m.deletionGracePeriodSeconds.map (.int ∘ Int64.toInt)),
    ("deletionTimestamp", m.deletionTimestamp.map Timestamp.toJson),
    ("finalizers", m.finalizers.map strings),
    ("generateName", m.generateName.map .str),
    ("generation", m.generation.map (.int ∘ Int64.toInt)),
    ("labels", m.labels.map dictionary),
    ("managedFields", m.managedFields.map fun es => .arr (es.map ManagedFieldsEntry.toJson)),
    ("name", m.name.map .str),
    ("namespace", m.namespace.map .str),
    ("ownerReferences", m.ownerReferences.map fun rs => .arr (rs.map OwnerReference.toJson)),
    ("resourceVersion", m.resourceVersion.map .str),
    ("selfLink", m.selfLink.map .str),
    ("uid", m.uid.map .str)]

/-- Whether the object carries a label, whatever its value. -/
def hasLabel (m : ObjectMeta) (label : String) : Bool :=
  (m.labels.map (·.contains label)).getD false

end ObjectMeta

end EtcdRoster
