import EtcdRoster.Dns.Zone
import EtcdRoster.Reconcile.Conditions
import EtcdRoster.Reconcile.Report
import EtcdRoster.Text.Digits

/-!
# A world to rehearse in

Everything that a sync asks for is kept in memory: the topology, the zone, one published object with
its version, the conditions, the events and the metrics. Each collaborator can be told to fail, and
somebody else can be told to write the published object right after it is read.
-/

namespace EtcdRoster.Rehearsal

open Reconcile (Ask)

/-- What the cluster looks like to a sync. -/
structure Topology where
  nodes : List Node := []
  network : Option Network := none
  infrastructure : Option Infrastructure := none

/-- A store of one published object. -/
structure PublishedStore where
  object : Option Endpoints := none
  /-- What somebody else writes right after the next read. -/
  foreign : Option Endpoints := none
  failing : Bool := false
  creates : Nat := 0
  replaces : Nat := 0

structure StatusStore where
  conditions : List Condition := []
  failing : Bool := false
  writes : Nat := 0

/-- The collaborators that can be told to fail. -/
inductive Collaborator
  | get
  | create
  | replace
  | nodes
  | network
  | infrastructure
  | getConditions
  | updateConditions
deriving DecidableEq, Inhabited, Repr

structure World where
  topology : Topology := {}
  zone : Dns.Zone := {}
  published : PublishedStore := {}
  status : StatusStore := {}
  /-- How many services have been looked up. -/
  serviceQueries : Nat := 0
  events : List Event := []
  registry : Metrics.Registry := {}
  /-- The error with which a collaborator answers instead of doing its work. -/
  faults : Collaborator → Option SyncError := fun _ => none
  clock : String := ""

namespace Topology

/-- The nodes that carry a label. -/
def labelled (t : Topology) (label : String) : List Node :=
  t.nodes.filter fun node => node.metadata.hasLabel label

def networkNamed (t : Topology) (name : String) : Except SyncError Network :=
  match t.network with
  | some network => .ok network
  | none => .error (Reconcile.notFound .network name)

def infrastructureNamed (t : Topology) (name : String) : Except SyncError Infrastructure :=
  match t.infrastructure with
  | some infrastructure => .ok infrastructure
  | none => .error (Reconcile.notFound .infrastructure name)

end Topology

namespace PublishedStore

/-- How the store names its object in messages. -/
def resource : String := "endpoints/host-etcd -n openshift-etcd"

/-- The version after a given one; a text that is no number counts as zero. -/
def nextVersion (version : Option String) : String :=
  let current := (version.bind fun v => Text.natBelow? UInt64.size v.toList).getD 0
  Nat.repr (UInt64.ofNat current + 1).toNat

def version? (e : Option Endpoints) : Option String := e.bind (·.metadata.resourceVersion)

def withVersion (e : Endpoints) (version : String) : Endpoints :=
  { e with metadata.resourceVersion := some version }

/-- The object if it has this name and namespace. -/
def find? (s : PublishedStore) (name scope : String) : Option Endpoints :=
  s.object.filter fun e => e.metadata.name == some name && e.metadata.namespace == some scope

/-- Lets the foreign write happen, if one is waiting. -/
def interfere (s : PublishedStore) : PublishedStore :=
  match s.foreign with
  | some other =>
    { s with object := some (withVersion other (nextVersion (version? s.object))), foreign := none }
  | none => s

def read (s : PublishedStore) (name scope : String) : Option Endpoints × PublishedStore :=
  (s.find? name scope, s.interfere)

def create (s : PublishedStore) (e : Endpoints) : Except SyncError Unit × PublishedStore :=
  if s.failing then (.error (.storeWrite resource "injected failure"), s)
  else (.ok (), { s with object := some (withVersion e "1"), creates := s.creates + 1 })

/-- Replaces the object if its version is still the one that the new object carries. -/
def replace (s : PublishedStore) (e : Endpoints) : Except SyncError Unit × PublishedStore :=
  if s.failing then (.error (.storeWrite resource "injected failure"), s)
  else if version? s.object ≠ e.metadata.resourceVersion then
    (.error (.conflict resource "the object has been modified"), s)
  else
    (.ok (),
      { s with
        object := some (withVersion e (nextVersion (version? s.object)))
        replaces := s.replaces + 1 })

def writes (s : PublishedStore) : Nat := s.creates + s.replaces

end PublishedStore

namespace StatusStore

/-- Puts conditions in, each in the place of the one of its type. -/
def update (s : StatusStore) (conditions : List Condition) :
    Except SyncError Unit × StatusStore :=
  if s.failing then (.error (.statusWrite "injected failure"), s)
  else
    (.ok (), { s with
      conditions := Conditions.merge s.conditions conditions
      writes := s.writes + 1 })

end StatusStore

namespace World

/-- Goes through a collaborator, which gives the error that it was told to give, if any. -/
def through {α : Type} (w : World) (collaborator : Collaborator)
    (work : World → Except SyncError α × World) : Except SyncError α × World :=
  match w.faults collaborator with
  | some e => (.error e, w)
  | none => work w

/-- Answers a question and shows what the answer changes. -/
def answer : (q : Ask) → World → q.Answer × World
  | .readEndpoints name scope, w => w.through .get fun w =>
    let (found, published) := w.published.read name scope
    (.ok found, { w with published })
  | .createEndpoints e, w => w.through .create fun w =>
    let (result, published) := w.published.create e
    (result, { w with published })
  | .replaceEndpoints e, w => w.through .replace fun w =>
    let (result, published) := w.published.replace e
    (result, { w with published })
  | .memberNodes label, w => w.through .nodes fun w => (.ok (w.topology.labelled label), w)
  | .networkConfig name, w => w.through .network fun w => (w.topology.networkNamed name, w)
  | .infrastructureConfig name, w =>
    w.through .infrastructure fun w => (w.topology.infrastructureNamed name, w)
  | .lookup (.service name), w =>
    (w.zone.service name, { w with serviceQueries := w.serviceQueries + 1 })
  | .lookup (.host name), w => (w.zone.host name, w)
  | .readConditions, w => w.through .getConditions fun w => (.ok w.status.conditions, w)
  | .writeConditions conditions, w => w.through .updateConditions fun w =>
    let (result, status) := w.status.update conditions
    (result, { w with status })
  | .emit event, w => ((), { w with events := w.events ++ [event] })
  | .record sample, w => ((), { w with registry := w.registry.record sample })
  | .clock, w => (w.clock, w)
  | .elapsed, w => (Duration.zero, w)

/-- Holds a dialogue in this world. -/
def hold {α : Type} (w : World) (talk : Reconcile.Talk α) : α × World := talk.run answer w

end World

end EtcdRoster.Rehearsal
