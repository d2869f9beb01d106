import EtcdRoster.Cluster.Client
import EtcdRoster.Cluster.Recorder
import EtcdRoster.Json.MergePatch
import EtcdRoster.Text.Split

/-!
# The API server

The server keeps documents in collections, by name. The path of a request says which collection or
which document is meant. One counter gives every stored document its version, so a writer that names
the version it has read is refused when somebody wrote in between. Requests can be made to fail. All
changes are kept in order, for watches to read.
-/

namespace EtcdRoster.Cluster

/-- A change of a document, with the value of the counter after it. -/
structure Update where
  version : Nat
  /-- The path of the collection. -/
  collection : String
  name : String
  isDeleted : Bool
  document : Json

/-- Makes requests of a method fail whose path contains a text, so many times. -/
structure Fault where
  method : String
  path : String
  error : ApiError
  times : Nat

def Fault.hits (f : Fault) (method path : String) : Bool :=
  0 < f.times && f.method == method && (Text.cut? f.path.toList path.toList).isSome

structure Server where
  /-- The namespace of the published object. -/
  scope : String
  version : Nat := 0
  /-- The documents of the collection with a path. -/
  collections : String → Dict Json := fun _ => .empty
  faults : List Fault := []
  updates : List Update := []

namespace Server

/-! ## Paths -/

def collectionPath (s : Server) (kind : Kind) : String :=
  match kind with
  | .endpoints => kind.scopedPath s.scope
  | _ => kind.clusterPath

def objectPath (s : Server) (kind : Kind) (name : String) : String :=
  s.collectionPath kind ++ "/" ++ name

/-- The part of a document that holds its status. -/
def statusPart : String := "/status"

/-- The collection and the name that a path leads to: the name is what follows the last slash. -/
def place (path : String) : String × String :=
  let name := (path.toList.reverse.takeWhile (· ≠ '/')).reverse
  (String.ofList (path.toList.take (path.toList.length - name.length - 1)), String.ofList name)

/-- The path without the part for the status. -/
def withoutStatus (path : String) : String :=
  ((Text.dropEnding? statusPart.toList path.toList).map String.ofList).getD path

def eventsPath : String := "/apis/events.k8s.io/v1/namespaces/default/events"

/-! ## Documents -/

def nameOf (document : Json) : String :=
  ((document.path? ["metadata", "name"]).bind Json.string?).getD ""

def versionOf? (document : Json) : Option String :=
  (document.path? ["metadata", "resourceVersion"]).bind Json.string?

/-- The document with another version. -/
def withVersion (document : Json) (version : Nat) : Json :=
  let metadata := (document.get? "metadata").getD .null
  document.set "metadata" (metadata.set "resourceVersion" (.str (Nat.repr version)))

/-- The documents of a kind. -/
def documents (s : Server) (kind : Kind) : Dict Json := s.collections (s.collectionPath kind)

def find? (s : Server) (collection name : String) : Option Json :=
  (s.collections collection).get? name

def setCollection (s : Server) (collection : String) (documents : Dict Json) :
    String → Dict Json :=
  fun other => if other = collection then documents else s.collections other

/-- Stores a document under a name with the next version. -/
def store (s : Server) (collection name : String) (document : Json) : Json × Server :=
  let version := s.version + 1
  let stored := withVersion document version
  (stored,
    { s with
      version
      collections := s.setCollection collection ((s.collections collection).insert name stored)
      updates := s.updates ++ [⟨version, collection, name, false, stored⟩] })

/-- Stores a document under its own name. -/
def put (s : Server) (kind : Kind) (document : Json) : Server :=
  (s.store (s.collectionPath kind) (nameOf document) document).2

/-- Deletes a document if it is there. -/
def delete (s : Server) (kind : Kind) (name : String) : Server :=
  let collection := s.collectionPath kind
  match s.find? collection name with
  | none => s
  | some document =>
    let version := s.version + 1
    { s with
      version
      collections := s.setCollection collection ((s.collections collection).erase name)
      updates := s.updates ++ [⟨version, collection, name, true, document⟩] }

/-! ## Faults -/

/-- The error of the first fault that hits, with the faults that are left. -/
def strike (method path : String) : List Fault → Option (ApiError × List Fault)
  | [] => none
  | f :: rest =>
    if f.hits method path then some (f.error, { f with times := f.times - 1 } :: rest)
    else (strike method path rest).map fun (error, rest) => (error, f :: rest)

/-- Goes past the faults before the work on a request. -/
def guarded {α : Type} (s : Server) (method path : String)
    (work : Server → Except ApiError α × Server) : Except ApiError α × Server :=
  match strike method path s.faults with
  | some (error, faults) => (.error error, { s with faults })
  | none => work s

/-! ## Requests -/

def notFound (name : String) : ApiError := .status 404 "NotFound" (name ++ " not found")

def alreadyExists (name : String) : ApiError :=
  .status 409 "AlreadyExists" (name ++ " already exists")

def modified : ApiError := .status 409 "Conflict" "the object has been modified"

/-- The document that a path leads to. -/
def read (s : Server) (path : String) : Except ApiError Json :=
  let (collection, name) := place path
  match s.find? collection name with
  | some document => .ok document
  | none => .error (notFound name)

/-- Changes a document that is there and has the version that the request names, if it names one. -/
def revise (s : Server) (path : String) (expected : Option String) (change : Json → Json) :
    Except ApiError Json × Server :=
  match s.read path with
  | .error e => (.error e, s)
  | .ok stored =>
    if expected.isSome ∧ expected ≠ versionOf? stored then (.error modified, s)
    else
      let (collection, name) := place path
      let (document, s) := s.store collection name (change stored)
      (.ok document, s)

/-- Stores a document that is not there yet. -/
def create (s : Server) (collection name : String) (document : Json) :
    Except ApiError Json × Server :=
  match s.find? collection name with
  | some _ => (.error (alreadyExists name), s)
  | none =>
    let (document, s) := s.store collection name document
    (.ok document, s)

def patchBody (version : Option String) (conditions : List Condition) : Json :=
  Json.object [
    ("metadata", Json.object [("resourceVersion", (version.map Json.str).getD .null)]),
    ("status", Json.object [("conditions", .arr (conditions.map Condition.toJson))])]

/-- Method, target and body of a request. -/
def line (s : Server) : Request → String × String × Json
  | .readEtcd name => ("GET", s.objectPath .etcd name, .null)
  | .patchConditions name version conditions =>
    ("PATCH", s.objectPath .etcd name ++ statusPart, patchBody version conditions)
  | .createEndpoints e => ("POST", s.collectionPath .endpoints, e.toJson)
  | .replaceEndpoints e =>
    ("PUT", s.objectPath .endpoints e.metadata.nameOrGenerated, e.toJson)

/-- The path of a target, if a request can be sent there. -/
def pathOf (target : String) : Except ApiError String :=
  match Target.path target.toList with
  | .ok path => .ok (String.ofList path)
  | .error fault => .error (.unsendable fault)

/-- What a request to a path does once it is past the faults. -/
def perform (s : Server) (path : String) : (r : Request) → Except ApiError Json × Server
  | .readEtcd _ => (s.read path, s)
  | .patchConditions _ version conditions =>
    let status := ((patchBody version conditions).get? "status").getD .null
    s.revise (withoutStatus path) version fun stored =>
      stored.applyMergePatch (Json.object [("status", status)])
  | .createEndpoints e => s.create path (e.metadata.name.getD "") e.toJson
  | .replaceEndpoints e => s.revise path e.metadata.resourceVersion fun _ => e.toJson

/-- The object that a document in a reply stands for. -/
def object {α : Type} (decode : Json.Decoder α) (document : Json) : Except ApiError α :=
  (decode document).mapError .unreadable

def readReply : (r : Request) → Json → Except ApiError r.Reply
  | .readEtcd _ => object Etcd.decode
  | .patchConditions .. => object Etcd.decode
  | .createEndpoints _ => object Endpoints.decode
  | .replaceEndpoints _ => object Endpoints.decode

/-- Whether a request names no object, so that it is never sent. -/
def isUnnamed : Request → Bool
  | .readEtcd name => name.isEmpty
  | .patchConditions name .. => name.isEmpty
  | .createEndpoints _ => false
  | .replaceEndpoints e => e.metadata.nameOrGenerated.isEmpty

/-- Answers a request that was sent to a path. -/
def handle (s : Server) (path : String) (r : Request) : Except ApiError r.Reply × Server :=
  let (reply, s) := s.guarded (s.line r).1 path fun s => s.perform path r
  (reply.bind (readReply r), s)

/-- The method that sends a report: a new series is created, and a known one is patched. -/
def reportMethod (r : Report) : String := if r.count.isNone then "POST" else "PATCH"

/-- Accepts a report unless a fault hits it. -/
def acceptReport (s : Server) (r : Report) : Except ApiError Unit × Server :=
  let path := if r.count.isNone then eventsPath else eventsPath ++ "/" ++ Names.cluster ++ "."
  s.guarded (reportMethod r) path fun s => (.ok (), s)

/-- Sends a request for a whole collection. A path that leads elsewhere finds nothing. -/
def visit {α : Type} (s : Server) (kind : Kind) (result : Server → α) :
    Except ApiError α × Server :=
  match pathOf (s.collectionPath kind) with
  | .error e => (.error e, s)
  | .ok path =>
    s.guarded "GET" path fun s =>
      if path = s.collectionPath kind then (.ok (result s), s)
      else (.error (notFound (place path).2), s)

/-- Lists the documents of a kind. -/
def list (s : Server) (kind : Kind) : Except ApiError (List Json) × Server :=
  s.visit kind fun s => (s.documents kind).toList.map Prod.snd

/-- Opens a watch of a kind. -/
def openWatch (s : Server) (kind : Kind) : Except ApiError Unit × Server :=
  s.visit kind fun _ => ()

end Server

end EtcdRoster.Cluster
