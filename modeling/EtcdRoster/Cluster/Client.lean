import EtcdRoster.Backoff.Conflict
import EtcdRoster.Cluster.Cache
import EtcdRoster.Reconcile.Collaborator
import EtcdRoster.Reconcile.Conditions

/-!
# The collaborators of a real cluster

Reads of a sync are answered from caches, and writes go straight to the API server. Conditions are
written over a fresh read, again and again while others write in between: `updateConditions`.
`answer` turns each question of a sync into an exchange with the cluster.
-/

namespace EtcdRoster.Cluster

/-! ## Requests -/

/-- What is asked of the API server. -/
inductive Request
  | readEtcd (name : String)
  /-- Replaces the conditions of an operator that still has this version. -/
  | patchConditions (name : String) (version : Option String) (conditions : List Condition)
  | createEndpoints (endpoints : Endpoints)
  /-- Replaces the object of the same name if it has the version that the new one carries. -/
  | replaceEndpoints (endpoints : Endpoints)

/-- The object that an accepted request is answered with. -/
abbrev Request.Reply : Request → Type
  | .readEtcd _ => Etcd
  | .patchConditions .. => Etcd
  | .createEndpoints _ => Endpoints
  | .replaceEndpoints _ => Endpoints

/-! ## Questions -/

/-- What an exchange asks of the cluster and of its surroundings. -/
inductive Ask
  | send (request : Request)
  /-- Looks an object up in the cache of its kind. -/
  | cached (kind : Kind) (key : ObjectKey)
  | cachedAll (kind : Kind)
  | lookup (question : Dns.Question)
  | publish (event : Event)
  | record (sample : Metrics.Sample)
  | sleep (duration : Duration)
  | draw
  | clock
  | elapsed

abbrev Ask.Answer : Ask → Type
  | .send request => Except ApiError request.Reply
  | .cached kind _ => Option kind.Object
  | .cachedAll kind => List kind.Object
  | .lookup question => question.Answer
  | .publish _ => Unit
  | .record _ => Unit
  | .sleep _ => Unit
  | .draw => Draw
  | .clock => String
  | .elapsed => Duration

abbrev Exchange := Dialogue Ask Ask.Answer

def ask (q : Ask) : Exchange q.Answer := Dialogue.question q

def send (request : Request) : Exchange (Except ApiError request.Reply) := ask (.send request)

/-! ## The operator status -/

/-- Reads the conditions and writes them merged with the desired ones, unless nothing changes. -/
def updateOnce (name : String) (desired : List Condition) : Exchange (Except ApiError Unit) := do
  match ← send (.readEtcd name) with
  | .error e => return .error e
  | .ok latest =>
    let merged := Conditions.merge latest.conditions desired
    if Conditions.equal latest.conditions merged then return .ok ()
    else
      match ← send (.patchConditions name latest.metadata.resourceVersion merged) with
      | .ok _ => return .ok ()
      | .error e => return .error e

/-- Writes conditions, starting again from a fresh read when somebody else wrote in between. -/
def updateConditions (name : String) (desired : List Condition) :
    Exchange (Except SyncError Unit) := do
  match ← Conflict.retry (ask .draw) (fun d => ask (.sleep d)) (updateOnce name desired) with
  | .ok () => return .ok ()
  | .error e => return .error (.statusWrite e.text)

def readConditions (name : String) : Exchange (Except SyncError (List Condition)) := do
  match ← ask (.cached .etcd ⟨name, none⟩) with
  | some etcd => return .ok (Etcd.conditions etcd)
  | none => return .error (Reconcile.notFound .etcd name)

/-! ## The published object -/

def describe (e : Endpoints) : String :=
  "endpoints/" ++ e.metadata.nameOrGenerated ++ " -n " ++ e.metadata.namespace.getD ""

def createEndpoints (e : Endpoints) : Exchange (Except SyncError Endpoints) := do
  return (← send (.createEndpoints e)).mapError fun error => error.toWriteError (describe e)

def replaceEndpoints (e : Endpoints) : Exchange (Except SyncError Endpoints) := do
  return (← send (.replaceEndpoints e)).mapError fun error => error.toWriteError (describe e)

/-! ## A sync in the cluster -/

/-- Answers a question of a sync by an exchange with the cluster. -/
def answer : (q : Reconcile.Ask) → Exchange q.Answer
  | .readEndpoints name scope => do return .ok (← ask (.cached .endpoints ⟨name, some scope⟩))
  | .createEndpoints e => do return (← createEndpoints e).map fun _ => ()
  | .replaceEndpoints e => do return (← replaceEndpoints e).map fun _ => ()
  | .memberNodes label => do
    let nodes ← ask (.cachedAll .node)
    return .ok (List.filter (fun node : Node => node.metadata.hasLabel label) nodes)
  | .networkConfig name => found .network name
  | .infrastructureConfig name => found .infrastructure name
  | .lookup question => ask (.lookup question)
  | .readConditions => readConditions Names.cluster
  | .writeConditions conditions => updateConditions Names.cluster conditions
  | .emit event => ask (.publish event)
  | .record sample => ask (.record sample)
  | .clock => ask .clock
  | .elapsed => ask .elapsed
where
  found (kind : Kind) (name : String) : Exchange (Except SyncError kind.Object) := do
    match ← ask (.cached kind ⟨name, none⟩) with
    | some object => return .ok object
    | none => return .error (Reconcile.notFound kind name)

end EtcdRoster.Cluster
