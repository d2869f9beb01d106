import EtcdRoster.Cluster.Server
import EtcdRoster.Dns.Zone
import EtcdRoster.Reconcile.Sync

/-!
# A cluster to work against

A site brings together the API server, the caches, a zone and the recorder of events, and keeps a
log of the requests that are sent. It answers every question of an exchange, pauses included, at
once. Incidents are what others do to it.
-/

namespace EtcdRoster.Cluster

/-- A request that reached the server. -/
inductive LogEntry
  | request (method path : String) (body : Json)
  | event (method : String) (report : Report)

/-- Whether the request only reads. -/
def LogEntry.isRead : LogEntry → Bool
  | .request method _ _ => method == "GET"
  | .event .. => false

structure Site where
  server : Server
  caches : Caches := .empty
  zone : Dns.Zone := {}
  /-- The names whose lookup waits until they are taken off this list. -/
  gated : List String := []
  /-- The names whose lookup breaks off the sync. -/
  crashing : List String := []
  recorder : Recorder := {}
  log : List LogEntry := []
  clock : String := ""

/-- What others do to a cluster. -/
inductive Incident
  | put (kind : Kind) (document : Json)
  | delete (kind : Kind) (name : String)
  | fault (fault : Fault)
  /-- The zone changes, and with it the names whose lookup waits or breaks off. -/
  | tables (zone : Dns.Zone) (gated crashing : List String)

namespace Site

def note (s : Site) (entry : LogEntry) : Site := { s with log := s.log ++ [entry] }

def send (s : Site) (r : Request) : Except ApiError r.Reply × Site :=
  if Server.isUnnamed r then (.error .unnamed, s)
  else
    let (method, target, body) := s.server.line r
    match Server.pathOf target with
    | .error e => (.error e, s)
    | .ok path =>
      let (reply, server) := s.server.handle path r
      (reply, { s with server }.note (.request method path body))

/-- Publishes an event with a recorder, which stays as it is when the report is not accepted. -/
def publish (s : Site) (recorder : Recorder) (e : Event) : Recorder × Site :=
  let report := recorder.report e
  let (reply, server) := s.server.acceptReport report
  let s := { s with server }.note (.event (Server.reportMethod report) report)
  (if reply.toBool then recorder.keep report else recorder, s)

/-! ## Exchanges -/

/-- Answers a question and shows what the answer changes. -/
def answer (s : Site) : (q : Ask) → q.Answer × Site
  | .send request => s.send request
  | .cached kind key => ((s.caches kind).get? key, s)
  | .cachedAll kind => ((s.caches kind).objects, s)
  | .lookup (.service name) => (s.zone.service name, s)
  | .lookup (.host name) => (s.zone.host name, s)
  | .publish event =>
    let (recorder, s) := s.publish s.recorder event
    ((), { s with recorder })
  | .record _ => ((), s)
  | .sleep _ => ((), s)
  | .draw => (.middle, s)
  | .clock => (s.clock, s)
  | .elapsed => (.zero, s)

/-- Whether a question is the lookup of one of these names. -/
def isLookupOf (names : List String) : Ask → Bool
  | .lookup (.service name) => names.contains name
  | .lookup (.host name) => names.contains name
  | _ => false

/-- Holds an exchange unless a lookup breaks it off. -/
def hold? {α : Type} (s : Site) : Exchange α → Option (α × Site)
  | .done a => some (a, s)
  | .ask q next =>
    if isLookupOf s.crashing q then none
    else
      let (a, s) := s.answer q
      s.hold? (next a)

/-- One sync as an exchange with the cluster. -/
def syncExchange (scope : String) : Exchange (Except SyncError Unit) :=
  (Reconcile.sync scope).interpret Cluster.answer

/-! ## Caches -/

/-- Lists documents of a kind into its cache, once all of them are read. -/
def refill (s : Site) (kind : Kind) (documents : List Json) : Except CacheFault Site :=
  match documents.mapM kind.read? with
  | none => .error .unreadable
  | some objects =>
    match s.caches.relist? kind objects with
    | none => .error .unnamed
    | some caches => .ok { s with caches }

/-- Takes a change of a kind that is told with a document. -/
def tell (s : Site) (kind : Kind) (change : kind.Object → Change kind.Object) (document : Json) :
    Except CacheFault Site :=
  match kind.read? document with
  | none => .error .unreadable
  | some object =>
    match s.caches.take? kind (change object) with
    | none => .error .unnamed
    | some caches => .ok { s with caches }

/-- Lists all documents of a kind into its cache, one after the other. -/
def relist (s : Site) (kind : Kind) : Except CacheFault Site := do
  let documents := (s.server.documents kind).toList.map Prod.snd
  let begun := { s with caches := (s.caches.take? kind .listing).getD s.caches }
  let listed ← documents.foldlM (fun s document => s.tell kind .listed document) begun
  return { listed with caches := (listed.caches.take? kind .complete).getD listed.caches }

/-- Takes a change of the server into the cache of its kind. -/
def follow (s : Site) (kind : Kind) (update : Update) : Except CacheFault Site :=
  s.tell kind (if update.isDeleted then .deleted else .applied) update.document

/-! ## Incidents -/

def undergo (s : Site) : Incident → Site
  | .put kind document => { s with server := s.server.put kind document }
  | .delete kind name => { s with server := s.server.delete kind name }
  | .fault fault => { s with server.faults := s.server.faults ++ [fault] }
  | .tables zone gated crashing => { s with zone, gated, crashing }

end Site

end EtcdRoster.Cluster
