import EtcdRoster.Cluster.Site

/-!
# Watches

A watch follows the objects of one kind. It lists them into the cache, opens a stream of changes
from that list on, and takes one change after the other. After an error it pauses, twice as long
after each error that follows another with nothing good in between: a list that begins or a change
that is taken ends such a row of errors, and so do two minutes without one. An object without a name
ends the watch for good.
-/

namespace EtcdRoster.Controller

open Cluster (Site Server)

inductive Phase
  /-- The objects are to be listed. -/
  | listing
  /-- They are listed, and the stream is to be opened. -/
  | opening
  | streaming
  /-- The watch has ended for good. -/
  | dead
deriving DecidableEq

/-- An error in a stream, behind the changes up to a version. -/
structure Alarm where
  version : Nat
  code : Nat
deriving DecidableEq

structure Watch where
  phase : Phase := .listing
  /-- The version up to which the watch knows all changes. -/
  seen : Nat := 0
  /-- The errors that the stream still has to report. -/
  alarms : List Alarm := []
  /-- How many errors there were in a row. -/
  errors : Nat := 0
  failedAt : Nat := 0
  resumesAt : Nat := 0

namespace Watch

/-- Whether an object of the kind is watched: nodes all are, of the others a single one. -/
def selects (kind : Kind) (name : String) : Bool :=
  match kind with
  | .node => true
  | .endpoints => name == Names.published
  | _ => name == Names.cluster

/-- The pause after so many errors before this one, in milliseconds. -/
def pause (errors : Nat) : Nat := min (800 * Nat.pow 2 errors) 30000

/-- After this many milliseconds without an error the pauses start anew. -/
def calm : Nat := 120000

def fail (now : Nat) (w : Watch) : Watch :=
  let errors := if w.failedAt + calm < now then 0 else w.errors
  { w with errors := errors + 1, failedAt := now, resumesAt := now + pause errors }

/-- The code of an error after which only a new list shows what changed. -/
def goneCode : Nat := 410

/-- Reports an error of the stream. -/
def alarm (now : Nat) (code : Nat) (w : Watch) : Watch :=
  if code = goneCode then { w.fail now with phase := .listing, alarms := [] } else w.fail now

/-- The next change that the watch has to take. -/
def next? (kind : Kind) (w : Watch) (server : Server) : Option Cluster.Update :=
  server.updates.find? fun u =>
    w.seen < u.version && u.collection == server.collectionPath kind && selects kind u.name

/-- The watch after a cache refused an object. -/
def refused (now : Nat) (w : Watch) : Cluster.CacheFault → Watch
  | .unreadable => w.fail now
  | .unnamed => { w with phase := .dead }

/-- Lists the objects; tells whether there is one. The list has begun even if it fails. -/
def list (now : Nat) (kind : Kind) (w : Watch) (site : Site) : Watch × Site × Bool :=
  let w := { w with errors := 0 }
  let (reply, server) := site.server.list kind
  let site := { site with server }
  match reply with
  | .error _ => (w.fail now, site, false)
  | .ok documents =>
    let documents := documents.filter fun d => selects kind (Server.nameOf d)
    match site.refill kind documents with
    | .error fault => (w.refused now fault, site, false)
    | .ok site => ({ w with phase := .opening, seen := server.version }, site, !documents.isEmpty)

/-- Opens the stream of changes. -/
def openStream (now : Nat) (kind : Kind) (w : Watch) (site : Site) : Watch × Site :=
  let (reply, server) := site.server.openWatch kind
  (if reply.toBool then { w with phase := .streaming } else w.fail now, { site with server })

/-- Takes a change into the cache; tells whether an object was touched. -/
def take (now : Nat) (kind : Kind) (w : Watch) (update : Cluster.Update) (site : Site) :
    Watch × Site × Bool :=
  let w := { w with seen := update.version }
  match site.follow kind update with
  | .error fault => (w.refused now fault, site, false)
  | .ok site => ({ w with errors := 0 }, site, true)

/-- Does what comes next, if there is anything to do, and tells whether an object was touched. -/
def move? (now : Nat) (kind : Kind) (w : Watch) (site : Site) : Option (Watch × Site × Bool) :=
  if now < w.resumesAt then none
  else match w.phase with
    | .listing => some (w.list now kind site)
    | .opening => let (w, site) := w.openStream now kind site; some (w, site, false)
    | .streaming =>
      match w.next? kind site.server, w.alarms with
      | none, [] => none
      | some update, [] => some (w.take now kind update site)
      | none, first :: rest => some ({ w with alarms := rest }.alarm now first.code, site, false)
      | some update, first :: rest =>
        if first.version < update.version then
          some ({ w with alarms := rest }.alarm now first.code, site, false)
        else some (w.take now kind update site)
    | .dead => none

/-- The stream ends and is to be opened again. -/
def drop (w : Watch) : Watch := if w.phase = .streaming then { w with phase := .opening } else w

/-- The stream is to report an error behind the changes that there are. -/
def raise (w : Watch) (version code : Nat) : Watch :=
  if w.phase = .streaming then { w with alarms := w.alarms ++ [⟨version, code⟩] } else w

end Watch

end EtcdRoster.Controller
