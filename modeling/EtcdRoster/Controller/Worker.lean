import EtcdRoster.Cluster.Site
import EtcdRoster.Queue.Delayed

/-!
# Workers

A worker takes a key from the queue, syncs and tells the queue how it went, again and again until
the queue is shut down. A sync that breaks off releases its key, and the worker rests before it goes
on.
-/

namespace EtcdRoster.Controller

open Cluster (Exchange Site)

inductive Worker
  | idle
  /-- It has a key, and this is what is left of the sync. -/
  | syncing (key : String) (left : Exchange (Except SyncError Unit))
  | asleep (key : String) (left : Exchange (Except SyncError Unit)) (wakesAt : Nat)
  /-- It rests after a sync that broke off. -/
  | resting (wakesAt : Nat)
  | finished

namespace Worker

def restMillis : Nat := 1000

def isFinished : Worker → Bool
  | finished => true
  | _ => false

/-- When the worker goes on by itself. -/
def wakesAt? : Worker → Option Nat
  | asleep _ _ wakesAt => some wakesAt
  | resting wakesAt => some wakesAt
  | _ => none

/-- A worker whose sync has broken off, which is not replaced at a queue that is shut down. -/
def broken (now : Nat) (queue : DelayedQueue) : Worker :=
  if queue.work.shuttingDown then finished else resting (now + restMillis)

/-- Breaks off the sync. -/
def crash (now : Nat) (key : String) (queue : DelayedQueue) : Worker × DelayedQueue :=
  (broken now queue, queue.done key)

/-- Does what comes next, if there is anything to do: at most one question is asked. -/
def move? (now : Nat) (queue : DelayedQueue) (site : Site) :
    Worker → Option (Worker × DelayedQueue × Site)
  | idle =>
    if queue.work.shuttingDown then some (finished, queue, site)
    else queue.take?.map fun (key, queue) =>
      (syncing key (Site.syncExchange site.server.scope), queue, site)
  | syncing key (.done result) =>
    match queue.finish now key result.toBool .middle with
    | (.ok (), queue) => some (idle, queue, site)
    | (.error _, queue) => some (broken now queue, queue, site)
  | syncing key (.ask question next) =>
    if Site.isLookupOf site.gated question then none
    else if Site.isLookupOf site.crashing question then
      let (worker, queue) := crash now key queue
      some (worker, queue, site)
    else
      match question, next with
      | .sleep duration, next =>
        some (asleep key (next ()) (now + duration.ceilMillis), queue, site)
      | question, next =>
        let (answer, site) := site.answer question
        some (syncing key (next answer), queue, site)
  | asleep key left wakesAt => if wakesAt ≤ now then some (syncing key left, queue, site) else none
  | resting wakesAt => if wakesAt ≤ now then some (idle, queue, site) else none
  | finished => none

end Worker

end EtcdRoster.Controller
