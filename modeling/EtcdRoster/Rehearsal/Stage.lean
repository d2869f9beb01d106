import EtcdRoster.Queue.Delayed
import EtcdRoster.Reconcile.Sync
import EtcdRoster.Rehearsal.World

/-!
# Rehearsals

A rehearsal is a row of steps in a world with a work queue. A step syncs, does one part of a sync,
changes the world behind the controller's back, or lets the worker process the next key.
-/

namespace EtcdRoster.Rehearsal

open Reconcile (Outcome)

structure Stage where
  world : World := {}
  queue : DelayedQueue
  /-- The namespace of the published object. -/
  scope : String := Names.defaultScope
  /-- The time in milliseconds. -/
  now : Nat := 0

inductive Step
  | sync
  | syncEndpoints
  /-- Asks for the namespace. -/
  | scope
  | apply (required : Endpoints)
  | report (result : Except SyncError Unit)
  | setDegraded (degraded : Bool) (reason message : String)
  /-- Makes a collaborator fail from now on, or work again. -/
  | fault (collaborator : Collaborator) (error : Option SyncError)
  | topology (topology : Topology)
  | zone (zone : Dns.Zone)
  | publish (object : Option Endpoints)
  /-- Makes the store of the published object fail or work; a foreign write no longer waits. -/
  | failWrites (failing : Bool)
  /-- Lets somebody else write after the next read, into a store that works. -/
  | foreignWrite (object : Option Endpoints)
  | trigger (key : String)
  /-- Processes the next key. -/
  | process
  | advance (millis : Nat)
  | shutDown

inductive Result
  | nothing
  | finished (result : Except SyncError Unit)
  | applied (result : Except SyncError Outcome)
  | text (text : String)
  /-- Whether a key was processed; otherwise the queue is shut down. -/
  | processed (more : Bool)
  /-- There is no key to process yet. -/
  | pending

namespace Stage

/-- Holds a dialogue and shows its result. -/
def hold {α : Type} (s : Stage) (talk : Reconcile.Talk α) (toResult : α → Result) :
    Result × Stage :=
  let (a, world) := s.world.hold talk
  (toResult a, { s with world })

def record (s : Stage) (sample : Metrics.Sample) : Stage :=
  { s with world.registry := s.world.registry.record sample }

/-- Takes the next key, syncs, and tells the queue how it went. A failed sync comes back later. -/
def process (s : Stage) (draw : Draw) : Except Backoff.Fault (Result × Stage) :=
  if s.queue.work.shuttingDown then .ok (.processed false, s)
  else match s.queue.take? with
    | none => .ok (.pending, s)
    | some (key, queue) => do
      let s := { s with queue }.record (.queueDepth queue.work.queue.length)
      let (result, world) := s.world.hold (Reconcile.sync s.scope)
      let s := { s with world }
      let s := if result.toBool then s else s.record .requeue
      let (told, queue) := s.queue.finish s.now key result.toBool draw
      told
      return (.processed true, { s with queue := queue.fire s.now })

/-- Does one step. A delay that cannot be computed ends the rehearsal. -/
def step (s : Stage) : Step → Except Backoff.Fault (Result × Stage)
  | .sync => .ok (s.hold (Reconcile.sync s.scope) .finished)
  | .syncEndpoints => .ok (s.hold (Reconcile.syncEndpoints s.scope).run .applied)
  | .scope => .ok (.text s.scope, s)
  | .apply required => .ok (s.hold (Reconcile.apply required).run .applied)
  | .report result => .ok (s.hold (Reconcile.report result) .finished)
  | .setDegraded degraded reason message =>
    .ok (s.hold (Reconcile.setDegraded degraded reason message) .finished)
  | .fault collaborator error =>
    let faults := fun c => if c = collaborator then error else s.world.faults c
    .ok (.nothing, { s with world.faults := faults })
  | .topology topology => .ok (.nothing, { s with world.topology := topology })
  | .zone zone => .ok (.nothing, { s with world.zone := zone })
  | .publish object => .ok (.nothing, { s with world.published.object := object })
  | .failWrites failing =>
    .ok (.nothing, { s with world.published.failing := failing, world.published.foreign := none })
  | .foreignWrite object =>
    .ok (.nothing,
      { s with world.published.failing := false, world.published.foreign := object })
  | .trigger key => .ok (.nothing, { s with queue := s.queue.add key })
  | .process => s.process .middle
  | .advance millis =>
    let now := s.now + millis
    .ok (.nothing, { s with now, queue := s.queue.fire now })
  | .shutDown => .ok (.nothing, { s with queue := s.queue.shutDown })

end Stage

end EtcdRoster.Rehearsal
