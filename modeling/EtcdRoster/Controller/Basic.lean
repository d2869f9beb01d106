import EtcdRoster.Controller.Watch
import EtcdRoster.Controller.Worker

/-!
# The controller at work

The watches of all kinds feed the caches, and every object they touch puts the one key into the
queue. Once all caches are ready, workers keep the published object in step until the controller is
told to stop; then the syncs that are under way still come to their end.

Time stands still while anything can move (`settle`), and passes from one thing that is due to the
next (`pass`).
-/

namespace EtcdRoster

namespace Controller

inductive Ending
  | stopped
  /-- A watch ended before its cache was ready. -/
  | neverReady
deriving DecidableEq

def Ending.message? : Ending → Option String
  | .stopped => none
  | .neverReady => some "writer was dropped before store became ready"

inductive Stage
  /-- The caches of these kinds are waited for, one after the other. -/
  | waiting (kinds : List Kind)
  | working
  /-- No new sync starts any more. -/
  | stopping
  | ended (ending : Ending)
deriving DecidableEq

/-- The kinds in the order in which their caches are waited for. -/
def readyOrder : List Kind := [.etcd, .node, .infrastructure, .network, .endpoints]

end Controller

structure Controller where
  site : Cluster.Site
  queue : DelayedQueue
  /-- How many workers there are to be. -/
  crew : Nat := 1
  workers : List Controller.Worker := []
  watches : Kind → Controller.Watch := fun _ => {}
  stage : Controller.Stage := .waiting Controller.readyOrder

namespace Controller

open Cluster (Site)

/-- What others do, and what the controller is told. -/
inductive Step
  | incident (incident : Cluster.Incident)
  /-- All streams of changes end and are opened again. -/
  | dropStreams
  /-- The stream of a kind reports an error. -/
  | streamError (kind : Kind) (code : Nat)
  | advance (millis : Nat)
  | shutDown

/-! ## Single moves -/

def setWatch (c : Controller) (kind : Kind) (w : Watch) : Controller :=
  { c with watches := fun other => if other = kind then w else c.watches other }

/-- Lets the watch of a kind move; an object that it touches puts the key into the queue. -/
def moveWatch? (now : Nat) (c : Controller) (kind : Kind) : Option Controller := do
  let (w, site, touched) ← (c.watches kind).move? now kind c.site
  let c := { c with site }.setWatch kind w
  return if touched then { c with queue := c.queue.add Names.workKey } else c

/-- Adds the keys whose timers have ended. -/
def moveTimers? (now : Nat) (c : Controller) : Option Controller :=
  if c.queue.dues.any (· ≤ now) then some { c with queue := c.queue.fire now } else none

/-- Lets the workers move, each at most once. -/
def moveWorkers (now : Nat) (queue : DelayedQueue) (site : Site) :
    List Worker → Bool × List Worker × DelayedQueue × Site
  | [] => (false, [], queue, site)
  | worker :: rest =>
    match worker.move? now queue site with
    | none =>
      let (moved, rest, queue, site) := moveWorkers now queue site rest
      (moved, worker :: rest, queue, site)
    | some (worker, queue, site) =>
      let (_, rest, queue, site) := moveWorkers now queue site rest
      (true, worker :: rest, queue, site)

/-- Goes from one stage to the next. -/
def moveStage? (c : Controller) : Option Controller :=
  match c.stage with
  | .waiting [] =>
    some { c with
      stage := .working
      queue := c.queue.add Names.workKey
      workers := List.replicate c.crew .idle }
  | .waiting (kind :: rest) =>
    if (c.site.caches kind).ready then some { c with stage := .waiting rest }
    else if (c.watches kind).phase = .dead then some { c with stage := .ended .neverReady }
    else none
  | .stopping =>
    if c.workers.all Worker.isFinished then some { c with stage := .ended .stopped } else none
  | _ => none

/-! ## Rounds -/

/-- Lets every watch move, each at most once. -/
def watchRound? (now : Nat) (c : Controller) : Option Controller :=
  let (moved, c) := Kind.all.foldl
    (fun (moved, c) kind =>
      match moveWatch? now c kind with
      | some c => (true, c)
      | none => (moved, c))
    (false, c)
  if moved then some c else none

def workRound? (now : Nat) (c : Controller) : Option Controller :=
  let (moved, workers, queue, site) := moveWorkers now c.queue c.site c.workers
  if moved then some { c with workers, queue, site } else none

/-- One round of moves: of the watches if one can move, else of the timers, the workers or the
stage. -/
def round? (now : Nat) (c : Controller) : Option Controller :=
  match c.stage with
  | .ended _ => none
  | _ =>
    (c.watchRound? now).or <| (c.moveTimers? now).or <| (c.workRound? now).or c.moveStage?

/-- Lets everything move that can, for so many rounds at most. -/
def settleFor (now : Nat) : Nat → Controller → Controller
  | 0, c => c
  | rounds + 1, c =>
    match c.round? now with
    | some c => settleFor now rounds c
    | none => c

/-- More rounds than a controller needs before it waits. -/
def patience : Nat := 10000

def settle (now : Nat) (c : Controller) : Controller := settleFor now patience c

/-! ## Time -/

/-- The times at which something goes on by itself. -/
def dues (c : Controller) : List Nat :=
  c.queue.dues ++ c.workers.filterMap Worker.wakesAt?
    ++ Kind.all.map fun kind => (c.watches kind).resumesAt

/-- Lets time pass, and everything move at each time at which something is due. -/
def pass (now target : Nat) (c : Controller) : Controller :=
  match _h : Timer.next? now target c.dues with
  | none => c
  | some due => pass due target (c.settle due)
termination_by target - now
decreasing_by
  have := Timer.next?_bounds _h
  omega

/-! ## Steps -/

/-- The controller is told to stop. -/
def stop (c : Controller) : Controller :=
  match c.stage with
  | .waiting _ => { c with stage := .ended .stopped }
  | .working => { c with stage := .stopping, queue := c.queue.shutDown }
  | _ => c

def mapWatches (c : Controller) (f : Watch → Watch) : Controller :=
  { c with watches := fun kind => f (c.watches kind) }

/-- Does a step at a time and lets everything move; gives the time after it. -/
def step (now : Nat) (c : Controller) : Step → Nat × Controller
  | .incident incident => (now, { c with site := c.site.undergo incident }.settle now)
  | .dropStreams => (now, (c.mapWatches Watch.drop).settle now)
  | .streamError kind code =>
    let w := (c.watches kind).raise c.site.server.version code
    (now, (c.setWatch kind w).settle now)
  | .advance millis => (now + millis, c.pass now (now + millis))
  | .shutDown => (now, c.stop.settle now)

end Controller

end EtcdRoster
