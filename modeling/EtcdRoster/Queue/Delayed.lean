import EtcdRoster.Backoff.Policy
import EtcdRoster.Queue.Basic

/-!
# Adding keys later

A key whose work failed is added again after its delay. Time is counted in whole milliseconds, and a
delay ends at the first one that is not too early. Timers that end together fire in the order in
which they were set.
-/

namespace EtcdRoster

/-- Something to happen at a time. -/
structure Timer (α : Type) where
  due : Nat
  what : α
deriving DecidableEq

namespace Timer

variable {α : Type}

/-- Sets a timer behind all that end no later. -/
def set (timer : Timer α) : List (Timer α) → List (Timer α)
  | [] => [timer]
  | other :: rest =>
    if timer.due < other.due then timer :: other :: rest else other :: set timer rest

/-- What happens up to a time, and the timers that still run. -/
def split (now : Nat) (timers : List (Timer α)) : List α × List (Timer α) :=
  ((timers.filter fun t => t.due ≤ now).map (·.what), timers.filter fun t => ¬t.due ≤ now)

/-- The first of some times that is after the present one and not after a target. -/
def next? (now target : Nat) (times : List Nat) : Option Nat :=
  (times.filter fun time => now < time ∧ time ≤ target).min?

theorem next?_bounds {now target time : Nat} {times : List Nat}
    (h : next? now target times = some time) : now < time ∧ time ≤ target := by
  have hmem := List.min?_mem h
  simpa using (List.mem_filter.1 hmem).2

end Timer

/-- A work queue with the backoff of its keys and the timers of those that are to be added later. -/
structure DelayedQueue where
  work : WorkQueue := {}
  backoff : KeyedBackoff
  timers : List (Timer String) := []

namespace DelayedQueue

def ofMaximum (maximum : Duration) : DelayedQueue := { backoff := { maximum } }

def add (q : DelayedQueue) (key : String) : DelayedQueue := { q with work := q.work.add key }

def done (q : DelayedQueue) (key : String) : DelayedQueue := { q with work := q.work.done key }

def shutDown (q : DelayedQueue) : DelayedQueue := { q with work := q.work.shutDown }

def take? (q : DelayedQueue) : Option (String × DelayedQueue) :=
  q.work.take?.map fun (key, work) => (key, { q with work })

def forget (q : DelayedQueue) (key : String) : DelayedQueue :=
  { q with backoff := q.backoff.forget key }

/-- Sets the timer after which a failed key is added again. Without a delay there is no timer, but
the failure has been counted. -/
def addLater (q : DelayedQueue) (now : Nat) (key : String) (draw : Draw) :
    Except Backoff.Fault Unit × DelayedQueue :=
  match q.backoff.fail key draw with
  | (.ok delay, backoff) =>
    (.ok (), { q with backoff, timers := Timer.set ⟨now + delay.ceilMillis, key⟩ q.timers })
  | (.error fault, backoff) => (.error fault, { q with backoff })

/-- Ends the work on a key. Success clears its failures, a failure sets the timer of its next try.
The key is released in any case. -/
def finish (q : DelayedQueue) (now : Nat) (key : String) (succeeded : Bool) (draw : Draw) :
    Except Backoff.Fault Unit × DelayedQueue :=
  if succeeded then (.ok (), (q.forget key).done key)
  else
    let (told, queue) := q.addLater now key draw
    (told, queue.done key)

/-- The times at which keys are to be added. -/
def dues (q : DelayedQueue) : List Nat := q.timers.map (·.due)

/-- Adds the keys whose timers have ended. -/
def fire (q : DelayedQueue) (now : Nat) : DelayedQueue :=
  let (keys, timers) := Timer.split now q.timers
  { q with work := keys.foldl WorkQueue.add q.work, timers }

end DelayedQueue

end EtcdRoster
