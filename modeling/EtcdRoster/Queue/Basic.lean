/-!
# The work queue

Keys wait in the queue until a worker takes them. A key that is added again while it waits is there
once; one that is added while a worker has it is *dirty*, and enters the queue once the worker is
done. So no key is ever in the hands of two workers. After shutdown nothing is added and nothing is
handed out any more.
-/

namespace EtcdRoster

structure WorkQueue where
  /-- The keys that wait, the next one first. -/
  queue : List String := []
  /-- The keys that need work: those that wait, and those to enter once their worker is done. -/
  dirty : List String := []
  /-- The keys that workers have. -/
  processing : List String := []
  shuttingDown : Bool := false
deriving DecidableEq, Inhabited

namespace WorkQueue

/-- Puts a key into a set. -/
def putIn (key : String) (keys : List String) : List String :=
  if key ∈ keys then keys else key :: keys

/-- Takes a key out of a set. -/
def takeOut (key : String) (keys : List String) : List String := keys.filter (· ≠ key)

/-- Adds a key unless it is there already. -/
def add (q : WorkQueue) (key : String) : WorkQueue :=
  if q.shuttingDown || q.dirty.contains key then q
  else if q.processing.contains key then { q with dirty := putIn key q.dirty }
  else { q with dirty := putIn key q.dirty, queue := q.queue ++ [key] }

/-- Hands out the next key, if there is one and the queue is not shut down. -/
def take? (q : WorkQueue) : Option (String × WorkQueue) :=
  if q.shuttingDown then none
  else match q.queue with
    | [] => none
    | key :: rest =>
      some (key,
        { q with
          queue := rest
          dirty := takeOut key q.dirty
          processing := putIn key q.processing })

/-- Ends the work on a key; a dirty key enters the queue. -/
def done (q : WorkQueue) (key : String) : WorkQueue :=
  let released := { q with processing := takeOut key q.processing }
  if q.dirty.contains key then { released with queue := q.queue ++ [key] } else released

def shutDown (q : WorkQueue) : WorkQueue := { q with shuttingDown := true }

@[simp] theorem mem_putIn {key other : String} {keys : List String} :
    other ∈ putIn key keys ↔ other = key ∨ other ∈ keys := by
  unfold putIn
  split
  · rename_i h
    exact ⟨Or.inr, fun ho => ho.elim (fun e => e ▸ h) id⟩
  · simp

@[simp] theorem mem_takeOut {key other : String} {keys : List String} :
    other ∈ takeOut key keys ↔ other ≠ key ∧ other ∈ keys := by
  simp [takeOut, and_comm]

end WorkQueue

end EtcdRoster
