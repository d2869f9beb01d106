import EtcdRoster.Queue.Delayed

/-!
# Workers at the queue

A session lets workers wait at the queue while time passes. Whoever waits longest is served first,
and after shutdown everybody is sent away. A worker that crashes releases its key. Time passes in
leaps: all keys that are due by the end of one are added before anybody is served.
-/

namespace EtcdRoster.Session

/-- Who waits for a key: a worker with a name, or one that crashes as soon as it has a key. Only the
last worker of a name can be called off; the name no longer reaches those before it. -/
inductive Waiter
  | named (name : String) (reachable : Bool)
  | crashing
deriving DecidableEq

structure State where
  queue : DelayedQueue
  now : Nat := 0
  waiters : List Waiter := []
  /-- The workers that stopped waiting, with the key that they got. -/
  woken : List (String × Option String) := []

inductive Step
  | add (key : String)
  | done (key : String)
  | forget (key : String)
  | addLater (key : String)
  | shutDown
  /-- Takes a key if there is one. -/
  | get
  | wait (name : String)
  | cancel (name : String)
  | crash
  /-- Does steps and releases the key after them. -/
  | guarded (key : String) (steps : List Step)
  | failures (key : String)
  | advance (millis : Nat)

inductive Result
  | none
  | got (key : Option String)
  | pending
  | crashed
  | number (n : Nat)

structure Record where
  result : Result
  length : Nat
  isDown : Bool
  woken : List (String × Option String)

/-- Serves those who wait, one after the other, as far as there are keys. -/
def serve (queue : DelayedQueue) : List Waiter →
    DelayedQueue × List Waiter × List (String × Option String)
  | [] => (queue, [], [])
  | waiter :: rest =>
    if queue.work.shuttingDown then
      let (queue', waiting, woken) := serve queue rest
      match waiter with
      | .named name _ => (queue', waiting, (name, Option.none) :: woken)
      | .crashing => (queue', waiting, woken)
    else
      match queue.take? with
      | Option.none => (queue, waiter :: rest, [])
      | some (key, taken) =>
        match waiter with
        | .named name _ =>
          let (queue', waiting, woken) := serve taken rest
          (queue', waiting, (name, some key) :: woken)
        | .crashing => serve (taken.done key) rest

/-- Adds the keys whose timers have ended, and serves those who wait. -/
def settle (s : State) : State :=
  let (queue, waiters, woken) := serve (s.queue.fire s.now) s.waiters
  { s with queue, waiters, woken := s.woken ++ woken }

/-- Lets a worker wait; its name no longer reaches the others of this name. -/
def enqueue (name : String) (waiters : List Waiter) : List Waiter :=
  waiters.map (fun
    | .named other reachable => .named other (reachable && other != name)
    | .crashing => .crashing)
    ++ [.named name true]

/-- Calls the worker off that a name reaches. -/
def cancel (name : String) (waiters : List Waiter) : List Waiter :=
  waiters.filter (· ≠ .named name true)

/-- Settles and records what a step came to. -/
def record (s : State) (result : Result) : Record × State :=
  let s := settle s
  ({ result, length := s.queue.work.queue.length, isDown := s.queue.work.shuttingDown
     woken := s.woken }, { s with woken := [] })

/-- Takes a key at once, or tells that there is none yet. -/
def poll (s : State) : Result × State :=
  if s.queue.work.shuttingDown then (.got Option.none, s)
  else match s.queue.take? with
    | some (key, queue) => (.got (some key), { s with queue })
    | Option.none => (.pending, s)

def crash (s : State) : Result × State :=
  if s.queue.work.shuttingDown then (.crashed, s)
  else match s.queue.take? with
    | some (key, queue) => (.crashed, { s with queue := queue.done key })
    | Option.none => (.pending, { s with waiters := s.waiters ++ [.crashing] })

mutual

/-- Does one step. A delay that cannot be computed ends the session. -/
def Step.exec (s : State) : Step → Except Backoff.Fault (List Record × State)
  | .add key => one { s with queue := s.queue.add key } .none
  | .done key => one { s with queue := s.queue.done key } .none
  | .forget key => one { s with queue := s.queue.forget key } .none
  | .addLater key =>
    match s.queue.addLater s.now key .middle with
    | (.ok (), queue) => one { s with queue } .none
    | (.error fault, _) => .error fault
  | .shutDown => one { s with queue := s.queue.shutDown } .none
  | .get => let (result, s) := poll s; one s result
  | .wait name => one { s with waiters := enqueue name s.waiters } .none
  | .cancel name => one { s with waiters := cancel name s.waiters } .none
  | .crash => let (result, s) := crash s; one s result
  | .guarded key steps => do
    let (records, s) ← execAll s steps
    let (last, s) := record { s with queue := s.queue.done key } .none
    return (records ++ [last], s)
  | .failures key => one s (.number (s.queue.backoff.failures key))
  | .advance millis => one { s with now := s.now + millis } .none
where
  one (s : State) (result : Result) : Except Backoff.Fault (List Record × State) :=
    let (r, s) := record s result
    .ok ([r], s)

def execAll (s : State) : List Step → Except Backoff.Fault (List Record × State)
  | [] => .ok ([], s)
  | step :: rest => do
    let (records, s) ← step.exec s
    let (later, s) ← execAll s rest
    return (records ++ later, s)

end

/-- What happens in a session that starts with an empty queue. -/
def run (maximum : Duration) (steps : List Step) : Except Backoff.Fault (List Record) := do
  return (← execAll { queue := .ofMaximum maximum } steps).1

end EtcdRoster.Session
