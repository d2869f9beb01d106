import EtcdRoster.Backoff.Policy
import EtcdRoster.Cluster.ApiError

/-!
# Trying again after a conflict

An attempt that reads an object, changes it and writes it back is refused when somebody else wrote
in between. It is then tried again after a pause, each time from a fresh read, as long as the
backoff has delays left. Every other failure is final.
-/

namespace EtcdRoster

namespace Conflict

variable {m : Type → Type} [Monad m] {α : Type}

/-- Repeats an attempt while it meets a conflict and the backoff has delays left. -/
def retryWith (draw : m Draw) (pause : Duration → m Unit) (attempt : m (Except ApiError α))
    (b : Backoff) (dependable : b.Dependable) : m (Except ApiError α) := do
  match ← attempt with
  | .ok value => return .ok value
  | .error e =>
    if e.isConflict then
      match h : b.next (← draw) with
      | .ok (some (delay, rest)) =>
        pause delay
        retryWith draw pause attempt rest (dependable.of_next h)
      | .ok none => return .error e
      | .error _ => absurd h dependable.next_ne_error
    else return .error e
termination_by b.remaining
decreasing_by
  have := (Backoff.remaining_next dependable.isSome_maxRetries h).1
  omega

/-- Repeats an attempt up to five times after a conflict. -/
def retry (draw : m Draw) (pause : Duration → m Unit) (attempt : m (Except ApiError α)) :
    m (Except ApiError α) :=
  retryWith draw pause attempt Backoff.conflict Backoff.dependable_conflict

end Conflict

end EtcdRoster
