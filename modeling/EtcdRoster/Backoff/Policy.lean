import EtcdRoster.Backoff.Exponential
import EtcdRoster.Data.Dict

/-!
# Delays of the work queue

A key that fails is tried again after a delay that doubles with each failure in a row. Every key has
a backoff of its own, which starts anew once the key is forgotten.
-/

namespace EtcdRoster

namespace Backoff

def queueBaseMillis : UInt32 := 5

def queueMultiplier : Rat := 2

/-- One tenth, as the nearest double. -/
def jitterShare : Rat := Binary64.round (1 / 10)

/-- Delays from five milliseconds on, doubled each time up to a ceiling, without an end. -/
def queue (maximum : Duration) : Backoff :=
  .ofInitial (.ofMillis queueBaseMillis) maximum none queueMultiplier jitterShare

def conflictMillis : UInt32 := 10

def conflictRetries : Nat := 5

/-- Five delays of ten milliseconds: the object is read again each time, so they need not grow. -/
def conflict : Backoff :=
  .ofInitial (.ofMillis conflictMillis) (.ofMillis conflictMillis) (some conflictRetries) 1
    jitterShare

theorem dependable_conflict : conflict.Dependable where
  limited := ⟨conflictRetries, rfl, by decide⟩
  drawn draw := by
    obtain ⟨d, hd⟩ := exists_applyJitter_of_range conflict.jitter conflict.current
      (by decide +kernel) (by decide +kernel) (by decide +kernel) (by decide +kernel) draw
    have hgrow : conflict.grow.toOption.any (· = conflict.current) = true := by decide +kernel
    obtain ⟨interval, hinterval, hsame⟩ := Except.exists_of_any_toOption hgrow
    rw [of_decide_eq_true hsame] at hinterval
    exact ⟨_, drawn_eq_ok_iff.mpr ⟨d, hd, hinterval, rfl⟩⟩

end Backoff

/-- The failures in a row of every key. -/
structure KeyedBackoff where
  maximum : Duration
  items : Dict Backoff := .empty

namespace KeyedBackoff

/-- The backoff of a key; one that has not failed starts a new one. -/
def item (b : KeyedBackoff) (key : String) : Backoff :=
  (b.items.get? key).getD (Backoff.queue b.maximum)

/-- Records a failure of a key: the delay before its next try, and what is known of all keys then. A
failure has been recorded even if its delay cannot be computed. -/
def fail (b : KeyedBackoff) (key : String) (draw : Draw) :
    Except Backoff.Fault Duration × KeyedBackoff :=
  let (delay?, rest) := (b.item key).advance draw
  (delay?.map (·.getD b.maximum), { b with items := b.items.insert key rest })

/-- The delay of a failure, and what is known of all keys after it. -/
def delay (b : KeyedBackoff) (key : String) (draw : Draw) :
    Except Backoff.Fault (Duration × KeyedBackoff) :=
  let (wait, after) := b.fail key draw
  wait.map (·, after)

/-- Clears the failures of a key. -/
def forget (b : KeyedBackoff) (key : String) : KeyedBackoff :=
  { b with items := b.items.erase key }

/-- How often a key has failed in a row. -/
def failures (b : KeyedBackoff) (key : String) : Nat :=
  ((b.items.get? key).map (·.retries)).getD 0

end KeyedBackoff

end EtcdRoster
