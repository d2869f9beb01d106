import EtcdRoster.Proofs.Backoff.Ceilings
import EtcdRoster.Proofs.Queue.Persistence

/-!
# Failures that are not retried

Under a ceiling that leaves no room for doubling there is no delay after 72 failures of a key in a
row. The last of them is counted, its worker releases the key, and nothing brings the key back.

* `replay_failing` — one failure of a single worker; with a delay the key is `ready` again.
* `exists_ready` — a key can fail as often as there are intervals, and still be at hand.
* `exists_unretried`, `retried_iff` — **every failure is retried** exactly under the ceilings that
  leave room.
-/

namespace EtcdRoster.DelayedQueue.Crew

variable {b after : KeyedBackoff} {key : String} {draw : Draw} {maximum : Duration} {n : ℕ}

/-- One key waits, and nobody has any. -/
def ready (b : KeyedBackoff) (key : String) : Crew Nat :=
  { queue := { work := { queue := [key], dirty := [key] }, backoff := b } }

/-- A worker takes the key, its sync fails, and it releases the key. -/
def failing (key : String) (draw : Draw) : List (Event Nat) :=
  [.take 0 key, .fail 0 key 0 draw, .release 0 key]

/-- After a failure nothing is left of the key but its timer, if it has got a delay. -/
theorem replay_failing {delay? : Except Backoff.Fault Duration}
    (hfail : b.fail key draw = (delay?, after)) :
    (ready b key).replay (failing key draw) =
      some { queue :=
        { backoff := after
          timers := delay?.toOption.toList.map fun delay => ⟨delay.ceilMillis, key⟩ } } := by
  have htake : (ready b key).step? (.take 0 key) =
      some { queue := { work := { processing := [key] }, backoff := b }, held := [(0, key)] } := by
    refine step?_take_eq_some_iff.mpr ⟨List.not_mem_nil, { processing := [key] }, ?_, rfl⟩
    simp [ready, WorkQueue.take?, WorkQueue.takeOut, WorkQueue.putIn]
  refine replay_cons_eq_some_iff.mpr ⟨_, htake, ?_⟩
  refine replay_cons_eq_some_iff.mpr
    ⟨_, step?_fail_eq_some_iff.mpr ⟨by simp [Syncing, Has], rfl⟩, ?_⟩
  refine replay_cons_eq_some_iff.mpr ⟨_, step?_release_eq_some_iff.mpr ⟨by simp [Has], rfl⟩, ?_⟩
  cases delay? <;>
    simp [replay, addLater, hfail, DelayedQueue.done, WorkQueue.done, WorkQueue.takeOut, Timer.set,
      Except.toOption]

/-- The timer brings the key back. -/
theorem replay_failing_ring {delay : Duration} (hfail : b.fail key draw = (.ok delay, after)) :
    (ready b key).replay (failing key draw ++ [.ring ⟨delay.ceilMillis, key⟩]) =
      some (ready after key) := by
  refine replay_append_eq_some_iff.mpr ⟨_, replay_failing hfail, ?_⟩
  refine replay_cons_eq_some_iff.mpr ⟨_, step?_ring_eq_some_iff.mpr ⟨?_, rfl⟩, ?_⟩
  · simp [Except.toOption]
  · simp [replay, ready, ring, DelayedQueue.add, WorkQueue.add, WorkQueue.putIn, Except.toOption]

/-- One more failure is counted. -/
theorem failuresSince_failing (key : String) (past : List (Event Nat)) (draw : Draw) :
    failuresSince key (past ++ failing key draw) = failuresSince key past + 1 := by
  rw [show past ++ failing key draw = past ++ [.take 0 key] ++ [.fail 0 key 0 draw] ++
    [.release 0 key] by simp [failing]]
  simp only [failuresSince_concat, Event.succeeds, Event.fails]
  simp

/-- A key can fail as often as there are intervals, and wait again in the end. -/
theorem exists_ready (maximum : Duration) (key : String) (hcount : n < UInt32.size)
    (hinterval : ∃ i, Backoff.intervalAfter maximum n = .ok i) :
    ∃ past b, (start maximum).replay past = some (ready b key) ∧ failuresSince key past = n := by
  induction n with
  | zero => exact ⟨[.trigger key], { maximum }, rfl, rfl⟩
  | succ n ih =>
    obtain ⟨past, b, hreplay, hfailures⟩ :=
      ih (by omega) (Backoff.exists_intervalAfter_of_le (Nat.le_succ n) hinterval)
    have hs : Remembers maximum past (ready b key) := remembers_of_replay hreplay
    obtain ⟨delay, hdelay⟩ := hs.exists_delay_iff.mpr ⟨hfailures ▸ hcount, hfailures ▸ hinterval⟩
    have hfail : b.fail key .middle = (.ok delay, (b.fail key .middle).2) := Prod.ext hdelay rfl
    refine ⟨_, _, replay_append_eq_some_iff.mpr ⟨_, hreplay, replay_failing_ring hfail⟩, ?_⟩
    rw [← List.append_assoc, failuresSince_concat, failuresSince_failing, hfailures]
    rfl

/-- Without room for doubling the 72nd failure of a key in a row is its last one. -/
theorem exists_unretried (hceiling : Backoff.limitSecs ≤ maximum.secs) (key : String) :
    ∃ past s, (start maximum : Crew Nat).replay past = some s ∧ FailedSince key past ∧
      failuresSince key past = 72 ∧ ¬ s.Pending key := by
  obtain ⟨past, b, hreplay, hfailures⟩ := exists_ready maximum key (n := 71) (by decide)
    (Backoff.exists_intervalAfter_iff.mpr (.inr (by decide)))
  have hs : Remembers maximum past (ready b key) := remembers_of_replay hreplay
  obtain ⟨fault, hfail⟩ : ∃ fault, b.fail key .middle = (.error fault, (b.fail key .middle).2) := by
    cases hdelay : (b.fail key .middle).1 with
    | error fault => exact ⟨fault, Prod.ext hdelay rfl⟩
    | ok delay =>
      obtain ⟨-, hinterval⟩ := hs.exists_delay_iff.mp ⟨delay, hdelay⟩
      rw [hfailures, Backoff.exists_intervalAfter_iff] at hinterval
      omega
  refine ⟨_, _, replay_append_eq_some_iff.mpr ⟨_, hreplay, replay_failing hfail⟩, ?_, ?_, ?_⟩
  · exact ⟨past ++ [.take 0 key], .fail 0 key 0 .middle, [.release 0 key], by simp [failing],
      by simp [Event.fails], by simp [Event.takes]⟩
  · rw [failuresSince_failing, hfailures]
  · simp [Pending, Except.toOption]

/-- **Every failure is retried**, in every course of events, exactly if the ceiling leaves room for
doubling. -/
theorem retried_iff :
    (∀ past s, (start maximum : Crew Nat).replay past = some s → ∀ key, FailedSince key past →
      failuresSince key past < UInt32.size → s.Pending key) ↔
      maximum.secs < Backoff.limitSecs := by
  constructor
  · intro hretried
    by_contra hceiling
    obtain ⟨past, s, hreplay, hfailed, hfailures, hlost⟩ := exists_unretried (not_lt.mp hceiling) ""
    exact hlost (hretried past s hreplay "" hfailed (by rw [hfailures]; decide))
  · intro hroom past s hreplay key hfailed hcount
    exact (remembers_of_replay hreplay).nothing_lost.retried key hfailed hcount (.inl hroom)

/-- The highest ceiling is accepted, but a key that has failed 72 times in a row can be lost: it is
not dirty, and no timer of it runs. -/
theorem failure_lost :
    let settings : Settings := { maxBackoffSecs := -1 }
    settings.validate = .ok () ∧ ∃ past, ∃ s : Crew Nat,
      (start settings.maxBackoff).replay past = some s ∧ FailedSince "roster" past ∧
      failuresSince "roster" past = 72 ∧ s.queue.backoff.failures "roster" = 72 ∧
      ¬ s.Pending "roster" := by
  have hceiling : Backoff.limitSecs ≤ (Settings.maxBackoff { maxBackoffSecs := -1 }).secs := by
    decide +kernel
  obtain ⟨past, s, hreplay, hfailed, hfailures, hlost⟩ := exists_unretried hceiling "roster"
  refine ⟨by decide +kernel, past, s, hreplay, hfailed, hfailures, ?_, hlost⟩
  have hcounted := (remembers_of_replay hreplay).failures_eq "roster"
  rw [hcounted, hfailures]
  decide

end EtcdRoster.DelayedQueue.Crew
