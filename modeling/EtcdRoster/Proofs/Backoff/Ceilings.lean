import EtcdRoster.Proofs.Backoff.Entries
import EtcdRoster.Settings.Basic

/-!
# Ceilings that leave no room

The ceiling of the delays is set in whole seconds, and every number of them but zero is accepted. An
interval is cut at the ceiling only after it has been doubled, so twice the longest interval has to
be a duration too. From `2 ^ 63 - 512` seconds on it is not.

* `exists_delays_iff` — **which histories get all their delays** under a ceiling that was set.
* `delay_out_of_range` — under the highest ceiling 72 failures in a row are too many.
-/

namespace EtcdRoster.KeyedBackoff

variable {s : Settings} {entries : List Entry}

theorem secs_maxBackoff (s : Settings) : s.maxBackoff.secs = s.maxBackoffSecs.toNat := by
  simp [Settings.maxBackoff, Duration.ofSecs, Duration.secs]

/-- **A history gets all its delays** exactly if the ceiling leaves room for doubling, or no key
ever fails 72 times in a row. -/
theorem exists_delays_iff (few : entries.length < UInt32.size) :
    (∃ waits after, enterAll { maximum := s.maxBackoff } entries = .ok (waits, after)) ↔
      s.maxBackoffSecs.toNat < 2 ^ 63 - 512 ∨
        ∀ earlier later, entries = earlier ++ later → ∀ key, failuresSince key earlier < 72 := by
  rw [exists_enterAll_iff few]
  simp only [Backoff.exists_intervalAfter_iff, secs_maxBackoff, Backoff.limitSecs]
  by_cases hroom : s.maxBackoffSecs.toNat < 2 ^ 63 - 512
  · exact iff_of_true (fun _ _ _ _ => .inl hroom) (.inl hroom)
  · simp only [hroom, false_or]

/-- The ceiling that is set by default leaves room, however often a key fails. -/
theorem exists_delays_of_default : ∃ waits after,
    enterAll { maximum := Settings.maxBackoff {} } (List.replicate 1000 (.failed "k" .middle))
      = .ok (waits, after) := by
  have hfew : (List.replicate 1000 (Entry.failed "k" .middle)).length < UInt32.size := by
    rw [List.length_replicate]
    decide
  exact (exists_delays_iff hfew).mpr (.inl (by decide))

/-- The highest ceiling is accepted, but a 72nd failure in a row leaves the range of durations. -/
theorem delay_out_of_range :
    let s : Settings := { maxBackoffSecs := -1 }
    let entries : List Entry := List.replicate 72 (.failed "k" .middle)
    s.validate = .ok () ∧ entries.length < UInt32.size ∧
      enterAll { maximum := s.maxBackoff } entries = .error .outOfRange := by
  refine ⟨by decide +kernel, by decide, ?_⟩
  exact Except.eq_error_of_map (f := fun _ => ()) (by decide +kernel)

end EtcdRoster.KeyedBackoff
