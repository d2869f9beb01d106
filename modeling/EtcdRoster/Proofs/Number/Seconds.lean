import EtcdRoster.Duration
import EtcdRoster.Proofs.Number.Rounding

/-!
# Durations in seconds

Where the seconds of a duration, as a double, stand to those that a duration can hold.

* `toSeconds_le_of_secs_lt`, `le_toSeconds_of_le_secs` — the seconds come out below `2 ^ 63` exactly
  if there are fewer than `2 ^ 63 - 512` of them: doubles just below lie 1024 apart, and from half
  way on the even one is taken.
* `ofSeconds?_eq_none_of_le` — from `2 ^ 64` seconds on there is no duration.
-/

namespace EtcdRoster.Duration

variable {x : ℚ}

theorem subsecNanos_lt (d : Duration) : d.subsecNanos < 1000000000 := Nat.mod_lt _ (by decide)

theorem toSeconds_eq (d : Duration) :
    d.toSeconds = Binary64.round
      (Binary64.round d.secs + Binary64.round (Binary64.round d.subsecNanos / 1000000000)) := rfl

/-- The fraction of a second comes out as no more than a whole one. -/
theorem fraction_bounds (d : Duration) :
    0 ≤ Binary64.round (Binary64.round d.subsecNanos / 1000000000) ∧
      Binary64.round (Binary64.round d.subsecNanos / 1000000000) ≤ 1 := by
  have hround : 0 ≤ Binary64.round d.subsecNanos := Binary64.round_nonneg (by positivity)
  have hnanos : Binary64.round d.subsecNanos ≤ 1000000000 := by
    calc Binary64.round d.subsecNanos ≤ Binary64.round 1000000000 := by
          refine Binary64.round_mono (by positivity) ?_
          exact_mod_cast d.subsecNanos_lt.le
      _ = 1000000000 := by decide +kernel
  have hfraction : 0 ≤ Binary64.round d.subsecNanos / 1000000000 := by positivity
  constructor
  · exact Binary64.round_nonneg hfraction
  · calc Binary64.round (Binary64.round d.subsecNanos / 1000000000) ≤ Binary64.round 1 :=
          Binary64.round_mono hfraction ((div_le_one (by positivity)).mpr hnanos)
      _ = 1 := by decide +kernel

theorem toSeconds_nonneg (d : Duration) : 0 ≤ d.toSeconds := by
  have hsecs : 0 ≤ Binary64.round d.secs := Binary64.round_nonneg (by positivity)
  rw [toSeconds_eq]
  exact Binary64.round_nonneg (add_nonneg hsecs d.fraction_bounds.1)

/-- Below `2 ^ 63` the greatest double is 1024 less. -/
theorem toSeconds_le_of_secs_lt {d : Duration} (h : d.secs < 2 ^ 63 - 512) :
    d.toSeconds ≤ 2 ^ 63 - 1024 := by
  have hsecs : Binary64.round d.secs ≤ 2 ^ 63 - 1024 := by
    have hle : d.secs ≤ 2 ^ 63 - 513 := by omega
    calc Binary64.round d.secs ≤ Binary64.round ((2 ^ 63 - 513 : ℕ) : ℚ) :=
          Binary64.round_mono (by positivity) (Nat.cast_le.mpr hle)
      _ = 2 ^ 63 - 1024 := by decide +kernel
  rw [toSeconds_eq]
  calc Binary64.round (Binary64.round d.secs
        + Binary64.round (Binary64.round d.subsecNanos / 1000000000))
      ≤ Binary64.round (2 ^ 63 - 1023) := by
        refine Binary64.round_mono ?_ (by linarith [d.fraction_bounds.2])
        exact add_nonneg (Binary64.round_nonneg (by positivity)) d.fraction_bounds.1
    _ = 2 ^ 63 - 1024 := by decide +kernel

theorem le_toSeconds_of_le_secs {d : Duration} (h : 2 ^ 63 - 512 ≤ d.secs) :
    2 ^ 63 ≤ d.toSeconds := by
  have hsecs : 2 ^ 63 ≤ Binary64.round d.secs := by
    calc (2 : ℚ) ^ 63 = Binary64.round ((2 ^ 63 - 512 : ℕ) : ℚ) := by decide +kernel
      _ ≤ Binary64.round d.secs := Binary64.round_mono (by positivity) (Nat.cast_le.mpr h)
  rw [toSeconds_eq]
  calc (2 : ℚ) ^ 63 = Binary64.round (2 ^ 63) := by decide +kernel
    _ ≤ _ := Binary64.round_mono (by positivity) (by linarith [d.fraction_bounds.1])

theorem ofSeconds?_eq_none_of_le (h : 2 ^ 64 ≤ x) : ofSeconds? x = none := by
  have hsize : ((UInt64.size : ℕ) : ℚ) ≤ x := le_trans (by norm_num [UInt64.size]) h
  rw [ofSeconds?, if_neg (by linarith), if_pos hsize]

end EtcdRoster.Duration
