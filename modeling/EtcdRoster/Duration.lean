import EtcdRoster.Number.Binary64

/-!
# Spans of time

A duration is a whole number of nanoseconds, with fewer than `2 ^ 64` seconds. Arithmetic that needs
fractions goes through doubles: `toSeconds` gives the seconds as a double, `ofSeconds?` goes back to
the nearest nanosecond and refuses what no duration can hold.
-/

namespace EtcdRoster

structure Duration where
  nanos : Nat
  inRange : nanos < UInt64.size * 1000000000 := by decide

namespace Duration

instance : DecidableEq Duration := fun a b =>
  if h : a.nanos = b.nanos then isTrue (by cases a; cases b; cases h; rfl)
  else isFalse fun hab => h (by rw [hab])

def zero : Duration := ⟨0, by decide⟩

instance : Inhabited Duration := ⟨zero⟩

def ofNanos? (nanos : Nat) : Option Duration :=
  if h : nanos < UInt64.size * 1000000000 then some ⟨nanos, h⟩ else none

def ofSecs (secs : UInt64) : Duration :=
  ⟨secs.toNat * 1000000000, Nat.mul_lt_mul_of_pos_right secs.toNat_lt (by decide)⟩

def ofMillis (millis : UInt32) : Duration :=
  ⟨millis.toNat * 1000000, by have := millis.toNat_lt; simp only [UInt64.size]; omega⟩

/-- The whole seconds. -/
def secs (d : Duration) : Nat := d.nanos / 1000000000

/-- The nanoseconds beyond the whole seconds. -/
def subsecNanos (d : Duration) : Nat := d.nanos % 1000000000

/-- The duration in milliseconds, rounded up. -/
def ceilMillis (d : Duration) : Nat := (d.nanos + 999999) / 1000000

def min (a b : Duration) : Duration := if a.nanos ≤ b.nanos then a else b

theorem min_le_right (a b : Duration) : (min a b).nanos ≤ b.nanos := by
  unfold min; split <;> omega

theorem min_le_left (a b : Duration) : (min a b).nanos ≤ a.nanos := by
  unfold min; split <;> omega

/-- The seconds as a double. -/
def toSeconds (d : Duration) : Rat :=
  Binary64.add (Binary64.ofNat d.secs) (Binary64.div (Binary64.ofNat d.subsecNanos) 1000000000)

/-- The duration of a number of seconds, to the nearest nanosecond. -/
def ofSeconds? (x : Rat) : Option Duration :=
  if x < 0 then none
  else if UInt64.size ≤ x then none
  else ofNanos? (Binary64.nearestInt (x * 1000000000)).toNat

/-- A number of seconds that no rounding carries past the range of durations is a duration. -/
theorem exists_ofSeconds? {x : Rat} (hx : 0 ≤ x) (hlimit : x + 1 ≤ UInt64.size) :
    ∃ d, ofSeconds? x = some d := by
  have hsize : ((UInt64.size : Nat) : Rat) = 18446744073709551616 := by decide +kernel
  rw [hsize] at hlimit
  have hfloor : (x * 1000000000).floor ≤ 18446744073709551615000000000 := by
    have hle : x * 1000000000 ≤ 18446744073709551615000000000 := by grind
    have hwhole : (18446744073709551615000000000 : Rat).floor = 18446744073709551615000000000 := by
      decide +kernel
    exact hwhole ▸ Rat.floor_monotone hle
  have hnearest := Binary64.nearestInt_le (x * 1000000000)
  have hnanos : (Binary64.nearestInt (x * 1000000000)).toNat < UInt64.size * 1000000000 := by
    simp only [UInt64.size]
    omega
  refine ⟨⟨_, hnanos⟩, ?_⟩
  rw [ofSeconds?, if_neg (by grind), if_neg (by rw [hsize]; grind), ofNanos?, dif_pos hnanos]

end Duration

end EtcdRoster
