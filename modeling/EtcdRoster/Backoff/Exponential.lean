import EtcdRoster.Data.Except
import EtcdRoster.Duration

/-!
# Growing delays

A backoff hands out one delay after another. The interval behind them grows by a factor up to a
ceiling, each delay strays from it at random within a fixed share, and the number of delays can be
limited. Where a delay falls within its range is drawn from outside, as a point of the unit
interval. Delays are counted in 32 bits, so there are never `2 ^ 32` of them in a row.

Main facts: no delay exceeds the ceiling (`delay_le_maximum`), each delay handed out leaves one
fewer of a limited number (`remaining_next`), and a backoff whose interval stays the same never
fails (`Dependable.next_ne_error`).
-/

namespace EtcdRoster

/-- A point of the unit interval. -/
structure Draw where
  val : Rat
  nonneg : 0 ≤ val
  le_one : val ≤ 1

/-- The middle of the unit interval. -/
def Draw.middle : Draw := ⟨1 / 2, by decide +kernel, by decide +kernel⟩

structure Backoff where
  current : Duration
  initial : Duration
  maximum : Duration
  maxRetries : Option Nat
  multiplier : Rat
  jitter : Rat
  retries : Nat := 0

namespace Backoff

/-- Why no delay can be computed. -/
inductive Fault
  /-- The range to draw from is empty or too wide. -/
  | badRange
  /-- A result is no duration. -/
  | outOfRange
  /-- More delays have been handed out than can be counted. -/
  | uncountable
deriving DecidableEq, Inhabited, Repr

def ofInitial (initial maximum : Duration) (maxRetries : Option Nat) (multiplier jitter : Rat) :
    Backoff :=
  { current := initial, initial, maximum, maxRetries, multiplier, jitter }

def duration (x : Rat) : Except Fault Duration :=
  match Duration.ofSeconds? x with
  | some d => .ok d
  | none => .error .outOfRange

/-- The ends of the range that a delay is drawn from, in seconds. -/
def jitterRange (jitter : Rat) (interval : Duration) : Rat × Rat :=
  let secs := interval.toSeconds
  let delta := Binary64.mul secs jitter
  (Binary64.sub secs delta, Binary64.add secs delta)

/-- An interval that strays within its range; without jitter it is kept as it is. -/
def applyJitter (jitter : Rat) (interval : Duration) (draw : Draw) : Except Fault Duration :=
  if jitter = 0 then .ok interval
  else
    let (low, high) := jitterRange jitter interval
    if high < low || !Binary64.isFinite (Binary64.sub high low) then .error .badRange
    else
      let drawn := low + (high - low) * draw.val
      duration (if drawn < 0 then 0 else drawn)

/-- The interval after this one. -/
def grow (b : Backoff) : Except Fault Duration := do
  let next ← duration (Binary64.mul b.current.toSeconds b.multiplier)
  return next.min b.maximum

def isSpent (b : Backoff) : Bool :=
  match b.maxRetries with
  | some limit => limit ≤ b.retries
  | none => false

/-- The delay that is due, cut at the ceiling, and the interval after it. -/
def drawn (b : Backoff) (draw : Draw) : Except Fault (Duration × Duration) := do
  let delay ← applyJitter b.jitter b.current draw
  return (delay.min b.maximum, ← b.grow)

/-- Hands out the next delay, or nothing when all have been handed out, and gives the backoff after
that. The delay is counted first, so one that cannot be computed has been counted all the same. -/
def advance (b : Backoff) (draw : Draw) : Except Fault (Option Duration) × Backoff :=
  if b.isSpent then (.ok none, b)
  else if UInt32.size ≤ b.retries + 1 then (.error .uncountable, b)
  else
    let counted := { b with retries := b.retries + 1 }
    match b.drawn draw with
    | .error fault => (.error fault, counted)
    | .ok (delay, interval) => (.ok (some delay), { counted with current := interval })

/-- The next delay and the backoff after it, or nothing when all delays have been handed out. -/
def next (b : Backoff) (draw : Draw) : Except Fault (Option (Duration × Backoff)) :=
  let (delay?, rest) := b.advance draw
  delay?.map fun delay? => delay?.map (·, rest)

/-- Starts again from the initial interval. -/
def reset (b : Backoff) : Backoff := { b with current := b.initial, retries := 0 }

/-- How many delays of a limited number are left. -/
def remaining (b : Backoff) : Nat := b.maxRetries.getD 0 - b.retries

/-- A delay can be drawn, wherever in the range the draw falls, if the range is one of durations. -/
theorem exists_applyJitter_of_range (jitter : Rat) (interval : Duration)
    (hlow : 0 ≤ (jitterRange jitter interval).1)
    (hordered : (jitterRange jitter interval).1 ≤ (jitterRange jitter interval).2)
    (hhigh : (jitterRange jitter interval).2 + 1 ≤ UInt64.size)
    (hwidth : Binary64.isFinite
      (Binary64.sub (jitterRange jitter interval).2 (jitterRange jitter interval).1) = true)
    (draw : Draw) : ∃ d, applyJitter jitter interval draw = .ok d := by
  unfold applyJitter
  by_cases hnone : jitter = 0
  · exact ⟨interval, if_pos hnone⟩
  rw [if_neg hnone]
  generalize jitterRange jitter interval = range at *
  obtain ⟨low, high⟩ := range
  dsimp only at *
  have hspan : 0 ≤ high - low := by grind
  have hdrawn : 0 ≤ (high - low) * draw.val := Rat.mul_nonneg hspan draw.nonneg
  have hdrawn_le : (high - low) * draw.val ≤ (high - low) * 1 :=
    Rat.mul_le_mul_of_nonneg_left draw.le_one hspan
  obtain ⟨d, hd⟩ := Duration.exists_ofSeconds? (x := low + (high - low) * draw.val)
    (by grind) (by grind)
  rw [if_neg (by simp [hwidth]; grind), if_neg (by grind), duration, hd]
  exact ⟨d, rfl⟩

theorem drawn_eq_ok_iff {b : Backoff} {draw : Draw} {delay interval : Duration} :
    b.drawn draw = .ok (delay, interval) ↔ ∃ d,
      applyJitter b.jitter b.current draw = .ok d ∧ b.grow = .ok interval ∧
        delay = d.min b.maximum := by
  simp only [drawn, Except.bind_eq_ok_iff, pure, Except.pure, Except.ok.injEq, Prod.mk.injEq]
  constructor
  · rintro ⟨d, hd, i, hi, rfl, rfl⟩
    exact ⟨d, hd, hi, rfl⟩
  · rintro ⟨d, hd, hi, rfl⟩
    exact ⟨d, hd, interval, hi, rfl, rfl⟩

/-- Jitter never pushes a delay past the ceiling. -/
theorem delay_le_maximum {b : Backoff} {draw : Draw} {delay interval : Duration}
    (h : b.drawn draw = .ok (delay, interval)) : delay.nanos ≤ b.maximum.nanos := by
  obtain ⟨d, -, -, rfl⟩ := drawn_eq_ok_iff.mp h
  exact Duration.min_le_right d b.maximum

/-- All that can come of asking for a delay. -/
theorem advance_cases (b : Backoff) (draw : Draw) :
    (b.isSpent = true ∧ b.advance draw = (.ok none, b)) ∨
    (b.isSpent = false ∧ UInt32.size ≤ b.retries + 1 ∧
      b.advance draw = (.error .uncountable, b)) ∨
    (b.isSpent = false ∧ b.retries + 1 < UInt32.size ∧ ∃ fault, b.drawn draw = .error fault ∧
      b.advance draw = (.error fault, { b with retries := b.retries + 1 })) ∨
    (b.isSpent = false ∧ b.retries + 1 < UInt32.size ∧ ∃ delay interval,
      b.drawn draw = .ok (delay, interval) ∧
      b.advance draw =
        (.ok (some delay), { b with current := interval, retries := b.retries + 1 })) := by
  unfold advance
  by_cases hspent : b.isSpent = true
  · exact .inl ⟨hspent, if_pos hspent⟩
  rw [if_neg hspent]
  have hunspent : b.isSpent = false := Bool.eq_false_iff.mpr hspent
  by_cases hfull : UInt32.size ≤ b.retries + 1
  · exact .inr (.inl ⟨hunspent, hfull, if_pos hfull⟩)
  rw [if_neg hfull]
  have hcount : b.retries + 1 < UInt32.size := Nat.lt_of_not_le hfull
  cases hdrawn : b.drawn draw with
  | error fault => exact .inr (.inr (.inl ⟨hunspent, hcount, fault, rfl, rfl⟩))
  | ok found => exact .inr (.inr (.inr ⟨hunspent, hcount, found.1, found.2, rfl, rfl⟩))

/-- A delay that has been handed out has been counted. -/
theorem exists_eq_of_next {b rest : Backoff} {draw : Draw} {delay : Duration}
    (h : b.next draw = .ok (some (delay, rest))) :
    b.isSpent = false ∧ ∃ interval,
      rest = { b with current := interval, retries := b.retries + 1 } := by
  rcases b.advance_cases draw with ⟨-, he⟩ | ⟨-, -, he⟩ | ⟨-, -, fault, -, he⟩ |
    ⟨hspent, -, d, i, -, he⟩ <;> rw [next, he] at h <;> cases h
  exact ⟨hspent, i, rfl⟩

/-- A backoff ends exactly if its delays are limited in number and all handed out. -/
theorem next_eq_none_iff {b : Backoff} {draw : Draw} : b.next draw = .ok none ↔ b.isSpent := by
  rcases b.advance_cases draw with ⟨hspent, he⟩ | ⟨hspent, -, he⟩ | ⟨hspent, -, fault, -, he⟩ |
    ⟨hspent, -, d, i, -, he⟩ <;> simp [next, he, hspent, Except.map]

/-- Of a limited number of delays each one handed out leaves one fewer. -/
theorem remaining_next {b rest : Backoff} {draw : Draw} {delay : Duration}
    (limited : b.maxRetries.isSome) (h : b.next draw = .ok (some (delay, rest))) :
    rest.remaining + 1 = b.remaining ∧ rest.maxRetries = b.maxRetries := by
  obtain ⟨hspent, interval, rfl⟩ := exists_eq_of_next h
  obtain ⟨limit, hlimit⟩ := Option.isSome_iff_exists.mp limited
  simp only [isSpent, hlimit, decide_eq_false_iff_not] at hspent
  simp only [remaining, hlimit, Option.getD_some, and_true]
  omega

/-! ## Backoffs without faults -/

/-- A limited number of delays, each of which can be computed, because the interval stays the same.
-/
structure Dependable (b : Backoff) : Prop where
  limited : ∃ limit, b.maxRetries = some limit ∧ limit < UInt32.size
  drawn : ∀ draw, ∃ delay, b.drawn draw = .ok (delay, b.current)

namespace Dependable

variable {b after : Backoff} {draw : Draw} {delay : Duration}

/-- The delays are handed out one after the other until the backoff is spent. -/
theorem next_cases (h : b.Dependable) (draw : Draw) :
    b.next draw = .ok none ∨
      ∃ delay, b.next draw = .ok (some (delay, { b with retries := b.retries + 1 })) := by
  obtain ⟨limit, hlimit, hcountable⟩ := h.limited
  obtain ⟨delay, hdrawn⟩ := h.drawn draw
  rcases b.advance_cases draw with ⟨-, he⟩ | ⟨hspent, hfull, -⟩ | ⟨-, -, fault, hfault, -⟩ |
    ⟨-, -, d, i, hfound, he⟩
  · exact .inl (by rw [next, he]; rfl)
  · simp only [isSpent, hlimit, decide_eq_false_iff_not] at hspent
    omega
  · cases hdrawn.symm.trans hfault
  · cases hdrawn.symm.trans hfound
    exact .inr ⟨delay, by rw [next, he]; rfl⟩

theorem next_ne_error (h : b.Dependable) {fault : Fault} : b.next draw ≠ .error fault := by
  rcases h.next_cases draw with he | ⟨delay, he⟩ <;> rw [he] <;> nofun

theorem of_next (h : b.Dependable) (hnext : b.next draw = .ok (some (delay, after))) :
    after.Dependable := by
  rcases h.next_cases draw with he | ⟨delay, he⟩ <;> cases he.symm.trans hnext
  exact ⟨h.limited, h.drawn⟩

theorem isSome_maxRetries (h : b.Dependable) : b.maxRetries.isSome = true := by
  obtain ⟨limit, hlimit, -⟩ := h.limited
  rw [hlimit]
  rfl

end Dependable

end Backoff

end EtcdRoster
