import EtcdRoster.Backoff.Policy
import EtcdRoster.Proofs.Number.Seconds

/-!
# The intervals behind the delays

How the interval of a key grows with its failures in a row, and how far it can grow. Jitter strays
from the interval but does not change it, so the interval depends on the number of failures alone.

* `exists_applyJitter` — up to `2 ^ 63` seconds a delay can always be drawn.
* `exists_grow`, `grow_eq_error` — an interval can be doubled exactly if it is below this limit.
* `exists_intervalAfter_iff` — **how many failures in a row have an interval**: any number under a
  ceiling below the limit, and 71 of them under any other.
* `Settled`, `Settled.advance` — what failures leave of a backoff, those without a delay included.
-/

namespace EtcdRoster.Backoff

variable {b : Backoff} {jitter : Rat} {interval maximum : Duration} {draw : Draw}

/-- The whole seconds from which on an interval can no longer be doubled. -/
def limitSecs : ℕ := 2 ^ 63 - 512

/-! ## Jitter -/

/-- The share of an interval by which jitter strays is small. -/
theorem jitterRange_bounds (hnonneg : 0 ≤ jitter) (hsmall : jitter ≤ 1 / 8)
    (h : interval.secs < limitSecs) :
    0 ≤ (jitterRange jitter interval).1 ∧
      (jitterRange jitter interval).1 ≤ (jitterRange jitter interval).2 ∧
      (jitterRange jitter interval).2 ≤ 2 ^ 63 + 2 ^ 61 := by
  have hsecs := interval.toSeconds_nonneg
  have hlimit := Duration.toSeconds_le_of_secs_lt h
  have hshare : interval.toSeconds * jitter ≤ interval.toSeconds / 8 := by
    rw [div_eq_mul_one_div]
    exact mul_le_mul_of_nonneg_left hsmall hsecs
  have hdelta : Binary64.mul interval.toSeconds jitter ≤ interval.toSeconds / 4 := by
    have hround := Binary64.round_le_two_mul (mul_nonneg hsecs hnonneg)
    rw [Binary64.mul]
    linarith
  have hdelta_nonneg : 0 ≤ Binary64.mul interval.toSeconds jitter :=
    Binary64.round_nonneg (mul_nonneg hsecs hnonneg)
  have hlow : 0 ≤ interval.toSeconds - Binary64.mul interval.toSeconds jitter := by linarith
  refine ⟨Binary64.round_nonneg hlow, Binary64.round_mono hlow (by linarith), ?_⟩
  calc Binary64.round (interval.toSeconds + Binary64.mul interval.toSeconds jitter)
      ≤ Binary64.round (2 ^ 63 + 2 ^ 61) := Binary64.round_mono (by linarith) (by linarith)
    _ = 2 ^ 63 + 2 ^ 61 := by decide +kernel

/-- Below the limit a delay can be drawn, wherever in the range the draw falls. -/
theorem exists_applyJitter (hnonneg : 0 ≤ jitter) (hsmall : jitter ≤ 1 / 8)
    (h : interval.secs < limitSecs) (draw : Draw) :
    ∃ d, applyJitter jitter interval draw = .ok d := by
  obtain ⟨hlow, hordered, hhigh⟩ := jitterRange_bounds hnonneg hsmall h
  have hwidth := sub_nonneg.mpr hordered
  have hround_nonneg := Binary64.round_nonneg hwidth
  have hround_lt :
      Binary64.round ((jitterRange jitter interval).2 - (jitterRange jitter interval).1) <
        2 ^ (65 : ℤ) := by
    have hround := Binary64.round_le_two_mul hwidth
    norm_num
    linarith
  have hhuge : (2 : ℚ) ^ (65 : ℤ) < 2 ^ (1024 : ℤ) := zpow_lt_zpow_right₀ one_lt_two (by decide)
  refine exists_applyJitter_of_range jitter interval hlow hordered ?_ ?_ draw
  · norm_num [UInt64.size]
    linarith
  · simp only [Binary64.isFinite, Binary64.sub, Binary64.twoPow_eq, Bool.and_eq_true,
      decide_eq_true_eq]
    exact ⟨(neg_lt_zero.mpr (zpow_pos two_pos _)).trans_le hround_nonneg, hround_lt.trans hhuge⟩

theorem jitterShare_bounds : 0 ≤ jitterShare ∧ jitterShare ≤ 1 / 8 := by
  constructor <;> decide +kernel

/-! ## Doubling -/

theorem exists_grow (doubles : b.multiplier = 2) (h : b.current.secs < limitSecs) :
    ∃ i, b.grow = .ok i := by
  have hnonneg : 0 ≤ b.current.toSeconds * 2 := mul_nonneg b.current.toSeconds_nonneg two_pos.le
  have hlimit := Duration.toSeconds_le_of_secs_lt h
  have hround : Binary64.round (b.current.toSeconds * 2) ≤ 2 ^ 64 - 2048 := by
    calc Binary64.round (b.current.toSeconds * 2) ≤ Binary64.round (2 ^ 64 - 2048) :=
          Binary64.round_mono hnonneg (by linarith)
      _ = 2 ^ 64 - 2048 := by decide +kernel
  have hlong : Binary64.round (b.current.toSeconds * 2) + 1 ≤ (UInt64.size : ℚ) := by
    norm_num [UInt64.size]
    linarith
  obtain ⟨d, hd⟩ := Duration.exists_ofSeconds? (Binary64.round_nonneg hnonneg) hlong
  refine ⟨d.min b.maximum, ?_⟩
  rw [grow, doubles, Binary64.mul, duration, hd]
  rfl

theorem grow_eq_error (doubles : b.multiplier = 2) (h : limitSecs ≤ b.current.secs) :
    b.grow = .error .outOfRange := by
  have hsecs := Duration.le_toSeconds_of_le_secs h
  have hround : 2 ^ 64 ≤ Binary64.round (b.current.toSeconds * 2) := by
    calc (2 : ℚ) ^ 64 = Binary64.round (2 ^ 64) := by decide +kernel
      _ ≤ Binary64.round (b.current.toSeconds * 2) :=
          Binary64.round_mono (by positivity) (by linarith)
  rw [grow, doubles, Binary64.mul, duration, Duration.ofSeconds?_eq_none_of_le hround]
  rfl

/-! ## Failures in a row -/

/-- The backoff of a key after some failures in a row, which have led to this interval. -/
def queueAfter (maximum interval : Duration) (failures : ℕ) : Backoff :=
  { queue maximum with current := interval, retries := failures }

/-- The interval after some failures in a row. -/
def intervalAfter (maximum : Duration) : ℕ → Except Fault Duration
  | 0 => .ok (.ofMillis queueBaseMillis)
  | k + 1 => do (queueAfter maximum (← intervalAfter maximum k) k).grow

theorem intervalAfter_succ_eq_ok_iff {k : ℕ} :
    intervalAfter maximum (k + 1) = .ok interval ↔
      ∃ i, intervalAfter maximum k = .ok i ∧ (queueAfter maximum i k).grow = .ok interval :=
  Except.bind_eq_ok_iff

theorem grow_queueAfter {i : Duration} {k : ℕ} :
    (queueAfter maximum i k).grow = .ok interval ↔
      ∃ d, duration (Binary64.mul i.toSeconds queueMultiplier) = .ok d ∧
        interval = d.min maximum := by
  refine Except.bind_eq_ok_iff.trans (exists_congr fun d => and_congr_right fun _ => ?_)
  exact ⟨fun h => (Except.ok.inj h).symm, fun h => congrArg Except.ok h.symm⟩

/-- There is an interval after more failures exactly if the one before can be doubled. -/
theorem exists_intervalAfter_succ_iff {k : ℕ} (h : intervalAfter maximum k = .ok interval) :
    (∃ i, intervalAfter maximum (k + 1) = .ok i) ↔ interval.secs < limitSecs := by
  simp only [intervalAfter_succ_eq_ok_iff, h, Except.ok.injEq, exists_eq_left']
  constructor
  · rintro ⟨i, hgrow⟩
    by_contra hsecs
    rw [grow_eq_error rfl (not_lt.mp hsecs)] at hgrow
    cases hgrow
  · exact fun hsecs => exists_grow rfl hsecs

/-- Where there is an interval after some failures, there is one after fewer of them. -/
theorem exists_intervalAfter_of_le {k m : ℕ} (hle : k ≤ m)
    (h : ∃ i, intervalAfter maximum m = .ok i) : ∃ i, intervalAfter maximum k = .ok i := by
  induction m, hle using Nat.le_induction with
  | base => exact h
  | succ m _ ih =>
    obtain ⟨i, hi⟩ := h
    obtain ⟨j, hj, -⟩ := intervalAfter_succ_eq_ok_iff.mp hi
    exact ih ⟨j, hj⟩

/-- Under a ceiling below the limit every interval can be doubled. -/
theorem intervalAfter_of_secs_lt (hmaximum : maximum.secs < limitSecs) (k : ℕ) :
    ∃ i, intervalAfter maximum k = .ok i ∧ i.secs < limitSecs := by
  induction k with
  | zero => exact ⟨_, rfl, by decide⟩
  | succ k ih =>
    obtain ⟨i, hi, hsecs⟩ := ih
    obtain ⟨j, hj⟩ := (exists_intervalAfter_succ_iff hi).mpr hsecs
    refine ⟨j, hj, ?_⟩
    obtain ⟨_, -, hgrow⟩ := intervalAfter_succ_eq_ok_iff.mp hj
    obtain ⟨d, -, rfl⟩ := grow_queueAfter.mp hgrow
    exact (Nat.div_le_div_right (Duration.min_le_right d maximum)).trans_lt hmaximum

/-! ## The highest ceiling -/

/-- The greatest whole number of seconds. -/
def greatest : Duration := .ofSecs (-1)

theorem limitSecs_le_greatest : limitSecs ≤ greatest.secs := by decide +kernel

/-- Under the highest ceiling the first 70 failures leave an interval below the limit, and one more
carries it past the limit. -/
theorem intervalAfter_greatest :
    (∀ k < 71, ∃ i, intervalAfter greatest k = .ok i ∧ i.secs < limitSecs) ∧
      ∃ i, intervalAfter greatest 71 = .ok i ∧ limitSecs ≤ i.secs := by
  have hbelow : ∀ k < 71, (intervalAfter greatest k).toOption.any (·.secs < limitSecs) = true := by
    decide +kernel
  have hpast : (intervalAfter greatest 71).toOption.any (limitSecs ≤ ·.secs) = true := by
    decide +kernel
  constructor
  · intro k hk
    obtain ⟨i, hi, hsecs⟩ := Except.exists_of_any_toOption (hbelow k hk)
    exact ⟨i, hi, of_decide_eq_true hsecs⟩
  · obtain ⟨i, hi, hsecs⟩ := Except.exists_of_any_toOption hpast
    exact ⟨i, hi, of_decide_eq_true hsecs⟩

/-- A ceiling of more whole seconds is not reached. -/
theorem min_eq_left_of_secs_lt {a c : Duration} (h : a.secs < c.secs) : a.min c = a := by
  have hnanos : a.nanos ≤ c.nanos := by
    unfold Duration.secs at h
    omega
  exact if_pos hnanos

/-- What stays below its ceiling has not been cut. -/
theorem min_eq_left_of_min_secs_lt {a c : Duration} (h : (a.min c).secs < c.secs) :
    a.min c = a := by
  unfold Duration.min at h ⊢
  split
  · rfl
  · rename_i hcut
    rw [if_neg hcut] at h
    exact absurd h (lt_irrefl _)

/-- As long as the interval is below the limit, all ceilings from the limit on do the same. -/
theorem intervalAfter_eq_greatest (hmaximum : limitSecs ≤ maximum.secs) {k : ℕ} (hk : k < 71) :
    intervalAfter maximum k = intervalAfter greatest k := by
  induction k with
  | zero => rfl
  | succ k ih =>
    obtain ⟨j, hj, hsecs⟩ := intervalAfter_greatest.1 (k + 1) hk
    obtain ⟨i, hi, hgrow⟩ := intervalAfter_succ_eq_ok_iff.mp hj
    obtain ⟨d, hd, rfl⟩ := grow_queueAfter.mp hgrow
    have huncut : d.min greatest = d :=
      min_eq_left_of_min_secs_lt (hsecs.trans_le limitSecs_le_greatest)
    rw [huncut] at hsecs
    rw [hj, intervalAfter_succ_eq_ok_iff]
    refine ⟨i, (ih (by omega)).trans hi, grow_queueAfter.mpr ⟨d, hd, ?_⟩⟩
    rw [huncut, min_eq_left_of_secs_lt (hsecs.trans_le hmaximum)]

/-- The 71st failure carries the interval past the limit, if the ceiling lets it. -/
theorem limitSecs_le_intervalAfter (hmaximum : limitSecs ≤ maximum.secs)
    (h : intervalAfter maximum 71 = .ok interval) : limitSecs ≤ interval.secs := by
  obtain ⟨i, hi, hgrow⟩ := intervalAfter_succ_eq_ok_iff.mp h
  obtain ⟨j, hj, hpast⟩ := intervalAfter_greatest.2
  obtain ⟨i', hi', hgrow'⟩ := intervalAfter_succ_eq_ok_iff.mp hj
  rw [intervalAfter_eq_greatest hmaximum (by decide), hi'] at hi
  cases hi
  obtain ⟨d, hd, rfl⟩ := grow_queueAfter.mp hgrow
  obtain ⟨d', hd', rfl⟩ := grow_queueAfter.mp hgrow'
  rw [hd] at hd'
  cases hd'
  have hlong : limitSecs ≤ d.secs :=
    hpast.trans (Nat.div_le_div_right (Duration.min_le_left d greatest))
  unfold Duration.min
  split
  · exact hlong
  · exact hmaximum

/-- **How many failures in a row have an interval**: any number under a ceiling below the limit, and
71 of them under any other. -/
theorem exists_intervalAfter_iff {k : ℕ} :
    (∃ i, intervalAfter maximum k = .ok i) ↔ maximum.secs < limitSecs ∨ k < 72 := by
  obtain hlow | hhigh := lt_or_ge maximum.secs limitSecs
  · obtain ⟨i, hi, -⟩ := intervalAfter_of_secs_lt hlow k
    exact iff_of_true ⟨i, hi⟩ (.inl hlow)
  · obtain ⟨i, hi, hsecs⟩ := intervalAfter_greatest.1 70 (by decide)
    rw [← intervalAfter_eq_greatest hhigh (by decide)] at hi
    have hlast : ∃ j, intervalAfter maximum 71 = .ok j :=
      (exists_intervalAfter_succ_iff hi).mpr hsecs
    constructor
    · intro h
      refine .inr (by_contra fun hmany => ?_)
      obtain ⟨j, hj⟩ := hlast
      have hpast := limitSecs_le_intervalAfter hhigh hj
      have hnext : ∃ i, intervalAfter maximum 72 = .ok i :=
        exists_intervalAfter_of_le (by omega) h
      exact absurd ((exists_intervalAfter_succ_iff hj).mp hnext) (not_lt.mpr hpast)
    · rintro (hlow | hfew)
      · exact absurd hlow (not_lt.mpr hhigh)
      · exact exists_intervalAfter_of_le (by omega) hlast

/-! ## Backoffs that have failed -/

/-- A backoff is as its failures have left it: it grows to the interval after one more of them, if
there is one. An interval that cannot be doubled any more stays what it is. -/
def Settled (maximum : Duration) (b : Backoff) : Prop :=
  ∃ i, b = queueAfter maximum i b.retries ∧
    ∀ j, b.grow = .ok j ↔ intervalAfter maximum (b.retries + 1) = .ok j

theorem settled_queue (maximum : Duration) : Settled maximum (queue maximum) := by
  refine ⟨_, rfl, fun j => ?_⟩
  simp only [queue, ofInitial, intervalAfter, Except.bind_eq_ok_iff, Except.ok.injEq,
    exists_eq_left']
  rfl

namespace Settled

theorem maximum_eq (h : b.Settled maximum) : b.maximum = maximum := by
  obtain ⟨i, hb, -⟩ := h
  rw [hb]
  rfl

theorem maxRetries_eq (h : b.Settled maximum) : b.maxRetries = none := by
  obtain ⟨i, hb, -⟩ := h
  rw [hb]
  rfl

theorem isSpent_eq_false (h : b.Settled maximum) : b.isSpent = false := by
  simp [isSpent, h.maxRetries_eq]

/-- A delay is drawn exactly if there is an interval after it. -/
theorem exists_drawn_iff (h : b.Settled maximum) (draw : Draw) :
    (∃ delay interval, b.drawn draw = .ok (delay, interval)) ↔
      ∃ j, intervalAfter maximum (b.retries + 1) = .ok j := by
  obtain ⟨i, hb, hgrow⟩ := h
  simp only [drawn_eq_ok_iff, ← hgrow]
  constructor
  · rintro ⟨-, j, -, -, hj, -⟩
    exact ⟨j, hj⟩
  · rintro ⟨j, hj⟩
    have hshort : b.current.secs < limitSecs := by
      by_contra hlong
      rw [grow_eq_error (by rw [hb]; rfl) (not_lt.mp hlong)] at hj
      cases hj
    obtain ⟨d, hd⟩ := exists_applyJitter jitterShare_bounds.1 jitterShare_bounds.2 hshort draw
    exact ⟨_, j, d, by rw [show b.jitter = jitterShare by rw [hb]; rfl]; exact hd, hj, rfl⟩

/-- All that can come of asking such a backoff for a delay. -/
theorem advance_cases (h : b.Settled maximum) (draw : Draw) :
    (UInt32.size ≤ b.retries + 1 ∧ b.advance draw = (.error .uncountable, b)) ∨
    (b.retries + 1 < UInt32.size ∧ (¬ ∃ j, intervalAfter maximum (b.retries + 1) = .ok j) ∧
      ∃ fault, b.advance draw = (.error fault, { b with retries := b.retries + 1 })) ∨
    (b.retries + 1 < UInt32.size ∧ ∃ delay j, delay.nanos ≤ maximum.nanos ∧
      intervalAfter maximum (b.retries + 1) = .ok j ∧
      b.advance draw = (.ok (some delay), { b with current := j, retries := b.retries + 1 })) := by
  rcases b.advance_cases draw with ⟨hspent, -⟩ | ⟨-, hfull, he⟩ | ⟨-, hcount, fault, hfault, he⟩ |
    ⟨-, hcount, delay, j, hdrawn, he⟩
  · exact absurd h.isSpent_eq_false (by simp [hspent])
  · exact .inl ⟨hfull, he⟩
  · refine .inr (.inl ⟨hcount, fun hinterval => ?_, fault, he⟩)
    obtain ⟨delay, j, hdrawn⟩ := (h.exists_drawn_iff draw).mpr hinterval
    cases hdrawn.symm.trans hfault
  · have hcut := delay_le_maximum hdrawn
    rw [h.maximum_eq] at hcut
    obtain ⟨-, -, hj, -⟩ := drawn_eq_ok_iff.mp hdrawn
    obtain ⟨i, -, hgrow⟩ := h
    exact .inr (.inr ⟨hcount, delay, j, hcut, (hgrow j).mp hj, he⟩)

/-- A failure leaves a backoff as it is to be left, whether there is a delay or not. -/
theorem advance (h : b.Settled maximum) (draw : Draw) : (b.advance draw).2.Settled maximum := by
  rcases h.advance_cases draw with ⟨-, he⟩ | ⟨-, hnone, fault, he⟩ | ⟨-, delay, j, -, hj, he⟩ <;>
    rw [he]
  · exact h
  · obtain ⟨i, hb, hgrow⟩ := h
    refine ⟨i, by rw [hb]; rfl, fun k => iff_of_false (fun hk => hnone ⟨k, (hgrow k).mp hk⟩) ?_⟩
    exact fun hk => hnone (exists_intervalAfter_of_le (Nat.le_succ _) ⟨k, hk⟩)
  · obtain ⟨i, hb, -⟩ := h
    refine ⟨j, by rw [hb]; rfl, fun k => ?_⟩
    dsimp only
    rw [intervalAfter_succ_eq_ok_iff, hj]
    simp only [Except.ok.injEq, exists_eq_left']
    rw [hb]
    rfl

end Settled

end EtcdRoster.Backoff
