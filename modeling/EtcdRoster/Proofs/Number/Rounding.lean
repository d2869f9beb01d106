import EtcdRoster.Number.Binary64
import Mathlib.Algebra.Order.Field.Power
import Mathlib.Data.Int.Log
import Mathlib.Data.Rat.Floor
import Mathlib.Tactic.GCongr
import Mathlib.Tactic.Linarith
import Mathlib.Tactic.Positivity

/-!
# Rounding to a double

What the rounding of numbers that are not negative keeps of their order and their size.

* `lastBit_eq` — the grid of a number is given by the whole part of its logarithm.
* `nearestInt_mono`, `nearestInt_intCast` — rounding to a whole number.
* `round_mono` — **rounding keeps the order**: numbers of one size lie on one grid, and between two
  sizes there is a power of two, which is a double.
* `round_le_two_mul` — rounding at most doubles a number, however small it is.
-/

namespace EtcdRoster.Binary64

variable {x y : ℚ}

/-! ## Exponents -/

theorem twoPow_eq (e : ℤ) : twoPow e = (2 : ℚ) ^ e := by
  unfold twoPow
  split
  · rename_i hneg
    obtain ⟨n, rfl⟩ : ∃ n : ℕ, e = -n := ⟨e.natAbs, by omega⟩
    simp [Rat.mkRat_eq_div]
  · rename_i hpos
    obtain ⟨n, rfl⟩ : ∃ n : ℕ, e = n := ⟨e.natAbs, by omega⟩
    simp [Rat.mkRat_eq_div]

/-- The test by which an exponent is chosen compares with its power of two. -/
theorem reached_iff {n d : ℕ} (hd : 0 < d) (e : ℤ) :
    (if e < 0 then d ≤ n * Nat.pow 2 e.natAbs else d * Nat.pow 2 e.natAbs ≤ n) ↔
      (2 : ℚ) ^ e ≤ n / d := by
  have hd' : (0 : ℚ) < d := by exact_mod_cast hd
  rw [le_div_iff₀ hd']
  split
  · rename_i hneg
    obtain ⟨k, rfl⟩ : ∃ k : ℕ, e = -k := ⟨e.natAbs, by omega⟩
    rw [Int.natAbs_neg, Int.natAbs_natCast, zpow_neg, zpow_natCast, inv_mul_le_iff₀ (by positivity),
      mul_comm n]
    exact_mod_cast Iff.rfl
  · rename_i hpos
    obtain ⟨k, rfl⟩ : ∃ k : ℕ, e = k := ⟨e.natAbs, by omega⟩
    rw [Int.natAbs_natCast, zpow_natCast, mul_comm d]
    exact_mod_cast Iff.rfl

/-- The logarithm of a quotient is that of the parts, or one less. -/
theorem quotient_bounds {n d : ℕ} (hn : 0 < n) (hd : 0 < d) :
    (2 : ℚ) ^ ((n.log2 : ℤ) - d.log2 - 1) ≤ n / d ∧
      (n : ℚ) / d < 2 ^ ((n.log2 : ℤ) - d.log2 + 1) := by
  have hlow : ∀ m : ℕ, 0 < m → (2 : ℚ) ^ (m.log2 : ℤ) ≤ m := by
    intro m hm
    rw [zpow_natCast]
    exact_mod_cast Nat.log2_self_le hm.ne'
  have hhigh : ∀ m : ℕ, (m : ℚ) < 2 ^ ((m.log2 : ℤ) + 1) := by
    intro m
    exact_mod_cast Nat.lt_log2_self (n := m)
  have hd' : (0 : ℚ) < d := by exact_mod_cast hd
  constructor
  · rw [le_div_iff₀ hd']
    calc (2 : ℚ) ^ ((n.log2 : ℤ) - d.log2 - 1) * d
        ≤ 2 ^ ((n.log2 : ℤ) - d.log2 - 1) * 2 ^ ((d.log2 : ℤ) + 1) := by
          gcongr
          exact (hhigh d).le
      _ = 2 ^ (n.log2 : ℤ) := by rw [← zpow_add₀ two_ne_zero]; congr 1; omega
      _ ≤ n := hlow n hn
  · rw [div_lt_iff₀ hd']
    calc (n : ℚ) < 2 ^ ((n.log2 : ℤ) + 1) := hhigh n
      _ = 2 ^ ((n.log2 : ℤ) - d.log2 + 1) * 2 ^ (d.log2 : ℤ) := by
        rw [← zpow_add₀ two_ne_zero]; congr 1; omega
      _ ≤ 2 ^ ((n.log2 : ℤ) - d.log2 + 1) * d := by gcongr; exact hlow d hd

/-- An exponent is known by the powers of two around the number. -/
theorem log_eq_of_bounds {e : ℤ} (hlow : (2 : ℚ) ^ e ≤ x) (hhigh : x < 2 ^ (e + 1)) :
    Int.log 2 x = e := by
  have hx : 0 < x := lt_of_lt_of_le (zpow_pos two_pos e) hlow
  have hle : e ≤ Int.log 2 x := (Int.zpow_le_iff_le_log one_lt_two hx).mp (by exact_mod_cast hlow)
  have hlt : Int.log 2 x < e + 1 :=
    (Int.lt_zpow_iff_log_lt one_lt_two hx).mp (by exact_mod_cast hhigh)
  omega

theorem log2_eq {n d : ℕ} (hn : 0 < n) (hd : 0 < d) : log2 n d = Int.log 2 ((n : ℚ) / d) := by
  obtain ⟨hlow, hhigh⟩ := quotient_bounds hn hd
  unfold log2
  by_cases hreached : (2 : ℚ) ^ ((n.log2 : ℤ) - d.log2) ≤ n / d
  · rw [if_pos ((reached_iff hd _).mpr hreached)]
    exact (log_eq_of_bounds hreached hhigh).symm
  · rw [if_neg fun h => hreached ((reached_iff hd _).mp h)]
    exact (log_eq_of_bounds hlow (by rwa [sub_add_cancel, ← not_le])).symm

theorem lastBit_eq (hx : 0 < x) : lastBit x = max (Int.log 2 x - 52) (-1074) := by
  have hnum : 0 < x.num := Rat.num_pos.mpr hx
  have hquotient : (x.num.natAbs : ℚ) / x.den = x := by
    rw [Nat.cast_natAbs, abs_of_pos hnum, Rat.num_div_den]
  rw [lastBit, log2_eq (Int.natAbs_pos.mpr hnum.ne') x.pos, hquotient]

/-! ## Whole numbers -/

theorem floor_eq (x : ℚ) : x.floor = ⌊x⌋ := rfl

theorem nearestInt_bounds (x : ℚ) : x - 1 / 2 ≤ nearestInt x ∧ (nearestInt x : ℚ) ≤ x + 1 / 2 := by
  have hlow := Int.floor_le x
  have hhigh := Int.lt_floor_add_one x
  unfold nearestInt
  dsimp only
  rw [floor_eq]
  split_ifs <;> push_cast <;> constructor <;> linarith

theorem floor_le_nearestInt (x : ℚ) : ⌊x⌋ ≤ nearestInt x := by
  unfold nearestInt
  dsimp only
  rw [floor_eq]
  split_ifs <;> omega

theorem nearestInt_le_floor_add_one (x : ℚ) : nearestInt x ≤ ⌊x⌋ + 1 := by
  unfold nearestInt
  dsimp only
  rw [floor_eq]
  split_ifs <;> omega

theorem nearestInt_mono (h : x ≤ y) : nearestInt x ≤ nearestInt y := by
  obtain hsame | hless := (Int.floor_mono h).eq_or_lt
  · unfold nearestInt
    dsimp only
    rw [floor_eq, floor_eq, hsame]
    split_ifs <;> first | omega | (exfalso; linarith)
  · calc nearestInt x ≤ ⌊x⌋ + 1 := nearestInt_le_floor_add_one x
      _ ≤ ⌊y⌋ := hless
      _ ≤ nearestInt y := floor_le_nearestInt y

/-- What lies below one half goes to zero, so rounding at most doubles. -/
theorem nearestInt_le_two_mul (hx : 0 ≤ x) : (nearestInt x : ℚ) ≤ 2 * x := by
  obtain ⟨-, hhigh⟩ := nearestInt_bounds x
  by_cases hzero : nearestInt x ≤ 0
  · have hzero' : (nearestInt x : ℚ) ≤ 0 := by exact_mod_cast hzero
    linarith
  · have hone : (1 : ℚ) ≤ nearestInt x := by exact_mod_cast not_le.mp hzero
    linarith

theorem nearestInt_intCast (n : ℤ) : nearestInt n = n := by
  unfold nearestInt
  dsimp only
  rw [floor_eq, Int.floor_intCast, sub_self, if_pos (by norm_num)]

/-! ## Doubles -/

theorem round_eq (hx : 0 < x) :
    round x = nearestInt (x / 2 ^ lastBit x) * (2 : ℚ) ^ lastBit x := by
  unfold round
  rw [if_neg hx.ne', twoPow_eq]

theorem round_zero : round 0 = 0 := if_pos rfl

/-- A power of two lies on every grid that is not coarser. -/
theorem exists_eq_mul_zpow {e f : ℤ} (h : e ≤ f) : ∃ n : ℤ, (2 : ℚ) ^ f = n * 2 ^ e := by
  obtain ⟨k, rfl⟩ : ∃ k : ℕ, f = k + e := ⟨(f - e).toNat, by omega⟩
  refine ⟨2 ^ k, ?_⟩
  rw [zpow_add₀ two_ne_zero]
  push_cast
  rfl

/-- A power of two on the grid of a number is not passed by rounding. -/
theorem round_le_zpow {e : ℤ} (hx : 0 < x) (hgrid : lastBit x ≤ e) (h : x ≤ 2 ^ e) :
    round x ≤ 2 ^ e := by
  obtain ⟨n, hn⟩ := exists_eq_mul_zpow hgrid
  have hsteps : nearestInt (x / 2 ^ lastBit x) ≤ n := by
    rw [← nearestInt_intCast n]
    exact nearestInt_mono ((div_le_iff₀ (by positivity)).mpr (hn ▸ h))
  rw [round_eq hx, hn]
  exact mul_le_mul_of_nonneg_right (by exact_mod_cast hsteps) (by positivity)

theorem zpow_le_round {e : ℤ} (hx : 0 < x) (hgrid : lastBit x ≤ e) (h : 2 ^ e ≤ x) :
    2 ^ e ≤ round x := by
  obtain ⟨n, hn⟩ := exists_eq_mul_zpow hgrid
  have hsteps : n ≤ nearestInt (x / 2 ^ lastBit x) := by
    rw [← nearestInt_intCast n]
    exact nearestInt_mono ((le_div_iff₀ (by positivity)).mpr (hn ▸ h))
  rw [round_eq hx, hn]
  exact mul_le_mul_of_nonneg_right (by exact_mod_cast hsteps) (by positivity)

theorem nearestInt_nonneg (hx : 0 ≤ x) : 0 ≤ nearestInt x :=
  (Int.floor_nonneg.mpr hx).trans (floor_le_nearestInt x)

theorem round_nonneg (hx : 0 ≤ x) : 0 ≤ round x := by
  obtain rfl | hx := hx.eq_or_lt
  · exact round_zero.ge
  · have hsteps : (0 : ℚ) ≤ nearestInt (x / 2 ^ lastBit x) := by
      exact_mod_cast nearestInt_nonneg (by positivity)
    rw [round_eq hx]
    positivity

/-- **Rounding keeps the order.** -/
theorem round_mono (hx : 0 ≤ x) (h : x ≤ y) : round x ≤ round y := by
  obtain rfl | hx := hx.eq_or_lt
  · rw [round_zero]
    exact round_nonneg h
  have hy : 0 < y := hx.trans_le h
  have hlog : Int.log 2 x ≤ Int.log 2 y := Int.log_mono_right hx h
  have hlastBit : lastBit x ≤ lastBit y := by
    rw [lastBit_eq hx, lastBit_eq hy]
    omega
  obtain hsame | hfiner := hlastBit.eq_or_lt
  · have hsteps : nearestInt (x / 2 ^ lastBit y) ≤ nearestInt (y / 2 ^ lastBit y) :=
      nearestInt_mono (div_le_div_of_nonneg_right h (by positivity))
    rw [round_eq hx, round_eq hy, hsame]
    exact mul_le_mul_of_nonneg_right (by exact_mod_cast hsteps) (by positivity)
  · -- The greater number is so great that the power of two below it lies between both.
    rw [lastBit_eq hx, lastBit_eq hy] at hfiner
    have hbelow : x ≤ 2 ^ Int.log 2 y := by
      have hx' : x < ((2 : ℕ) : ℚ) ^ Int.log 2 y :=
        (Int.lt_zpow_iff_log_lt one_lt_two hx).mpr (by omega)
      exact_mod_cast hx'.le
    have habove : 2 ^ Int.log 2 y ≤ y := by exact_mod_cast Int.zpow_log_le_self one_lt_two hy
    calc round x ≤ 2 ^ Int.log 2 y := round_le_zpow hx (by rw [lastBit_eq hx]; omega) hbelow
      _ ≤ round y := zpow_le_round hy (by rw [lastBit_eq hy]; omega) habove

/-- Rounding at most doubles a number, however small it is. -/
theorem round_le_two_mul (hx : 0 ≤ x) : round x ≤ 2 * x := by
  obtain rfl | hx := hx.eq_or_lt
  · rw [round_zero, mul_zero]
  · rw [round_eq hx, ← le_div_iff₀ (by positivity), mul_div_assoc]
    exact nearestInt_le_two_mul (by positivity)

end EtcdRoster.Binary64
