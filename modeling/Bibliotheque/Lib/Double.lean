import Mathlib.Data.Int.Log
import Mathlib.Data.Rat.Floor
import Mathlib.Tactic.Linarith
import Mathlib.Tactic.Positivity
import Mathlib.Tactic.NormNum

/-! # Double-precision numbers

A double is the rational it stands for or an infinity; `round` takes a rational to the nearest
double, a tie to the even significand. Zeros are not told apart and there is no NaN: neither is
reached by reading a decimal, by a division by a constant, or by `floor`.

Integers below `2 ^ 53` in magnitude are exact (`round_intCast`); what lies below `-2 ^ 53` stays
there (`round_le_of_le`); and a quotient of integers that is not too large keeps its integer part
(`floor_round_div`). -/

namespace Lib

inductive Double where
  | finite (x : ℚ)
  | infinite (negative : Bool)
  deriving DecidableEq

/-- The nearest integer, a tie to the even one. -/
def roundEven (x : ℚ) : ℤ :=
  if x - ⌊x⌋ < 1 / 2 then ⌊x⌋
  else if 1 / 2 < x - ⌊x⌋ then ⌊x⌋ + 1
  else if ⌊x⌋ % 2 = 0 then ⌊x⌋ else ⌊x⌋ + 1

theorem roundEven_intCast (z : ℤ) : roundEven z = z := by
  have hsmall : ((z : ℚ) - ⌊(z : ℚ)⌋) < 1 / 2 := by
    rw [Int.floor_intCast, sub_self]
    norm_num
  rw [roundEven, if_pos hsmall, Int.floor_intCast]

theorem abs_roundEven_sub_le (x : ℚ) : |(roundEven x : ℚ) - x| ≤ 1 / 2 := by
  have hlow := Int.floor_le x
  have hhigh := Int.lt_floor_add_one x
  rw [roundEven, abs_le]
  split_ifs <;> push_cast <;> constructor <;> linarith

/-- Rounding does not cross an integer. -/
theorem le_roundEven {z : ℤ} {x : ℚ} (h : (z : ℚ) ≤ x) : z ≤ roundEven x := by
  have hfloor : z ≤ ⌊x⌋ := Int.le_floor.mpr h
  rw [roundEven]
  split_ifs <;> omega

theorem roundEven_le {z : ℤ} {x : ℚ} (h : x ≤ z) : roundEven x ≤ z := by
  by_contra hlt
  have hnext : ((z + 1 : ℤ) : ℚ) ≤ roundEven x := by exact_mod_cast (not_le.mp hlt)
  have herror := (abs_le.mp (abs_roundEven_sub_le x)).2
  have hfloor : ⌊x⌋ ≤ z := Int.floor_le_iff.mpr (by linarith)
  rcases hfloor.lt_or_eq with hlow | heq
  · have : roundEven x ≤ ⌊x⌋ + 1 := by rw [roundEven]; split_ifs <;> omega
    omega
  · -- the integer part is `z` itself, so `x` is `z`
    have hx : x = (z : ℚ) := le_antisymm h (by rw [← heq]; exact Int.floor_le x)
    rw [hx, roundEven_intCast] at hlt
    exact hlt le_rfl

namespace Double

/-- The exponent of the last place: 53 bits from the first one, but not below the subnormals. -/
def quantum (x : ℚ) : ℤ := max (Int.log 2 |x| - 52) (-1074)

/-- `x` on the grid of its last place. -/
def nearest (x : ℚ) : ℚ := roundEven (x / 2 ^ quantum x) * 2 ^ quantum x

def round (x : ℚ) : Double :=
  if |nearest x| < 2 ^ 1024 then .finite (nearest x) else .infinite (decide (nearest x < 0))

def floor : Double → Double
  | .finite x => .finite ⌊x⌋
  | .infinite negative => .infinite negative

def le : Double → Double → Bool
  | .finite x, .finite y => decide (x ≤ y)
  | .infinite negative, .finite _ => negative
  | .finite _, .infinite negative => !negative
  | .infinite negative, .infinite negative' => negative || !negative'

theorem quantum_le {x : ℚ} {k : ℕ} (hx : |x| < 2 ^ k) (hne : x ≠ 0) : quantum x ≤ (k : ℤ) - 53 := by
  have hlog : Int.log 2 |x| < k := by
    rw [← Int.lt_zpow_iff_log_lt one_lt_two (abs_pos.mpr hne)]
    exact_mod_cast hx
  rw [quantum]
  omega

theorem scale_pos (x : ℚ) : (0 : ℚ) < 2 ^ quantum x := zpow_pos two_pos _

theorem lt_overflow {x : ℚ} (hx : x < 2 ^ 55) : x < 2 ^ 1024 :=
  hx.trans (pow_lt_pow_right₀ one_lt_two (by norm_num))

/-- Half a unit of the last place, at most. -/
theorem abs_nearest_sub_le (x : ℚ) : |nearest x - x| ≤ 2 ^ quantum x / 2 := by
  have hpos := scale_pos x
  have heq : nearest x - x = (roundEven (x / 2 ^ quantum x) - x / 2 ^ quantum x) * 2 ^ quantum x := by
    rw [nearest, sub_mul, div_mul_cancel₀ _ hpos.ne']
  rw [heq, abs_mul, abs_of_pos hpos]
  have herror := mul_le_mul_of_nonneg_right (abs_roundEven_sub_le (x / 2 ^ quantum x)) hpos.le
  linarith

theorem nearest_zero : nearest 0 = 0 := by
  have h := roundEven_intCast 0
  rw [Int.cast_zero] at h
  rw [nearest, zero_div, h, Int.cast_zero, zero_mul]

/-- On a grid that is fine enough, the integers are grid points. -/
theorem intCast_div_scale {x : ℚ} (hq : quantum x ≤ 0) (z : ℤ) :
    ∃ m : ℤ, (z : ℚ) / 2 ^ quantum x = m := by
  obtain ⟨n, hn⟩ := Int.eq_ofNat_of_zero_le (neg_nonneg.mpr hq)
  refine ⟨z * 2 ^ n, ?_⟩
  rw [show quantum x = -(n : ℤ) by omega, zpow_neg, div_inv_eq_mul, zpow_natCast]
  push_cast
  rfl

theorem le_nearest {x : ℚ} (hq : quantum x ≤ 0) {z : ℤ} (h : (z : ℚ) ≤ x) : (z : ℚ) ≤ nearest x := by
  obtain ⟨m, hm⟩ := intCast_div_scale hq z
  have hpos := scale_pos x
  have hgrid : (m : ℚ) ≤ x / 2 ^ quantum x := by
    rw [← hm]
    exact div_le_div_of_nonneg_right h hpos.le
  have hround : (m : ℚ) ≤ roundEven (x / 2 ^ quantum x) := by exact_mod_cast le_roundEven hgrid
  calc (z : ℚ) = m * 2 ^ quantum x := by rw [← hm, div_mul_cancel₀ _ hpos.ne']
    _ ≤ nearest x := mul_le_mul_of_nonneg_right hround hpos.le

/-- **Integers below `2 ^ 53` are exact.** -/
theorem round_intCast {z : ℤ} (hz : |z| < 2 ^ 53) : round z = .finite z := by
  have hbound : |(z : ℚ)| < 2 ^ 53 := by exact_mod_cast hz
  have hexact : nearest z = z := by
    rcases eq_or_ne z 0 with rfl | hne
    · rw [Int.cast_zero, nearest_zero]
    · have hq : quantum z ≤ 0 := quantum_le hbound (by exact_mod_cast hne)
      obtain ⟨m, hm⟩ := intCast_div_scale hq z
      rw [nearest, hm, roundEven_intCast, ← hm, div_mul_cancel₀ _ (scale_pos _).ne']
  have hfinite : |nearest (z : ℚ)| < 2 ^ 1024 := by
    rw [hexact]
    exact lt_overflow (hbound.trans (by norm_num))
  rw [round, if_pos hfinite, hexact]

theorem nearest_le_of_le {x : ℚ} (hx : x ≤ -2 ^ 53) : nearest x ≤ -2 ^ 53 := by
  have habs : (2 : ℚ) ^ 53 ≤ |x| := by
    rw [abs_of_neg (by linarith)]
    linarith
  have hpos : 0 < |x| := lt_of_lt_of_le (by norm_num) habs
  have hlog : 53 ≤ Int.log 2 |x| := by
    rw [← Int.zpow_le_iff_le_log one_lt_two hpos]
    exact_mod_cast habs
  have hq : quantum x = Int.log 2 |x| - 52 := by
    rw [quantum]
    omega
  have hscale := scale_pos x
  -- the leading bit of `x` is the `52`nd of its grid
  have hlead : (2 : ℚ) ^ (52 : ℤ) * 2 ^ quantum x = 2 ^ Int.log 2 |x| := by
    rw [← zpow_add₀ two_ne_zero, hq]
    congr 1
    omega
  have hgrid : x / 2 ^ quantum x ≤ ((-2 ^ 52 : ℤ) : ℚ) := by
    rw [div_le_iff₀ hscale]
    have hself : ((2 : ℕ) : ℚ) ^ Int.log 2 |x| ≤ |x| := Int.zpow_log_le_self one_lt_two hpos
    rw [abs_of_neg (by linarith)] at hself hlead
    push_cast at hself ⊢
    have : (2 : ℚ) ^ 52 * 2 ^ quantum x = 2 ^ (52 : ℤ) * 2 ^ quantum x := by norm_cast
    linarith
  have hround : (roundEven (x / 2 ^ quantum x) : ℚ) ≤ -2 ^ 52 := by exact_mod_cast roundEven_le hgrid
  have htwo : (2 : ℚ) ≤ 2 ^ quantum x := by
    calc (2 : ℚ) = 2 ^ (1 : ℤ) := (zpow_one 2).symm
      _ ≤ 2 ^ quantum x := zpow_le_zpow_right₀ one_le_two (by omega)
  calc nearest x ≤ -2 ^ 52 * 2 ^ quantum x := mul_le_mul_of_nonneg_right hround hscale.le
    _ ≤ -2 ^ 53 := by linarith

/-- **What is below `-2 ^ 53` stays there**, or becomes minus infinity. -/
theorem round_le_of_le {x y : ℚ} (hx : x ≤ -2 ^ 53) (hy : -2 ^ 53 ≤ y) :
    (round x).le (.finite y) = true := by
  have hle := nearest_le_of_le hx
  rw [round]
  split
  · exact decide_eq_true (hle.trans hy)
  · exact decide_eq_true (lt_of_le_of_lt hle (by norm_num))

/-- The error of a quotient that is not too large is less than the distance between quotients. -/
theorem abs_nearest_sub_lt {x : ℚ} {d : ℤ} {k : ℕ} (hd : 0 < d) (hx : |x| < 2 ^ k) (hne : x ≠ 0)
    (hk : d * 2 ^ k < 2 ^ 54) : |nearest x - x| < 1 / d := by
  have hdq : (0 : ℚ) < d := by exact_mod_cast hd
  have hhalf : (2 : ℚ) ^ quantum x / 2 ≤ 2 ^ k / 2 ^ 54 := by
    have hmono : (2 : ℚ) ^ quantum x ≤ 2 ^ ((k : ℤ) - 53) :=
      zpow_le_zpow_right₀ one_le_two (quantum_le hx hne)
    rw [zpow_sub₀ two_ne_zero, zpow_natCast] at hmono
    have : (2 : ℚ) ^ k / 2 ^ (53 : ℤ) = 2 ^ k / 2 ^ 54 * 2 := by norm_num; ring
    linarith
  have hsmall : (2 : ℚ) ^ k / 2 ^ 54 < 1 / d := by
    rw [div_lt_div_iff₀ (by positivity) hdq, one_mul, mul_comm]
    exact_mod_cast hk
  exact lt_of_le_of_lt ((abs_nearest_sub_le _).trans hhalf) hsmall

/-- A quotient is at least its integer part, and at least one unit away from the next integer. -/
theorem ediv_bounds (t : ℤ) {d : ℤ} (hd : 0 < d) :
    ((t / d : ℤ) : ℚ) ≤ t / d ∧ (t : ℚ) / d + 1 / d ≤ (t / d : ℤ) + 1 := by
  have hdq : (0 : ℚ) < d := by exact_mod_cast hd
  constructor
  · rw [le_div_iff₀ hdq]
    exact_mod_cast Int.ediv_mul_le t hd.ne'
  · rw [← add_div, div_le_iff₀ hdq]
    have : t + 1 ≤ (t / d + 1) * d := Int.lt_ediv_add_one_mul_self t hd
    exact_mod_cast this

/-- **A quotient of integers keeps its integer part**, as long as half a unit of the last place is
less than the distance to the next integer. -/
theorem floor_round_div {t d : ℤ} {k : ℕ} (hd : 0 < d) (ht : |t| < d * 2 ^ k)
    (hk : d * 2 ^ k < 2 ^ 54) : (round ((t : ℚ) / d)).floor = .finite ((t / d : ℤ) : ℚ) := by
  have hdq : (0 : ℚ) < d := by exact_mod_cast hd
  rcases eq_or_ne t 0 with rfl | hne
  · rw [Int.cast_zero, zero_div, Int.zero_ediv, ← Int.cast_zero, round_intCast (by norm_num), floor,
      Int.floor_intCast]
  have hx : |(t : ℚ) / d| < 2 ^ k := by
    rw [abs_div, abs_of_pos hdq, div_lt_iff₀ hdq, mul_comm]
    exact_mod_cast ht
  have hk54 : k < 54 := by
    by_contra hbig
    have hpow : (2 : ℤ) ^ 54 ≤ 2 ^ k := pow_le_pow_right₀ (by norm_num) (not_lt.mp hbig)
    nlinarith [show (1 : ℤ) ≤ d from hd]
  have hneq : (t : ℚ) / d ≠ 0 := div_ne_zero (by exact_mod_cast hne) hdq.ne'
  have herror := abs_nearest_sub_lt hd hx hneq hk
  have hquantum := quantum_le hx hneq
  obtain ⟨hpart, hnext⟩ := ediv_bounds t hd
  obtain ⟨-, hup⟩ := abs_lt.mp herror
  have hlow : ((t / d : ℤ) : ℚ) ≤ nearest ((t : ℚ) / d) := le_nearest (by omega) hpart
  have hfloor : ⌊nearest ((t : ℚ) / d)⌋ = t / d := Int.floor_eq_iff.mpr ⟨hlow, by linarith⟩
  have hfinite : |nearest ((t : ℚ) / d)| < 2 ^ 1024 := by
    have htriangle : |nearest ((t : ℚ) / d)| ≤ |nearest ((t : ℚ) / d) - t / d| + |(t : ℚ) / d| := by
      simpa using abs_add_le (nearest ((t : ℚ) / d) - t / d) ((t : ℚ) / d)
    have hone : (1 : ℚ) / d ≤ 1 := by
      rw [div_le_one hdq]
      exact_mod_cast hd
    have hkq : (2 : ℚ) ^ k ≤ 2 ^ 54 := pow_le_pow_right₀ one_le_two hk54.le
    refine lt_overflow ?_
    linarith
  rw [round, if_pos hfinite, floor, hfloor]

end Double

end Lib
