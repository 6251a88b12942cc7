import Mathlib.Data.Int.Log
import Mathlib.Data.Rat.Floor
import Mathlib.Tactic.Linarith
import Mathlib.Tactic.Positivity
import Mathlib.Tactic.FieldSimp

/-!
A rational rounded to a number of significant digits, half to even, with a
least exponent. Rounding keeps the order (`round_mono`) and what has few
digits (`round_short`), and moves a number by at most a unit of the last digit.
-/
namespace Automation.Rounding

/-- The nearest integer, of two the even one. -/
def half_even (x : ℚ) : ℤ :=
  if Int.fract x < 1 / 2 then ⌊x⌋
  else if 1 / 2 < Int.fract x then ⌊x⌋ + 1
  else ⌊x⌋ + ⌊x⌋ % 2

theorem floor_le_half_even (x : ℚ) : ⌊x⌋ ≤ half_even x := by
  unfold half_even
  split_ifs <;> omega

theorem half_even_le (x : ℚ) : half_even x ≤ ⌊x⌋ + 1 := by
  unfold half_even
  split_ifs <;> omega

@[simp] theorem half_even_int (n : ℤ) : half_even n = n := by
  simp [half_even]

theorem half_even_mono {x y : ℚ} (below : x ≤ y) : half_even x ≤ half_even y := by
  rcases (Int.floor_mono below).lt_or_eq with earlier | same
  · have := half_even_le x
    have := floor_le_half_even y
    omega
  · have fractions : Int.fract x ≤ Int.fract y := by
      unfold Int.fract
      rw [same]
      linarith
    unfold half_even
    rw [same]
    split_ifs with low low' high' high low' high' <;> first | omega | (exfalso; linarith)

section
variable (base digits : ℕ) (least : ℤ)

/-- The nearest multiple of a power of the base. -/
def round_at (exponent : ℤ) (x : ℚ) : ℚ := half_even (x / (base : ℚ) ^ exponent) * (base : ℚ) ^ exponent

/-- The exponent of the last digit that is kept. -/
def last (x : ℚ) : ℤ := max (Int.log base |x| + 1 - digits) least

def round (x : ℚ) : ℚ := round_at base (last base digits least x) x

end

section
variable {base digits : ℕ} {least : ℤ}

theorem power_pos (large : 1 < base) (exponent : ℤ) : (0 : ℚ) < (base : ℚ) ^ exponent :=
  zpow_pos (by exact_mod_cast (by omega : 0 < base)) exponent

theorem round_at_mono (large : 1 < base) (exponent : ℤ) {x y : ℚ} (below : x ≤ y) :
    round_at base exponent x ≤ round_at base exponent y := by
  have unit := power_pos large exponent
  have nearest : half_even (x / (base : ℚ) ^ exponent) ≤ half_even (y / (base : ℚ) ^ exponent) :=
    half_even_mono (div_le_div_of_nonneg_right below unit.le)
  exact mul_le_mul_of_nonneg_right (by exact_mod_cast nearest) unit.le

theorem round_at_multiple (large : 1 < base) (exponent n : ℤ) :
    round_at base exponent (n * (base : ℚ) ^ exponent) = n * (base : ℚ) ^ exponent := by
  rw [round_at,mul_div_cancel_right₀ _ (power_pos large exponent).ne',half_even_int]

theorem round_at_power (large : 1 < base) {exponent higher : ℤ} (low : exponent ≤ higher) (n : ℤ) :
    round_at base exponent (n * (base : ℚ) ^ higher) = n * (base : ℚ) ^ higher := by
  have nonzero : (base : ℚ) ≠ 0 := by exact_mod_cast (by omega : base ≠ 0)
  obtain ⟨gap,rfl⟩ := Int.le.dest low
  have shifted : (n : ℚ) * (base : ℚ) ^ (exponent + gap) = ((n * (base : ℤ) ^ gap : ℤ) : ℚ) * (base : ℚ) ^ exponent := by
    rw [zpow_add₀ nonzero,zpow_natCast]
    push_cast
    ring
  rw [shifted,round_at_multiple large]

theorem round_nonneg (large : 1 < base) {x : ℚ} (nonneg : 0 ≤ x) : 0 ≤ round base digits least x := by
  have zero := round_at_multiple large (last base digits least x) 0
  rw [Int.cast_zero,zero_mul] at zero
  exact zero.symm.trans_le (round_at_mono large _ nonneg)

theorem round_nonpos (large : 1 < base) {x : ℚ} (nonpos : x ≤ 0) : round base digits least x ≤ 0 := by
  have zero := round_at_multiple large (last base digits least x) 0
  rw [Int.cast_zero,zero_mul] at zero
  exact (round_at_mono large _ nonpos).trans_eq zero

/-- Numbers of different lengths have a power of the base between them, which both roundings keep. -/
theorem round_mono (large : 1 < base) (some_digit : 1 ≤ digits) {x y : ℚ} (below : x ≤ y) (nonneg : 0 ≤ y) :
    round base digits least x ≤ round base digits least y := by
  rcases le_or_gt x 0 with negative | positive
  · exact (round_nonpos large negative).trans (round_nonneg large nonneg)
  · have y_positive : 0 < y := positive.trans_le below
    have logs : Int.log base |x| ≤ Int.log base |y| := by
      rw [abs_of_pos positive,abs_of_pos y_positive]
      exact Int.log_mono_right positive below
    have lasts : last base digits least x ≤ last base digits least y := max_le_max (by omega) le_rfl
    rcases lasts.lt_or_eq with shorter | same
    · have kept : last base digits least y = Int.log base |y| + 1 - digits := by
        unfold last at shorter ⊢
        omega
      have x_low : Int.log base |x| < Int.log base |y| := by
        unfold last at shorter kept
        omega
      have x_below : x ≤ ((1 : ℤ) : ℚ) * (base : ℚ) ^ Int.log base |y| := by
        rw [Int.cast_one,one_mul,← abs_of_pos positive]
        exact ((Int.lt_zpow_iff_log_lt large (abs_pos.mpr positive.ne')).mpr x_low).le
      have y_above : ((1 : ℤ) : ℚ) * (base : ℚ) ^ Int.log base |y| ≤ y := by
        rw [Int.cast_one,one_mul]
        exact (Int.zpow_log_le_self large (abs_pos.mpr y_positive.ne')).trans_eq (abs_of_pos y_positive)
      calc round base digits least x
          ≤ round_at base (last base digits least x) ((1 : ℤ) * (base : ℚ) ^ Int.log base |y|) :=
            round_at_mono large _ x_below
        _ = round_at base (last base digits least y) ((1 : ℤ) * (base : ℚ) ^ Int.log base |y|) := by
            rw [round_at_power large (by omega),round_at_power large (by omega)]
        _ ≤ round base digits least y := round_at_mono large _ y_above
    · rw [round,round,same]
      exact round_at_mono large _ below

theorem round_short (large : 1 < base) {n exponent : ℤ} (short : |n| < (base : ℤ) ^ digits) (least_le : least ≤ exponent) :
    round base digits least (n * (base : ℚ) ^ exponent) = n * (base : ℚ) ^ exponent := by
  have nonzero : (base : ℚ) ≠ 0 := by exact_mod_cast (by omega : base ≠ 0)
  rcases eq_or_ne n 0 with rfl | nonzero_n
  · have zero := round_at_multiple large (last base digits least 0) 0
    rw [Int.cast_zero,zero_mul] at zero ⊢
    exact zero
  · refine round_at_power large (max_le ?_ least_le) n
    have size : |(n : ℚ) * (base : ℚ) ^ exponent| < (base : ℚ) ^ (digits + exponent) := by
      rw [abs_mul,abs_of_pos (power_pos large exponent),zpow_add₀ nonzero,zpow_natCast]
      exact mul_lt_mul_of_pos_right (by exact_mod_cast short) (power_pos large exponent)
    have positive : 0 < |(n : ℚ) * (base : ℚ) ^ exponent| :=
      abs_pos.mpr (mul_ne_zero (by exact_mod_cast nonzero_n) (power_pos large exponent).ne')
    have := (Int.lt_zpow_iff_log_lt large positive).mp size
    omega

theorem round_error (large : 1 < base) (x : ℚ) :
    |round base digits least x - x| ≤ (base : ℚ) ^ last base digits least x := by
  have unit := power_pos large (last base digits least x)
  have floor := Int.lt_floor_add_one (x / (base : ℚ) ^ last base digits least x)
  have ceiling := Int.floor_le (x / (base : ℚ) ^ last base digits least x)
  have up : ((⌊x / (base : ℚ) ^ last base digits least x⌋ : ℤ) : ℚ) ≤
    half_even (x / (base : ℚ) ^ last base digits least x) := by exact_mod_cast floor_le_half_even _
  have down : (half_even (x / (base : ℚ) ^ last base digits least x) : ℚ) ≤
    (⌊x / (base : ℚ) ^ last base digits least x⌋ : ℤ) + 1 := by exact_mod_cast half_even_le _
  have near : |half_even (x / (base : ℚ) ^ last base digits least x) - x / (base : ℚ) ^ last base digits least x| ≤ 1 :=
    abs_le.mpr ⟨by linarith,by linarith⟩
  calc |round base digits least x - x|
      = |(half_even (x / (base : ℚ) ^ last base digits least x) - x / (base : ℚ) ^ last base digits least x) *
          (base : ℚ) ^ last base digits least x| := by rw [sub_mul,div_mul_cancel₀ _ unit.ne',round,round_at]
    _ ≤ 1 * (base : ℚ) ^ last base digits least x := by
        rw [abs_mul,abs_of_pos unit]
        exact mul_le_mul_of_nonneg_right near unit.le
    _ = (base : ℚ) ^ last base digits least x := one_mul _

end

end Automation.Rounding
