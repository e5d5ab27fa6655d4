import Mathlib.Algebra.Order.Field.Power
import Mathlib.Data.Int.Log
import CoinRobotu.Numeric.Rounding

/-!
# Double precision

The nearest double of an exact number that is not negative, of two equally near ones the even one.
The doubles have 53 binary digits, of which the last one is not below the last place of the
subnormal numbers, and from `2 ^ 1024` on there are none.
-/

namespace Numeric

/-- A double that is not negative. -/
inductive Double where
  | finite (value : ℚ)
  | infinity
  | nan
  deriving DecidableEq

def lastPlace (value : ℚ) : ℤ := max (Int.log 2 value - 52) (-1074)

def roundBinary (value : ℚ) : ℚ :=
  roundHalfEven (value / 2 ^ lastPlace value) * 2 ^ lastPlace value

def toDouble (value : ℚ) : Double :=
  if 2 ^ 1024 ≤ roundBinary value then .infinity else .finite (roundBinary value)

theorem roundBinary_nonneg {value : ℚ} (nonneg : 0 ≤ value) : 0 ≤ roundBinary value := by
  have place : (0 : ℚ) < 2 ^ lastPlace value := zpow_pos two_pos _
  have units := roundHalfEven_nonneg (div_nonneg nonneg place.le)
  exact mul_nonneg (by exact_mod_cast units) place.le

@[simp] theorem roundBinary_zero : roundBinary 0 = 0 := by
  have none : roundHalfEven 0 = 0 := by simp [roundHalfEven]
  rw [roundBinary, zero_div, none, Int.cast_zero, zero_mul]

@[simp] theorem toDouble_zero : toDouble 0 = .finite 0 := by
  rw [toDouble, roundBinary_zero]
  exact if_neg (by norm_num)

/-- The nearest double of a normal number differs from it by a small part of the number. -/
theorem abs_roundBinary_sub_le {value : ℚ} (normal : (2 : ℚ) ^ (-1022 : ℤ) ≤ value) :
    |roundBinary value - value| ≤ value / 2 ^ 53 := by
  have positive : 0 < value := lt_of_lt_of_le (zpow_pos two_pos _) normal
  have exponent : -1022 ≤ Int.log 2 value := (Int.zpow_le_iff_le_log one_lt_two positive).mp normal
  have isPlace : lastPlace value = Int.log 2 value - 52 := max_eq_left (by omega)
  have place : (0 : ℚ) < 2 ^ lastPlace value := zpow_pos two_pos _
  have scaled : roundBinary value - value =
      (roundHalfEven (value / 2 ^ lastPlace value) - value / 2 ^ lastPlace value) *
        2 ^ lastPlace value := by
    rw [sub_mul, div_mul_cancel₀ _ place.ne', roundBinary]
  have leading : (2 : ℚ) ^ Int.log 2 value ≤ value := by
    exact_mod_cast Int.zpow_log_le_self one_lt_two positive
  calc |roundBinary value - value|
      = |(roundHalfEven (value / 2 ^ lastPlace value) : ℚ) - value / 2 ^ lastPlace value| *
          2 ^ lastPlace value := by rw [scaled, abs_mul, abs_of_pos place]
    _ ≤ 1 / 2 * 2 ^ lastPlace value :=
        mul_le_mul_of_nonneg_right (abs_roundHalfEven_sub_le _) place.le
    _ = 2 ^ Int.log 2 value / 2 ^ 53 := by
        rw [isPlace, zpow_sub₀ two_ne_zero]
        norm_num
        ring
    _ ≤ value / 2 ^ 53 := div_le_div_of_nonneg_right leading (by positivity)

theorem toDouble_eq_finite {value double : ℚ} (isDouble : toDouble value = .finite double) :
    double = roundBinary value := by
  unfold toDouble at isDouble
  split at isDouble
  · cases isDouble
  · exact (Double.finite.inj isDouble).symm

/-!
## Significant digits

A positive number rounded to so many digits, as a whole number of units of the last one and the
power of ten of the first one.
-/

/-- A value rounded to one digit and so many more: the units of the last digit and the power of
ten of the first one. -/
def significant (more : ℕ) (value : ℚ) : ℤ × ℤ :=
  let exponent := Int.log 10 value
  let units := roundHalfEven (value / 10 ^ (exponent - more))
  if units = 10 ^ (more + 1) then (10 ^ more, exponent + 1) else (units, exponent)

def HasSignificant (more : ℕ) (value : ℚ) : Prop :=
  ∃ (units : ℕ) (place : ℤ), units < 10 ^ (more + 1) ∧ value = units * 10 ^ place

variable {more : ℕ} {value : ℚ}

theorem zpow_log_ten_le (positive : 0 < value) : (10 : ℚ) ^ Int.log 10 value ≤ value := by
  exact_mod_cast Int.zpow_log_le_self (by norm_num) positive

theorem lt_zpow_log_ten (value : ℚ) : value < (10 : ℚ) ^ (Int.log 10 value + 1) := by
  exact_mod_cast Int.lt_zpow_succ_log_self (by norm_num) value

theorem log_ten_eq {exponent : ℤ} (lower : (10 : ℚ) ^ exponent ≤ value)
    (upper : value < (10 : ℚ) ^ (exponent + 1)) : Int.log 10 value = exponent := by
  have positive : 0 < value := lt_of_lt_of_le (zpow_pos (by norm_num) _) lower
  have least : exponent ≤ Int.log 10 value :=
    (Int.zpow_le_iff_le_log (by norm_num) positive).mp (by exact_mod_cast lower)
  have below : Int.log 10 value < exponent + 1 :=
    (Int.lt_zpow_iff_log_lt (by norm_num) positive).mp (by exact_mod_cast upper)
  omega

theorem zpow_eq_units (more : ℕ) (exponent : ℤ) :
    (10 : ℚ) ^ exponent = 10 ^ more * 10 ^ (exponent - more) := by
  rw [← zpow_natCast, ← zpow_add₀ (by norm_num), add_sub_cancel]

theorem significant_range (positive : 0 < value) :
    10 ^ more ≤ (significant more value).1 ∧ (significant more value).1 < 10 ^ (more + 1) := by
  have unit : (0 : ℚ) < 10 ^ (Int.log 10 value - more) := zpow_pos (by norm_num) _
  have lower : (10 : ℚ) ^ more ≤ value / 10 ^ (Int.log 10 value - more) := by
    rw [le_div_iff₀ unit, ← zpow_eq_units]
    exact zpow_log_ten_le positive
  have upper : value / 10 ^ (Int.log 10 value - more) ≤ 10 ^ (more + 1) := by
    rw [div_le_iff₀ unit, pow_succ', mul_assoc, ← zpow_eq_units]
    apply le_trans (lt_zpow_log_ten value).le
    rw [zpow_add₀ (by norm_num), zpow_one, mul_comm]
  have whole (number : ℕ) : roundHalfEven (number : ℚ) = number :=
    @roundHalfEven_eq number number (by simp)
  have least : (10 : ℤ) ^ more ≤ roundHalfEven (value / 10 ^ (Int.log 10 value - more)) := by
    have := roundHalfEven_mono lower
    have same := whole (10 ^ more)
    push_cast at same
    rwa [same] at this
  have most : roundHalfEven (value / 10 ^ (Int.log 10 value - more)) ≤ 10 ^ (more + 1) := by
    have := roundHalfEven_mono upper
    have same := whole (10 ^ (more + 1))
    push_cast at same
    rwa [same] at this
  unfold significant
  dsimp only
  split
  · exact ⟨le_rfl, pow_lt_pow_right₀ (by norm_num) (Nat.lt_succ_self more)⟩
  · next other => exact ⟨least, lt_of_le_of_ne most other⟩

/-- A number is found from what is much closer to it than a unit of its last digit. -/
theorem significant_of_near {units : ℕ} {exponent : ℤ} (least : 10 ^ more ≤ units)
    (most : units < 10 ^ (more + 1))
    (near : |value - units * 10 ^ (exponent - more)| < 10 ^ (exponent - more) / 20) :
    significant more value = ((units : ℤ), exponent) := by
  have unit : (0 : ℚ) < 10 ^ (exponent - more) := zpow_pos (by norm_num) _
  have within := abs_lt.mp near
  have leastUnits : (10 : ℚ) ^ more ≤ units := by exact_mod_cast least
  have mostUnits : (units : ℚ) + 1 ≤ 10 ^ (more + 1) := by exact_mod_cast most
  have one : (1 : ℚ) ≤ 10 ^ more := one_le_pow₀ (by norm_num)
  have leading := zpow_eq_units more exponent
  have following : (10 : ℚ) ^ (exponent + 1) = 10 ^ (more + 1) * 10 ^ (exponent - more) := by
    rw [zpow_add₀ (by norm_num), zpow_one, leading, pow_succ]
    ring
  have close : |value / 10 ^ (exponent - more) - units| < 1 / 20 := by
    have scaled : value / 10 ^ (exponent - more) - units =
        (value - units * 10 ^ (exponent - more)) / 10 ^ (exponent - more) := by
      field_simp
    rw [scaled, abs_div, abs_of_pos unit, div_lt_iff₀ unit]
    linarith
  have above : value < 10 ^ (exponent + 1) := by
    rw [following]
    nlinarith [mul_le_mul_of_nonneg_right mostUnits unit.le]
  rcases le_or_gt ((10 : ℚ) ^ exponent) value with leads | drops
  · -- The first digit stands at the same power of ten.
    have isLog := log_ten_eq leads above
    have isUnits : roundHalfEven (value / 10 ^ (exponent - more)) = units :=
      roundHalfEven_eq (by push_cast; linarith)
    unfold significant
    dsimp only
    rw [isLog, isUnits]
    exact if_neg (by exact_mod_cast most.ne)
  · -- The number is the power of ten, and the value just below it has one digit more.
    have isLeast : units = 10 ^ more := by
      apply le_antisymm _ least
      by_contra other
      have further : (10 : ℚ) ^ more + 1 ≤ units := by exact_mod_cast not_le.mp other
      have : (10 ^ more + 1) * 10 ^ (exponent - more) ≤ (units : ℚ) * 10 ^ (exponent - more) :=
        mul_le_mul_of_nonneg_right further unit.le
      rw [leading] at drops
      linarith
    subst isLeast
    push_cast at close within
    have tenth : (10 : ℚ) ^ (exponent - 1 - more) = 10 ^ (exponent - more) / 10 := by
      rw [show exponent - 1 - (more : ℤ) = exponent - more - 1 by ring, zpow_sub₀ (by norm_num),
        zpow_one]
    have isLog : Int.log 10 value = exponent - 1 := by
      apply log_ten_eq
      · rw [zpow_eq_units more, tenth]
        have : (10 : ℚ) ^ (exponent - more) ≤ 10 ^ more * 10 ^ (exponent - more) :=
          le_mul_of_one_le_left unit.le one
        linarith
      · rwa [sub_add_cancel]
    have isUnits : roundHalfEven (value / 10 ^ (exponent - 1 - more)) = 10 ^ (more + 1) := by
      apply roundHalfEven_eq
      have scaled : value / 10 ^ (exponent - 1 - more) - ((10 ^ (more + 1) : ℤ) : ℚ) =
          (value / 10 ^ (exponent - more) - 10 ^ more) * 10 := by
        rw [tenth]
        push_cast
        field_simp
        ring
      rw [scaled, abs_mul, abs_of_pos (by norm_num : (0 : ℚ) < 10)]
      linarith
    unfold significant
    dsimp only
    rw [isLog, isUnits, if_pos rfl, sub_add_cancel]
    push_cast
    rfl

theorem HasSignificant.units (has : HasSignificant more value) (positive : 0 < value) :
    ∃ units : ℕ, 10 ^ more ≤ units ∧ units < 10 ^ (more + 1) ∧
      value = units * 10 ^ (Int.log 10 value - more) := by
  obtain ⟨units, place, few, isValue⟩ := has
  have ten : (10 : ℚ) ≠ 0 := by norm_num
  have lower := zpow_log_ten_le positive
  have upper := lt_zpow_log_ten value
  -- Otherwise the units alone would have too many digits.
  have reaches : Int.log 10 value - more ≤ place := by
    by_contra beyond
    have steps : place + (more + 1 : ℕ) ≤ Int.log 10 value := by
      push_cast
      omega
    have powers : (10 : ℚ) ^ (place + (more + 1 : ℕ)) ≤ 10 ^ Int.log 10 value :=
      zpow_le_zpow_right₀ (by norm_num) steps
    have fewUnits : (units : ℚ) < 10 ^ (more + 1) := by exact_mod_cast few
    have small : value < 10 ^ (place + (more + 1 : ℕ)) := by
      rw [zpow_add₀ ten, zpow_natCast, mul_comm, isValue]
      exact mul_lt_mul_of_pos_right fewUnits (zpow_pos (by norm_num) _)
    linarith
  obtain ⟨extra, isExtra⟩ := Int.eq_ofNat_of_zero_le (sub_nonneg.mpr reaches)
  have isWhole : value = (units * 10 ^ extra : ℕ) * 10 ^ (Int.log 10 value - more) := by
    push_cast
    rw [mul_assoc, ← zpow_natCast (10 : ℚ) extra, ← zpow_add₀ ten, ← isExtra, sub_add_cancel,
      ← isValue]
  have unit : (0 : ℚ) < 10 ^ (Int.log 10 value - more) := zpow_pos (by norm_num) _
  refine ⟨units * 10 ^ extra, ?_, ?_, isWhole⟩
  · have : (10 : ℚ) ^ more ≤ (units * 10 ^ extra : ℕ) := by
      rw [← mul_le_mul_iff_of_pos_right unit, ← isWhole, ← zpow_eq_units]
      exact lower
    exact_mod_cast this
  · have : ((units * 10 ^ extra : ℕ) : ℚ) < 10 ^ (more + 1) := by
      rw [← mul_lt_mul_iff_of_pos_right unit, ← isWhole, pow_succ', mul_assoc, ← zpow_eq_units,
        ← zpow_one_add₀ ten, add_comm]
      exact upper
    exact_mod_cast this

theorem significant_roundBinary (has : HasSignificant 5 value) (normal : 1 / 10 ^ 4 ≤ value) :
    ∃ units : ℕ, value = units * 10 ^ (Int.log 10 value - (5 : ℕ)) ∧
      significant 5 (roundBinary value) = ((units : ℤ), Int.log 10 value) := by
  have positive : 0 < value := lt_of_lt_of_le (by norm_num) normal
  have isNormal : (2 : ℚ) ^ (-1022 : ℤ) ≤ value := by
    calc (2 : ℚ) ^ (-1022 : ℤ) ≤ 2 ^ (-14 : ℤ) := zpow_le_zpow_right₀ one_le_two (by decide)
      _ ≤ 1 / 10 ^ 4 := by norm_num
      _ ≤ value := normal
  obtain ⟨units, least, most, isValue⟩ := has.units positive
  refine ⟨units, isValue, significant_of_near least most ?_⟩
  rw [← isValue]
  have unit : (0 : ℚ) < 10 ^ (Int.log 10 value - (5 : ℕ)) := zpow_pos (by norm_num) _
  have few : (units : ℚ) < 10 ^ (5 + 1) := by exact_mod_cast most
  calc |roundBinary value - value| ≤ value / 2 ^ 53 := abs_roundBinary_sub_le isNormal
    _ = units / 2 ^ 53 * 10 ^ (Int.log 10 value - (5 : ℕ)) := by
        conv_lhs => rw [isValue]
        ring
    _ < 1 / 20 * 10 ^ (Int.log 10 value - (5 : ℕ)) := by
        apply mul_lt_mul_of_pos_right _ unit
        rw [div_lt_iff₀ (by norm_num)]
        exact lt_of_lt_of_le few (by norm_num)
    _ = 10 ^ (Int.log 10 value - (5 : ℕ)) / 20 := by ring

end Numeric
