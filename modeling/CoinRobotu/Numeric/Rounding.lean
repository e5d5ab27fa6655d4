import Mathlib.Data.Rat.Floor

/-!
# Rounding to decimals

Python's `round(x, digits)` on exact numbers: the nearest multiple of the last
decimal, and of two equally near ones the even multiple.
-/

namespace Numeric

def roundHalfEven (value : ℚ) : ℤ :=
  let below := ⌊value⌋
  let rest := value - below
  if rest < 1 / 2 then below
  else if 1 / 2 < rest then below + 1
  else if below % 2 = 0 then below
  else below + 1

/-- `round(value, digits)`. -/
def roundTo (digits : Nat) (value : ℚ) : ℚ :=
  roundHalfEven (value * 10 ^ digits) / 10 ^ digits

theorem abs_roundHalfEven_sub_le (value : ℚ) : |(roundHalfEven value : ℚ) - value| ≤ 1 / 2 := by
  have below := Int.floor_le value
  have above := Int.lt_floor_add_one value
  rw [abs_le]
  unfold roundHalfEven
  dsimp only
  split
  · constructor <;> linarith
  · split
    · push_cast
      constructor <;> linarith
    · split
      · constructor <;> linarith
      · push_cast
        constructor <;> linarith

/-- Rounding moves a value by at most half a unit of the last decimal. -/
theorem abs_roundTo_sub_le (digits : Nat) (value : ℚ) :
    |roundTo digits value - value| ≤ 1 / 2 / 10 ^ digits := by
  have unit : (0 : ℚ) < 10 ^ digits := by positivity
  have scaled : roundTo digits value - value =
      (roundHalfEven (value * 10 ^ digits) - value * 10 ^ digits) / 10 ^ digits := by
    unfold roundTo
    field_simp
  rw [scaled, abs_div, abs_of_pos unit]
  exact div_le_div_of_nonneg_right (abs_roundHalfEven_sub_le _) unit.le

theorem roundHalfEven_bounds (value : ℚ) :
    ⌊value⌋ ≤ roundHalfEven value ∧ roundHalfEven value ≤ ⌊value⌋ + 1 := by
  unfold roundHalfEven
  dsimp only
  split
  · omega
  · split
    · omega
    · split <;> omega

variable {value other : ℚ}

theorem roundHalfEven_nonneg (nonneg : 0 ≤ value) : 0 ≤ roundHalfEven value := by
  calc (0 : ℤ) ≤ ⌊value⌋ := Int.floor_nonneg.mpr nonneg
    _ ≤ roundHalfEven value := (roundHalfEven_bounds value).1

theorem roundHalfEven_mono (le : value ≤ other) :
    roundHalfEven value ≤ roundHalfEven other := by
  have floors := Int.floor_mono le
  have first := roundHalfEven_bounds value
  have second := roundHalfEven_bounds other
  rcases lt_or_eq_of_le floors with apart | same
  · omega
  · -- Within one unit the distance to the floor decides.
    have rests : value - ⌊value⌋ ≤ other - ⌊other⌋ := by
      rw [same]
      linarith
    unfold roundHalfEven
    dsimp only
    rw [same] at rests ⊢
    split_ifs <;> first | omega | (exfalso; linarith)

theorem roundTo_mono (digits : Nat) (le : value ≤ other) :
    roundTo digits value ≤ roundTo digits other := by
  have unit : (0 : ℚ) < 10 ^ digits := by positivity
  have whole : roundHalfEven (value * 10 ^ digits) ≤ roundHalfEven (other * 10 ^ digits) :=
    roundHalfEven_mono (mul_le_mul_of_nonneg_right le unit.le)
  unfold roundTo
  apply div_le_div_of_nonneg_right _ unit.le
  exact_mod_cast whole

/-- Two values can be moved down by the same little amount so that they are rounded apart. -/
theorem exists_rounded_apart (digits : Nat) (lt : value < other) :
    ∃ shift, 0 ≤ shift ∧ shift * 10 ^ digits ≤ 3 / 2 ∧
      roundTo digits (value - shift) < roundTo digits (other - shift) := by
  have unit : (0 : ℚ) < 10 ^ digits := by positivity
  -- The middle of the two is moved to half a unit above an integer.
  let middle := (value + other) / 2 * 10 ^ digits
  let below := ⌊middle⌋ - 1
  have floorLe := Int.floor_le middle
  have ltFloor := Int.lt_floor_add_one middle
  have isBelow : (below : ℚ) = ⌊middle⌋ - 1 := by
    simp only [below]
    push_cast
    ring
  refine ⟨(middle - (below + 1 / 2)) / 10 ^ digits, ?_, ?_, ?_⟩
  · apply div_nonneg _ unit.le
    linarith
  · rw [div_mul_cancel₀ _ unit.ne']
    linarith
  · have lower : value * 10 ^ digits < middle := by
      apply mul_lt_mul_of_pos_right _ unit
      linarith
    have upper : middle < other * 10 ^ digits := by
      apply mul_lt_mul_of_pos_right _ unit
      linarith
    have shifted : ∀ start : ℚ, (start - (middle - (below + 1 / 2)) / 10 ^ digits) * 10 ^ digits =
        start * 10 ^ digits - middle + (below + 1 / 2) := by
      intro start
      field_simp
      ring
    have roundedDown : roundHalfEven (value * 10 ^ digits - middle + (below + 1 / 2)) ≤ below := by
      have near := (abs_le.mp (abs_roundHalfEven_sub_le
        (value * 10 ^ digits - middle + (below + 1 / 2)))).2
      have strict : (roundHalfEven (value * 10 ^ digits - middle + (below + 1 / 2)) : ℚ) <
          (below + 1 : ℤ) := by
        push_cast
        linarith
      exact Int.lt_add_one_iff.mp (by exact_mod_cast strict)
    have roundedUp : below < roundHalfEven (other * 10 ^ digits - middle + (below + 1 / 2)) := by
      have near := (abs_le.mp (abs_roundHalfEven_sub_le
        (other * 10 ^ digits - middle + (below + 1 / 2)))).1
      have strict : (below : ℚ) <
          roundHalfEven (other * 10 ^ digits - middle + (below + 1 / 2)) := by linarith
      exact_mod_cast strict
    unfold roundTo
    rw [shifted, shifted]
    apply div_lt_div_of_pos_right _ unit
    exact_mod_cast lt_of_le_of_lt roundedDown roundedUp

def HasDecimals (digits : Nat) (value : ℚ) : Prop := ∃ units : ℤ, value * 10 ^ digits = units

theorem hasDecimals_roundTo (digits : Nat) (value : ℚ) :
    HasDecimals digits (roundTo digits value) := by
  refine ⟨roundHalfEven (value * 10 ^ digits), ?_⟩
  unfold roundTo
  field_simp

variable {digits : Nat}

theorem HasDecimals.add (left : HasDecimals digits value)
    (right : HasDecimals digits other) : HasDecimals digits (value + other) := by
  obtain ⟨units, isValue⟩ := left
  obtain ⟨others, isOther⟩ := right
  refine ⟨units + others, ?_⟩
  push_cast
  rw [add_mul, isValue, isOther]

theorem HasDecimals.sum {values : List ℚ}
    (each : ∀ value ∈ values, HasDecimals digits value) : HasDecimals digits values.sum := by
  induction values with
  | nil => exact ⟨0, by simp⟩
  | cons value values ih =>
    rw [List.sum_cons]
    apply HasDecimals.add
    · exact each value List.mem_cons_self
    · exact ih fun other inside => each other (List.mem_cons_of_mem _ inside)

variable {value : ℚ}

theorem HasDecimals.rounded (has : HasDecimals digits value) :
    roundTo digits value = value := by
  obtain ⟨units, isValue⟩ := has
  have whole : roundHalfEven (units : ℚ) = units := by simp [roundHalfEven]
  unfold roundTo
  rw [isValue, whole, ← isValue]
  field_simp

theorem HasDecimals.more {digits finer : Nat} (has : HasDecimals digits value)
    (le : digits ≤ finer) : HasDecimals finer value := by
  obtain ⟨units, isValue⟩ := has
  obtain ⟨extra, rfl⟩ := Nat.exists_eq_add_of_le le
  refine ⟨units * 10 ^ extra, ?_⟩
  push_cast
  rw [pow_add, ← mul_assoc, isValue]

theorem roundTo_zero (digits : Nat) : roundTo digits 0 = 0 :=
  HasDecimals.rounded ⟨0, by simp⟩

theorem roundTo_nonneg (digits : Nat) (nonneg : 0 ≤ value) :
    0 ≤ roundTo digits value := by
  rw [← roundTo_zero digits]
  exact roundTo_mono digits nonneg

theorem HasDecimals.roundTo_le (has : HasDecimals digits other)
    (le : value ≤ other) : roundTo digits value ≤ other := by
  calc roundTo digits value ≤ roundTo digits other := roundTo_mono digits le
    _ = other := has.rounded

theorem roundHalfEven_eq {units : ℤ} (near : |value - units| < 1 / 2) :
    roundHalfEven value = units := by
  have close := abs_le.mp (abs_roundHalfEven_sub_le value)
  have within := abs_lt.mp near
  have less : (roundHalfEven value : ℚ) < (units + 1 : ℤ) := by
    push_cast
    linarith
  have more : ((units - 1 : ℤ) : ℚ) < roundHalfEven value := by
    push_cast
    linarith
  have upper : roundHalfEven value < units + 1 := by exact_mod_cast less
  have lower : units - 1 < roundHalfEven value := by exact_mod_cast more
  omega

theorem mul_roundTo_div_iff {digits count : ℕ} (value : ℚ) (positive : 0 < count) :
    count * roundTo digits (value / count) = roundTo digits value ↔
      HasDecimals digits (roundTo digits value / count) := by
  have nonzero : (count : ℚ) ≠ 0 := by exact_mod_cast positive.ne'
  constructor
  · intro equal
    rw [← equal, mul_div_cancel_left₀ _ nonzero]
    exact hasDecimals_roundTo digits _
  · rintro ⟨units, isPart⟩
    have unit : (0 : ℚ) < 10 ^ digits := by positivity
    have whole : (roundHalfEven (value * 10 ^ digits) : ℚ) = count * units := by
      rw [← isPart]
      unfold roundTo
      field_simp
    suffices part : roundHalfEven (value / count * 10 ^ digits) = units by
      unfold roundTo
      rw [part, whole, mul_div_assoc]
    rcases Nat.lt_or_ge count 2 with small | more
    · -- One part is the value itself.
      obtain rfl : count = 1 := by omega
      rw [Nat.cast_one, one_mul] at whole
      rw [Nat.cast_one, div_one]
      exact_mod_cast whole
    · apply roundHalfEven_eq
      have near := abs_roundHalfEven_sub_le (value * 10 ^ digits)
      have scaled : value / count * 10 ^ digits - units =
          -((roundHalfEven (value * 10 ^ digits) - value * 10 ^ digits) / count) := by
        rw [whole]
        field_simp
        ring
      have atLeastTwo : (2 : ℚ) ≤ count := by exact_mod_cast more
      rw [scaled, abs_neg, abs_div, abs_of_pos (show (0 : ℚ) < count by linarith),
        div_lt_iff₀ (by linarith)]
      linarith

theorem exists_floor_decimal (digits : Nat) (bound : ℚ) :
    ∃ value, HasDecimals digits value ∧ value ≤ bound ∧ bound - 1 / 10 ^ digits ≤ value ∧
      ∀ other, HasDecimals digits other → other ≤ bound → other ≤ value := by
  have unit : (0 : ℚ) < 10 ^ digits := by positivity
  have floorLe := Int.floor_le (bound * 10 ^ digits)
  have ltFloor := Int.lt_floor_add_one (bound * 10 ^ digits)
  refine ⟨⌊bound * 10 ^ digits⌋ / 10 ^ digits, ⟨_, div_mul_cancel₀ _ unit.ne'⟩, ?_, ?_, ?_⟩
  · rwa [div_le_iff₀ unit]
  · rw [le_div_iff₀ unit, sub_mul, div_mul_cancel₀ _ unit.ne']
    linarith
  · rintro other ⟨units, isOther⟩ le
    rw [le_div_iff₀ unit, isOther]
    have scaled := mul_le_mul_of_nonneg_right le unit.le
    rw [isOther] at scaled
    exact_mod_cast Int.le_floor.mpr scaled

example : roundTo 2 (5 / 1000) = 0 ∧ roundTo 2 (15 / 1000) = 2 / 100 := by decide +kernel

end Numeric
