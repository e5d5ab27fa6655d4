import Mathlib.Algebra.Order.Archimedean.Basic
import Mathlib.Tactic.LinearCombination
import CoinRobotu.Numeric.Limits

/-!
# Multiples of a step

A value is rounded down to the multiple of a step below it, and it is raised by a step again and
again until it is enough.
-/

namespace Numeric

universe u

section Multiples

variable {K : Type u} [Field K] {step value : K}

def IsMultiple (step value : K) : Prop := ∃ count : ℤ, value = count * step

theorem isMultiple_add_iff {count : ℕ} :
    IsMultiple step (value + count * step) ↔ IsMultiple step value := by
  constructor
  · rintro ⟨total, isTotal⟩
    refine ⟨total - count, ?_⟩
    push_cast
    linear_combination isTotal
  · rintro ⟨before, rfl⟩
    exact ⟨before + count, by push_cast; ring⟩

end Multiples

section Floors

variable {K : Type u} [Field K] [LinearOrder K] [FloorRing K] {step value bound : K}

def floorTo (step value : K) : K := ⌊value / step⌋ * step

theorem isMultiple_floorTo : IsMultiple step (floorTo step value) := ⟨⌊value / step⌋, rfl⟩

variable [IsStrictOrderedRing K]

theorem floorTo_le (positive : 0 < step) : floorTo step value ≤ value :=
  calc floorTo step value ≤ value / step * step :=
        mul_le_mul_of_nonneg_right (Int.floor_le _) positive.le
    _ = value := div_mul_cancel₀ _ positive.ne'

theorem IsMultiple.le_floorTo (multiple : IsMultiple step value) (positive : 0 < step)
    (within : value ≤ bound) : value ≤ floorTo step bound := by
  obtain ⟨count, rfl⟩ := multiple
  have fewer : (count : K) ≤ bound / step := (le_div_iff₀ positive).mpr within
  have counted : (count : K) ≤ ⌊bound / step⌋ := by exact_mod_cast Int.le_floor.mpr fewer
  exact mul_le_mul_of_nonneg_right counted positive.le

end Floors

section Raises

variable {K : Type u} [Field K] {step value raised bound : K} {enough : K → Bool} {fuel : ℕ}

/-- Add a step until the value is enough; `none` where the fuel is used up before. -/
def raiseTo (step : K) (enough : K → Bool) : ℕ → K → Option K
  | 0, _ => none
  | fuel + 1, value =>
    if enough value then some value else raiseTo step enough fuel (value + step)

attribute [local simp] raiseTo

theorem raiseTo_enough (isRaised : raiseTo step enough fuel value = some raised) :
    enough raised := by
  induction fuel generalizing value with
  | zero => cases isRaised
  | succ fuel ih =>
    by_cases isEnough : enough value
    · have same : value = raised := by simpa [isEnough] using isRaised
      exact same ▸ isEnough
    · exact ih (by simpa [isEnough] using isRaised)

/-- A value is raised by some number of steps, and not by one too many. -/
theorem raiseTo_first (isRaised : raiseTo step enough fuel value = some raised) :
    ∃ count : ℕ, raised = value + count * step ∧
      (count = 0 ∨ enough (raised - step) = false) := by
  induction fuel generalizing value with
  | zero => cases isRaised
  | succ fuel ih =>
    by_cases isEnough : enough value
    · have same : value = raised := by simpa [isEnough] using isRaised
      exact ⟨0, by simp [same], .inl rfl⟩
    · obtain ⟨count, rfl, first⟩ := ih (by simpa [isEnough] using isRaised)
      refine ⟨count + 1, by push_cast; ring, .inr ?_⟩
      rcases first with rfl | before
      · simpa using isEnough
      · exact before

theorem raiseTo_ends [LinearOrder K] [IsStrictOrderedRing K] [Archimedean K] (positive : 0 < step)
    (reached : ∀ value, bound ≤ value → enough value = true) (value : K) :
    ∃ least, ∀ fuel, least ≤ fuel → (raiseTo step enough fuel value).isSome := by
  obtain ⟨steps, far⟩ := Archimedean.arch (bound - value) positive
  rw [nsmul_eq_mul] at far
  refine ⟨steps + 1, ?_⟩
  induction steps generalizing value with
  | zero =>
    intro fuel atLeast
    obtain ⟨fuel, rfl⟩ := Nat.exists_eq_add_of_le' atLeast
    have isEnough : enough value := reached value (by simpa using far)
    simp [isEnough]
  | succ steps ih =>
    intro fuel atLeast
    obtain ⟨fuel, rfl⟩ := Nat.exists_eq_add_of_le' (Nat.le_trans (by omega : 1 ≤ _) atLeast)
    have closer : bound - (value + step) ≤ steps * step := by
      push_cast at far
      linarith
    have ends := ih (value + step) closer fuel (by omega)
    by_cases isEnough : enough value
    · simp [isEnough]
    · simpa [isEnough] using ends

end Raises

theorem wholePart_of_nonneg {value : ℚ} (nonneg : 0 ≤ value) : wholePart value = ⌊value⌋ := by
  rw [wholePart, Int.tdiv_eq_ediv_of_nonneg (Rat.num_nonneg.mpr nonneg), Rat.floor_def']

end Numeric
