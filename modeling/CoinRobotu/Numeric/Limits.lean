import Mathlib.Algebra.Order.Ring.Rat
import Mathlib.Order.WithBot

/-!
# Limits that zero switches off

A limit that is not positive limits nothing.
-/

namespace Numeric

universe u

section Readings

variable {K : Type u} [Zero K] [LinearOrder K]

/-- `value or default` for a number. -/
def orNumber (value : Option K) (default : K) : K :=
  if value.getD 0 = 0 then default else value.getD 0

theorem orNumber_of_ne {value default : K} (given : value ≠ 0) :
    orNumber (some value) default = value := if_neg given

@[simp] theorem orNumber_none {default : K} : orNumber none default = default := if_pos rfl

@[simp] theorem orNumber_zero {default : K} : orNumber (some 0) default = default := if_pos rfl

def reading (limit : K) : WithTop K := if 0 < limit then limit else ⊤

variable {limit other value : K}

theorem reading_of_pos (positive : 0 < limit) : reading limit = limit := if_pos positive

theorem reading_of_nonpos (notPositive : limit ≤ 0) : reading limit = ⊤ :=
  if_neg (not_lt.mpr notPositive)

theorem reading_le_reading :
    reading limit ≤ reading other ↔ (0 < other → 0 < limit ∧ limit ≤ other) := by
  by_cases positive : 0 < other
  · rw [reading_of_pos positive]
    by_cases limits : 0 < limit
    · rw [reading_of_pos limits, WithTop.coe_le_coe]
      exact ⟨fun smaller _ => ⟨limits, smaller⟩, fun both => (both positive).2⟩
    · rw [reading_of_nonpos (not_lt.mp limits), top_le_iff]
      exact iff_of_false (WithTop.coe_ne_top) fun both => limits (both positive).1
  · rw [reading_of_nonpos (not_lt.mp positive)]
    exact iff_of_true le_top fun isPositive => absurd isPositive positive

theorem reading_min (positive : 0 < limit) (otherPositive : 0 < other) :
    reading (min limit other) = min (reading limit) (reading other) := by
  rw [reading_of_pos positive, reading_of_pos otherPositive,
    reading_of_pos (lt_min positive otherPositive), WithTop.coe_min]

end Readings

section Caps

variable {K : Type u} [LinearOrder K]

def lowerCap (cap other : Option K) : Option K := Option.merge min cap other

theorem lowerCap_right_comm (cap first second : Option K) :
    lowerCap (lowerCap cap first) second = lowerCap (lowerCap cap second) first := by
  cases cap <;> cases first <;> cases second <;>
    simp [lowerCap, Option.merge, min_comm, min_left_comm]

/-- A limit is not loosened by another one. -/
theorem exists_lowerCap {cap : K} {first second : Option K} (given : cap ∈ first) :
    ∃ lower ∈ lowerCap first second, lower ≤ cap := by
  cases given
  cases second with
  | none => exact ⟨cap, rfl, le_rfl⟩
  | some other => exact ⟨min cap other, rfl, min_le_left _ _⟩

end Caps

def wholePart (value : ℚ) : ℤ := value.num.tdiv value.den

theorem wholePart_intCast (value : ℤ) : wholePart value = value := by
  rw [wholePart, Rat.num_intCast, Rat.den_intCast, Nat.cast_one, Int.tdiv_one]

end Numeric
