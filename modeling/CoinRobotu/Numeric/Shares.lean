import Mathlib.Algebra.Order.BigOperators.Group.List
import Mathlib.Data.List.Infix
import CoinRobotu.Numeric.Rounding

/-!
# Shares that close on one

Weights are turned into rounded shares of one. Each share but the last is rounded by itself, and
the last is what the others leave.
-/

namespace Numeric

def closed (digits : ℕ) (shares : List ℚ) : List ℚ :=
  if shares = [] then []
  else shares.dropLast ++ [roundTo digits (1 - shares.dropLast.sum)]

def equalShares (digits count : ℕ) : List ℚ :=
  closed digits (List.replicate count (roundTo digits (1 / count)))

def positivePart (weights : List ℚ) : ℚ := (weights.map fun weight => max weight 0).sum

def proportionalShares (digits : ℕ) (weights : List ℚ) : List ℚ :=
  (closed digits (weights.map fun weight =>
    roundTo digits (max weight 0 / positivePart weights))).map fun share => max share 0

def sharesOf (digits : ℕ) (weights : List ℚ) : List ℚ :=
  if positivePart weights ≤ 0 then equalShares digits weights.length
  else proportionalShares digits weights

variable {digits count : ℕ} {weights shares : List ℚ} {share : ℚ}

theorem length_closed : (closed digits shares).length = shares.length := by
  unfold closed
  split
  · rename_i none_left
    rw [none_left]
  · rename_i some_left
    rw [List.length_append, List.length_dropLast, List.length_singleton]
    have positive := List.length_pos_of_ne_nil some_left
    omega

theorem length_sharesOf : (sharesOf digits weights).length = weights.length := by
  unfold sharesOf
  split
  · rw [equalShares, length_closed, List.length_replicate]
  · rw [proportionalShares, List.length_map, length_closed, List.length_map]

theorem mem_closed (inside : share ∈ closed digits shares) :
    share ∈ shares ∨ share = roundTo digits (1 - shares.dropLast.sum) := by
  unfold closed at inside
  split at inside
  · cases inside
  · rcases List.mem_append.mp inside with among | isLast
    · exact .inl (List.mem_of_mem_dropLast among)
    · exact .inr (List.mem_singleton.mp isLast)

theorem hasDecimals_one : HasDecimals digits 1 := ⟨10 ^ digits, by push_cast; ring⟩

theorem left_le_one (nonneg : ∀ share ∈ shares, 0 ≤ share) :
    roundTo digits (1 - shares.dropLast.sum) ≤ 1 := by
  have sum : 0 ≤ shares.dropLast.sum :=
    List.sum_nonneg fun share inside => nonneg share (List.mem_of_mem_dropLast inside)
  exact hasDecimals_one.roundTo_le (by linarith)

theorem positivePart_nonneg : 0 ≤ positivePart weights := by
  apply List.sum_nonneg
  intro part inside
  obtain ⟨weight, _, rfl⟩ := List.mem_map.mp inside
  exact le_max_right weight 0

theorem mem_proportionalShares (inside : share ∈ proportionalShares digits weights) :
    0 ≤ share ∧ share ≤ 1 := by
  obtain ⟨raw, isClosed, rfl⟩ := List.mem_map.mp inside
  have each : ∀ raw ∈ weights.map fun weight =>
      roundTo digits (max weight 0 / positivePart weights), 0 ≤ raw ∧ raw ≤ 1 := by
    intro raw isShare
    obtain ⟨weight, isWeight, rfl⟩ := List.mem_map.mp isShare
    have below : max weight 0 ≤ positivePart weights := by
      apply List.single_le_sum
      · intro part isPart
        obtain ⟨other, _, rfl⟩ := List.mem_map.mp isPart
        exact le_max_right other 0
      · exact List.mem_map.mpr ⟨weight, isWeight, rfl⟩
    constructor
    · exact roundTo_nonneg digits (div_nonneg (le_max_right _ _) positivePart_nonneg)
    · exact hasDecimals_one.roundTo_le (div_le_one_of_le₀ below positivePart_nonneg)
  constructor
  · exact le_max_right raw 0
  · apply max_le _ zero_le_one
    rcases mem_closed isClosed with isShare | isLeft
    · exact (each raw isShare).2
    · rw [isLeft]
      exact left_le_one fun other isOther => (each other isOther).1

theorem equalShares_le_one (inside : share ∈ equalShares digits count) : share ≤ 1 := by
  have nonneg : 0 ≤ roundTo digits (1 / count) := roundTo_nonneg digits (by positivity)
  rcases mem_closed inside with isEqual | isLeft
  · rw [List.eq_of_mem_replicate isEqual]
    apply hasDecimals_one.roundTo_le
    exact div_le_one_of_le₀ (by exact_mod_cast Nat.one_le_iff_ne_zero.mpr (by
      rintro rfl
      cases isEqual)) (Nat.cast_nonneg _)
  · rw [isLeft]
    exact left_le_one fun other isOther => by
      rw [List.eq_of_mem_replicate isOther]
      exact nonneg

theorem equalShares_nonneg (few : count * (count - 1) ≤ 2 * 10 ^ digits)
    (inside : share ∈ equalShares digits count) : 0 ≤ share := by
  rcases mem_closed inside with isEqual | isLeft
  · rw [List.eq_of_mem_replicate isEqual]
    exact roundTo_nonneg digits (by positivity)
  · rw [isLeft]
    apply roundTo_nonneg
    rw [List.dropLast_replicate, List.sum_replicate, nsmul_eq_mul]
    rcases Nat.eq_zero_or_pos count with rfl | positive
    · simp
    · have unit : (0 : ℚ) < 10 ^ digits := by positivity
      have near := (abs_le.mp (abs_roundTo_sub_le digits (1 / (count : ℚ)))).2
      have others : ((count - 1 : ℕ) : ℚ) = count - 1 := Nat.cast_pred positive
      have some_left : (count : ℚ) * (count - 1) ≤ 2 * 10 ^ digits := by
        rw [← others]
        exact_mod_cast few
      have size : (0 : ℚ) < count := by exact_mod_cast positive
      have taken : ((count : ℚ) - 1) * (1 / 2 / 10 ^ digits) ≤ 1 / count := by
        rw [le_div_iff₀ size, div_div, mul_one_div, div_mul_eq_mul_div, div_le_one (by positivity)]
        linarith
      have whole : ((count : ℚ) - 1) * (1 / count) = 1 - 1 / count := by
        field_simp
      have nonneg : (0 : ℚ) ≤ count - 1 := by
        rw [← others]
        exact Nat.cast_nonneg _
      have bound : ((count : ℚ) - 1) * roundTo digits (1 / count) ≤
          (count - 1) * (1 / count + 1 / 2 / 10 ^ digits) :=
        mul_le_mul_of_nonneg_left (by linarith) nonneg
      rw [others]
      linarith [mul_add ((count : ℚ) - 1) (1 / count) (1 / 2 / 10 ^ digits)]

theorem left_mem_equalShares (positive : 0 < count) :
    roundTo digits (1 - ((count - 1 : ℕ) : ℚ) * roundTo digits (1 / count)) ∈
      equalShares digits count := by
  have some_left : List.replicate count (roundTo digits (1 / count)) ≠ [] :=
    List.ne_nil_of_length_pos (by rwa [List.length_replicate])
  unfold equalShares closed
  rw [if_neg some_left, List.dropLast_replicate, List.sum_replicate, nsmul_eq_mul]
  exact List.mem_append_right _ List.mem_cons_self

theorem mem_sharesOf (few : weights.length * (weights.length - 1) ≤ 2 * 10 ^ digits)
    (inside : share ∈ sharesOf digits weights) : 0 ≤ share ∧ share ≤ 1 := by
  unfold sharesOf at inside
  split at inside
  · exact ⟨equalShares_nonneg few inside, equalShares_le_one inside⟩
  · exact mem_proportionalShares inside

end Numeric
