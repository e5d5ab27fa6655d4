import Mathlib.Algebra.BigOperators.Group.List.Basic
import Mathlib.Algebra.Order.Group.MinMax
import Mathlib.Algebra.Order.Ring.Abs
import Mathlib.Tactic.Linarith
import Mathlib.Tactic.Ring

/-!
# Limited moves

A move is cut off at a limit in both directions, and cutting off brings two moves no further apart.
-/

namespace Numeric

universe u v

section Limits

variable {K : Type u} [Field K] [LinearOrder K] {limit move other : K}

def limited (limit move : K) : K := max (-limit) (min limit move)

theorem min_le_limited (nonneg : 0 ≤ limit) : min 0 move ≤ limited limit move := by
  unfold limited
  rcases le_total limit move with beyond | within
  · rw [min_eq_left beyond]
    exact (min_le_left 0 move).trans (le_max_of_le_right nonneg)
  · rw [min_eq_right within]
    exact (min_le_right 0 move).trans (le_max_right _ _)

variable [IsStrictOrderedRing K]

theorem limited_le_max (nonneg : 0 ≤ limit) : limited limit move ≤ max 0 move :=
  max_le (le_max_of_le_left (by linarith)) ((min_le_right _ _).trans (le_max_right _ _))

theorem abs_limited_le (nonneg : 0 ≤ limit) : |limited limit move| ≤ limit :=
  abs_le.mpr ⟨le_max_left _ _, max_le (by linarith) (min_le_left _ _)⟩

theorem limited_of_abs_le (within : |move| ≤ limit) : limited limit move = move := by
  obtain ⟨below, above⟩ := abs_le.mp within
  unfold limited
  rw [min_eq_right above, max_eq_right below]

theorem limited_of_lt_abs (nonneg : 0 ≤ limit) (beyond : limit < |move|) :
    limited limit move = if 0 < move then limit else -limit := by
  unfold limited
  split
  · rename_i up
    rw [abs_of_pos up] at beyond
    rw [min_eq_left beyond.le, max_eq_right (by linarith)]
  · rename_i down
    rw [abs_of_nonpos (not_lt.mp down)] at beyond
    exact max_eq_left ((min_le_right _ _).trans (by linarith))

theorem abs_limited_sub_le : |limited limit move - limited limit other| ≤ |move - other| := by
  unfold limited
  calc |max (-limit) (min limit move) - max (-limit) (min limit other)|
      ≤ max |(-limit) - (-limit)| |min limit move - min limit other| :=
        abs_max_sub_max_le_max _ _ _ _
    _ = |min limit move - min limit other| := by
        rw [sub_self, abs_zero, max_eq_right (abs_nonneg _)]
    _ ≤ max |limit - limit| |move - other| := abs_min_sub_min_le_max _ _ _ _
    _ = |move - other| := by rw [sub_self, abs_zero, max_eq_right (abs_nonneg _)]

theorem limited_limited {first : K} (nonneg : 0 ≤ first) (limitNonneg : 0 ≤ limit) :
    limited limit (limited first move) = limited (min first limit) move := by
  unfold limited
  rcases le_total first limit with le | le
  · have above : min first move ≤ limit := (min_le_left _ _).trans le
    have below : -limit ≤ max (-first) (min first move) :=
      le_max_of_le_left (by linarith)
    rw [min_eq_left le, min_eq_right (max_le (by linarith) above), max_eq_right below]
  · rw [min_eq_right le]
    rcases le_total limit move with beyond | within
    · have outer : limit ≤ min first move := le_min le beyond
      rw [min_eq_left beyond, min_eq_left (le_max_of_le_right outer)]
    · rw [min_eq_right within, min_eq_right (within.trans le),
        min_eq_right (max_le (by linarith) within), ← max_assoc,
        max_eq_left (by linarith : -first ≤ -limit)]

theorem gain_sub_loss : max move 0 - max (-move) 0 = move := by
  rcases le_total 0 move with nonneg | nonpos
  · rw [max_eq_left nonneg, max_eq_right (by linarith), sub_zero]
  · rw [max_eq_right nonpos, max_eq_left (by linarith), zero_sub, neg_neg]

end Limits

section Sums

variable {K : Type u} [Field K] [LinearOrder K] [IsStrictOrderedRing K] {Item : Type v}

/-- Sums of values that are close one by one are close. -/
theorem abs_sum_sub_sum_le {items : List Item} {first second : Item → K} {distance : K}
    (close : ∀ item ∈ items, |first item - second item| ≤ distance) :
    |(items.map first).sum - (items.map second).sum| ≤ items.length * distance := by
  induction items with
  | nil => simp
  | cons item items ih =>
    have head := close item List.mem_cons_self
    have rest := ih fun other inside => close other (List.mem_cons_of_mem _ inside)
    rw [List.map_cons, List.map_cons, List.sum_cons, List.sum_cons, List.length_cons, Nat.cast_succ]
    calc |first item + (items.map first).sum - (second item + (items.map second).sum)|
        = |(first item - second item) + ((items.map first).sum - (items.map second).sum)| := by
          congr 1
          ring
      _ ≤ |first item - second item| + |(items.map first).sum - (items.map second).sum| :=
          abs_add_le _ _
      _ ≤ (items.length + 1) * distance := by linarith

theorem sum_add_moves {items : List Item} {weight move : Item → K} :
    (items.map fun item => weight item + move item).sum =
      (items.map weight).sum + (items.map fun item => max (move item) 0).sum -
        (items.map fun item => max (-move item) 0).sum := by
  induction items with
  | nil => simp
  | cons item items ih =>
    have split : max (move item) 0 - max (-move item) 0 = move item := gain_sub_loss
    simp only [List.map_cons, List.sum_cons, ih]
    linarith

end Sums

end Numeric
