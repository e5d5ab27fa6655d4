import Mathlib.Algebra.Order.BigOperators.Group.List
import Mathlib.Algebra.Order.Field.Basic
import Mathlib.Data.List.Induction
import Mathlib.Tactic.FieldSimp
import Mathlib.Tactic.Linarith
import Mathlib.Tactic.Ring

/-!
# Fills and what they add up to

A fill is a signed quantity at a price: positive when it buys, negative when it
sells.
-/

namespace Numeric

universe u

structure Fill (K : Type u) where
  quantity : K
  price : K

/-- An open quantity and its average price. -/
structure Holding (K : Type u) where
  size : K
  entry : K

section Sums

variable {K : Type u} [Field K]

def quantity (fills : List (Fill K)) : K := (fills.map Fill.quantity).sum

def cashFlow (fills : List (Fill K)) : K := -(fills.map fun fill => fill.quantity * fill.price).sum

def equity (mark : K) (fills : List (Fill K)) : K := cashFlow fills + mark * quantity fills

@[simp] theorem quantity_nil : quantity ([] : List (Fill K)) = 0 := rfl

@[simp] theorem quantity_append (fills others : List (Fill K)) :
    quantity (fills ++ others) = quantity fills + quantity others := by
  simp [quantity]

@[simp] theorem quantity_single (fill : Fill K) : quantity [fill] = fill.quantity := by
  simp [quantity]

@[simp] theorem cashFlow_nil : cashFlow ([] : List (Fill K)) = 0 := by simp [cashFlow]

@[simp] theorem cashFlow_append (fills others : List (Fill K)) :
    cashFlow (fills ++ others) = cashFlow fills + cashFlow others := by
  simp only [cashFlow, List.map_append, List.sum_append]
  ring

@[simp] theorem cashFlow_single (fill : Fill K) :
    cashFlow [fill] = -(fill.quantity * fill.price) := by
  simp [cashFlow]

theorem cashFlow_constant {fills : List (Fill K)} {price : K}
    (same : ∀ fill ∈ fills, fill.price = price) : cashFlow fills = -(quantity fills * price) := by
  induction fills with
  | nil => simp
  | cons fill fills ih =>
    have rest := ih fun other inside => same other (List.mem_cons_of_mem _ inside)
    have first : fill.price = price := same fill List.mem_cons_self
    have split : fill :: fills = [fill] ++ fills := rfl
    rw [split, cashFlow_append, quantity_append, cashFlow_single, quantity_single, rest, first]
    ring

end Sums

section Holdings

variable {K : Type u} [Field K] [LinearOrder K]

namespace Holding

/-- The holding after one more fill. -/
def add (holding : Holding K) (fill : Fill K) : Holding K where
  size := holding.size + fill.quantity
  entry :=
    if 0 ≤ holding.size * fill.quantity then
      if holding.size + fill.quantity = 0 then holding.entry
      else (holding.size * holding.entry + fill.quantity * fill.price) /
        (holding.size + fill.quantity)
    else if |fill.quantity| ≤ |holding.size| then holding.entry
    else fill.price

/-- What a fill realizes: the part of it that closes, at its gain over the entry. -/
def realized (holding : Holding K) (fill : Fill K) : K :=
  if 0 ≤ holding.size * fill.quantity then 0
  else if |fill.quantity| ≤ |holding.size| then fill.quantity * (holding.entry - fill.price)
  else -holding.size * (holding.entry - fill.price)

end Holding

def holdingOf (fills : List (Fill K)) : Holding K := fills.foldl Holding.add ⟨0, 0⟩

@[simp] theorem holdingOf_append (fills : List (Fill K)) (fill : Fill K) :
    holdingOf (fills ++ [fill]) = (holdingOf fills).add fill := by
  simp [holdingOf]

theorem holdingOf_size (fills : List (Fill K)) : (holdingOf fills).size = quantity fills := by
  induction fills using List.reverseRecOn with
  | nil => rfl
  | append_singleton fills fill ih =>
    rw [holdingOf_append, quantity_append, quantity_single, ← ih]
    rfl

variable [IsStrictOrderedRing K]

theorem Holding.add_value (holding : Holding K) (fill : Fill K) :
    holding.realized fill - (holding.add fill).size * (holding.add fill).entry =
      -(holding.size * holding.entry) - fill.quantity * fill.price := by
  unfold realized add
  dsimp only
  split
  · split
    · rename_i sameSide closes
      -- Quantities on one side that cancel are both zero.
      have opposite : fill.quantity = -holding.size := by linarith
      have nothing : holding.size = 0 := by
        rw [opposite] at sameSide
        have square : holding.size * holding.size ≤ 0 := by linarith
        exact mul_self_eq_zero.mp (le_antisymm square (mul_self_nonneg _))
      rw [opposite, nothing]
      ring
    · rename_i stays
      field_simp
      ring
  · split <;> ring

theorem holdingOf_buys {fills : List (Fill K)} (buys : ∀ fill ∈ fills, 0 < fill.quantity) :
    0 ≤ (holdingOf fills).size ∧
      (holdingOf fills).size * (holdingOf fills).entry = -cashFlow fills := by
  induction fills using List.reverseRecOn with
  | nil => simp [holdingOf]
  | append_singleton fills fill ih =>
    obtain ⟨long, value⟩ := ih fun other inside =>
      buys other (List.mem_append_left _ inside)
    have more : 0 < fill.quantity := buys fill (by simp)
    have sameSide : 0 ≤ (holdingOf fills).size * fill.quantity := mul_nonneg long more.le
    have nothing : (holdingOf fills).realized fill = 0 := if_pos sameSide
    have added := (holdingOf fills).add_value fill
    constructor
    · rw [holdingOf_append]
      exact add_nonneg long more.le
    · rw [holdingOf_append, cashFlow_append, cashFlow_single]
      linarith

theorem holdingOf_constant {fills : List (Fill K)} {price : K}
    (buys : ∀ fill ∈ fills, 0 < fill.quantity) (same : ∀ fill ∈ fills, fill.price = price)
    (some : fills ≠ []) : (holdingOf fills).entry = price := by
  have value := (holdingOf_buys buys).2
  rw [cashFlow_constant same, neg_neg, holdingOf_size] at value
  have positive : 0 < quantity fills := by
    cases fills with
    | nil => exact absurd rfl some
    | cons fill fills =>
      apply List.sum_pos
      · intro amount inside
        obtain ⟨other, isInside, rfl⟩ := List.mem_map.mp inside
        exact buys other isInside
      · simp
  exact mul_left_cancel₀ positive.ne' value

end Holdings

end Numeric
