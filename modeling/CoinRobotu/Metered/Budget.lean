import Mathlib.Algebra.Order.Field.Basic
import Mathlib.Algebra.BigOperators.Group.List.Basic
import Mathlib.Tactic.Linarith
import Mathlib.Tactic.Ring

/-!
# Budgets that refill

A budget refills at a rate up to a capacity, and charges are taken from what is in it.
-/

namespace Metered

universe u

variable {K : Type u} [Field K] [LinearOrder K]

structure Charge (K : Type u) where
  time : K
  amount : K

def within (charges : List (Charge K)) (start finish : K) : List (Charge K) :=
  charges.filter fun charge => start ≤ charge.time ∧ charge.time ≤ finish

def spent (charges : List (Charge K)) (start finish : K) : K :=
  ((within charges start finish).map Charge.amount).sum

variable {capacity rate start finish : K} {charge : Charge K} {charges : List (Charge K)}

theorem spent_nil : spent [] start finish = 0 := rfl

theorem spent_cons_inside (inside : start ≤ charge.time ∧ charge.time ≤ finish) :
    spent (charge :: charges) start finish = charge.amount + spent charges start finish := by
  unfold spent within
  rw [List.filter_cons_of_pos (by simpa using inside), List.map_cons, List.sum_cons]

theorem spent_cons_outside (outside : ¬ (start ≤ charge.time ∧ charge.time ≤ finish)) :
    spent (charge :: charges) start finish = spent charges start finish := by
  unfold spent within
  rw [List.filter_cons_of_neg (by simpa using outside)]

theorem spent_after (past : ∀ charge ∈ charges, charge.time < start) :
    spent charges start finish = 0 := by
  have none : within charges start finish = [] := by
    rw [within, List.filter_eq_nil_iff]
    intro charge inside
    simp [not_le.mpr (past charge inside)]
  unfold spent
  rw [none, List.map_nil, List.sum_nil]

theorem spent_until {last : K} (past : ∀ charge ∈ charges, charge.time ≤ last)
    (le : last ≤ finish) : spent charges start finish = spent charges start last := by
  have same : within charges start finish = within charges start last := by
    apply List.filter_congr
    intro charge inside
    have early := past charge inside
    simp [early, early.trans le]
  unfold spent
  rw [same]

def lowered (allowance : K) (charges : List (Charge K)) : List (Charge K) :=
  charges.map fun charge => ⟨charge.time, charge.amount - allowance⟩

theorem spent_lowered {allowance : K} :
    spent (lowered allowance charges) start finish =
      spent charges start finish - allowance * (within charges start finish).length := by
  induction charges with
  | nil => simp [lowered, spent, within]
  | cons charge charges ih =>
    let shifted : Charge K := ⟨charge.time, charge.amount - allowance⟩
    have split : lowered allowance (charge :: charges) = shifted :: lowered allowance charges := rfl
    by_cases inside : start ≤ charge.time ∧ charge.time ≤ finish
    · have one : within (charge :: charges) start finish =
          charge :: within charges start finish :=
        List.filter_cons_of_pos (by simpa using inside)
      have shiftedInside : start ≤ shifted.time ∧ shifted.time ≤ finish := inside
      rw [split, spent_cons_inside shiftedInside, spent_cons_inside inside, ih,
        one, List.length_cons]
      push_cast
      ring
    · have none : within (charge :: charges) start finish = within charges start finish :=
        List.filter_cons_of_neg (by simpa using inside)
      have shiftedOutside : ¬ (start ≤ shifted.time ∧ shifted.time ≤ finish) := inside
      rw [split, spent_cons_outside shiftedOutside, spent_cons_outside inside,
        ih, none]

/-- The budget holds an amount at the time of its last charge, and backs all charges. -/
structure Backed (capacity rate : K) (charges : List (Charge K)) (held updated : K) : Prop where
  bounded : ∀ start finish, start ≤ finish →
    spent charges start finish ≤ capacity + rate * (finish - start)
  since : ∀ start, start ≤ updated →
    spent charges start updated + held ≤ capacity + rate * (updated - start)
  past : ∀ charge ∈ charges, charge.time ≤ updated

variable [IsStrictOrderedRing K]

theorem backed_nil (rateNonneg : 0 ≤ rate) (capacityNonneg : 0 ≤ capacity) {held updated : K}
    (le : held ≤ capacity) : Backed capacity rate [] held updated where
  bounded := by
    intro start finish le
    have refilled := mul_nonneg rateNonneg (sub_nonneg.mpr le)
    rw [spent_nil]
    linarith
  since := by
    intro start le
    have refilled := mul_nonneg rateNonneg (sub_nonneg.mpr le)
    rw [spent_nil]
    linarith
  past := nofun

/-- A charge of no more than what the budget has refilled to is backed with what it leaves. -/
theorem Backed.spend {held updated now amount left : K}
    (backed : Backed capacity rate charges held updated) (rateNonneg : 0 ≤ rate)
    (later : updated ≤ now) (leftNonneg : 0 ≤ left) (leCapacity : amount + left ≤ capacity)
    (leRefilled : amount + left ≤ held + rate * (now - updated)) :
    Backed capacity rate (⟨now, amount⟩ :: charges) left now := by
  have past : ∀ charge ∈ charges, charge.time ≤ now :=
    fun charge inside => (backed.past charge inside).trans later
  -- What has been charged since a time, with what is left.
  have since : ∀ start, start ≤ now →
      spent (⟨now, amount⟩ :: charges) start now + left ≤ capacity + rate * (now - start) := by
    intro start le
    rw [spent_cons_inside ⟨le, le_rfl⟩]
    dsimp only
    rcases le_or_gt start updated with early | late
    · have before := backed.since start early
      rw [spent_until backed.past later]
      linarith
    · have refilled := mul_nonneg rateNonneg (sub_nonneg.mpr le)
      rw [spent_after fun charge inside => (backed.past charge inside).trans_lt late]
      linarith
  constructor
  · intro start finish le
    by_cases inside : start ≤ now ∧ now ≤ finish
    · have refilled := mul_nonneg rateNonneg (sub_nonneg.mpr inside.2)
      have before := since start inside.1
      have cut : spent (⟨now, amount⟩ :: charges) start finish =
          spent (⟨now, amount⟩ :: charges) start now := by
        apply spent_until _ inside.2
        intro charge isCharge
        rcases List.mem_cons.mp isCharge with rfl | earlier
        · exact le_rfl
        · exact past charge earlier
      rw [cut]
      linarith
    · rw [spent_cons_outside inside]
      exact backed.bounded start finish le
  · exact since
  · intro charge isCharge
    rcases List.mem_cons.mp isCharge with rfl | earlier
    · exact le_rfl
    · exact past charge earlier

end Metered
