import Mathlib.Algebra.BigOperators.Group.Finset.Piecewise
import CoinRobotu.Interleaving.Machine

/-!
# What the threads hold together

Tasks that move things between shared places hold them for a while.
-/

namespace Interleaving

universe u

variable {Phase : Type u} {amount : Phase → Nat} {phases : Thread → Phase} {total : Nat}

/-- Together the threads hold `total`. -/
def InHands (amount : Phase → Nat) (phases : Thread → Phase) (total : Nat) : Prop :=
  ∃ bound, (∀ thread, bound ≤ thread → amount (phases thread) = 0) ∧
    ∑ thread ∈ Finset.range bound, amount (phases thread) = total

theorem inHands_nothing (nothing : ∀ thread, amount (phases thread) = 0) :
    InHands amount phases 0 :=
  ⟨0, fun thread _ => nothing thread, by simp⟩

variable (hands : InHands amount phases total)

include hands

theorem InHands.eq_zero (nothing : ∀ thread, amount (phases thread) = 0) : total = 0 := by
  obtain ⟨bound, _, sum⟩ := hands
  rw [← sum]
  exact Finset.sum_eq_zero fun thread _ => nothing thread

theorem InHands.raise (least : Nat) :
    ∃ bound, least ≤ bound ∧ (∀ thread, bound ≤ thread → amount (phases thread) = 0) ∧
      ∑ thread ∈ Finset.range bound, amount (phases thread) = total := by
  obtain ⟨bound, beyond, sum⟩ := hands
  have wider : Finset.range bound ⊆ Finset.range (max bound least) := by
    apply Finset.range_subset_range.mpr
    omega
  have same : ∑ thread ∈ Finset.range (max bound least), amount (phases thread) = total := by
    rw [← sum]
    symm
    apply Finset.sum_subset wider
    intro thread _ outside
    exact beyond thread (by simpa using outside)
  exact ⟨max bound least, le_max_right _ _,
    fun thread above => beyond thread ((le_max_left bound least).trans above), same⟩

theorem InHands.exchange (thread : Thread) :
    ∃ others, total = others + amount (phases thread) ∧
      ∀ phase, InHands amount (Function.update phases thread phase) (others + amount phase) := by
  obtain ⟨bound, above, beyond, sum⟩ := hands.raise (thread + 1)
  have inside : thread ∈ Finset.range bound := by
    apply Finset.mem_range.mpr
    omega
  have split : ∀ phase, ∑ other ∈ Finset.range bound,
      amount (Function.update phases thread phase other) =
        amount phase + ∑ other ∈ Finset.range bound \ {thread}, amount (phases other) := by
    intro phase
    have commuted : ∀ other, amount (Function.update phases thread phase other) =
        Function.update (fun other => amount (phases other)) thread (amount phase) other := by
      intro other
      by_cases same : other = thread
      · subst same
        simp
      · simp [same]
    simp only [commuted]
    exact Finset.sum_update_of_mem inside _ _
  have whole := split (phases thread)
  rw [Function.update_eq_self, sum] at whole
  refine ⟨∑ other ∈ Finset.range bound \ {thread}, amount (phases other), by omega,
    fun phase => ⟨bound, fun other higher => ?_, ?_⟩⟩
  · have different : other ≠ thread := (Nat.lt_of_lt_of_le above higher).ne'
    rw [Function.update_of_ne different]
    exact beyond other higher
  · rw [split phase]
    omega

end Interleaving
