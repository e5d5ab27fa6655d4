import Mathlib.Tactic.Positivity
import CoinRobotu.Numeric.Rounding

/-!
# Risk actions and the execution quality

The checks of the risk engine each ask for an action, and the most severe one is
taken. The execution quality is a score out of one hundred, from which a weighted
penalty for stale data, spread, slippage, latency, a thin order book and the past is
taken off.
-/

namespace Risk

open Numeric

/-- The actions, in the order of their `priority`. -/
inductive RiskAction where
  | allow
  | reduceSize
  | pass
  | block
deriving DecidableEq, Repr

namespace RiskAction

def priority : RiskAction → ℕ
  | allow => 0
  | reduceSize => 1
  | pass => 2
  | block => 3

theorem priority_injective : Function.Injective priority := by
  intro action other same
  cases action <;> cases other <;> first | rfl | cases same

instance : LinearOrder RiskAction := LinearOrder.lift' priority priority_injective

/-- `_merge_action`. -/
def merge (current incoming : RiskAction) : RiskAction :=
  if incoming.priority > current.priority then incoming else current

theorem merge_eq_max (current incoming : RiskAction) :
    current.merge incoming = max current incoming := by
  cases current <;> cases incoming <;> rfl

theorem allow_le (action : RiskAction) : allow ≤ action := by cases action <;> decide

theorem le_block (action : RiskAction) : action ≤ block := by cases action <;> decide

/-- `action in {"PASS", "BLOCK"}`. -/
def Vetoes (action : RiskAction) : Prop := pass ≤ action

instance (action : RiskAction) : Decidable action.Vetoes := inferInstanceAs (Decidable (_ ≤ _))

end RiskAction

/-- `_clamp`. -/
def clamp (value low high : ℚ) : ℚ := max low (min high value)

theorem clamp_mono {value other : ℚ} (low high : ℚ) (le : value ≤ other) :
    clamp value low high ≤ clamp other low high :=
  max_le_max le_rfl (min_le_min le_rfl le)

theorem le_clamp (value low high : ℚ) : low ≤ clamp value low high := le_max_left _ _

theorem clamp_le {value low high : ℚ} (ordered : low ≤ high) : clamp value low high ≤ high :=
  max_le ordered (min_le_left _ _)

/-- What is measured of the market and of past executions. -/
structure QualityInputs where
  snapshotAgeMs : ℚ
  spreadBps : ℚ
  slippagePct : ℚ
  executionLatencyMs : ℚ
  orderbookDepthScore : ℚ
  partialFillRate : ℚ
  rejectRate : ℚ
deriving DecidableEq

structure QualityThresholds where
  staleThresholdMs : ℚ
  spreadThresholdBps : ℚ
  maxSlippagePct : ℚ
  executionQualityThreshold : ℚ
deriving DecidableEq

section Score

variable (thresholds : QualityThresholds) (inputs : QualityInputs)

def staleRatio : ℚ := inputs.snapshotAgeMs / max thresholds.staleThresholdMs 1

def spreadRatio : ℚ := inputs.spreadBps / max thresholds.spreadThresholdBps (1 / 10)

def slippageRatio : ℚ := inputs.slippagePct / max thresholds.maxSlippagePct (1 / 10)

def fixedPenalty : ℚ :=
  clamp (inputs.executionLatencyMs / 3000) 0 3 * (12 / 100) +
    clamp (1 - clamp inputs.orderbookDepthScore 0 1) 0 1 * (10 / 100)

def weightedPenalty : ℚ :=
  clamp (staleRatio thresholds inputs) 0 3 * (24 / 100) +
    clamp (spreadRatio thresholds inputs) 0 3 * (22 / 100) +
    clamp (slippageRatio thresholds inputs) 0 3 * (16 / 100) +
    fixedPenalty inputs +
    clamp inputs.partialFillRate 0 1 * (8 / 100) +
    clamp inputs.rejectRate 0 1 * (8 / 100)

def qualityScore : ℚ := roundTo 4 (max 0 (100 - weightedPenalty thresholds inputs * 40))

/-- The recommendation of `evaluate_execution_quality`. -/
def evaluateExecutionQuality : RiskAction :=
  let score := qualityScore thresholds inputs
  let threshold := thresholds.executionQualityThreshold
  if score < min (threshold * (7 / 10)) 45 ∨ 2 ≤ staleRatio thresholds inputs ∨
      2 ≤ spreadRatio thresholds inputs then .block
  else if score < threshold ∨ 1 ≤ staleRatio thresholds inputs ∨
      1 ≤ spreadRatio thresholds inputs then .pass
  else if score < min 95 (threshold + 10) then .reduceSize
  else .allow

end Score

section Monotone

variable {thresholds : QualityThresholds} {inputs worse : QualityInputs}

theorem chain_mono {severe medium mild severe' medium' mild' : Prop} [Decidable severe]
    [Decidable medium] [Decidable mild] [Decidable severe'] [Decidable medium'] [Decidable mild']
    (first : severe → severe') (second : medium → medium') (third : mild → mild') :
    (if severe then RiskAction.block else if medium then .pass else if mild then .reduceSize
        else .allow) ≤
      if severe' then RiskAction.block else if medium' then .pass else if mild' then .reduceSize
        else .allow := by
  by_cases isSevere : severe'
  · rw [if_pos isSevere]
    exact RiskAction.le_block _
  · rw [if_neg isSevere, if_neg fun was => isSevere (first was)]
    by_cases isMedium : medium'
    · rw [if_pos isMedium]
      split_ifs <;> decide
    · rw [if_neg isMedium, if_neg fun was => isMedium (second was)]
      by_cases isMild : mild'
      · rw [if_pos isMild]
        split_ifs <;> decide
      · rw [if_neg isMild, if_neg fun was => isMild (third was)]

theorem evaluateExecutionQuality_mono
    (stale : staleRatio thresholds inputs ≤ staleRatio thresholds worse)
    (spread : spreadRatio thresholds inputs ≤ spreadRatio thresholds worse)
    (score : qualityScore thresholds worse ≤ qualityScore thresholds inputs) :
    evaluateExecutionQuality thresholds inputs ≤ evaluateExecutionQuality thresholds worse := by
  unfold evaluateExecutionQuality
  apply chain_mono
  · rintro (low | old | wide)
    · exact .inl (lt_of_le_of_lt score low)
    · exact .inr (.inl (old.trans stale))
    · exact .inr (.inr (wide.trans spread))
  · rintro (low | old | wide)
    · exact .inl (lt_of_le_of_lt score low)
    · exact .inr (.inl (old.trans stale))
    · exact .inr (.inr (wide.trans spread))
  · exact fun low => lt_of_le_of_lt score low

theorem pass_le_evaluateExecutionQuality
    (low : qualityScore thresholds inputs < thresholds.executionQualityThreshold) :
    .pass ≤ evaluateExecutionQuality thresholds inputs := by
  unfold evaluateExecutionQuality
  dsimp only
  split_ifs with severe medium mild
  · decide
  · decide
  · exact absurd (.inl low) medium
  · exact absurd (.inl low) medium

theorem evaluateExecutionQuality_le_reduceSize (positive : 0 ≤ thresholds.executionQualityThreshold)
    (high : thresholds.executionQualityThreshold ≤ qualityScore thresholds inputs)
    (stale : staleRatio thresholds inputs < 1) (spread : spreadRatio thresholds inputs < 1) :
    evaluateExecutionQuality thresholds inputs ≤ .reduceSize := by
  unfold evaluateExecutionQuality
  dsimp only
  have notMedium : ¬(qualityScore thresholds inputs < thresholds.executionQualityThreshold ∨
      1 ≤ staleRatio thresholds inputs ∨ 1 ≤ spreadRatio thresholds inputs) := by
    rintro (low | old | wide)
    · linarith
    · linarith
    · linarith
  have notSevere : ¬(qualityScore thresholds inputs <
        min (thresholds.executionQualityThreshold * (7 / 10)) 45 ∨
      2 ≤ staleRatio thresholds inputs ∨ 2 ≤ spreadRatio thresholds inputs) := by
    rintro (low | old | wide)
    · have below := lt_of_lt_of_le low (min_le_left _ _)
      linarith
    · linarith
    · linarith
  rw [if_neg notSevere, if_neg notMedium]
  split <;> decide

theorem qualityScore_anti
    (penalty : weightedPenalty thresholds inputs ≤ weightedPenalty thresholds worse) :
    qualityScore thresholds worse ≤ qualityScore thresholds inputs := by
  apply roundTo_mono
  apply max_le_max le_rfl
  linarith

variable (age : inputs.snapshotAgeMs ≤ worse.snapshotAgeMs)
  (spread : inputs.spreadBps ≤ worse.spreadBps) (slippage : inputs.slippagePct ≤ worse.slippagePct)
  (fixed : fixedPenalty inputs ≤ fixedPenalty worse)
  (partialFills : inputs.partialFillRate = worse.partialFillRate)
  (rejects : inputs.rejectRate = worse.rejectRate)

include age spread slippage fixed partialFills rejects

/-- Older and wider data at more slippage, and no lower fixed penalty, are penalised
at least as much. -/
theorem weightedPenalty_mono :
    staleRatio thresholds inputs ≤ staleRatio thresholds worse ∧
      spreadRatio thresholds inputs ≤ spreadRatio thresholds worse ∧
      weightedPenalty thresholds inputs ≤ weightedPenalty thresholds worse := by
  have staler : staleRatio thresholds inputs ≤ staleRatio thresholds worse :=
    div_le_div_of_nonneg_right age (zero_le_one.trans (le_max_right _ _))
  have wider : spreadRatio thresholds inputs ≤ spreadRatio thresholds worse :=
    div_le_div_of_nonneg_right spread ((by norm_num : (0 : ℚ) ≤ 1 / 10).trans (le_max_right _ _))
  have slipped : slippageRatio thresholds inputs ≤ slippageRatio thresholds worse :=
    div_le_div_of_nonneg_right slippage ((by norm_num : (0 : ℚ) ≤ 1 / 10).trans (le_max_right _ _))
  refine ⟨staler, wider, ?_⟩
  have first := clamp_mono 0 3 staler
  have second := clamp_mono 0 3 wider
  have third := clamp_mono 0 3 slipped
  unfold weightedPenalty
  rw [partialFills, rejects]
  linarith

theorem evaluateExecutionQuality_worse :
    evaluateExecutionQuality thresholds inputs ≤ evaluateExecutionQuality thresholds worse := by
  obtain ⟨staler, wider, penalty⟩ :=
    @weightedPenalty_mono thresholds inputs worse age spread slippage fixed partialFills rejects
  exact evaluateExecutionQuality_mono staler wider (qualityScore_anti penalty)

end Monotone

end Risk
