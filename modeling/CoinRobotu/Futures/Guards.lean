import CoinRobotu.Futures.CapitalGuard
import CoinRobotu.Futures.ClusterGuard
import CoinRobotu.Futures.Lifecycle

/-!
# The chain of guards

A strategy cycle passes its decisions through the enforcement of the lifecycle, the cluster guard,
the capital guard and the tail-risk guard, in this order.
-/

namespace Futures

open Numeric hiding orNumber
open Risk (orNumber)

structure TailEvent where
  strategyId : String
  riskScore : ℚ
  reason : List String
  deriving DecidableEq

structure TailGuard where
  action : GuardAction
  sizeMultiplier : ℚ
  pauseStrategy : Bool
  event : Option TailEvent
  deriving DecidableEq

/-- What the guard reads of the global risk payload; an alert is known by its event. -/
structure GlobalRisk where
  globalRiskScore : Option ℚ
  riskState : Option String
  activeAlerts : List (Option String)

def evaluateTailRiskOrderGuard (strategyId : String) (risk : GlobalRisk) : TailGuard :=
  let state := Runtime.upper (Runtime.orElse risk.riskState "NORMAL")
  let score := orNumber risk.globalRiskScore 0
  let reasons := risk.activeAlerts.map fun event => Runtime.orElse event "UNKNOWN"
  if state = "PAUSE" then
    ⟨.reject, 0, true, some ⟨strategyId, roundTo 2 score,
      if reasons = [] then ["TRADE_ENGINE_PAUSED"] else reasons⟩⟩
  else if state = "THROTTLE" then ⟨.reduceSize, 45 / 100, false, none⟩
  else if state = "DOWNSHIFT" then ⟨.reduceSize, 7 / 10, false, none⟩
  else ⟨.allow, 1, false, none⟩

/-- `apply_tail_risk_order_guard_to_decisions`, for one row; the state is the list of events. -/
def tailRow (risk : GlobalRisk) (events : List TailEvent) (row : Decision) :
    Decision × List TailEvent :=
  if row.decision ≠ .allow then (row, events)
  else
    let guard := evaluateTailRiskOrderGuard (Runtime.orElse row.strategy "unknown") risk
    match guard.action with
    | .reject =>
      (row.rejectedBy "TAIL_RISK" "TAIL_RISK_TRADE_REJECTED", events ++ guard.event.toList)
    | .reduceSize =>
      ((row.withRatio (roundTo 4 (max (5 / 100)
        (row.sizeRatio * orNumber (some guard.sizeMultiplier) 1)))).withReason
          "TAIL_RISK_SIZE_REDUCED", events)
    | .allow => (row, events)

def applyTailRiskOrderGuardToDecisions (risk : GlobalRisk) (decisions : List Decision) :
    List Decision × List TailEvent :=
  Stateful.traverse (tailRow risk) [] decisions

section Chain

/-- What the guards of one cycle read. -/
structure GuardInputs where
  registry : Registry
  throttles : Throttles
  clusters : ClusterSnapshot
  capital : CapitalSnapshot
  risk : GlobalRisk

/-- The decisions of a cycle after each of its guards, in the order of
`run_futures_strategy_paper_cycle`. -/
structure Passage where
  enforced : List Decision
  clustered : List Decision
  capitalized : List Decision
  final : List Decision

def GuardInputs.pass (inputs : GuardInputs) (decisions : List Decision) : Passage :=
  let enforced := (enforceStrategyLifecycleOnDecisions inputs.registry inputs.throttles decisions).1
  let clustered := (applyClusterOrderGuardToDecisions inputs.clusters enforced).1
  let capitalized := (applyCapitalOrderGuardToDecisions inputs.capital clustered).1
  ⟨enforced, clustered, capitalized,
    (applyTailRiskOrderGuardToDecisions inputs.risk capitalized).1⟩

/-- What a guard leaves of a row: what was rejected is at most labelled, and the ratio of an
allowed row is not raised as long as it is one of those the guard does not round or lift. -/
structure Keeps (label : Decision → Decision) (exact : ℚ → Prop) (row after : Decision) : Prop where
  rejected : row.decision = .reject → after = label row
  smaller : row.decision = .allow → exact row.ratio → after.ratio ≤ row.ratio

theorem Verdict.ne_allow_iff {verdict : Verdict} : verdict ≠ .allow ↔ verdict = .reject := by
  cases verdict <;> simp

variable {row : Decision}

theorem enforceRow_keeps {registry : Registry} {throttles : Throttles} {state : Enforcement} :
    Keeps (·.labelled registry throttles) (fun ratio => ratio ≠ 0 ∧ HasDecimals 4 ratio) row
      (enforceRow registry throttles state row).1 := by
  constructor
  · intro rejected
    unfold enforceRow
    dsimp only
    rw [if_pos (Verdict.ne_allow_iff.mpr rejected)]
  · rintro allowed ⟨nonzero, decimals⟩
    have capped : ((row.labelled registry throttles).throttledBy
        (throttles.throttle row.strategyKey)).ratio ≤ row.ratio := by
      show roundTo 4 (min row.sizeRatio _) ≤ row.ratio
      rw [Decision.sizeRatio_eq nonzero]
      exact decimals.roundTo_le (min_le_left _ _)
    unfold enforceRow
    dsimp only
    rw [if_neg (not_not_intro allowed)]
    split_ifs
    · exact le_rfl
    · exact le_rfl
    · exact capped
    · exact capped

theorem clusterRow_keeps {snapshot : ClusterSnapshot} {state : ClusterState} :
    Keeps id (2 / 10 ≤ ·) row (clusterRow snapshot state row).1 := by
  constructor
  · intro rejected
    unfold clusterRow
    rw [if_pos (Verdict.ne_allow_iff.mpr rejected)]
    rfl
  · intro allowed floored
    have positive : row.ratio ≠ 0 := by
      rintro zero
      rw [zero] at floored
      norm_num at floored
    have unguarded : (row.guardedBy ⟨.allow, row.sizeRatio, none⟩).ratio ≤ row.ratio := le_rfl
    unfold clusterRow evaluateClusterOrderGuard
    rw [if_neg (not_not_intro allowed)]
    dsimp only
    split
    · exact unguarded
    · split
      · exact unguarded
      · rcases guardInCluster_ratio with same | written
        · exact (Decision.ratio_congr same).le
        · rw [written, Decision.sizeRatio_eq positive]
          exact reducedRatio_le floored

theorem adjustedRatio_le {budgetRow : BudgetRow} {guard : CapitalGuard} {clusterState : String} :
    adjustedRatio budgetRow guard clusterState row ≤ row.sizeRatio := by
  unfold adjustedRatio
  dsimp only
  split
  · exact (min_le_left _ _).trans (min_le_right _ _)
  · exact min_le_right _ _

theorem capitalRow_keeps {snapshot : CapitalSnapshot} {state : CapitalState} :
    Keeps id (fun ratio => HasDecimals 4 ratio ∧ 5 / 100 ≤ ratio) row
      (capitalRow snapshot state row).1 := by
  constructor
  · intro rejected
    unfold capitalRow
    rw [if_pos (Verdict.ne_allow_iff.mpr rejected)]
    rfl
  · rintro allowed ⟨decimals, floored⟩
    have positive : row.ratio ≠ 0 := by
      rintro zero
      rw [zero] at floored
      norm_num at floored
    have passed : CapitalPassed snapshot state row (capitalRow snapshot state row) :=
      capitalRow_passed
    generalize capitalRow snapshot state row = outcome at passed ⊢
    cases passed with
    | skipped | rejected => exact le_rfl
    | through =>
      rw [Decision.resized_ratio]
      apply decimals.roundTo_le
      apply max_le floored
      rw [← Decision.sizeRatio_eq positive]
      exact adjustedRatio_le

/-- A reduction by the tail risk is one to seven tenths at most. -/
theorem evaluateTail_multiplier {strategyId : String} {risk : GlobalRisk}
    (reduces : (evaluateTailRiskOrderGuard strategyId risk).action = .reduceSize) :
    orNumber (some (evaluateTailRiskOrderGuard strategyId risk).sizeMultiplier) 1 ≤ 7 / 10 := by
  unfold evaluateTailRiskOrderGuard at reduces ⊢
  dsimp only at reduces ⊢
  -- Neither a pause nor the normal state reduces anything.
  split_ifs at reduces ⊢ with paused throttled downshifted
  · norm_num [orNumber]
  · norm_num [orNumber]

theorem tailRow_keeps {risk : GlobalRisk} {events : List TailEvent} :
    Keeps id (5 / 100 ≤ ·) row (tailRow risk events row).1 := by
  constructor
  · intro rejected
    unfold tailRow
    rw [if_pos (Verdict.ne_allow_iff.mpr rejected)]
    rfl
  · intro allowed floored
    have positive : row.ratio ≠ 0 := by
      rintro zero
      rw [zero] at floored
      norm_num at floored
    unfold tailRow
    rw [if_neg (not_not_intro allowed)]
    dsimp only
    split
    · exact le_rfl
    · rename_i reduces
      rw [Decision.withReason_ratio, Decision.withRatio_ratio, Decision.sizeRatio_eq positive]
      have multiplier := evaluateTail_multiplier reduces
      have smaller : row.ratio * orNumber (some (evaluateTailRiskOrderGuard
          (Runtime.orElse row.strategy "unknown") risk).sizeMultiplier) 1 ≤
          row.ratio * (7 / 10) :=
        mul_le_mul_of_nonneg_left multiplier (by linarith)
      -- The floor has two decimals, and a reduction to seven tenths outweighs the rounding.
      have floor : roundTo 4 (5 / 100) ≤ row.ratio :=
        (HasDecimals.rounded ⟨500, by norm_num⟩).trans_le floored
      have rounded := (abs_le.mp (abs_roundTo_sub_le 4 (row.ratio * (7 / 10)))).2
      norm_num at rounded
      rcases le_total (5 / 100 : ℚ) (row.ratio * (7 / 10)) with above | below
      · calc roundTo 4 (max (5 / 100) _) ≤ roundTo 4 (row.ratio * (7 / 10)) :=
              roundTo_mono 4 (max_le above smaller)
          _ ≤ row.ratio := by linarith
      · calc roundTo 4 (max (5 / 100) _) ≤ roundTo 4 (5 / 100) :=
              roundTo_mono 4 (max_le le_rfl (smaller.trans below))
          _ ≤ row.ratio := floor
    · exact le_rfl

/-- A row that a guard does not change once it is rejected, and whose ratio it never raises. -/
def Unloosened (row after : Decision) : Prop :=
  (row.decision = .reject → after = row) ∧ (row.decision = .allow → after.ratio ≤ row.ratio)

instance (row after : Decision) : Decidable (Unloosened row after) :=
  inferInstanceAs (Decidable (_ ∧ _))

/-- A throttled strategy, a cluster near its limit, budgets without end and a throttled market. -/
def sampleInputs : GuardInputs where
  registry := fun _ => none
  throttles := fun _ => some ⟨some "L1", some (86 / 100), some (78 / 100), some 5⟩
  clusters := holding 3300 10000 (by norm_num)
  capital := ⟨buildPortfolioCapitalRegistry 10000 0 0 (8 / 10),
    [⟨"trend_follow_v1", 2000, 0, 2000, 1500⟩], "NORMAL"⟩
  risk := ⟨some 80, some "THROTTLE", []⟩

end Chain

end Futures
