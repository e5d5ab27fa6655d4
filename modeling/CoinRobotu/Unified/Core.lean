import Mathlib.Data.List.Sort
import CoinRobotu.Numeric.Limits

/-!
# The unified risk orchestrator

The measures of a portfolio and the verdicts on its strategies pass a state machine, a matrix of
kill-switch rows, and a hysteresis against the previous state; the state that comes out gives an
execution policy, which the verdicts on the strategies overwrite once more.
-/

namespace Unified

open Numeric (orNumber)

/-- The states of `state_machine`. -/
inductive RiskState where
  | normal
  | warn
  | high
  | critical
  | blocked
  deriving DecidableEq

/-- `state_rank`. -/
def RiskState.rank : RiskState → ℕ
  | .normal => 0
  | .warn => 1
  | .high => 2
  | .critical => 3
  | .blocked => 4

theorem RiskState.rank_injective : Function.Injective RiskState.rank := by
  intro state other same
  cases state <;> cases other <;> first | rfl | exact absurd same (by decide)

instance : LinearOrder RiskState := LinearOrder.lift' RiskState.rank RiskState.rank_injective

inductive Action where
  | normal
  | throttle
  | pause
  | block
  deriving DecidableEq

structure StrategyAction where
  strategyId : String
  action : Action

structure AllocationRow where
  strategyId : Option String
  capitalSharePct : Option ℚ
  riskBudgetPct : Option ℚ

def AllocationRow.named (row : AllocationRow) : String :=
  if row.strategyId.getD "" = "" then "default" else row.strategyId.getD ""

def AllocationRow.usage (row : AllocationRow) : ℚ :=
  orNumber row.capitalSharePct 0 / max (orNumber row.riskBudgetPct 1) (1 / 1000000) * 100

/-- The verdict on a strategy; `breaches` counts its breaches in the manifest. -/
def AllocationRow.action (breaches : String → ℕ) (row : AllocationRow) : Action :=
  let action := if 100 < row.usage then .pause else if 80 < row.usage then .throttle else .normal
  if 3 ≤ breaches row.named ∧ 100 < row.usage then .block else action

/-- The actions of `_strategy_risk_governance`. -/
def strategyRiskGovernance (breaches : String → ℕ) (allocation : List AllocationRow) :
    List StrategyAction :=
  (allocation.map fun row => ⟨row.named, row.action breaches⟩).filter fun item =>
    item.action ≠ .normal

structure Thresholds where
  varLimit : ℚ
  cvarLimit : ℚ
  clusterLimit : ℚ
  clusterCriticalLimit : ℚ
  marginHighLimit : ℚ
  marginCriticalLimit : ℚ
  marginBlockedLimit : ℚ
  liquidationWarnLimit : ℚ
  liquidationHighLimit : ℚ
  liquidationCriticalLimit : ℚ
  liquidationBlockedLimit : ℚ
  stressLossRatioLimit : ℚ
  hysteresisBuffer : ℚ

/-- `DEFAULT_THRESHOLDS`. -/
def defaultThresholds : Thresholds where
  varLimit := 5 / 100
  cvarLimit := 10 / 100
  clusterLimit := 60 / 100
  clusterCriticalLimit := 80 / 100
  marginHighLimit := 65
  marginCriticalLimit := 80
  marginBlockedLimit := 90
  liquidationWarnLimit := 10
  liquidationHighLimit := 5
  liquidationCriticalLimit := 3
  liquidationBlockedLimit := 15 / 10
  stressLossRatioLimit := 18 / 100
  hysteresisBuffer := 5 / 100

/-- What is measured of a portfolio. -/
structure Measures where
  minLiquidationBufferPct : ℚ
  marginUsagePct : ℚ
  riskBudgetBreaches : ℤ
  clusterScore : ℚ
  tailVar : ℚ
  tailCvar : ℚ
  stressLossRatio : ℚ

/-- An input of the decision: an absent previous state is one that is not known, too. -/
structure Input where
  measures : Measures
  thresholds : Thresholds
  actions : List StrategyAction
  previous : Option RiskState

def acts (actions : List StrategyAction) (action : Action) : Bool :=
  actions.any fun item => item.action = action

/-- `sorted(set(texts))`. -/
def sortedSet (texts : List String) : List String := texts.dedup.mergeSort fun a b => decide (a ≤ b)

section StateMachine

variable (measures : Measures) (limits : Thresholds) (actions : List StrategyAction)

def IsHigh : Prop :=
  measures.minLiquidationBufferPct < limits.liquidationHighLimit ∨
    limits.marginHighLimit < measures.marginUsagePct ∨ 0 < measures.riskBudgetBreaches ∨
    limits.clusterLimit ≤ measures.clusterScore ∨ limits.varLimit ≤ measures.tailVar

def IsCritical : Prop :=
  measures.minLiquidationBufferPct < limits.liquidationCriticalLimit ∨
    limits.marginCriticalLimit < measures.marginUsagePct ∨
    limits.clusterCriticalLimit ≤ measures.clusterScore ∨
    limits.cvarLimit ≤ measures.tailCvar ∨
    limits.stressLossRatioLimit ≤ measures.stressLossRatio ∨ acts actions .pause

def IsBlocked : Prop :=
  measures.minLiquidationBufferPct < limits.liquidationBlockedLimit ∨
    limits.marginBlockedLimit < measures.marginUsagePct ∨
    limits.cvarLimit * (16 / 10) ≤ measures.tailCvar ∨ acts actions .block

instance : Decidable (IsHigh measures limits) := by unfold IsHigh; infer_instance
instance : Decidable (IsCritical measures limits actions) := by unfold IsCritical; infer_instance
instance : Decidable (IsBlocked measures limits actions) := by unfold IsBlocked; infer_instance

def textIf (condition : Prop) [Decidable condition] (text : String) : String :=
  if condition then text else ""

/-- `_risk_state_machine`. -/
def riskStateMachine : RiskState × List String :=
  let warned := measures.minLiquidationBufferPct < limits.liquidationWarnLimit
  let state := RiskState.normal
  let state := if warned then .warn else state
  let state := if IsHigh measures limits then .high else state
  let state := if IsCritical measures limits actions then .critical else state
  let state := if IsBlocked measures limits actions then .blocked else state
  let triggers :=
    (if warned then ["liquidation_buffer_warn"] else []) ++
    (if IsHigh measures limits then
      ["liquidation_buffer_high",
        textIf (limits.marginHighLimit < measures.marginUsagePct) "margin_usage_high",
        textIf (0 < measures.riskBudgetBreaches) "risk_budget_breach",
        textIf (limits.clusterLimit ≤ measures.clusterScore) "cluster_concentration_high",
        textIf (limits.varLimit ≤ measures.tailVar) "tail_var_breach"] else []) ++
    (if IsCritical measures limits actions then
      ["liquidation_buffer_critical",
        textIf (limits.marginCriticalLimit < measures.marginUsagePct) "margin_usage_critical",
        textIf (limits.clusterCriticalLimit ≤ measures.clusterScore)
          "cluster_concentration_critical",
        textIf (limits.cvarLimit ≤ measures.tailCvar) "tail_cvar_breach",
        textIf (limits.stressLossRatioLimit ≤ measures.stressLossRatio) "stress_loss_breach",
        textIf (acts actions .pause) "strategy_pause_triggered"] else []) ++
    (if IsBlocked measures limits actions then
      ["kill_switch_threshold", textIf (acts actions .block) "strategy_block_triggered"] else [])
  (state, sortedSet (triggers.filter (· ≠ "")))

end StateMachine

/-- The rows of the kill-switch matrix that compare measures. -/
inductive KillSwitchRow where
  | marginCluster
  | varStress
  | liquidationTail
  deriving DecidableEq

def triggeredRows (measures : Measures) (limits : Thresholds) : KillSwitchRow → Bool
  | .marginCluster => limits.marginBlockedLimit < measures.marginUsagePct ∧
      limits.clusterLimit ≤ measures.clusterScore
  | .varStress => limits.varLimit ≤ measures.tailVar ∧
      limits.stressLossRatioLimit ≤ measures.stressLossRatio
  | .liquidationTail => measures.minLiquidationBufferPct ≤ limits.liquidationBlockedLimit ∧
      limits.cvarLimit ≤ measures.tailCvar

/-- A verdict of the matrix; no level is the level `NONE`. -/
structure KillSwitch where
  level : Option RiskState
  reason : List String

def KillSwitch.triggered (killSwitch : KillSwitch) : Bool := killSwitch.reason ≠ []

/-- `_kill_switch_matrix`, from the rows that are triggered. -/
def killSwitchMatrix (rows : KillSwitchRow → Bool) (actions : List StrategyAction) : KillSwitch :=
  let level := none
  let level := if rows .marginCluster then some .critical else level
  let level := if rows .varStress then some .critical else level
  let level := if rows .liquidationTail then some .blocked else level
  let level := if acts actions .block then some .blocked else level
  let reasons :=
    (if rows .marginCluster then ["margin_ratio_high_and_cluster_high"] else []) ++
    (if rows .varStress then ["var_breach_and_stress_loss_high"] else []) ++
    (if rows .liquidationTail then ["liquidation_near_and_tail_risk_high"] else []) ++
    (if acts actions .block then ["strategy_block_action"] else [])
  { level := level, reason := sortedSet reasons }

section Hysteresis

variable (measures : Measures) (limits : Thresholds)

def Thresholds.buffer (limits : Thresholds) : ℚ := orNumber (some limits.hysteresisBuffer) (5 / 100)

/-- The measures hold the state that was before. -/
def Holds : RiskState → Prop
  | .high =>
    limits.marginHighLimit - limits.marginHighLimit * limits.buffer < measures.marginUsagePct ∨
      limits.clusterLimit - limits.buffer < measures.clusterScore ∨
      limits.varLimit - limits.varLimit * limits.buffer < measures.tailVar
  | .critical =>
    limits.marginCriticalLimit - limits.marginCriticalLimit * limits.buffer <
        measures.marginUsagePct ∨
      limits.clusterCriticalLimit - limits.buffer < measures.clusterScore ∨
      limits.varLimit < measures.tailVar
  | .blocked =>
    limits.marginBlockedLimit - limits.marginBlockedLimit * limits.buffer < measures.marginUsagePct
  | .normal | .warn => False

instance (state : RiskState) : Decidable (Holds measures limits state) := by
  cases state <;> unfold Holds <;> infer_instance

/-- `_apply_hysteresis`. -/
def applyHysteresis (previous : Option RiskState) (candidate : RiskState) : RiskState :=
  match previous with
  | none => candidate
  | some previous =>
    if previous ≤ candidate then candidate
    else if previous = .blocked ∧ .critical ≤ candidate then candidate
    else if Holds measures limits previous then previous
    else candidate

end Hysteresis

inductive Decision where
  | allow
  | allowWithReduce
  | reduceRisk
  | pauseStrategy
  | blockNewOrders
  | killSwitch
  deriving DecidableEq

structure ExecutionPolicy where
  state : RiskState
  blockNewOrders : Bool
  reduceSizeMultiplier : ℚ
  reduceLeverageTo : Option ℕ
  pauseStrategy : Bool
  killSwitchTriggered : Bool
  decision : Decision
  deriving DecidableEq

def executionPolicyFromState (state : RiskState) : ExecutionPolicy :=
  let policy := ⟨state, false, 1, none, false, false, .allow⟩
  match state with
  | .normal => policy
  | .warn => { policy with reduceSizeMultiplier := 85 / 100, decision := .allowWithReduce }
  | .high =>
    { policy with
      reduceSizeMultiplier := 6 / 10, reduceLeverageTo := some 3, decision := .reduceRisk }
  | .critical =>
    { policy with
      blockNewOrders := true, reduceSizeMultiplier := 0, reduceLeverageTo := some 2
      pauseStrategy := true, decision := .blockNewOrders }
  | .blocked =>
    { policy with
      blockNewOrders := true, reduceSizeMultiplier := 0, reduceLeverageTo := some 1
      pauseStrategy := true, killSwitchTriggered := true, decision := .killSwitch }

def ExecutionPolicy.throttled (policy : ExecutionPolicy) : ExecutionPolicy :=
  if 7 / 10 < policy.reduceSizeMultiplier
  then { policy with reduceSizeMultiplier := 7 / 10, decision := .reduceRisk } else policy

def ExecutionPolicy.paused (policy : ExecutionPolicy) : ExecutionPolicy :=
  { policy with pauseStrategy := true, decision := .pauseStrategy }

def ExecutionPolicy.blocked (policy : ExecutionPolicy) : ExecutionPolicy :=
  { policy with blockNewOrders := true, killSwitchTriggered := true, decision := .killSwitch }

structure Outcome where
  globalRiskState : RiskState
  executionPolicy : ExecutionPolicy
  triggers : List String

/-- The candidate of the hysteresis: the level of the matrix, if it has one, or the state of the
machine. -/
def candidateState (input : Input) (rows : KillSwitchRow → Bool) : RiskState :=
  ((killSwitchMatrix rows input.actions).level).getD
    (riskStateMachine input.measures input.thresholds input.actions).1

def settledState (input : Input) (rows : KillSwitchRow → Bool) : RiskState :=
  applyHysteresis input.measures input.thresholds input.previous (candidateState input rows)

/-- The decision of `run_unified_risk_orchestrator`, from the rows that are triggered. -/
def decideRisk (input : Input) (rows : KillSwitchRow → Bool) : Outcome :=
  let triggers := (riskStateMachine input.measures input.thresholds input.actions).2
  let killSwitch := killSwitchMatrix rows input.actions
  let triggers := if killSwitch.triggered then triggers ++ killSwitch.reason else triggers
  let state := settledState input rows
  let policy := executionPolicyFromState state
  let policy := if acts input.actions .throttle then policy.throttled else policy
  let policy := if acts input.actions .pause then policy.paused else policy
  if acts input.actions .block then
    { globalRiskState := .blocked
      executionPolicy := policy.blocked
      triggers := sortedSet (triggers ++ ["strategy_block_triggered"]) }
  else { globalRiskState := state, executionPolicy := policy, triggers := sortedSet triggers }

/-- `run_unified_risk_orchestrator`, from the measures and the allocation of the strategies. -/
def runUnifiedRiskOrchestrator (measures : Measures) (limits : Thresholds)
    (breaches : String → ℕ) (allocation : List AllocationRow) (previous : Option RiskState) :
    Outcome :=
  decideRisk ⟨measures, limits, strategyRiskGovernance breaches allocation, previous⟩
    (triggeredRows measures limits)

end Unified
