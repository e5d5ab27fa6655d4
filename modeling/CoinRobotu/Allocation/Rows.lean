import CoinRobotu.Numeric.Shares
import CoinRobotu.Runtime.Text
import CoinRobotu.Stateful.Refusing

/-!
# Strategy allocations

The rows of the allocation table, the checks of single fields, the summary with its two checks of
the whole table, the normalizer, the reduction after a drawdown and the drift metrics. Numbers are
exact.
-/

namespace Allocation

open Numeric
open Runtime (strip lower upper)
open Stateful

def canonicalStrategies : List String :=
  ["ichimoku_trend_continuation", "golden_cross_regime", "supertrend_flip",
    "vortex_directional_cross", "bollinger_squeeze_breakout", "moving_momentum",
    "fibonacci_pullback_continuation", "macd_impulse", "fisher_reversal",
    "divergence_reversal_suite", "structure_breakout", "stochastic_exhaustion_reentry"]

structure StrategyAllocation where
  strategyId : String
  capitalWeight : ℚ
  maxCapital : ℚ
  currentCapital : ℚ
  confidenceScore : ℚ
  performanceScore : ℚ
  state : String
  expectedReturn : ℚ
  realizedReturn : ℚ
  signalDecay : ℚ
  executionQualityScore : ℚ
  revisionId : ℤ
  updatedBy : String
  changeReason : String
  deriving DecidableEq, Repr

/-- A value of a payload: a missing key, `None`, what is not a number, or a number. -/
inductive Field where
  | absent
  | null
  | notNumeric
  | number (value : ℚ)
  deriving DecidableEq, Repr

/-- `_safe_float`. -/
def Field.safeFloat : Field → ℚ → ℚ
  | .number value, _ => value
  | _, fallback => fallback

structure OverAllocated where
  strategyId : String
  currentCapital : ℚ
  maxCapital : ℚ
  overflow : ℚ
  deriving DecidableEq, Repr

inductive ValueError where
  | emptyStrategyId
  | longStrategyId
  | existing (strategyId : String)
  | missing (strategyId : String)
  | notNumeric (fieldName : String)
  | negative (fieldName : String)
  | weightAboveOne (label : String)
  | currentAboveMax (label : String)
  | capitalLimit (first : OverAllocated)
  | weightSum (total delta : ℚ)
  | doubleConfirm
  | noUpdates
  | nothingToNormalize
  deriving DecidableEq, Repr

/-- The texts of the errors, with the text that Python has for a number. -/
def ValueError.text (number : ℚ → String) : ValueError → String
  | .emptyStrategyId => "strategy_id boş olamaz"
  | .longStrategyId => "strategy_id 80 karakterden uzun olamaz"
  | .existing strategyId => "Strategy zaten mevcut: " ++ strategyId
  | .missing strategyId => "Strategy bulunamadı: " ++ strategyId
  | .notNumeric fieldName => fieldName ++ " sayısal olmalı"
  | .negative fieldName => fieldName ++ " negatif olamaz"
  | .weightAboveOne label => "capital_weight 1'i aşamaz" ++ label
  | .currentAboveMax label => "current_capital max_capital değerini aşamaz" ++ label
  | .capitalLimit first => "Capital limit aşıldı: " ++ first.strategyId ++ " current=" ++
      number first.currentCapital ++ " > max=" ++ number first.maxCapital ++ " overflow=" ++
      number first.overflow
  | .weightSum total delta =>
      "Toplam weight 1 olmalı. current_total=" ++ number total ++ " delta=" ++ number delta
  | .doubleConfirm =>
      "State change için double confirm zorunlu (confirm_primary=CONFIRM, confirm_secondary=STATE CHANGE)"
  | .noUpdates => "Bulk update için en az 1 strategy gerekli"
  | .nothingToNormalize => "Normalize için strategy allocation satırı bulunamadı"

def exposureWarningThresholdPct : ℚ := 80
def drawdownWarningThresholdPct : ℚ := 8
def drawdownEnforceThresholdPct : ℚ := 12
def drawdownReduceRatio : ℚ := 15 / 100
def weightSumTolerance : ℚ := 1 / 10000
def defaultStartupCapitalWeight : ℚ := 833333 / 10000000

/-- `text or fallback`. -/
def orDefault (text : Option String) (fallback : String) : String :=
  if text.getD "" = "" then fallback else text.getD ""

/-- `_normalized_state`. -/
def normalizedState (value : Option String) (fallback : String) : String :=
  let state := strip (upper (orDefault value fallback))
  if state ∈ ["THROTTLED", "PASSIVE", "PASIF", "INACTIVE"] then "DISABLED"
  else if state ∈ ["ACTIVE", "DISABLED"] then state
  else fallback

def validateNonEmptyStrategyId {State : Type} (strategyId : Option String) :
    Refusing State ValueError String := do
  let key := strip (strategyId.getD "")
  refuseIf (key = "") .emptyStrategyId
  refuseIf (80 < key.length) .longStrategyId
  return key

def assertNonNegativeNumeric {State : Type} (fieldName : String) :
    Field → Refusing State ValueError ℚ
  | .number value => do
    refuseIf (value < 0) (.negative fieldName)
    return value
  | _ => throw (.notNumeric fieldName)

section Metrics

variable (row : StrategyAllocation)

def computeStrategyDrawdownPct : ℚ :=
  if 0 ≤ row.realizedReturn then 0 else roundTo 4 |row.realizedReturn|

def computeSuggestedReducedCapital : ℚ :=
  roundTo 4 (max (max row.currentCapital 0 * (1 - drawdownReduceRatio)) 0)

/-- One row of `_apply_critical_drawdown_reduce`. -/
def reducedByDrawdown : StrategyAllocation :=
  if computeStrategyDrawdownPct row < drawdownEnforceThresholdPct then row
  else if max row.currentCapital 0 ≤ computeSuggestedReducedCapital row then row
  else { row with currentCapital := computeSuggestedReducedCapital row }

structure EnforcedReduce where
  strategyId : String
  previousCurrentCapital : ℚ
  newCurrentCapital : ℚ
  drawdownPct : ℚ
  reasonCode : String
  deriving DecidableEq, Repr

/-- What `_apply_critical_drawdown_reduce` reports. -/
def enforcedReductions (rows : List StrategyAllocation) : List EnforcedReduce :=
  rows.filterMap fun row =>
    if reducedByDrawdown row = row then none
    else some {
      strategyId := row.strategyId
      previousCurrentCapital := roundTo 4 (max row.currentCapital 0)
      newCurrentCapital := roundTo 4 (computeSuggestedReducedCapital row)
      drawdownPct := computeStrategyDrawdownPct row
      reasonCode := "AUTO_REDUCE_BY_DRAWDOWN" }

/-- `_apply_revision_metadata` of a row that is not new. -/
def applyRevisionMetadata (actorId changeReason : Option String) : StrategyAllocation :=
  { row with
    revisionId := max row.revisionId 1 + 1
    updatedBy := orDefault actorId "system"
    changeReason := orDefault (some (strip (orDefault changeReason "manual_update")))
      "manual_update" }

/-- What the metrics of one strategy of the last seven days say: the quality scores of its
executions, and the confidence and the direction of its signals. -/
structure Activity where
  executions : List ℚ
  signals : List (ℚ × String)

/-- The new metrics of a row, in `recalculate_strategy_drift`. -/
def recalculated (activity : Activity) : StrategyAllocation :=
  let quality := if activity.executions = [] then row.executionQualityScore
    else activity.executions.sum / activity.executions.length
  let confidence := if activity.signals = [] then row.confidenceScore
    else (activity.signals.map Prod.fst).sum / activity.signals.length
  let rejectLike := (activity.signals.filter fun signal => lower signal.2 = "none").length
  let decayRatio : ℚ := if activity.signals = [] then row.signalDecay
    else rejectLike / activity.signals.length
  let expectedReturn := roundTo 4 (max (1 / 2) (confidence * 6))
  let realizedReturn := roundTo 4 (roundTo 4 ((quality - 50) / 10))
  { row with
    executionQualityScore := roundTo 4 quality
    confidenceScore := roundTo 4 confidence
    signalDecay := roundTo 4 decayRatio
    expectedReturn := expectedReturn
    realizedReturn := realizedReturn
    performanceScore := roundTo 4 (realizedReturn / max expectedReturn (1 / 10) * 100)
    state := normalizedState (some row.state) "DISABLED" }

end Metrics

section Scopes

variable (rows : List StrategyAllocation)

def StrategyAllocation.isCanonical (row : StrategyAllocation) : Bool :=
  row.strategyId ∈ canonicalStrategies

def inScope (row : StrategyAllocation) : Bool := row.isCanonical || !rows.any (·.isCanonical)

/-- `scoped_rows if scoped_rows else rows`. -/
def workingRows : List StrategyAllocation := rows.filter (inScope rows)

structure DrawdownCandidate where
  strategyId : String
  drawdownPct : ℚ
  currentCapital : ℚ
  suggestedReducedCapital : ℚ
  enforcedRequired : Bool
  reasonCode : String
  deriving DecidableEq, Repr

structure Summary where
  totalStrategies : ℕ
  totalWeight : ℚ
  weightBalanceDelta : ℚ
  totalCapital : ℚ
  usedCapital : ℚ
  availableCapital : ℚ
  overAllocatedStrategies : List OverAllocated
  totalExposureRatioPct : ℚ
  exposureWarningState : String
  drawdownCandidates : List DrawdownCandidate
  deriving DecidableEq, Repr

/-- `round(sum(row.capital_weight for row in working_rows), 6)`. -/
def totalWeight : ℚ := roundTo 6 ((workingRows rows).map (·.capitalWeight)).sum

def totalCapital : ℚ := roundTo 4 ((workingRows rows).map (·.maxCapital)).sum
def usedCapital : ℚ := roundTo 4 ((workingRows rows).map (·.currentCapital)).sum

def overAllocatedStrategies : List OverAllocated :=
  (workingRows rows).filterMap fun row =>
    if row.maxCapital < row.currentCapital then some {
      strategyId := row.strategyId
      currentCapital := roundTo 4 row.currentCapital
      maxCapital := roundTo 4 row.maxCapital
      overflow := roundTo 4 (row.currentCapital - row.maxCapital) }
    else none

def drawdownCandidates : List DrawdownCandidate :=
  (workingRows rows).filterMap fun row =>
    let drawdownPct := computeStrategyDrawdownPct row
    if drawdownPct < drawdownWarningThresholdPct then none
    else some {
      strategyId := row.strategyId
      drawdownPct
      currentCapital := roundTo 4 row.currentCapital
      suggestedReducedCapital := computeSuggestedReducedCapital row
      enforcedRequired := drawdownEnforceThresholdPct ≤ drawdownPct
      reasonCode := if drawdownEnforceThresholdPct ≤ drawdownPct then "AUTO_REDUCE_BY_DRAWDOWN"
        else "SUGGESTED_REDUCE_BY_DRAWDOWN" }

/-- `_collect_summary`. -/
def collectSummary : Summary :=
  let exposure := if 0 < totalCapital rows then
    roundTo 4 (usedCapital rows / totalCapital rows * 100) else 0
  { totalStrategies := (workingRows rows).length
    totalWeight := totalWeight rows
    weightBalanceDelta := roundTo 6 (totalWeight rows - 1)
    totalCapital := totalCapital rows
    usedCapital := usedCapital rows
    availableCapital := roundTo 4 (max (totalCapital rows - usedCapital rows) 0)
    overAllocatedStrategies := overAllocatedStrategies rows
    totalExposureRatioPct := exposure
    exposureWarningState := if exposureWarningThresholdPct ≤ exposure then "WARNING" else "NORMAL"
    drawdownCandidates := drawdownCandidates rows }

/-- `_ensure_weight_is_one`. -/
def ensureWeightIsOne {State : Type} : Refusing State ValueError PUnit :=
  let summary := collectSummary rows
  refuseIf (weightSumTolerance < |summary.weightBalanceDelta|)
    (.weightSum summary.totalWeight summary.weightBalanceDelta)

/-- `_ensure_capital_limit`. -/
def ensureCapitalLimit {State : Type} : Refusing State ValueError PUnit :=
  match (collectSummary rows).overAllocatedStrategies with
  | [] => pure ⟨⟩
  | first :: _ => throw (.capitalLimit first)

def assignWeights (scope : StrategyAllocation → Bool) :
    List StrategyAllocation → List ℚ → List StrategyAllocation
  | [], _ => []
  | row :: rows, weights =>
    match scope row, weights with
    | true, weight :: weights => { row with capitalWeight := weight } ::
        assignWeights scope rows weights
    | _, weights => row :: assignWeights scope rows weights

/-- `_apply_normalize`. -/
def applyNormalize : List StrategyAllocation :=
  assignWeights (inScope rows) rows (sharesOf 8 ((workingRows rows).map (·.capitalWeight)))

end Scopes

end Allocation
