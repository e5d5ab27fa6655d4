import CoinRobotu.Numeric.Rounding
import CoinRobotu.Runtime.Text

/-!
# The dynamic capital rebalance

Each strategy gets a target in proportion to its score. A strategy that was rebalanced within the
cadence window keeps its weight; the others move towards their targets, by no more than the weight
shift of one cycle and, where the capital shift is limited, by no more than that. Every strategy is
moved by itself: what one of them loses is not what the others gain.

Numbers are exact. A number that is missing, or that `float` refuses, is `none`, and times are in
seconds.
-/

namespace Rebalance

open Numeric

/-- What is read of a strategy. -/
structure Strategy where
  strategyId : Option String
  performanceScore : Option ℚ
  executionQualityScore : Option ℚ
  signalDecay : Option ℚ
  riskScore : Option ℚ
  confidenceScore : Option ℚ
  realizedReturn : Option ℚ
  capitalWeight : Option ℚ
  currentCapital : Option ℚ
  maxCapital : Option ℚ
  lastRebalancedAt : Option ℚ

/-- The governance configuration: a key may be missing, and its value may be no number. -/
structure Governance where
  cadenceWindowMinutes : Option (Option ℤ)
  maxWeightShiftPerCycle : Option (Option ℚ)
  maxCapitalShiftPct : Option (Option ℚ)
  driftThreshold : Option (Option ℚ)

/-- `DEFAULT_GOVERNANCE`. -/
def defaultGovernance : Governance where
  cadenceWindowMinutes := some (some 30)
  maxWeightShiftPerCycle := some (some (12 / 100))
  maxCapitalShiftPct := some (some (2 / 10))
  driftThreshold := some (some (8 / 100))

/-- `{**DEFAULT_GOVERNANCE, **governance}`. -/
def Governance.overDefaults (governance : Governance) : Governance where
  cadenceWindowMinutes :=
    governance.cadenceWindowMinutes.or defaultGovernance.cadenceWindowMinutes
  maxWeightShiftPerCycle :=
    governance.maxWeightShiftPerCycle.or defaultGovernance.maxWeightShiftPerCycle
  maxCapitalShiftPct := governance.maxCapitalShiftPct.or defaultGovernance.maxCapitalShiftPct
  driftThreshold := governance.driftThreshold.or defaultGovernance.driftThreshold

/-- The limits that a run works with. -/
structure Limits where
  cadenceWindowMinutes : ℤ
  maxWeightShiftPerCycle : ℚ
  maxCapitalShiftPct : ℚ
  driftThreshold : ℚ
  deriving DecidableEq

/-- The limits of a configuration; the drift threshold of the caller counts where the configured
one is no number. -/
def Governance.limits (governance : Governance) (driftThreshold : ℚ) : Limits :=
  let config := governance.overDefaults
  { cadenceWindowMinutes := max (config.cadenceWindowMinutes.join.getD 30) 1
    maxWeightShiftPerCycle :=
      max 0 (min (config.maxWeightShiftPerCycle.join.getD (12 / 100)) 1)
    maxCapitalShiftPct := max 0 (min (config.maxCapitalShiftPct.join.getD (2 / 10)) 1)
    driftThreshold := max (config.driftThreshold.join.getD driftThreshold) 0 }

namespace Strategy

variable (strategy : Strategy)

/-- `_calculate_score`. -/
def calculateScore : ℚ :=
  strategy.performanceScore.getD 0 * (45 / 100) +
    strategy.executionQualityScore.getD 0 / 100 * 35 +
    (1 - strategy.signalDecay.getD 0) * 15 + (1 - strategy.riskScore.getD 0) * 5

def score : ℚ := max strategy.calculateScore (1 / 10000)

def currentWeight : ℚ := strategy.capitalWeight.getD 1

def capitalCeiling : ℚ := max (strategy.maxCapital.getD 1) 1

/-- `minutes_since_last_rebalance`. -/
def minutesSince (now : ℚ) : Option ℚ :=
  strategy.lastRebalancedAt.map fun last => max ((now - last) / 60) 0

/-- `cadence_window_blocked`. -/
def cadenceBlocked (limits : Limits) (now : ℚ) : Bool :=
  (strategy.minutesSince now).any fun minutes => minutes < (limits.cadenceWindowMinutes : ℚ)

end Strategy

/-- `total_score`. -/
def totalScore (strategies : List Strategy) : ℚ := (strategies.map Strategy.score).sum

/-- `raw_target_weight`. -/
def rawTargetWeight (total : ℚ) (strategy : Strategy) : ℚ := roundTo 6 (strategy.score / total)

/-- A weight that moves towards a target by at most the shift of one cycle, and whether the shift
was cut off. -/
def weightShift (limits : Limits) (currentWeight target : ℚ) : ℚ × Bool :=
  let shift := target - currentWeight
  if limits.maxWeightShiftPerCycle < |shift| then
    (roundTo 6 (currentWeight +
      if 0 < shift then limits.maxWeightShiftPerCycle else -limits.maxWeightShiftPerCycle), true)
  else (target, false)

/-- The weight and the capital shift after the capital limit, and whether it cut the shift off. -/
def capitalShift (limits : Limits) (maxCapital currentWeight target : ℚ) : ℚ × ℚ × Bool :=
  let raw := (target - currentWeight) * maxCapital
  let limit := maxCapital * limits.maxCapitalShiftPct
  if 0 < limit ∧ limit < |raw| then
    let shift := if 0 < raw then limit else -limit
    (roundTo 6 (currentWeight + shift / maxCapital), shift, true)
  else (target, raw, false)

structure Event where
  strategyId : String
  oldStrategyWeight : ℚ
  newStrategyWeight : ℚ
  targetStrategyWeight : ℚ
  capitalShift : ℚ
  throttleSignal : Bool
  allocationDrift : ℚ
  strategyPerformanceDelta : ℚ
  riskAdjustedReturn : ℚ
  cadenceWindowBlocked : Bool
  minutesSinceLastRebalance : Option ℚ
  maxWeightShiftApplied : Bool
  maxCapitalShiftApplied : Bool
  deriving DecidableEq

/-- What one pass of the loop leaves: the event, and the drift that is added up, which is taken
before the capital limit. -/
structure Pass where
  event : Event
  drift : ℚ

def rebalanceOne (limits : Limits) (now total : ℚ) (strategy : Strategy) : Pass :=
  let currentWeight := strategy.currentWeight
  let rawTarget := rawTargetWeight total strategy
  let maxCapital := strategy.capitalCeiling
  let usageRatio := strategy.currentCapital.getD 0 / maxCapital
  let blocked := strategy.cadenceBlocked limits now
  let (target, weightCapped) :=
    if blocked then (roundTo 6 currentWeight, false)
    else weightShift limits currentWeight rawTarget
  let drift := roundTo 6 |target - currentWeight|
  let (newWeight, shift, capitalCapped) :=
    if blocked then (target, (target - currentWeight) * maxCapital, false)
    else capitalShift limits maxCapital currentWeight target
  let allocationDrift := if capitalCapped then roundTo 6 |newWeight - currentWeight| else drift
  { drift
    event :=
      { strategyId := Runtime.orElse strategy.strategyId "unknown_strategy"
        oldStrategyWeight := roundTo 6 currentWeight
        newStrategyWeight := newWeight
        targetStrategyWeight := rawTarget
        capitalShift := roundTo 4 shift
        throttleSignal := limits.driftThreshold < allocationDrift ∨ 95 / 100 < usageRatio
        allocationDrift
        strategyPerformanceDelta :=
          roundTo 6 (strategy.performanceScore.getD 0 - strategy.confidenceScore.getD 0)
        riskAdjustedReturn :=
          roundTo 6 (strategy.realizedReturn.getD 0 - strategy.signalDecay.getD 0 * 2)
        cadenceWindowBlocked := blocked
        minutesSinceLastRebalance := (strategy.minutesSince now).map (roundTo 3)
        maxWeightShiftApplied := weightCapped
        maxCapitalShiftApplied := capitalCapped } }

structure GovernanceSummary where
  limits : Limits
  cadenceBlockedStrategies : ℕ
  weightShiftCappedStrategies : ℕ
  capitalShiftCappedStrategies : ℕ
  deriving DecidableEq

structure Rebalanced where
  allocationDrift : ℚ
  strategyPerformanceDelta : ℚ
  riskAdjustedReturn : ℚ
  events : List Event
  governanceSummary : GovernanceSummary
  deriving DecidableEq

def average (values : List ℚ) : ℚ := roundTo 6 (values.sum / max values.length 1)

def runDynamicCapitalRebalance (strategyPerformance : List Strategy) (driftThreshold : ℚ)
    (governance : Governance) (now : ℚ) : Rebalanced :=
  let limits := governance.limits driftThreshold
  let passes := strategyPerformance.map (rebalanceOne limits now (totalScore strategyPerformance))
  let events := passes.map Pass.event
  { allocationDrift := average (passes.map Pass.drift)
    strategyPerformanceDelta := average (events.map Event.strategyPerformanceDelta)
    riskAdjustedReturn := average (events.map Event.riskAdjustedReturn)
    events
    governanceSummary :=
      { limits
        cadenceBlockedStrategies := events.countP Event.cadenceWindowBlocked
        weightShiftCappedStrategies := events.countP Event.maxWeightShiftApplied
        capitalShiftCappedStrategies := events.countP Event.maxCapitalShiftApplied } }

end Rebalance
