import CoinRobotu.Spot.Capital

/-!
# The spot risk engine

A signal of a spot strategy is sized by the risk of its stop, by its slot and by what is left of
the capital of its strategy, and it is approved unless one of the limits is reached.
-/

namespace Spot

open Numeric
open Runtime (upper)

def maxStrategyDrawdownPct : ℚ := 5
def maxPositionsPerStrategy : ℕ := 2
def maxOpenRiskPct : ℚ := 3
def maxDailyLossPct : ℚ := 3
def maxPortfolioDrawdownPct : ℚ := 15
def maxSectorExposurePct : ℚ := 30
def maxCorrelatedPositions : ℕ := 2

/-- The strategies that `evaluate_risk` hands to the spot risk engine. -/
def spotStrategies : List String :=
  ["spot_pullback", "spot_pullback_v1", "spot_range_reversion", "spot_range_reversion_v1",
    "spot_volatility_breakout", "spot_volatility_breakout_v1"]

structure SignalDecision where
  signal : String
  symbol : String
  direction : String
  strategyId : String
  proposedEntry : ℚ
  proposedStop : ℚ
  proposedTakeProfit : ℚ
  selectionRank : Option ℤ
  deriving DecidableEq

/-- What the surroundings say at an evaluation: the last price, whether there is a control row and
whether the kill switch is active, the exposure groups, the correlations with the symbol of the
signal, and when the day started. -/
structure Market where
  price : ℚ
  hasControl : Bool
  killSwitchActive : Bool
  groups : List (List String)
  correlation : String → ℚ
  startOfDay : ℤ

section Sizing

variable (store : Store) (signal : SignalDecision) (price : ℚ)

/-- `signal.proposed_entry or market_price`. -/
def entryOf : ℚ := if signal.proposedEntry = 0 then price else signal.proposedEntry

def stopOf : ℚ :=
  if signal.proposedStop = 0 then entryOf signal price * (99 / 100) else signal.proposedStop

def takeProfitOf : ℚ :=
  if signal.proposedTakeProfit = 0 then entryOf signal price * (102 / 100)
  else signal.proposedTakeProfit

def stopDistance : ℚ :=
  max (max |entryOf signal price - stopOf signal price| (entryOf signal price * (1 / 100)))
    (1 / 10000)

def strategyLimitNotional (strategyId : String) : ℚ :=
  store.equity * (resolveCapitalAllocation store strategyId).effectiveAllocation

def remainingStrategyCapacity (strategyId : String) : ℚ :=
  max (strategyLimitNotional store strategyId - openNotional (store.openOf strategyId)) 0

def slotCapacity : ℚ := store.equity * slotWeightForRank signal.selectionRank

def riskAmountUsdt : ℚ := store.equity * (1 / 100)

def capacityOf : ℚ :=
  min (slotCapacity store signal) (remainingStrategyCapacity store signal.strategyId)

def quantityFromRisk : ℚ := max (riskAmountUsdt store / stopDistance signal price) (1 / 10000)

def quantityFromAllocation : ℚ :=
  max (capacityOf store signal / max (entryOf signal price) (1 / 10000)) (1 / 10000)

def quantityOf : ℚ :=
  roundTo 6 (min (quantityFromRisk store signal price) (quantityFromAllocation store signal price))

end Sizing

/-- The limits of a decision, with what a rejection and an approval both report of them. -/
structure CapitalReport where
  allocation : CapitalAllocation
  strategyLimitNotional : ℚ
  strategyOpenNotional : ℚ
  remainingStrategyCapacity : ℚ
  slotWeight : ℚ
  slotCapacity : ℚ
  deriving DecidableEq

structure RiskDecision where
  approved : Bool
  size : ℚ
  leverage : ℤ
  stop : ℚ
  takeProfit : ℚ
  riskTags : List String
  equity : ℚ
  tradeAllocationUsdt : ℚ
  riskAmountUsdt : ℚ
  strategyDrawdownPct : ℚ
  portfolioDrawdownPct : ℚ
  openRiskPct : ℚ
  capitalAllocation : Option CapitalReport
  deriving DecidableEq

section Evaluation

variable (store : Store) (signal : SignalDecision) (market : Market)

/-- The reasons for which the engine rejects a signal. -/
def riskTagsOf : List String :=
  let equity := store.equity
  let openRows := store.openRows
  [("no_signal", decide (signal.signal = "none")),
    ("spot_long_only", decide (signal.direction ≠ "long")),
    ("max_open_positions_reached", decide (3 ≤ openRows.length)),
    ("max_position_per_symbol_reached", openRows.any (·.symbolUpper = upper signal.symbol)),
    ("max_positions_per_strategy_reached",
      decide (maxPositionsPerStrategy ≤ (store.openOf signal.strategyId).length)),
    ("strategy_disabled", decide (signal.strategyId ∈ store.disabled)),
    ("strategy_capital_limit_reached",
      decide (remainingStrategyCapacity store signal.strategyId ≤ 0)),
    ("max_open_risk_exceeded", decide (maxOpenRiskPct < computeOpenRiskPct equity openRows +
      riskAmountUsdt store / max equity (1 / 100) * 100)),
    ("max_daily_loss_exceeded", decide (maxDailyLossPct ≤
      store.dailyLossAmount market.startOfDay / max equity (1 / 100) * 100)),
    ("max_portfolio_drawdown_exceeded",
      decide (maxPortfolioDrawdownPct ≤ portfolioDrawdownPct equity store)),
    ("strategy_drawdown_limit_exceeded",
      decide (maxStrategyDrawdownPct ≤ (store.strategyStats signal.strategyId).drawdownPct)),
    ("max_sector_exposure_exceeded", decide (maxSectorExposurePct ≤
      sectorExposurePct equity openRows market.groups signal.symbol)),
    ("max_correlated_positions_exceeded", decide (maxCorrelatedPositions ≤
      correlatedPositionsCount openRows market.correlation signal.direction)),
    ("kill_switch_active", market.killSwitchActive)].filterMap fun tag =>
      if tag.2 then some tag.1 else none

/-- The store that an evaluation leaves: the setting is there, and a strategy with too deep a
drawdown is disabled. -/
def evaluatedStore : Store :=
  { store with
    setting := some store.riskSetting
    disabled :=
      if maxStrategyDrawdownPct ≤ (store.strategyStats signal.strategyId).drawdownPct then
        store.disabled.insert signal.strategyId
      else store.disabled }

def evaluateSpotStrategyRisk : RiskDecision :=
  let tags := riskTagsOf store signal market
  let quantity := quantityOf store signal market.price
  let equity := store.equity
  { approved := tags = []
    size := if tags = [] then quantity else 0
    leverage := 1
    stop := stopOf signal market.price
    takeProfit := takeProfitOf signal market.price
    riskTags := if tags = [] then ["approved", "spot_strategy_1pct_risk", "position_control_3x1"]
      else tags
    equity
    tradeAllocationUsdt := quantity * entryOf signal market.price
    riskAmountUsdt := riskAmountUsdt store
    strategyDrawdownPct := (store.strategyStats signal.strategyId).drawdownPct
    portfolioDrawdownPct := portfolioDrawdownPct equity store
    openRiskPct := roundTo 4 (computeOpenRiskPct equity store.openRows)
    capitalAllocation := some {
      allocation := resolveCapitalAllocation store signal.strategyId
      strategyLimitNotional := roundTo 4 (strategyLimitNotional store signal.strategyId)
      strategyOpenNotional := roundTo 4 (openNotional (store.openOf signal.strategyId))
      remainingStrategyCapacity := roundTo 4 (remainingStrategyCapacity store signal.strategyId)
      slotWeight := slotWeightForRank signal.selectionRank
      slotCapacity := roundTo 4 (slotCapacity store signal) } }

/-- The decision of `evaluate_risk` without a control row. -/
def missingPolicy : RiskDecision where
  approved := false
  size := 0
  leverage := 1
  stop := signal.proposedStop
  takeProfit := signal.proposedTakeProfit
  riskTags := ["missing_policy"]
  equity := 0
  tradeAllocationUsdt := 0
  riskAmountUsdt := 0
  strategyDrawdownPct := 0
  portfolioDrawdownPct := 0
  openRiskPct := 0
  capitalAllocation := none

/-- `evaluate_risk` of a signal of a spot strategy. -/
def evaluateRisk : RiskDecision :=
  if market.hasControl then evaluateSpotStrategyRisk store signal market else missingPolicy signal

end Evaluation

/-!
## Opening and closing paper positions of the spot pipeline

An approved signal is handed to the paper execution, which walks through the states of an order and
opens a position at the market price unless the order ends without a fill.
-/

open Paper (PaperPosition)

structure ExecutionPolicy where
  style : String
  orderPreference : String
  timeoutSeconds : ℤ
  fallbackBehavior : String
  partialFillTolerancePct : ℚ
  retryLimit : ℕ
  deriving DecidableEq

structure ExecutionContext where
  spreadBps : ℚ
  latencyMs : ℚ
  forcedOutcome : Option String
  deriving DecidableEq

section StatePath

variable (policy : ExecutionPolicy)

/-- `retry_1_submitted` and so on. -/
def retries (count : ℕ) : List String :=
  (List.range count).map fun index => "retry_" ++ toString (index + 1) ++ "_submitted"

def afterTimeout : List String :=
  retries policy.retryLimit ++
    if policy.fallbackBehavior ∈ ["market_fallback", "limit_retry_then_market"] ∧
        0 < policy.retryLimit then ["fallback_submitted", "filled"]
    else ["cancel_requested", "cancelled", "failed"]

/-- The states after the first three in `_build_state_path`. -/
def laterStates (context : ExecutionContext) : List String :=
  let partially := if policy.partialFillTolerancePct < 95 then ["partially_filled"] else []
  if context.forcedOutcome = some "rejected" then ["rejected"]
  else if context.forcedOutcome = some "failed" then ["failed"]
  else if context.forcedOutcome = some "timeout" then "timeout" :: afterTimeout policy
  else if context.forcedOutcome = some "partial" then
    "partially_filled" :: retries (min policy.retryLimit 2) ++ ["fallback_submitted", "filled"]
  else if policy.style = "aggressive" ∧ 70 < context.spreadBps then ["rejected"]
  else if 1200 < context.latencyMs then "timeout" :: afterTimeout policy
  else if policy.orderPreference = "market_first" then ["filled"]
  else if policy.timeoutSeconds ≤ 3 then partially ++ "timeout" :: afterTimeout policy
  else if policy.fallbackBehavior = "cancel_no_fill" then
    partially ++ ["cancel_requested", "cancelled", "failed"]
  else if policy.fallbackBehavior ∈ ["market_fallback", "limit_retry_then_market"] then
    partially ++ retries (min policy.retryLimit 1) ++ ["fallback_submitted", "filled"]
  else partially ++ ["filled"]

/-- The `path` of `_build_state_path`. -/
def buildStatePath (context : ExecutionContext) : List String :=
  ["created", "submitted", "acknowledged"] ++ laterStates policy context

def fills (context : ExecutionContext) : Bool :=
  (buildStatePath policy context).getLast?.all (· ∉ ["cancelled", "failed", "rejected"])

end StatePath

/-- The user, the bot and the identifier of a new position. -/
structure Opening where
  positionId : String
  userId : String
  marketType : String
  policy : ExecutionPolicy
  context : ExecutionContext

/-- The row that `open_paper_position` adds. -/
def openedRow (opening : Opening) (symbol direction : String) (strategyId : String)
    (marketPrice quantity : ℚ) (leverage : ℤ) (stopLoss takeProfit : ℚ) : Row where
  position := {
    id := opening.positionId
    userId := opening.userId
    symbol := symbol
    marketType := opening.marketType
    side := direction
    quantity := quantity
    leverage := leverage
    entryPrice := marketPrice
    stopLoss := stopLoss
    takeProfit := takeProfit
    status := "open"
    unrealizedPnl := 0
    realizedPnl := 0 }
  strategy := some strategyId
  closedAt := none

/-- What an opening was approved with. -/
structure Note where
  strategyId : String
  equity : ℚ
  limit : ℚ
  risk : ℚ
  deriving DecidableEq

/-- The store and the notes of the openings, the last one first. -/
structure Pipeline where
  store : Store
  notes : List Note

/-- One signal through the risk engine and the paper execution. -/
def processSignal (pipeline : Pipeline) (signal : SignalDecision) (market : Market)
    (opening : Opening) : Pipeline :=
  let decision := evaluateRisk pipeline.store signal market
  let store := if market.hasControl then evaluatedStore pipeline.store signal else pipeline.store
  if decision.approved && fills opening.policy opening.context then
    let row := openedRow opening signal.symbol signal.direction signal.strategyId market.price
      decision.size decision.leverage decision.stop decision.takeProfit
    { store := { store with rows := store.rows ++ [row] }
      notes := ⟨signal.strategyId, decision.equity,
        strategyLimitNotional pipeline.store signal.strategyId, row.risk⟩ :: pipeline.notes }
  else { pipeline with store }

/-- A row with another state of its position, which is closed now if it has ended with that. -/
def Row.becomes (row : Row) (position : PaperPosition) (now : ℤ) : Row :=
  { row with
    position
    closedAt := if row.isOpen && position.status ≠ "open" then some now else row.closedAt }

/-- One step of the pipeline. -/
inductive Step where
  | signal (signal : SignalDecision) (isSpot : signal.strategyId ∈ spotStrategies)
      (market : Market) (opening : Opening)
  | refresh (latestPrices : String → Option ℚ) (now : ℤ)
  | manualClose (positionId : String) (now : ℤ)
  | killSwitch (now : ℤ)

def Pipeline.mark (pipeline : Pipeline) (change : PaperPosition → PaperPosition) (now : ℤ) :
    Pipeline :=
  { pipeline with
    store := { pipeline.store with
      rows := pipeline.store.rows.map fun row => row.becomes (change row.position) now } }

def next (pipeline : Pipeline) : Step → Pipeline
  | .signal signal _ market opening => processSignal pipeline signal market opening
  | .refresh latestPrices now => pipeline.mark (Paper.refreshRow latestPrices) now
  | .manualClose positionId now =>
      pipeline.mark (fun position =>
        if position.id = positionId then Paper.liquidateRow position else position) now
  | .killSwitch now => pipeline.mark Paper.liquidateRow now

end Spot
