import CoinRobotu.Numeric.Limits
import CoinRobotu.Numeric.Rounding
import CoinRobotu.Runtime.Text

/-!
# Readings of a venue

What the execution microstructure service reads off the latest snapshot of a venue and off the
snapshots buffered before it: the regime of the market, the stress on its liquidity, and the impact
that an order would have. The square root is a parameter.
-/

namespace Microstructure

open Numeric (roundTo)

/-- The environment of `execution_microstructure_service`. -/
structure Settings where
  staleAfterMs : ℤ
  blockSpreadBps : ℚ
  blockDepthRatio : ℚ
  switchSpreadBps : ℚ
  reduceDepthRatio : ℚ
  depthReduceRatio : ℚ
  symbolCapacityParticipation : ℚ
  strategyCapacityRatio : ℚ
  minSize : ℚ
  symbolDailyBudgetRatio : ℚ
  strategyDailyBudgetRatio : ℚ
  dailyImpactBudgetBps : ℚ
  highLiquidityNotional : ℚ

/-- The values taken where the environment sets none. -/
def defaultSettings : Settings where
  staleAfterMs := 15000
  blockSpreadBps := 25
  blockDepthRatio := 35 / 100
  switchSpreadBps := 12
  reduceDepthRatio := 20 / 100
  depthReduceRatio := 60 / 100
  symbolCapacityParticipation := 20 / 100
  strategyCapacityRatio := 60 / 100
  minSize := 1 / 1000
  symbolDailyBudgetRatio := 35 / 100
  strategyDailyBudgetRatio := 45 / 100
  dailyImpactBudgetBps := 22
  highLiquidityNotional := 150000

/-- A snapshot, with its numbers as `_safe_float` and `_safe_int` read them. -/
structure Snapshot where
  dataState : Option String
  reason : Option String
  midPrice : ℚ
  spreadBps : ℚ
  quoteAgeMs : ℤ
  visibleBidDepthNotional : ℚ
  visibleAskDepthNotional : ℚ
  buyNotional : ℚ
  sellNotional : ℚ
  fastMarket : Bool

def Snapshot.visibleDepth (snapshot : Snapshot) : ℚ :=
  min snapshot.visibleBidDepthNotional snapshot.visibleAskDepthNotional

def Snapshot.flow (snapshot : Snapshot) : ℚ := snapshot.buyNotional + snapshot.sellNotional

def mean (values : List ℚ) : ℚ := values.sum / values.length

inductive Trend where
  | bull
  | bear
  | chop
  deriving DecidableEq

structure Regime where
  trend : Trend
  highLiquidity : Bool
  fast : Bool

section Readings

variable (squareRoot : ℚ → ℚ) (settings : Settings) (snapshot : Snapshot) (buffer : List Snapshot)

/-- `_market_regime`. -/
def marketRegime : Regime :=
  let prices :=
    ((buffer.map Snapshot.midPrice) ++ [snapshot.midPrice]).filter fun price => 0 < price
  let startPrice := prices.headD snapshot.midPrice
  let endPrice := prices.getLastD snapshot.midPrice
  let momentum := if 0 < startPrice then (endPrice - startPrice) / startPrice else 0
  { trend :=
      if 15 / 10000 ≤ momentum then .bull else if momentum ≤ -(15 / 10000) then .bear else .chop
    highLiquidity := settings.highLiquidityNotional ≤ snapshot.visibleDepth
    fast := snapshot.fastMarket }

/-- `_stddev`. -/
def stddev (values : List ℚ) : ℚ :=
  if values.length < 2 then 0
  else squareRoot (mean (values.map fun value => (value - mean values) ^ 2))

/-- The `liquidity_stress_score` of `_venue_health`. -/
def liquidityStress : ℚ :=
  let spreads := (buffer.map Snapshot.spreadBps).filter fun spread => 0 ≤ spread
  let depths := buffer.map Snapshot.visibleDepth
  let spreadPenalty := min (stddev squareRoot spreads * (35 / 10)) 20
  let depthPenalty :=
    min (if depths = [] then 0 else stddev squareRoot depths / max (mean depths) 1 * 40) 20
  roundTo 4 (max 0 (min 100 (snapshot.spreadBps * (15 / 10) + spreadPenalty + depthPenalty +
    if snapshot.fastMarket then 20 else 0)))

/-- The ratio of `_hidden_liquidity_estimate`. -/
def hiddenLiquidityRatio : ℚ :=
  let average := if buffer = [] then snapshot.flow else mean (buffer.map Snapshot.flow)
  roundTo 6 (max (min ((snapshot.flow + average) / max snapshot.visibleDepth 1 - 25 / 100) 1) 0)

/-- The ratio of `_depth_decay_assessment`. -/
def depthDecayRatio : ℚ :=
  let depths := buffer.map Snapshot.visibleDepth ++
    if 0 < snapshot.visibleDepth then [snapshot.visibleDepth] else []
  if depths.length < 2 then 0
  else
    let first := max (depths.headD 0) 1
    let last := max (depths.getLastD 0) 0
    roundTo 6 (max ((first - last) / first) 0)

structure ImpactModel where
  squareRootImpact : ℚ
  impactScore : ℚ
  performanceDegradationPct : ℚ

/-- `estimate_liquidity_impact`, of the tiers `HIGH` and `LOW`. -/
def estimateLiquidityImpact (orderSize marketDepth spreadWidthBps : ℚ) (high : Bool) :
    ImpactModel :=
  let depth := max marketDepth 1
  let size := max orderSize 0
  let spread := max spreadWidthBps 0
  let tierMultiplier := if high then 80 / 100 else 125 / 100
  let impact := squareRoot (max (size / depth) 0) * tierMultiplier
  { squareRootImpact := roundTo 6 impact
    impactScore := roundTo 2 (min 100 (max 0 (impact * 120 + spread * (15 / 100))))
    performanceDegradationPct := roundTo 4 (min 100 (max 0 (impact * 35 + spread * (8 / 100)))) }

/-- `_impact_assessment`. -/
def impactAssessment (requestedNotional : ℚ) : ImpactModel :=
  let hiddenMultiplier := 1 + hiddenLiquidityRatio snapshot buffer * (35 / 100)
  let decayPenalty := 1 + depthDecayRatio snapshot buffer * (75 / 100)
  estimateLiquidityImpact squareRoot requestedNotional
    (max (snapshot.visibleDepth * hiddenMultiplier / decayPenalty) 1) snapshot.spreadBps
    (marketRegime settings snapshot buffer).highLiquidity

end Readings

/-!
## The assessment of an order

The snapshot gives a verdict on an order and a first size for it, the capacity of the account a
second one, and the budget of the day a third one.
-/

open Numeric (wholePart)
open Runtime (upper orElse)

inductive State where
  | allow
  | switchExecutionMode
  | reduceSize
  | block
  deriving DecidableEq

structure Order where
  /-- The upper case symbol. -/
  symbol : String
  side : Option String
  price : ℚ
  size : ℚ
  orderType : Option String
  strategyBinding : Option String

structure Position where
  entryPrice : ℚ
  quantity : ℚ

structure Metric where
  symbol : String
  strategyType : String
  quoteQty : ℚ

/-- What is stored of a user: the risk setting, the open positions and the metrics of the day. -/
structure Account where
  baseCapital : Option ℚ
  allocationPct : Option ℚ
  openPositions : List Position
  todayMetrics : List Metric

section Request

variable (order : Order) (snapshot : Snapshot)

def Order.bound : Bool := order.strategyBinding.getD "" ≠ ""

def requestedPrice : ℚ := max (max order.price snapshot.midPrice) 0

def requestedSize : ℚ := max order.size 0

def requestedNotional : ℚ := requestedPrice order snapshot * requestedSize order

def Order.sideCode : String := upper (orElse order.side "buy")

def visibleDepthNotional : ℚ :=
  if order.sideCode = "BUY" then snapshot.visibleAskDepthNotional
  else snapshot.visibleBidDepthNotional

def depthRatio : ℚ :=
  if 0 < requestedNotional order snapshot then
    requestedNotional order snapshot / max (visibleDepthNotional order snapshot) (1 / 1000000)
  else 0

end Request

section MarketData

variable (settings : Settings) (order : Order) (snapshot : Snapshot)

structure MarketAssessment where
  state : State
  adjustedSize : ℚ
  recommendedOrderType : String
  reasons : List String

/-- What the snapshot alone makes of the order. -/
def marketAssessment : MarketAssessment :=
  let orderType := upper (orElse order.orderType "market")
  let size := requestedSize order
  let ratio := depthRatio order snapshot
  if snapshot.dataState.getD "" ≠ "VALID" then
    ⟨.block, size, orderType, [orElse snapshot.reason "microstructure_invalid"]⟩
  else if max 1000 settings.staleAfterMs < snapshot.quoteAgeMs then
    ⟨.block, size, orderType, ["quote_stale"]⟩
  else if settings.blockSpreadBps ≤ snapshot.spreadBps then
    ⟨.block, size, orderType, ["spread_unsuitable"]⟩
  else if visibleDepthNotional order snapshot ≤ 0 then
    ⟨.block, size, orderType, ["visible_depth_missing"]⟩
  else if settings.blockDepthRatio ≤ ratio then
    ⟨.block, size, orderType, ["visible_depth_too_thin"]⟩
  else if snapshot.fastMarket ∨ settings.switchSpreadBps ≤ snapshot.spreadBps then
    ⟨.switchExecutionMode, size, "LIMIT", ["fast_market_execution_mode_switch"]⟩
  else if settings.reduceDepthRatio ≤ ratio then
    ⟨.reduceSize, roundTo 8 (size * settings.depthReduceRatio), orderType,
      ["visible_depth_requires_reduction"]⟩
  else ⟨.allow, size, orderType, []⟩

end MarketData

section Capacity

variable (settings : Settings) (order : Order) (account : Account) (snapshot : Snapshot)

def Account.capital : ℚ := account.baseCapital.getD 10000

def maxDeployableCapital : ℚ := max (account.capital * (account.allocationPct.getD 20 / 100)) 0

def remainingCapital : ℚ :=
  max (maxDeployableCapital account -
    (account.openPositions.map fun row => |row.entryPrice * row.quantity|).sum) 0

def symbolCapacityNotional : ℚ := snapshot.visibleDepth * settings.symbolCapacityParticipation

def strategyCapacityNotional : ℚ :=
  remainingCapital account * if order.bound then settings.strategyCapacityRatio else 1

def capacityNotional : ℚ :=
  let symbolCapacity := symbolCapacityNotional settings snapshot
  max (min (min (remainingCapital account)
      (if symbolCapacity = 0 then remainingCapital account else symbolCapacity))
    (strategyCapacityNotional settings order account)) 0

structure CapacityAssessment where
  state : State
  requestedNotional : ℚ
  symbolCapacityNotional : ℚ
  strategyCapacityNotional : ℚ
  maxDeployableCapital : ℚ
  remainingCapital : ℚ
  allowedNotional : ℚ
  adjustedSize : ℚ
  reasons : List String

/-- `_capacity_assessment`. -/
def capacityAssessment : CapacityAssessment :=
  let price := requestedPrice order snapshot
  let requested := max price 0 * max (requestedSize order) 0
  let allowed := capacityNotional settings order account snapshot
  let adjustedSize := if 0 < price then allowed / price else 0
  { state :=
      if max allowed 0 < requested then
        if settings.minSize ≤ adjustedSize then .reduceSize else .block
      else .allow
    requestedNotional := roundTo 8 requested
    symbolCapacityNotional := roundTo 8 (symbolCapacityNotional settings snapshot)
    strategyCapacityNotional := roundTo 8 (strategyCapacityNotional settings order account)
    maxDeployableCapital := roundTo 8 (maxDeployableCapital account)
    remainingCapital := roundTo 8 (remainingCapital account)
    allowedNotional := roundTo 8 allowed
    adjustedSize := roundTo 8 (max adjustedSize 0)
    reasons := if max allowed 0 < requested then ["capacity_limit_exceeded"] else [] }

end Capacity

section Budget

variable (settings : Settings) (order : Order) (account : Account)

def symbolBudgetNotional : ℚ := account.capital * settings.symbolDailyBudgetRatio

def strategyBudgetNotional : ℚ := account.capital * settings.strategyDailyBudgetRatio

def symbolBudgetUsed : ℚ :=
  ((account.todayMetrics.filter fun row => upper row.symbol = order.symbol).map Metric.quoteQty).sum

def strategyBudgetUsed : ℚ :=
  ((account.todayMetrics.filter fun row =>
    order.bound ∧ row.strategyType = order.strategyBinding.getD "").map Metric.quoteQty).sum

def remainingSymbolBudget : ℚ :=
  max (symbolBudgetNotional settings account - symbolBudgetUsed order account) 0

def remainingStrategyBudget : ℚ :=
  max (strategyBudgetNotional settings account - strategyBudgetUsed order account) 0

structure BudgetAssessment where
  state : State
  symbolBudgetNotional : ℚ
  strategyBudgetNotional : ℚ
  impactBudgetBps : ℚ
  symbolBudgetUsed : ℚ
  strategyBudgetUsed : ℚ
  allowedNotional : ℚ
  reasons : List String

def executionBudgetAssessment (requested : ℚ) (impact : ImpactModel) : BudgetAssessment :=
  let remainingStrategy :=
    if order.bound then remainingStrategyBudget settings order account else requested
  let remaining := max (min (remainingSymbolBudget settings order account) remainingStrategy) 0
  let outcome : State × ℚ × List String :=
    if settings.dailyImpactBudgetBps < impact.squareRootImpact * 100 then
      (.block, 0, ["impact_budget_exceeded"])
    else if symbolBudgetNotional settings account < symbolBudgetUsed order account + requested ∨
        order.bound ∧ strategyBudgetNotional settings account <
          strategyBudgetUsed order account + requested then
      (if 0 < remaining then .reduceSize else .block, remaining,
        ["daily_execution_budget_exceeded"])
    else (.allow, requested, [])
  { state := outcome.1
    symbolBudgetNotional := roundTo 8 (symbolBudgetNotional settings account)
    strategyBudgetNotional := roundTo 8 (strategyBudgetNotional settings account)
    impactBudgetBps := roundTo 6 settings.dailyImpactBudgetBps
    symbolBudgetUsed := roundTo 8 (symbolBudgetUsed order account)
    strategyBudgetUsed := roundTo 8 (strategyBudgetUsed order account)
    allowedNotional := roundTo 8 outcome.2.1
    reasons := outcome.2.2 }

end Budget

section Slicing

variable (impact : ImpactModel) (regime : Regime) (stress : ℚ)

def sliceCount (state budget : State) : ℕ :=
  let count := 1 +
    (if 8 ≤ impact.performanceDegradationPct ∨ 45 ≤ impact.impactScore then 1 else 0) +
    (if 15 ≤ impact.performanceDegradationPct ∨ regime.fast then 2 else 0) +
    (if state = .reduceSize ∨ budget = .reduceSize then 1 else 0) + (if 55 ≤ stress then 1 else 0)
  max 1 (min count 8)

structure SlicingPlan where
  sliceCount : ℕ
  sliceNotional : ℚ
  intervalMs : ℤ
  preferredOrderType : String
  executionStyle : String
  shouldSlice : Bool

/-- `_adaptive_slicing_plan`. -/
def adaptiveSlicingPlan (state budget : State) (requested adjusted : ℚ) : SlicingPlan :=
  let count := sliceCount impact regime stress state budget
  let working := if 0 < adjusted then adjusted else requested
  let aggressive := regime.trend = .bull ∧ ¬regime.fast ∧ count ≤ 2
  { sliceCount := count
    sliceNotional := roundTo 8 (working / max count 1)
    intervalMs := if count = 1 then 0 else wholePart (500 + stress * 12)
    preferredOrderType := if aggressive ∧ count = 1 then "MARKET" else "LIMIT"
    executionStyle := if aggressive then "aggressive" else "passive"
    shouldSlice := 1 < count }

end Slicing

structure Assessment where
  state : State
  symbol : String
  side : String
  requestedSize : ℚ
  adjustedSize : ℚ
  requestedNotional : ℚ
  adjustedNotional : ℚ
  recommendedOrderType : String
  reasons : List String
  capacity : CapacityAssessment
  executionBudget : BudgetAssessment
  slicingPlan : SlicingPlan

def applyCapacity (market : MarketAssessment) (capacity : CapacityAssessment) : State × ℚ :=
  match capacity.state with
  | .block => (.block, 0)
  | .reduceSize =>
    (if market.state ≠ .block then .reduceSize else market.state,
      min market.adjustedSize capacity.adjustedSize)
  | _ => (market.state, market.adjustedSize)

def applyBudget (price : ℚ) (current : State × ℚ) (budget : BudgetAssessment) : State × ℚ :=
  match budget.state with
  | .block => (.block, 0)
  | .reduceSize =>
    let size := if 0 < price then budget.allowedNotional / price else 0
    (if current.1 ≠ .block then .reduceSize else current.1,
      if 0 < current.2 then min current.2 size else size)
  | _ => current

/-- `build_order_microstructure_assessment`, at the snapshot and the buffer of the venue. -/
def buildOrderMicrostructureAssessment (squareRoot : ℚ → ℚ) (settings : Settings) (order : Order)
    (account : Account) (snapshot : Snapshot) (buffer : List Snapshot) : Assessment :=
  let price := requestedPrice order snapshot
  let requested := requestedNotional order snapshot
  let impact := impactAssessment squareRoot settings snapshot buffer requested
  let market := marketAssessment settings order snapshot
  let capacity := capacityAssessment settings order account snapshot
  let budget := executionBudgetAssessment settings order account requested impact
  let final := applyBudget price (applyCapacity market capacity) budget
  let adjustedSize := roundTo 8 (max final.2 0)
  { state := final.1
    symbol := order.symbol
    side := order.sideCode
    requestedSize := roundTo 8 (requestedSize order)
    adjustedSize := adjustedSize
    requestedNotional := roundTo 8 requested
    adjustedNotional := roundTo 8 (adjustedSize * price)
    recommendedOrderType := market.recommendedOrderType
    reasons := (market.reasons ++ capacity.reasons ++ budget.reasons).dedup.mergeSort
      fun reason other => decide (reason ≤ other)
    capacity := capacity
    executionBudget := budget
    slicingPlan := adaptiveSlicingPlan impact (marketRegime settings snapshot buffer)
      (liquidityStress squareRoot snapshot buffer) final.1 budget.state requested
      (adjustedSize * price) }

end Microstructure
