import CoinRobotu.Numeric.Limits
import CoinRobotu.Preview.Orders
import CoinRobotu.Risk.Portfolio

/-!
# The gates that size an order

Between the normalized order and the stored intent, five gates rewrite the notional
and the size: the allocation of the strategy, the portfolio risk, the risk engine and
the capital rebalance, with a disabled strategy in between. A gate returns an adjusted
notional, and the source continues with `returned or previous`.
-/

namespace Preview

open Numeric hiding orNumber
open Runtime (upper lower strip orElse)
open Risk (orNumber PortfolioStore PortfolioState PortfolioLimits PortfolioRequest PortfolioResult
  RiskSetting RiskCache RiskRequest RiskResult MarketQuality buildCurrentPositions
  evaluatePortfolioRisk evaluateRiskDecision)

/-- The columns of a `strategy_allocations` row that sizing reads. -/
structure StrategyAllocation where
  capitalWeight : Option ℚ
  maxCapital : Option ℚ
  currentCapital : Option ℚ
  state : String
deriving DecidableEq

inductive MetaDecision where
  | allow
  | throttled
  | disabled
deriving DecidableEq, Repr

structure MetaSummary where
  decision : MetaDecision
  adjustedNotional : ℚ
deriving DecidableEq

def StrategyAllocation.remainingCapital (allocation : StrategyAllocation) : ℚ :=
  let weight := max (allocation.capitalWeight.getD (833333 / 10 ^ 7)) (5 / 100)
  max (max (allocation.maxCapital.getD 0) 0 * weight - allocation.currentCapital.getD 0) 0

/-- `run_meta_strategy_engine`, with the allocation after its drift was recalculated. -/
def runMetaStrategyEngine (allocation : StrategyAllocation) (requestedNotional : ℚ) :
    MetaSummary :=
  let requested := max requestedNotional 0
  let remaining := allocation.remainingCapital
  let (decision, adjusted) : MetaDecision × ℚ :=
    if allocation.state = "DISABLED" then (.disabled, 0)
    else if allocation.state = "THROTTLED" then
      (.throttled, min (requested * (7 / 10))
        (if 0 < remaining then remaining else requested * (5 / 10)))
    else if remaining < requested ∧ 0 < remaining then (.throttled, remaining)
    else if remaining ≤ 0 ∧ 0 < requested then (.throttled, 0)
    else (.allow, requested)
  ⟨decision, roundTo 4 (max adjusted 0)⟩

/-- What the calls of a preview read: the tables and what they evaluate to. -/
structure PreviewState where
  tables : PositionTables
  allocation : String → StrategyAllocation
  portfolio : PortfolioStore
  portfolioState : PortfolioState
  limits : PortfolioLimits
  risk : RiskSetting
  cache : RiskCache
  now : ℤ
  spreadBps : String → ℚ
  throttles : String → Bool
  walletFailure : Option String
  venueBlock : Option (List String)
  conflictLost : Bool
  pipelineBlock : Option String

/-- A request that has reached the gates. -/
structure GatedRequest where
  fastMode : Bool
  state : PreviewState
  userId : String
  payload : PreviewPayload
  previewed : PreviewedOrder

/-- What the gates have made of a request. -/
structure Sizing where
  order : NormalizedOrder
  adjusted : ℚ
  valid : Bool
  reasons : List String
deriving DecidableEq

namespace NormalizedOrder

variable (order : NormalizedOrder)

def withNotional (value : ℚ) : NormalizedOrder :=
  if order.positionSizeMode = "fixed_notional" then { order with positionSizeValue := value }
  else order

def scaleSize (ratio : ℚ) : NormalizedOrder :=
  { order with size := order.size.map fun size => roundTo 6 (size * ratio) }

end NormalizedOrder

def sizeRatio (adjusted notional : ℚ) : ℚ := max (min (adjusted / max notional (1 / 10 ^ 6)) 1) 0

/-- `soft_override_codes`. -/
def softOverrideCodes : List String :=
  ["strategy_conflict_loser", "symbol_not_allowed", "assignment_required", "venue_access_blocked"]

namespace Sizing

variable (sizing : Sizing)

def reject (reasons : List String) : Sizing :=
  { sizing with valid := false, reasons := sizing.reasons ++ reasons }

def resize (notional adjusted ratio : ℚ) (value : ℚ) : Sizing :=
  let order := sizing.order.withNotional value
  { sizing with
    adjusted
    order := if 0 < notional then order.scaleSize ratio else order }

/-- What the portfolio risk makes of a request; it does not refuse what reduces risk. -/
def portfolioGate (notional : ℚ) (reducesRisk : Bool) (result : PortfolioResult) : Sizing :=
  match result.decision with
  | .reject =>
      if reducesRisk then sizing
      else sizing.reject (if result.riskFlags = [] then ["portfolio_risk_rejected"]
        else result.riskFlags)
  | .adjustPosition =>
      let adjusted := orNumber (some result.positionAdjustment.adjustedNotional) sizing.adjusted
      sizing.resize notional adjusted (sizeRatio adjusted notional) (roundTo 4 adjusted)
  | .requireApproval => sizing
  | .allow => sizing

/-- What the risk engine makes of a request; it does not refuse what reduces risk. -/
def engineGate (notional : ℚ) (reducesRisk : Bool) (result : RiskResult) : Sizing :=
  match result.riskDecision with
  | .allow => sizing
  | .reduceSize =>
      let adjusted := orNumber (some result.adjustedNotionalUsdt) sizing.adjusted
      sizing.resize notional adjusted (sizeRatio adjusted notional) (roundTo 4 adjusted)
  | .pass | .block =>
      if reducesRisk then sizing
      else sizing.reject (if result.reasonCodes = [] then ["risk_engine_veto"]
        else result.reasonCodes)

end Sizing

namespace GatedRequest

variable (request : GatedRequest)

def notional : ℚ := request.previewed.notional

def intentType : String := request.payload.requestedType

def binding : String := orElse (some request.previewed.order.strategyBinding) "manual_execution"

def reducesRisk : Bool := request.intentType ∈ riskReductionActions

def environment : String := lower (strip (orElse request.payload.environment "live"))

def metaSummary : MetaSummary :=
  if request.fastMode then ⟨.allow, request.notional⟩
  else runMetaStrategyEngine (request.state.allocation request.binding) request.notional

/-- The sizing after the allocation, the wallet and the state of the strategy. -/
def afterAllocation : Sizing :=
  let adjusted := orNumber (some request.metaSummary.adjustedNotional) request.notional
  let allocated : Sizing :=
    { order := request.previewed.order.withNotional (roundTo 4 adjusted)
      adjusted
      valid := request.previewed.reasons = []
      reasons := request.previewed.reasons }
  let funded := match request.state.walletFailure with
    | some reason => allocated.reject [reason]
    | none => allocated
  if request.metaSummary.decision = .disabled ∧ request.reducesRisk = false then
    { funded.reject ["strategy_disabled_by_meta_engine"] with
      adjusted := 0
      order := funded.order.withNotional 0 }
  else funded

def asksRisk : Bool :=
  request.afterAllocation.valid ∧ 0 ≤ request.afterAllocation.adjusted ∧ request.fastMode = false

/-- `portfolio_risk_check`. -/
def portfolioResult : PortfolioResult :=
  evaluatePortfolioRisk
    { symbol := request.previewed.order.symbol
      notional := request.afterAllocation.adjusted
      strategyId := some request.binding
      volatilityPct := request.payload.volatilityPct.getD 0 }
    (buildCurrentPositions request.state.portfolio.bots request.state.portfolio.rows request.userId)
    request.state.portfolioState request.state.limits request.state.portfolio.clusters

def afterPortfolio : Sizing :=
  if request.asksRisk then
    request.afterAllocation.portfolioGate request.notional request.reducesRisk
      request.portfolioResult
  else request.afterAllocation

/-- `int(normalized.get("leverage") or payload.get("leverage") or 1)`. -/
def requestedLeverage : ℤ :=
  Paper.orNonzero request.previewed.order.leverage (Paper.orNonzero request.payload.leverage 1)

def strategyDecision : String :=
  if lower (orElse (some request.previewed.order.side) (orElse request.payload.side "buy")) ∈
    ["sell", "short"] then "SHORT" else "LONG"

/-- What the risk engine is asked. -/
def riskRequest : RiskRequest where
  userId := request.userId
  symbol := request.previewed.order.symbol
  strategyDecision := request.strategyDecision
  marketType := orElse (some request.previewed.order.marketType)
    (orElse request.payload.marketType "spot")
  proposedNotionalUsdt := request.afterPortfolio.adjusted
  strategyCode := some request.binding
  requestedLeverage := request.requestedLeverage

def market : MarketQuality :=
  let context := request.payload.signalBridgeContext
  { snapshotAgeMs := (context.bind BridgeContext.snapshotAgeMs).getD 0
    spreadBps := request.state.spreadBps request.previewed.order.symbol
    executionLatencyMs := (context.bind BridgeContext.executionLatencyMs).getD 0
    slippagePct := (context.bind BridgeContext.slippagePct).getD 0
    orderbookDepthScore := orNumber (context.bind BridgeContext.orderbookDepthScore) 1
    liquidationDistancePct := some (orNumber request.payload.liquidationDistancePct 999) }

/-- `evaluate_risk_decision`. -/
def engineResult : RiskResult :=
  evaluateRiskDecision request.state.risk request.riskRequest request.state.cache request.state.now
    request.market

def afterEngine : Sizing :=
  if request.asksRisk then
    request.afterPortfolio.engineGate request.notional request.reducesRisk request.engineResult
  else request.afterPortfolio

/-- The sizing after the access to the venue and the conflict of strategies; these
concern new positions only. -/
def afterConflict : Sizing :=
  let admitted := match request.state.venueBlock with
    | some reasons =>
        if request.intentType = "OPEN_POSITION" ∧ request.environment = "live" then
          request.afterEngine.reject ("venue_access_blocked" :: reasons)
        else request.afterEngine
    | none => request.afterEngine
  if request.intentType = "OPEN_POSITION" ∧ request.fastMode = false ∧
      request.state.conflictLost then
    admitted.reject ["strategy_conflict_loser"]
  else admitted

def throttled : Bool :=
  request.fastMode = false ∧ request.state.throttles request.binding ∧
    0 < request.afterEngine.adjusted

def afterRebalance : Sizing :=
  let sizing := request.afterConflict
  if request.throttled then
    let adjusted := roundTo 6 (sizing.adjusted * (75 / 100))
    sizing.resize request.notional adjusted (75 / 100) adjusted
  else sizing

/-- The sizing after the override for live signals and the pipeline. -/
def sized : Sizing :=
  let sizing := request.afterRebalance
  let overridden :=
    if request.payload.signalBridgeContext.isSome ∧ request.environment = "live" ∧
        ∀ reason ∈ sizing.reasons, reason ∈ softOverrideCodes then
      { sizing with valid := true, reasons := [] }
    else sizing
  match request.state.pipelineBlock with
  | some reason => overridden.reject [reason]
  | none => overridden

def storedNotional : ℚ := max request.sized.adjusted 0

def storedSize : ℚ := max (request.sized.order.size.getD request.previewed.actionSize) 0

def storedStatus : String := if request.sized.valid then "PREVIEWED" else "REJECTED"

end GatedRequest

/-- `preview_execution_intent` up to the gates. -/
def reachGates (config : PreviewConfig) (fastMode : Bool) (state : PreviewState) (userId : String)
    (payload : PreviewPayload) : Except String GatedRequest := do
  let previewed ← normalizeRequest config state.tables userId payload
  return ⟨fastMode, state, userId, payload, previewed⟩

end Preview
