import CoinRobotu.Risk.Quality
import CoinRobotu.Risk.Cooldowns
import CoinRobotu.Safety.Exposure

/-!
# The risk engine

`evaluate_risk_decision` collects what its checks find, in the order of the source;
the most severe action is its decision. It reads the positions, the intents and the
cooldowns of the user, and writes the trend of the execution quality and new
cooldowns. One evaluation takes place at one time; the records in the cache that no
decision reads, counters and texts among them, are left out.
-/

namespace Risk

open Numeric
open Runtime (upper lower strip)
open Paper (PaperPosition)
open Safety (UserExecutionIntent)

/-- A row of `paper_positions` with the columns that are no part of its fills. -/
structure PositionRow where
  position : PaperPosition
  botProfileId : String
  closedAt : Option ℤ

structure RiskExposureGroup where
  name : Option String
  symbols : List String

/-- The tables that the engine reads. -/
structure RiskTables where
  baseCapital : String → Option ℚ
  referenceEquityUsd : Option ℚ
  positions : List PositionRow
  intents : List UserExecutionIntent
  groups : List RiskExposureGroup

/-- The values of a configuration as they are given. -/
structure RiskSettings where
  maxRiskPerTradePct : ℚ
  maxTotalExposurePct : ℚ
  maxSymbolExposurePct : ℚ
  maxClusterExposurePct : ℚ
  maxLeverage : ℤ
  minLiquidationDistancePct : ℚ
  maxMarginUsagePct : ℚ
  staleDataThresholdMs : ℤ
  spreadThresholdBps : ℚ
  maxSlippagePct : ℚ
  executionQualityThreshold : ℚ
  maxDailyLossPct : ℚ
  maxConsecutiveLosses : ℤ
  symbolCooldownMinutes : ℤ
  strategyCooldownMinutes : ℤ
  globalCooldownMinutes : ℤ
  killSwitchEnabled : Bool
deriving DecidableEq

/-- A configuration within its lower bounds. -/
structure RiskConfig extends RiskSettings where
  risk_ge : 1 / 10 ≤ maxRiskPerTradePct
  total_ge : 1 ≤ maxTotalExposurePct
  symbol_ge : 1 ≤ maxSymbolExposurePct
  cluster_ge : 1 ≤ maxClusterExposurePct
  leverage_ge : 1 ≤ maxLeverage
  liquidation_ge : 1 / 10 ≤ minLiquidationDistancePct
  margin_ge : 1 ≤ maxMarginUsagePct
  stale_ge : 1000 ≤ staleDataThresholdMs
  spread_ge : 1 / 10 ≤ spreadThresholdBps
  slippage_ge : 1 / 100 ≤ maxSlippagePct
  quality_ge : 1 ≤ executionQualityThreshold
  loss_ge : 1 / 10 ≤ maxDailyLossPct
  streak_ge : 1 ≤ maxConsecutiveLosses
  symbolCooldown_ge : 0 ≤ symbolCooldownMinutes
  strategyCooldown_ge : 0 ≤ strategyCooldownMinutes
  globalCooldown_ge : 0 ≤ globalCooldownMinutes

/-- `_normalized_config`. -/
def normalizedConfig (settings : RiskSettings) : RiskConfig where
  maxRiskPerTradePct := max (1 / 10) settings.maxRiskPerTradePct
  maxTotalExposurePct := max 1 settings.maxTotalExposurePct
  maxSymbolExposurePct := max 1 settings.maxSymbolExposurePct
  maxClusterExposurePct := max 1 settings.maxClusterExposurePct
  maxLeverage := max 1 settings.maxLeverage
  minLiquidationDistancePct := max (1 / 10) settings.minLiquidationDistancePct
  maxMarginUsagePct := max 1 settings.maxMarginUsagePct
  staleDataThresholdMs := max 1000 settings.staleDataThresholdMs
  spreadThresholdBps := max (1 / 10) settings.spreadThresholdBps
  maxSlippagePct := max (1 / 100) settings.maxSlippagePct
  executionQualityThreshold := max 1 settings.executionQualityThreshold
  maxDailyLossPct := max (1 / 10) settings.maxDailyLossPct
  maxConsecutiveLosses := max 1 settings.maxConsecutiveLosses
  symbolCooldownMinutes := max 0 settings.symbolCooldownMinutes
  strategyCooldownMinutes := max 0 settings.strategyCooldownMinutes
  globalCooldownMinutes := max 0 settings.globalCooldownMinutes
  killSwitchEnabled := settings.killSwitchEnabled
  risk_ge := le_max_left _ _
  total_ge := le_max_left _ _
  symbol_ge := le_max_left _ _
  cluster_ge := le_max_left _ _
  leverage_ge := le_max_left _ _
  liquidation_ge := le_max_left _ _
  margin_ge := le_max_left _ _
  stale_ge := le_max_left _ _
  spread_ge := le_max_left _ _
  slippage_ge := le_max_left _ _
  quality_ge := le_max_left _ _
  loss_ge := le_max_left _ _
  streak_ge := le_max_left _ _
  symbolCooldown_ge := le_max_left _ _
  strategyCooldown_ge := le_max_left _ _
  globalCooldown_ge := le_max_left _ _

/-- `DEFAULT_RISK_CONFIG`. -/
def defaultRiskConfig : RiskSettings where
  maxRiskPerTradePct := 2
  maxTotalExposurePct := 50
  maxSymbolExposurePct := 25
  maxClusterExposurePct := 35
  maxLeverage := 5
  minLiquidationDistancePct := 6
  maxMarginUsagePct := 70
  staleDataThresholdMs := 120000
  spreadThresholdBps := 30
  maxSlippagePct := 8 / 10
  executionQualityThreshold := 65
  maxDailyLossPct := 4
  maxConsecutiveLosses := 4
  symbolCooldownMinutes := 30
  strategyCooldownMinutes := 30
  globalCooldownMinutes := 60
  killSwitchEnabled := false

/-- `value or default` for a number. -/
def orNumber (value : Option ℚ) (default : ℚ) : ℚ :=
  if value.getD 0 = 0 then default else value.getD 0

/-- `FALLBACK_CLUSTERS`. -/
def fallbackClusters : List (String × List String) :=
  [("majors", ["BTCUSDT", "ETHUSDT", "SOLUSDT"]),
    ("ai", ["FETUSDT", "AGIXUSDT", "RNDRUSDT"]),
    ("meme", ["DOGEUSDT", "SHIBUSDT", "PEPEUSDT"]),
    ("l2", ["OPUSDT", "ARBUSDT", "MATICUSDT"])]

def RiskExposureGroup.clusterId (group : RiskExposureGroup) : String :=
  Runtime.orElse group.name "unclustered"

def RiskExposureGroup.members (group : RiskExposureGroup) : List String :=
  (group.symbols.map fun symbol => strip (upper symbol)).filter (· ≠ "")

/-- `resolve_symbol_cluster`. -/
def resolveSymbolCluster (groups : List RiskExposureGroup) (symbol : String) : String :=
  let normalized := strip (upper symbol)
  if normalized = "" then "unclustered"
  else match groups.find? fun group => normalized ∈ group.members with
    | some group => group.clusterId
    | none => ((fallbackClusters.find? fun cluster => normalized ∈ cluster.2).map Prod.fst).getD
        "unclustered"

/-- `cluster_symbol_map` at a cluster. -/
def clusterSymbols (groups : List RiskExposureGroup) (clusterId : String) : List String :=
  (groups.filter fun group => group.clusterId = clusterId).flatMap RiskExposureGroup.members ++
    (fallbackClusters.filter fun cluster => cluster.1 = clusterId).flatMap Prod.snd

def positionNotional (row : PaperPosition) : ℚ := max (row.entryPrice * row.quantity) 0

def pendingNotional (row : UserExecutionIntent) : ℚ := max row.notional 0

structure ExposureSnapshot where
  walletUsdtBalance : ℚ
  openExposureUsdt : ℚ
  pendingExposureUsdt : ℚ
  symbolExposureUsdt : ℚ
  clusterExposureUsdt : ℚ
  clusterId : String
  proposedNotionalUsdt : ℚ
  projectedTotalExposureUsdt : ℚ
  projectedSymbolExposureUsdt : ℚ
  projectedClusterExposureUsdt : ℚ

/-- `build_exposure_snapshot`. -/
def buildExposureSnapshot (tables : RiskTables) (userId symbol : String)
    (proposedNotionalUsdt : ℚ) : ExposureSnapshot :=
  let wallet := orNumber (tables.baseCapital userId) (orNumber tables.referenceEquityUsd 10000)
  let openPositions := (tables.positions.map PositionRow.position).filter fun row =>
    row.userId = userId ∧ row.status = "open"
  let pendingIntents := tables.intents.filter fun row =>
    row.userId = userId ∧ row.status ∈ ["PREVIEWED", "SUBMITTED", "QUEUED", "APPROVED"]
  let symbolUpper := strip (upper symbol)
  let clusterId := resolveSymbolCluster tables.groups symbolUpper
  let members := clusterSymbols tables.groups clusterId
  let openExposure := (openPositions.map positionNotional).sum
  let pendingExposure := (pendingIntents.map pendingNotional).sum
  let symbolExposure :=
    ((openPositions.filter fun row => upper row.symbol = symbolUpper).map positionNotional).sum +
      ((pendingIntents.filter fun row => upper row.symbol = symbolUpper).map pendingNotional).sum
  let clusterExposure :=
    ((openPositions.filter fun row => upper row.symbol ∈ members).map positionNotional).sum +
      ((pendingIntents.filter fun row => upper row.symbol ∈ members).map pendingNotional).sum
  let proposed := max proposedNotionalUsdt 0
  { walletUsdtBalance := roundTo 6 wallet
    openExposureUsdt := roundTo 6 openExposure
    pendingExposureUsdt := roundTo 6 pendingExposure
    symbolExposureUsdt := roundTo 6 symbolExposure
    clusterExposureUsdt := roundTo 6 clusterExposure
    clusterId
    proposedNotionalUsdt := roundTo 6 proposed
    projectedTotalExposureUsdt := roundTo 6 (openExposure + pendingExposure + proposed)
    projectedSymbolExposureUsdt := roundTo 6 (symbolExposure + proposed)
    projectedClusterExposureUsdt := roundTo 6 (clusterExposure + proposed) }

def day : ℤ := 24 * 60 * minute

def closedRows (tables : RiskTables) (userId : String) : List PositionRow :=
  tables.positions.filter fun row => row.position.userId = userId ∧ row.closedAt.isSome

/-- `daily_loss_pct` of `_daily_loss_stats`. -/
def dailyLossPct (tables : RiskTables) (userId : String) (wallet : ℚ) (now : ℤ) : ℚ :=
  let start := now - now % day
  let losses := ((closedRows tables userId).filter fun row =>
    start ≤ row.closedAt.getD 0 ∧ row.position.realizedPnl < 0).map fun row =>
      row.position.realizedPnl
  roundTo 6 (|losses.sum| / max wallet (1 / 10 ^ 6) * 100)

/-- `_consecutive_losses`: how many of the last closed positions made a loss. -/
def consecutiveLosses (tables : RiskTables) (userId : String) : ℕ :=
  ((((closedRows tables userId).insertionSort fun row other =>
      other.closedAt.getD 0 ≤ row.closedAt.getD 0).take 30).takeWhile fun row =>
        decide (row.position.realizedPnl < 0)).length

structure QualityTrend where
  emaScore : ℚ
  sampleCount : ℤ
  warningCount : ℤ
  partialFillCount : ℤ
  rejectCount : ℤ
  partialFillRate : ℚ
  rejectRate : ℚ
deriving DecidableEq

def QualityTrend.initial : QualityTrend := ⟨100, 0, 0, 0, 0, 0, 0⟩

structure RiskCache where
  cooldowns : Cooldowns
  trend : Option QualityTrend

/-- `_update_execution_quality_trend`. -/
def QualityTrend.update (trend : QualityTrend) (score : ℚ) (recommendation : RiskAction) :
    QualityTrend :=
  let previousEma := if trend.emaScore = 0 then 100 else trend.emaScore
  let sampleCount := trend.sampleCount + 1
  let partialFillCount :=
    trend.partialFillCount + if recommendation = .reduceSize then 1 else 0
  let rejectCount := trend.rejectCount + if recommendation.Vetoes then 1 else 0
  { emaScore := roundTo 4 (score * (2 / 10) + previousEma * (8 / 10))
    sampleCount
    warningCount := trend.warningCount + if recommendation = .allow then 0 else 1
    partialFillCount
    rejectCount
    partialFillRate := roundTo 6 (partialFillCount / max sampleCount 1)
    rejectRate := roundTo 6 (rejectCount / max sampleCount 1) }

/-- What a check finds: the action it asks for, with its reason, or its warning where
the size is only reduced. -/
structure Finding where
  action : RiskAction
  code : String
deriving DecidableEq

def decisionOf (findings : List Finding) : RiskAction :=
  (findings.map Finding.action).foldl RiskAction.merge .allow

def check (condition : Bool) (action : RiskAction) (code : String) : List Finding :=
  if condition then [⟨action, code⟩] else []

/-- What is measured of the market for one evaluation. -/
structure MarketQuality where
  snapshotAgeMs : ℚ
  spreadBps : ℚ
  executionLatencyMs : ℚ
  slippagePct : ℚ
  orderbookDepthScore : ℚ
  liquidationDistancePct : Option ℚ
deriving DecidableEq

/-- The other arguments of an evaluation. -/
structure RiskRequest where
  userId : String
  symbol : String
  strategyDecision : String
  marketType : String
  proposedNotionalUsdt : ℚ
  strategyCode : Option String
  requestedLeverage : ℤ
deriving DecidableEq

namespace RiskRequest

variable (request : RiskRequest)

def symbolUpper : String := strip (upper request.symbol)

def globalKey : CooldownKey := ⟨.global, request.userId, ""⟩

def symbolKey : CooldownKey := ⟨.symbol, request.userId, request.symbolUpper⟩

def strategyKey : CooldownKey :=
  ⟨.strategy, request.userId, Runtime.orElse request.strategyCode "default"⟩

def isFutures : Bool := lower (Runtime.orElse (some request.marketType) "spot") = "futures"

/-- `max(int(requested_leverage or 1), 1)`. -/
def leverage : ℤ := max request.requestedLeverage 1

end RiskRequest

/-- What an evaluation reads besides the cache. -/
structure RiskSetting where
  tables : RiskTables
  config : RiskConfig
  pipelineKillSwitch : Bool

namespace RiskSetting

variable (setting : RiskSetting) (request : RiskRequest)

def exposure : ExposureSnapshot :=
  buildExposureSnapshot setting.tables request.userId request.symbolUpper
    request.proposedNotionalUsdt

def wallet : ℚ := max (setting.exposure request).walletUsdtBalance (1 / 10 ^ 6)

def tradeRiskPct : ℚ := max request.proposedNotionalUsdt 0 / setting.wallet request * 100

def projectedTotalPct : ℚ :=
  (setting.exposure request).projectedTotalExposureUsdt / setting.wallet request * 100

def projectedSymbolPct : ℚ :=
  (setting.exposure request).projectedSymbolExposureUsdt / setting.wallet request * 100

def projectedClusterPct : ℚ :=
  (setting.exposure request).projectedClusterExposureUsdt / setting.wallet request * 100

def tradeTooLarge : Bool :=
  setting.config.maxRiskPerTradePct < setting.tradeRiskPct request ∧
    0 < setting.config.maxRiskPerTradePct

def leverageCapped : Bool :=
  request.isFutures ∧ setting.config.maxLeverage < request.leverage

/-- The checks that come before the market is looked at, but for the cooldowns. -/
def standingFindings : List Finding :=
  check setting.config.killSwitchEnabled .block "risk_kill_switch_enabled" ++
    check setting.pipelineKillSwitch .block "pipeline_kill_switch_active" ++
    check (strip (upper (Runtime.orElse (some request.strategyDecision) "PASS")) ∉
      ["LONG", "SHORT"]) .pass "strategy_pass" ++
    check (setting.config.maxTotalExposurePct < setting.projectedTotalPct request) .block
      "max_total_exposure_pct_exceeded" ++
    check (setting.config.maxSymbolExposurePct < setting.projectedSymbolPct request) .pass
      "max_symbol_exposure_pct_exceeded" ++
    check (setting.config.maxClusterExposurePct < setting.projectedClusterPct request) .pass
      "max_cluster_exposure_pct_exceeded" ++
    check (setting.tradeTooLarge request) .reduceSize
      "trade_size_reduced_by_max_risk_per_trade_pct" ++
    check (setting.leverageCapped request) .reduceSize "leverage_capped" ++
    check (request.isFutures ∧
      setting.config.maxMarginUsagePct < setting.projectedTotalPct request) .pass
      "max_margin_usage_pct_exceeded"

def thresholds : QualityThresholds where
  staleThresholdMs := setting.config.staleDataThresholdMs
  spreadThresholdBps := setting.config.spreadThresholdBps
  maxSlippagePct := setting.config.maxSlippagePct
  executionQualityThreshold := setting.config.executionQualityThreshold

def qualityInputs (trend : QualityTrend) (market : MarketQuality) : QualityInputs where
  snapshotAgeMs := market.snapshotAgeMs
  spreadBps := market.spreadBps
  slippagePct := market.slippagePct
  executionLatencyMs := market.executionLatencyMs
  orderbookDepthScore := market.orderbookDepthScore
  partialFillRate := trend.partialFillRate
  rejectRate := trend.rejectRate

def qualityAction (trend : QualityTrend) (market : MarketQuality) : RiskAction :=
  evaluateExecutionQuality setting.thresholds (qualityInputs trend market)

def qualityFindings (action : RiskAction) : List Finding :=
  match action with
  | .allow => []
  | .reduceSize => [⟨.reduceSize, "execution_quality_mild_warning"⟩]
  | .pass => [⟨.pass, "execution_quality_medium_veto"⟩]
  | .block => [⟨.block, "execution_quality_severe_veto"⟩]

def thresholdFindings (measure threshold : ℚ) (block pass : String) : List Finding :=
  if threshold * 2 < measure then [⟨.block, block⟩]
  else if threshold < measure then [⟨.pass, pass⟩]
  else []

def marketFindings (trend : QualityTrend) (market : MarketQuality) : List Finding :=
  check (request.isFutures ∧ ∃ distance ∈ market.liquidationDistancePct,
      distance < setting.config.minLiquidationDistancePct) .block "liquidation_distance_too_low" ++
    qualityFindings (setting.qualityAction trend market) ++
    thresholdFindings market.snapshotAgeMs setting.config.staleDataThresholdMs
      "stale_data_block" "stale_data_pass" ++
    thresholdFindings market.spreadBps setting.config.spreadThresholdBps
      "spread_block" "spread_pass"

def dailyLossReached (now : ℤ) : Bool :=
  setting.config.maxDailyLossPct ≤
    dailyLossPct setting.tables request.userId (setting.wallet request) now

def lossStreakReached : Bool :=
  setting.config.maxConsecutiveLosses ≤ consecutiveLosses setting.tables request.userId

def lossFindings (now : ℤ) : List Finding :=
  check (setting.dailyLossReached request now) .block "max_daily_loss_pct_exceeded" ++
    check (setting.lossStreakReached request) .pass "max_consecutive_losses_exceeded"

def cooldownFindings (cooldowns : Cooldowns) (now : ℤ) : List Finding :=
  check (cooldowns.activeAt request.globalKey now) .block "global_cooldown_active" ++
    check (cooldowns.activeAt request.symbolKey now) .pass "symbol_cooldown_active" ++
    check (cooldowns.activeAt request.strategyKey now) .pass "strategy_cooldown_active"

def findings (cache : RiskCache) (now : ℤ) (market : MarketQuality) : List Finding :=
  cooldownFindings request cache.cooldowns now ++ setting.standingFindings request ++
    setting.marketFindings request (cache.trend.getD .initial) market ++
    setting.lossFindings request now

/-- `size_multiplier` after the checks. -/
def sizeMultiplier (quality : RiskAction) : ℚ :=
  let trade := if setting.tradeTooLarge request then
      min 1 (max (5 / 100) (min 1 (setting.config.maxRiskPerTradePct /
        max (setting.tradeRiskPct request) (1 / 10 ^ 6))))
    else 1
  let leverage := if setting.leverageCapped request then
      min trade (setting.config.maxLeverage / request.leverage)
    else trade
  if quality = .reduceSize then min leverage (75 / 100) else leverage

end RiskSetting

/-- What an evaluation returns, but for the echo of its measures. -/
structure RiskResult where
  riskDecision : RiskAction
  sizeMultiplier : ℚ
  adjustedNotionalUsdt : ℚ
  adjustedLeverage : ℤ
  reasonCodes : List String
  warnings : List String
deriving DecidableEq

/-- `sorted(set(codes))`. -/
def sortedCodes (codes : List String) : List String :=
  codes.dedup.insertionSort (· ≤ ·)

section Evaluation

variable (setting : RiskSetting) (request : RiskRequest)

def adjustedNotional (decision : RiskAction) (multiplier proposed : ℚ) : ℚ :=
  if decision.Vetoes then 0
  else if decision = .reduceSize then roundTo 6 (max proposed 0 * max 0 (min 1 multiplier))
  else max proposed 0

/-- The result of `evaluate_risk_decision`. -/
def evaluateRiskDecision (cache : RiskCache) (now : ℤ) (market : MarketQuality) : RiskResult :=
  let found := setting.findings request cache now market
  let decision := decisionOf found
  let multiplier := setting.sizeMultiplier request
    (setting.qualityAction (cache.trend.getD .initial) market)
  { riskDecision := decision
    sizeMultiplier := roundTo 6 (if decision = .reduceSize then max 0 (min 1 multiplier) else 1)
    adjustedNotionalUsdt :=
      roundTo 6 (adjustedNotional decision multiplier request.proposedNotionalUsdt)
    adjustedLeverage :=
      if setting.leverageCapped request then setting.config.maxLeverage else request.leverage
    reasonCodes := sortedCodes
      ((found.filter fun finding => finding.action.Vetoes).map Finding.code)
    warnings := sortedCodes
      ((found.filter fun finding => finding.action = .reduceSize).map Finding.code) }

def Cooldowns.settleAll (cooldowns : Cooldowns) (request : RiskRequest) (now : ℤ) : Cooldowns :=
  ((cooldowns.settle request.globalKey now).settle request.symbolKey now).settle
    request.strategyKey now

/-- The cache after `evaluate_risk_decision`. -/
def cacheAfter (cache : RiskCache) (now : ℤ) (market : MarketQuality) : RiskCache :=
  let trend := cache.trend.getD .initial
  let read := cache.cooldowns.settleAll request now
  let afterLoss := if setting.dailyLossReached request now then
      read.activate request.globalKey setting.config.globalCooldownMinutes now
    else read
  let afterStreak := if setting.lossStreakReached request then
      afterLoss.activate request.strategyKey setting.config.strategyCooldownMinutes now
    else afterLoss
  let afterVeto := if (decisionOf (setting.findings request cache now market)).Vetoes ∧
      0 < setting.config.symbolCooldownMinutes then
      afterStreak.activate request.symbolKey setting.config.symbolCooldownMinutes now
    else afterStreak
  { cooldowns := afterVeto.settleAll request now
    trend := some (trend.update
      (qualityScore setting.thresholds (RiskSetting.qualityInputs trend market))
      (setting.qualityAction trend market)) }

end Evaluation

end Risk
