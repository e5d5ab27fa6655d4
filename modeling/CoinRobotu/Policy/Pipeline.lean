import CoinRobotu.Policy.Isolation
import CoinRobotu.Policy.SafeMode

/-!
# The execution pipeline

The policy engine collects findings: of safe mode, of the strategy's governance, of the fail-safe
checks, of the exposure limits and of the safety layer. A finding recommends to block. A fail-safe
finding is enforced as it is; the others are enforced as far as the rollout of the engine goes. The
pipeline evaluates the policy first, and runs the execution stage and the stage after the trade
unless the policy blocks.
-/

namespace Policy

open Numeric
open Runtime (upper lower strip orElse)

/-- `_reject_contract`. -/
structure Reject where
  reasonCode : String
  reasonMessage : String
  policyId : Option String
  ruleId : String
  stage : String
  severity : String
  actionTaken : String
deriving DecidableEq

/-- `FAILSAFE_REASON_CODES`. -/
def failsafeReasonCodes : List String :=
  ["FAILSAFE_POLICY_LOAD_ERROR", "FAILSAFE_RISK_COMPUTE_ERROR", "FAILSAFE_MARKET_DATA_MISSING",
    "FAILSAFE_DEPENDENCY_TIMEOUT", "FAILSAFE_ENGINE_UNAVAILABLE"]

def isFailsafeReasonCode (reasonCode : String) : Bool :=
  upper (strip reasonCode) ∈ failsafeReasonCodes

/-- `_is_live_environment`. -/
def isLiveEnvironment (environment : String) : Bool :=
  lower (strip environment) ∈ ["live", "prod", "production"]

inductive RolloutMode where
  | shadow
  | soft
  | partLive
  | full
deriving DecidableEq

/-- The mode of the engine's configuration; an unknown one is `shadow`. -/
def rolloutModeOf (configured : Option String) : RolloutMode :=
  let mode := lower (strip (orElse configured "shadow"))
  if mode = "soft" then .soft else if mode = "partial" then .partLive
  else if mode = "full" then .full else .shadow

inductive PolicyAction where
  | allow
  | block
deriving DecidableEq

/-- `_resolve_rollout_action`. -/
def resolveRolloutAction (mode : RolloutMode) (recommended : PolicyAction) (environment : String)
    (softNonLive : Bool) : PolicyAction × String :=
  if recommended ≠ .block then (.allow, "ALLOW")
  else if softNonLive ∧ ¬isLiveEnvironment environment then (.allow, "SOFT_ALLOW_NON_LIVE")
  else match mode with
    | .shadow => (.allow, "SHADOW_ALLOW")
    | .soft => (.allow, "SOFT_ALLOW")
    | .partLive =>
      if isLiveEnvironment environment then (.block, "PARTIAL_BLOCK_LIVE")
      else (.allow, "PARTIAL_SOFT_NON_LIVE")
    | .full => (.block, "FULL_BLOCK")

/-- What the venue has reported. -/
structure ExecutionResult where
  executedPrice : Option ℚ
  price : Option ℚ
  executedQty : Option ℚ
  filledQty : Option ℚ
  status : Option String
  latencyMs : Option ℚ
  liquidationDistancePct : Option ℚ

structure PipelineContext extends Context where
  environment : String
  intentType : Option String
  reduceOnly : Bool
  marketDataAvailable : Bool
  dependencyTimeout : Bool
  enforceDependencyTimeout : Bool
  portfolioDrawdownPct : Option ℚ
  requestedPrice : Option ℚ
  requestedQty : Option ℚ
  executionResult : Option ExecutionResult
  exposureAfterTrade : Option ℚ
  leverageAfterTrade : Option ℚ
  portfolioEquity : Option ℚ
  liquidationDistanceAfterTrade : Option ℚ

structure SafetyRules where
  environmentKillSwitches : List String
  strategyKillSwitches : List String
  symbolKillSwitches : List String
  maxLossUsdt : Option ℚ
  maxDrawdownPct : Option ℚ
  circuitBreakerWindowMinutes : Option ℚ
  circuitBreakerViolationThreshold : Option ℚ

structure PolicyRules extends EffectiveRules where
  execution : Numbers
  requireMarketData : Option Bool
  dependencyTimeoutMs : Option ℚ
  safety : SafetyRules

structure ExecutionPolicy where
  id : String
  policyScope : Option String
  scopeKey : Option String
  strategyType : String

structure LiveActivationConfig where
  killSwitchEnabled : Bool
  tradingEnabled : Bool

/-- What the engine reads besides the tables of the exposure check. -/
structure EngineTables where
  rolloutMode : Option String
  /-- `_resolve_effective_rules`: the policies in scope with their merged rules, or an error. -/
  effectiveRules : Except String (List ExecutionPolicy × PolicyRules)
  strategyViolations : List Finding
  /-- The rules after the limits of the strategy and the overrides of the environment. -/
  overrideRules : PolicyRules → PolicyRules
  activeStates : List ExecutionSafeModeState
  liveActivation : Option LiveActivationConfig
  unrealizedPnl : List ℚ
  /-- The violations logged for the user in the last minutes. -/
  violationsSince : ℤ → ℕ
  elapsedMs : ℤ
  /-- `classify_violation_severity`. -/
  classify : Reject → String

section SafetyLayer

variable (tables : EngineTables) (context : PipelineContext) (rules : SafetyRules)

def breachIf (condition : Prop) [Decidable condition] (reasonCode reasonMessage ruleId : String) :
    List Finding :=
  if condition then [⟨reasonCode, reasonMessage, "CRITICAL", ruleId⟩] else []

/-- The breaches of `_compute_safety_layer`. -/
def computeSafetyLayer : List Finding :=
  let environment := lower context.environment
  let live := isLiveEnvironment environment
  let symbol := upper context.symbol
  let currentPnl := tables.unrealizedPnl.sum
  let maxLoss := |rules.maxLossUsdt.getD 0|
  let drawdownLimit := rules.maxDrawdownPct.getD 0
  let drawdownPct := context.portfolioDrawdownPct.getD
    (|currentPnl| / max context.proposedNotional 1 * 100)
  let window := wholePart (rules.circuitBreakerWindowMinutes.getD 0)
  let threshold := wholePart (rules.circuitBreakerViolationThreshold.getD 0)
  breachIf (live ∧ ∃ config ∈ tables.liveActivation, config.killSwitchEnabled)
    "SAFETY_GLOBAL_KILL_SWITCH" "Global kill switch is active" "safety.global_kill_switch" ++
  breachIf (live ∧ ∃ config ∈ tables.liveActivation, ¬config.tradingEnabled)
    "SAFETY_TRADING_DISABLED" "Trading disabled by safety layer" "safety.trading_enabled" ++
  breachIf (environment ≠ "" ∧ environment ∈ rules.environmentKillSwitches.map lower)
    "SAFETY_ENVIRONMENT_KILL_SWITCH" ("Environment kill switch active for " ++ environment)
    "safety.environment_kill_switches" ++
  breachIf (context.strategyBinding ≠ "" ∧ context.strategyBinding ∈ rules.strategyKillSwitches)
    "SAFETY_STRATEGY_KILL_SWITCH" "Strategy kill switch is active"
    "safety.strategy_kill_switches" ++
  breachIf (symbol ≠ "" ∧ symbol ∈ rules.symbolKillSwitches.map upper)
    "SAFETY_SYMBOL_KILL_SWITCH" "Symbol kill switch is active" "safety.symbol_kill_switches" ++
  breachIf (0 < maxLoss ∧ currentPnl ≤ -maxLoss)
    "SAFETY_MAX_LOSS_BREACH" "Max loss guard breached" "safety.max_loss_usdt" ++
  breachIf (0 < drawdownLimit ∧ drawdownLimit ≤ drawdownPct)
    "SAFETY_DRAWDOWN_STOP" "Drawdown stop triggered" "safety.max_drawdown_pct" ++
  breachIf (0 < window ∧ 0 < threshold ∧ threshold ≤ tables.violationsSince window)
    "SAFETY_CIRCUIT_BREAKER_TRIGGERED" "Circuit breaker threshold exceeded"
    "safety.circuit_breaker"

end SafetyLayer

section Engine

variable (tables : EngineTables) (context : PipelineContext) (stage : String)

def Finding.reject (finding : Finding) (stage actionTaken : String) (policyId : Option String) :
    Reject :=
  ⟨finding.reasonCode, finding.reasonMessage, policyId, finding.ruleId, stage, finding.severity,
    actionTaken⟩

def rejectIf (condition : Prop) [Decidable condition] (reject : Reject) : List Reject :=
  if condition then [reject] else []

def ExecutionPolicy.ofStrategy (binding : String) (row : ExecutionPolicy) : Bool :=
  lower (strip (orElse row.policyScope "strategy")) = "strategy" ∧
    lower (strip (orElse row.scopeKey row.strategyType)) = lower (strip binding)

def strategyPolicyMissing (matched : List ExecutionPolicy) : Prop :=
  strip context.strategyBinding = "" ∨
    ¬matched.any (ExecutionPolicy.ofStrategy (strip context.strategyBinding))

instance (matched : List ExecutionPolicy) : Decidable (strategyPolicyMissing context matched) := by
  unfold strategyPolicyMissing
  infer_instance

/-- `soft_non_live`. -/
def softNonLive (matched : List ExecutionPolicy) : Bool :=
  ¬isLiveEnvironment context.environment ∧
    (strategyPolicyMissing context matched ∨ tables.strategyViolations ≠ [])

/-- The dependencies did not answer in time. -/
def timedOut (rules : PolicyRules) : Prop :=
  let limit := wholePart (rules.dependencyTimeoutMs.getD 5000)
  context.dependencyTimeout ∨
    (context.enforceDependencyTimeout ∧ 0 < limit ∧ limit < tables.elapsedMs)

instance (rules : PolicyRules) : Decidable (timedOut tables context rules) := by
  unfold timedOut
  infer_instance

def safeModeResult (rules : PolicyRules) : SafeModeResult :=
  applySafeModeOverrides tables.activeStates (tables.overrideRules rules).toEffectiveRules
    context.intentType context.reduceOnly

def rulesInForce (rules : PolicyRules) : PolicyRules :=
  { tables.overrideRules rules with
    toEffectiveRules := (safeModeResult tables context rules).rules }

/-- The findings of `evaluate_execution_policy_engine`, before they are classified. -/
def collectFindings (matched : List ExecutionPolicy) (rules : PolicyRules)
    (risk : Except String (List Breach)) : List Reject :=
  let policyId := matched.getLast?.map ExecutionPolicy.id
  let inForce := rulesInForce tables context rules
  let live := isLiveEnvironment context.environment
  let softAction := if live then "BLOCK" else "SOFT_ALLOW_NON_LIVE"
  let breaches := risk.toOption.getD []
  (safeModeResult tables context rules).findings.map (·.reject stage "HARD_BLOCK" policyId) ++
  tables.strategyViolations.map (·.reject stage softAction policyId) ++
  rejectIf (strategyPolicyMissing context matched)
    ⟨"STRATEGY_POLICY_MISSING", "Strategy policy binding required", none,
      "strategy_binding.required", stage, "HIGH", softAction⟩ ++
  rejectIf (inForce.requireMarketData.getD true ∧ ¬context.marketDataAvailable)
    ⟨"FAILSAFE_MARKET_DATA_MISSING", "Market data snapshot unavailable", policyId,
      "runtime.require_market_data", stage, "CRITICAL", "FAILSAFE_BLOCK"⟩ ++
  rejectIf (timedOut tables context inForce)
    ⟨"FAILSAFE_DEPENDENCY_TIMEOUT", "Policy evaluation timeout", policyId,
      "runtime.dependency_timeout_ms", stage, "CRITICAL", "FAILSAFE_BLOCK"⟩ ++
  (match risk with
    | .error message =>
      [⟨"FAILSAFE_RISK_COMPUTE_ERROR", "Risk compute failed: " ++ message, policyId,
        "failsafe.risk_compute", stage, "CRITICAL", "FAILSAFE_BLOCK"⟩]
    | .ok _ => []) ++
  breaches.map (fun breach =>
    ⟨breach.reasonCode, breach.reasonMessage, policyId, breach.ruleId, stage, "HIGH", "BLOCK"⟩) ++
  (computeSafetyLayer tables context inForce.safety).map (·.reject stage "BLOCK" policyId)

structure PolicyDecision where
  recommendedAction : PolicyAction
  enforcedAction : PolicyAction
  rolloutMode : RolloutMode
  standardizedReject : Option Reject
  actionTaken : String
  allFindings : List Reject
  effectiveRules : Option PolicyRules
  risk : Option MultiLayerRisk
  matchedPolicies : List ExecutionPolicy

def hardened (finding : Reject) : Reject :=
  if isFailsafeReasonCode finding.reasonCode
  then { finding with severity := "CRITICAL", actionTaken := "HARD_BLOCK" } else finding

/-- The decision on the findings. -/
def decideFindings (findings : List Reject) (mode : RolloutMode) (soft : Bool) :
    PolicyAction × String × List Reject × Option Reject :=
  let findings := findings.map fun finding => { finding with severity := tables.classify finding }
  let recommended := if findings = [] then PolicyAction.allow else .block
  let hardFailsafe := findings.any fun finding => isFailsafeReasonCode finding.reasonCode
  let findings := if hardFailsafe then findings.map hardened else findings
  let (enforced, actionTaken) :=
    if hardFailsafe then (.block, "HARD_BLOCK")
    else resolveRolloutAction mode recommended context.environment soft
  let primary := findings.head?.map fun finding =>
    if hardFailsafe ∧ isFailsafeReasonCode finding.reasonCode
    then hardened finding else { finding with actionTaken := actionTaken }
  (enforced, actionTaken, findings, primary)

/-- `evaluate_execution_policy_engine`, with the tables of the exposure check after it. -/
def evaluateExecutionPolicyEngine (store : Store) : PolicyDecision × Store :=
  let mode := rolloutModeOf tables.rolloutMode
  let userId := strip context.userId
  let store :=
    if userId = "" then store
    else ((ensureUserDefaultPortfolio store userId
      (some (orElse context.portfolioId (defaultPortfolioId userId)))).toOption.map Prod.snd).getD
        store
  match tables.effectiveRules with
  | .error message =>
    let reject : Reject :=
      ⟨"FAILSAFE_POLICY_LOAD_ERROR", "Policy loading failed: " ++ message, none,
        "failsafe.policy_load", stage, "CRITICAL", "HARD_BLOCK"⟩
    (⟨.block, .block, mode, some reject, "HARD_BLOCK", [], none, none, []⟩, store)
  | .ok (matched, rules) =>
    let inForce := rulesInForce tables context rules
    let checked := computeMultiLayerRisk store context.toContext inForce.risk
    let findings := collectFindings tables context stage matched rules
      (checked.map fun result => result.1.breaches)
    let (enforced, actionTaken, decided, primary) :=
      decideFindings tables context findings mode (softNonLive tables context matched)
    (⟨if findings = [] then .allow else .block, enforced, mode, primary, actionTaken, decided,
        some inForce, checked.toOption.map Prod.fst, matched⟩,
      (checked.toOption.map Prod.snd).getD store)

end Engine

section Stages

variable (context : PipelineContext)

/-- `first or second` for numbers. -/
def firstNumber (first second : Option ℚ) : Option ℚ :=
  if first.getD 0 = 0 then second else first

structure StageOutcome where
  recommendedAction : PolicyAction
  enforcedAction : PolicyAction
  standardizedReject : Option Reject
  actionTaken : String
  metricsSnapshot : Numbers

def violationIf (condition : Prop) [Decidable condition]
    (reasonCode reasonMessage severity ruleId : String) : List Finding :=
  if condition then [⟨reasonCode, reasonMessage, severity, ruleId⟩] else []

def severityOf (violations : List Finding) : String :=
  if violations.any fun violation => upper violation.severity = "CRITICAL" then "CRITICAL"
  else "HIGH"

def evaluateExecutionStageEnforcement (executionRules : Numbers) : StageOutcome :=
  let requestedPrice := context.requestedPrice.getD 0
  let requestedQty := context.requestedQty.getD 0
  match context.executionResult.filter fun _ => 0 < requestedPrice ∧ 0 < requestedQty with
  | none =>
    ⟨.block, .block,
      some ⟨"FAILSAFE_ENGINE_UNAVAILABLE", "Execution stage required inputs are missing", none,
        "execution.required_inputs", "EXECUTION", "CRITICAL", "HARD_BLOCK"⟩, "HARD_BLOCK", []⟩
  | some result =>
    let executedPrice := (firstNumber result.executedPrice result.price).getD requestedPrice
    let executedQty := (firstNumber result.executedQty result.filledQty).getD requestedQty
    let status := lower (result.status.getD "")
    let latencyMs := result.latencyMs.getD (-1)
    let deviationBps := |executedPrice - requestedPrice| / max requestedPrice (1 / 10 ^ 9) * 10000
    let fillRatio := executedQty / max requestedQty (1 / 10 ^ 9)
    let violations :=
      violationIf (safeFloat (executionRules.lookup "max_price_deviation_bps") 50 < deviationBps)
        "EXECUTION_PRICE_DEVIATION" "Execution price deviation exceeded threshold" "HIGH"
        "execution.max_price_deviation_bps" ++
      violationIf (fillRatio < safeFloat (executionRules.lookup "min_fill_ratio") (7 / 10))
        "EXECUTION_PARTIAL_FILL_LOW_RATIO" "Execution fill ratio below threshold" "HIGH"
        "execution.min_fill_ratio" ++
      violationIf (latencyMs < 0 ∨
          safeFloat (executionRules.lookup "max_fill_latency_ms") 5000 < latencyMs)
        "EXECUTION_TIMEOUT" "Execution latency threshold breached" "CRITICAL"
        "execution.max_fill_latency_ms" ++
      violationIf (status ∉ ["filled", "partial_fill", "accepted"])
        "EXECUTION_STATUS_INVALID" "Execution status is invalid for enforcement" "CRITICAL"
        "execution.status"
    let metrics : Numbers :=
      [("requested_price", some (roundTo 8 requestedPrice)),
        ("requested_qty", some (roundTo 8 requestedQty)),
        ("executed_price", some (roundTo 8 executedPrice)),
        ("executed_qty", some (roundTo 8 executedQty)),
        ("deviation_bps", some (roundTo 6 deviationBps)),
        ("fill_ratio", some (roundTo 6 fillRatio)), ("latency_ms", some (roundTo 6 latencyMs))]
    match violations with
    | [] => ⟨.allow, .allow, none, "ACCEPT", metrics⟩
    | first :: _ =>
      let critical := severityOf violations = "CRITICAL"
      let actionTaken := if critical then "HARD_BLOCK" else "THROTTLE_FUTURE"
      let action := if critical then PolicyAction.block else .allow
      ⟨action, action,
        some ⟨first.reasonCode, first.reasonMessage, none, first.ruleId, "EXECUTION",
          severityOf violations, actionTaken⟩, actionTaken, metrics⟩

def evaluatePostTradeEnforcement (postRules : Numbers) (risk : Option MultiLayerRisk) :
    StageOutcome :=
  let result := context.executionResult.getD ⟨none, none, none, none, none, none, none⟩
  let requestedPrice := context.requestedPrice.getD 0
  let executedPrice := (firstNumber result.executedPrice result.price).getD 0
  let executedQty := (firstNumber result.executedQty result.filledQty).getD 0
  let slippageBps := |executedPrice - requestedPrice| / max requestedPrice (1 / 10 ^ 9) * 10000
  let projected := risk.map fun check => check.projected .portfolio
  let exposureAfterTrade := context.exposureAfterTrade.getD (projected.getD 0)
  let leverageAfterTrade :=
    context.leverageAfterTrade.getD (exposureAfterTrade / max (context.portfolioEquity.getD 1) 1)
  let liquidationDistance :=
    (firstNumber context.liquidationDistanceAfterTrade result.liquidationDistancePct).getD (-1)
  let violations :=
    violationIf (safeFloat (postRules.lookup "max_slippage_bps") 80 < slippageBps)
      "POST_TRADE_SLIPPAGE_BREACH" "Post-trade slippage limit exceeded" "HIGH"
      "post_trade.max_slippage_bps" ++
    violationIf (safeFloat (postRules.lookup "max_exposure_after_trade") (projected.getD 300000) <
        exposureAfterTrade)
      "POST_TRADE_EXPOSURE_BREACH" "Post-trade portfolio exposure limit exceeded" "CRITICAL"
      "post_trade.max_exposure_after_trade" ++
    violationIf (maxLeverageAfter [] postRules < leverageAfterTrade)
      "POST_TRADE_LEVERAGE_BREACH" "Post-trade leverage limit exceeded" "CRITICAL"
      "post_trade.max_leverage_after_trade" ++
    violationIf (liquidationDistance <
        safeFloat (postRules.lookup "min_liquidation_distance_pct") 3)
      "POST_TRADE_LIQUIDATION_RISK_BREACH" "Liquidation distance below safety threshold" "CRITICAL"
      "post_trade.min_liquidation_distance_pct"
  let metrics : Numbers :=
    [("requested_price", some (roundTo 8 requestedPrice)),
      ("executed_price", some (roundTo 8 executedPrice)),
      ("executed_qty", some (roundTo 8 executedQty)),
      ("actual_slippage_bps", some (roundTo 6 slippageBps)),
      ("exposure_after_trade", some (roundTo 6 exposureAfterTrade)),
      ("leverage_after_trade", some (roundTo 6 leverageAfterTrade)),
      ("liquidation_distance_after_trade", some (roundTo 6 liquidationDistance))]
  match violations with
  | [] => ⟨.allow, .allow, none, "WARN", metrics⟩
  | first :: _ =>
    let critical := severityOf violations = "CRITICAL"
    let actionTaken := if critical then "BLOCK_FUTURE" else "THROTTLE_FUTURE"
    ⟨if critical then .block else .allow, .allow,
      some ⟨first.reasonCode, first.reasonMessage, none, first.ruleId, "POST_TRADE",
        severityOf violations, actionTaken⟩, actionTaken, metrics⟩

end Stages

section Orchestrator

variable (tables : EngineTables) (context : PipelineContext)

structure StageResult where
  stage : String
  decision : PolicyAction
  standardizedReject : Option Reject
deriving DecidableEq

/-- A row that `append_execution_policy_decision_log` writes. -/
structure DecisionLog where
  stage : String
  actionTaken : String
  isViolation : Bool
deriving DecidableEq

/-- What a run of the pipeline returns and writes. -/
structure PipelineRun where
  recommendedAction : PolicyAction
  enforcedAction : PolicyAction
  standardizedReject : Option Reject
  policyDecision : PolicyDecision
  stages : List StageResult
  logs : List DecisionLog
  store : Store

def violationStage (decision : PolicyAction) (reject : Option Reject) (actionTaken : String) :
    StageResult × DecisionLog :=
  (⟨"VIOLATION", decision, reject⟩, ⟨"VIOLATION", actionTaken, true⟩)

/-- The pipeline up to and with the evaluation of the policy. -/
def preTrade (store : Store) : PipelineRun :=
  let (pretrade, store) := evaluateExecutionPolicyEngine tables context "PRE_TRADE" store
  let reject := pretrade.standardizedReject
  let violations :=
    if pretrade.recommendedAction = .block then
      [violationStage pretrade.enforcedAction reject
        (if pretrade.enforcedAction = .block then "VIOLATION_BLOCKED" else "VIOLATION_SOFT_LOGGED")]
    else []
  { recommendedAction := pretrade.recommendedAction
    enforcedAction := pretrade.enforcedAction
    standardizedReject := reject
    policyDecision := pretrade
    stages := ⟨"PRE_TRADE", pretrade.enforcedAction, reject⟩ :: violations.map Prod.fst
    logs := ⟨"PRE_TRADE", pretrade.actionTaken, reject.isSome⟩ :: violations.map Prod.snd
    store }

def PipelineRun.andStage (run : PipelineRun) (stage : String) (outcome : StageOutcome)
    (violations : List (StageResult × DecisionLog)) : PipelineRun :=
  let reject := outcome.standardizedReject
  { run with
    stages := run.stages ++ ⟨stage, outcome.enforcedAction, reject⟩ :: violations.map Prod.fst
    logs := run.logs ++ ⟨stage, outcome.actionTaken, reject.isSome⟩ :: violations.map Prod.snd }

/-- `run_execution_pipeline`. -/
def runExecutionPipeline (lifecycleAction : String) (store : Store) : Except String PipelineRun :=
  let run := preTrade tables context store
  if run.enforcedAction = .block then .ok run
  else if lower lifecycleAction = "preview" then .ok run
  else
    let rules := run.policyDecision.effectiveRules
    let execution := evaluateExecutionStageEnforcement context
      ((rules.map PolicyRules.execution).getD [])
    if execution.enforcedAction = .block then
      let run := run.andStage "EXECUTION" execution
        [violationStage .block execution.standardizedReject execution.actionTaken]
      .ok { run with
        recommendedAction := .block
        enforcedAction := .block
        standardizedReject := execution.standardizedReject }
    else
      let run := run.andStage "EXECUTION" execution []
      let post := evaluatePostTradeEnforcement context
        ((rules.map fun rules => rules.postTrade).getD []) run.policyDecision.risk
      let run := run.andStage "POST_TRADE" post
        (if post.standardizedReject.isSome then
          [violationStage .allow post.standardizedReject post.actionTaken] else [])
      (applyPortfolioPostTradeUpdate run.store context.toContext post.metricsSnapshot).map
        fun updated =>
          { run with
            recommendedAction :=
              if .block ∈ [run.recommendedAction, execution.recommendedAction,
                post.recommendedAction] then .block else .allow
            standardizedReject := execution.standardizedReject.orElse fun _ =>
              post.standardizedReject.orElse fun _ => run.standardizedReject
            store := updated.2 }

end Orchestrator

end Policy
