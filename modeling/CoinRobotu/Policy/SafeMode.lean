import CoinRobotu.Numeric.Limits
import CoinRobotu.Policy.MultiLayerRisk

/-!
# Safe mode

The active safe-mode states scale the exposure limits of a policy by the least of their multipliers
and cap the order size and the leverage by the least of their caps.
-/

namespace Policy

open Numeric
open Runtime (upper orElse)

/-- The override payload of a safe-mode state; its numbers may be absent or null. -/
structure SafeModePayload where
  riskMultiplier : Option ℚ
  maxOrderNotionalCap : Option ℚ
  leverageCap : Option ℚ
  restrictNewStrategyExecution : Bool
  reduceOnlyOnly : Bool

def safeModeDefaultPayload : SafeModePayload := ⟨some (1 / 2), some 10000, some (3 / 2), true, true⟩

structure ExecutionSafeModeState where
  safeModeId : String
  scopeType : String
  scopeValue : String
  triggerReason : Option String
  activatedAt : ℤ
  overridePayload : SafeModePayload

/-- The rules of a policy that safe mode changes; a rule without a number is null. -/
structure EffectiveRules where
  risk : Numbers
  postTrade : Numbers

/-- What the active states ask for together. -/
structure SafeModeOverride where
  riskMultiplier : ℚ
  maxOrderCap : Option ℚ
  leverageCap : Option ℚ
  restrictNewStrategyExecution : Bool
  reduceOnlyOnly : Bool

def SafeModeOverride.neutral : SafeModeOverride := ⟨1, none, none, false, false⟩

/-- One more state. -/
def SafeModeOverride.and (override : SafeModeOverride) (state : ExecutionSafeModeState) :
    SafeModeOverride :=
  let payload := state.overridePayload
  { riskMultiplier := min override.riskMultiplier (orNumber payload.riskMultiplier 1)
    maxOrderCap := lowerCap override.maxOrderCap payload.maxOrderNotionalCap
    leverageCap := lowerCap override.leverageCap payload.leverageCap
    restrictNewStrategyExecution :=
      override.restrictNewStrategyExecution || payload.restrictNewStrategyExecution
    reduceOnlyOnly := override.reduceOnlyOnly || payload.reduceOnlyOnly }

def overrideOf (states : List ExecutionSafeModeState) : SafeModeOverride :=
  states.foldl SafeModeOverride.and .neutral

def scaledKeys : List String :=
  ["max_order_notional", "max_symbol_exposure", "max_strategy_exposure", "max_user_exposure",
    "max_portfolio_exposure"]

def scaled (multiplier : ℚ) (rules : Numbers) : Numbers :=
  rules.map fun entry =>
    if entry.1 ∈ scaledKeys then (entry.1, entry.2.map (· * multiplier)) else entry

/-- The smaller one of a rule and a cap; a rule that is absent, null or zero is the cap. -/
def capped (key : String) (cap : Option ℚ) (rules : Numbers) : Numbers :=
  match cap with
  | none => rules
  | some cap => (key, some (min (orNumber (rules.lookup key).join cap) cap)) :: rules

def SafeModeOverride.apply (override : SafeModeOverride) (rules : EffectiveRules) :
    EffectiveRules where
  risk := capped "max_order_notional" override.maxOrderCap
    (scaled override.riskMultiplier rules.risk)
  postTrade := capped "max_leverage_after_trade" override.leverageCap rules.postTrade

structure Finding where
  reasonCode : String
  reasonMessage : String
  severity : String
  ruleId : String
deriving DecidableEq

/-- What safe mode forbids an intent. -/
def SafeModeOverride.findings (override : SafeModeOverride) (intentType : Option String)
    (reduceOnly : Bool) : List Finding :=
  let opens := upper (orElse intentType "OPEN_POSITION") = "OPEN_POSITION"
  (if override.restrictNewStrategyExecution ∧ opens then
    [⟨"SAFE_MODE_STRATEGY_RESTRICTED", "Safe mode restricts new strategy executions", "CRITICAL",
      "safe_mode.restrict_new_strategy_execution"⟩] else []) ++
  (if override.reduceOnlyOnly ∧ opens ∧ ¬reduceOnly then
    [⟨"SAFE_MODE_REDUCE_ONLY_REQUIRED", "Safe mode allows reduce-only operations", "CRITICAL",
      "safe_mode.reduce_only_only"⟩] else [])

structure SafeModeResult where
  rules : EffectiveRules
  traces : List ExecutionSafeModeState
  findings : List Finding

/-- `apply_safe_mode_overrides`, from the states that are active. -/
def applySafeModeOverrides (activeStates : List ExecutionSafeModeState) (rules : EffectiveRules)
    (intentType : Option String) (reduceOnly : Bool) : SafeModeResult :=
  if activeStates = [] then ⟨rules, [], []⟩
  else
    let override := overrideOf activeStates
    ⟨override.apply rules, activeStates, override.findings intentType reduceOnly⟩

/-- `max_leverage_after`; `limits` are those of the risk reference. -/
def maxLeverageAfter (limits postRules : Numbers) : ℚ :=
  safeFloat (postRules.lookup "max_leverage_after_trade")
    (safeFloat (limits.lookup "max_leverage") 4)

/-- The limits that safe mode may change. -/
inductive SafetyLimit where
  | exposure (layer : Layer)
  | leverage
deriving DecidableEq

def inForce (portfolio : ExecutionPortfolio) (limits : Numbers) (rules : EffectiveRules) :
    SafetyLimit → WithTop ℚ
  | .exposure layer => reading (threshold portfolio rules.risk layer)
  | .leverage => maxLeverageAfter limits rules.postTrade

end Policy
