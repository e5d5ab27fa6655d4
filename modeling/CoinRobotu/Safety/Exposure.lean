import Mathlib.Data.List.Sort
import CoinRobotu.Paper.Positions
import CoinRobotu.Runtime.Text

/-!
# The guard on total exposure

`assert_execution_open_allowed` adds up what is open or pending in three tables
and refuses an open that would pass a configured limit. Open paper positions
count with their notional, pending user intents with the notional column, and
pending runtime intents with their quantity. `price` is the price a runtime
intent was decided at, as its `price_reference` holds it; the guard does not
read it.
-/

namespace Safety

open Runtime (upper lower strip)
open Paper (PaperPosition)
open Numeric

structure LiveActivationConfig where
  tradingEnabled : Bool
  maxTotalExposure : ℚ
  maxActivePositions : ℤ
  maxPositionPct : ℚ
  canaryEnabled : Bool
  canarySymbols : List String
  canaryMaxCapitalUsdt : ℚ
  canaryMaxPositions : ℤ
deriving DecidableEq

structure UserExecutionIntent where
  id : String
  userId : String
  symbol : String
  intentType : String
  status : String
  notional : ℚ
deriving DecidableEq

structure ExecutionIntent where
  intentId : String
  symbol : String
  quantity : ℚ
  price : ℚ
  status : String
deriving DecidableEq

/-- The tables the guard reads. -/
structure Store where
  config : LiveActivationConfig
  positions : List PaperPosition
  userIntents : List UserExecutionIntent
  runtimeIntents : List ExecutionIntent

/-- `ACTIVE_POSITION_STATES`, compared in lower case. -/
def PaperPosition.isActive (position : PaperPosition) : Bool := lower position.status = "open"

/-- `PENDING_USER_INTENT_STATES`; only intents that open a position count. -/
def UserExecutionIntent.isPending (intent : UserExecutionIntent) : Bool :=
  intent.intentType = "OPEN_POSITION" ∧ intent.status ∈ ["QUEUED", "APPROVED"]

/-- `PENDING_RUNTIME_INTENT_STATES`, compared in lower case. -/
def ExecutionIntent.isPending (intent : ExecutionIntent) : Bool :=
  lower intent.status ∈ ["pending", "created", "queued"]

def positionNotional (position : PaperPosition) : ℚ := |position.entryPrice * position.quantity|

namespace Store

variable (store : Store)

def openPositions : List PaperPosition := store.positions.filter PaperPosition.isActive

def pendingUser : List UserExecutionIntent :=
  store.userIntents.filter UserExecutionIntent.isPending

def pendingRuntime : List ExecutionIntent :=
  store.runtimeIntents.filter ExecutionIntent.isPending

def currentOpenPositionsExposure : ℚ := (store.openPositions.map positionNotional).sum

/-- `_pending_user_intent_exposure`, without the count. -/
def pendingUserIntentExposure : ℚ := (store.pendingUser.map fun intent => |intent.notional|).sum

/-- `_pending_runtime_intent_exposure`, without the count: the quantity is
added as it stands. -/
def pendingRuntimeIntentExposure : ℚ :=
  (store.pendingRuntime.map fun intent => |intent.quantity|).sum

/-- `current_active_positions` of the snapshot. -/
def activePositions : ℤ :=
  store.openPositions.length + store.pendingUser.length + store.pendingRuntime.length

end Store

/-- `_normalize_symbols`. -/
def normalizeSymbols (values : List String) : List String :=
  values.foldl (fun normalized item =>
    let symbol := upper (strip item)
    if symbol ≠ "" ∧ symbol ∉ normalized then normalized ++ [symbol] else normalized) []

/-- `_is_canary_symbol`. -/
def isCanarySymbol (symbol : String) (allowedSymbols : List String) : Bool :=
  if allowedSymbols = [] then true else upper (strip symbol) ∈ allowedSymbols

/-- The open positions that `_canary_open_positions_state` counts. -/
def Store.canaryPositions (store : Store) (symbols : List String) : List PaperPosition :=
  store.openPositions.filter fun position =>
    ¬(symbols ≠ [] ∧ ¬isCanarySymbol position.symbol symbols)

/-- `execution_safety_snapshot`, as far as the guard reads it. -/
structure Snapshot where
  tradingEnabled : Bool
  maxTotalExposure : ℚ
  maxActivePositions : ℤ
  maxPositionPct : ℚ
  currentTotalExposure : ℚ
  currentActivePositions : ℤ
  canaryEnabled : Bool
  canarySymbols : List String
  canaryMaxCapitalUsdt : ℚ
  canaryMaxPositions : ℤ
  canaryCapitalUsed : ℚ
  canaryPositionCount : ℤ
deriving DecidableEq

def capitalFactor (maxPositionPct : ℚ) : ℚ := max maxPositionPct (1 / 100)

def executionSafetySnapshot (store : Store) : Snapshot :=
  let canarySymbols := normalizeSymbols store.config.canarySymbols
  let canary := store.canaryPositions canarySymbols
  { tradingEnabled := store.config.tradingEnabled
    maxTotalExposure := store.config.maxTotalExposure
    maxActivePositions := store.config.maxActivePositions
    maxPositionPct := store.config.maxPositionPct
    currentTotalExposure := store.currentOpenPositionsExposure + store.pendingUserIntentExposure +
      store.pendingRuntimeIntentExposure
    currentActivePositions := store.activePositions
    canaryEnabled := store.config.canaryEnabled
    canarySymbols
    canaryMaxCapitalUsdt := store.config.canaryMaxCapitalUsdt
    canaryMaxPositions := store.config.canaryMaxPositions
    canaryCapitalUsed :=
      (canary.map positionNotional).sum * capitalFactor store.config.maxPositionPct
    canaryPositionCount := canary.length }

/-- `ExecutionSafetyViolation`: its reason and message, the proposed notional
and the snapshot its details are taken from. -/
structure ExecutionSafetyViolation where
  reasonCode : String
  message : String
  source : String
  proposedNotional : ℚ
  symbol : String
  snapshot : Snapshot
deriving DecidableEq

/-- What the guard returns besides the snapshot. -/
structure Projection where
  totalExposure : ℚ
  activePositions : ℤ
  canaryCapital : ℚ
  canaryPositions : ℤ
deriving DecidableEq

section Guard

/-- `extract_quote`: the longest allowed quote asset the symbol ends in. -/
def extractQuote (allowedQuotes : List String) (symbol : String) : Option String :=
  let normalized := (upper (strip symbol)).toList
  (allowedQuotes.insertionSort fun left right => right.length ≤ left.length).find? fun quote =>
    quote.toList.isSuffixOf normalized ∧ normalized.length > quote.length

variable (allowedQuotes : List String)

def invalidQuoteAssetMessage : String :=
  match allowedQuotes with
  | first :: second :: _ => "Quote asset must be " ++ first ++ " or " ++ second
  | [first] => "Quote asset must be " ++ first
  | [] => "Quote asset is not allowed"

/-- The checks that apply while the canary is enabled, in their order. -/
def assertCanary (snapshot : Snapshot) (proposed : ℚ) (source symbol : String) :
    Except ExecutionSafetyViolation Unit :=
  let projectedCapital :=
    snapshot.canaryCapitalUsed + proposed * capitalFactor snapshot.maxPositionPct
  let projectedPositions := snapshot.canaryPositionCount + 1
  if snapshot.canarySymbols ≠ [] ∧ symbol ≠ "" ∧ symbol ∉ snapshot.canarySymbols then
    .error ⟨"CANARY_SYMBOL_BLOCKED", "Symbol is outside canary whitelist", source, proposed, symbol,
      snapshot⟩
  else if 0 < snapshot.canaryMaxCapitalUsdt ∧ snapshot.canaryMaxCapitalUsdt < projectedCapital then
    .error ⟨"CANARY_CAPITAL_LIMIT_EXCEEDED", "Projected canary capital exceeds limit", source,
      proposed, symbol, { snapshot with canaryCapitalUsed := projectedCapital }⟩
  else if 0 ≤ snapshot.canaryMaxPositions ∧ snapshot.canaryMaxPositions < projectedPositions then
    .error ⟨"CANARY_MAX_POSITIONS_EXCEEDED", "Projected canary positions exceeds limit", source,
      proposed, symbol, { snapshot with canaryPositionCount := projectedPositions }⟩
  else .ok ()

/-- The limits on total exposure and on active positions, in their order. -/
def assertLimits (snapshot : Snapshot) (proposed : ℚ) (source symbol : String) :
    Except ExecutionSafetyViolation Projection :=
  let projectedExposure := snapshot.currentTotalExposure + proposed
  let projectedPositions := snapshot.currentActivePositions + 1
  if ¬snapshot.tradingEnabled then
    .error ⟨"TRADING_DISABLED", "Trading is disabled by kill switch", source, proposed, symbol,
      snapshot⟩
  else if 0 < snapshot.maxTotalExposure ∧ snapshot.maxTotalExposure < projectedExposure then
    .error ⟨"MAX_TOTAL_EXPOSURE_EXCEEDED", "Projected total exposure exceeds limit", source,
      proposed, symbol, { snapshot with currentTotalExposure := projectedExposure }⟩
  else if 0 < snapshot.maxActivePositions ∧ snapshot.maxActivePositions < projectedPositions then
    .error ⟨"MAX_ACTIVE_POSITIONS_EXCEEDED", "Projected active positions exceeds limit", source,
      proposed, symbol, { snapshot with currentActivePositions := projectedPositions }⟩
  else
    .ok
      { totalExposure := projectedExposure
        activePositions := projectedPositions
        canaryCapital := snapshot.canaryCapitalUsed +
          proposed * capitalFactor snapshot.maxPositionPct
        canaryPositions := snapshot.canaryPositionCount + 1 }

def assertExecutionOpenAllowed (store : Store) (proposedNotional : ℚ) (source symbol : String) :
    Except ExecutionSafetyViolation Projection :=
  let snapshot := executionSafetySnapshot store
  let proposed := max proposedNotional 0
  let normalizedSymbol := upper (strip symbol)
  if normalizedSymbol ≠ "" ∧ (extractQuote allowedQuotes normalizedSymbol).isNone then
    .error ⟨"INVALID_QUOTE_ASSET", invalidQuoteAssetMessage allowedQuotes, source, proposed,
      normalizedSymbol, snapshot⟩
  else
    (if snapshot.canaryEnabled then assertCanary snapshot proposed source normalizedSymbol
      else .ok ()).bind fun _ => assertLimits snapshot proposed source normalizedSymbol

/-- An accepted open keeps the projected exposure and the projected number of
active positions within the limits that are set. -/
theorem assertExecutionOpenAllowed_ok {store : Store} {proposedNotional : ℚ}
    {source symbol : String} {projection : Projection}
    (accepted : assertExecutionOpenAllowed allowedQuotes store proposedNotional source symbol =
      .ok projection) :
    (0 < store.config.maxTotalExposure →
      store.currentOpenPositionsExposure + store.pendingUserIntentExposure +
        store.pendingRuntimeIntentExposure + max proposedNotional 0 ≤
          store.config.maxTotalExposure) ∧
    (0 < store.config.maxActivePositions →
      store.activePositions + 1 ≤ store.config.maxActivePositions) := by
  have limits : assertLimits (executionSafetySnapshot store) (max proposedNotional 0) source
      (upper (strip symbol)) = .ok projection := by
    simp only [assertExecutionOpenAllowed] at accepted
    split at accepted
    · cases accepted
    · cases canary : (if (executionSafetySnapshot store).canaryEnabled then
          assertCanary (executionSafetySnapshot store) (max proposedNotional 0) source
            (upper (strip symbol)) else .ok ()) with
      | error violation => rw [canary] at accepted; cases accepted
      | ok value => rw [canary] at accepted; exact accepted
  unfold assertLimits at limits
  dsimp only at limits
  split_ifs at limits with disabled exceeded crowded
  constructor
  · intro positive
    by_contra larger
    exact exceeded ⟨positive, lt_of_not_ge larger⟩
  · intro positive
    by_contra larger
    exact crowded ⟨positive, lt_of_not_ge larger⟩

end Guard

end Safety
