import CoinRobotu.Paper.Opening

/-!
# Preview requests and their normalized orders

`preview_execution_intent` first turns the payload of a request into a normalized
order: `validate_execution_payload` for a new position, and for an action on a
position `_build_position_action_preview_payload`, which reads the position and the
strategy that is recorded for it. The advisory findings of the validation, which
never refuse a request, are left out.
-/

namespace Preview

open Numeric
open Runtime (upper lower strip orElse)
open Paper (PaperPosition normalizeSymbol)

/-- The keys of `scanner_signal_snapshot` that a preview reads. -/
structure ScannerSnapshot where
  symbol : Option String
  signalId : Option String
  timestamp : Option String
deriving DecidableEq

/-- The keys of `signal_bridge_context` that a preview reads. -/
structure BridgeContext where
  snapshotAgeMs : Option ℚ
  executionLatencyMs : Option ℚ
  slippagePct : Option ℚ
  orderbookDepthScore : Option ℚ
deriving DecidableEq

/-- The payload of a preview request; the schema of the request refuses a size that is
not positive. -/
structure PreviewPayload where
  intentType : Option String
  positionId : Option String
  sourceType : Option String
  sourceRefId : Option String
  sourceEventId : Option String
  scannerSignalSnapshot : Option ScannerSnapshot
  signalBridgeContext : Option BridgeContext
  timestampWindow : Option String
  normalizedTimestampWindow : Option String
  timestamp : Option String
  symbol : Option String
  side : Option String
  orderType : Option String
  marketType : Option String
  environment : Option String
  positionSizeMode : Option String
  positionSizeValue : Option ℚ
  size : Option ℚ
  leverage : Option ℤ
  strategyBinding : Option String
  strategy : Option String
  reduceOnly : Option Bool
  price : Option ℚ
  stopPrice : Option ℚ
  takeProfitPrice : Option ℚ
  volatilityPct : Option ℚ
  liquidationDistancePct : Option ℚ
  size_pos : ∀ value ∈ size, 0 < value

/-- The keys of `normalized_order_payload` that a preview reads or stores in columns. -/
structure NormalizedOrder where
  sourceType : String
  sourceRefId : String
  intentType : Option String
  positionId : Option String
  marketType : String
  symbol : String
  side : String
  orderType : String
  leverage : Option ℤ
  positionSizeMode : String
  positionSizeValue : ℚ
  strategyBinding : String
  size : Option ℚ
  reduceOnly : Option Bool
  price : Option ℚ
  stopPrice : Option ℚ
  takeProfitPrice : Option ℚ
deriving DecidableEq

/-- What a preview reads from the configuration: the quote assets that are allowed, and
the market types that have a policy. -/
structure PreviewConfig where
  allowedQuotes : List String
  marketPolicies : List String

/-- `POSITION_ACTION_TYPES`. -/
def positionActionTypes : List String :=
  ["CLOSE_POSITION", "PARTIAL_CLOSE", "REVERSE_POSITION", "MOVE_STOP", "MOVE_TAKE_PROFIT"]

/-- `RISK_REDUCTION_ACTIONS`. -/
def riskReductionActions : List String :=
  ["CLOSE_POSITION", "PARTIAL_CLOSE", "MOVE_STOP", "MOVE_TAKE_PROFIT"]

namespace PreviewPayload

variable (payload : PreviewPayload)

def requestedType : String := upper (orElse payload.intentType "OPEN_POSITION")

end PreviewPayload

/-- `normalized_order_payload` of `validate_execution_payload`. -/
def validateExecutionPayload (config : PreviewConfig) (payload : PreviewPayload) :
    NormalizedOrder :=
  let symbol := (normalizeSymbol config.allowedQuotes (payload.symbol.getD "")
    "symbol_required_for_execution_intent" "unsupported_quote_asset").toOption.getD ""
  let marketType := lower (orElse payload.marketType "spot")
  { sourceType := orElse payload.sourceType "manual"
    sourceRefId := orElse payload.sourceRefId ""
    intentType := none
    positionId := none
    marketType
    symbol
    side := lower (orElse payload.side "buy")
    orderType := lower (orElse payload.orderType "market")
    leverage := some (if marketType ∈ config.marketPolicies ∧ marketType ≠ "futures" then 1
      else payload.leverage.getD 1)
    positionSizeMode := lower (orElse payload.positionSizeMode "fixed_notional")
    positionSizeValue := payload.positionSizeValue.getD 0
    strategyBinding := orElse payload.strategyBinding ""
    size := none
    reduceOnly := none
    price := none
    stopPrice := none
    takeProfitPrice := none }

/-- `_extract_notional`. -/
def extractNotional (order : NormalizedOrder) : ℚ :=
  if order.positionSizeMode = "fixed_notional" then max order.positionSizeValue 0
  else max (order.positionSizeValue * 100) 0

/-- The tables that an action on a position reads, and the last prices. -/
structure PositionTables where
  rows : List PaperPosition
  strategies : List (String × Option String)
  safePrice : String → ℚ

def resolvePositionForAction (tables : PositionTables) (userId positionId : String) :
    Except String PaperPosition :=
  match tables.rows.find? fun row =>
      row.id = positionId ∧ row.userId = userId ∧ row.status = "open" with
  | none => .error "position_not_found"
  | some row => .ok row

def PositionTables.recordedStrategy (tables : PositionTables) (positionId : String) :
    Option String :=
  (tables.strategies.find? fun state => state.1 = positionId).bind Prod.snd

def requestedSize (intentType : String) (payload : PreviewPayload) (position : PaperPosition) :
    ℚ :=
  let requested :=
    if payload.size.getD 0 ≤ 0 then position.quantity else payload.size.getD 0
  if intentType = "CLOSE_POSITION" then position.quantity
  else if intentType = "PARTIAL_CLOSE" then min requested position.quantity
  else requested

/-- A normalized order with the reasons to reject it and the notional of the request. -/
structure PreviewedOrder where
  order : NormalizedOrder
  notional : ℚ
  actionSize : ℚ
  reasons : List String
deriving DecidableEq

/-- The order of an action of a type on a position. -/
def actionOrder (tables : PositionTables) (intentType : String) (payload : PreviewPayload)
    (position : PaperPosition) : PreviewedOrder :=
  let size := requestedSize intentType payload position
  let notional := max (size * tables.safePrice position.symbol) 0
  { order :=
      { sourceType := "position_action"
        sourceRefId := position.id
        intentType := some intentType
        positionId := some position.id
        marketType := position.marketType
        symbol := position.symbol
        side := if position.side = "long" then "sell" else "buy"
        orderType := "market"
        leverage := none
        positionSizeMode := "fixed_notional"
        positionSizeValue := roundTo 6 notional
        strategyBinding := orElse payload.strategyBinding
          (orElse (tables.recordedStrategy position.id) "manual_execution")
        size := some (roundTo 6 size)
        reduceOnly := some
          (payload.reduceOnly.getD (intentType ∈ ["CLOSE_POSITION", "PARTIAL_CLOSE"]))
        price := payload.price
        stopPrice := payload.stopPrice
        takeProfitPrice := payload.takeProfitPrice }
    notional
    actionSize := size
    reasons :=
      (if size ≤ 0 then ["position_action_size_invalid"] else []) ++
        (if intentType = "MOVE_STOP" ∧ payload.stopPrice.isNone then ["stop_price_required"]
          else []) ++
        (if intentType = "MOVE_TAKE_PROFIT" ∧ payload.takeProfitPrice.isNone then
          ["take_profit_price_required"] else []) }

def buildPositionActionPreviewPayload (tables : PositionTables) (userId : String)
    (payload : PreviewPayload) : Except String PreviewedOrder :=
  let intentType := upper (orElse payload.intentType "")
  let positionId := strip (orElse payload.positionId "")
  if intentType ∉ positionActionTypes then .error "unsupported_intent_type"
  else if positionId = "" then .error "position_id_required"
  else (resolvePositionForAction tables userId positionId).map
    (actionOrder tables intentType payload)

section Normalizing

theorem bind_eq_ok {First Last : Type} {first : Except String First}
    {next : First → Except String Last} {last : Last} :
    (first >>= next) = .ok last ↔ ∃ value, first = .ok value ∧ next value = .ok last := by
  cases first with
  | error message =>
    constructor
    · intro impossible
      cases impossible
    · rintro ⟨_, impossible, _⟩
      cases impossible
  | ok value =>
    constructor
    · intro returned
      exact ⟨value, rfl, returned⟩
    · rintro ⟨_, same, returned⟩
      cases same
      exact returned

/-- A scanner order needs a snapshot of the same symbol. -/
def checkScannerSymbol (payload : PreviewPayload) (order : NormalizedOrder) (symbol : String) :
    Except String Unit :=
  let sourceType := lower (strip order.sourceType)
  if sourceType = "scanner" ∨ payload.signalBridgeContext.isSome then
    let scanned := upper (strip
      (orElse (payload.scannerSignalSnapshot.bind ScannerSnapshot.symbol) ""))
    if scanned = "" then .error "scanner_signal_snapshot_missing_symbol"
    else if scanned ≠ symbol then .error "scanner_execution_symbol_mismatch"
    else .ok ()
  else .ok ()

/-- The normalized order of a request when the gates are reached. -/
def normalizeRequest (config : PreviewConfig) (tables : PositionTables) (userId : String)
    (payload : PreviewPayload) : Except String PreviewedOrder := do
  let previewed ← if payload.requestedType = "OPEN_POSITION" then
      let order := validateExecutionPayload config payload
      pure ⟨order, extractNotional order, payload.size.getD 0, []⟩
    else buildPositionActionPreviewPayload tables userId payload
  let symbol ← normalizeSymbol config.allowedQuotes
    (orElse (some previewed.order.symbol) (payload.symbol.getD ""))
    "symbol_required_for_execution_intent" "invalid_quote_asset"
  checkScannerSymbol payload previewed.order symbol
  return { previewed with order := { previewed.order with symbol } }

variable {config : PreviewConfig} {tables : PositionTables} {userId : String}
  {payload : PreviewPayload} {previewed : PreviewedOrder}

theorem normalizeRequest_open (isOpen : payload.requestedType = "OPEN_POSITION")
    (normalized : normalizeRequest config tables userId payload = .ok previewed) :
    ∃ symbol, normalizeSymbol config.allowedQuotes
        (orElse (some (validateExecutionPayload config payload).symbol) (payload.symbol.getD ""))
        "symbol_required_for_execution_intent" "invalid_quote_asset" = .ok symbol ∧
      previewed = ⟨{ validateExecutionPayload config payload with symbol },
        extractNotional (validateExecutionPayload config payload), payload.size.getD 0, []⟩ := by
  unfold normalizeRequest at normalized
  rw [if_pos isOpen, pure_bind] at normalized
  obtain ⟨symbol, isSymbol, rest⟩ := bind_eq_ok.mp normalized
  obtain ⟨_, _, returned⟩ := bind_eq_ok.mp rest
  cases returned
  exact ⟨symbol, isSymbol, rfl⟩

theorem normalizeRequest_action (action : payload.requestedType ≠ "OPEN_POSITION")
    (normalized : normalizeRequest config tables userId payload = .ok previewed) :
    ∃ position symbol,
      resolvePositionForAction tables userId (strip (orElse payload.positionId "")) =
          .ok position ∧
        previewed.order = { (actionOrder tables (upper (orElse payload.intentType "")) payload
          position).order with symbol } := by
  unfold normalizeRequest at normalized
  rw [if_neg action] at normalized
  obtain ⟨built, isBuilt, further⟩ := bind_eq_ok.mp normalized
  obtain ⟨symbol, _, rest⟩ := bind_eq_ok.mp further
  obtain ⟨_, _, returned⟩ := bind_eq_ok.mp rest
  cases returned
  unfold buildPositionActionPreviewPayload at isBuilt
  dsimp only at isBuilt
  split at isBuilt
  · cases isBuilt
  · split at isBuilt
    · cases isBuilt
    · cases resolved : resolvePositionForAction tables userId
          (strip (orElse payload.positionId "")) with
      | error message =>
        rw [resolved] at isBuilt
        cases isBuilt
      | ok position =>
        rw [resolved] at isBuilt
        cases isBuilt
        exact ⟨position, symbol, rfl, rfl⟩

end Normalizing

end Preview
