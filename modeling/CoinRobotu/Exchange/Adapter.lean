import CoinRobotu.Numeric.Steps
import CoinRobotu.Runtime.Text

/-!
# The Binance adapter

`submit_order` turns the payload of an order into the parameters that are sent to the exchange. The
quantity is fitted to the lot size of the symbol, and on futures it is raised, one step at a time,
until its notional at the mark price reaches a fixed minimum. Decimals are exact here; what the
exchange answers to the order is no part of this module.
-/

namespace Exchange

open Runtime (lower orElse strip upper)
open Numeric

/-- A filter of a symbol. -/
structure SymbolFilter where
  filterType : Option String
  stepSize : Option (Option ℚ)
  minQty : Option (Option ℚ)
  tickSize : Option (Option ℚ)
  minPrice : Option (Option ℚ)
  maxPrice : Option (Option ℚ)

/-- A row of the exchange information. -/
structure SymbolRow where
  symbol : Option String
  filters : List SymbolFilter

/-- The rules of a symbol, as the decimals that their texts spell. -/
structure SymbolRules where
  stepSize : Option ℚ
  minQty : Option ℚ
  tickSize : Option ℚ
  minPrice : Option ℚ
  maxPrice : Option ℚ
deriving DecidableEq

def SymbolRow.filter (row : SymbolRow) (filterType : String) : SymbolFilter :=
  (row.filters.find? fun item => orElse item.filterType "" = filterType).getD
    ⟨none, none, none, none, none, none⟩

/-- `_symbol_rules`, of the rows the exchange lists. -/
def symbolRules (symbols : List SymbolRow) (symbol : String) : SymbolRules :=
  match symbols.find? fun row => upper (orElse row.symbol "") = upper symbol with
  | some row =>
    { stepSize := (row.filter "LOT_SIZE").stepSize.getD (some (1 / 1000000))
      minQty := (row.filter "LOT_SIZE").minQty.getD (some 0)
      tickSize := (row.filter "PRICE_FILTER").tickSize.getD (some (1 / 100))
      minPrice := (row.filter "PRICE_FILTER").minPrice.getD (some 0)
      maxPrice := (row.filter "PRICE_FILTER").maxPrice.getD (some 0) }
  | none => ⟨some (1 / 1000000), some (1 / 1000000), some (1 / 100), some 0, some 0⟩

/-- `(value / step).to_integral_value(rounding=ROUND_DOWN) * step`, where there is a step. -/
def roundDown (step value : ℚ) : ℚ := if 0 < step then wholePart (value / step) * step else value

namespace SymbolRules

variable (rules : SymbolRules)

/-- `_normalize_quantity`; what is not a decimal ends in the `except` branch. -/
def normalizeQuantity (quantity : ℚ) : ℚ :=
  match rules.stepSize, rules.minQty with
  | some step, some minQty =>
    let rawQty := if quantity < minQty then minQty else quantity
    let normalized := roundDown step rawQty
    if normalized < minQty then minQty else normalized
  | _, _ => max quantity 0

/-- `_normalize_price`. -/
def normalizePrice (price : ℚ) : ℚ :=
  match rules.tickSize, rules.minPrice, rules.maxPrice with
  | some tick, some minPrice, some maxPrice =>
    let rawPrice := if price < minPrice then minPrice else price
    let rawPrice := if 0 < maxPrice ∧ maxPrice < rawPrice then maxPrice else rawPrice
    let normalized := roundDown tick rawPrice
    if normalized < minPrice then minPrice else normalized
  | _, _, _ => max price 0

end SymbolRules

inductive Market where
  | spot
  | futures
deriving DecidableEq

/-- What the adapter reads of its environment. -/
structure Adapter where
  executionMode : Option String
  liveTradingEnabled : Option String
  liveRouteApproved : Option String
  apiKey : String
  apiSecret : String
  executionMarketType : String

/-- `_is_true`. -/
def isTrue (value : Option String) : Bool := lower (strip (orElse value "false")) = "true"

namespace Adapter

variable (adapter : Adapter)

/-- `_active_market`. -/
def activeMarket : Market :=
  if adapter.executionMarketType = "futures" then .futures else .spot

/-- `_guard`. -/
def guard : Except String Unit :=
  if lower (strip (orElse adapter.executionMode "live")) ≠ "live" then
    .error "live_only_mode_enforced"
  else if ¬(isTrue adapter.liveTradingEnabled ∧ isTrue adapter.liveRouteApproved) then
    .error "live_guard_blocked"
  else if adapter.apiKey = "" ∨ adapter.apiSecret = "" then .error "missing_live_credentials"
  else .ok ()

end Adapter

/-- The payload of `submit_order`. -/
structure OrderPayload where
  symbol : Option String
  side : Option String
  size : Option ℚ
  orderType : Option String
  idempotencyKey : Option String
  executionJobId : Option String
  leverage : Option ℚ
  markPrice : Option ℚ
  limitPrice : Option ℚ

namespace OrderPayload

variable (payload : OrderPayload)

/-- `str(payload.get("symbol") or "").upper()`. -/
def upperSymbol : String := upper (orElse payload.symbol "")

def upperType : String := upper (orElse payload.orderType "MARKET")

/-- `_safe_float(payload.get("mark_price"), 0.0)`. -/
def mark : ℚ := payload.markPrice.getD 0

/-- `float(payload.get("limit_price") or payload.get("mark_price") or 0.0)`. -/
def price : ℚ := orNumber payload.limitPrice (orNumber payload.markPrice 0)

/-- `newClientOrderId`: the first 36 characters of the key, or else of the job's identifier. -/
def clientOrderId : String :=
  String.ofList ((orElse payload.idempotencyKey
    (orElse payload.executionJobId "runtime-order")).toList.take 36)

def leverageRequest (market : Market) : Option ℤ :=
  let requested := wholePart (payload.leverage.getD 0)
  if market = .futures ∧ 0 < requested then some (max 1 (min requested 125)) else none

end OrderPayload

/-- What is sent: the leverage, and the parameters of the order. -/
structure SentOrder where
  leverage : Option ℤ
  symbol : String
  side : String
  type : String
  quantity : ℚ
  newClientOrderId : String
  price : Option ℚ
  timeInForce : Option String
deriving DecidableEq

/-- `min_notional_decimal`. -/
def minNotional : ℚ := 100

/-- The loop of `submit_order` on futures. -/
def raiseQuantity (market : Market) (rules : SymbolRules) (markPrice : ℚ) (fuel : ℕ)
    (quantity : ℚ) : Option ℚ :=
  let stepSize := max (rules.stepSize.getD 0) 0
  if market = .futures ∧ 0 < markPrice ∧ 0 < stepSize then
    raiseTo stepSize (fun raised => minNotional ≤ raised * markPrice) fuel quantity
  else some quantity

def withLimit (payload : OrderPayload) (rules : SymbolRules) (order : SentOrder) :
    Except String SentOrder :=
  if payload.upperType = "LIMIT" then
    if payload.price ≤ 0 then .error "invalid_limit_price"
    else .ok { order with
      price := some (rules.normalizePrice payload.price)
      timeInForce := some "GTC" }
  else .ok order

/-- `submit_order`, up to the request that it sends. `none` is a loop that has not ended yet. -/
def submitOrder (adapter : Adapter) (symbols : Except String (List SymbolRow))
    (payload : OrderPayload) (fuel : ℕ) : Except String (Option SentOrder) := do
  adapter.guard
  if payload.size.getD 0 ≤ 0 then throw "invalid_size"
  let rules := symbolRules (← symbols) payload.upperSymbol
  match raiseQuantity adapter.activeMarket rules payload.mark fuel
      (rules.normalizeQuantity (payload.size.getD 0)) with
  | none => pure none
  | some quantity =>
    some <$> withLimit payload rules
      { leverage := payload.leverageRequest adapter.activeMarket
        symbol := payload.upperSymbol
        side := upper (orElse payload.side "BUY")
        type := payload.upperType
        quantity
        newClientOrderId := payload.clientOrderId
        price := none
        timeInForce := none }

end Exchange

/-!
## The quantity of an order

The quantity that is sent is the requested one, rounded down to the step, but not below the minimum
of the lot size, and then raised on futures until it is worth the minimum notional. So it is less
than a step above what the request and the two minima need. It is a multiple of the step just where
one lies between the minimum and what is asked for, since a minimum that is sent in place of what
was rounded away is sent as it is.
-/

namespace Exchange

open Numeric hiding orNumber

section Rounding

variable {rules : SymbolRules} {step minQty quantity : ℚ}

theorem roundDown_eq (positive : 0 < step) (nonneg : 0 ≤ quantity) :
    roundDown step quantity = floorTo step quantity := by
  rw [roundDown, if_pos positive, wholePart_of_nonneg (div_nonneg nonneg positive.le), floorTo]

variable (isStep : rules.stepSize = some step) (isMin : rules.minQty = some minQty)
  (positive : 0 < step)
  (asked : 0 < quantity)

include isStep isMin positive asked

theorem normalizeQuantity_eq :
    rules.normalizeQuantity quantity =
      max (floorTo step (max quantity minQty)) minQty := by
  have raw : (if quantity < minQty then minQty else quantity) = max quantity minQty := by
    split
    · next less => exact (max_eq_right less.le).symm
    · next notLess => exact (max_eq_left (not_lt.mp notLess)).symm
  simp only [SymbolRules.normalizeQuantity, isStep, isMin, raw]
  rw [roundDown_eq positive (asked.le.trans (le_max_left _ _))]
  split
  · next less => exact (max_eq_right less.le).symm
  · next notLess => exact (max_eq_left (not_lt.mp notLess)).symm

theorem normalizeQuantity_le :
    rules.normalizeQuantity quantity ≤ max quantity minQty := by
  rw [normalizeQuantity_eq isStep isMin positive asked]
  exact max_le (floorTo_le positive) (le_max_right _ _)

theorem isMultiple_normalizeQuantity :
    IsMultiple step (rules.normalizeQuantity quantity) ↔
      ∃ multiple, IsMultiple step multiple ∧ minQty ≤ multiple ∧
        multiple ≤ max quantity minQty := by
  have most := normalizeQuantity_le isStep isMin positive asked
  have normalized := normalizeQuantity_eq isStep isMin positive asked
  constructor
  · intro isMultiple
    refine ⟨_, isMultiple, ?_, most⟩
    rw [normalized]
    exact le_max_right _ _
  · rintro ⟨multiple, isMultiple, least, within⟩
    have below : minQty ≤ floorTo step (max quantity minQty) :=
      least.trans (isMultiple.le_floorTo positive within)
    rw [normalized, max_eq_left below]
    exact isMultiple_floorTo

end Rounding

/-- What the request, the minimum of the lot size and the minimum notional need together. -/
def OrderPayload.needed (payload : OrderPayload) (market : Market) (minQty : ℚ) : ℚ :=
  max (max (payload.size.getD 0) minQty)
    (if market = .futures ∧ 0 < payload.mark then minNotional / payload.mark else 0)

/-- A quantity that fits the filters and the payload. -/
structure Fits (payload : OrderPayload) (market : Market) (step minQty quantity : ℚ) : Prop where
  least : minQty ≤ quantity
  notional : market = .futures → 0 < payload.mark → minNotional ≤ quantity * payload.mark
  most : quantity < payload.needed market minQty + step
  multiple : IsMultiple step quantity ↔
    ∃ multiple, IsMultiple step multiple ∧ minQty ≤ multiple ∧
      multiple ≤ max (payload.size.getD 0) minQty

section Raising

variable {rules : SymbolRules} {payload : OrderPayload} {market : Market}
  {step minQty quantity raised : ℚ} {fuel : ℕ}

theorem raiseQuantity_ends (market : Market) (rules : SymbolRules) (markPrice quantity : ℚ) :
    ∃ least, ∀ fuel, least ≤ fuel →
      (raiseQuantity market rules markPrice fuel quantity).isSome := by
  unfold raiseQuantity
  by_cases raises : market = .futures ∧ 0 < markPrice ∧ 0 < max (rules.stepSize.getD 0) 0
  · simp only [raises, and_self, if_true]
    have enough : ∀ value : ℚ, minNotional / markPrice ≤ value →
        decide (minNotional ≤ value * markPrice) = true := fun value above =>
      decide_eq_true ((div_le_iff₀ raises.2.1).mp above)
    exact raiseTo_ends raises.2.2 enough quantity
  · exact ⟨0, fun _ _ => by rw [if_neg raises]; rfl⟩

theorem raiseQuantity_fits (isStep : rules.stepSize = some step)
    (isMin : rules.minQty = some minQty) (positive : 0 < step) (asked : 0 < payload.size.getD 0)
    (isRaised : raiseQuantity market rules payload.mark fuel
      (rules.normalizeQuantity (payload.size.getD 0)) = some raised) :
    Fits payload market step minQty raised := by
  have normalized := normalizeQuantity_eq isStep isMin positive asked
  have isMultiple := isMultiple_normalizeQuantity isStep isMin positive asked
  have within := normalizeQuantity_le isStep isMin positive asked
  have below : max (payload.size.getD 0) minQty ≤ payload.needed market minQty := le_max_left _ _
  have least : minQty ≤ rules.normalizeQuantity (payload.size.getD 0) := by
    rw [normalized]
    exact le_max_right _ _
  have isMax : max (rules.stepSize.getD 0) 0 = step := by
    rw [isStep, Option.getD_some, max_eq_left positive.le]
  unfold raiseQuantity at isRaised
  rw [isMax] at isRaised
  by_cases raises : market = .futures ∧ 0 < payload.mark
  · simp only [raises, positive, and_self, if_true] at isRaised
    have worth := raiseTo_enough isRaised
    obtain ⟨count, rfl, first⟩ := raiseTo_first isRaised
    refine ⟨?_, fun _ _ => of_decide_eq_true worth, ?_, isMultiple_add_iff.trans isMultiple⟩
    · have added : 0 ≤ (count : ℚ) * step := by positivity
      linarith
    · rcases first with rfl | before
      · simp only [Nat.cast_zero, zero_mul, add_zero]
        linarith
      · have less := not_le.mp (of_decide_eq_false before)
        have short := (lt_div_iff₀ raises.2).mpr less
        have needs : minNotional / payload.mark ≤ payload.needed market minQty := by
          rw [OrderPayload.needed, if_pos raises]
          exact le_max_right _ _
        linarith
  · have same : rules.normalizeQuantity (payload.size.getD 0) = raised := by
      have stays : ¬(market = .futures ∧ 0 < payload.mark ∧ 0 < step) := fun all =>
        raises ⟨all.1, all.2.1⟩
      rw [if_neg stays] at isRaised
      exact Option.some.inj isRaised
    subst same
    exact ⟨least, fun isFutures marked => absurd ⟨isFutures, marked⟩ raises, by linarith,
      isMultiple⟩

end Raising

section Orders

variable {symbols : List SymbolRow} {payload : OrderPayload} {rules : SymbolRules}
  {step minQty : ℚ}

theorem withLimit_ok {order limited : SentOrder}
    (isOk : withLimit payload rules order = .ok limited) : limited.quantity = order.quantity := by
  unfold withLimit at isOk
  split_ifs at isOk
  all_goals cases isOk; rfl

theorem submitOrder_cases (adapter : Adapter) (symbols : List SymbolRow) (payload : OrderPayload)
    (fuel : ℕ) :
    (∃ failure, submitOrder adapter (.ok symbols) payload fuel = .error failure) ∨
      0 < payload.size.getD 0 ∧
        ∃ raised, raiseQuantity adapter.activeMarket (symbolRules symbols payload.upperSymbol)
            payload.mark fuel
            ((symbolRules symbols payload.upperSymbol).normalizeQuantity (payload.size.getD 0)) =
          raised ∧ ∃ order, submitOrder adapter (.ok symbols) payload fuel = .ok order ∧
            order.map SentOrder.quantity = raised := by
  unfold submitOrder
  cases adapter.guard with
  | error failure => exact .inl ⟨failure, rfl⟩
  | ok allowed =>
    by_cases invalid : payload.size.getD 0 ≤ 0
    · exact .inl ⟨"invalid_size", by simp [invalid, bind, Except.bind, throw, throwThe,
        MonadExceptOf.throw]⟩
    · simp only [invalid, bind, Except.bind, if_false, pure, Except.pure]
      cases raised : raiseQuantity adapter.activeMarket (symbolRules symbols payload.upperSymbol)
        payload.mark fuel
          ((symbolRules symbols payload.upperSymbol).normalizeQuantity (payload.size.getD 0)) with
      | none => exact .inr ⟨not_le.mp invalid, none, rfl, none, rfl, rfl⟩
      | some quantity =>
        dsimp only
        generalize isOrder : SentOrder.mk _ _ _ _ _ _ _ _ = order
        cases limited : withLimit payload (symbolRules symbols payload.upperSymbol) order with
        | error failure => exact .inl ⟨failure, rfl⟩
        | ok sent =>
          refine .inr ⟨not_le.mp invalid, some quantity, rfl, some sent, rfl, ?_⟩
          rw [Option.map_some, withLimit_ok limited, ← isOrder]

def liveAdapter (marketType : String) : Adapter :=
  ⟨some "live", some "true", some "true", "key", "secret", marketType⟩

def oneSymbol (stepSize minQty : ℚ) : List SymbolRow :=
  [⟨some "BTCUSDT",
    [⟨some "LOT_SIZE", some (some stepSize), some (some minQty), none, none, none⟩]⟩]

/-- An order of a size at a mark price, with a limit or without one. -/
def orderOf (size mark : ℚ) (limit : Option ℚ) : OrderPayload :=
  { symbol := some "BTCUSDT"
    side := some "BUY"
    size := some size
    orderType := limit.map fun _ => "LIMIT"
    idempotencyKey := some "key-1"
    executionJobId := some "job-1"
    leverage := none
    markPrice := some mark
    limitPrice := limit }

end Orders

end Exchange
