import CoinRobotu.Safety.Exposure

/-!
# Opening a position for an approved intent

`_open_position_from_intent` turns the approved notional into a quantity at the
last price of the market, and attaches the position to a bot of the user. The
quantity is rounded to six decimals and is never below one thousandth, and a
price below one counts as one in the division. The table of bots is listed in
the order in which they were created.
-/

namespace Paper

open Numeric
open Runtime (upper lower strip blank orElse)

structure BotProfile where
  id : String
  userId : String
  strategyType : String
  isDeleted : Bool
deriving DecidableEq

/-- The columns of an intent that an opening reads. -/
structure OpeningIntent where
  userId : String
  symbol : String
  notional : ℚ
  stopPrice : Option ℚ
  takeProfitPrice : Option ℚ
deriving DecidableEq

/-- The keys of `normalized_order_payload` that an opening reads. -/
structure OpeningPayload where
  symbol : Option String
  marketType : Option String
  side : Option String
  leverage : Option ℤ
deriving DecidableEq

/-- `normalize_symbol`, with the texts of its two errors. -/
def normalizeSymbol (allowedQuotes : List String) (symbol missing invalid : String) :
    Except String String :=
  let normalized := upper (strip symbol)
  if normalized = "" then .error missing
  else if (Safety.extractQuote allowedQuotes normalized).isNone then .error invalid
  else .ok normalized

/-- `resolve_symbol_market_type`, with the futures symbols of the market universe. -/
def resolveSymbolMarketType (futuresSymbols : List String) (symbol : String) : String :=
  let normalized := upper (strip symbol)
  if normalized ≠ "" ∧ normalized ∈ futuresSymbols.map upper then "futures" else "spot"

/-- `_default_bot`: the oldest bot of the user that is not deleted, or else a new one. -/
def defaultBot (bots : List BotProfile) (userId newBotId : String) :
    BotProfile × List BotProfile :=
  match bots.find? fun bot => bot.userId = userId ∧ bot.isDeleted = false with
  | some bot => (bot, bots)
  | none =>
      let bot : BotProfile := ⟨newBotId, userId, "manual_execution", false⟩
      (bot, bots ++ [bot])

def openedQuantity (notional entryPrice : ℚ) : ℚ :=
  roundTo 6 (max (notional / max entryPrice 1) (1 / 1000))

/-- `value or default` for an integer. -/
def orNonzero (value : Option ℤ) (default : ℤ) : ℤ :=
  if value.getD 0 = 0 then default else value.getD 0

/-- A position with its bot, and the bots there are then. -/
structure Opening where
  position : PaperPosition
  botProfileId : String
  bots : List BotProfile

def openPositionFromIntent (allowedQuotes futuresSymbols : List String) (safePrice : String → ℚ)
    (bots : List BotProfile) (intent : OpeningIntent) (normalized : OpeningPayload)
    (newId newBotId : String) : Except String Opening := do
  let symbol ← normalizeSymbol allowedQuotes (orElse normalized.symbol intent.symbol)
    "symbol_required_for_execution_order" "invalid_quote_asset"
  let requested := lower (strip (orElse normalized.marketType ""))
  let marketType := if requested ∈ ["spot", "futures"] then requested
    else resolveSymbolMarketType futuresSymbols symbol
  let (bot, allBots) := defaultBot bots intent.userId newBotId
  let entryPrice := safePrice symbol
  let side := lower (orElse normalized.side "buy")
  return {
    position :=
      { id := newId
        userId := intent.userId
        symbol
        marketType
        side := if side ∈ ["buy", "long"] then "long" else "short"
        quantity := openedQuantity intent.notional entryPrice
        leverage := orNonzero normalized.leverage (if marketType = "futures" then 3 else 1)
        entryPrice
        stopLoss := intent.stopPrice.getD (roundTo 6 (entryPrice * (99 / 100)))
        takeProfit := intent.takeProfitPrice.getD (roundTo 6 (entryPrice * (102 / 100)))
        status := "open"
        unrealizedPnl := 0
        realizedPnl := 0 }
    botProfileId := bot.id
    bots := allBots }

section Opened

variable {allowedQuotes futuresSymbols : List String} {safePrice : String → ℚ}
  {bots : List BotProfile} {intent : OpeningIntent} {normalized : OpeningPayload}
  {newId newBotId : String} {opening : Opening}

theorem openPositionFromIntent_ok
    (opened : openPositionFromIntent allowedQuotes futuresSymbols safePrice bots intent normalized
      newId newBotId = .ok opening) :
    normalizeSymbol allowedQuotes (orElse normalized.symbol intent.symbol)
        "symbol_required_for_execution_order" "invalid_quote_asset" =
          .ok opening.position.symbol ∧
      opening.position.entryPrice = safePrice opening.position.symbol ∧
      opening.position.quantity =
        openedQuantity intent.notional (safePrice opening.position.symbol) ∧
      opening.position.userId = intent.userId ∧ opening.position.status = "open" ∧
      opening.position.realizedPnl = 0 ∧
      opening.position.leverage = orNonzero normalized.leverage
        (if opening.position.marketType = "futures" then 3 else 1) ∧
      (opening.botProfileId, opening.bots) =
        ((defaultBot bots intent.userId newBotId).1.id,
          (defaultBot bots intent.userId newBotId).2) := by
  unfold openPositionFromIntent at opened
  cases isSymbol : normalizeSymbol allowedQuotes (orElse normalized.symbol intent.symbol)
      "symbol_required_for_execution_order" "invalid_quote_asset" with
  | error message =>
    rw [isSymbol] at opened
    cases opened
  | ok symbol =>
    rw [isSymbol] at opened
    cases opened
    exact ⟨rfl, rfl, rfl, rfl, rfl, rfl, rfl, rfl⟩

end Opened

theorem hasDecimals_thousandth : HasDecimals 6 (1 / 1000) := ⟨1000, by norm_num⟩

theorem openedQuantity_ge (notional entryPrice : ℚ) :
    1 / 1000 ≤ openedQuantity notional entryPrice := by
  unfold openedQuantity
  calc (1 / 1000 : ℚ) = roundTo 6 (1 / 1000) := hasDecimals_thousandth.rounded.symm
    _ ≤ _ := roundTo_mono 6 (le_max_right _ _)

/-- A notional that buys at least one thousandth is what the quantity is worth, up to
the rounding of the quantity. -/
theorem openedQuantity_worth {notional entryPrice : ℚ} (priced : 1 ≤ entryPrice)
    (enough : entryPrice / 1000 ≤ notional) :
    |openedQuantity notional entryPrice * entryPrice - notional| ≤
      entryPrice * (1 / 2 / 10 ^ 6) := by
  have positive : 0 < entryPrice := by linarith
  have bought : 1 / 1000 ≤ notional / entryPrice := by
    rw [le_div_iff₀ positive]
    linarith
  have quantity : openedQuantity notional entryPrice = roundTo 6 (notional / entryPrice) := by
    unfold openedQuantity
    rw [max_eq_left priced, max_eq_left bought]
  have rounded := abs_roundTo_sub_le 6 (notional / entryPrice)
  have scaled : openedQuantity notional entryPrice * entryPrice - notional =
      entryPrice * (roundTo 6 (notional / entryPrice) - notional / entryPrice) := by
    rw [quantity]
    field_simp
  rw [scaled, abs_mul, abs_of_pos positive]
  exact mul_le_mul_of_nonneg_left rounded positive.le

theorem openedQuantity_least {notional entryPrice : ℚ} (priced : 1 ≤ entryPrice)
    (little : notional < entryPrice / 1000) : openedQuantity notional entryPrice = 1 / 1000 := by
  have positive : 0 < entryPrice := by linarith
  have bought : notional / entryPrice ≤ 1 / 1000 := by
    rw [div_le_iff₀ positive]
    linarith
  unfold openedQuantity
  rw [max_eq_left priced, max_eq_right bought]
  exact hasDecimals_thousandth.rounded

end Paper
