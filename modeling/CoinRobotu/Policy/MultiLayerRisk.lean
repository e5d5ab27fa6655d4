import Mathlib.Data.List.Nodup
import CoinRobotu.Numeric.Rounding
import CoinRobotu.Runtime.Text

/-!
# The multi-layer exposure check

`_compute_multi_layer_risk` projects five exposures of an intent: those of its
symbol, its strategy, its user and its portfolio, and the order's own notional.
-/

namespace Policy

open Runtime (upper lower strip orElse)
open Numeric

/-- A JSON object of numbers; `none` is a value that `float` refuses. -/
abbrev Numbers := List (String × Option ℚ)

/-- `_safe_float` of a looked-up value. -/
def safeFloat (value : Option (Option ℚ)) (fallback : ℚ) : ℚ := value.join.getD fallback

structure ExecutionPortfolio where
  portfolioId : String
  userId : String
  isDefault : Bool
  exposure : ℚ
  grossExposure : ℚ
  netExposure : ℚ
  drawdown : ℚ
  limits : Numbers
  /-- `symbol_exposure` of the risk profile. -/
  symbolExposure : Numbers
deriving DecidableEq

structure Position where
  userId : String
  symbol : String
  strategyId : Option String
  size : ℚ
  entryPrice : ℚ
  status : String
deriving DecidableEq

/-- A row of the intents, with two entries of its `normalized_order_payload`
and the side that it holds. -/
structure UserExecutionIntent where
  userId : String
  intentId : String
  intentToken : String
  status : String
  symbol : String
  notional : ℚ
  strategyBinding : Option String
  portfolioId : Option String
  side : Option String
deriving DecidableEq

/-- The tables; the server keeps the keys of each unique. -/
structure Store where
  positions : List Position
  intents : List UserExecutionIntent
  portfolios : List ExecutionPortfolio
  intentIds_nodup : (intents.map UserExecutionIntent.intentId).Nodup
  tokens_nodup : (intents.map UserExecutionIntent.intentToken).Nodup
  portfolioIds_nodup : (portfolios.map ExecutionPortfolio.portfolioId).Nodup

/-- `PENDING_INTENT_STATES`. -/
def pendingIntentStates : List String := ["PREVIEWED", "SUBMITTED", "QUEUED", "APPROVED"]

def defaultPortfolioLimits : Numbers :=
  [("max_portfolio_exposure", some 300000), ("max_drawdown_pct", some 25), ("max_leverage", some 4)]

/-- `_default_portfolio_id`. -/
def defaultPortfolioId (userId : String) : String := "default:" ++ userId

/-- What the check reads of its context. -/
structure Context where
  userId : String
  symbol : String
  strategyBinding : String
  proposedNotional : ℚ
  portfolioId : Option String
  side : String

namespace Store

variable (store : Store)

def findPortfolio (portfolioId : String) : Option ExecutionPortfolio :=
  store.portfolios.find? (·.portfolioId = portfolioId)

/-- Add a portfolio whose key is not in the table. -/
def addPortfolio (portfolio : ExecutionPortfolio)
    (absent : store.findPortfolio portfolio.portfolioId = none) : Store :=
  { store with
    portfolios := store.portfolios ++ [portfolio]
    portfolioIds_nodup := by
      rw [List.map_append, List.nodup_append]
      refine ⟨store.portfolioIds_nodup, by simp, ?_⟩
      intro key inside added isAdded same
      obtain ⟨row, isRow, rfl⟩ := List.mem_map.mp inside
      have other := List.find?_eq_none.mp absent row isRow
      simp only [List.map_cons, List.map_nil, List.mem_singleton] at isAdded
      exact other (by simpa [isAdded] using same) }

end Store

/-- The portfolio that `ensure_user_default_portfolio` creates. -/
def newPortfolio (userId targetId : String) (isDefault : Bool) : ExecutionPortfolio :=
  { portfolioId := targetId
    userId
    isDefault
    exposure := 0
    grossExposure := 0
    netExposure := 0
    drawdown := 0
    limits := defaultPortfolioLimits
    symbolExposure := [] }

def ensureUserDefaultPortfolio (store : Store) (userId : String) (portfolioId : Option String) :
    Except String (ExecutionPortfolio × Store) :=
  let normalizedUser := strip userId
  if normalizedUser = "" then .error "user_id_required_for_portfolio"
  else
    let targetId := strip (orElse portfolioId (defaultPortfolioId normalizedUser))
    match absent : store.findPortfolio targetId with
    | some row => .ok (row, store)
    | none =>
        let defaultRow := store.portfolios.find? fun row =>
          row.userId = normalizedUser ∧ row.isDefault
        match defaultRow.filter fun row => portfolioId.isNone ∨ targetId = row.portfolioId with
        | some row => .ok (row, store)
        | none =>
            .ok (newPortfolio normalizedUser targetId portfolioId.isNone,
              store.addPortfolio (newPortfolio normalizedUser targetId portfolioId.isNone) absent)

section Exposures

variable (store : Store) (context : Context) (portfolio : ExecutionPortfolio)

def openRows : List Position :=
  store.positions.filter fun row => row.userId = context.userId ∧ row.status = "open"

def pendingRows : List UserExecutionIntent :=
  store.intents.filter fun row => row.userId = context.userId ∧ row.status ∈ pendingIntentStates

def Position.notional (row : Position) : ℚ := |row.size * row.entryPrice|

def ofSymbol (symbol : String) : Bool := upper symbol = upper context.symbol

/-- Whether a row is of the strategy under evaluation; no row is without one. -/
def ofStrategy (strategy : Option String) : Bool :=
  context.strategyBinding ≠ "" ∧ strategy.getD "" = context.strategyBinding

def ofPortfolio (row : UserExecutionIntent) : Bool :=
  orElse row.portfolioId (defaultPortfolioId context.userId) = portfolio.portfolioId

def pendingNotional (counts : UserExecutionIntent → Bool) : ℚ :=
  (((pendingRows store context).filter counts).map fun row => |row.notional|).sum

def openNotional (counts : Position → Bool) : ℚ :=
  (((openRows store context).filter counts).map Position.notional).sum

def symbolExposure : ℚ :=
  openNotional store context (fun row => ofSymbol context row.symbol) +
    pendingNotional store context fun row => ofSymbol context row.symbol

def strategyExposure : ℚ :=
  openNotional store context (fun row => ofStrategy context row.strategyId) +
    pendingNotional store context fun row => ofStrategy context row.strategyBinding

def userExposure : ℚ :=
  openNotional store context (fun _ => true) + pendingNotional store context fun _ => true

def portfolioExposure : ℚ :=
  max portfolio.exposure 0 + pendingNotional store context (ofPortfolio context portfolio)

def portfolioGrossExposure : ℚ :=
  max portfolio.grossExposure (max portfolio.exposure 0) +
    pendingNotional store context (ofPortfolio context portfolio)

/-- The value of a symbol in the risk profile; of entries that are equal in
upper case the last one counts. -/
def profileSymbolExposure (symbol : String) : ℚ :=
  ((portfolio.symbolExposure.reverse.find? fun entry => upper entry.1 = symbol).map
    fun entry => entry.2.getD 0).getD 0

def portfolioSymbolExposure : ℚ :=
  profileSymbolExposure portfolio (upper context.symbol) +
    pendingNotional store context fun row =>
      ofPortfolio context portfolio row && ofSymbol context row.symbol

/-- The exposures the check projects, in its order. -/
inductive Layer where
  | symbol
  | strategy
  | user
  | portfolio
  | order
deriving DecidableEq

def Layer.all : List Layer := [.symbol, .strategy, .user, .portfolio, .order]

def Layer.key : Layer → String
  | .symbol => "symbol"
  | .strategy => "strategy"
  | .user => "user"
  | .portfolio => "portfolio"
  | .order => "order"

def current : Layer → ℚ
  | .symbol => symbolExposure store context
  | .strategy => strategyExposure store context
  | .user => userExposure store context
  | .portfolio => portfolioExposure store context portfolio
  | .order => 0

def Context.proposed : ℚ := max context.proposedNotional 0

/-- `projected`, before it is rounded. -/
def projected (layer : Layer) : ℚ := current store context portfolio layer + context.proposed

def concentrationPct : ℚ :=
  (portfolioSymbolExposure store context portfolio + context.proposed) /
    max (portfolioGrossExposure store context portfolio + context.proposed) 1 * 100

def portfolioLimits : Numbers := portfolio.limits ++ defaultPortfolioLimits

def effectivePortfolioLimit (riskRules : Numbers) : ℚ :=
  let policyLimit := safeFloat (riskRules.lookup "max_portfolio_exposure") 0
  let domainLimit := safeFloat ((portfolioLimits portfolio).lookup "max_portfolio_exposure") 300000
  if 0 < policyLimit ∧ 0 < domainLimit then min policyLimit domainLimit
  else if 0 < policyLimit then policyLimit
  else domainLimit

def threshold (riskRules : Numbers) : Layer → ℚ
  | .order => safeFloat (riskRules.lookup "max_order_notional") 50000
  | .symbol => safeFloat (riskRules.lookup "max_symbol_exposure") 120000
  | .strategy => safeFloat (riskRules.lookup "max_strategy_exposure") 180000
  | .user => safeFloat (riskRules.lookup "max_user_exposure") 250000
  | .portfolio => effectivePortfolioLimit portfolio riskRules

end Exposures

structure Breach where
  reasonCode : String
  reasonMessage : String
  ruleId : String
  projected : ℚ
  limit : ℚ
deriving DecidableEq

def layerBreach (layer : Layer) (projectedValue limit : ℚ) : Option Breach :=
  if 0 < limit ∧ limit < projectedValue then
    some ⟨"RISK_" ++ upper layer.key ++ "_BREACH", layer.key ++ " exposure limit exceeded",
      "risk." ++ layer.key, roundTo 6 projectedValue, roundTo 6 limit⟩
  else none

/-- The breach of the concentration rule; a policy without the rule has none. -/
def concentrationBreach (riskRules : Numbers) (concentration : ℚ) : Option Breach :=
  let limit := safeFloat (riskRules.lookup "max_concentration_pct") 100
  if (riskRules.lookup "max_concentration_pct").isSome ∧ 0 < limit ∧ limit < concentration then
    some ⟨"RISK_PORTFOLIO_CONCENTRATION_BREACH", "portfolio concentration limit exceeded",
      "risk.max_concentration_pct", roundTo 6 concentration, roundTo 6 limit⟩
  else none

def drawdownBreach (portfolio : ExecutionPortfolio) : Option Breach :=
  let limit := safeFloat ((portfolioLimits portfolio).lookup "max_drawdown_pct") 0
  if 0 < limit ∧ limit ≤ portfolio.drawdown then
    some ⟨"RISK_PORTFOLIO_DRAWDOWN_BREACH", "portfolio drawdown limit exceeded",
      "risk.max_drawdown_pct", roundTo 6 portfolio.drawdown, roundTo 6 limit⟩
  else none

structure PortfolioDomain where
  portfolioId : String
  grossExposure : ℚ
  netExposure : ℚ
  concentrationPct : ℚ
  drawdownPct : ℚ
  maxPortfolioExposure : ℚ
  maxConcentrationPct : ℚ
  maxDrawdownPct : ℚ

structure MultiLayerRisk where
  portfolioId : String
  thresholds : Layer → ℚ
  current : Layer → ℚ
  projected : Layer → ℚ
  portfolioDomain : PortfolioDomain
  breaches : List Breach

/-- The part of the check that follows the look-up of the portfolio. -/
def multiLayerRisk (store : Store) (context : Context) (riskRules : Numbers)
    (portfolio : ExecutionPortfolio) : MultiLayerRisk :=
  let sideSign : ℚ := if lower context.side = "sell" then -1 else 1
  let concentration := concentrationPct store context portfolio
  { portfolioId := portfolio.portfolioId
    thresholds := threshold portfolio riskRules
    current := fun layer => roundTo 6 (current store context portfolio layer)
    projected := fun layer => roundTo 6 (projected store context portfolio layer)
    portfolioDomain :=
      { portfolioId := portfolio.portfolioId
        grossExposure :=
          roundTo 6 (portfolioGrossExposure store context portfolio + context.proposed)
        netExposure := roundTo 6 (portfolio.netExposure + context.proposed * sideSign)
        concentrationPct := roundTo 6 concentration
        drawdownPct := roundTo 6 portfolio.drawdown
        maxPortfolioExposure := roundTo 6 (threshold portfolio riskRules .portfolio)
        maxConcentrationPct :=
          roundTo 6 (safeFloat (riskRules.lookup "max_concentration_pct") 100)
        maxDrawdownPct :=
          roundTo 6 (safeFloat ((portfolioLimits portfolio).lookup "max_drawdown_pct") 0) }
    breaches :=
      Layer.all.filterMap (fun layer =>
        layerBreach layer (projected store context portfolio layer)
          (threshold portfolio riskRules layer)) ++
        (concentrationBreach riskRules concentration).toList ++ (drawdownBreach portfolio).toList }

def checkedPortfolio (store : Store) (context : Context) :
    Except String (ExecutionPortfolio × Store) :=
  ensureUserDefaultPortfolio store context.userId
    (some (orElse context.portfolioId (defaultPortfolioId context.userId)))

/-- `_compute_multi_layer_risk`, with the tables after the portfolio is ensured. -/
def computeMultiLayerRisk (store : Store) (context : Context) (riskRules : Numbers) :
    Except String (MultiLayerRisk × Store) :=
  (checkedPortfolio store context).map fun ensured =>
    (multiLayerRisk ensured.2 context riskRules ensured.1, ensured.2)

/-- A check without breaches: every projected exposure, the concentration and
the drawdown are within the limits that are set. -/
theorem multiLayerRisk_passes_iff {store : Store} {context : Context} {riskRules : Numbers}
    {portfolio : ExecutionPortfolio} :
    (multiLayerRisk store context riskRules portfolio).breaches = [] ↔
      (∀ layer, layerBreach layer (projected store context portfolio layer)
        (threshold portfolio riskRules layer) = none) ∧
      concentrationBreach riskRules (concentrationPct store context portfolio) = none ∧
      drawdownBreach portfolio = none := by
  have every : ∀ layer, layer ∈ Layer.all := by
    intro layer
    cases layer <;> decide
  simp only [multiLayerRisk, List.append_eq_nil_iff, List.filterMap_eq_nil_iff,
    Option.toList_eq_nil_iff]
  constructor
  · rintro ⟨⟨layers, concentration⟩, drawdown⟩
    exact ⟨fun layer => layers layer (every layer), concentration, drawdown⟩
  · rintro ⟨layers, concentration, drawdown⟩
    exact ⟨⟨fun layer _ => layers layer, concentration⟩, drawdown⟩

theorem layerBreach_of_le {layer : Layer} {smaller larger limit : ℚ} (below : smaller ≤ larger)
    (within : layerBreach layer larger limit = none) : layerBreach layer smaller limit = none := by
  unfold layerBreach at within ⊢
  split at within
  · cases within
  · rename_i kept
    rw [if_neg]
    rintro ⟨positive, exceeded⟩
    exact kept ⟨positive, exceeded.trans_le below⟩

section Portfolios

variable {store after : Store} {userId : String} {portfolioId : Option String}
  {portfolio : ExecutionPortfolio}

theorem ensureUserDefaultPortfolio_frame
    (ensured : ensureUserDefaultPortfolio store userId portfolioId = .ok (portfolio, after)) :
    after.positions = store.positions ∧ after.intents = store.intents := by
  unfold ensureUserDefaultPortfolio at ensured
  dsimp only at ensured
  split at ensured
  · cases ensured
  · split at ensured
    · cases ensured
      exact ⟨rfl, rfl⟩
    · split at ensured <;> cases ensured <;> exact ⟨rfl, rfl⟩

theorem ensureUserDefaultPortfolio_found (named : strip userId ≠ "")
    (found : store.findPortfolio (strip (orElse portfolioId (defaultPortfolioId (strip userId)))) =
      some portfolio) :
    ensureUserDefaultPortfolio store userId portfolioId = .ok (portfolio, store) := by
  unfold ensureUserDefaultPortfolio
  dsimp only
  rw [if_neg named]
  split
  · rename_i row here
    rw [found, Option.some.injEq] at here
    rw [here]
  · rename_i absent
    rw [found] at absent
    cases absent

/-- What an ensured look-up of a named portfolio returns is in the tables it
leaves, under the key that was looked up. -/
theorem ensureUserDefaultPortfolio_leaves {target : String}
    (ensured : ensureUserDefaultPortfolio store userId (some target) = .ok (portfolio, after)) :
    strip userId ≠ "" ∧
      after.findPortfolio (strip (orElse (some target) (defaultPortfolioId (strip userId)))) =
        some portfolio := by
  unfold ensureUserDefaultPortfolio at ensured
  dsimp only at ensured
  split at ensured
  · cases ensured
  · rename_i named
    refine ⟨named, ?_⟩
    split at ensured
    · rename_i row here
      cases ensured
      exact here
    · rename_i absent
      split at ensured
      · rename_i row chosen
        obtain ⟨found, named⟩ := Option.filter_eq_some_iff.mp chosen
        have inside : row ∈ store.portfolios := List.mem_of_find?_eq_some found
        have other := List.find?_eq_none.mp absent row inside
        simp only [Option.isNone_some, Bool.false_eq_true, false_or, decide_eq_true_eq] at named
        exact absurd (by simpa using named.symm) other
      · cases ensured
        unfold Store.findPortfolio at absent ⊢
        simp [Store.addPortfolio, newPortfolio, absent]

/-- Tables with the portfolios that an ensured look-up left give the same
portfolio again. -/
theorem ensureUserDefaultPortfolio_again {later : Store} {target : String}
    (ensured : ensureUserDefaultPortfolio store userId (some target) = .ok (portfolio, after))
    (same : later.portfolios = after.portfolios) :
    ensureUserDefaultPortfolio later userId (some target) = .ok (portfolio, later) := by
  obtain ⟨named, left⟩ := ensureUserDefaultPortfolio_leaves ensured
  apply ensureUserDefaultPortfolio_found named
  unfold Store.findPortfolio at left ⊢
  rw [same]
  exact left

end Portfolios

end Policy
