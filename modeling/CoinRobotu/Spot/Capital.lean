import CoinRobotu.Paper.Positions
import CoinRobotu.Runtime.Text

/-!
# The capital of the spot strategies

The equity of a user, what a strategy has made so far, the part of the equity that it may use, and
what is open. A position belongs to the strategy of its opening event, or to the pullback strategy
if that names none. Numbers are exact; the functions that Python rounds are rounded here.
-/

namespace Spot

open Numeric
open Paper (PaperPosition)
open Runtime (upper)

structure UserRiskSetting where
  dailyLossLimitPct : ℚ
  compoundingEnabled : Bool
  baseCapital : ℚ
  deriving DecidableEq

/-- The row that `_get_or_create_risk_setting` creates. -/
def UserRiskSetting.created : UserRiskSetting := ⟨3, true, 10000⟩

/-- A position, the strategy of its opening event, and when it was closed. -/
structure Row where
  position : PaperPosition
  strategy : Option String
  closedAt : Option ℤ
  deriving DecidableEq

namespace Row

variable (row : Row)

def strategyId : String :=
  if row.strategy.getD "" = "" then "spot_pullback_v1" else row.strategy.getD ""

def isOpen : Bool := row.position.status = "open"

def notional : ℚ := row.position.entryPrice * row.position.quantity

def risk : ℚ := |row.position.entryPrice - row.position.stopLoss| * row.position.quantity

def symbolUpper : String := upper row.position.symbol

end Row

/-- What the database has of a user, and the disabled strategies of the cache. -/
structure Store where
  setting : Option UserRiskSetting
  rows : List Row
  disabled : List String
  deriving DecidableEq

namespace Store

variable (store : Store)

def riskSetting : UserRiskSetting := store.setting.getD .created

def closedRows : List Row := store.rows.filter (·.closedAt.isSome)

def openRows : List Row := store.rows.filter (·.isOpen)

def openOf (strategyId : String) : List Row := store.openRows.filter (·.strategyId = strategyId)

/-- `_closed_pnl`. -/
def closedPnl : ℚ := (store.closedRows.map (·.position.realizedPnl)).sum

/-- The equity of `compute_position_sizing`. -/
def equity : ℚ :=
  roundTo 4 (max (store.riskSetting.baseCapital +
    if store.riskSetting.compoundingEnabled then store.closedPnl else 0) (1 / 100))

/-- The `daily_loss_amount` of `daily_loss_usage`, for the day that starts then. -/
def dailyLossAmount (startOfDay : ℤ) : ℚ :=
  let today := store.closedRows.filter fun row => row.closedAt.any (startOfDay ≤ ·)
  roundTo 4 |((today.map (·.position.realizedPnl)).filter (· < 0)).sum|

end Store

/-- What is counted for a strategy while its closed positions are walked through. -/
structure Tally where
  cumulative : ℚ
  peak : ℚ
  drawdown : ℚ
  wins : ℕ
  losses : ℕ
  profitSum : ℚ
  lossSum : ℚ
  deriving DecidableEq

namespace Tally

def empty : Tally := ⟨0, 0, 0, 0, 0, 0, 0⟩

variable (tally : Tally)

/-- One closed position. -/
def add (pnl : ℚ) : Tally :=
  let cumulative := tally.cumulative + pnl
  let peak := max tally.peak cumulative
  { cumulative
    peak
    drawdown := max tally.drawdown (peak - cumulative)
    wins := if 0 ≤ pnl then tally.wins + 1 else tally.wins
    losses := if 0 ≤ pnl then tally.losses else tally.losses + 1
    profitSum := if 0 ≤ pnl then tally.profitSum + pnl else tally.profitSum
    lossSum := if 0 ≤ pnl then tally.lossSum else tally.lossSum + |pnl| }

def profitFactor : ℚ :=
  roundTo 4 (if 0 < tally.losses then tally.profitSum / tally.lossSum
    else if 0 < tally.wins then 2 else 1)

def drawdownPct : ℚ := roundTo 4 (tally.drawdown / 10000 * 100)

end Tally

namespace Store

variable (store : Store)

/-- `_strategy_drawdown_stats` of one strategy: its closed positions in the order of their ends. -/
def strategyStats (strategyId : String) : Tally :=
  let rows := store.closedRows.mergeSort fun row other =>
    decide (row.closedAt.getD 0 ≤ other.closedAt.getD 0)
  ((rows.filter (·.strategyId = strategyId)).map (·.position.realizedPnl)).foldl Tally.add .empty

end Store

structure CapitalAllocation where
  strategyId : String
  baseAllocation : ℚ
  effectiveAllocation : ℚ
  profitFactor : ℚ
  dynamicShift : ℚ
  deriving DecidableEq

/-- `DEFAULT_CAPITAL_ALLOCATION.get(strategy_id, 0.33)`. -/
def defaultCapitalAllocation (strategyId : String) : ℚ :=
  if strategyId = "spot_pullback_v1" then 45 / 100
  else if strategyId = "spot_range_reversion_v1" then 35 / 100
  else if strategyId = "spot_volatility_breakout_v1" then 20 / 100
  else 33 / 100

def resolveCapitalAllocation (store : Store) (strategyId : String) : CapitalAllocation :=
  let base := defaultCapitalAllocation strategyId
  let profitFactor := (store.strategyStats strategyId).profitFactor
  let dynamicShift : ℚ :=
    if 3 / 2 < profitFactor then 5 / 100 else if profitFactor < 1 then -5 / 100 else 0
  let effective := min (max (base + dynamicShift) (1 / 10)) (6 / 10)
  { strategyId
    baseAllocation := roundTo 4 base
    effectiveAllocation := roundTo 4 effective
    profitFactor
    dynamicShift := roundTo 4 dynamicShift }

/-- `slot_weight_for_rank`. -/
def slotWeightForRank : Option ℤ → ℚ
  | none => 40 / 100
  | some rank => if rank ≤ 1 then 40 / 100 else if rank = 2 then 35 / 100 else 25 / 100

section Exposure

variable (equity : ℚ) (rows : List Row)

def openRisk : ℚ := (rows.map (·.risk)).sum

def openNotional : ℚ := (rows.map (·.notional)).sum

/-- `compute_open_risk_pct`. -/
def computeOpenRiskPct : ℚ := if equity ≤ 0 then 0 else openRisk rows / equity * 100

/-- `portfolio_drawdown_pct`. -/
def portfolioDrawdownPct (store : Store) : ℚ :=
  let peakEquity := max 10000 (10000 + max store.closedPnl 0)
  if store.closedRows = [] then 0 else max ((peakEquity - max equity 0) / peakEquity * 100) 0

/-- `sector_exposure_pct`, for the symbols of the exposure groups. -/
def sectorExposurePct (groups : List (List String)) (symbol : String) : ℚ :=
  match (groups.map fun group => group.map upper).find? (upper symbol ∈ ·) with
  | none => 0
  | some members =>
    if equity ≤ 0 then 0
    else openNotional (rows.filter (·.symbolUpper ∈ members)) / equity * 100

/-- `correlated_positions_count`, for the correlations of the symbol with others. -/
def correlatedPositionsCount (correlation : String → ℚ) (side : String) : ℕ :=
  (rows.filter fun row =>
    row.position.side = side ∧ 8 / 10 ≤ |correlation row.position.symbol|).length

end Exposure

end Spot
