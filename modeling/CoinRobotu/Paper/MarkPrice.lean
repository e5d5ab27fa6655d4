import CoinRobotu.Paper.Positions
import CoinRobotu.Runtime.Text

/-!
# The mark price of a paper position

A refresh multiplies the move of the price by side, quantity and leverage.
-/

namespace Paper

open Numeric
open Runtime (upper)

/-- The row of a position that the risk figures read. -/
structure Position where
  positionId : String
  userId : String
  symbol : String
  size : ℚ
  entryPrice : ℚ
  currentPrice : ℚ
  unrealizedPnl : ℚ
  leverage : ℤ
  strategyId : Option String
  clusterId : Option String
  status : String
  deriving DecidableEq

def PaperPosition.derivedPrice (position : PaperPosition) : ℚ :=
  if 0 < position.quantity then
    position.entryPrice + position.unrealizedPnl / position.quantity
  else position.entryPrice

/-- `sync_position_state`; `safePrice` is what the cache has, or zero. -/
def syncPositionState (safePrice : String → ℚ) (row : Option Position)
    (paperPosition : PaperPosition) (strategyId clusterId : Option String) : Position :=
  let cached := safePrice (upper paperPosition.symbol)
  let marketPrice := if cached ≤ 0 then paperPosition.derivedPrice else cached
  { positionId := paperPosition.id
    userId := (row.map Position.userId).getD paperPosition.userId
    symbol := upper paperPosition.symbol
    size := paperPosition.quantity
    entryPrice := paperPosition.entryPrice
    currentPrice := if marketPrice ≤ 0 then paperPosition.entryPrice else marketPrice
    unrealizedPnl := paperPosition.unrealizedPnl
    leverage := if paperPosition.leverage = 0 then 1 else paperPosition.leverage
    strategyId := strategyId.or (row.bind Position.strategyId)
    clusterId := clusterId.or (row.bind Position.clusterId)
    status := if paperPosition.status = "open" then "open" else "closed" }

def uncached : String → ℚ := fun _ => 0

section Derived

variable {position : PaperPosition} {lastPrice : ℚ}

theorem refresh_unrealizedPnl : (position.refresh lastPrice).unrealizedPnl =
    roundTo 6 (position.unrealizedAt lastPrice) := by
  unfold PaperPosition.refresh
  dsimp only
  split <;> rfl

theorem sync_currentPrice {row : Option Position} {strategyId clusterId : Option String} :
    (syncPositionState uncached row position strategyId clusterId).currentPrice =
      if position.derivedPrice ≤ 0 then position.entryPrice else position.derivedPrice := by
  simp [syncPositionState, uncached]

/-- From an unrounded profit, the move of the price comes back multiplied by side and leverage. -/
theorem derivedPrice_eq (held : 0 < position.quantity) :
    { position with unrealizedPnl := position.unrealizedAt lastPrice }.derivedPrice =
      position.entryPrice +
        position.direction * position.leverage * (lastPrice - position.entryPrice) := by
  have moved : position.unrealizedAt lastPrice / position.quantity =
      position.direction * position.leverage * (lastPrice - position.entryPrice) := by
    rw [PaperPosition.unrealizedAt]
    field_simp
  simp [PaperPosition.derivedPrice, held, moved]

/-- The stored profit is exact up to its rounding, and from the exact profit the last price comes
back exactly for a long position without leverage, or if the price has not moved. -/
theorem derived_price_is_last_price_iff (position : PaperPosition) (lastPrice : ℚ)
    (row : Option Position) (strategyId clusterId : Option String) :
    |(position.refresh lastPrice).unrealizedPnl - position.unrealizedAt lastPrice| ≤
        1 / 2 / 10 ^ 6 ∧
      ((syncPositionState uncached row
          { position with unrealizedPnl := position.unrealizedAt lastPrice }
          strategyId clusterId).currentPrice = lastPrice ↔
        lastPrice = position.entryPrice ∨ 0 < lastPrice ∧ 0 < position.quantity ∧
          position.direction * position.leverage = 1) := by
  refine ⟨refresh_unrealizedPnl ▸ abs_roundTo_sub_le 6 _, ?_⟩
  rw [sync_currentPrice]
  by_cases held : 0 < position.quantity
  · rw [derivedPrice_eq held]
    generalize position.direction * position.leverage = factor
    constructor
    · intro same
      split at same
      · exact .inl same.symm
      case isFalse positive =>
        have moved : (factor - 1) * (lastPrice - position.entryPrice) = 0 := by linarith
        rcases mul_eq_zero.mp moved with unit | still
        · exact .inr ⟨by linarith, held, by linarith⟩
        · exact .inl (by linarith)
    · rintro (rfl | ⟨positive, -, rfl⟩)
      · simp
      · rw [if_neg (by linarith)]
        ring
  · have none_held : { position with
        unrealizedPnl := position.unrealizedAt lastPrice }.derivedPrice = position.entryPrice :=
      if_neg held
    simp only [none_held, ite_self, held, false_and, and_false, or_false]
    exact eq_comm

/-- A short position whose market has fallen by a tenth is marked a tenth above its entry. -/
theorem short_position_marked_above :
    let position : PaperPosition := ⟨"position-1", "user-1", "BTCUSDT", "futures", "short", 10, 1,
      100, 120, 80, "open", 0, 0⟩
    (syncPositionState uncached none (position.refresh 90) none none).currentPrice = 110 := by
  decide +kernel

end Derived

end Paper
