import Mathlib.Data.List.Nodup
import CoinRobotu.Numeric.Rounding

/-!
# Paper positions and the paths that close them

A paper position is opened once and reduced or closed by one of five paths: the
intents of `execution_intent_service` close, partially close or reverse it, a
price refresh closes it at its stop or its target, and an operator or the kill
switch closes it as it was last marked. Every path looks for open positions
only. Each operation is one transaction, so an operation that raises leaves the
table as it was.
-/

namespace Paper

open Numeric

structure PaperPosition where
  id : String
  userId : String
  symbol : String
  marketType : String
  side : String
  quantity : ℚ
  leverage : ℤ
  entryPrice : ℚ
  stopLoss : ℚ
  takeProfit : ℚ
  status : String
  unrealizedPnl : ℚ
  realizedPnl : ℚ
deriving DecidableEq

/-- The columns of an intent that an action on a position reads. -/
structure PositionIntent where
  userId : String
  intentType : String
  positionId : Option String
  price : Option ℚ
  size : Option ℚ
  stopPrice : Option ℚ
  takeProfitPrice : Option ℚ
deriving DecidableEq

/-- The committed positions; the server keeps their primary keys unique. -/
structure Book where
  rows : List PaperPosition
  ids_nodup : (rows.map PaperPosition.id).Nodup

namespace PaperPosition

def direction (position : PaperPosition) : ℚ := if position.side = "long" then 1 else -1

/-- `_calc_realized_pnl`. -/
def calcRealizedPnl (position : PaperPosition) (exitPrice quantity : ℚ) : ℚ :=
  roundTo 6 ((exitPrice - position.entryPrice) * quantity * position.direction *
    (max position.leverage 1 : ℤ))

/-- The profit of `refresh_open_positions` before it is rounded. -/
def unrealizedAt (position : PaperPosition) (lastPrice : ℚ) : ℚ :=
  (lastPrice - position.entryPrice) * position.direction * position.quantity * position.leverage

/-- The close leg of `CLOSE_POSITION` and of `REVERSE_POSITION`. -/
def close (position : PaperPosition) (exitPrice : ℚ) : PaperPosition :=
  { position with
    realizedPnl := position.realizedPnl + position.calcRealizedPnl exitPrice position.quantity
    unrealizedPnl := 0
    quantity := 0
    status := "closed" }

def closeQuantity (position : PaperPosition) (requested : ℚ) : ℚ := min requested position.quantity

/-- `PARTIAL_CLOSE`: what is left below `1e-8` closes the position. -/
def partialClose (position : PaperPosition) (exitPrice requested : ℚ) : PaperPosition :=
  let closeQty := position.closeQuantity requested
  let remaining := max (position.quantity - closeQty) 0
  let reduced : PaperPosition :=
    { position with
      realizedPnl := position.realizedPnl + position.calcRealizedPnl exitPrice closeQty
      quantity := remaining }
  if remaining ≤ 1 / 10 ^ 8 then { reduced with status := "closed", unrealizedPnl := 0 }
  else reduced

def closeReason (position : PaperPosition) (lastPrice : ℚ) : Option String :=
  if position.side = "long" ∧ lastPrice ≤ position.stopLoss then some "stop_hit"
  else if position.side = "long" ∧ lastPrice ≥ position.takeProfit then some "tp_hit"
  else if position.side = "short" ∧ lastPrice ≥ position.stopLoss then some "stop_hit"
  else if position.side = "short" ∧ lastPrice ≤ position.takeProfit then some "tp_hit"
  else none

/-- One position of `refresh_open_positions`. -/
def refresh (position : PaperPosition) (lastPrice : ℚ) : PaperPosition :=
  let unrealized := roundTo 6 (position.unrealizedAt lastPrice)
  match position.closeReason lastPrice with
  | some reason =>
      { position with unrealizedPnl := unrealized, status := reason, realizedPnl := unrealized }
  | none => { position with unrealizedPnl := unrealized }

/-- `manual_close_position`. -/
def manualClose (position : PaperPosition) : PaperPosition :=
  { position with status := "closed", realizedPnl := position.unrealizedPnl }

def moveStop (position : PaperPosition) (price : ℚ) : PaperPosition :=
  { position with stopLoss := price }

def moveTakeProfit (position : PaperPosition) (price : ℚ) : PaperPosition :=
  { position with takeProfit := price }

section Keys

variable (position : PaperPosition)

@[simp] theorem close_id (exitPrice : ℚ) : (position.close exitPrice).id = position.id := rfl

@[simp] theorem partialClose_id (exitPrice requested : ℚ) :
    (position.partialClose exitPrice requested).id = position.id := by
  dsimp only [partialClose]
  split <;> rfl

@[simp] theorem refresh_id (lastPrice : ℚ) : (position.refresh lastPrice).id = position.id := by
  dsimp only [refresh]
  split <;> rfl

@[simp] theorem manualClose_id : position.manualClose.id = position.id := rfl

@[simp] theorem moveStop_id (price : ℚ) : (position.moveStop price).id = position.id := rfl

@[simp] theorem moveTakeProfit_id (price : ℚ) :
    (position.moveTakeProfit price).id = position.id := rfl

end Keys

end PaperPosition

namespace Book

def find (book : Book) (id : String) : Option PaperPosition := book.rows.find? (·.id = id)

def update (book : Book) (change : PaperPosition → PaperPosition)
    (keeps : ∀ position, (change position).id = position.id) : Book :=
  ⟨book.rows.map change, by
    simpa [List.map_map, Function.comp_def, keeps] using book.ids_nodup⟩

def updateRow (book : Book) (id : String) (change : PaperPosition → PaperPosition)
    (keeps : ∀ position, (change position).id = position.id) : Book :=
  book.update (fun position => if position.id = id then change position else position)
    fun position => by
    split
    · exact keeps position
    · rfl

def insert (book : Book) (position : PaperPosition) : Except String Book :=
  if fresh : ((book.rows ++ [position]).map PaperPosition.id).Nodup then .ok ⟨_, fresh⟩
  else .error "duplicate key value violates unique constraint"

def openPosition (book : Book) (intent : PositionIntent) (id : String) : Option PaperPosition :=
  book.rows.find? fun position =>
    position.id = id ∧ position.userId = intent.userId ∧ position.status = "open"

end Book

/-- The leg that `REVERSE_POSITION` opens. -/
def reversedPosition (intent : PositionIntent) (position : PaperPosition) (newId : String)
    (closeQty openPrice : ℚ) : PaperPosition :=
  let newSide := if position.side = "long" then "short" else "long"
  { id := newId
    userId := intent.userId
    symbol := position.symbol
    marketType := position.marketType
    side := newSide
    quantity := max (if intent.size.getD 0 = 0 then closeQty else intent.size.getD 0) (1 / 1000)
    leverage := if position.leverage = 0 then 1 else position.leverage
    entryPrice := openPrice
    stopLoss := intent.stopPrice.getD
      (roundTo 6 (openPrice * (if newSide = "short" then 101 / 100 else 99 / 100)))
    takeProfit := intent.takeProfitPrice.getD
      (roundTo 6 (openPrice * (if newSide = "short" then 98 / 100 else 102 / 100)))
    status := "open"
    unrealizedPnl := 0
    realizedPnl := 0 }

section Operations

variable (safePrice : String → ℚ)

/-- The price an intent closes at: its own, or else the last one of the market. -/
def exitPriceOf (intent : PositionIntent) (position : PaperPosition) : ℚ :=
  intent.price.getD (safePrice position.symbol)

/-- `_apply_position_action_intent`, with the identifier a new leg would get. -/
def applyPositionActionIntent (book : Book) (intent : PositionIntent) (newId : String) :
    Except String Book :=
  match intent.positionId with
  | none => .error "position_id_required"
  | some "" => .error "position_id_required"
  | some id =>
      match book.openPosition intent id with
      | none => .error "position_not_found"
      | some position =>
          let exitPrice := exitPriceOf safePrice intent position
          if intent.intentType = "CLOSE_POSITION" then
            .ok (book.updateRow id (·.close exitPrice)
              fun position => position.close_id exitPrice)
          else if intent.intentType = "PARTIAL_CLOSE" then
            if position.closeQuantity (intent.size.getD 0) ≤ 0 then
              .error "position_action_size_invalid"
            else
              .ok (book.updateRow id (·.partialClose exitPrice (intent.size.getD 0))
                fun position => position.partialClose_id exitPrice (intent.size.getD 0))
          else if intent.intentType = "REVERSE_POSITION" then
            (book.updateRow id (·.close exitPrice)
                fun position => position.close_id exitPrice).insert
              (reversedPosition intent position newId position.quantity (safePrice position.symbol))
          else if intent.intentType = "MOVE_STOP" then
            match intent.stopPrice with
            | none => .error "stop_price_required"
            | some price =>
                .ok (book.updateRow id (·.moveStop price) fun position =>
                  position.moveStop_id price)
          else if intent.intentType = "MOVE_TAKE_PROFIT" then
            match intent.takeProfitPrice with
            | none => .error "take_profit_price_required"
            | some price =>
                .ok (book.updateRow id (·.moveTakeProfit price)
                  fun position => position.moveTakeProfit_id price)
          else .error "unsupported_intent_type"

/-- A refresh of one row: closed positions and symbols without a price are passed over. -/
def refreshRow (latestPrices : String → Option ℚ) (position : PaperPosition) : PaperPosition :=
  if position.status = "open" then
    match latestPrices position.symbol with
    | none => position
    | some lastPrice => position.refresh lastPrice
  else position

theorem refreshRow_id (latestPrices : String → Option ℚ) (position : PaperPosition) :
    (refreshRow latestPrices position).id = position.id := by
  unfold refreshRow
  split
  · cases latestPrices position.symbol with
    | none => rfl
    | some lastPrice => exact position.refresh_id lastPrice
  · rfl

/-- `refresh_open_positions`. -/
def refreshOpenPositions (book : Book) (latestPrices : String → Option ℚ) : Book :=
  book.update (refreshRow latestPrices) (refreshRow_id latestPrices)

def closePosition (book : Book) (id : String) : Except String Book :=
  match book.find id with
  | none => .error "Position not found"
  | some position =>
      if position.status ≠ "open" then .error "Position already closed"
      else .ok (book.updateRow id (·.manualClose) PaperPosition.manualClose_id)

def liquidateRow (position : PaperPosition) : PaperPosition :=
  if position.status = "open" then position.manualClose else position

theorem liquidateRow_id (position : PaperPosition) :
    (liquidateRow position).id = position.id := by
  unfold liquidateRow
  split <;> rfl

/-- `liquidate_open_positions_for_kill_switch`. -/
def liquidateOpenPositions (book : Book) : Book := book.update liquidateRow liquidateRow_id

/-- One operation on the table; the prices are what the market says at that time. -/
inductive Operation where
  | act (intent : PositionIntent) (safePrice : String → ℚ) (newId : String)
  | refresh (latestPrices : String → Option ℚ)
  | manualClose (id : String)
  | killSwitch

def Book.after (book : Book) : Operation → Book
  | .act intent safePrice newId =>
      (applyPositionActionIntent safePrice book intent newId).toOption.getD book
  | .refresh latestPrices => refreshOpenPositions book latestPrices
  | .manualClose id => (closePosition book id).toOption.getD book
  | .killSwitch => liquidateOpenPositions book

end Operations

end Paper
