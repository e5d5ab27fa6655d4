import CoinRobotu.Numeric.Fills
import CoinRobotu.Signal.AtMostOnce

/-!
# Realized and unrealized profit

The report takes the realized part from the orders of a user and symbol and the
unrealized part from the position.
-/

open Interleaving

namespace Signal

open Runtime (upper lower)
open Numeric

/-- What the report reads of a `CommercialTrade`. -/
structure CommercialTrade where
  userId : String
  symbol : String
  fundingFeeUsd : ℚ
  tradeTime : ℤ
deriving DecidableEq

/-- What the report reads, and when it does. -/
structure Books where
  database : Database
  trades : List CommercialTrade
  now : ℤ

/-- A row of `compute_runtime_pnl_positions`. -/
structure PnlRow where
  userId : String
  symbol : String
  positionQty : ℚ
  avgEntryPrice : ℚ
  markPrice : ℚ
  realizedPnl : ℚ
  unrealizedPnl : ℚ
  fees : ℚ
  funding : ℚ
  netPnl : ℚ
deriving DecidableEq

/-- What `compute_runtime_pnl_summary` returns. -/
structure PnlSummary where
  scope : String
  requesterUserId : String
  openPositions : Nat
  realizedPnl : ℚ
  unrealizedPnl : ℚ
  fees : ℚ
  funding : ℚ
  netPnl : ℚ
  bySymbol : List (String × ℚ)
  byUser : List (String × ℚ)
deriving DecidableEq

/-- `size` times `avg_fill_price`. -/
def Order.notional (order : Order) : ℚ := order.size * order.avgFillPrice.getD 0

def sideNotional (side : String) (orders : List Order) : ℚ :=
  ((orders.filter fun order => upper order.side = side).map Order.notional).sum

/-- `_compute_realized_pnl`. -/
def computeRealizedPnl (orders : List Order) : ℚ :=
  sideNotional "SELL" orders - sideNotional "BUY" orders

/-- The default `fee_rate`. -/
def feeRate : ℚ := 1 / 1000

/-- `_compute_fees`. -/
def computeFees (orders : List Order) : ℚ := (orders.map Order.notional).sum * feeRate

/-- `_compute_funding`, over the last day. -/
def Books.computeFunding (books : Books) (userId symbol : String) : ℚ :=
  ((books.trades.filter fun trade =>
    trade.userId = userId ∧ trade.symbol = symbol ∧ books.now - 24 * 3600 ≤ trade.tradeTime).map
      CommercialTrade.fundingFeeUsd).sum

def Books.countedOrders (books : Books) (userId symbol : String) : List Order :=
  books.database.orders.filter fun order =>
    order.userId = userId ∧ order.symbol = symbol ∧ order.state ∈ ["FILLED", "PARTIALLY_FILLED"]

/-- The numbers of one position, before they are rounded. -/
def Books.pnlOf (books : Books) (position : Position) : PnlRow :=
  let orders := books.countedOrders position.userId position.symbol
  let realizedPnl := computeRealizedPnl orders
  let fees := computeFees orders
  let funding := books.computeFunding position.userId position.symbol
  let unrealizedPnl := (position.currentPrice - position.entryPrice) * position.size
  { userId := position.userId
    symbol := position.symbol
    positionQty := position.size
    avgEntryPrice := position.entryPrice
    markPrice := position.currentPrice
    realizedPnl
    unrealizedPnl
    fees
    funding
    netPnl := realizedPnl + unrealizedPnl - fees + funding }

/-- The row as it is reported. -/
def PnlRow.rounded (row : PnlRow) : PnlRow :=
  { userId := row.userId
    symbol := row.symbol
    positionQty := roundTo 8 row.positionQty
    avgEntryPrice := roundTo 8 row.avgEntryPrice
    markPrice := roundTo 8 row.markPrice
    realizedPnl := roundTo 8 row.realizedPnl
    unrealizedPnl := roundTo 8 row.unrealizedPnl
    fees := roundTo 8 row.fees
    funding := roundTo 8 row.funding
    netPnl := roundTo 8 row.netPnl }

/-- `compute_runtime_pnl_positions`; an empty filter is none. -/
def Books.computeRuntimePnlPositions (books : Books) (userId symbol : String) : List PnlRow :=
  (books.database.positions.filter fun position =>
    (userId = "" ∨ position.userId = userId) ∧ (symbol = "" ∨ position.symbol = upper symbol)).map
      fun position => (books.pnlOf position).rounded

/-- `totals[key] = totals.get(key, 0.0) + amount`. -/
def tally (key : String) (amount : ℚ) : List (String × ℚ) → List (String × ℚ)
  | [] => [(key, 0 + amount)]
  | (other, total) :: totals =>
      if other = key then (other, total + amount) :: totals
      else (other, total) :: tally key amount totals

def netBy (key : PnlRow → String) (rows : List PnlRow) : List (String × ℚ) :=
  rows.foldl (fun totals row => tally (key row) row.netPnl totals) []

def roundedValues (totals : List (String × ℚ)) : List (String × ℚ) :=
  totals.map fun entry => (entry.1, roundTo 8 entry.2)

def adminRoles : List String := ["super_admin", "admin", "ops"]

def Books.computeRuntimePnlSummary (books : Books) (requesterRole requesterUserId : String) :
    PnlSummary :=
  let isAdmin := lower requesterRole ∈ adminRoles
  let rows := books.computeRuntimePnlPositions (if isAdmin then "" else requesterUserId) ""
  let totalNet := (rows.map PnlRow.netPnl).sum
  { scope := if isAdmin then "admin_all" else "user_self"
    requesterUserId
    openPositions := rows.length
    realizedPnl := roundTo 8 (rows.map PnlRow.realizedPnl).sum
    unrealizedPnl := roundTo 8 (rows.map PnlRow.unrealizedPnl).sum
    fees := roundTo 8 (rows.map PnlRow.fees).sum
    funding := roundTo 8 (rows.map PnlRow.funding).sum
    netPnl := roundTo 8 totalNet
    bySymbol := roundedValues (netBy PnlRow.symbol rows)
    byUser :=
      if isAdmin then roundedValues (netBy PnlRow.userId rows)
      else [(requesterUserId, roundTo 8 totalNet)] }

theorem tally_sum (key : String) (amount : ℚ) (totals : List (String × ℚ)) :
    ((tally key amount totals).map Prod.snd).sum = (totals.map Prod.snd).sum + amount := by
  induction totals with
  | nil => simp [tally]
  | cons entry totals ih =>
    obtain ⟨other, total⟩ := entry
    unfold tally
    split
    · simp only [List.map_cons, List.sum_cons]
      ring
    · simp only [List.map_cons, List.sum_cons, ih]
      ring

theorem tally_decimals {key : String} {amount : ℚ} {totals : List (String × ℚ)}
    (added : HasDecimals 8 amount) (each : ∀ entry ∈ totals, HasDecimals 8 entry.2) :
    ∀ entry ∈ tally key amount totals, HasDecimals 8 entry.2 := by
  induction totals with
  | nil =>
    intro entry inside
    cases List.mem_singleton.mp inside
    simpa using added
  | cons entry totals ih =>
    obtain ⟨other, total⟩ := entry
    have first : HasDecimals 8 total := each (other, total) List.mem_cons_self
    have rest := ih fun entry inside => each entry (List.mem_cons_of_mem _ inside)
    unfold tally
    split
    · intro entry inside
      rcases List.mem_cons.mp inside with rfl | later
      · exact first.add added
      · exact each entry (List.mem_cons_of_mem _ later)
    · intro entry inside
      rcases List.mem_cons.mp inside with rfl | later
      · exact first
      · exact rest entry later

/-- The totals by a key add up to the net profit of the rows. -/
theorem netBy_sum (key : PnlRow → String) (rows : List PnlRow) :
    ((netBy key rows).map Prod.snd).sum = (rows.map PnlRow.netPnl).sum := by
  have tallied : ∀ totals, ((rows.foldl (fun totals row => tally (key row) row.netPnl totals)
      totals).map Prod.snd).sum = (totals.map Prod.snd).sum + (rows.map PnlRow.netPnl).sum := by
    induction rows with
    | nil => simp
    | cons row rows ih =>
      intro totals
      rw [List.foldl_cons, ih, tally_sum, List.map_cons, List.sum_cons]
      ring
  exact (tallied []).trans (by simp)

theorem netBy_decimals {key : PnlRow → String} {rows : List PnlRow}
    (each : ∀ row ∈ rows, HasDecimals 8 row.netPnl) :
    ∀ entry ∈ netBy key rows, HasDecimals 8 entry.2 := by
  have tallied : ∀ totals : List (String × ℚ), (∀ entry ∈ totals, HasDecimals 8 entry.2) →
      ∀ entry ∈ rows.foldl (fun totals row => tally (key row) row.netPnl totals) totals,
        HasDecimals 8 entry.2 := by
    induction rows with
    | nil => exact fun _ hold => hold
    | cons row rows ih =>
      intro totals hold
      apply ih fun other inside => each other (List.mem_cons_of_mem _ inside)
      exact tally_decimals (each row List.mem_cons_self) hold
  exact tallied [] nofun

theorem roundedValues_sum {totals : List (String × ℚ)}
    (each : ∀ entry ∈ totals, HasDecimals 8 entry.2) :
    ((roundedValues totals).map Prod.snd).sum = (totals.map Prod.snd).sum := by
  have same : (roundedValues totals).map Prod.snd = totals.map Prod.snd := by
    unfold roundedValues
    rw [List.map_map]
    apply List.map_congr_left
    exact fun entry inside => (each entry inside).rounded
  rw [same]

section Equity

def Order.sign (order : Order) : ℚ :=
  if upper order.side = "BUY" then 1 else if upper order.side = "SELL" then -1 else 0

def Order.fill (order : Order) : Fill ℚ :=
  ⟨order.sign * order.filledSize, order.avgFillPrice.getD 0⟩

def Order.countedSize (order : Order) : ℚ :=
  if order.state ∈ ["FILLED", "PARTIALLY_FILLED"] then order.size else 0

/-- The value of what was filled and is not counted; negative where more is counted. -/
def Order.uncounted (order : Order) : ℚ :=
  (order.filledSize - order.countedSize) * order.avgFillPrice.getD 0

def Books.ordersOf (books : Books) (position : Position) : List Order :=
  books.database.orders.filter fun order =>
    order.userId = position.userId ∧ order.symbol = position.symbol

def Books.fillsOf (books : Books) (position : Position) : List (Fill ℚ) :=
  (books.ordersOf position).map Order.fill

def Books.turnover (books : Books) (position : Position) : ℚ :=
  ((books.ordersOf position).map fun order => order.filledSize * order.avgFillPrice.getD 0).sum

/-- The report is the change in equity: its two parts account for every cash flow
once, the net profit takes the fees of the fills off, and an order without a fill
contributes nothing. -/
structure Books.CountsOnce (books : Books) (position : Position) : Prop where
  parts : (books.pnlOf position).realizedPnl + (books.pnlOf position).unrealizedPnl =
    equity position.currentPrice (books.fillsOf position)
  net : (books.pnlOf position).netPnl =
    equity position.currentPrice (books.fillsOf position) - books.turnover position * feeRate +
      books.computeFunding position.userId position.symbol
  unfilled : ∀ order ∈ books.countedOrders position.userId position.symbol, order.filledSize = 0 →
    computeRealizedPnl [order] = 0 ∧ computeFees [order] = 0

/-- The stored rows make up for what the report counts twice or beside the fills. -/
structure Books.MakesUp (books : Books) (position : Position) : Prop where
  entry : position.entryPrice * position.size =
    position.currentPrice * (position.size - quantity (books.fillsOf position)) +
      ((books.ordersOf position).map fun order => order.sign * order.uncounted).sum
  turnover : ((books.ordersOf position).map Order.uncounted).sum = 0
  unfilled : ∀ order ∈ books.countedOrders position.userId position.symbol, order.filledSize = 0 →
    order.size = 0 ∨ order.avgFillPrice.getD 0 = 0

variable {books : Books} {position : Position}

theorem computeRealizedPnl_single (order : Order) :
    computeRealizedPnl [order] = -(order.sign * order.notional) := by
  unfold computeRealizedPnl sideNotional Order.sign
  by_cases isBuy : upper order.side = "BUY"
  · simp [isBuy]
  · by_cases isSell : upper order.side = "SELL"
    · simp [isSell]
    · simp [isBuy, isSell]

theorem computeRealizedPnl_append (orders others : List Order) :
    computeRealizedPnl (orders ++ others) = computeRealizedPnl orders +
      computeRealizedPnl others := by
  simp only [computeRealizedPnl, sideNotional, List.filter_append, List.map_append, List.sum_append]
  ring

theorem realized_of_filter (orders : List Order) :
    computeRealizedPnl (orders.filter fun order => order.state ∈ ["FILLED", "PARTIALLY_FILLED"]) =
      cashFlow (orders.map Order.fill) +
        (orders.map fun order => order.sign * order.uncounted).sum := by
  induction orders with
  | nil => simp [computeRealizedPnl, sideNotional]
  | cons order orders ih =>
    have head : computeRealizedPnl
        ([order].filter fun order => order.state ∈ ["FILLED", "PARTIALLY_FILLED"]) =
          -(order.sign * order.filledSize * order.avgFillPrice.getD 0) +
            order.sign * order.uncounted := by
      by_cases isCounted : order.state ∈ ["FILLED", "PARTIALLY_FILLED"]
      · rw [List.filter_cons_of_pos (by simpa using isCounted), List.filter_nil,
          computeRealizedPnl_single]
        simp only [Order.notional, Order.uncounted, Order.countedSize, if_pos isCounted]
        ring
      · rw [List.filter_cons_of_neg (by simpa using isCounted), List.filter_nil]
        simp only [Order.uncounted, Order.countedSize, if_neg isCounted]
        simp [computeRealizedPnl, sideNotional]
        ring
    have split : order :: orders = [order] ++ orders := rfl
    rw [split, List.filter_append, computeRealizedPnl_append, head, ih,
      List.map_append, List.map_append, cashFlow_append, List.sum_append]
    simp only [List.map_cons, List.map_nil, cashFlow_single, List.sum_singleton, Order.fill]
    ring

theorem fees_of_filter (orders : List Order) :
    computeFees (orders.filter fun order => order.state ∈ ["FILLED", "PARTIALLY_FILLED"]) =
      ((orders.map fun order => order.filledSize * order.avgFillPrice.getD 0).sum -
        (orders.map Order.uncounted).sum) * feeRate := by
  unfold computeFees
  congr 1
  induction orders with
  | nil => simp
  | cons order orders ih =>
    simp only [List.map_cons, List.sum_cons]
    by_cases isCounted : order.state ∈ ["FILLED", "PARTIALLY_FILLED"]
    · rw [List.filter_cons_of_pos (by simpa using isCounted), List.map_cons, List.sum_cons,
        ih]
      simp only [Order.notional, Order.uncounted, Order.countedSize, if_pos isCounted]
      ring
    · rw [List.filter_cons_of_neg (by simpa using isCounted), ih]
      simp only [Order.uncounted, Order.countedSize, if_neg isCounted]
      ring

theorem Books.countedOrders_eq (books : Books) (position : Position) :
    books.countedOrders position.userId position.symbol =
      (books.ordersOf position).filter fun order =>
        order.state ∈ ["FILLED", "PARTIALLY_FILLED"] := by
  unfold Books.countedOrders Books.ordersOf
  rw [List.filter_filter]
  congr 1
  funext order
  simp only [← Bool.decide_and]
  congr 1
  simp only [eq_iff_iff]
  tauto

theorem Books.realizedPnl_eq (books : Books) (position : Position) :
    (books.pnlOf position).realizedPnl = cashFlow (books.fillsOf position) +
      ((books.ordersOf position).map fun order => order.sign * order.uncounted).sum := by
  have isRealized : (books.pnlOf position).realizedPnl =
      computeRealizedPnl (books.countedOrders position.userId position.symbol) := rfl
  rw [isRealized, books.countedOrders_eq, realized_of_filter]
  rfl

theorem Books.fees_eq (books : Books) (position : Position) :
    (books.pnlOf position).fees = (books.turnover position -
      ((books.ordersOf position).map Order.uncounted).sum) * feeRate := by
  have isFees : (books.pnlOf position).fees =
      computeFees (books.countedOrders position.userId position.symbol) := rfl
  rw [isFees, books.countedOrders_eq, fees_of_filter]
  rfl

/-- An order without a fill contributes nothing exactly if it asked for nothing or
has no price. -/
theorem unfilled_contributes_nothing (order : Order) :
    (computeRealizedPnl [order] = 0 ∧ computeFees [order] = 0) ↔
      order.size = 0 ∨ order.avgFillPrice.getD 0 = 0 := by
  have fees : computeFees [order] = order.notional * feeRate := by simp [computeFees]
  have rate : feeRate ≠ 0 := by simp [feeRate]
  rw [computeRealizedPnl_single, fees]
  constructor
  · rintro ⟨_, none⟩
    exact mul_eq_zero.mp ((mul_eq_zero.mp none).resolve_right rate)
  · intro none
    have nothing : order.notional = 0 := mul_eq_zero.mpr none
    rw [nothing]
    simp

/-- The report is the change in equity exactly where the rows make up for what it
counts twice or beside the fills. -/
theorem net_pnl_is_equity_change_iff (books : Books) (position : Position) :
    books.CountsOnce position ↔ books.MakesUp position := by
  have realized := books.realizedPnl_eq position
  have fees := books.fees_eq position
  have unrealized : (books.pnlOf position).unrealizedPnl =
      (position.currentPrice - position.entryPrice) * position.size := rfl
  have net : (books.pnlOf position).netPnl = (books.pnlOf position).realizedPnl +
      (books.pnlOf position).unrealizedPnl - (books.pnlOf position).fees +
        books.computeFunding position.userId position.symbol := rfl
  have rate : feeRate ≠ 0 := by simp [feeRate]
  constructor
  · intro counts
    have parts := counts.parts
    have whole := counts.net
    constructor
    · rw [realized, unrealized, equity] at parts
      linarith
    · rw [net, fees, parts] at whole
      have charged : ((books.ordersOf position).map Order.uncounted).sum * feeRate = 0 := by
        linarith
      exact (mul_eq_zero.mp charged).resolve_right rate
    · intro order inside none
      exact (unfilled_contributes_nothing order).mp (counts.unfilled order inside none)
  · intro makesUp
    have parts : (books.pnlOf position).realizedPnl + (books.pnlOf position).unrealizedPnl =
        equity position.currentPrice (books.fillsOf position) := by
      have entry := makesUp.entry
      rw [realized, unrealized, equity]
      linarith
    constructor
    · exact parts
    · rw [net, fees, parts, makesUp.turnover, sub_zero]
    · intro order inside none
      exact (unfilled_contributes_nothing order).mpr (makesUp.unfilled order inside none)

/-- The books of one user after a delivery filled a job of one unit at 100. -/
theorem filled_order_is_counted_twice :
    ∃ after : SignalMachine,
      Machine.steps engine oneDelivery (Machine.atRest oneJob) = some after ∧
        ∃ position, after.world.database.findPosition ("user", "BTCUSDT") = some position ∧
          ((Books.mk after.world.database [] 0).pnlOf position).netPnl = -(1001 / 10) ∧
            equity position.currentPrice
              ((Books.mk after.world.database [] 0).fillsOf position) = 0 ∧
              ¬(Books.mk after.world.database [] 0).CountsOnce position := by
  have evaluated : ((Machine.steps engine oneDelivery (Machine.atRest oneJob)).bind fun machine =>
      (machine.world.database.findPosition ("user", "BTCUSDT")).map fun position =>
        (((Books.mk machine.world.database [] 0).pnlOf position).netPnl,
          ((Books.mk machine.world.database [] 0).pnlOf position).realizedPnl,
          ((Books.mk machine.world.database [] 0).pnlOf position).unrealizedPnl,
          equity position.currentPrice ((Books.mk machine.world.database [] 0).fillsOf position))) =
        some (-(1001 / 10), -100, 0, 0) := by
    decide +kernel
  obtain ⟨after, stepped, evaluated⟩ := Option.bind_eq_some_iff.mp evaluated
  obtain ⟨position, found, numbers⟩ := Option.map_eq_some_iff.mp evaluated
  simp only [Prod.mk.injEq] at numbers
  obtain ⟨net, realized, unrealized, balance⟩ := numbers
  refine ⟨after, stepped, position, found, net, balance, fun counts => ?_⟩
  have parts := counts.parts
  rw [realized, unrealized, balance] at parts
  norm_num at parts

end Equity

end Signal
