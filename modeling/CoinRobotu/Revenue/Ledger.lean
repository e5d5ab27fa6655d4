import Mathlib.Data.List.Sort
import CoinRobotu.Keyed.Table
import CoinRobotu.Numeric.Rounding
import CoinRobotu.Runtime.Text

/-!
# The revenue ledger

Every closed trade brings the fee of the platform and a share of what it has made. A
synchronisation takes the trades of a scope and adds a row for each of these components that the
ledger does not have yet; the summary adds the rows up. Amounts are exact, with the roundings of
the code. The reading of numbers and times from text is a parameter.
-/

namespace Revenue

open Numeric
open Runtime (strip lower upper)

/-- What Python makes of text: a number or a time, or the message of its `ValueError`. -/
structure Text where
  float : String → Except String ℚ
  /-- The microseconds of an ISO time in UTC. -/
  fromIsoFormat : String → Except String ℤ

/-- A trade. -/
structure CommercialTrade where
  id : String
  userId : String
  exchange : String
  marketType : String
  environment : String
  symbol : String
  exchangeTradeId : String
  orderId : Option String
  tradeTime : ℤ
  commissionAsset : String
  commissionUsd : ℚ
  realizedPnlUsd : ℚ
  id_ne : id ≠ ""
  deriving DecidableEq

structure RevenueDetails where
  exchangeTradeId : String
  orderId : Option String
  basis : String
  commissionAsset : Option String
  realizedPnlUsd : Option ℚ
  deriving DecidableEq

structure RevenueLedger where
  userId : String
  tradeId : String
  exchange : String
  marketType : String
  environment : String
  symbol : String
  tradeTime : ℤ
  componentType : String
  sourceAmountUsd : ℚ
  shareRate : ℚ
  revenueAmountUsd : ℚ
  details : RevenueDetails
  deriving DecidableEq

def RevenueLedger.key (row : RevenueLedger) : String × String := (row.tradeId, row.componentType)

abbrev Trades := Keyed.Table String CommercialTrade CommercialTrade.id

section Parsing

variable (text : Text)

/-- `_parse_datetime`. -/
def parseDatetime (value : Option String) : Except String (Option ℤ) :=
  let normalized := strip (value.getD "")
  if normalized = "" then .ok none
  else
    let characters := normalized.toList
    let iso := if characters.getLast? = some 'Z' then String.ofList characters.dropLast ++ "+00:00"
      else normalized
    (text.fromIsoFormat iso).map some

/-- `_must_share_rate`, of the environment variable. -/
def mustShareRate (raw : Option String) : Except String ℚ :=
  match raw with
  | none => .error "missing_revenue_pnl_share_rate"
  | some raw => do
    let parsed ← text.float (strip raw)
    let parsed := if 1 < parsed then parsed / 100 else parsed
    if parsed < 0 ∨ 1 < parsed then .error "invalid_revenue_pnl_share_rate" else .ok parsed

end Parsing

structure Component where
  componentType : String
  sourceAmountUsd : ℚ
  shareRate : ℚ
  revenueAmountUsd : ℚ
  basis : String
  commissionAsset : Option String
  realizedPnlUsd : Option ℚ
  deriving DecidableEq

def buildRevenueComponents (trade : CommercialTrade) (pnlShareRate : ℚ) : List Component :=
  let feeAmount := max trade.commissionUsd 0
  let realizedPositive := max trade.realizedPnlUsd 0
  [{  componentType := "fee"
      sourceAmountUsd := feeAmount
      shareRate := 1
      revenueAmountUsd := feeAmount
      basis := "commission_usd"
      commissionAsset := some trade.commissionAsset
      realizedPnlUsd := none },
    { componentType := "pnl_share"
      sourceAmountUsd := realizedPositive
      shareRate := pnlShareRate
      revenueAmountUsd := realizedPositive * pnlShareRate
      basis := "realized_positive_pnl_usd"
      commissionAsset := none
      realizedPnlUsd := some trade.realizedPnlUsd }]

/-- The row that is added for a component. -/
def ledgerRow (trade : CommercialTrade) (component : Component) : RevenueLedger where
  userId := trade.userId
  tradeId := trade.id
  exchange := trade.exchange
  marketType := trade.marketType
  environment := trade.environment
  symbol := trade.symbol
  tradeTime := trade.tradeTime
  componentType := component.componentType
  sourceAmountUsd := roundTo 10 component.sourceAmountUsd
  shareRate := roundTo 10 component.shareRate
  revenueAmountUsd := roundTo 10 component.revenueAmountUsd
  details := {
    exchangeTradeId := trade.exchangeTradeId
    orderId := trade.orderId
    basis := component.basis
    commissionAsset := component.commissionAsset
    realizedPnlUsd := component.realizedPnlUsd }

/-- The loop of an upsert: the ledger, the keys that it knows, and what it has counted. -/
structure Upsert where
  ledger : List RevenueLedger
  existingKeys : List (String × String)
  inserted : ℕ
  duplicate : ℕ

def Upsert.add (upsert : Upsert) (row : RevenueLedger) : Upsert :=
  if row.key ∈ upsert.existingKeys then { upsert with duplicate := upsert.duplicate + 1 }
  else
    { upsert with
      ledger := upsert.ledger ++ [row]
      existingKeys := row.key :: upsert.existingKeys
      inserted := upsert.inserted + 1 }

def rowsOf (pnlShareRate : ℚ) (trade : CommercialTrade) : List RevenueLedger :=
  (buildRevenueComponents trade pnlShareRate).map (ledgerRow trade)

def existingKeys (ledger : List RevenueLedger) (trades : List CommercialTrade) :
    List (String × String) :=
  let tradeIds := (trades.map CommercialTrade.id).filter (· ≠ "")
  (ledger.filter (·.tradeId ∈ tradeIds)).map RevenueLedger.key

structure Processed where
  processed : ℕ
  inserted : ℕ
  duplicate : ℕ
  deriving DecidableEq

section Synchronisation

variable (text : Text) (shareRate : Option String)

/-- `upsert_revenue_for_trades`: the ledger that it leaves, and what it returns. -/
def upsertRevenueForTrades (ledger : List RevenueLedger) (trades : List CommercialTrade) :
    Except String (List RevenueLedger × Processed) :=
  if trades = [] then .ok (ledger, ⟨0, 0, 0⟩)
  else do
    let pnlShareRate ← mustShareRate text shareRate
    let started : Upsert := ⟨ledger, existingKeys ledger trades, 0, 0⟩
    let done := (trades.flatMap (rowsOf pnlShareRate)).foldl Upsert.add started
    return (done.ledger, ⟨trades.length, done.inserted, done.duplicate⟩)

/-- The arguments of a synchronisation. -/
structure Scope where
  userId : String
  environment : String
  marketTypes : List String
  symbols : List String
  startTs : Option String
  endTs : Option String
  deriving DecidableEq

def Scope.covers (scope : Scope) (start finish : Option ℤ) (trade : CommercialTrade) : Bool :=
  trade.userId = scope.userId ∧ trade.environment = scope.environment ∧
    trade.exchange = "binance" ∧ (scope.marketTypes = [] ∨ trade.marketType ∈ scope.marketTypes) ∧
      (scope.symbols = [] ∨ trade.symbol ∈ scope.symbols) ∧
        (∀ first ∈ start, first ≤ trade.tradeTime) ∧ ∀ last ∈ finish, trade.tradeTime ≤ last

/-- `order_by(trade_time.asc(), id.asc())`. -/
def inOrder (trade other : CommercialTrade) : Bool :=
  trade.tradeTime < other.tradeTime ∨ trade.tradeTime = other.tradeTime ∧ trade.id ≤ other.id

def tradesOf (trades : Trades) (scope : Scope) : Except String (List CommercialTrade) := do
  let start ← parseDatetime text scope.startTs
  let finish ← parseDatetime text scope.endTs
  return (trades.rows.filter (scope.covers start finish)).insertionSort (inOrder · ·)

def syncRevenueLedgerForScope (trades : Trades) (ledger : List RevenueLedger) (scope : Scope) :
    Except String (List RevenueLedger × Processed) := do
  upsertRevenueForTrades text shareRate ledger (← tradesOf text trades scope)

end Synchronisation

section Summary

/-- The arguments of a summary, with the user that the e-mail address names. -/
structure SummaryQuery where
  environment : String
  startDate : Option String
  endDate : Option String
  userId : Option String
  userEmail : Option String
  symbol : Option String
  topLimit : ℕ

/-- What the rows of a key have brought, in the order in which the keys turn up. -/
def amountsBy {Key : Type} [DecidableEq Key] (key : RevenueLedger → Key)
    (rows : List RevenueLedger) : List (Key × ℚ) :=
  rows.foldl (fun amounts row =>
    if amounts.any (·.1 = key row) then
      amounts.map fun entry =>
        if entry.1 = key row then (entry.1, entry.2 + row.revenueAmountUsd) else entry
    else amounts ++ [(key row, row.revenueAmountUsd)]) []

def topOf (limit : ℕ) (amounts : List (String × ℚ)) : List (String × ℚ) :=
  ((amounts.insertionSort fun entry other =>
    other.2 < entry.2 ∨ entry.2 = other.2 ∧ entry.1 ≤ other.1).take limit).map
      fun entry => (entry.1, roundTo 8 entry.2)

structure DailyRevenue where
  /-- The days since the epoch. -/
  date : ℤ
  totalRevenueUsd : ℚ
  feeRevenueUsd : ℚ
  pnlShareRevenueUsd : ℚ
  deriving DecidableEq

structure RevenueSummary where
  totalRevenueUsd : ℚ
  todayRevenueUsd : ℚ
  topUsers : List (String × String × ℚ)
  topSymbols : List (String × ℚ)
  dailyRevenue : List DailyRevenue
  deriving DecidableEq

/-- `trade_time.date()`. -/
def RevenueLedger.day (row : RevenueLedger) : ℤ := row.tradeTime / 86400000000

def total (rows : List RevenueLedger) : ℚ := (rows.map RevenueLedger.revenueAmountUsd).sum

variable (text : Text) (users : List (String × String))

/-- The user that the query is restricted to: the one of the e-mail address, else the given one. -/
def SummaryQuery.user (query : SummaryQuery) : Except String (Option String) :=
  if query.userEmail.getD "" ≠ "" then
    match users.find? (·.2 = lower (strip (query.userEmail.getD ""))) with
    | none => .error "target_user_not_found"
    | some user => .ok (some user.1)
  else .ok (if query.userId.getD "" = "" then none else query.userId)

def SummaryQuery.covers (query : SummaryQuery) (user : Option String) (start finish : Option ℤ)
    (row : RevenueLedger) : Bool :=
  row.environment = query.environment ∧ (∀ userId ∈ user, row.userId = userId) ∧
    (query.symbol.getD "" = "" ∨ row.symbol = upper (strip (query.symbol.getD ""))) ∧
      (∀ first ∈ start, first ≤ row.tradeTime) ∧ ∀ last ∈ finish, row.tradeTime ≤ last

/-- `get_revenue_summary`, on a day. -/
def getRevenueSummary (ledger : List RevenueLedger) (query : SummaryQuery) (today : ℤ) :
    Except String RevenueSummary := do
  let user ← query.user users
  let start ← parseDatetime text query.startDate
  let finish ← parseDatetime text query.endDate
  let rows := ledger.filter (query.covers user start finish)
  let onDay := fun (kind : RevenueLedger → Bool) (day : ℤ) =>
    roundTo 8 (total (rows.filter fun row => row.day = day ∧ kind row))
  return {
    totalRevenueUsd := roundTo 8 (total rows)
    todayRevenueUsd := roundTo 8 (total (rows.filter fun row => row.day = today))
    topUsers := (topOf query.topLimit (amountsBy RevenueLedger.userId rows)).map fun entry =>
      (entry.1, ((users.find? (·.1 = entry.1)).map Prod.snd).getD "unknown", entry.2)
    topSymbols := topOf query.topLimit (amountsBy RevenueLedger.symbol rows)
    dailyRevenue := (((rows.map RevenueLedger.day).dedup).insertionSort (· ≤ ·)).map fun day => {
      date := day
      totalRevenueUsd := onDay (fun _ => true) day
      feeRevenueUsd := onDay (·.componentType = "fee") day
      pnlShareRevenueUsd := onDay (·.componentType = "pnl_share") day } }

end Summary

end Revenue
