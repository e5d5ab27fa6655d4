import Mathlib.Algebra.Order.Ring.Rat
import CoinRobotu.Keyed.Matching

/-!
# Live reconciliation of orders and positions

The local orders and positions are compared with what the exchange reports of them. Each local
entry is looked up under its identifier among the entries of the exchange, and what differs is
reported. Entries are JSON objects with scalar values; the decoding of numbers from text and the
upper case of symbols are parameters.
-/

namespace Live

open Keyed

/-- A scalar of a JSON object. A float comes with its `repr`. -/
inductive Value where
  | none
  | bool (value : Bool)
  | int (value : ℤ)
  | float (value : ℚ) (repr : String)
  | text (value : String)
  deriving DecidableEq

def Value.isTruthy : Value → Bool
  | .none => false
  | .bool value => value
  | .int value => value ≠ 0
  | .float value _ => value ≠ 0
  | .text value => value ≠ ""

/-- `str(value)`. -/
def Value.str : Value → String
  | .none => "None"
  | .bool value => if value then "True" else "False"
  | .int value => toString value
  | .float _ repr => repr
  | .text value => value

abbrev Entry := List (String × Value)

namespace Entry

variable (entry : Entry) (field : String)

/-- `entry.get(field)`. -/
def get : Value := (List.lookup field entry).getD .none

/-- `str(entry.get(field) or "")`. -/
def name : String := if (get entry field).isTruthy then (get entry field).str else ""

end Entry

def orderId (order : Entry) : String := Entry.name order "order_id"

structure OrderIssue where
  orderId : String
  issue : String
  fields : List String
  deriving DecidableEq

/-- The result of `reconcile_order_state`; of the event only its number of issues. -/
structure OrderReport where
  orderReconciliationState : String
  orderReconciliationIssues : List OrderIssue
  orderStateCorrection : List (String × Entry)
  event : Option ℕ
  deriving DecidableEq

def mismatchFields (engine exchange : Entry) : List String :=
  ["symbol", "side", "price", "quantity", "status"].filter fun field =>
    (Entry.get engine field).str ≠ (Entry.get exchange field).str

def orderFindings (engine : Entry) : List Entry → List OrderIssue × List (String × Entry)
  | [] => ([⟨orderId engine, "MISSING_ORDER", []⟩], [])
  | exchange :: others =>
    let duplicate := if others = [] then [] else [⟨orderId engine, "DUPLICATE_ORDER", []⟩]
    let fields := mismatchFields engine exchange
    if fields = [] then (duplicate, [])
    else (duplicate ++ [⟨orderId engine, "EXECUTION_MISMATCH", fields⟩],
      [(orderId engine, exchange)])

/-- `reconcile_order_state`. -/
def reconcileOrderState (engineOrders exchangeOrders : List Entry) : OrderReport :=
  let byExchangeId := groups orderId exchangeOrders
  let findings := engineOrders.map fun engine =>
    orderFindings engine (byExchangeId (orderId engine))
  let issues := findings.flatMap Prod.fst
  { orderReconciliationState :=
      if exchangeOrders = [] then if engineOrders = [] then "RECONCILED" else "UNVERIFIED"
      else if issues = [] then "RECONCILED" else "ERROR"
    orderReconciliationIssues := issues
    orderStateCorrection := findings.flatMap Prod.snd
    event := if issues = [] then none else some issues.length }

/-- What Python makes of text. -/
structure Text where
  /-- `float(text)`, unless it raises. -/
  float : String → Option ℚ
  /-- `text.upper()`. -/
  upper : String → String

section Positions

variable (text : Text)

def positionSymbol (position : Entry) : String := text.upper (Entry.name position "symbol")

/-- `float(value or 0.0)`, unless it raises. -/
def Value.toFloat : Value → Option ℚ
  | .none => some 0
  | .bool value => some (if value then 1 else 0)
  | .int value => some value
  | .float value _ => some value
  | .text value => if value = "" then some 0 else text.float value

structure Drift where
  symbol : String
  reason : String
  fields : List String
  deriving DecidableEq

/-- The result of `reconcile_position_state`; of the event only its number of drifts. -/
structure PositionReport where
  positionSyncState : String
  positionDrifts : List Drift
  syncCorrection : List (String × Entry)
  event : Option ℕ
  deriving DecidableEq

def positionFields : List String := ["position_size", "entry_price", "leverage", "unrealized_pnl"]

def delta (engine exchange : Entry) (field : String) : Option ℚ := do
  let own ← (Entry.get engine field).toFloat text
  let other ← (Entry.get exchange field).toFloat text
  return |own - other|

/-- The fields in which two positions differ by more than `1e-6`. -/
def mismatches (engine exchange : Entry) : Option (List String) := do
  let checks ← positionFields.mapM fun field => (delta text engine exchange field).map (field, ·)
  return (checks.filter fun check => 1 / 1000000 < check.2).map Prod.fst

/-- The drifts and the correction that the loop adds for a local position. -/
def positionFindings (engine : Entry) :
    Option Entry → Option (List Drift × List (String × Entry))
  | none | some [] => some ([⟨positionSymbol text engine, "MISSING_ON_EXCHANGE", []⟩], [])
  | some exchange => (mismatches text engine exchange).map fun fields =>
    if fields = [] then ([], [])
    else ([⟨positionSymbol text engine, "FIELD_MISMATCH", fields⟩],
      [(positionSymbol text engine, exchange)])

/-- `reconcile_position_state`, unless a compared value is no number. -/
def reconcilePositionState (enginePositions exchangePositions : List Entry) :
    Option PositionReport := do
  let exchangeMap := latest (positionSymbol text) exchangePositions
  let findings ← enginePositions.mapM fun engine =>
    positionFindings text engine (exchangeMap (positionSymbol text engine))
  let drifts := findings.flatMap Prod.fst
  return {
    positionSyncState :=
      if exchangePositions = [] then if enginePositions = [] then "SYNCED" else "UNVERIFIED"
      else if drifts = [] then "SYNCED" else "DRIFT"
    positionDrifts := drifts
    syncCorrection := findings.flatMap Prod.snd
    event := if drifts = [] then none else some drifts.length }

end Positions

end Live
