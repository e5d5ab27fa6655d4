import CoinRobotu.Numeric.Limits
import CoinRobotu.Risk.Engine
import CoinRobotu.Stateful.Traversal

/-!
# Decisions of the futures strategies

A strategy cycle produces one decision for each strategy and symbol, and a chain of guards
passes over the list: each may reject what was allowed, or change the size of a position.
A row is kept with the fields that the guards read and write. A missing leverage decision is
one with no fields, and a number that is missing or zero is replaced by its default, as
`x or default` does.
-/

namespace Futures

open Risk (orNumber)

inductive LifecycleState where
  | active
  | throttled
  | disabled
  deriving DecidableEq, Repr

inductive Verdict where
  | allow
  | reject
  deriving DecidableEq, Repr

/-- The leverage engine returns no leverage below 1, and the cycle caps it at a positive one. -/
structure LeverageDecision where
  finalLeverage : Option ℚ≥0
  positionSizeRatio : Option ℚ
  deriving DecidableEq

structure Decision where
  symbol : String
  side : String
  strategy : Option String
  strategyId : Option String
  confidence : Option ℚ
  /-- The `regime` of the row's signal. -/
  regime : Option String
  leverageDecision : LeverageDecision
  decision : Verdict
  decisionLayer : Option String
  reasonCode : Option String
  reasons : List String
  lifecycleState : Option LifecycleState
  throttleLevel : Option String
  deriving DecidableEq

/-- What a guard says of an order. -/
inductive GuardAction where
  | allow
  | reduceSize
  | reject
  deriving DecidableEq, Repr

/-- `sorted(set(reasons + [reason]))`. -/
def addReason (reasons : List String) (reason : String) : List String :=
  (reasons ++ [reason]).dedup.mergeSort

namespace Decision

variable (row : Decision)

/-- `str(row.get("strategy") or row.get("strategy_id") or "unknown")`. -/
def strategyKey : String :=
  if Runtime.blank row.strategy then Runtime.orElse row.strategyId "unknown"
  else row.strategy.getD ""

def leverage : ℚ := orNumber (row.leverageDecision.finalLeverage.map fun value => (value : ℚ)) 1

def sizeRatio : ℚ := orNumber row.leverageDecision.positionSizeRatio 1

def ratio : ℚ := row.leverageDecision.positionSizeRatio.getD 1

def withRatio (ratio : ℚ) : Decision :=
  { row with leverageDecision := { row.leverageDecision with positionSizeRatio := some ratio } }

def withReason (reason : String) : Decision := { row with reasons := addReason row.reasons reason }

def rejectedBy (layer reason : String) : Decision :=
  { row with
    decision := .reject
    decisionLayer := some layer
    reasonCode := some "GATE_REJECT"
    reasons := addReason row.reasons reason }

variable {row}

@[simp] theorem withRatio_decision {ratio : ℚ} :
    (row.withRatio ratio).decision = row.decision := rfl

@[simp] theorem withRatio_ratio {ratio : ℚ} : (row.withRatio ratio).ratio = ratio := rfl

@[simp] theorem withReason_decision {reason : String} :
    (row.withReason reason).decision = row.decision := rfl

@[simp] theorem withReason_ratio {reason : String} :
    (row.withReason reason).ratio = row.ratio := rfl

@[simp] theorem rejectedBy_decision {layer reason : String} :
    (row.rejectedBy layer reason).decision = .reject := rfl

@[simp] theorem rejectedBy_ratio {layer reason : String} :
    (row.rejectedBy layer reason).ratio = row.ratio := rfl

theorem leverage_pos (row : Decision) : 0 < row.leverage := by
  unfold leverage orNumber
  split
  · exact zero_lt_one
  · rename_i nonzero
    apply lt_of_le_of_ne _ (Ne.symm nonzero)
    cases row.leverageDecision.finalLeverage with
    | none => exact le_rfl
    | some value => exact value.2

theorem ratio_congr {other : Decision} (same : row.leverageDecision = other.leverageDecision) :
    row.ratio = other.ratio :=
  congrArg (fun decision : LeverageDecision => decision.positionSizeRatio.getD 1) same

theorem sizeRatio_congr {other : Decision} (same : row.leverageDecision = other.leverageDecision) :
    row.sizeRatio = other.sizeRatio :=
  congrArg (fun decision : LeverageDecision => orNumber decision.positionSizeRatio 1) same

theorem sizeRatio_eq (nonzero : row.ratio ≠ 0) : row.sizeRatio = row.ratio := by
  unfold sizeRatio ratio orNumber at *
  cases given : row.leverageDecision.positionSizeRatio with
  | none => rfl
  | some value =>
    rw [given] at nonzero
    exact if_neg nonzero

end Decision

/-- `equity * 0.08 * leverage * max(0.1, min(size_ratio, 1.0))`: the notional of an order. -/
def orderNotional (equity leverage sizeRatio : ℚ) : ℚ :=
  equity * (8 / 100) * leverage * max (1 / 10) (min sizeRatio 1)

theorem orderNotional_mono {equity leverage small large : ℚ} (equity_nonneg : 0 ≤ equity)
    (leverage_nonneg : 0 ≤ leverage) (le : small ≤ large) :
    orderNotional equity leverage small ≤ orderNotional equity leverage large := by
  unfold orderNotional
  gcongr

end Futures
