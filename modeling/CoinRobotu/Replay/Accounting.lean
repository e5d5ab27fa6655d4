import Mathlib.Algebra.Order.SuccPred.PartialSups
import Mathlib.Data.Nat.SuccPred
import Mathlib.Tactic.NormNum
import CoinRobotu.Numeric.Rounding

/-!
# The accounts of a replay

`run_replay_pipeline` goes once through the candles and books what each signal makes. The rows it
leaves are rounded, the accounts it goes on with are not. `compute_replay_risk_summary` counts anew
from the rows.
-/

namespace Replay

open Numeric

structure Candle where
  timestamp : String
  high : ℚ
  low : ℚ
  close : ℚ

/-- The signals that are traded, the long one by buying and the short one by selling. -/
inductive Signal where
  | long
  | short

def fmean (values : List ℚ) : ℚ := values.sum / values.length

/-- The signal of `_rolling_signal`, if there is one, and its confidence. -/
def rollingSignal (candles : List Candle) (idx : ℕ) : Option Signal × ℚ :=
  let closes := ((candles.drop (idx - 20)).take 21).map Candle.close
  let smaFast := fmean (closes.drop (closes.length - 5))
  let smaSlow := fmean closes
  let confidence :=
    min (95 / 100) (max (35 / 100) (|smaFast - smaSlow| / max smaSlow (1 / 10 ^ 8) * 120))
  if smaSlow * (10006 / 10000) < smaFast then (some .long, confidence)
  else if smaFast < smaSlow * (9994 / 10000) then (some .short, confidence)
  else (none, confidence)

/-- What the tables have of a user when a position is sized. -/
structure Account where
  baseCapital : ℚ
  closedPnl : ℚ
  compoundingEnabled : Bool
  allocationPct : ℚ

namespace Account

variable (account : Account)

/-- The equity of `compute_position_sizing`, before it is rounded to four decimals. -/
def equity : ℚ :=
  max (account.baseCapital + if account.compoundingEnabled then account.closedPnl else 0) (1 / 100)

/-- The quantity of `compute_position_sizing`. -/
def quantity (marketPrice : ℚ) : ℚ :=
  let tradeAllocationUsdt := account.equity * (account.allocationPct / 100)
  roundTo 6 (max (tradeAllocationUsdt / max marketPrice (1 / 10000)) (1 / 10000))

end Account

inductive RiskTag where
  | volatilitySpike
  | lowConfidence
  deriving DecidableEq

/-- `SIM_CANCELED` with the tags that say why, or `SIM_FILLED`. -/
inductive Outcome where
  | canceled (riskTags : List RiskTag)
  | filled (fillPrice latencyMs slippagePct pnl : ℚ)

/-- The row of an execution. -/
structure ReplayExecution where
  signal : Signal
  marketPrice : ℚ
  candleTimestamp : String
  outcome : Outcome

namespace ReplayExecution

variable (execution : ReplayExecution)

def pnl : ℚ :=
  match execution.outcome with
  | .canceled _ => 0
  | .filled _ _ _ pnl => pnl

def riskTags : List RiskTag :=
  match execution.outcome with
  | .canceled riskTags => riskTags
  | .filled .. => []

def slippagePct : Option ℚ :=
  match execution.outcome with
  | .canceled _ => none
  | .filled _ _ slippagePct _ => some slippagePct

def isCanceled : Bool :=
  match execution.outcome with
  | .canceled _ => true
  | .filled .. => false

end ReplayExecution

/-- The loop body up to the profit, with the account as it is at this candle. -/
def simulate (account : ℕ → Account) (candles : List Candle) (idx : ℕ) :
    Option ReplayExecution := do
  let candle ← candles[idx]?
  let nextCandle ← candles[idx + 1]?
  let (signal, confidence) := rollingSignal candles idx
  let signal ← signal
  let marketPrice := candle.close
  let spreadPct := |candle.high - candle.low| / max marketPrice (1 / 10 ^ 8) * 100
  let riskTags := (if 14 / 10 < spreadPct then [.volatilitySpike] else []) ++
    if confidence < 45 / 100 then [.lowConfidence] else []
  let qty := max ((account idx).quantity marketPrice) (1 / 10000)
  let slippage := roundTo 6 (min (25 / 100) (spreadPct * (35 / 100)))
  let latency := roundTo 2 (70 + spreadPct * 180)
  let bought := roundTo 6 (marketPrice * (1 + slippage / 100))
  let sold := roundTo 6 (marketPrice * (1 - slippage / 100))
  return ⟨signal, marketPrice, candle.timestamp,
    if riskTags ≠ [] then .canceled riskTags
    else match signal with
      | .long => .filled bought latency slippage ((nextCandle.close - bought) * qty)
      | .short => .filled sold latency slippage ((sold - nextCandle.close) * qty)⟩

/-- `for idx in range(30, len(candles) - 1)`. -/
def simulated (account : ℕ → Account) (candles : List Candle) : List ReplayExecution :=
  (List.range' 30 (candles.length - 31)).filterMap (simulate account candles)

structure ReplayEquityPoint where
  pointTimestamp : String
  equity : ℚ
  pnlDelta : ℚ
  drawdownPct : ℚ

/-- The local variables of the loop, and the rows it adds. -/
structure Books where
  latencySamples : List ℚ
  slippageSamples : List ℚ
  filledCount : ℕ
  canceledCount : ℕ
  grossPnl : ℚ
  executionCount : ℕ
  exposureBreachCount : ℕ
  runningEquity : ℚ
  peakEquity : ℚ
  executions : List ReplayExecution
  points : List ReplayEquityPoint

def drawdownPct (peak equity : ℚ) : ℚ :=
  roundTo 6 ((peak - equity) / max peak (1 / 10 ^ 8) * 100)

namespace Books

variable (books : Books)

def opened (equity : ℚ) : Books := ⟨[], [], 0, 0, 0, 0, 0, equity, equity, [], []⟩

/-- What each outcome adds to the counts. -/
def count : Outcome → Books
  | .canceled riskTags =>
    { books with
      canceledCount := books.canceledCount + 1
      exposureBreachCount :=
        books.exposureBreachCount + if .volatilitySpike ∈ riskTags then 1 else 0 }
  | .filled _ latency slippage pnl =>
    { books with
      latencySamples := books.latencySamples ++ [latency]
      slippageSamples := books.slippageSamples ++ [slippage]
      filledCount := books.filledCount + 1
      grossPnl := books.grossPnl + pnl }

/-- The loop body from the profit on. -/
def book (execution : ReplayExecution) : Books :=
  let runningEquity := max (books.runningEquity + execution.pnl) (1 / 100)
  let peakEquity := max books.peakEquity runningEquity
  { books.count execution.outcome with
    executionCount := books.executionCount + 1
    runningEquity
    peakEquity
    executions := books.executions ++ [execution]
    points := books.points ++ [⟨execution.candleTimestamp, roundTo 6 runningEquity,
      roundTo 6 execution.pnl, drawdownPct peakEquity runningEquity⟩] }

end Books

structure ReplayRun where
  candlesProcessed : ℕ
  executionsCount : ℕ
  filledCount : ℕ
  canceledCount : ℕ
  avgSimulatedLatencyMs : ℚ
  avgSimulatedSlippagePct : ℚ
  grossPnl : ℚ
  winRateProxyPct : ℚ
  riskRejectCount : ℕ
  exposureBreachCount : ℕ

/-- A run with its rows. -/
structure Recorded where
  run : ReplayRun
  executions : List ReplayExecution
  points : List ReplayEquityPoint

def Books.closed (books : Books) (candlesProcessed : ℕ) : Recorded where
  run :=
    { candlesProcessed
      executionsCount := books.executionCount
      filledCount := books.filledCount
      canceledCount := books.canceledCount
      avgSimulatedLatencyMs := roundTo 4 (fmean books.latencySamples)
      avgSimulatedSlippagePct := roundTo 6 (fmean books.slippageSamples)
      grossPnl := roundTo 4 books.grossPnl
      winRateProxyPct :=
        roundTo 2 ((books.filledCount : ℚ) / (max books.executionCount 1 : ℕ) * 100)
      riskRejectCount := books.canceledCount
      exposureBreachCount := books.exposureBreachCount }
  executions := books.executions
  points := books.points

/-- `run_replay_pipeline`, once the access is checked and the candles are fetched. -/
def runReplayPipeline (opening : Account) (account : ℕ → Account) (candles : List Candle) :
    Except String Recorded :=
  if candles.length < 60 then throw "insufficient_history"
  else
    let books := (simulated account candles).foldl Books.book (.opened (roundTo 4 opening.equity))
    return books.closed candles.length

structure RegimeDistribution where
  highVolatility : ℕ
  lowConfidence : ℕ
  normal : ℕ

namespace RegimeDistribution

/-- An execution with both tags is counted under both. -/
def ofExecutions (executions : List ReplayExecution) : RegimeDistribution :=
  let tagged := fun tag => executions.countP fun item => tag ∈ item.riskTags
  ⟨tagged .volatilitySpike, tagged .lowConfidence,
    executions.length - tagged .volatilitySpike - tagged .lowConfidence⟩

def total (regimes : RegimeDistribution) : ℕ :=
  regimes.highVolatility + regimes.lowConfidence + regimes.normal

theorem total_eq {executions : List ReplayExecution} :
    (ofExecutions executions).total = max executions.length
      ((ofExecutions executions).highVolatility + (ofExecutions executions).lowConfidence) := by
  simp only [total, ofExecutions]
  omega

end RegimeDistribution

structure Summary where
  maxDrawdown : ℚ
  sharpe : ℚ
  winRate : ℚ
  profitFactor : ℚ
  avgSlippageBps : ℚ
  volatilityBucket : String
  regimeBucketDistribution : RegimeDistribution
  exposureBreachCount : ℕ
  riskRejectCount : ℕ

/-- `compute_replay_risk_summary` on the run it finds. -/
def computeReplayRiskSummary (squareRoot : ℚ → ℚ) : Option Recorded → Except String Summary
  | none => throw "replay_not_found"
  | some recorded =>
    let pnlSeries := recorded.points.map (·.pnlDelta)
    let wins := pnlSeries.filter (0 < ·)
    let maxDrawdown := (recorded.points.map (·.drawdownPct)).max?.getD 0
    let mean := fmean pnlSeries
    let std := if 1 < pnlSeries.length then
      squareRoot (fmean (pnlSeries.map fun pnl => (pnl - mean) ^ 2)) else 0
    let grossLoss := |(pnlSeries.filter (· < 0)).sum|
    let regimes := RegimeDistribution.ofExecutions recorded.executions
    return {
      maxDrawdown := roundTo 6 maxDrawdown
      sharpe := roundTo 6 (if 0 < std then mean / std * squareRoot 252 else 0)
      winRate := roundTo 4 (wins.length / max (pnlSeries.countP (· ≠ 0) : ℚ) 1 * 100)
      profitFactor := roundTo 6 (if 0 < grossLoss then wins.sum / grossLoss else max wins.sum 0)
      avgSlippageBps := roundTo 6 (fmean (recorded.executions.filterMap (·.slippagePct)) * 100)
      volatilityBucket :=
        if 20 ≤ maxDrawdown then "extreme" else if 12 ≤ maxDrawdown then "high"
        else if 6 ≤ maxDrawdown then "medium" else "low"
      regimeBucketDistribution := regimes
      exposureBreachCount := regimes.highVolatility
      riskRejectCount := recorded.executions.countP (·.isCanceled) }

/-! ## The accounts close -/

/-- The equity after the first executions, which does not fall below the floor. -/
def equityAfter (start : ℚ) (executions : List ReplayExecution) : ℕ → ℚ
  | 0 => start
  | k + 1 => max (equityAfter start executions k +
      (executions.map ReplayExecution.pnl).getD k 0) (1 / 100)

/-- The point of an execution: its drawdown is the one from the highest equity so far. -/
def pointOf (equity : ℕ → ℚ) (k : ℕ) (execution : ReplayExecution) : ReplayEquityPoint :=
  ⟨execution.candleTimestamp, roundTo 6 (equity (k + 1)), roundTo 6 execution.pnl,
    drawdownPct (partialSups equity (k + 1)) (equity (k + 1))⟩

/-- What the books say after some executions. -/
structure Booked (equity : ℕ → ℚ) (done : List ReplayExecution) (books : Books) : Prop where
  executions : books.executions = done
  executed : books.executionCount = books.executions.length
  counted : books.executionCount = books.filledCount + books.canceledCount
  grossPnl : books.grossPnl = (done.map ReplayExecution.pnl).sum
  runningEquity : books.runningEquity = equity done.length
  peakEquity : books.peakEquity = partialSups equity done.length
  points : books.points = done.mapIdx (pointOf equity)

section Booking

variable {equity : ℕ → ℚ} {done : List ReplayExecution} {books : Books}
  {execution : ReplayExecution}

theorem Books.count_counts (books : Books) (outcome : Outcome) :
    (books.count outcome).filledCount + (books.count outcome).canceledCount =
      books.filledCount + books.canceledCount + 1 := by
  cases outcome with
  | canceled riskTags => exact (Nat.add_assoc _ _ _).symm
  | filled fillPrice latency slippage pnl => exact Nat.add_right_comm _ _ _

theorem Books.count_grossPnl :
    (books.count execution.outcome).grossPnl = books.grossPnl + execution.pnl := by
  unfold Books.count ReplayExecution.pnl
  cases execution.outcome with
  | canceled riskTags => exact (add_zero _).symm
  | filled fillPrice latency slippage pnl => rfl

theorem Booked.opened : Booked equity [] (.opened (equity 0)) :=
  ⟨rfl, rfl, rfl, rfl, rfl, (partialSups_zero _).symm, rfl⟩

/-- One more execution is booked. -/
theorem Booked.book (booked : Booked equity done books)
    (moved : equity (done.length + 1) = max (equity done.length + execution.pnl) (1 / 100)) :
    Booked equity (done ++ [execution]) (books.book execution) := by
  have running : max (books.runningEquity + execution.pnl) (1 / 100) =
      equity (done.length + 1) := by rw [booked.runningEquity, moved]
  have peak : max books.peakEquity (equity (done.length + 1)) =
      partialSups equity (done.length + 1) := by rw [booked.peakEquity, partialSups_add_one]
  unfold Books.book
  rw [running]
  dsimp only
  rw [peak]
  constructor
  case executions => simp [booked.executions]
  case executed => simp [booked.executed]
  case counted =>
    have counted := booked.counted
    have counts := books.count_counts execution.outcome
    dsimp only
    omega
  case grossPnl => simp [Books.count_grossPnl, booked.grossPnl]
  case runningEquity => simp
  case peakEquity => simp
  case points => simp [booked.points, pointOf]

/-- All executions are booked, by induction on those that are left. -/
theorem booked_foldl (start : ℚ) (left done : List ReplayExecution) (books : Books)
    (booked : Booked (equityAfter start (done ++ left)) done books) :
    Booked (equityAfter start (done ++ left)) (done ++ left) (left.foldl Books.book books) := by
  induction left generalizing done books with
  | nil => simpa using booked
  | cons execution left ih =>
    have next : Booked (equityAfter start (done ++ execution :: left)) (done ++ [execution])
        (books.book execution) := booked.book (by simp [equityAfter])
    rw [List.append_cons] at next ⊢
    exact ih _ _ next

theorem booked_replay (start : ℚ) (executions : List ReplayExecution) :
    Booked (equityAfter start executions) executions
      (executions.foldl Books.book (.opened start)) :=
  booked_foldl start executions [] _ .opened

theorem Booked.floor_le {start : ℚ} {executions : List ReplayExecution}
    {point : ReplayEquityPoint} (booked : Booked (equityAfter start executions) executions books)
    (inside : point ∈ books.points) : 1 / 100 ≤ point.equity := by
  rw [booked.points] at inside
  obtain ⟨k, bounded, rfl⟩ := List.mem_mapIdx.mp inside
  have cents : HasDecimals 6 (1 / 100) := ⟨10000, by norm_num⟩
  calc (1 / 100 : ℚ) = roundTo 6 (1 / 100) := cents.rounded.symm
    _ ≤ _ := roundTo_mono 6 (le_max_right _ _)

end Booking

/-- The accounts close up to the floor and the rounding of the rows: each equity is the one before
it and the profit, and each drawdown is measured from the highest equity so far. -/
theorem replay_accounts_close (squareRoot : ℚ → ℚ) (opening : Account) (account : ℕ → Account)
    (candles : List Candle) (enough : 60 ≤ candles.length) :
    ∃ recorded summary, runReplayPipeline opening account candles = .ok recorded ∧
      computeReplayRiskSummary squareRoot (some recorded) = .ok summary ∧
      let executions := simulated account candles
      let regimes := summary.regimeBucketDistribution
      recorded.executions = executions ∧
      recorded.run.executionsCount = recorded.run.filledCount + recorded.run.canceledCount ∧
      recorded.points =
        executions.mapIdx (pointOf (equityAfter (roundTo 4 opening.equity) executions)) ∧
      (∀ point ∈ recorded.points, 1 / 100 ≤ point.equity) ∧
      recorded.run.grossPnl = roundTo 4 (executions.map ReplayExecution.pnl).sum ∧
      regimes.total =
        max recorded.run.executionsCount (regimes.highVolatility + regimes.lowConfidence) := by
  have booked := booked_replay (roundTo 4 opening.equity) (simulated account candles)
  exact ⟨_, _, if_neg (not_lt.mpr enough), rfl, booked.executions, booked.counted, booked.points,
    fun point inside => booked.floor_le inside, congrArg (roundTo 4) booked.grossPnl,
    RegimeDistribution.total_eq.trans (congrArg (max · _) booked.executed.symm)⟩

def steady (price : ℚ) : Candle := ⟨"steady", price, price, price⟩

/-- Four signals of little confidence on jumping prices, then three sales, the last of which meets
a multiple of its price. -/
def crash : List Candle :=
  List.replicate 60 (steady 100) ++ List.replicate 4 ⟨"jumping", 102, 100, 1005 / 10⟩ ++
    [steady 90, steady (897 / 10), steady (893 / 10), steady 700]

def created : Account := ⟨10000, 0, true, 20⟩

theorem replay_accounts_close_crash :
    ∃ recorded, runReplayPipeline created (fun _ => created) crash = .ok recorded ∧
      recorded.run.executionsCount = recorded.run.filledCount + recorded.run.canceledCount := by
  obtain ⟨recorded, summary, ran, _, _, counted, _⟩ :=
    replay_accounts_close id created (fun _ => created) crash (by decide)
  exact ⟨recorded, ran, counted⟩

/-- The last sale is cut at the floor, the one before it is rounded apart from the equities, the
gross profit is rounded to fewer decimals than the rows, and four executions are counted twice. -/
theorem crash_does_not_close :
    (do
      let recorded ← runReplayPipeline created (fun _ => created) crash
      let summary ← computeReplayRiskSummary id (some recorded)
      return (recorded.run.executionsCount, summary.regimeBucketDistribution.total,
        recorded.run.grossPnl,
        recorded.points.map fun point : ReplayEquityPoint => (point.equity, point.pnlDelta))) =
    .ok (7, 8, -136619066 / 10 ^ 4, [(10000, 0), (10000, 0), (10000, 0), (10000, 0),
      (10006666667 / 10 ^ 6, 6666667 / 10 ^ 6), (10015585284 / 10 ^ 6, 8918618 / 10 ^ 6),
      (1 / 100, -13677491862 / 10 ^ 6)]) := by
  decide +kernel

end Replay
