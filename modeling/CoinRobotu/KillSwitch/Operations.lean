import CoinRobotu.Interleaving.Machine
import CoinRobotu.Numeric.Rounding
import CoinRobotu.Runtime.Text

/-!
# What triggers the kill switch

An evaluation reads the market data, two counters, the losses of the day, the failed events, the
last candles and the latest executions. Each reading may be a reason to trigger. Numbers are exact,
and the age of the heartbeat is read together with it.
-/

namespace KillSwitch

open Numeric
open Runtime (lower)

def executionErrorThreshold : ℤ := 5
def riskAnomalyThreshold : ℤ := 3
def orderRejectRateThreshold : ℚ := 35 / 100

/-- The prices of a candle, where they are there. -/
structure Candle where
  openPrice : Option ℚ
  closePrice : Option ℚ
  deriving DecidableEq, Repr

/-- What the cache has under `market:candles:BTCUSDT:15m`. -/
inductive CachedCandles where
  | missing
  | unreadable
  | candles (candles : List Candle)
  deriving DecidableEq, Repr

def Candle.movePct (candle : Candle) : ℚ :=
  let openPrice := candle.openPrice.getD 0
  if openPrice = 0 then 0 else (candle.closePrice.getD 0 - openPrice) / openPrice * 100

/-- `_flash_crash_detected`. -/
def flashCrashDetected : CachedCandles → Bool
  | .candles candles => candles.getLast?.any fun last => last.movePct ≤ -10
  | _ => false

structure ExecutionMetric where
  slippagePct : Option ℚ
  finalStatus : Option String
  deriving DecidableEq, Repr

structure ExecutionHealth where
  slippageSpike : Bool
  rejectRateHigh : Bool
  rejectRate : ℚ
  recentSlippage : ℚ
  baselineSlippage : ℚ
  deriving DecidableEq, Repr

def meanSlippage (rows : List ExecutionMetric) : ℚ :=
  (rows.map fun row => |row.slippagePct.getD 0|).sum / max rows.length 1

/-- `_execution_health_flags`, for the metrics with the newest first. -/
def executionHealthFlags (metrics : List ExecutionMetric) : ExecutionHealth :=
  let rows := metrics.take 120
  let recent := rows.take 20
  let baseline := if 20 < rows.length then rows.drop 20 else rows
  let rejects := recent.filter fun row =>
    lower (row.finalStatus.getD "") ∈ ["rejected", "error", "failed", "timeout"]
  let rejectRate : ℚ := rejects.length / max recent.length 1
  if rows = [] then ⟨false, false, 0, 0, 0⟩
  else {
    slippageSpike := 0 < meanSlippage baseline ∧ meanSlippage baseline * 3 < meanSlippage recent
    rejectRateHigh := orderRejectRateThreshold ≤ rejectRate
    rejectRate := roundTo 4 rejectRate
    recentSlippage := roundTo 4 (meanSlippage recent)
    baselineSlippage := roundTo 4 (meanSlippage baseline) }

/-- A user's limits, and the profits and losses of the positions closed since the day began. -/
structure UserRisk where
  userId : String
  baseCapital : ℚ
  dailyLossLimitPct : ℚ
  closedToday : List (Option ℚ)
  deriving DecidableEq, Repr

def UserRisk.dailyLoss (user : UserRisk) : ℚ :=
  |((user.closedToday.map fun pnl => pnl.getD 0).filter (· < 0)).sum|

def todayDailyLossExceededUsers (users : List UserRisk) : List String :=
  (users.filter fun user =>
    user.baseCapital * (user.dailyLossLimitPct / 100) ≤ user.dailyLoss).map (·.userId)

/-- Everything that an evaluation reads beside the control row. -/
structure Readings where
  websocketStatus : String
  heartbeatAge : Option ℚ
  executionErrors : ℤ
  riskAnomalies : ℤ
  users : List UserRisk
  failedEvents : ℕ
  candles : CachedCandles
  metrics : List ExecutionMetric
  deriving DecidableEq, Repr

/-- The reasons for which the kill switch is triggered. -/
def Readings.reasons (readings : Readings) : List String :=
  let heartbeatStale := readings.heartbeatAge.all (120 < ·)
  let health := executionHealthFlags readings.metrics
  [("exchange_unreachable", decide (readings.websocketStatus ≠ "connected") && heartbeatStale),
    ("execution_errors_spike", decide (executionErrorThreshold ≤ readings.executionErrors)),
    ("risk_engine_anomaly", decide (riskAnomalyThreshold ≤ readings.riskAnomalies)),
    ("daily_loss_exceeded", !(todayDailyLossExceededUsers readings.users).isEmpty),
    ("failed_events_overload", decide (20 ≤ readings.failedEvents)),
    ("flash_crash_detected", flashCrashDetected readings.candles),
    ("slippage_spike", health.slippageSpike),
    ("exchange_error_reject_rate_high", health.rejectRateHigh)].filterMap fun reason =>
      if reason.2 then some reason.1 else none

/-- What a payload has from an evaluation and not from a reset. -/
structure Evaluated where
  executionErrors : ℤ
  riskAnomalies : ℤ
  dailyLossExceededUsers : List String
  failedEventsPending : ℕ
  executionHealth : ExecutionHealth
  deriving DecidableEq, Repr

def Readings.evaluated (readings : Readings) : Evaluated where
  executionErrors := readings.executionErrors
  riskAnomalies := readings.riskAnomalies
  dailyLossExceededUsers := todayDailyLossExceededUsers readings.users
  failedEventsPending := readings.failedEvents
  executionHealth := executionHealthFlags readings.metrics

/-- The value under `pipeline:kill_switch`. -/
structure Payload where
  triggered : Bool
  active : Bool
  reasons : List String
  evaluated : Option Evaluated
  deriving DecidableEq, Repr

/-- The payload of a reset, and what a reader takes for an entry that it cannot read. -/
def Payload.inactive : Payload := ⟨false, false, [], none⟩

inductive Entry where
  | missing
  | malformed
  | json (payload : Payload)
  deriving DecidableEq, Repr

/-- What `kill_switch_state` makes of the entry. -/
def Entry.state : Entry → Payload
  | .json payload => payload
  | _ => .inactive

end KillSwitch

/-!
## Evaluating, resetting and reading the kill switch

The kill switch is the column `emergency_mode` of the control row and an entry of the cache. An
evaluation and a reset run in database sessions of their own, and their accesses to the database
and to the cache interleave. A session keeps the row as it has read it until its next commit, and a
commit writes the column only where the value assigned differs from the one that was read.

What the readings are, whether a command raises, and whether an alert commits are up to the
surroundings.
-/

open Interleaving

namespace KillSwitch

inductive Command where
  | readControl
  | marketData
  | executionErrors
  | riskAnomalies
  | users
  | failedEvents
  | candles
  | metrics
  | emergencyMode
  | commitMode (mode : Bool)
  | createSystemAlert (alertType : String)
  | createAuditLog (action : String)
  | getEntry
  | setEntry (payload : Payload)
  deriving DecidableEq

@[reducible] def Command.Reply : Command → Type
  | .readControl => Bool
  | .marketData => String × Option ℚ
  | .executionErrors => ℤ
  | .riskAnomalies => ℤ
  | .users => List UserRisk
  | .failedEvents => ℕ
  | .candles => CachedCandles
  | .metrics => List ExecutionMetric
  | .emergencyMode => Bool
  | .commitMode _ => Unit
  | .createSystemAlert _ => Unit
  | .createAuditLog _ => Unit
  | .getEntry => Entry
  | .setEntry _ => Unit

@[reducible] def signature : Signature where
  Command := Command
  Reply := Command.Reply
  Failure := String

/-- What the surroundings decide about a command. -/
structure Oracle where
  readings : Readings
  alertCommits : Bool
  raises : Option String

/-- What a session has of the control row. -/
inductive Copy where
  | none
  | loaded (mode : Bool)
  | expired
  deriving DecidableEq, Repr

/-- The committed `emergency_mode` of the control row, if there is that row, the entry of the
cache and the sessions. -/
structure World where
  control : Option Bool
  entry : Entry
  copies : Thread → Copy

namespace World

variable (world : World) (thread : Thread)

def put (copy : Copy) : World :=
  { world with copies := Function.update world.copies thread copy }

@[simp] theorem put_copies (copy : Copy) : (world.put thread copy).copies thread = copy :=
  Function.update_self _ _ _

def expire : World :=
  world.put thread (if world.copies thread = .none then .none else .expired)

def load : World :=
  match world.copies thread, world.control with
  | .loaded _, _ => world
  | _, some mode => world.put thread (.loaded mode)
  | _, none => world

/-- Assign a mode to the copy and commit: a mode that it already had is not written. -/
def commitMode (mode : Bool) : World :=
  { world.expire thread with
    control := if world.copies thread = .loaded mode then world.control
      else world.control.map fun _ => mode }

/-- What a command that does not raise does and answers. -/
def answer (oracle : Oracle) : (command : Command) → World × Except String command.Reply
  | .readControl =>
      (world.load thread, .ok ((world.load thread).copies thread != .none))
  | .marketData => (world, .ok (oracle.readings.websocketStatus, oracle.readings.heartbeatAge))
  | .executionErrors => (world, .ok oracle.readings.executionErrors)
  | .riskAnomalies => (world, .ok oracle.readings.riskAnomalies)
  | .users => (world, .ok oracle.readings.users)
  | .failedEvents => (world, .ok oracle.readings.failedEvents)
  | .candles => (world, .ok oracle.readings.candles)
  | .metrics => (world, .ok oracle.readings.metrics)
  | .emergencyMode =>
      match (world.load thread).copies thread with
      | .loaded mode => (world.load thread, .ok mode)
      | _ => (world, .error "Instance has been deleted, or its row is otherwise not present")
  | .commitMode mode => (world.commitMode thread mode, .ok ())
  | .createSystemAlert _ => (if oracle.alertCommits then world.expire thread else world, .ok ())
  | .createAuditLog _ => (world.expire thread, .ok ())
  | .getEntry => (world, .ok world.entry)
  | .setEntry payload => ({ world with entry := .json payload }, .ok ())

def perform (oracle : Oracle) (command : Command) : World × Except String command.Reply :=
  match oracle.raises with
  | some reason => (world, .error reason)
  | none => world.answer thread oracle command

end World

def services : Service signature World Oracle where
  perform thread oracle command world := world.perform thread oracle command
  opens thread world := world.put thread .none
  closes thread world := world.put thread .none

def ask (command : Command) : Program signature command.Reply :=
  let issued : signature.Command := command
  Program.call issued

def whenever (condition : Prop) [Decidable condition] (program : Program signature Unit) :
    Program signature Unit :=
  if condition then program else .done ()

/-- What an evaluation reads beside the control row. -/
def takeReadings : Program signature Readings := do
  let market ← ask .marketData
  let executionErrors ← ask .executionErrors
  let riskAnomalies ← ask .riskAnomalies
  let users ← ask .users
  let failedEvents ← ask .failedEvents
  let candles ← ask .candles
  let metrics ← ask .metrics
  return {
    websocketStatus := market.1
    heartbeatAge := market.2
    executionErrors
    riskAnomalies
    users
    failedEvents
    candles
    metrics }

/-- `control.emergency_mode` if there is a control row. -/
def emergencyMode (control fallback : Bool) : Program signature Bool :=
  if control then ask .emergencyMode else .done fallback

def trigger : Program signature Unit := do
  ask (.commitMode true)
  ask (.createAuditLog "kill_switch_triggered")
  ask (.createSystemAlert "global_kill_switch_triggered")

/-- `evaluate_kill_switch`. -/
def evaluateKillSwitch : Program signature Payload := do
  let control ← ask .readControl
  let readings ← takeReadings
  let reasons := readings.reasons
  whenever ("daily_loss_exceeded" ∈ reasons) (ask (.createSystemAlert "daily_loss_limit_hit"))
  let triggered := decide (reasons ≠ [])
  let currentActive ← emergencyMode control false
  whenever (control ∧ triggered ∧ ¬currentActive) trigger
  let effectiveActive ← emergencyMode control triggered
  let payload : Payload := {
    triggered := effectiveActive
    active := effectiveActive
    reasons := if effectiveActive ∧ reasons = [] then ["manual_emergency_mode"] else reasons
    evaluated := some readings.evaluated }
  ask (.setEntry payload)
  return payload

def clear : Program signature Unit := do
  ask (.commitMode false)
  ask (.createAuditLog "kill_switch_reset")

/-- `reset_kill_switch`. -/
def resetKillSwitch : Program signature Payload := do
  let control ← ask .readControl
  whenever control clear
  ask (.setEntry .inactive)
  return .inactive

/-- `kill_switch_state`. -/
def killSwitchState : Program signature Payload := do
  let entry ← ask .getEntry
  return entry.state

inductive Call where
  | evaluate
  | reset
  | state
  deriving DecidableEq, Repr

def Call.code : Call → Program signature Unit
  | .evaluate => do
    let _ ← evaluateKillSwitch
  | .reset => do
    let _ ← resetKillSwitch
  | .state => do
    let _ ← killSwitchState

def killSwitch : System signature World Oracle Call where
  toService := services
  code := Call.code

end KillSwitch
