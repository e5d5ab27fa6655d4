import CoinRobotu.Signal.Engine

/-!
# Signals and reconciliation

`submit_signal` turns a signal into a job: it checks the signal, asks the
canary and the risk limits, and enqueues the job. Several of the helpers commit
on the way, so a job can be committed before it is accepted.
`run_order_reconciliation` asks the exchange for the status of every open order
and writes what it answers. In both a failure ends the task, and what was not
committed is lost.
-/

open Interleaving

namespace Signal

open Runtime (upper orElse)
open Numeric

/-- The limits that the model checks by itself; the daily loss is a question. -/
structure RiskLimits where
  maxPositionPct : ℚ
  leverageCap : ℤ
  perUserNotionalCap : ℚ
deriving DecidableEq

/-- A call of `submit_signal`. -/
structure SignalRequest where
  userId : String
  symbol : Option String
  side : Option String
  size : Option ℚ
  strategyName : Option String
  timestamp : Option String
  markPrice : Option ℚ
  leverage : Option ℤ
  idempotencyKey : Option String
  limits : RiskLimits
deriving DecidableEq

/-- What `submit_signal` returns. -/
structure SignalReply where
  status : String
  executionJobId : Option Id
  idempotencyKey : Option String
  state : Option String
  rejectReasons : List String
deriving DecidableEq

/-- `float(signal.get("mark_price") or 1.0)`. -/
def SignalRequest.price (request : SignalRequest) : ℚ := orOne (request.markPrice.getD 0)

/-- `int(signal.get("leverage") or 1)`. -/
def SignalRequest.leverage' (request : SignalRequest) : ℤ :=
  if request.leverage.getD 0 = 0 then 1 else request.leverage.getD 0

/-- `_build_idempotency_key`. -/
def buildIdempotencyKey (userId symbol side strategyName timestamp : String) : String :=
  userId ++ ":" ++ upper symbol ++ ":" ++ upper side ++ ":" ++ strategyName ++ ":" ++ timestamp

/-- What a commit writes of a job: the whole row, or what was assigned since the
last commit. -/
def saveJob (stored : Option ExecutionJob) (job : ExecutionJob) : List Change :=
  match stored with
  | none => [.insertJob job]
  | some row => if job = row then [] else [.updateJob row job]

def auditJob (stored : Option ExecutionJob) (job : ExecutionJob) : Program services Unit := do
  let _ ← call (.aside "audit_log" true)
  call (.commit (saveJob stored job))

/-- A system alert is committed, and the job with it, unless an acknowledged
alert stays as it is. -/
def alertJob (stored : Option ExecutionJob) (job : ExecutionJob) :
    Program services (Option ExecutionJob) := do
  let kept ← call (.ask "alert_kept" true)
  if kept then pure stored
  else do
    let _ ← call (.commit (saveJob stored job))
    let _ ← call (.aside "dispatch_alert" false)
    let _ ← call (.commit [])
    pure (some job)

def triggerJob (question : String) (stored : Option ExecutionJob) (job : ExecutionJob) :
    Program services (Option ExecutionJob) := do
  let due ← call (.ask question true)
  if due then alertJob stored job else pure stored

/-- The proposed notional of `evaluate_risk`. -/
def proposedNotional (size markPrice : ℚ) : ℚ := max 0 (size * max markPrice 0)

/-- The reasons of `evaluate_risk` that do not depend on the daily loss. -/
def limitReasons (limits : RiskLimits) (killSwitch : Bool) (size markPrice : ℚ) (leverage : ℤ)
    (openNotional : ℚ) : List String :=
  let proposed := proposedNotional size markPrice
  let maxPositionNotional := limits.perUserNotionalCap * (limits.maxPositionPct / 100)
  (if killSwitch then ["kill_switch_active"] else []) ++
    (if maxPositionNotional < proposed then ["max_position_pct_exceeded"] else []) ++
    (if limits.leverageCap < leverage then ["leverage_cap_exceeded"] else []) ++
    if limits.perUserNotionalCap < openNotional + proposed then ["per_user_notional_cap_exceeded"]
    else []

/-- The daily loss: its reasons, and the job as it is committed by then. -/
def dailyLoss (job : ExecutionJob) : Program services (List String × Option ExecutionJob) := do
  let exceeded ← call (.ask "max_daily_loss_exceeded" true)
  if exceeded then do
    let stored ← triggerJob "daily_loss_limit" none job
    let drawdown ← call (.ask "kill_switch_drawdown" false)
    if drawdown then do
      let _ ← call (.aside "block_all_trades" false)
      pure (["max_daily_loss_exceeded", "kill_switch_triggered"], stored)
    else pure (["max_daily_loss_exceeded"], stored)
  else pure ([], none)

/-- `evaluate_risk`: its reject reasons, and the job as it is committed by then. -/
def evaluateRisk (request : SignalRequest) (size : ℚ) (job : ExecutionJob) :
    Program services (List String × Option ExecutionJob) := do
  let killSwitch ← call (.ask "kill_switch_active" false)
  let openNotional ← call (.openNotional request.userId)
  let loss ← dailyLoss job
  let reasons :=
    limitReasons request.limits killSwitch size request.price request.leverage'
      openNotional ++ loss.1
  if reasons = [] then pure (reasons, loss.2)
  else do
    let _ ← auditJob loss.2 job
    pure (reasons, some job)

/-- `enqueue_execution` and the end of `submit_signal`. -/
def enqueueExecution (stored : Option ExecutionJob) (job : ExecutionJob) :
    Program services SignalReply := do
  let _ ← call (.aside "timeline_event" false)
  let payload : QueuePayload := ⟨some job.id, job.retryCount, 0⟩
  let _ ← call (.rpush payload)
  let accepted := { job with queuePayload := some payload }
  let _ ← call (.commit (saveJob stored accepted))
  let _ ← triggerJob "queue_depth" (some accepted) accepted
  let _ ← triggerJob "kill_switch_due" (some accepted) accepted
  let _ ← auditJob (some accepted) accepted
  pure ⟨"enqueued", some job.id, some job.idempotencyKey, some job.state, []⟩

def ExecutionJob.rejected (job : ExecutionJob) (reason : Option String) : ExecutionJob :=
  { job with state := "FAILED", rejectReason := reason }

/-- The end of `submit_signal` once the risk was evaluated. -/
def decideSignal (job : ExecutionJob) (reasons : List String) (stored : Option ExecutionJob) :
    Program services SignalReply :=
  if reasons = [] then enqueueExecution stored job
  else do
    let failed := job.rejected reasons.head?
    let _ ← auditJob stored failed
    let _ ← call (.aside "timeline_event" false)
    let _ ← call (.commit [])
    pure ⟨"rejected", some job.id, some job.idempotencyKey, some "FAILED", reasons⟩

/-- The canary refused the signal; for two of its three reasons it committed an
audit row. -/
def rejectByCanary (job : ExecutionJob) (reason : String) : Program services SignalReply :=
  let failed := job.rejected (some reason)
  if reason = "canary_strategy_not_allowed" then do
    let _ ← call (.commit (saveJob none failed))
    pure ⟨"rejected", some job.id, some job.idempotencyKey, some "FAILED", [reason]⟩
  else do
    let _ ← auditJob none job
    let _ ← call (.commit (saveJob (some job) failed))
    pure ⟨"rejected", some job.id, some job.idempotencyKey, some "FAILED", [reason]⟩

/-- The job that `submit_signal` adds. -/
def newJob (id : Id) (key : String) (request : SignalRequest) (symbol side : String) (size : ℚ) :
    ExecutionJob :=
  { id
    idempotencyKey := key
    userId := request.userId
    symbol
    side
    size
    strategyName := orElse request.strategyName "runtime_strategy"
    state := "CREATED"
    rejectReason := none
    failReason := none
    lastError := none
    failureClass := none
    retryCount := 0
    maxRetry := 3
    queuePayload := none
    markPrice := request.price
    leverage := request.leverage' }

/-- `submit_signal` once its key is known to be new. -/
def admitSignal (request : SignalRequest) (key symbol side : String) (size : ℚ) :
    Program services SignalReply := do
  let id ← call .uuid4
  let job := newJob id key request symbol side size
  let _ ← call (.flush [.insertJob job])
  let canary ← call .evaluateCanary
  match canary with
  | some reason => rejectByCanary job reason
  | none => do
      let risk ← evaluateRisk request size job
      decideSignal job risk.1 risk.2

def adjustedSize (size : ℚ) (precheck : Precheck) : ℚ :=
  let adjusted := if precheck.adjustedSize.getD 0 = 0 then size else precheck.adjustedSize.getD 0
  if 0 < adjusted ∧ adjusted < size then adjusted else size

def noteWhen (condition : Bool) : Program services Unit :=
  if condition then call (.aside "audit_log" true) else pure ()

def signalKey (request : SignalRequest) (symbol side : String) : Program services String :=
  if orElse request.idempotencyKey "" ≠ "" then pure (orElse request.idempotencyKey "")
  else if orElse request.timestamp "" ≠ "" then
    pure (buildIdempotencyKey request.userId symbol side
      (orElse request.strategyName "runtime_strategy") (orElse request.timestamp ""))
  else do
    let time ← call .now
    pure (buildIdempotencyKey request.userId symbol side
      (orElse request.strategyName "runtime_strategy") (toString time))

/-- `submit_signal` after the precheck. -/
def keepSignal (request : SignalRequest) (symbol side : String) (size : ℚ) :
    Program services SignalReply := do
  let key ← signalKey request symbol side
  let existing ← call (.findJobByKey key)
  match existing with
  | some job => pure ⟨"duplicate", some job.id, some key, some job.state, []⟩
  | none => admitSignal request key symbol side size

/-- `submit_signal`. -/
def submitSignal (request : SignalRequest) : Program services SignalReply :=
  let symbol := upper (request.symbol.getD "")
  let side := upper (orElse request.side "BUY")
  let size := request.size.getD 0
  if symbol = "" ∨ side ∉ ["BUY", "SELL"] ∨ size ≤ 0 then
    @Program.fail services _ "invalid_signal_payload"
  else do
    let killSwitch ← call (.ask "kill_switch_active" false)
    let _ ← noteWhen killSwitch
    let precheck ← call .validatePrecheck
    if precheck.valid then do
      let _ ← noteWhen (adjustedSize size precheck ≠ size)
      keepSignal request symbol side (adjustedSize size precheck)
    else pure ⟨"rejected", none, none, some "FAILED", ["precheck_failed"]⟩

/-- The order after the exchange reported another state. -/
def Order.reconciled (order : Order) (payload : StatusPayload) : Order :=
  let exchangeState := upper payload.status
  if exchangeState = "FILLED" then
    { order with
      state := exchangeState
      filledSize :=
        if payload.executedQty ≠ 0 then payload.executedQty
        else if order.filledSize ≠ 0 then order.filledSize
        else order.size
      avgFillPrice := some
        (if payload.avgFillPrice ≠ 0 then payload.avgFillPrice else order.avgFillPrice.getD 0) }
  else { order with state := exchangeState }

def followingJob (order : Order) (exchangeState : String) : Program services (List Change) :=
  if exchangeState ∈ ["FILLED", "CANCELED", "FAILED"] then do
    let found ← call (.findJob order.executionJobId)
    match found with
    | some job => pure (saveJob (some job) { job with state := exchangeState })
    | none => pure []
  else pure []

/-- One order of the reconciliation: the changes it adds. -/
def reconcileOrder (order : Order) : Program services (List Change) := do
  let answer ← (call (.orderStatus order.symbol (order.externalOrderId.getD ""))).outcome
  match answer with
  | .error _ => pure []
  | .ok reply =>
      let payload := reply.toStatus
      let exchangeState := upper payload.status
      if exchangeState = "" ∨ exchangeState = upper order.state then pure []
      else do
        let _ ← call (.assign order.id order.state exchangeState)
        let jobs ← followingJob order exchangeState
        pure (.updateOrder order (order.reconciled payload) :: jobs)

def reconcileOrders : List Order → Program services (List Change)
  | [] => pure []
  | order :: orders => do
      let changes ← reconcileOrder order
      let others ← reconcileOrders orders
      pure (changes ++ others)

def runOrderReconciliation (limit : ℤ) : Program services Unit := do
  let orders ← call (.openOrders limit)
  let changes ← reconcileOrders orders
  call (.commit changes)

/-- A task a process runs with a session of its own. -/
inductive Task where
  | signal (request : SignalRequest)
  | deliver (payload : QueuePayload)
  | consume
  | reconcile (limit : ℤ)
deriving DecidableEq

def Task.code : Task → Program services Unit
  | .signal request => (submitSignal request).bind fun _ => .done ()
  | .deliver payload => (executeQueuedJob payload).bind fun _ => .done ()
  | .consume => consumeExecutionQueueOnce.bind fun _ => .done ()
  | .reconcile limit => runOrderReconciliation limit

def engine : System services World Oracle Task := ⟨signalService, Task.code⟩

/-- Nothing raises, nothing is due, and the exchange fills one unit at 100. -/
def steady : Oracle where
  fault := none
  accepts := false
  answer := false
  time := 0
  balance := 1000
  reply := ⟨true, "exchange-1", "FILLED", 1, 100, 100⟩
  precheck := ⟨true, none⟩
  canary := none
  recent := [1, 2, 3, 4]

def raising : Oracle := { steady with fault := some "connection reset" }

/-- A new job that buys one unit at 100. -/
def sampleJob : ExecutionJob where
  id := 1
  idempotencyKey := "key-1"
  userId := "user"
  symbol := "BTCUSDT"
  side := "BUY"
  size := 1
  strategyName := "runtime_strategy"
  state := "CREATED"
  rejectReason := none
  failReason := none
  lastError := none
  failureClass := none
  retryCount := 0
  maxRetry := 3
  queuePayload := none
  markPrice := 100
  leverage := 1

def World.boot (database : Database) : World := ⟨database, [], 10, [], [], []⟩

def runs (thread : Thread) (count : Nat) (oracle : Oracle) : List (Label Oracle Task) :=
  List.replicate count (.run thread oracle)

end Signal
