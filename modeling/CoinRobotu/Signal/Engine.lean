import Mathlib.Data.List.Infix
import CoinRobotu.Signal.Services

/-!
# The execution engine

A delivery works on the rows its session holds, and its `try` block must hand
the session on when it raises: what was assigned by then is what the handler
commits. Such code is a function from the session to a program that ends with a
result or a failure, and with the session.
-/

open Interleaving

namespace Signal

open Runtime (upper lower)
open Numeric

/-- Code inside the `try` block of a delivery. -/
def Engine (α : Type) : Type := Work → Program services (Except String α × Work)

namespace Engine

variable {α β : Type}

def raise (failure : String) : Engine α := fun work => .done (.error failure, work)

def get : Engine Work := fun work => .done (.ok work, work)

def issue (command : Command) : Engine command.Reply := fun work =>
  if command.ofSession ∧ work.broken then .done (.error "pending_rollback", work)
  else .issue command fun answer => .done (answer, work.answered command answer)

def next (rest : α → Engine β) : Except String α × Work → Program services (Except String β × Work)
  | (.ok value, work) => rest value work
  | (.error failure, work) => .done (.error failure, work)

instance : Monad Engine where
  pure value := fun work => .done (.ok value, work)
  bind first rest := fun work => (first work).bind (next rest)

end Engine

open Engine

def readJob : Engine ExecutionJob := do
  let work ← get
  if work.jobExpired then
    match ← issue (.findJob work.job.id) with
    | some row => pure row
    | none => raise "object_deleted"
  else pure work.job

def readOrder : Engine Order := do
  let work ← get
  if work.orderExpired then
    match ← issue (.findOrder work.order.id) with
    | some row => pure row
    | none => raise "object_deleted"
  else pure work.order

/-- `db.commit()`. -/
def commitSession : Engine Unit := do
  let work ← get
  issue (.commit work.changes)

/-- `create_system_alert`: it commits the session, unless it leaves an
acknowledged alert as it is. -/
def createSystemAlert : Engine Unit := do
  let kept ← issue (.ask "alert_kept" true)
  if kept then pure ()
  else do
    commitSession
    issue (.aside "dispatch_alert" false)
    commitSession

def alertTrigger (question : String) : Engine Unit := do
  let due ← issue (.ask question true)
  if due then createSystemAlert else pure ()

def evaluateAutoKillSwitch : Engine Unit := do
  let due ← issue (.ask "kill_switch_due" true)
  if due then do
    issue (.aside "activate_kill_switch" false)
    createSystemAlert
  else pure ()

/-- `create_audit_log`, with its commit. -/
def createAuditLog : Engine Unit := do
  issue (.aside "audit_log" true)
  commitSession

/-- `_emit_timeline_event`. -/
def emitTimelineEvent : Engine Unit := issue (.aside "timeline_event" false)

/-- `advance_order_state`, without a reason. -/
def advanceOrderState (order : Order) (newState : String) : Except String Order :=
  let current := upper (if order.state = "" then "CREATED" else order.state)
  let target := upper newState
  if target ∈ stateTransitions current then
    .ok { order with
      state := target
      failReason := if target = "FAILED" then none else order.failReason
      rejectReason := if target = "CANCELED" then none else order.rejectReason }
  else .error "invalid_order_state_transition"

/-- What a fill adds: `order.filled_size or order.size`. -/
def Order.quantity (order : Order) : ℚ :=
  if order.filledSize = 0 then order.size else order.filledSize

/-- The position after `_sync_position_after_fill`. -/
def syncedPosition (order : Order) : Option Position → Position
  | none =>
      { userId := order.userId
        symbol := order.symbol
        size := order.quantity
        entryPrice := orOne (order.avgFillPrice.getD 0)
        currentPrice := orOne (order.avgFillPrice.getD 0)
        status := "open"
        externalOrderId := order.externalOrderId }
  | some row =>
      { row with
        size := row.size + order.quantity
        currentPrice :=
          if order.avgFillPrice.getD 0 = 0 then orOne row.currentPrice
          else order.avgFillPrice.getD 0
        status := "open"
        externalOrderId := order.externalOrderId }

def syncPositionAfterFill : Engine Unit := do
  let work ← get
  let row ← issue (.findPosition (work.order.userId, work.order.symbol))
  issue (.hold { work with position := some (row, syncedPosition work.order row) })

/-- One state of the result: the order moves, the job follows, and a fill
reaches the position. -/
def applyState (state : String) : Engine Unit := do
  let work ← get
  match advanceOrderState work.order state with
  | .error failure => raise failure
  | .ok moved => do
      issue (.assign work.order.id work.order.state moved.state)
      issue (.hold { work with order := moved, job := { work.job with state } })
      if state = "FILLED" then syncPositionAfterFill else pure ()
      emitTimelineEvent

/-- The loop of `handle_execution_result`. -/
def applyStates : List String → Engine Unit
  | [] => pure ()
  | state :: states => do
      applyState state
      applyStates states

def Order.withResult (order : Order) (result : ExchangeResult) : Order :=
  { order with
    externalOrderId := some result.externalOrderId
    avgFillPrice := some result.avgFillPrice
    filledSize := result.filledSize }

/-- `handle_execution_result`: the state of the job it returns. -/
def handleExecutionResult (result : ExchangeResult) : Engine String := do
  let _ ← readJob
  let _ ← readOrder
  let work ← get
  issue (.hold { work with order := work.order.withResult result })
  applyStates result.states
  issue (.aside "execution_metric" true)
  commitSession
  let _ ← readOrder
  let job ← readJob
  pure job.state

/-- What `execute_queued_job` returns. -/
structure ExecutionReply where
  status : String
  reason : Option String
  state : Option String
  retryCount : Option ℤ
  error : Option String
deriving DecidableEq

def ExecutionJob.requiredMargin (job : ExecutionJob) : ℚ :=
  job.size * orOne job.markPrice / (max (if job.leverage = 0 then 1 else job.leverage) 1 : ℤ)

def ExecutionJob.request (job : ExecutionJob) : SubmitRequest :=
  { executionJobId := job.id
    idempotencyKey := job.idempotencyKey
    symbol := job.symbol
    side := job.side
    size := job.size
    strategyName := job.strategyName
    markPrice := orOne job.markPrice }

/-- The `try` block after the adapter answered. -/
def recordExecution (result : ExchangeResult) : Engine ExecutionReply := do
  let work ← get
  issue (.hold { work with job := { work.job with failureClass := none } })
  let slow ← issue (.ask "execution_latency" false)
  if slow then createSystemAlert else pure ()
  let state ← handleExecutionResult result
  createAuditLog
  alertTrigger "failed_orders"
  evaluateAutoKillSwitch
  pure ⟨"processed", none, some state, none, none⟩

/-- The `try` block of `execute_queued_job`. -/
def routeJob : Engine ExecutionReply := do
  let work ← get
  let available ← issue .availableBalance
  if available < work.job.requiredMargin then raise "insufficient_balance"
  else do
    let reply ← issue (.submitOrder work.job.request)
    recordExecution (reply.toResult (orOne work.job.markPrice))

def contains (text part : String) : Bool := part.toList <:+: text.toList

def failureClassOf (failure : String) : String :=
  let lowered := lower failure
  if contains lowered "insufficient_balance" then "insufficient_balance"
  else if contains lowered "network" then "network_error"
  else if contains lowered "timeout" then "timeout"
  else if contains lowered "guard" then "adapter_guard"
  else if contains lowered "reject" then "exchange_reject"
  else "unknown"

def authMarkers : List String :=
  ["invalid api-key", "invalid api key", "signature", "-2015", "x-proxy-token", "proxy token",
    "permission", "unauthorized"]

/-- `str(exc)[:250]`. -/
def firstCharacters (failure : String) : String := String.ofList (failure.toList.take 250)

def ExecutionJob.afterFailure (job : ExecutionJob) (failure : String) : ExecutionJob :=
  { job with
    retryCount := job.retryCount + 1
    lastError := some (firstCharacters failure)
    failReason := some (firstCharacters failure)
    failureClass := some (failureClassOf failure)
    state := if job.maxRetry ≤ job.retryCount + 1 then "FAILED" else job.state }

/-- `backoff_ms`. -/
def backoffMs (retryCount : ℤ) : ℤ := min 8000 (1000 * 2 ^ (max 0 (retryCount - 1)).toNat)

/-- The end of the handler: the triggers, and the reply. -/
def finishFailure (failure : String) : Engine ExecutionReply := do
  alertTrigger "worker_failures"
  alertTrigger "failed_orders"
  let job ← readJob
  if job.failureClass = some "exchange_reject" ∧
      authMarkers.any (contains (lower failure)) then createSystemAlert else pure ()
  evaluateAutoKillSwitch
  let job ← readJob
  pure ⟨if upper job.state = "FAILED" then "failed" else "retry", none, some job.state,
    some job.retryCount, some (firstCharacters failure)⟩

/-- The `except` block of `execute_queued_job`. -/
def handleFailure (payload : QueuePayload) (failure : String) : Engine ExecutionReply := do
  let job ← readJob
  let work ← get
  issue (.hold { work with job := job.afterFailure failure })
  commitSession
  let job ← readJob
  if upper job.state = "FAILED" then do
    let _ ← readOrder
    emitTimelineEvent
    finishFailure failure
  else do
    let time ← issue .now
    issue (.rpush { payload with
      retryCount := job.retryCount
      retryAtTs := time + backoffMs job.retryCount })
    finishFailure failure

def conclude {α : Type} : Except String α × Work → Program services α
  | (.ok value, _) => .done value
  | (.error failure, _) => .fail failure

/-- The `try` statement. -/
def tryRoute (payload : QueuePayload) (work : Work) : Program services ExecutionReply :=
  (routeJob work).bind fun
    | (.ok reply, _) => .done reply
    | (.error failure, left) => (handleFailure payload failure left).bind conclude

/-- The order that `_create_or_get_order` inserts. -/
def newOrder (id : Id) (job : ExecutionJob) : Order :=
  { id
    executionJobId := job.id
    userId := job.userId
    symbol := job.symbol
    side := job.side
    size := job.size
    state := "CREATED"
    externalOrderId := none
    avgFillPrice := none
    filledSize := 0
    rejectReason := none
    failReason := none }

/-- The session that holds a job and its order. -/
def Work.opened (job : ExecutionJob) (storedOrder : Option Order) (order : Order) : Work :=
  { storedJob := job
    job
    storedOrder
    order
    position := none
    jobExpired := false
    orderExpired := false
    broken := false }

/-- `_create_or_get_order`, up to the session it leaves. -/
def createOrGetOrder (job : ExecutionJob) : Program services Work := do
  let existing ← call (.orderOfJob job.id)
  match existing with
  | some order => pure (.opened job (some order) order)
  | none => do
      let id ← call .uuid4
      let _ ← call (.flush [.insertOrder (newOrder id job)])
      pure (.opened job none (newOrder id job))

/-- `execute_queued_job` once the job was found and is not terminal. -/
def executeJob (payload : QueuePayload) (job : ExecutionJob) : Program services ExecutionReply := do
  let time ← call .now
  if payload.retryAtTs ≠ 0 ∧ time < payload.retryAtTs then do
    let _ ← call (.rpush payload)
    pure ⟨"deferred", none, none, none, none⟩
  else do
    let work ← createOrGetOrder job
    let _ ← call (.aside "execution_adapter" false)
    tryRoute payload work

/-- `execute_queued_job`. -/
def executeQueuedJob (payload : QueuePayload) : Program services ExecutionReply :=
  match payload.executionJobId with
  | none => pure ⟨"ignored", some "missing_execution_job_id", none, none, none⟩
  | some id => do
      let found ← call (.findJob id)
      match found with
      | none => pure ⟨"ignored", some "execution_job_not_found", none, none, none⟩
      | some job =>
          if upper job.state ∈ terminalStates then
            pure ⟨"ignored", some "already_terminal", some job.state, none, none⟩
          else executeJob payload job

def consumeExecutionQueueOnce : Program services (Option ExecutionReply) := do
  let raw ← call .lpop
  match raw with
  | none => pure none
  | some payload => do
      let reply ← executeQueuedJob payload
      pure (some reply)

end Signal
