import Mathlib.Algebra.Group.Int.Defs
import CoinRobotu.Runtime.EventBus
import CoinRobotu.Runtime.Text

/-!
# Dispatching decisions and processing submissions

`dispatchDecisionResult` admits an intent and publishes its submission event
before it commits the intent's row. `processSubmissionEventOnce` is one pass of
a worker: it releases due retries, takes one event, and submits the event's
intent unless the event was processed or the intent's log is closed. Whatever
raises after the event was taken sends the event to the retry list or to the
quarantine list.
-/

open Interleaving

namespace Runtime

/-- The keyword arguments of `upsert_failed_event`, with its defaults. -/
structure FailedEventFields where
  eventType : String
  entityType : String
  entityId : String
  payload : FailedPayload
  errorMessage : String
  status : String
  retryCount : Int
  maxRetry : Int
  nextRetryAt : Option Time := none
  failureClass : String := "downstream_error"
  deadLetterReason : Option String := none
  lastActionBy : Option String := none
  correlationId : Option String := none
  retryReason : Option String := none

def createFailedEvent (fields : FailedEventFields) : Program services FailedEvent := do
  let id ← call .uuid4
  let updatedAt ← call .now
  let row : FailedEvent :=
    { id
      eventType := fields.eventType
      entityType := fields.entityType
      entityId := fields.entityId
      payload := fields.payload
      errorMessage := fields.errorMessage
      failureClass := fields.failureClass
      deadLetterReason := fields.deadLetterReason
      lastActionBy := fields.lastActionBy
      correlationId := fields.correlationId
      retryReason := fields.retryReason
      status := fields.status
      retryCount := fields.retryCount
      maxRetry := fields.maxRetry
      nextRetryAt := fields.nextRetryAt
      resolvedAt := none
      updatedAt }
  call (.database (.addFailed row))
  call (.database .commit)
  call (.aside "refresh")
  (call (.aside "trigger_failed_event_alerts")).attempt fun _ => .done ()
  return row

/-- The assignments `upsert_failed_event` makes to an existing row. -/
def FailedEventFields.assignTo (fields : FailedEventFields) (updatedAt : Time)
    (row : FailedEvent) : FailedEvent :=
  { row with
    eventType := fields.eventType
    payload := fields.payload
    errorMessage := fields.errorMessage
    failureClass := fields.failureClass
    deadLetterReason := fields.deadLetterReason
    lastActionBy := fields.lastActionBy
    correlationId := fields.correlationId
    retryReason := fields.retryReason
    status := fields.status
    retryCount := fields.retryCount
    maxRetry := fields.maxRetry
    nextRetryAt := fields.nextRetryAt
    updatedAt }

def upsertFailedEvent (fields : FailedEventFields) : Program services FailedEvent := do
  let existing ← call (.database (.findFailed fields.entityType fields.entityId))
  match existing with
  | none => createFailedEvent fields
  | some row =>
      let updatedAt ← call .now
      call (.database (.assignFailed row.id (fields.assignTo updatedAt)))
      call (.database .commit)
      call (.aside "refresh")
      (call (.aside "trigger_failed_event_alerts")).attempt fun _ => .done ()
      return fields.assignTo updatedAt row

section Dispatch

/-- The keys of `decision_result` the dispatcher reads; `canonical` is the JSON
text of the whole object. -/
structure DecisionResult where
  action : String
  strategyVersionId : String
  size : Option ℚ
  priceReference : String
  decisionHash : String
  contextHash : String
  reasonCodes : List String
  canonical : String

/-- The keys of `context_payload` the dispatcher reads. -/
structure ContextPayload where
  accountId : Option String
  userId : Option String
  symbol : String
  canonical : String

structure IntentPayload where
  strategyId : String
  strategyVersionId : String
  accountId : Option String
  symbol : String
  side : String
  orderType : String
  quantity : ℚ
  priceReference : String
  decisionHash : String
  contextHash : String
  correlationId : String

/-- `map_decision_to_intent`, without the two keys it adds at the end. -/
def mapDecisionToIntent (strategyId correlationId : String) (decision : DecisionResult)
    (context : ContextPayload) : Option IntentPayload :=
  if decision.action = "REJECT" ∨ decision.action = "HOLD" then none
  else some
    { strategyId
      strategyVersionId := decision.strategyVersionId
      accountId := if blank context.accountId then context.userId else context.accountId
      symbol := context.symbol
      side := decision.action
      orderType := "MARKET"
      quantity := decision.size.getD 0
      priceReference := decision.priceReference
      decisionHash := decision.decisionHash
      contextHash := decision.contextHash
      correlationId }

def jsonList (values : List String) : String := "[" ++ ",".intercalate values ++ "]"

structure IntentSummary where
  intentId : String
  intentHash : String
  status : String
deriving DecidableEq

variable (hashing : Hashing IntentPayload) (strategyId correlationId : String)
  (decision : DecisionResult) (context : ContextPayload)

def publishForDecision (eventType : String) (payload : Payload) : Program services Envelope :=
  publishRuntimeEvent hashing eventType payload correlationId (some decision.decisionHash)
    (context.symbol ++ "::" ++ strategyId)

def rejectDecision (reasonCodes : List String) :
    Program services (Option IntentSummary × List Envelope) := do
  let rejected ← publishForDecision hashing strategyId correlationId decision context
    "execution.intent.rejected"
    [("reason_codes", jsonList reasonCodes), ("decision_hash", decision.decisionHash)]
  call (.database .commit)
  return (none, [rejected])

def enforceGates : Program services Unit := do
  call (.aside "enforce_commercial_control_or_raise")
  call (.aside "enforce_execution_open_allowed_or_raise")

/-- The row of an admitted intent. -/
def intentRow (payload : IntentPayload) (intentHash intentId : String) (createdAt : Time) :
    ExecutionIntent :=
  { intentId
    strategyId := payload.strategyId
    strategyVersionId := payload.strategyVersionId
    accountId := payload.accountId
    symbol := payload.symbol
    side := payload.side
    orderType := payload.orderType
    quantity := payload.quantity
    priceReference := payload.priceReference
    decisionHash := payload.decisionHash
    contextHash := payload.contextHash
    intentHash
    correlationId := payload.correlationId
    status := "pending"
    createdAt }

/-- Add the row, publish the creation and the submission event, and commit. -/
def admitIntent (payload : IntentPayload) :
    Program services (Option IntentSummary × List Envelope) := do
  let intentId ← call .uuid4
  let createdAt ← call .now
  let row := intentRow payload (hashing.intentHash payload) intentId createdAt
  let announced : Payload :=
    [("intent_id", row.intentId), ("intent_hash", row.intentHash), ("symbol", row.symbol)]
  call (.database (.addIntent row))
  call (.database .flush)
  let created ← publishForDecision hashing strategyId correlationId decision context
    "execution.intent.created" announced
  let requested ← publishForDecision hashing strategyId correlationId decision context
    submissionRequested announced
  call (.database .commit)
  return (some ⟨row.intentId, row.intentHash, row.status⟩, [created, requested])

/-- Admit the intent unless a gate refuses it. -/
def admitUnlessBlocked (payload : IntentPayload) :
    Program services (Option IntentSummary × List Envelope) := do
  match ← enforceGates.outcome with
  | .ok _ => admitIntent hashing strategyId correlationId decision context payload
  | .error (.executionSafetyViolation reasonCode) =>
      rejectDecision hashing strategyId correlationId decision context [reasonCode]
  | .error (.commercialControlViolation reasonCode) =>
      rejectDecision hashing strategyId correlationId decision context [reasonCode]
  | .error failure => throw failure

/-- What becomes of the decision once its trace was added. An intent whose hash
is committed already is not admitted again. -/
def settleDecision : Program services (Option IntentSummary × List Envelope) := do
  if decision.action = "REJECT" then
    rejectDecision hashing strategyId correlationId decision context decision.reasonCodes
  else
    match mapDecisionToIntent strategyId correlationId decision context with
    | none => rejectDecision hashing strategyId correlationId decision context ["hold_noop"]
    | some payload =>
        match ← call (.database (.findIntentByHash (hashing.intentHash payload))) with
        | some intent =>
            call (.database .commit)
            return (some ⟨intent.intentId, intent.intentHash, intent.status⟩, [])
        | none => admitUnlessBlocked hashing strategyId correlationId decision context payload

/-- `dispatch_decision_result`: what it returns besides the decision itself. -/
def dispatchDecisionResult : Program services (Option IntentSummary × List Envelope) := do
  let produced ← publishForDecision hashing strategyId correlationId decision context
    "decision.produced"
    [("strategy_id", strategyId), ("decision_result", decision.canonical),
      ("context", context.canonical)]
  let _ ← call .uuid4
  let _ ← call .now
  let settled ← settleDecision hashing strategyId correlationId decision context
  return (settled.1, produced :: settled.2)

end Dispatch

section Adapter

variable (hashing : Hashing IntentPayload)

def lifecycleOf (seed : Nat) : List String :=
  if seed % 5 = 0 then ["NEW", "REJECTED"]
  else if seed % 3 = 0 then ["NEW", "PARTIALLY_FILLED", "CANCELED"]
  else ["NEW", "PARTIALLY_FILLED", "FILLED"]

def submissionStatus (seed : Nat) : String :=
  if seed % 5 = 0 then "rejected" else if seed % 3 = 0 then "cancelled" else "filled"

structure Submission where
  externalOrderId : String
  lifecycle : List String
  status : String

def terminalStates : List String := ["FILLED", "CANCELED", "REJECTED"]

/-- `PaperExchangeAdapter.submit_order`. -/
def submitOrder (order : Order) : Program services Submission := do
  call (.submitOrder order)
  let seed := hashing.seed order.intentHash
  return ⟨"paper-" ++ String.ofList (order.intentHash.toList.take 16), lifecycleOf seed,
    submissionStatus seed⟩

end Adapter

section Worker

variable (hashing : Hashing IntentPayload)

structure PassResult where
  status : String
  eventId : Option String
  reasonCode : Option String := none
  intentId : Option String := none
  terminalState : Option String := none
deriving DecidableEq

/-- `_classify_failure`. -/
def classifyFailure (intent : Option ExecutionIntent) (exc : Failure) : String :=
  match exc, intent with
  | .keyError _, _ => "schema_error"
  | _, none => "intent_state_violation"
  | .valueError message, some _ =>
      if message = "duplicate_terminal_event" then message else "worker_internal_error"
  | .runtimeError message, some _ =>
      if message = "exchange_adapter_failure" then message else "worker_internal_error"
  | _, some _ => "worker_internal_error"

/-- `_handle_runtime_failure`. -/
def handleRuntimeFailure (envelope : Envelope) (errorMessage reasonCode : String)
    (retryCount maxRetry : Nat) (nextRetryAt : Option Time) (status : String) :
    Program services Unit := do
  let _ ← upsertFailedEvent
    { eventType := envelope.eventType
      entityType := "runtime_event"
      entityId := envelope.eventId.getD "unknown"
      payload := ⟨some envelope,
        [("reason_code", reasonCode), ("last_error", errorMessage), ("queue", status)]⟩
      errorMessage
      status
      retryCount
      maxRetry
      nextRetryAt
      failureClass := reasonCode
      deadLetterReason := if status = "quarantined" then some reasonCode else none
      lastActionBy := some "execution_worker"
      correlationId := some envelope.correlationId
      retryReason := some reasonCode }

def maxRetry : Nat := 3

def immediateQuarantine : List String :=
  ["schema_error", "intent_state_violation", "duplicate_terminal_event"]

def Envelope.failedOnce (envelope : Envelope) (reasonCode lastError : String) : Envelope :=
  { envelope with
    metadata := some
      ⟨(envelope.metadata.map Metadata.retryCount).getD 0 + 1, reasonCode, lastError⟩ }

def noteConnection (intent : ExecutionIntent) : Program services Unit :=
  if blank intent.accountId then .done ()
  else call (.aside "note_connection_runtime_event")

/-- A pass that failed before it found its intent has no connection to report to. -/
def noteFailure : Option ExecutionIntent → Program services Unit
  | some intent => noteConnection intent
  | none => .done ()

/-- The outer `except` of `process_submission_event_once`. -/
def handleSubmissionFailure (envelope : Envelope) (eventId processingQueue : String) (raw : Raw)
    (intent : Option ExecutionIntent) (exc : Failure) : Program services PassResult := do
  let reasonCode := classifyFailure intent exc
  noteFailure intent
  let retryCount := (envelope.metadata.map Metadata.retryCount).getD 0 + 1
  let now ← call .now
  let nextRetryAt : Time := now + 2 ^ (retryCount - 1) * 1000000
  let envelope := envelope.failedOnce reasonCode exc.text
  ackRuntimeEvent processingQueue raw
  if reasonCode ∈ immediateQuarantine ∨ retryCount ≥ maxRetry then
    let _ ← enqueueQuarantineEvent envelope exc.text reasonCode retryCount maxRetry
    handleRuntimeFailure envelope exc.text reasonCode retryCount maxRetry none "quarantined"
    return { status := "quarantined", eventId := some eventId, reasonCode := some reasonCode }
  else
    let _ ← enqueueRetryEvent
      ⟨envelope, exc.text, reasonCode, retryCount, maxRetry, .aware nextRetryAt⟩
    handleRuntimeFailure envelope exc.text reasonCode retryCount maxRetry (some nextRetryAt)
      "retrying"
    return { status := "retrying", eventId := some eventId, reasonCode := some reasonCode }

/-- Add one event to an intent's log; `id` and `created_at` are minted here. -/
def addIntentEvent (intentId eventType eventStatus : String) (externalOrderId : Option String)
    (payload : Payload) : Program services Unit := do
  let id ← call .uuid4
  let createdAt ← call .now
  call (.database (.addEvent
    ⟨id, intentId, eventType, eventStatus, externalOrderId, payload, createdAt⟩))

def lifecycleEventType (state : String) : String :=
  if state ∈ terminalStates then orderFinalized else "execution.order.updated"

/-- Record and publish the states of a submission, in their order. -/
def recordLifecycle (intent : ExecutionIntent) (eventId externalOrderId : String) :
    List String → Program services Unit
  | [] => return ()
  | state :: states => do
      addIntentEvent intent.intentId (lifecycleEventType state) (lower state)
        (some externalOrderId) [("state", state)]
      let _ ← publishRuntimeEvent hashing (lifecycleEventType state)
        [("intent_id", intent.intentId), ("state", state), ("external_order_id", externalOrderId)]
        intent.correlationId (some eventId) (intent.symbol ++ "::" ++ intent.strategyId)
      recordLifecycle intent eventId externalOrderId states

def completeSubmission (eventId processingQueue : String) (raw : Raw) (result : PassResult) :
    Program services PassResult := do
  call (.database .commit)
  markEventProcessed eventId
  ackRuntimeEvent processingQueue raw
  return result

def blockSubmission (intent : ExecutionIntent) (eventId processingQueue : String) (raw : Raw)
    (reasonCode : String) : Program services PassResult := do
  addIntentEvent intent.intentId orderFinalized "rejected" none [("reason_code", reasonCode)]
  completeSubmission eventId processingQueue raw
    { status := "blocked", eventId := some eventId, reasonCode := some reasonCode }

/-- Submit the order, record what the exchange reported, and commit. -/
def recordSubmission (intent : ExecutionIntent) (eventId processingQueue : String) (raw : Raw) :
    Program services PassResult := do
  let submission ← (submitOrder hashing
    ⟨intent.intentHash, intent.quantity, intent.priceReference⟩).attempt
      fun _ => throw (.runtimeError "exchange_adapter_failure")
  addIntentEvent intent.intentId "execution.order.submitted" "submitted"
    (some submission.externalOrderId)
    [("external_order_id", submission.externalOrderId), ("status", submission.status)]
  let _ ← publishRuntimeEvent hashing "execution.order.submitted"
    [("intent_id", intent.intentId), ("external_order_id", submission.externalOrderId)]
    intent.correlationId (some eventId) (intent.symbol ++ "::" ++ intent.strategyId)
  recordLifecycle hashing intent eventId submission.externalOrderId submission.lifecycle
  let _ ← call .uuid4
  noteConnection intent
  completeSubmission eventId processingQueue raw
    { status := "processed"
      eventId := some eventId
      intentId := some intent.intentId
      terminalState := submission.lifecycle.getLast? }

/-- The part of the pass that runs once the intent was found. -/
def submitIntent (intent : ExecutionIntent) (eventId processingQueue : String) (raw : Raw) :
    Program services PassResult := do
  let terminalEvent ← call (.database (.findEvent intent.intentId orderFinalized))
  if terminalEvent.isSome then throw (.valueError "duplicate_terminal_event")
  else
    match ← enforceGates.outcome with
    | .ok _ => recordSubmission hashing intent eventId processingQueue raw
    | .error (.executionSafetyViolation reasonCode) =>
        blockSubmission intent eventId processingQueue raw reasonCode
    | .error (.commercialControlViolation reasonCode) =>
        blockSubmission intent eventId processingQueue raw reasonCode
    | .error failure => throw failure

/-- The intent an event names; raising here leaves the pass without an intent. -/
def lookUpIntent (envelope : Envelope) : Program services ExecutionIntent := do
  let intentId := envelope.payload.find "intent_id"
  if blank intentId then throw (.keyError "intent_id")
  else
    match ← call (.database (.findIntent (intentId.getD ""))) with
    | none => throw (.valueError "intent_missing")
    | some intent => return intent

def processEvent (envelope : Envelope) (eventId processingQueue : String) (raw : Raw) :
    Program services PassResult := do
  match ← (lookUpIntent envelope).outcome with
  | .error exc => handleSubmissionFailure envelope eventId processingQueue raw none exc
  | .ok intent =>
      match ← (submitIntent hashing intent eventId processingQueue raw).outcome with
      | .error exc => handleSubmissionFailure envelope eventId processingQueue raw (some intent) exc
      | .ok result => return result

def processSubmissionEventOnce (workerName : String) : Program services (Option PassResult) := do
  let _ ← releaseDueRetryEvents 200
  let consumed ← consumeRuntimeEvent submissionRequested workerName
  match consumed with
  | none => return none
  | some (envelope, processingQueue, raw) =>
      if blank envelope.eventId then
        ackRuntimeEvent processingQueue raw
        return some { status := "schema_error", eventId := none }
      else
        let eventId := envelope.eventId.getD ""
        if ← isEventProcessed eventId then
          ackRuntimeEvent processingQueue raw
          return some { status := "duplicate_skipped", eventId := some eventId }
        else
          let result ← processEvent hashing envelope eventId processingQueue raw
          return some result

end Worker

/-! ## What a pass issues -/

open Program (only_bind only_outcome)

def reportedTypes : List String :=
  ["execution.order.submitted", orderFinalized, "execution.order.updated"]

theorem lifecycleEventType_reported (state : String) :
    lifecycleEventType state ∈ reportedTypes := by
  unfold lifecycleEventType
  split <;> decide

variable (hashing : Hashing IntentPayload)

/-- The steps of a pass with an intent, all of one kind. -/
structure Passes (kind : Command → Prop) (processingQueue : String) : Prop where
  adds : ∀ eventType ∈ reportedTypes, ∀ intentId eventStatus externalOrderId payload,
    Program.Only (S := services) kind
      (addIntentEvent intentId eventType eventStatus externalOrderId payload)
  publishes : ∀ eventType ∈ reportedTypes, ∀ payload correlationId causationId partitionKey,
    Program.Only (S := services) kind
      (publishRuntimeEvent hashing eventType payload correlationId causationId partitionKey)
  submits : ∀ order (handler : Failure → Failure), Program.Only (S := services) kind
    ((submitOrder hashing order).attempt fun failure => throw (handler failure))
  finds : ∀ intentId eventType, kind (.database (.findEvent intentId eventType))
  mints : kind .uuid4
  notes : ∀ intent, Program.Only (S := services) kind (noteConnection intent)
  gates : Program.Only (S := services) kind enforceGates
  completes : ∀ eventId raw result, Program.Only (S := services) kind
    (completeSubmission eventId processingQueue raw result)

namespace Passes

variable {hashing} {kind : Command → Prop} {processingQueue : String}
  (passes : Passes hashing kind processingQueue) (intent : ExecutionIntent)

include passes

theorem recordLifecycle (eventId externalOrderId : String) (states : List String) :
    Program.Only (S := services) kind
      (recordLifecycle hashing intent eventId externalOrderId states) := by
  induction states with
  | nil => trivial
  | cons state states ih =>
    refine only_bind (passes.adds _ (lifecycleEventType_reported state) _ _ _ _) fun _ => ?_
    exact only_bind (passes.publishes _ (lifecycleEventType_reported state) _ _ _ _) fun _ => ih

theorem submitIntent (eventId : String) (raw : Raw) : Program.Only (S := services) kind
    (submitIntent hashing intent eventId processingQueue raw) := by
  have blocked : ∀ reasonCode, Program.Only (S := services) kind
      (blockSubmission intent eventId processingQueue raw reasonCode) := fun _ =>
    only_bind (passes.adds _ (by decide) _ _ _ _) fun _ => passes.completes _ _ _
  refine only_bind (only_call (passes.finds _ _)) fun terminalEvent => ?_
  split
  · trivial
  · refine only_bind (only_outcome passes.gates) fun gates => ?_
    split
    · refine only_bind (passes.submits _ _) fun submission => ?_
      refine only_bind (passes.adds _ (by decide) _ _ _ _) fun _ => ?_
      refine only_bind (passes.publishes _ (by decide) _ _ _ _) fun _ => ?_
      refine only_bind (passes.recordLifecycle _ _ _ _) fun _ => ?_
      refine only_bind (only_call passes.mints) fun _ => ?_
      exact only_bind (passes.notes _) fun _ => passes.completes _ _ _
    · exact blocked _
    · exact blocked _
    · trivial

theorem processEvent {envelope : Envelope} {eventId : String} {raw : Raw}
    (looked : Program.Only (S := services) kind (lookUpIntent envelope))
    (failed : ∀ intent exc, Program.Only (S := services) kind
      (handleSubmissionFailure envelope eventId processingQueue raw intent exc)) :
    Program.Only (S := services) kind
      (processEvent hashing envelope eventId processingQueue raw) := by
  refine only_bind (only_outcome looked) fun found => ?_
  cases found with
  | error exc => exact failed _ _
  | ok intent =>
    refine only_bind (only_outcome (passes.submitIntent _ _ _)) fun result => ?_
    cases result with
    | error exc => exact failed _ _
    | ok result => trivial

end Passes

end Runtime
