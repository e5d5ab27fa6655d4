import Mathlib.Data.Rat.Floor
import CoinRobotu.Runtime.Execution

/-!
# Operator actions on runtime events and intents

An operator replays, dismisses or writes off a quarantined event, and recovers
a stuck intent whose log is still open. Both kinds of action work in a session
of their own and end with an audit entry.
-/

open Interleaving

namespace Runtime

/-- `create_audit_log`: the entry is left out, its commit is not. -/
def createAuditLog : Program services Unit := do
  call (.aside "previous_audit_entry")
  call (.database .commit)
  call (.aside "refresh")
  (call (.aside "maybe_auto_create_incident_from_audit")).attempt fun _ =>
    call (.database .rollback)

def requeueRecorded (payload : FailedPayload) : Program services Unit :=
  match payload.envelope with
  | some envelope => if envelope = .absent then .done () else requeueRuntimeEvent envelope
  | none => .done ()

def replayQuarantinedEvent (failedEvent : FailedEvent) : Program services Unit := do
  requeueRecorded failedEvent.payload
  let updatedAt ← call .now
  call (.database (.assignFailed failedEvent.id fun row =>
    { row with status := "retrying", retryCount := 0, nextRetryAt := none, updatedAt }))
  call (.database .commit)
  call (.aside "refresh")
  removeQuarantineEvent failedEvent.entityId

def dismissQuarantinedEvent (failedEvent : FailedEvent) : Program services Unit := do
  let resolvedAt ← call .now
  let updatedAt ← call .now
  call (.database (.assignFailed failedEvent.id fun row =>
    { row with status := "resolved", resolvedAt := some resolvedAt, updatedAt }))
  call (.database .commit)
  call (.aside "refresh")
  removeQuarantineEvent failedEvent.entityId

def markQuarantinedFailed (failedEvent : FailedEvent) : Program services Unit := do
  let updatedAt ← call .now
  call (.database (.assignFailed failedEvent.id fun row =>
    { row with status := "dead", updatedAt }))
  call (.database .commit)
  call (.aside "refresh")

def adminRuntimeQuarantineAction (eventId action : String) : Program services Unit := do
  match ← call (.database (.findFailed "runtime_event" eventId)) with
  | none => throw (.other "quarantine_event_not_found")
  | some failedEvent =>
      if action = "replay" then
        replayQuarantinedEvent failedEvent
        createAuditLog
      else if action = "dismiss" then
        dismissQuarantinedEvent failedEvent
        createAuditLog
      else if action = "mark_failed" then
        markQuarantinedFailed failedEvent
        createAuditLog
      else throw (.other "invalid_action")

section Recovery

variable (hashing : Hashing IntentPayload)

structure RecoveryStatus where
  status : String
  intentId : String
deriving DecidableEq

def requestForIntent (intent : ExecutionIntent) (intentId eventType status : String)
    (payload : Payload) : Program services RecoveryStatus := do
  let _ ← publishRuntimeEvent hashing eventType payload intent.correlationId (some intentId)
    (intent.symbol ++ "::" ++ intent.strategyId)
  createAuditLog
  return ⟨status, intentId⟩

def closeIntent (intentId eventStatus externalOrderId reason status : String) :
    Program services RecoveryStatus := do
  addIntentEvent intentId orderFinalized eventStatus (some externalOrderId) [("reason", reason)]
  call (.database .commit)
  createAuditLog
  return ⟨status, intentId⟩

def performRecoveryAction (intentId action : String) : Program services RecoveryStatus := do
  match ← call (.database (.findIntent intentId)) with
  | none => throw (.valueError "intent_not_found")
  | some intent =>
      let terminalEvent ← call (.database (.findEvent intentId orderFinalized))
      if terminalEvent.isSome then throw (.valueError "intent_terminal")
      else if lower action = "sync_exchange_state" then
        requestForIntent hashing intent intentId "execution.intent.resync" "resync_queued"
          [("intent_id", intentId), ("symbol", intent.symbol)]
      else if lower action = "replay_event_chain" then
        requestForIntent hashing intent intentId submissionRequested "replay_queued"
          [("intent_id", intentId), ("intent_hash", intent.intentHash), ("symbol", intent.symbol)]
      else if lower action = "cancel_intent" then
        closeIntent intentId "canceled" "manual_cancel" "manual_recovery_cancel" "cancelled"
      else if lower action = "mark_failed" then
        closeIntent intentId "failed" "manual_failed" "manual_recovery_failed" "failed"
      else throw (.valueError "invalid_action")

end Recovery

/-!
## Recovery of intents in the execution-safety namespace

A recovery action assigns a new status to a loaded intent and adds events to
its log, alone or for each target of a bulk run. Reconciling asks the exchange
about the order the log names. All of them go through the same session, whose
commits decide what becomes of the assignments.
-/

inductive IntentState where
  | created | submitted | acked | partiallyFilled | filled | failed | canceled | reconciling
  | reconciled
deriving DecidableEq

/-- `INTENT_TRANSITIONS`. -/
def intentTransitions : IntentState → List IntentState
  | .created => [.submitted, .failed, .canceled]
  | .submitted => [.acked, .failed, .canceled]
  | .acked => [.partiallyFilled, .filled, .failed, .canceled, .reconciling]
  | .partiallyFilled => [.partiallyFilled, .filled, .failed, .canceled, .reconciling]
  | .filled => [.reconciling]
  | .failed => []
  | .canceled => []
  | .reconciling => [.reconciled, .failed]
  | .reconciled => []

/-- `_normalize_code`. -/
def normalizeCode (value : String) : String := upper (strip value)

/-- `_canonical_intent_state`. -/
def canonicalIntentState (value : String) : IntentState :=
  match normalizeCode value with
  | "SUBMITTED" => .submitted
  | "ACKED" => .acked
  | "PARTIALLY_FILLED" => .partiallyFilled
  | "FILLED" => .filled
  | "FAILED" => .failed
  | "CANCELED" => .canceled
  | "CANCELLED" => .canceled
  | "RECONCILING" => .reconciling
  | "RECONCILED" => .reconciled
  | _ => .created

/-- `_normalize_state`. -/
def normalizeState (value : String) : String :=
  if upper (strip value) = "CANCELLED" then "CANCELED" else upper (strip value)

/-- `str(value)` of an optional text. -/
def pyStr (value : Option String) : String := value.getD "None"

/-- A text that `str(value or "").strip()` reduces to nothing. -/
def blankText (value : String) : Bool := strip value == ""

def Payload.put (payload : Payload) (key value : String) : Payload :=
  payload.filter (·.1 ≠ key) ++ [(key, value)]

/-- `request_id or (first.payload or {}).get(key) if events else ""`, as text. -/
def spineField (given : Option String) (event : Option ExecutionIntentEvent) (key : String) :
    String :=
  if blank given then
    match event with
    | none => ""
    | some event => pyStr (event.payload.find key)
  else pyStr given

def correlationSpine (intent : ExecutionIntent) (events : List ExecutionIntentEvent)
    (executionId requestId sessionId : Option String) : Payload :=
  [("request_id", spineField requestId events.head? "request_id"),
    ("intent_id", intent.intentId),
    ("order_id", (events.getLast?.bind ExecutionIntentEvent.externalOrderId).getD ""),
    ("execution_id", spineField executionId events.getLast? "execution_id"),
    ("session_id", spineField sessionId events.head? "session_id"),
    ("correlation_id", intent.correlationId)]

def missingFields (spine : Payload) : List String :=
  (spine.filter fun field => blankText field.2).map Prod.fst

/-- `create_execution_attempt_artifact`: the signed artifact is left out, the
check that precedes it is not. -/
def createExecutionAttemptArtifact (intentId : String)
    (executionId requestId sessionId : Option String) : Program services Unit := do
  match ← call (.database (.findIntent intentId)) with
  | none => throw (.valueError "intent_not_found")
  | some intent =>
      let events ← call (.database (.eventsOf intentId))
      let missing := missingFields (correlationSpine intent events executionId requestId sessionId)
      if missing ≠ [] then
        let _ ← upsertFailedEvent
          { eventType := "execution.artifact.correlation_missing"
            entityType := "execution_intent"
            entityId := intent.intentId
            payload := ⟨none,
              [("intent_id", intent.intentId), ("correlation_id", intent.correlationId),
                ("reason_code", "correlation_spine_missing"),
                ("failure_stage", "artifact_finalize"), ("missing_fields", jsonList missing)]⟩
            correlationId := some intent.correlationId
            errorMessage := "correlation_spine_missing"
            status := "quarantined"
            retryCount := 0
            maxRetry := 3 }
        call (.database .commit)
        throw (.valueError "artifact_correlation_missing")
      else call (.aside "persist_execution_safety_artifact")

section Apply

variable (hashing : Hashing IntentPayload)

structure RecoveryReport where
  intentId : String
  status : String
  action : String
  beforeState : IntentState
  afterState : IntentState
  correlationId : String
deriving DecidableEq

/-- `db.refresh(intent)`. -/
def refreshIntent (intentId : String) : Program services ExecutionIntent := do
  match ← call (.database (.findIntent intentId)) with
  | none => throw (.other "Could not refresh instance")
  | some intent => return intent

/-- Quarantine an intent by hand. -/
def quarantineIntent (intent : ExecutionIntent) (reasonCode errorMessage failureStage : String) :
    Program services FailedEvent :=
  upsertFailedEvent
    { eventType := "execution.intent.manual_quarantine"
      entityType := "execution_intent"
      entityId := intent.intentId
      payload := ⟨none,
        [("intent_id", intent.intentId), ("correlation_id", intent.correlationId),
          ("reason_code", reasonCode), ("failure_stage", failureStage)]⟩
      correlationId := some intent.correlationId
      errorMessage
      status := "quarantined"
      retryCount := 0
      maxRetry := 5 }

def IntentState.text : IntentState → String
  | .created => "CREATED"
  | .submitted => "SUBMITTED"
  | .acked => "ACKED"
  | .partiallyFilled => "PARTIALLY_FILLED"
  | .filled => "FILLED"
  | .failed => "FAILED"
  | .canceled => "CANCELED"
  | .reconciling => "RECONCILING"
  | .reconciled => "RECONCILED"

/-- What each recovery action does before the commit. -/
def recordRecovery (intent : ExecutionIntent) (action : String) : Program services Unit := do
  let source : Payload := [("source", "execution_safety_recovery")]
  if action = "retry" then
    let _ ← publishRuntimeEvent hashing submissionRequested
      [("intent_id", intent.intentId), ("source", "execution_safety_recovery_retry")]
      intent.correlationId (some ("recovery::" ++ intent.intentId)) ("intent::" ++ intent.intentId)
    call (.database (.assignStatus intent.intentId "SUBMITTED"))
    addIntentEvent intent.intentId "EXECUTION_RECOVERY_RETRY_REQUESTED" "SUBMITTED" none source
  else if action = "cancel" then
    call (.database (.assignStatus intent.intentId "CANCELED"))
    addIntentEvent intent.intentId "EXECUTION_RECOVERY_CANCEL_REQUESTED" "CANCELED" none source
  else if action = "reconcile" then
    call (.database (.assignStatus intent.intentId "RECONCILING"))
    addIntentEvent intent.intentId "EXECUTION_RECONCILE_STARTED" "RECONCILING" none source
    addIntentEvent intent.intentId "EXECUTION_RECONCILED" "RECONCILED" none source
    call (.database (.assignStatus intent.intentId "RECONCILED"))
  else
    let _ ← quarantineIntent intent "manual_quarantine" "manual_quarantine_requested"
      (canonicalIntentState intent.status).text

/-- Record the action, commit, audit it and sign its artifact. -/
def recoverIntent (intent : ExecutionIntent) (action : String) :
    Program services RecoveryReport := do
  recordRecovery hashing intent action
  call (.database .commit)
  let refreshed ← refreshIntent intent.intentId
  createAuditLog
  createExecutionAttemptArtifact intent.intentId none none none
  return ⟨intent.intentId, refreshed.status, action, canonicalIntentState intent.status,
    canonicalIntentState refreshed.status, intent.correlationId⟩

def recoveryActions : List String := ["retry", "cancel", "reconcile", "quarantine"]

def applyIntentRecoveryAction (intentId action : String) : Program services RecoveryReport := do
  match ← call (.database (.findIntent intentId)) with
  | none => throw (.valueError "intent_not_found")
  | some intent =>
      if lower (strip action) ∈ recoveryActions then
        recoverIntent hashing intent (lower (strip action))
      else throw (.valueError "invalid_action")

end Apply

/-- `_extract_external_order_id`: the newest event that names an order. -/
def extractExternalOrderId (events : List ExecutionIntentEvent) : Option String :=
  events.reverse.findSome? fun event =>
    let recorded := strip (event.externalOrderId.getD "")
    let answered := strip (orElse (event.payload.find "orderId")
      ((event.payload.find "order_id").getD ""))
    if recorded ≠ "" then some recorded else if answered ≠ "" then some answered else none

def orMint (value tag : String) : Program services String := do
  if value ≠ "" then return value
  else
    let minted ← call .uuid4
    return tag ++ minted

/-- `_build_context_envelope`. -/
def buildContextEnvelope (intentId correlationId : String) (orderId : Option String) :
    Program services Payload := do
  let requestId ← call .uuid4
  let order ← orMint (orderId.getD "") "ord-"
  let executionId ← call .uuid4
  let sessionId ← call .uuid4
  return [("request_id", "req-" ++ requestId), ("intent_id", intentId), ("order_id", order),
    ("execution_id", "exe-" ++ executionId), ("session_id", "ses-" ++ sessionId),
    ("correlation_id", correlationId)]

def criticalStages : List String :=
  ["order_submit", "exchange_ack_fill_ingestion", "reconcile_execution", "artifact_finalize",
    "lifecycle_transition_persist"]

/-- `_enforce_correlation_envelope`: whether every field of the spine is there. -/
def enforceCorrelationEnvelope (envelope : Payload) (stage intentId : String) :
    Program services Bool := do
  let missing := missingFields envelope
  if missing = [] then return true
  else if stage ∈ criticalStages then
    let _ ← upsertFailedEvent
      { eventType := "execution.correlation." ++ stage
        entityType := "execution_intent"
        entityId := intentId
        payload := ⟨none,
          [("intent_id", intentId),
            ("correlation_id", (envelope.find "correlation_id").getD ""),
            ("reason_code", "correlation_spine_missing"), ("failure_stage", stage),
            ("missing_fields", jsonList missing)]⟩
        errorMessage := "correlation_spine_missing"
        status := "quarantined"
        retryCount := 0
        maxRetry := 3
        correlationId := envelope.find "correlation_id"
        failureClass := "correlation_violation"
        deadLetterReason := some "correlation_spine_missing" }
    createAuditLog
    return false
  else
    createAuditLog
    return false

/-- `_bybit_private_get_with_retry`: at most `attempts` requests. -/
def exchangeGetWithRetry (endpoint symbol orderId : String) :
    Nat → ExchangeAnswer → Program services ExchangeAnswer
  | 0, last => return last
  | attempts + 1, _ => do
      let answer ← call (.exchange endpoint symbol orderId)
      if answer.ok then return answer
      else exchangeGetWithRetry endpoint symbol orderId attempts answer

/-- `round(value, 8)`: to the nearest multiple, ties to the even one. -/
def round8 (value : ℚ) : ℚ :=
  let scaled : ℚ := value * 10 ^ 8
  let below := Rat.floor scaled
  let rest : ℚ := scaled - below
  let units : Int := if rest < 1 / 2 then below else if 1 / 2 < rest then below + 1
    else if below % 2 = 0 then below else below + 1
  (units : ℚ) / 10 ^ 8

/-- The mismatches between the log and what the exchange reported. -/
def mismatchFlags (events : List ExecutionIntentEvent) (externalOrderId exchangeState : String)
    (detectedFillQty : ℚ) : List String :=
  let localStates := events.map fun event => normalizeState event.eventStatus
  let silent := exchangeState = "UNKNOWN" ∨ exchangeState = ""
  (if 1 < (events.filter fun event => event.externalOrderId.getD "" = externalOrderId).length then
    ["duplicate_order_detection"] else []) ++
  (if exchangeState = "FILLED" ∧ "FILLED" ∉ localStates then
    ["missing_fill_detection"] else []) ++
  (if exchangeState ∈ ["NEW", "PARTIALLYFILLED", "PARTIALLY_FILLED"] ∧ "FILLED" ∈ localStates then
    ["ghost_fill_detection"] else []) ++
  (if "PARTIALLY_FILLED" ∈ localStates ∧ detectedFillQty ≤ 0 then
    ["partial_fill_mismatch_detection"] else []) ++
  (if "SUBMITTED" ∈ localStates ∧ silent then ["late_ack_detection"] else []) ++
  (if ¬silent ∧ externalOrderId = "" then ["order_exists_exchange_local_missing"] else []) ++
  (if "SUBMITTED" ∈ localStates ∧ silent then ["local_submitted_exchange_no_trace"] else []) ++
  (if "CANCELED" ∈ localStates ∧ exchangeState = "FILLED" then
    ["canceled_locally_filled_remotely"] else [])

def compareWithExchange (events : List ExecutionIntentEvent) (externalOrderId : String)
    (orders fills : ExchangeAnswer) : List String :=
  if orders.ok = false ∧ fills.ok = false then ["exchange_unreachable"]
  else
    let exchangeState := if orders.ok then
        upper (orElse (orders.orderStatuses.head?.bind id) "UNKNOWN") else "UNKNOWN"
    let detectedFillQty := if fills.ok then round8 (fills.fills.map Prod.fst).sum else 0
    mismatchFlags events externalOrderId exchangeState detectedFillQty

structure ReconcileReport where
  intentId : String
  beforeState : String
  afterState : String
  reconcileResult : Payload
  idempotentHit : Bool
deriving DecidableEq

def idempotencyWindow : Time := 45 * 1000000

def reconcileResultType : String := "EXECUTION_RECONCILE_RESULT"

def latestReconcile (events : List ExecutionIntentEvent) : Option ExecutionIntentEvent :=
  (events.filter (·.eventType = reconcileResultType)).getLast?

/-- Ask the exchange about the order the log names, and mark the loaded intent
reconciled when nothing contradicts the log. -/
def consultExchange (intent : ExecutionIntent) (events : List ExecutionIntentEvent) :
    Option String → Program services Unit
  | some orderId => do
      let unanswered : ExchangeAnswer := ⟨false, [], []⟩
      let orders ← exchangeGetWithRetry "/v5/order/realtime" intent.symbol orderId 3 unanswered
      let fills ← exchangeGetWithRetry "/v5/execution/list" intent.symbol orderId 3 unanswered
      if compareWithExchange events orderId orders fills = [] then
        call (.database (.assignStatus intent.intentId "RECONCILED"))
      else return ()
  | none => return ()

/-- Reconcile once no stored result answers. The verdict reads an attribute
`order_id`, which an `ExecutionIntent` does not have. -/
def reconcileAgainstExchange (intent : ExecutionIntent) (reason stage : String) :
    Program services ReconcileReport := do
  let events ← call (.database (.eventsOf intent.intentId))
  let externalOrderId := extractExternalOrderId events
  let correlationId ← orMint intent.correlationId "corr-"
  let context ← buildContextEnvelope intent.intentId correlationId externalOrderId
  if ← enforceCorrelationEnvelope context stage intent.intentId then
    call (.database (.assignStatus intent.intentId "RECONCILING"))
    addIntentEvent intent.intentId "EXECUTION_RECONCILE_STARTED" "RECONCILING" externalOrderId
      (("reason", reason) :: context)
    call (.database .flush)
    consultExchange intent events externalOrderId
    throw (.other "'ExecutionIntent' object has no attribute 'order_id'")
  else
    call (.database .commit)
    throw (.valueError "correlation_envelope_missing")

def reconcileIntentWithExchange (intentId reason stage : String) :
    Program services ReconcileReport := do
  match ← call (.database (.findIntent intentId)) with
  | none => throw (.valueError "intent_not_found")
  | some intent =>
      match latestReconcile (← call (.database (.eventsOf intentId))) with
      | none => reconcileAgainstExchange intent reason stage
      | some stored =>
          let now ← call .now
          if now - stored.createdAt < idempotencyWindow then
            return ⟨intent.intentId, normalizeState intent.status, normalizeState intent.status,
              stored.payload, true⟩
          else reconcileAgainstExchange intent reason stage

end Runtime
