import CoinRobotu.Keyed.Table
import CoinRobotu.Lifecycle.Namespace
import CoinRobotu.Runtime.BulkRecovery

/-!
# Snapshots of intents and actions on quarantined rows

Two services answer how the intents stand, and both are written to put what is stuck into
quarantine. The core snapshot reads an attribute that an intent does not have as soon as it
meets one, so it only ever answers about no intents; the namespace snapshot writes. Operators
act on quarantined rows one by one or in a batch. Each call runs by itself here.
-/

namespace Quarantine

open Runtime (ExecutionIntent ExecutionIntentEvent FailedEvent FailedEventFields Time lower strip
  orElse quarantineActionMap)
open Keyed

/-- The intents, their logs and the failed events. -/
structure Tables where
  intents : List ExecutionIntent
  events : List ExecutionIntentEvent
  failed : Table String FailedEvent FailedEvent.id

/-- `_state_timeouts`, in seconds. -/
structure Timeouts where
  created : ℤ
  submitted : ℤ
  acked : ℤ
  partiallyFilled : ℤ
  reconciling : ℤ

def Timeouts.find (timeouts : Timeouts) (state : String) : Option ℤ :=
  if state = "CREATED" then some timeouts.created
  else if state = "SUBMITTED" then some timeouts.submitted
  else if state = "ACKED" then some timeouts.acked
  else if state = "PARTIALLY_FILLED" then some timeouts.partiallyFilled
  else if state = "RECONCILING" then some timeouts.reconciling
  else none

/-- What a call finds around it: the clock, identifiers that no row has yet, the correlation
of a replay, the configured timeouts, and what the bus raises when it is asked to publish
for a row. -/
structure Surroundings where
  now : Time
  uuid4 : (taken : List String) → {id : String // id ∉ taken}
  replayCorrelation : String
  timeouts : Timeouts
  busFailure : FailedEvent → Option String

section Rows

variable (surroundings : Surroundings) (tables : Tables)

def Tables.change (id : String) (change : FailedEvent → FailedEvent)
    (keeps : ∀ row, (change row).id = row.id) : Tables :=
  { tables with failed := tables.failed.modify id change keeps }

def Tables.about (entityType entityId : String) : Option FailedEvent :=
  tables.failed.first fun row => row.entityType = entityType ∧ row.entityId = entityId

/-- `create_failed_event`. -/
def createFailedEvent (fields : FailedEventFields) : Tables :=
  let id := surroundings.uuid4 (tables.failed.rows.map FailedEvent.id)
  let row : FailedEvent :=
    { id := id.1
      eventType := fields.eventType
      entityType := fields.entityType
      entityId := fields.entityId
      payload := fields.payload
      errorMessage := fields.errorMessage
      failureClass := fields.failureClass
      deadLetterReason := fields.deadLetterReason
      lastActionBy := fields.lastActionBy
      correlationId := fields.correlationId
      retryReason := fields.retryReason
      status := fields.status
      retryCount := fields.retryCount
      maxRetry := fields.maxRetry
      nextRetryAt := fields.nextRetryAt
      resolvedAt := none
      updatedAt := surroundings.now }
  { tables with failed := tables.failed.insert row id.2 }

theorem assignTo_id (fields : FailedEventFields) (now : Time) (row : FailedEvent) :
    (fields.assignTo now row).id = row.id := rfl

/-- `upsert_failed_event`. -/
def upsertFailedEvent (fields : FailedEventFields) : Tables :=
  match tables.about fields.entityType fields.entityId with
  | none => createFailedEvent surroundings tables fields
  | some existing =>
      tables.change existing.id (fields.assignTo surroundings.now)
        (assignTo_id fields surroundings.now)

end Rows

/-- `min(max(int(limit or 1), 1), cap)` of the intents, the newest first. -/
def Tables.newest (tables : Tables) (cap limit : ℤ) : List ExecutionIntent :=
  (tables.intents.mergeSort fun first second => decide (second.createdAt ≤ first.createdAt)).take
    (min (max limit 1) cap).toNat

def Tables.eventsOf (tables : Tables) (intentId : String) : List ExecutionIntentEvent :=
  (tables.events.filter fun event => event.intentId = intentId).mergeSort
    fun first second => decide (first.createdAt ≤ second.createdAt)

/-- What the namespace snapshot says of one intent. -/
structure IntentItem where
  intent : ExecutionIntent
  state : String
  statePath : List String
  violations : List String
  isStuck : Bool
  timeoutSeconds : Option ℤ
deriving DecidableEq

/-- One round of the loop of `get_execution_safety_intents`, up to the quarantine. -/
def inspect (timeouts : Timeouts) (now : Time) (tables : Tables) (intent : ExecutionIntent) :
    IntentItem :=
  let events := tables.eventsOf intent.intentId
  let derived := Lifecycle.Namespace.derive intent.status (events.map Lifecycle.entry)
  let lastAt := (events.getLast?.map ExecutionIntentEvent.createdAt).getD intent.createdAt
  let age := max (now - lastAt) 0
  { intent
    state := derived.state
    statePath := derived.statePath
    violations := derived.violations
    isStuck := match timeouts.find derived.state with
      | some timeout => timeout * 1000000 < age
      | none => false
    timeoutSeconds := timeouts.find derived.state }

/-- What the namespace snapshot records of a stuck intent. -/
def stuckFields (now : Time) (item : IntentItem) : FailedEventFields :=
  { eventType := "execution.intent.stuck"
    entityType := "execution_intent"
    entityId := item.intent.intentId
    payload := ⟨none,
      [("intent_id", item.intent.intentId), ("correlation_id", item.intent.correlationId),
        ("state", item.state), ("reason_code", "intent_state_timeout"),
        ("failure_stage", item.state)]⟩
    errorMessage := "intent_state_timeout"
    status := "quarantined"
    retryCount := 0
    maxRetry := 5
    correlationId := some item.intent.correlationId
    nextRetryAt := some (now + 20 * 1000000) }

def quarantineStuck (surroundings : Surroundings) (tables : Tables) (item : IntentItem) : Tables :=
  upsertFailedEvent surroundings tables (stuckFields surroundings.now item)

/-- The items of `get_execution_safety_intents`. -/
def itemsOf (surroundings : Surroundings) (tables : Tables) (limit : ℤ) : List IntentItem :=
  (tables.newest 300 limit).map (inspect surroundings.timeouts surroundings.now tables)

/-- `get_execution_safety_intents`: the tables it leaves and its items. -/
def getExecutionSafetyIntents (surroundings : Surroundings) (tables : Tables) (limit : ℤ)
    (autoQuarantineStuck : Bool) : Tables × List IntentItem :=
  let items := itemsOf surroundings tables limit
  let stuck := if autoQuarantineStuck then items.filter IntentItem.isStuck else []
  (stuck.foldl (quarantineStuck surroundings) tables, items)

/-- `get_execution_intent_state_machine_snapshot`: the row of the first intent already reads
`order_id`, which an intent does not have, before anything is quarantined. -/
def getExecutionIntentStateMachineSnapshot (tables : Tables) (limit : ℤ) : Except String ℕ :=
  match tables.newest 250 limit with
  | [] => .ok 0
  | _ :: _ => .error "'ExecutionIntent' object has no attribute 'order_id'"

section Actions

variable (surroundings : Surroundings) (tables : Tables)

def Tables.findQuarantined (id : String) : Option FailedEvent :=
  (tables.failed.find id).or (tables.failed.first fun row => row.entityId = id)

/-- What a replay makes of a row: of the runtime bus, or of another kind. -/
def replayed (now : Time) (row : FailedEvent) : FailedEvent :=
  if row.entityType = "runtime_event" then
    { row with status := "retrying", retryCount := 0, nextRetryAt := none, updatedAt := now }
  else
    { row with
      status := "retrying"
      retryCount := row.retryCount + 1
      nextRetryAt := some (now + 15 * 1000000)
      updatedAt := now }

def dismissed (now : Time) (row : FailedEvent) : FailedEvent :=
  { row with status := "resolved", resolvedAt := some now, updatedAt := now }

/-- What writing a row off makes of it: of the runtime bus, or of another kind. -/
def markedFailed (now : Time) (row : FailedEvent) : FailedEvent :=
  if row.entityType = "runtime_event" then { row with status := "dead", updatedAt := now }
  else
    { row with
      status := "dead"
      deadLetterReason := some (orElse row.deadLetterReason "manual_mark_failed")
      updatedAt := now }

def applyRuntimeQuarantineAction (eventId action : String) : Except String Tables :=
  match tables.findQuarantined eventId with
  | none => .error "quarantine_event_not_found"
  | some row =>
      let normalized := lower (strip action)
      if normalized = "replay" then
        match surroundings.busFailure row with
        | some failure => .error failure
        | none =>
            .ok (tables.change row.id (replayed surroundings.now) fun row => by
              unfold replayed; split <;> rfl)
      else if normalized = "dismiss" then
        .ok (tables.change row.id (dismissed surroundings.now) fun _ => rfl)
      else if normalized = "mark_failed" then
        .ok (tables.change row.id (markedFailed surroundings.now) fun row => by
          unfold markedFailed; split <;> rfl)
      else .error "invalid_action"

def recoverCandidate (action : String) (row : FailedEvent) : Tables :=
  match applyRuntimeQuarantineAction surroundings tables row.id action with
  | .ok after => after
  | .error _ => tables

def batchRecoverStuckIntents (action : String) (limit : ℤ) : Except String Tables :=
  let normalizedAction := lower (strip (orElse (some action) "replay"))
  if normalizedAction ∉ ["replay", "dismiss", "mark_failed"] then .error "invalid_action"
  else
    let candidates := ((tables.failed.rows.filter fun row =>
        row.entityType = "execution_intent" ∧
          row.status ∈ ["quarantined", "retrying", "pending"]).mergeSort
      fun first second => decide (first.updatedAt ≤ second.updatedAt)).take
        (min (max limit 1) 200).toNat
    .ok (candidates.foldl
      (fun tables row => recoverCandidate surroundings tables normalizedAction row)
      tables)

def recorrelated (correlation : String) (row : FailedEvent) : FailedEvent :=
  { row.putField "correlation_id" correlation with correlationId := some correlation }

/-- What the namespace service does for a mapped action: the tables it leaves, and what it
raises. -/
def actOnQuarantined (row : FailedEvent) (quarantineId mapped note : String) :
    Tables × Option String :=
  if mapped = "replay" then
    let recorrelation := tables.change row.id (recorrelated surroundings.replayCorrelation)
      fun _ => rfl
    match applyRuntimeQuarantineAction surroundings recorrelation quarantineId "replay" with
    | .ok after => (after, none)
    | .error failure => (recorrelation, some failure)
  else if mapped = "dismiss" ∨ mapped = "mark_failed" then
    match applyRuntimeQuarantineAction surroundings tables quarantineId mapped with
    | .ok after => (after, none)
    | .error failure => (tables, some failure)
  else if mapped = "escalate" then
    (tables.change row.id
      (fun row => { row with status := "escalated", updatedAt := surroundings.now })
      fun _ => rfl, none)
  else if mapped = "release_from_quarantine" then
    (tables.change row.id
      (fun row =>
        { row with
          status := "pending"
          nextRetryAt := some surroundings.now
          updatedAt := surroundings.now })
      fun _ => rfl, none)
  else
    (tables.change row.id
      (fun row => { row.putField "notes" note with updatedAt := surroundings.now })
      fun _ => rfl, none)

def withHistory (actor mapped : String) (now : Time) (row : FailedEvent) : FailedEvent :=
  { row.putField "resolution_history" mapped with lastActionBy := some actor, updatedAt := now }

/-- `apply_execution_safety_quarantine_action`; notes and history entries are one key of the
payload each. -/
def applyExecutionSafetyQuarantineAction (quarantineId action actor note : String) :
    Tables × Option String :=
  match quarantineActionMap.find (lower (strip action)) with
  | none => (tables, some "invalid_action")
  | some mapped =>
      match tables.findQuarantined quarantineId with
      | none => (tables, some "quarantine_event_not_found")
      | some row =>
          match actOnQuarantined surroundings tables row quarantineId mapped note with
          | (after, some failure) => (after, some failure)
          | (after, none) =>
              (after.change row.id (withHistory actor mapped surroundings.now) fun _ => rfl, none)

end Actions

end Quarantine
