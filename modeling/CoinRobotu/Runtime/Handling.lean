import CoinRobotu.Runtime.Guard

/-!
# What changes failed events

Besides the worker, which records a failure when it happens, two parties change the rows of
failed events. The recovery loop of the pipeline takes the oldest pending and retrying rows,
counts a first retry and marks the row resolved at the next look; it never sends the event
anywhere.
-/

open Interleaving

namespace Runtime

/-- `mark_failed_event_retry` on a row as it was loaded. -/
def markFailedEventRetry (loaded : FailedEvent) : Program services Unit := do
  let retryCount := loaded.retryCount + 1
  if loaded.maxRetry ≤ retryCount then
    let updatedAt ← call .now
    changeFailedEvent loaded.id fun row =>
      { row with
        retryCount
        status := "dead"
        deadLetterReason := some (orElse loaded.deadLetterReason "max_retry_reached")
        lastActionBy := none
        retryReason := none
        updatedAt }
  else
    let now ← call .now
    let updatedAt ← call .now
    changeFailedEvent loaded.id fun row =>
      { row with
        retryCount
        status := "retrying"
        nextRetryAt := some (now + 15 * 1000000)
        lastActionBy := none
        retryReason := none
        updatedAt }
  (call (.aside "trigger_failed_event_alerts")).attempt fun _ => .done ()

def markFailedEventResolved (loaded : FailedEvent) : Program services Unit := do
  let resolvedAt ← call .now
  let updatedAt ← call .now
  changeFailedEvent loaded.id fun row =>
    { row with
      status := "resolved"
      resolvedAt := some resolvedAt
      lastActionBy := none
      updatedAt }

def recoveryQueue (createdAt : String → Time) (rows : List FailedEvent) : List FailedEvent :=
  ((rows.filter fun row => row.status ∈ ["pending", "retrying"]).mergeSort
    fun first second => decide (createdAt first.id ≤ createdAt second.id)).take 20

def reloadFailedEvent (id : String) : Program services FailedEvent := do
  match ← call (.database (.findFailedById id)) with
  | none => throw (.other "Instance has been deleted, or its row is otherwise not present")
  | some row => return row

def retryOrResolve (current : FailedEvent) : Program services Unit :=
  if 1 ≤ current.retryCount then markFailedEventResolved current else markFailedEventRetry current

/-- One row of the loop. A commit expires what was loaded, so every row but the first is read
again. -/
def recoverFailedEvent (loaded : Bool) (row : FailedEvent) : Program services Unit :=
  (do
    let current ← if loaded then pure row else reloadFailedEvent row.id
    retryOrResolve current).attempt fun _ => do
      let current ← reloadFailedEvent row.id
      markFailedEventRetry current

def recoverFailedEvents : Bool → List FailedEvent → Program services Unit
  | _, [] => .done ()
  | loaded, row :: rows => do
      recoverFailedEvent loaded row
      recoverFailedEvents false rows

/-- One round of `_failed_event_recovery_loop`. -/
def failedEventRecoveryPass (createdAt : String → Time) : Program services Unit :=
  (do
    let rows ← call (.database .allFailed)
    recoverFailedEvents true (recoveryQueue createdAt rows)).attempt fun _ => .done ()

section System

inductive HandlingTask where
  | publish (eventType : String) (payload : Payload) (correlationId : String)
      (causationId : Option String) (partitionKey : String)
  | dispatch (strategyId correlationId : String) (decision : DecisionResult)
      (context : ContextPayload)
  | workerPass (workerName : String)
  | recoveryPass (createdAt : String → Time)
  | adminAction (eventId action : String)
  | runtimeAction (eventId action : String)
  | safetyAction (quarantineId action note : String)

variable (hashing : Hashing IntentPayload)

/-- The function a task calls. -/
def handlingCode : HandlingTask → Program services Unit
  | .publish eventType payload correlationId causationId partitionKey => do
      let _ ← publishRuntimeEvent hashing eventType payload correlationId causationId partitionKey
  | .dispatch strategyId correlationId decision context => do
      let _ ← dispatchDecisionResult hashing strategyId correlationId decision context
  | .workerPass workerName => do
      let _ ← processSubmissionEventOnce hashing workerName
  | .recoveryPass createdAt => failedEventRecoveryPass createdAt
  | .adminAction eventId action => adminRuntimeQuarantineAction eventId action
  | .runtimeAction eventId action => applyRuntimeQuarantineAction hashing eventId action
  | .safetyAction quarantineId action note =>
      applyExecutionSafetyQuarantineAction hashing quarantineId action note

def handling : System services World Oracle HandlingTask :=
  { runtimeService with code := handlingCode hashing }

abbrev HandlingMachine := Machine services World HandlingTask

def HandlingTask.dismissal : HandlingTask → Option String
  | .adminAction eventId action => if action = "dismiss" then some eventId else none
  | .runtimeAction eventId action =>
      if lower (strip action) = "dismiss" then some eventId else none
  | .safetyAction quarantineId action _ =>
      if quarantineActionMap.find (lower (strip action)) = some "dismiss" then some quarantineId
      else none
  | _ => none

end System

end Runtime
