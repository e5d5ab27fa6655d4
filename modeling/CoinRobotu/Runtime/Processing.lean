import CoinRobotu.Runtime.Tasks

/-!
# Which functions never reach Redis

A command is offline when it is not addressed to Redis.
-/

open Interleaving
open Program (only_bind only_outcome only_mono)

namespace Runtime

def Command.offline : Command → Prop
  | .redis _ => False
  | _ => True

attribute [local simp] Command.offline

abbrev Offline {α : Type} (program : Program services α) : Prop :=
  program.Only (S := services) Command.offline

theorem createFailedEvent_offline (fields : FailedEventFields) :
    Offline (createFailedEvent fields) := by
  simp [Program.Only, createFailedEvent]

theorem upsertFailedEvent_offline (fields : FailedEventFields) :
    Offline (upsertFailedEvent fields) := by
  refine only_bind (by simp [Program.Only]) fun existing => ?_
  cases existing with
  | none => exact createFailedEvent_offline fields
  | some row => simp [Program.Only]

theorem handleRuntimeFailure_offline {envelope : Envelope} {errorMessage reasonCode : String}
    {retryCount maxRetry : Nat} {nextRetryAt : Option Time} {status : String} :
    Offline (handleRuntimeFailure envelope errorMessage reasonCode retryCount maxRetry nextRetryAt
      status) :=
  only_bind (upsertFailedEvent_offline _) fun _ => trivial

theorem createAuditLog_offline : Offline createAuditLog := by
  simp [Program.Only, createAuditLog]

theorem noteConnection_offline (intent : ExecutionIntent) : Offline (noteConnection intent) := by
  simp [Program.Only, noteConnection]

theorem noteFailure_offline (intent : Option ExecutionIntent) : Offline (noteFailure intent) := by
  cases intent with
  | none => trivial
  | some intent => exact noteConnection_offline intent

theorem enforceGates_offline : Offline enforceGates := by
  simp [Program.Only, enforceGates]

theorem addIntentEvent_offline {intentId eventType eventStatus : String}
    {externalOrderId : Option String} {payload : Payload} :
    Offline (addIntentEvent intentId eventType eventStatus externalOrderId payload) := by
  simp [Program.Only, addIntentEvent]

theorem lookUpIntent_offline (envelope : Envelope) : Offline (lookUpIntent envelope) := by
  unfold lookUpIntent
  dsimp only
  split
  · trivial
  · refine only_bind (by simp [Program.Only]) fun found => ?_
    cases found <;> trivial

theorem submitOrder_offline (hashing : Hashing IntentPayload) (order : Order)
    (handler : Failure → Failure) :
    Offline ((submitOrder hashing order).attempt fun failure => throw (handler failure)) := by
  simp [Program.Only, submitOrder]

end Runtime

/-!
## What a pass does to the bus after it took an event

A pass that took an event asks whether it was processed, publishes events of
other types, and in the end marks the event or hands it to the retry or the
quarantine list, and removes it from its processing list.
-/

namespace Runtime

/-- A command by which a pass processes an event it took. -/
def Command.processing : Command → Prop
  | .redis (.incr key) => key = orderingKey
  | .redis (.rpush key _) => key ≠ streamKey submissionRequested
  | .redis (.lrem key _ _) => ∃ workerName, key = processingKey submissionRequested workerName
  | .redis (.sismember _ _) => True
  | .redis (.sadd key _) => key = processedEventsSet
  | .redis _ => False
  | _ => True

attribute [local simp] Command.processing

abbrev Processing {α : Type} (program : Program services α) : Prop :=
  program.Only (S := services) Command.processing

theorem processing_of_offline {α : Type} {program : Program services α}
    (offline : Offline program) : Processing program := by
  refine only_mono (fun command off => ?_) offline
  cases command with
  | redis command => exact off.elim
  | _ => trivial

theorem streamKey_submission_ne {eventType : String} (different : eventType ≠ submissionRequested) :
    streamKey eventType ≠ streamKey submissionRequested :=
  fun same => different (streamKey_injective same)

theorem allEvents_ne_submission : allEventsKey ≠ streamKey submissionRequested := by decide

theorem runtimeEvents_ne_submission : runtimeEventsQueue ≠ streamKey submissionRequested := by
  decide

section Pass

variable (hashing : Hashing IntentPayload)

theorem publish_processing {eventType : String} (different : eventType ≠ submissionRequested)
    (payload : Payload) (correlationId : String) (causationId : Option String)
    (partitionKey : String) :
    Processing (publishRuntimeEvent hashing eventType payload correlationId causationId
      partitionKey) := by
  simp [Program.Only, publishRuntimeEvent, streamKey_submission_ne different,
    allEvents_ne_submission, runtimeEvents_ne_submission]

theorem ack_processing (workerName : String) (raw : Raw) :
    Processing (ackRuntimeEvent (processingKey submissionRequested workerName) raw) := by
  simp [Program.Only, ackRuntimeEvent]

theorem markEventProcessed_processing (eventId : String) :
    Processing (markEventProcessed eventId) := by
  simp [Program.Only, markEventProcessed]

theorem isEventProcessed_processing (eventId : String) : Processing (isEventProcessed eventId) := by
  simp [Program.Only, isEventProcessed]

theorem enqueueRetry_processing (entry : RetryEntry) : Processing (enqueueRetryEvent entry) := by
  have different : runtimeRetryQueue ≠ streamKey submissionRequested :=
    (streamKey_ne_retry submissionRequested).symm
  simp [Program.Only, enqueueRetryEvent, different]

theorem enqueueQuarantine_processing (envelope : Envelope) (errorMessage reasonCode : String)
    (retryCount maxRetry : Nat) :
    Processing (enqueueQuarantineEvent envelope errorMessage reasonCode retryCount maxRetry) := by
  have different : runtimeQuarantineQueue ≠ streamKey submissionRequested :=
    (streamKey_ne_quarantine submissionRequested).symm
  have dead : runtimeDeadLetterQueue ≠ streamKey submissionRequested := by decide
  simp [Program.Only, enqueueQuarantineEvent, different, dead]

theorem reported_ne_submission : ∀ eventType ∈ reportedTypes, eventType ≠ submissionRequested := by
  decide

theorem processing_passes (workerName : String) :
    Passes hashing Command.processing (processingKey submissionRequested workerName) where
  adds _ _ _ _ _ _ := processing_of_offline addIntentEvent_offline
  publishes _ reported _ _ _ _ :=
    publish_processing hashing (reported_ne_submission _ reported) _ _ _ _
  submits _ _ := processing_of_offline (submitOrder_offline hashing _ _)
  finds _ _ := trivial
  mints := trivial
  notes _ := processing_of_offline (noteConnection_offline _)
  gates := processing_of_offline enforceGates_offline
  completes _ _ _ := only_bind (only_call trivial) fun _ =>
    only_bind (markEventProcessed_processing _) fun _ =>
      only_bind (ack_processing workerName _) fun _ => trivial

theorem handleSubmissionFailure_processing (envelope : Envelope) (eventId workerName : String)
    (raw : Raw) (intent : Option ExecutionIntent) (exc : Failure) :
    Processing (handleSubmissionFailure envelope eventId
      (processingKey submissionRequested workerName) raw intent exc) := by
  refine only_bind (processing_of_offline (noteFailure_offline intent)) fun _ => ?_
  refine only_bind (by simp [Program.Only]) fun now => ?_
  refine only_bind (ack_processing workerName raw) fun _ => ?_
  have reported : ∀ envelope errorMessage reasonCode retryCount maxRetry nextRetryAt status,
      Processing (handleRuntimeFailure envelope errorMessage reasonCode retryCount maxRetry
        nextRetryAt status) := fun _ _ _ _ _ _ _ =>
    processing_of_offline handleRuntimeFailure_offline
  split
  · exact only_bind (enqueueQuarantine_processing _ _ _ _ _) fun _ =>
      only_bind (reported _ _ _ _ _ _ _) fun _ => trivial
  · exact only_bind (enqueueRetry_processing _) fun _ =>
      only_bind (reported _ _ _ _ _ _ _) fun _ => trivial

theorem processEvent_processing (envelope : Envelope) (eventId workerName : String) (raw : Raw) :
    Processing (processEvent hashing envelope eventId
      (processingKey submissionRequested workerName) raw) :=
  (processing_passes hashing workerName).processEvent
    (processing_of_offline (lookUpIntent_offline envelope))
    fun _ _ => handleSubmissionFailure_processing _ _ _ _ _ _

end Pass

end Runtime
