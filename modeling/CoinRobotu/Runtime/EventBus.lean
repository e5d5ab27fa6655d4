import CoinRobotu.Runtime.Services

/-!
# The runtime event bus

The functions of the event bus over Redis. An event goes to the source queue of
its type, a worker moves it to its processing list, and a failed one goes to
the retry list or to the quarantine list. Releasing due retries and removing a
quarantine entry rewrite a list in several commands, without a transaction.
-/

open Interleaving

namespace Runtime

/-- The digests of `hashlib`, with the serialisation they are applied to. -/
structure Hashing (IntentPayload : Type) where
  payloadHash : Payload → String
  intentHash : IntentPayload → String
  /-- `int(hashlib.sha256(...).hexdigest()[:8], 16)` -/
  seed : String → Nat

section Publish

variable {IntentPayload : Type} (hashing : Hashing IntentPayload)

/-- `publish_runtime_event`, with `schema_version` at its default. -/
def publishRuntimeEvent (eventType : String) (payload : Payload) (correlationId : String)
    (causationId : Option String) (partitionKey : String) : Program services Envelope := do
  let eventId ← call .uuid4
  let ordering ← call (.redis (.incr orderingKey))
  let createdAt ← call .now
  let envelope : Envelope :=
    { eventId := some eventId
      eventType
      correlationId
      causationId
      partitionKey
      createdAt
      schemaVersion := "1.0"
      ordering
      payload
      payloadHash := hashing.payloadHash payload
      metadata := none }
  let raw := Raw.envelope envelope
  let _ ← call (.redis (.rpush (streamKey eventType) [raw]))
  let _ ← call (.redis (.rpush allEventsKey [raw]))
  let _ ← call (.redis (.rpush runtimeEventsQueue [raw]))
  return envelope

end Publish

/-- `consume_runtime_event`: the event, its processing list and its raw text. -/
def consumeRuntimeEvent (eventType workerName : String) :
    Program services (Option (Envelope × String × Raw)) := do
  let processing := processingKey eventType workerName
  let popped ← call (.redis (.brpoplpush (streamKey eventType) processing))
  match popped with
  | none => return none
  | some raw =>
      match raw.loadEnvelope with
      | none => throw (.valueError "Expecting value")
      | some envelope => return some (envelope, processing, raw)

def ackRuntimeEvent (processingQueue : String) (raw : Raw) : Program services Unit := do
  let _ ← call (.redis (.lrem processingQueue 1 raw))

def isEventProcessed (eventId : String) : Program services Bool :=
  call (.redis (.sismember processedEventsSet eventId))

def markEventProcessed (eventId : String) : Program services Unit :=
  call (.redis (.sadd processedEventsSet eventId))

def enqueueRetryEvent (entry : RetryEntry) : Program services RetryEntry := do
  let _ ← call (.redis (.rpush runtimeRetryQueue [.retry entry]))
  return entry

def enqueueQuarantineEvent (envelope : Envelope) (errorMessage reasonCode : String)
    (retryCount maxRetry : Nat) : Program services QuarantineEntry := do
  let quarantinedAt ← call .now
  let entry : QuarantineEntry :=
    ⟨envelope, errorMessage, reasonCode, retryCount, maxRetry, quarantinedAt⟩
  let raw := Raw.quarantine entry
  let _ ← call (.redis (.rpush runtimeDeadLetterQueue [raw]))
  let _ ← call (.redis (.rpush runtimeQuarantineQueue [raw]))
  return entry

def requeueRuntimeEvent (envelope : Envelope) : Program services Unit := do
  let raw := Raw.envelope envelope
  if envelope.eventType ≠ "" then
    let _ ← call (.redis (.rpush (streamKey envelope.eventType) [raw]))
  let _ ← call (.redis (.rpush allEventsKey [raw]))
  let _ ← call (.redis (.rpush runtimeEventsQueue [raw]))

/-- Whether a retry entry is due. A missing or unreadable time counts as now; a
time without a zone cannot be compared and raises. -/
def RetryAt.isDue (now : Time) : RetryAt → Except Failure Bool
  | .absent => .ok true
  | .unreadable => .ok true
  | .naive _ => .error .typeError
  | .aware time => .ok (decide (time ≤ now))

/-- The loop of `release_due_retry_events`: due entries are requeued one by one,
the others are collected; a text that is no JSON is passed over. -/
def releaseLoop (now : Time) : List Raw → Nat → List Raw → Program services (Nat × List Raw)
  | [], released, deferred => return (released, deferred)
  | raw :: remaining, released, deferred =>
      match raw.loadEntry with
      | none => releaseLoop now remaining released deferred
      | some (envelope, nextRetryAt) =>
          match nextRetryAt.isDue now with
          | .error failure => throw failure
          | .ok true => do
              requeueRuntimeEvent envelope
              releaseLoop now remaining (released + 1) deferred
          | .ok false => releaseLoop now remaining released (deferred ++ [raw])

def releaseDueRetryEvents (limit : Int) : Program services Nat := do
  let rawItems ← call (.redis (.lrange runtimeRetryQueue 0 (limit - 1)))
  if rawItems = [] then return 0
  else
    call (.redis (.ltrim runtimeRetryQueue rawItems.length (-1)))
    let now ← call .now
    let (released, deferred) ← releaseLoop now rawItems 0 []
    if deferred ≠ [] then
      let _ ← call (.redis (.rpush runtimeRetryQueue deferred))
    return released

/-- The entries `remove_quarantine_event` writes back. -/
def remainingEntries (eventId : String) (rawItems : List Raw) : List Raw :=
  rawItems.filter fun raw =>
    match raw.loadEntry with
    | none => false
    | some (envelope, _) => envelope.eventId ≠ some eventId

def removeQuarantineEvent (eventId : String) : Program services Unit := do
  let rawItems ← call (.redis (.lrange runtimeQuarantineQueue 0 (-1)))
  if rawItems = [] then return ()
  else
    let remaining := remainingEntries eventId rawItems
    call (.redis (.delete runtimeQuarantineQueue))
    if remaining ≠ [] then
      let _ ← call (.redis (.rpush runtimeQuarantineQueue remaining))

end Runtime
