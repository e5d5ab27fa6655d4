import Mathlib.Data.List.Sort
import Mathlib.Data.Rat.Defs

/-!
# What the runtime event bus writes

An envelope is the JSON object that `publish_runtime_event` builds. A Redis
list holds JSON texts: an envelope, a retry entry, a quarantine entry, or a
text that is no JSON. A reader asks a decoded object only for the keys of the
kind it expects, so an object of another kind looks to it like an object
without them. Times are microseconds since the epoch.
-/

namespace Runtime

abbrev Time := Int

/-- A JSON object whose values are texts; a nested value is its canonical text. -/
abbrev Payload := List (String × String)

/-- `payload.get(key)`. -/
def Payload.find (payload : Payload) (key : String) : Option String := payload.lookup key

structure Metadata where
  retryCount : Nat
  reasonCode : String
  lastError : String
deriving DecidableEq

structure Envelope where
  eventId : Option String
  eventType : String
  correlationId : String
  causationId : Option String
  partitionKey : String
  createdAt : Time
  schemaVersion : String
  ordering : Int
  payload : Payload
  payloadHash : String
  metadata : Option Metadata
deriving DecidableEq

/-- The empty object `{}`, read as an envelope. -/
def Envelope.absent : Envelope := ⟨none, "", "", none, "", 0, "", 0, [], "", none⟩

/-- `next_retry_at` of a retry entry, as `datetime.fromisoformat` reads it. -/
inductive RetryAt where
  | absent
  | unreadable
  | naive (time : Time)
  | aware (time : Time)
deriving DecidableEq

structure RetryEntry where
  envelope : Envelope
  errorMessage : String
  reasonCode : String
  retryCount : Nat
  maxRetry : Nat
  nextRetryAt : RetryAt
deriving DecidableEq

structure QuarantineEntry where
  envelope : Envelope
  errorMessage : String
  reasonCode : String
  retryCount : Nat
  maxRetry : Nat
  quarantinedAt : Time
deriving DecidableEq

inductive Raw where
  | envelope (sent : Envelope)
  | retry (entry : RetryEntry)
  | quarantine (entry : QuarantineEntry)
  | text (characters : String)
deriving DecidableEq

namespace Raw

/-- `json.loads` for a reader that expects an envelope. -/
def loadEnvelope : Raw → Option Envelope
  | .envelope sent => some sent
  | .retry _ => some .absent
  | .quarantine _ => some .absent
  | .text _ => none

/-- `json.loads` for a reader of the keys `envelope` and `next_retry_at`. -/
def loadEntry : Raw → Option (Envelope × RetryAt)
  | .envelope _ => some (.absent, .absent)
  | .retry entry => some (entry.envelope, entry.nextRetryAt)
  | .quarantine entry => some (entry.envelope, .absent)
  | .text _ => none

end Raw

def processedEventsSet : String := "runtime:processed:event_ids"
def runtimeEventsQueue : String := "runtime_events"
def runtimeRetryQueue : String := "runtime_retry_queue"
def runtimeDeadLetterQueue : String := "runtime_dead_letter_queue"
def runtimeQuarantineQueue : String := "runtime_quarantine_queue"
def allEventsKey : String := "runtime:events:all"
def orderingKey : String := "runtime:events:ordering"

def streamKey (eventType : String) : String := "runtime:events:" ++ eventType

def processingKey (eventType workerName : String) : String :=
  "runtime:events:" ++ eventType ++ ":processing:" ++ workerName

def submissionRequested : String := "execution.order.submission_requested"
def orderFinalized : String := "execution.order.finalized"

theorem toList_streamKey (eventType : String) :
    (streamKey eventType).toList = "runtime:events:".toList ++ eventType.toList :=
  String.toList_append

theorem streamKey_injective : Function.Injective streamKey := by
  intro left right same
  have characters := congrArg String.toList same
  rw [toList_streamKey, toList_streamKey] at characters
  exact String.toList_inj.mp (List.append_cancel_left characters)

theorem streamKey_ne {key : String} (other : ¬"runtime:events:".toList <+: key.toList)
    (eventType : String) : streamKey eventType ≠ key := by
  rintro rfl
  exact other ⟨eventType.toList, (toList_streamKey eventType).symm⟩

theorem streamKey_ne_retry (eventType : String) : streamKey eventType ≠ runtimeRetryQueue :=
  streamKey_ne (by decide) eventType

theorem streamKey_ne_events (eventType : String) : streamKey eventType ≠ runtimeEventsQueue :=
  streamKey_ne (by decide) eventType

theorem streamKey_ne_quarantine (eventType : String) :
    streamKey eventType ≠ runtimeQuarantineQueue :=
  streamKey_ne (by decide) eventType

theorem streamKey_ne_deadLetter (eventType : String) :
    streamKey eventType ≠ runtimeDeadLetterQueue :=
  streamKey_ne (by decide) eventType

theorem processingKey_eq (eventType workerName : String) :
    processingKey eventType workerName =
      streamKey (eventType ++ ":processing:" ++ workerName) := by
  unfold processingKey streamKey
  simp only [String.append_assoc]

theorem processingKey_ne_stream (eventType workerName : String) :
    processingKey eventType workerName ≠ streamKey eventType := by
  intro same
  rw [processingKey_eq] at same
  have longer := congrArg String.length (streamKey_injective same)
  have mark : (":processing:" : String).length = 12 := by decide
  rw [String.length_append, String.length_append, mark] at longer
  omega

/-!
## Rows, sessions and commits

The committed rows are shared; each session keeps what it has added or assigned
and not yet committed. A commit first flushes. A flush that meets an assigned
`ExecutionIntent` raises, because a `before_update` listener declares these
rows immutable, and a flush that meets a duplicate key raises as well. After a
flush failed the session has dropped its pending work and refuses every query
until it is rolled back. Queries see committed rows: no modelled function
queries rows that it has flushed and not committed.
-/

structure ExecutionIntent where
  intentId : String
  strategyId : String
  strategyVersionId : String
  accountId : Option String
  symbol : String
  side : String
  orderType : String
  quantity : ℚ
  priceReference : String
  decisionHash : String
  contextHash : String
  intentHash : String
  correlationId : String
  status : String
  createdAt : Time
deriving DecidableEq

structure ExecutionIntentEvent where
  id : String
  intentId : String
  eventType : String
  eventStatus : String
  externalOrderId : Option String
  payload : Payload
  createdAt : Time
deriving DecidableEq

/-- `payload` of a failed event: the envelope of a runtime event, and the keys
whose values are texts. -/
structure FailedPayload where
  envelope : Option Envelope
  fields : Payload
deriving DecidableEq

structure FailedEvent where
  id : String
  eventType : String
  entityType : String
  entityId : String
  payload : FailedPayload
  errorMessage : String
  failureClass : String
  deadLetterReason : Option String
  lastActionBy : Option String
  correlationId : Option String
  retryReason : Option String
  status : String
  retryCount : Int
  maxRetry : Int
  nextRetryAt : Option Time
  resolvedAt : Option Time
  updatedAt : Time
deriving DecidableEq

/-- The committed rows. Primary keys and the unique column `intent_hash` are
enforced by the server, so no two intents share either. -/
structure Database where
  intents : List ExecutionIntent
  events : List ExecutionIntentEvent
  failed : List FailedEvent
  ids_nodup : (intents.map ExecutionIntent.intentId).Nodup
  hashes_nodup : (intents.map ExecutionIntent.intentHash).Nodup

/-- One transaction's pending work. `statuses` are assignments to the status of
a loaded intent, `changes` are assignments to attributes of a loaded failed
event. -/
structure Session where
  newIntents : List ExecutionIntent
  newEvents : List ExecutionIntentEvent
  newFailed : List FailedEvent
  statuses : List (String × String)
  changes : List (String × (FailedEvent → FailedEvent))
  broken : Bool

def Session.fresh : Session := ⟨[], [], [], [], [], false⟩

def Session.failed : Session := ⟨[], [], [], [], [], true⟩

/-- Python exceptions, as far as some caller looks at them. -/
inductive Failure where
  | keyError (key : String)
  | valueError (message : String)
  | runtimeError (message : String)
  | typeError
  | executionSafetyViolation (reasonCode : String)
  | commercialControlViolation (reasonCode : String)
  | pendingRollback
  | integrityError
  | other (message : String)
deriving DecidableEq

/-- `str(exc)`. -/
def Failure.text : Failure → String
  | .keyError key => "'" ++ key ++ "'"
  | .valueError message => message
  | .runtimeError message => message
  | .typeError => "can't compare offset-naive and offset-aware datetimes"
  | .executionSafetyViolation reasonCode => reasonCode
  | .commercialControlViolation reasonCode => reasonCode
  | .pendingRollback => "This Session's transaction has been rolled back"
  | .integrityError => "duplicate key value violates unique constraint"
  | .other message => message

namespace Database

def findIntent (database : Database) (intentId : String) : Option ExecutionIntent :=
  database.intents.find? (·.intentId = intentId)

def findIntentByHash (database : Database) (intentHash : String) : Option ExecutionIntent :=
  database.intents.find? (·.intentHash = intentHash)

def eventsOf (database : Database) (intentId : String) : List ExecutionIntentEvent :=
  (database.events.filter (·.intentId = intentId)).insertionSort
    (fun left right => left.createdAt ≤ right.createdAt)

def findEvent (database : Database) (intentId eventType : String) : Option ExecutionIntentEvent :=
  database.events.find? (fun event => event.intentId = intentId ∧ event.eventType = eventType)

def assign (changes : List (String × (FailedEvent → FailedEvent))) (row : FailedEvent) :
    FailedEvent :=
  changes.foldl (fun row change => if change.1 = row.id then change.2 row else row) row

/-- Flush and commit a session's pending work. -/
def commit (database : Database) (session : Session) : Except Failure Database :=
  if session.broken then .error .pendingRollback
  else if session.statuses ≠ [] then .error (.valueError "execution_intent_immutable")
  else
    if fresh : ((database.intents ++ session.newIntents).map ExecutionIntent.intentId).Nodup ∧
        ((database.intents ++ session.newIntents).map ExecutionIntent.intentHash).Nodup then
      .ok ⟨database.intents ++ session.newIntents, database.events ++ session.newEvents,
        (database.failed ++ session.newFailed).map (assign session.changes), fresh.1, fresh.2⟩
    else .error .integrityError

variable {session : Session}

/-- A commit that succeeds: the session was sound and assigned no intent, and
its new rows stand after the committed ones. -/
theorem commit_ok {database after : Database}
    (committed : database.commit session = .ok after) :
    session.broken = false ∧ session.statuses = [] ∧
      after.intents = database.intents ++ session.newIntents ∧
      after.events = database.events ++ session.newEvents ∧
      after.failed = (database.failed ++ session.newFailed).map (assign session.changes) := by
  unfold commit at committed
  split at committed
  · cases committed
  · rename_i sound
    split at committed
    · cases committed
    · rename_i untouched
      split at committed
      · cases committed
        exact ⟨by simpa using sound, by simpa using untouched, rfl, rfl, rfl⟩
      · cases committed

variable {database : Database}

theorem commit_sound (sound : session.broken = false)
    (unassigned : session.statuses = []) (noIntents : session.newIntents = []) :
    ∃ after, database.commit session = .ok after := by
  have fresh := And.intro database.ids_nodup database.hashes_nodup
  rw [← List.append_nil database.intents, ← noIntents] at fresh
  unfold commit
  rw [sound, unassigned, dif_pos fresh]
  exact ⟨_, rfl⟩

theorem commit_refused (sound : session.broken = false)
    (assigned : session.statuses ≠ []) :
    database.commit session = .error (.valueError "execution_intent_immutable") := by
  simp [commit, sound, assigned]

/-- An intent found by its id is committed and has that id. -/
theorem findIntent_some {intentId : String} {intent : ExecutionIntent}
    (found : database.findIntent intentId = some intent) :
    intent ∈ database.intents ∧ intent.intentId = intentId :=
  ⟨List.mem_of_find?_eq_some found, by simpa using List.find?_some found⟩

theorem intent_of_id {left right : ExecutionIntent}
    (leftInside : left ∈ database.intents) (rightInside : right ∈ database.intents)
    (same : left.intentId = right.intentId) : left = right :=
  List.inj_on_of_nodup_map database.ids_nodup leftInside rightInside same

theorem intent_of_hash {left right : ExecutionIntent}
    (leftInside : left ∈ database.intents) (rightInside : right ∈ database.intents)
    (same : left.intentHash = right.intentHash) : left = right :=
  List.inj_on_of_nodup_map database.hashes_nodup leftInside rightInside same

theorem findEvent_none {intentId eventType : String} :
    database.findEvent intentId eventType = none ↔
      ∀ event ∈ database.events, event.intentId = intentId → event.eventType ≠ eventType := by
  simp [findEvent]

end Database

end Runtime
