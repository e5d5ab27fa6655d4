import CoinRobotu.Runtime.BulkRecovery

/-!
# The runtime as a system of threads

Each task is one call of a modelled function by a worker, by the dispatcher or
by an operator.
-/

open Interleaving

namespace Runtime

inductive Task where
  | publish (eventType : String) (payload : Payload) (correlationId : String)
      (causationId : Option String) (partitionKey : String)
  | consume (eventType workerName : String)
  | dispatch (strategyId correlationId : String) (decision : DecisionResult)
      (context : ContextPayload)
  | workerPass (workerName : String)
  | release (limit : Int)
  | enqueueRetry (entry : RetryEntry)
  | enqueueQuarantine (envelope : Envelope) (errorMessage reasonCode : String)
      (retryCount maxRetry : Nat)
  | removeQuarantine (eventId : String)
  | quarantineAction (eventId action : String)
  | performRecovery (intentId action : String)
  | applyRecovery (intentId action : String)
  | reconcile (intentId reason stage : String)
  | bulkRecovery (action selectionMode : String) (intentIds quarantineIds : List String)
      (filters : BulkFilters) (reason : String) (limit : Int)

variable (hashing : Hashing IntentPayload)

/-- The function a task calls; its result goes to nobody. -/
def code : Task → Program services Unit
  | .publish eventType payload correlationId causationId partitionKey => do
      let _ ← publishRuntimeEvent hashing eventType payload correlationId causationId partitionKey
  | .consume eventType workerName => do
      let _ ← consumeRuntimeEvent eventType workerName
  | .dispatch strategyId correlationId decision context => do
      let _ ← dispatchDecisionResult hashing strategyId correlationId decision context
  | .workerPass workerName => do
      let _ ← processSubmissionEventOnce hashing workerName
  | .release limit => do
      let _ ← releaseDueRetryEvents limit
  | .enqueueRetry entry => do
      let _ ← enqueueRetryEvent entry
  | .enqueueQuarantine envelope errorMessage reasonCode retryCount maxRetry => do
      let _ ← enqueueQuarantineEvent envelope errorMessage reasonCode retryCount maxRetry
  | .removeQuarantine eventId => removeQuarantineEvent eventId
  | .quarantineAction eventId action => adminRuntimeQuarantineAction eventId action
  | .performRecovery intentId action => do
      let _ ← performRecoveryAction hashing intentId action
  | .applyRecovery intentId action => do
      let _ ← applyIntentRecoveryAction hashing intentId action
  | .reconcile intentId reason stage => do
      let _ ← reconcileIntentWithExchange intentId reason stage
  | .bulkRecovery action selectionMode intentIds quarantineIds filters reason limit => do
      let _ ← runBulkRecovery hashing action selectionMode intentIds quarantineIds filters reason
        limit

def runtime : System services World Oracle Task :=
  { runtimeService with code := code hashing }

@[simp] theorem runtime_perform (thread : Thread) (oracle : Oracle) (command : Command)
    (world : World) :
    (runtime hashing).perform thread oracle command world = world.perform thread oracle command :=
  rfl

@[simp] theorem runtime_opens (thread : Thread) (world : World) :
    (runtime hashing).opens thread world = world.putSession thread .fresh := rfl

@[simp] theorem runtime_closes (thread : Thread) (world : World) :
    (runtime hashing).closes thread world = world.putSession thread .fresh := rfl

theorem View.perform_store {Phase : Type} (protocol : Protocol services Task Phase)
    (view : View services World Task Phase) (thread : Thread) {oracle : Oracle}
    (sound : oracle.fault = none) (command : Redis.Command Raw) :
    view.perform (runtime hashing).toService protocol thread oracle (.redis command) =
      ⟨{ view.world with redis := (view.world.redis.perform command).1 },
        Function.update view.phases thread (protocol.next (view.phases thread) (.redis command)
          (.ok (view.world.redis.perform command).2)),
        view.started,
        view.trace ++ [(thread, ⟨.redis command, .ok (view.world.redis.perform command).2⟩)]⟩ := by
  simp only [View.perform, runtime_perform, World.perform_store view.world sound]

abbrev RuntimeMachine := Machine services World Task

def World.boot (redis : Redis.Store Raw) (database : Database) (accepted : List Order) : World :=
  ⟨redis, database, fun _ => .fresh, accepted⟩

def sampleHashing : Hashing IntentPayload :=
  ⟨fun _ => "payload-hash", fun _ => "hash-1", fun _ => 1940090960⟩

def steady : Oracle := ⟨none, 0, "uuid", ⟨true, [], []⟩⟩

def sampleIntent : ExecutionIntent :=
  { intentId := "intent-1"
    strategyId := "strategy"
    strategyVersionId := "version"
    accountId := none
    symbol := "BTCUSDT"
    side := "BUY"
    orderType := "MARKET"
    quantity := 1
    priceReference := "{}"
    decisionHash := "decision"
    contextHash := "context"
    intentHash := "hash-1"
    correlationId := "correlation"
    status := "pending"
    createdAt := 0 }

def sampleDatabase (events : List ExecutionIntentEvent) : Database :=
  ⟨[sampleIntent], events, [], by simp, by simp⟩

def emptyRedis : Redis.Store Raw := ⟨fun _ => [], fun _ => [], fun _ => 0⟩

abbrev sampleMachine : RuntimeMachine :=
  Machine.atRest (World.boot emptyRedis (sampleDatabase []) [])

/-- A thread issues so many commands under one oracle, with fresh identifiers. -/
def runs (thread : Thread) (count : Nat) (oracle : Oracle) : List (Label Oracle Task) :=
  (List.range count).map fun index =>
    .run thread { oracle with uuid := oracle.uuid ++ "-" ++ toString index }

def samplePublish (thread : Thread) : List (Label Oracle Task) :=
  .start thread (.publish submissionRequested
    [("intent_id", "intent-1"), ("intent_hash", "hash-1"), ("symbol", "BTCUSDT")] "correlation"
    (some "decision") "BTCUSDT::strategy") :: runs thread 6 { steady with uuid := "published" }

def sampleEnvelope : Envelope :=
  { eventId := some "event-1"
    eventType := submissionRequested
    correlationId := "correlation"
    causationId := some "decision"
    partitionKey := "BTCUSDT::strategy"
    createdAt := 0
    schemaVersion := "1.0"
    ordering := 1
    payload := [("intent_id", "intent-1"), ("intent_hash", "hash-1"), ("symbol", "BTCUSDT")]
    payloadHash := "payload-hash"
    metadata := none }

def sampleRetry (time : Time) : RetryEntry :=
  ⟨sampleEnvelope, "connection", "worker_internal_error", 1, 3, .aware time⟩

end Runtime
