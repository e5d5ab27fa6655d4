import CoinRobotu.Runtime.Resolved

/-!
# The retry budget of a replayed event

The worker counts failed attempts in the metadata of the envelope.
-/

open Interleaving
open Program (only_bind only_attempt)

namespace Runtime

section Lawful

variable (hashing : Hashing IntentPayload)

abbrev Lawful {α : Type} (program : Program services α) : Prop :=
  program.Only (S := services) (Command.lawful fun _ => True)

theorem lawful_of_mild {α : Type} {program : Program services α} (mild : Mild program) :
    Lawful program := by
  refine Program.only_mono (fun command lawful => ?_) mild
  cases command with
  | database command =>
    cases command with
    | assignFailed id change => exact Proper.wider lawful
    | _ => exact lawful
  | _ => trivial

theorem retryOrResolve_lawful (current : FailedEvent) : Lawful (retryOrResolve current) := by
  unfold retryOrResolve
  split
  · have proper : ∀ resolvedAt updatedAt, Proper (fun _ => True) current.id fun row =>
        { row with status := "resolved", resolvedAt := some resolvedAt, lastActionBy := none,
                   updatedAt } :=
      fun _ _ => ⟨fun _ => rfl, .inr trivial, fun _ counted => counted⟩
    simp [Program.Only, markFailedEventResolved, changeFailedEvent, Command.lawful, proper]
  · exact lawful_of_light (markFailedEventRetry_light current).but

theorem recoverFailedEvent_lawful (loaded : Bool) (row : FailedEvent) :
    Lawful (recoverFailedEvent loaded row) := by
  have reloaded : ∀ {rest : FailedEvent → Program services Unit},
      (∀ current, Lawful (rest current)) → Lawful ((reloadFailedEvent row.id).bind rest) := by
    intro rest each
    refine only_bind (only_bind (only_call trivial) fun found => ?_) each
    cases found <;> trivial
  refine only_attempt ?_ fun _ =>
    reloaded fun current => lawful_of_light (markFailedEventRetry_light current).but
  cases loaded with
  | true => exact retryOrResolve_lawful row
  | false => exact reloaded retryOrResolve_lawful

theorem failedEventRecoveryPass_lawful (createdAt : String → Time) :
    Lawful (failedEventRecoveryPass createdAt) := by
  have looped : ∀ (rows : List FailedEvent) (loaded : Bool),
      Lawful (recoverFailedEvents loaded rows) := by
    intro rows
    induction rows with
    | nil => exact fun _ => trivial
    | cons row rows ih =>
      exact fun loaded => only_bind (recoverFailedEvent_lawful loaded row) fun _ => ih false
  exact only_attempt (only_bind (only_call trivial) fun rows => looped _ true)
    fun _ => trivial

theorem handlingCode_lawful (task : HandlingTask) : Lawful (handlingCode hashing task) := by
  have mildly : ∀ {α : Type} {program : Program services α}, Mild program →
      Lawful (program.bind fun _ => Program.done ()) :=
    fun mild => only_bind (lawful_of_mild mild) fun _ => trivial
  cases task with
  | publish eventType payload correlationId causationId partitionKey =>
    exact mildly (lawful_of_light (publish_light _))
  | dispatch strategyId correlationId decision context =>
    exact mildly (mild_of_calm (dispatchDecisionResult_calm _ _ _ _ _))
  | workerPass workerName => exact mildly (mild_of_calm (processSubmissionEventOnce_calm _ _))
  | recoveryPass createdAt => exact failedEventRecoveryPass_lawful createdAt
  | adminAction eventId action =>
    exact lawful_of_light (adminRuntimeQuarantineAction_light _ _ fun _ _ => trivial)
  | runtimeAction eventId action =>
    exact lawful_of_light (applyRuntimeQuarantineAction_light _ _ _ fun _ _ => trivial)
  | safetyAction quarantineId action note =>
    exact lawful_of_light (applyExecutionSafetyQuarantineAction_light _ _ _ _ fun _ _ => trivial)

end Lawful

section Invariant

/-- Every envelope that a row stores, or is about to store, has been counted. -/
structure Tallied (world : World) : Prop where
  rows : ∀ row ∈ world.database.failed, Counted row
  added : ∀ thread, ∀ row ∈ (world.sessions thread).newFailed, Counted row
  changes : ∀ thread, ∀ entry ∈ (world.sessions thread).changes,
    ∀ row, Counted row → Counted (entry.2 row)

variable {world : World}

theorem Tallied.putSession (tallied : Tallied world) (thread : Thread) :
    Tallied (world.putSession thread .fresh) := by
  refine ⟨tallied.rows, fun other => ?_, fun other => ?_⟩
  · by_cases same : other = thread
    · simp [same, Session.fresh]
    · simpa [same] using tallied.added other
  · by_cases same : other = thread
    · simp [same, Session.fresh]
    · simpa [same] using tallied.changes other

/-- What is assigned to a row keeps its envelope counted, by induction on the assignments. -/
theorem assign_counted {changes : List (String × (FailedEvent → FailedEvent))}
    (keep : ∀ entry ∈ changes, ∀ row, Counted row → Counted (entry.2 row)) {row : FailedEvent}
    (counted : Counted row) : Counted (Database.assign changes row) := by
  induction changes generalizing row with
  | nil => exact counted
  | cons entry changes ih =>
    refine ih (fun other inside => keep other (List.mem_cons_of_mem _ inside)) ?_
    dsimp only
    split
    · exact keep entry List.mem_cons_self row counted
    · exact counted

theorem Tallied.perform (tallied : Tallied world) (thread : Thread) (oracle : Oracle)
    {command : Command} (lawful : command.lawful fun _ => True) :
    Tallied (world.perform thread oracle command).1 := by
  refine ⟨fun row inside => ?_, fun other row inside => ?_, fun other entry inside => ?_⟩
  · rcases world.perform_database thread oracle command with same | ⟨-, committed⟩
    · exact tallied.rows row (same ▸ inside)
    · obtain ⟨-, -, -, -, failed⟩ := Database.commit_ok committed
      rw [failed] at inside
      obtain ⟨before, held, rfl⟩ := List.mem_map.mp inside
      refine assign_counted (tallied.changes thread) ?_
      rcases List.mem_append.mp held with stood | added
      · exact tallied.rows before stood
      · exact tallied.added thread before added
  · by_cases own : other = thread
    · subst own
      rw [world.perform_session] at inside
      rcases Session.mem_after_newFailed inside with earlier | rfl
      · exact tallied.added other row earlier
      · exact lawful.2
    · exact tallied.added other row (world.perform_other thread oracle own command ▸ inside)
  · by_cases own : other = thread
    · subst own
      rw [world.perform_session] at inside
      rcases Session.mem_after_changes inside with earlier | rfl
      · exact tallied.changes other entry earlier
      · exact lawful.counted
    · exact tallied.changes other entry (world.perform_other thread oracle own command ▸ inside)

def lawfully : Protocol services HandlingTask Unit :=
  ⟨(), fun _ => (), fun _ _ _ => (), fun _ command => command.lawful fun _ => True,
    fun _ _ => True⟩

theorem tallied_runs {hashing : Hashing IntentPayload} {redis : Redis.Store Raw}
    {database : Database} {accepted : List Order}
    {permits : HandlingMachine → Label Oracle HandlingTask → Prop}
    {labels : List (Label Oracle HandlingTask)} {machine : HandlingMachine}
    (counted : ∀ row ∈ database.failed, Counted row)
    (run : Run (handling hashing) permits
      (Machine.atRest (World.boot redis database accepted)) labels machine) :
    Tallied machine.world := by
  have governs : Governs (handling hashing) lawfully Discipline.any (fun _ => True)
      (fun _ _ => True) :=
    ⟨fun _ _ _ _ => trivial, fun _ _ task _ => Program.follows_of_only
      (handlingCode_lawful hashing task) (fun _ lawful => ⟨lawful, fun _ => rfl⟩)
      (fun _ => trivial) fun _ => trivial⟩
  refine run.unrestricted.invariant governs
    (fun view => Tallied view.world) (fun view next tallied stepped => ?_)
    (Machine.atRest_conforms _)
    ⟨counted, fun _ _ inside => (nomatch inside), fun _ _ inside => (nomatch inside)⟩
  cases stepped with
  | performed thread oracle command allowed _ => exact tallied.perform thread oracle allowed
  | _ => exact tallied.putSession _

end Invariant

def Immediate (intent : Option ExecutionIntent) (exc : Failure) : Bool :=
  classifyFailure intent exc ∈ immediateQuarantine

def Envelope.exhausted (envelope : Envelope) (intent : Option ExecutionIntent) (exc : Failure) :
    Bool := Immediate intent exc || maxRetry ≤ envelope.attempts + 1

def Envelope.failed (envelope : Envelope) (intent : Option ExecutionIntent) (exc : Failure) :
    Envelope := envelope.failedOnce (classifyFailure intent exc) exc.text

/-- A failed attempt appends to the retry list or to the quarantine lists, as the envelope says,
and what it appends holds the event with one more attempt. -/
def Command.sendsOn (envelope : Envelope) (intent : Option ExecutionIntent) (exc : Failure) :
    Command → Prop
  | .redis (.rpush key values) =>
      (key = runtimeRetryQueue ∧ envelope.exhausted intent exc = false ∧
        ∃ entry : RetryEntry, values = [.retry entry] ∧
          entry.envelope = envelope.failed intent exc) ∨
      (key ∈ [runtimeDeadLetterQueue, runtimeQuarantineQueue] ∧
        envelope.exhausted intent exc = true ∧
        ∃ entry : QuarantineEntry, values = [.quarantine entry] ∧
          entry.envelope = envelope.failed intent exc)
  | _ => True

/-- How often the event is retried, given how its attempts fail, before it is in quarantine. -/
def retries : Envelope → List (Option ExecutionIntent × Failure) → Option Nat
  | _, [] => none
  | envelope, (intent, exc) :: later =>
      if envelope.exhausted intent exc then some 0
      else (retries (envelope.failed intent exc) later).map (· + 1)

@[simp] theorem attempts_failed (envelope : Envelope) (intent : Option ExecutionIntent)
    (exc : Failure) : (envelope.failed intent exc).attempts = envelope.attempts + 1 := rfl

/-- An event is retried until a failure is never retried or the third attempt has failed, by
induction on the failures. -/
theorem retries_eq {envelope : Envelope} {failures : List (Option ExecutionIntent × Failure)}
    (enough : 3 ≤ failures.length + envelope.attempts) (nonempty : 1 ≤ failures.length) :
    retries envelope failures =
      some (min (failures.findIdx fun failure => Immediate failure.1 failure.2)
        (2 - envelope.attempts)) := by
  induction failures generalizing envelope with
  | nil => simp at nonempty
  | cons failure later ih =>
    rw [retries, List.findIdx_cons]
    cases immediate : Immediate failure.1 failure.2 with
    | true => simp [Envelope.exhausted, immediate]
    | false =>
      by_cases spent : 2 ≤ envelope.attempts
      · have none_left : 2 - envelope.attempts = 0 := by omega
        simp [Envelope.exhausted, maxRetry, spent, none_left]
      · have more : 1 ≤ later.length := by simp at enough; omega
        rw [ih (by simp at enough ⊢; omega) more]
        simp [Envelope.exhausted, maxRetry, immediate, spent]
        omega

theorem publishRuntimeEvent_fresh (hashing : Hashing IntentPayload)
    (eventType : String) (payload : Payload) (correlationId : String)
    (causationId : Option String) (partitionKey : String) :
    (publishRuntimeEvent hashing eventType payload correlationId causationId
      partitionKey).Only (S := services) fun
        | .redis (.rpush _ values) => ∃ envelope, values = [.envelope envelope] ∧
            envelope.metadata = none
        | _ => True := by
  simp [Program.Only, publishRuntimeEvent]

/-- A replay sends the stored envelope, whose attempts are counted, and the event is retried as
often as a published one exactly if a failure that is never retried comes early enough. -/
theorem replay_restores_budget_iff {hashing : Hashing IntentPayload} {redis : Redis.Store Raw}
    {database : Database} {accepted : List Order}
    {permits : HandlingMachine → Label Oracle HandlingTask → Prop}
    {labels : List (Label Oracle HandlingTask)} {machine : HandlingMachine}
    (counted : ∀ row ∈ database.failed, Counted row)
    (run : Run (handling hashing) permits
      (Machine.atRest (World.boot redis database accepted)) labels machine)
    {row : FailedEvent} (inside : row ∈ machine.world.database.failed) {stored fresh : Envelope}
    (held : row.payload.envelope = some stored) (new : fresh.metadata = none)
    {failures : List (Option ExecutionIntent × Failure)} (enough : 3 ≤ failures.length) :
    requeueRecorded row.payload = requeueRuntimeEvent stored ∧ 1 ≤ stored.attempts ∧
      (retries stored failures = retries fresh failures ↔
        failures.findIdx (fun failure => Immediate failure.1 failure.2) ≤
          2 - stored.attempts) := by
  have attempted : 1 ≤ stored.attempts := (tallied_runs counted run).rows row inside stored held
  have sent : requeueRecorded row.payload = requeueRuntimeEvent stored := by
    have present : stored ≠ .absent := by
      rintro rfl
      exact absurd attempted (by decide)
    simp [requeueRecorded, held, present]
  have unattempted : fresh.attempts = 0 := by simp [Envelope.attempts, new]
  refine ⟨sent, attempted, ?_⟩
  rw [retries_eq (by omega) (by omega), retries_eq (by omega) (by omega), unattempted,
    Option.some.injEq]
  omega

def storedEnvelope : Envelope := { Envelope.absent with metadata := some ⟨3, "reason", "error"⟩ }

def storedRow : FailedEvent := { sampleFailed with payload := ⟨some storedEnvelope, []⟩ }

def replayedTables : Database := ⟨[], [], [storedRow], List.nodup_nil, List.nodup_nil⟩

def schemaFailures : List (Option ExecutionIntent × Failure) :=
  List.replicate 3 (none, .keyError "intent_id")

theorem replay_restores_budget_exhausted :
    requeueRecorded storedRow.payload = requeueRuntimeEvent storedEnvelope ∧
      1 ≤ storedEnvelope.attempts ∧
      (retries storedEnvelope schemaFailures = retries .absent schemaFailures ↔
        schemaFailures.findIdx (fun failure => Immediate failure.1 failure.2) ≤
          2 - storedEnvelope.attempts) := by
  have counted : ∀ row ∈ replayedTables.failed, Counted row := by
    simp [replayedTables, storedRow, Counted, storedEnvelope, Envelope.attempts]
  have run : Run (handling sampleHashing) (fun _ _ => True)
      (Machine.atRest (World.boot emptyRedis replayedTables [])) []
      (Machine.atRest (World.boot emptyRedis replayedTables [])) := .rest
  exact replay_restores_budget_iff counted run (List.mem_singleton.mpr rfl) rfl rfl (by decide)

def failedPass (before after : Nat) (oracle : Oracle) : List (Label Oracle HandlingTask) :=
  .start 0 (.workerPass "worker") :: handles 0 before oracle ++
  handles 0 1 { oracle with fault := some (.other "connection") } ++ handles 0 after oracle

/-- An event is published, fails three times, is replayed by an operator and fails again. -/
def replayedRun : List (Label Oracle HandlingTask) :=
  .start 0 (.publish submissionRequested
    [("intent_id", "intent-1"), ("intent_hash", "hash-1"), ("symbol", "BTCUSDT")] "correlation"
    (some "decision") "BTCUSDT::strategy") :: handles 0 6 { steady with uuid := "published" } ++
  failedPass 5 10 { steady with uuid := "failed" } ++
  failedPass 10 9 { steady with now := 1000000 } ++
  failedPass 10 11 { steady with now := 3000000 } ++
  .start 0 (.adminAction "published-0" "replay") :: handles 0 14 steady ++
  failedPass 5 11 steady

/-- The list that a command appends a failed event to, and how often the event has failed. -/
def failedPush : Thread × services.Event → Option (String × Nat)
  | (_, ⟨.redis (.rpush key [.retry entry]), _⟩) => some (key, entry.envelope.attempts)
  | (_, ⟨.redis (.rpush key [.quarantine entry]), _⟩) => some (key, entry.envelope.attempts)
  | _ => none

/-- A published event is retried twice; after its replay it is not retried. -/
theorem replayed_event_not_retried :
    ((Machine.steps (handling sampleHashing) replayedRun
      (Machine.atRest (World.boot emptyRedis (sampleDatabase []) []))).map fun machine =>
        machine.trace.filterMap failedPush) =
      some [(runtimeRetryQueue, 1), (runtimeRetryQueue, 2), (runtimeDeadLetterQueue, 3),
        (runtimeQuarantineQueue, 3), (runtimeDeadLetterQueue, 4),
        (runtimeQuarantineQueue, 4)] := by
  decide +kernel

end Runtime
