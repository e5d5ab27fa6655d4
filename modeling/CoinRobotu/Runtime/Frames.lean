import CoinRobotu.Runtime.Tasks

/-!
# Which functions leave intents and their logs alone

A command is light when it neither reads nor records anything about intents,
their logs or orders. The functions of the bus, of failed events, of audit
entries and of the quarantine issue light commands only, so an observer of
intents and logs sees them as one step that changes nothing. They also deal
lawfully with failed events: a new row is not resolved, and its failed attempt
is counted in the envelope that it stores; a change keeps identifiers and what
was counted, and only an operator's dismissal resolves a row.
-/

open Interleaving
open Program (only_bind only_mono)

namespace Runtime

/-- A command that concerns no intent, no event of a log and no order. -/
def Command.light : Command → Prop
  | .submitOrder _ => False
  | .database (.findIntent _) => False
  | .database (.findEvent _ _) => False
  | .database (.addIntent _) => False
  | .database (.addEvent _) => False
  | .database (.assignStatus _ _) => False
  | _ => True

def Gentle (change : FailedEvent → FailedEvent) : Prop :=
  ∀ row, (change row).status = "resolved" → row.status = "resolved"

def KeepsId (change : FailedEvent → FailedEvent) : Prop := ∀ row, (change row).id = row.id

def Envelope.attempts (envelope : Envelope) : Nat :=
  (envelope.metadata.map Metadata.retryCount).getD 0

def Counted (row : FailedEvent) : Prop :=
  ∀ envelope, row.payload.envelope = some envelope → 1 ≤ envelope.attempts

/-- A change of a row that may be resolved only if it is among the given ones. -/
structure Proper (may : String → Prop) (id : String) (change : FailedEvent → FailedEvent) :
    Prop where
  keeps : KeepsId change
  gentle : Gentle change ∨ may id
  counted : ∀ row, Counted row → Counted (change row)

/-- What may be done to failed events. -/
def Command.lawful (may : String → Prop) : Command → Prop
  | .database (.addFailed row) => row.status ≠ "resolved" ∧ Counted row
  | .database (.assignFailed id change) => Proper may id change
  | _ => True

def Command.modest (may : String → Prop) (command : Command) : Prop :=
  command.light ∧ command.lawful may

attribute [local simp] Command.light Command.lawful Command.modest

/-- A program whose commands are light and lawful; rows that may be resolved are given. -/
abbrev LightBut {α : Type} (may : String → Prop) (program : Program services α) : Prop :=
  program.Only (S := services) (Command.modest may)

abbrev Light {α : Type} (program : Program services α) : Prop := LightBut (fun _ => False) program

variable {may : String → Prop}

theorem Proper.wider {id : String} {change : FailedEvent → FailedEvent}
    (proper : Proper (fun _ => False) id change) : Proper may id change :=
  ⟨proper.keeps, proper.gentle.imp_right False.elim, proper.counted⟩

theorem Light.but {α : Type} {program : Program services α} (light : Light program) :
    LightBut may program := by
  refine only_mono (fun command modest => ⟨modest.1, ?_⟩) light
  cases command with
  | database command =>
    cases command with
    | addFailed row => exact modest.2
    | assignFailed id change => exact Proper.wider modest.2
    | _ => trivial
  | _ => trivial

section Bus

variable (hashing : Hashing IntentPayload)

theorem publish_light {eventType correlationId partitionKey : String}
    {payload : Payload} {causationId : Option String} :
    Light (publishRuntimeEvent hashing eventType payload correlationId causationId
      partitionKey) := by
  simp [Program.Only, publishRuntimeEvent]

theorem consume_light (eventType workerName : String) :
    Light (consumeRuntimeEvent eventType workerName) := by
  refine only_bind (by simp [Program.Only]) fun popped => ?_
  cases popped with
  | none => trivial
  | some raw => cases raw <;> trivial

theorem ack_light (processingQueue : String) (raw : Raw) :
    Light (ackRuntimeEvent processingQueue raw) := by
  simp [Program.Only, ackRuntimeEvent]

theorem requeue_light (envelope : Envelope) : Light (requeueRuntimeEvent envelope) := by
  simp [Program.Only, requeueRuntimeEvent]

theorem releaseLoop_light (now : Time) (rawItems : List Raw) (released : Nat)
    (deferred : List Raw) : Light (releaseLoop now rawItems released deferred) := by
  induction rawItems generalizing released deferred with
  | nil => trivial
  | cons raw remaining ih =>
    unfold releaseLoop
    split
    · exact ih released deferred
    · split
      · trivial
      · exact only_bind (requeue_light _) fun _ => ih _ _
      · exact ih released _

theorem release_light (limit : Int) : Light (releaseDueRetryEvents limit) := by
  unfold releaseDueRetryEvents
  refine only_bind (by simp [Program.Only]) fun rawItems => ?_
  split
  · trivial
  · refine only_bind (by simp [Program.Only]) fun _ => ?_
    refine only_bind (by simp [Program.Only]) fun now => ?_
    refine only_bind (releaseLoop_light now _ 0 []) fun ⟨released, deferred⟩ => ?_
    simp [Program.Only]

theorem removeQuarantine_light (eventId : String) : Light (removeQuarantineEvent eventId) := by
  simp [Program.Only, removeQuarantineEvent]

end Bus

theorem upsertFailedEvent_light (fields : FailedEventFields) (open_ : fields.status ≠ "resolved")
    (counted : ∀ envelope, fields.payload.envelope = some envelope → 1 ≤ envelope.attempts) :
    Light (upsertFailedEvent fields) := by
  have stores : ∀ row : FailedEvent, row.payload = fields.payload → Counted row := by
    intro row same
    rw [Counted, same]
    exact counted
  refine only_bind (by simp [Program.Only]) fun existing => ?_
  cases existing with
  | none => simp [Program.Only, createFailedEvent, open_, stores]
  | some row =>
    have proper : ∀ updatedAt, Proper (fun _ => False) row.id (fields.assignTo updatedAt) :=
      fun updatedAt => ⟨fun _ => rfl, .inl fun _ resolved => absurd resolved open_,
        fun _ _ => counted⟩
    simp [Program.Only, proper]

theorem createAuditLog_light : Light createAuditLog := by
  simp [Program.Only, createAuditLog]

theorem noteConnection_light (intent : ExecutionIntent) : Light (noteConnection intent) := by
  simp [Program.Only, noteConnection]

theorem noteFailure_light (intent : Option ExecutionIntent) : Light (noteFailure intent) := by
  cases intent with
  | none => trivial
  | some intent => exact noteConnection_light intent

theorem handleSubmissionFailure_light (envelope : Envelope) (eventId processingQueue : String)
    (raw : Raw) (intent : Option ExecutionIntent) (exc : Failure) :
    Light (handleSubmissionFailure envelope eventId processingQueue raw intent exc) := by
  have recorded : ∀ (fields : FailedEventFields), fields.status ≠ "resolved" →
      fields.payload.envelope =
        some (envelope.failedOnce (classifyFailure intent exc) exc.text) →
      Light (upsertFailedEvent fields) := by
    intro fields open_ stored
    refine upsertFailedEvent_light fields open_ fun other same => ?_
    rw [stored] at same
    cases same
    simp [Envelope.attempts, Envelope.failedOnce]
  unfold handleSubmissionFailure
  refine only_bind (noteFailure_light intent) fun _ => ?_
  refine only_bind (by simp [Program.Only]) fun now => ?_
  refine only_bind (ack_light processingQueue raw) fun _ => ?_
  split
  · refine only_bind (by simp [Program.Only, enqueueQuarantineEvent]) fun _ => ?_
    refine only_bind ?_ fun _ => trivial
    exact only_bind (recorded _ (by simp) rfl) fun _ => trivial
  · refine only_bind (by simp [Program.Only, enqueueRetryEvent]) fun _ => ?_
    refine only_bind ?_ fun _ => trivial
    exact only_bind (recorded _ (by simp) rfl) fun _ => trivial

theorem enforceGates_light : Light enforceGates := by
  simp [Program.Only, enforceGates]

theorem requeueRecorded_light (payload : FailedPayload) : Light (requeueRecorded payload) := by
  unfold requeueRecorded
  split
  · split
    · trivial
    · exact requeue_light _
  · trivial

theorem Proper.of_status {id : String} {change : FailedEvent → FailedEvent}
    (keeps : KeepsId change) (payload : ∀ row, (change row).payload = row.payload)
    (status : ∀ row, (change row).status ≠ "resolved") : Proper may id change :=
  ⟨keeps, .inl fun row resolved => absurd resolved (status row), fun row counted => by
    rw [Counted, payload]
    exact counted⟩

theorem replayQuarantinedEvent_light (failedEvent : FailedEvent) :
    Light (replayQuarantinedEvent failedEvent) := by
  refine only_bind (requeueRecorded_light _) fun _ => ?_
  refine only_bind (by simp [Program.Only]) fun updatedAt => ?_
  have proper : Proper (fun _ => False) failedEvent.id fun row : FailedEvent =>
      { row with status := "retrying", retryCount := 0, nextRetryAt := none, updatedAt } :=
    .of_status (fun _ => rfl) (fun _ => rfl) fun _ => by simp
  refine only_bind (by simp [Program.Only, proper]) fun _ => ?_
  refine only_bind (by simp [Program.Only]) fun _ => ?_
  exact only_bind (by simp [Program.Only]) fun _ => removeQuarantine_light _

theorem dismissQuarantinedEvent_light (failedEvent : FailedEvent) (dismissed : may failedEvent.id) :
    LightBut may (dismissQuarantinedEvent failedEvent) := by
  have proper : ∀ resolvedAt updatedAt, Proper may failedEvent.id fun row : FailedEvent =>
      { row with status := "resolved", resolvedAt := some resolvedAt, updatedAt } :=
    fun _ _ => ⟨fun _ => rfl, .inr dismissed, fun _ counted => counted⟩
  simp [Program.Only, dismissQuarantinedEvent, removeQuarantineEvent, proper]

theorem markQuarantinedFailed_light (failedEvent : FailedEvent) :
    Light (markQuarantinedFailed failedEvent) := by
  have proper : ∀ updatedAt, Proper (fun _ => False) failedEvent.id fun row : FailedEvent =>
      { row with status := "dead", updatedAt } :=
    fun _ => .of_status (fun _ => rfl) (fun _ => rfl) fun _ => by simp
  simp [Program.Only, markQuarantinedFailed, proper]

theorem adminAction_light (row : FailedEvent) (action : String)
    (dismissed : action = "dismiss" → may row.id) :
    LightBut may
      (if action = "replay" then (replayQuarantinedEvent row).bind fun _ => createAuditLog
      else if action = "dismiss" then (dismissQuarantinedEvent row).bind fun _ => createAuditLog
      else if action = "mark_failed" then (markQuarantinedFailed row).bind fun _ => createAuditLog
      else throw (.other "invalid_action")) := by
  have audited : LightBut may createAuditLog := createAuditLog_light.but
  split
  · exact only_bind (replayQuarantinedEvent_light row).but fun _ => audited
  · split
    · exact only_bind (dismissQuarantinedEvent_light row (dismissed ‹_›)) fun _ => audited
    · split
      · exact only_bind (markQuarantinedFailed_light row).but fun _ => audited
      · trivial

theorem adminRuntimeQuarantineAction_light (eventId action : String)
    (dismissed : action = "dismiss" → ∀ id, may id) :
    LightBut may (adminRuntimeQuarantineAction eventId action) := by
  refine only_bind (by simp [Program.Only]) fun found => ?_
  cases found with
  | none => trivial
  | some row => exact adminAction_light row action fun same => dismissed same row.id

end Runtime
