import CoinRobotu.Runtime.Frames

/-!
# Recovery actions record only under a refused assignment

A recovery action adds events to an intent's log only after it has assigned a
status to the loaded intent. The session is then one whose flush raises, so the
events are never committed. The guard follows a thread's session: it is clean
when nothing about intents is pending, and dirty once a status was assigned.
-/

open Interleaving
open Program (only_bind follows_bind follows_mono only_outcome only_mono follows_of_only follows_then)

namespace Runtime

inductive Guard where
  | free
  | clean
  | dirty
deriving DecidableEq

def recoveryTypes : List String :=
  ["EXECUTION_RECOVERY_RETRY_REQUESTED", "EXECUTION_RECOVERY_CANCEL_REQUESTED",
    "EXECUTION_RECONCILE_STARTED", "EXECUTION_RECONCILED", "EXECUTION_RECONCILE_FORCED"]

namespace Guard

def initial : Task → Guard
  | .applyRecovery _ _ => clean
  | .reconcile _ _ _ => clean
  | .bulkRecovery _ _ _ _ _ _ _ => clean
  | _ => free

def next : Guard → (command : Command) → Except Failure command.Reply → Guard
  | free, _, _ => free
  | _, .database (.assignStatus _ _), .ok _ => dirty
  | _, .database .commit, _ => clean
  | _, .database .flush, .error _ => clean
  | _, .database .rollback, .ok _ => clean
  | guard, _, _ => guard

def allows : Guard → Command → Prop
  | free, .database (.addEvent event) => event.eventType ∉ recoveryTypes
  | free, .database (.assignStatus _ _) => False
  | free, _ => True
  | dirty, .database (.addEvent event) => event.eventType ∈ recoveryTypes
  | _, .database (.addEvent _) => False
  | _, .database (.addIntent _) => False
  | _, .submitOrder _ => False
  | _, _ => True

end Guard

attribute [local simp] Guard.next Guard.allows Command.light Command.lawful Command.modest

@[simps -fullyApplied] def guarded : Protocol services Task Guard :=
  ⟨.free, Guard.initial, Guard.next, Guard.allows, fun _ _ => True⟩

section Free

variable {α β : Type} {may : String → Prop}

def Command.calm (may : String → Prop) (command : Command) : Prop :=
  Guard.allows .free command ∧ command.lawful may

attribute [local simp] Command.calm

abbrev Calm (program : Program services α) : Prop :=
  program.Only (S := services) (Command.calm fun _ => False)

theorem calm_of_light {program : Program services α} (light : LightBut may program) :
    program.Only (S := services) (Command.calm may) := by
  refine only_mono (fun command modest => ⟨?_, modest.2⟩) light
  cases command with
  | database command => cases command <;> first | exact modest.1.elim | trivial
  | _ => trivial

theorem addIntentEvent_calm {eventType : String} (kept : eventType ∉ recoveryTypes)
    (intentId eventStatus : String) (externalOrderId : Option String) (payload : Payload) :
    Calm (addIntentEvent intentId eventType eventStatus externalOrderId payload) := by
  simp [Program.Only, addIntentEvent, kept]

theorem reported_kept : ∀ eventType ∈ reportedTypes, eventType ∉ recoveryTypes := by decide

variable (hashing : Hashing IntentPayload)

theorem completeSubmission_light (eventId processingQueue : String) (raw : Raw)
    (result : PassResult) : Light (completeSubmission eventId processingQueue raw result) := by
  simp [Program.Only, completeSubmission, markEventProcessed, ackRuntimeEvent]

theorem calm_passes (processingQueue : String) :
    Passes hashing (Command.calm fun _ => False) processingQueue where
  adds _ reported _ _ _ _ := addIntentEvent_calm (reported_kept _ reported) _ _ _ _
  publishes _ _ _ _ _ _ := calm_of_light (publish_light _)
  submits _ _ := by simp [Program.Only, submitOrder]
  finds _ _ := by simp
  mints := by simp
  notes _ := calm_of_light (noteConnection_light _)
  gates := calm_of_light enforceGates_light
  completes _ _ _ := calm_of_light (completeSubmission_light _ _ _ _)

theorem lookUpIntent_calm (envelope : Envelope) : Calm (lookUpIntent envelope) := by
  unfold lookUpIntent
  dsimp only
  split
  · trivial
  · refine only_bind (by simp [Program.Only]) fun found => ?_
    cases found <;> trivial

theorem processEvent_calm (envelope : Envelope) (eventId processingQueue : String) (raw : Raw) :
    Calm (processEvent hashing envelope eventId processingQueue raw) :=
  (calm_passes hashing processingQueue).processEvent (lookUpIntent_calm envelope)
    fun _ _ => calm_of_light (handleSubmissionFailure_light _ _ _ _ _ _)

theorem processSubmissionEventOnce_calm (workerName : String) :
    Calm (processSubmissionEventOnce hashing workerName) := by
  refine only_bind (calm_of_light (release_light 200)) fun _ => ?_
  refine only_bind (calm_of_light (consume_light _ _)) fun consumed => ?_
  match consumed with
  | none => trivial
  | some (envelope, processingQueue, raw) =>
    dsimp only
    split
    · exact only_bind (calm_of_light (ack_light _ _)) fun _ => trivial
    · refine only_bind (by simp [Program.Only, isEventProcessed])
        fun processed => ?_
      split
      · exact only_bind (calm_of_light (ack_light _ _)) fun _ => trivial
      · exact only_bind (processEvent_calm _ _ _ _ _) fun _ => trivial

/-- A command an operator's recovery of a stuck intent may issue. -/
def Command.operating : Command → Prop
  | .submitOrder _ => False
  | .database (.addEvent event) => event.eventType ∉ recoveryTypes
  | .database (.assignStatus _ _) => False
  | _ => True

theorem Command.operating_of_light (command : Command) (quiet : command.modest may) :
    command.operating := by
  cases command with
  | database command => cases command <;> first | exact quiet.1.elim | trivial
  | submitOrder order => exact quiet.1.elim
  | _ => trivial

theorem closeIntent_operating (intentId eventStatus externalOrderId reason status : String) :
    (closeIntent intentId eventStatus externalOrderId reason status).Only (S := services)
      Command.operating := by
  refine only_bind (by simp [Program.Only, addIntentEvent, Command.operating,
    reported_kept orderFinalized (by decide)]) fun _ => ?_
  refine only_bind (only_call trivial) fun _ => ?_
  exact only_bind (only_mono Command.operating_of_light createAuditLog_light)
    fun _ => trivial

theorem requestForIntent_light (intent : ExecutionIntent) (intentId eventType status : String)
    (payload : Payload) :
    Light (requestForIntent hashing intent intentId eventType status payload) :=
  only_bind (publish_light _) fun _ =>
    only_bind createAuditLog_light fun _ => trivial

/-- An operator's recovery issues two queries, light commands, and
those of a close by hand. -/
theorem performRecoveryAction_only {kind : Command → Prop}
    (ofLight : ∀ command, command.modest (fun _ => False) → kind command)
    (finds : ∀ intentId, kind (.database (.findIntent intentId)))
    (reads : ∀ intentId eventType, kind (.database (.findEvent intentId eventType)))
    (intentId action : String)
    (closes : lower action = "cancel_intent" ∨ lower action = "mark_failed" →
      ∀ eventStatus externalOrderId reason status,
        (closeIntent intentId eventStatus externalOrderId reason status).Only (S := services) kind) :
    (performRecoveryAction hashing intentId action).Only (S := services) kind := by
  have requested : ∀ (intent : ExecutionIntent) (eventType status : String) (payload : Payload),
      (requestForIntent hashing intent intentId eventType status payload).Only (S := services)
        kind := fun _ _ _ _ => only_mono ofLight (requestForIntent_light _ _ _ _ _ _)
  refine only_bind (by simp [Program.Only, finds]) fun found => ?_
  cases found with
  | none => trivial
  | some intent =>
    refine only_bind (by simp [Program.Only, reads]) fun terminalEvent => ?_
    split
    · trivial
    · split
      · exact requested _ _ _ _
      · split
        · exact requested _ _ _ _
        · split
          · exact closes (.inl ‹_›) _ _ _ _
          · split
            · exact closes (.inr ‹_›) _ _ _ _
            · trivial

theorem performRecoveryAction_operating (intentId action : String) :
    (performRecoveryAction hashing intentId action).Only (S := services) Command.operating :=
  performRecoveryAction_only hashing Command.operating_of_light (fun _ => trivial)
    (fun _ _ => trivial) intentId action
    fun _ => closeIntent_operating intentId

theorem performRecoveryAction_free (intentId action : String) :
    (performRecoveryAction hashing intentId action).Only (S := services) (Guard.allows .free) := by
  refine only_mono (fun command operating => ?_)
    (performRecoveryAction_operating hashing intentId action)
  cases command with
  | database command => cases command <;> exact operating
  | _ => trivial

end Free

section Dispatch

variable (hashing : Hashing IntentPayload) (strategyId correlationId : String)
  (decision : DecisionResult) (context : ContextPayload)

theorem rejectDecision_light (reasonCodes : List String) :
    Light (rejectDecision hashing strategyId correlationId decision context reasonCodes) :=
  only_bind (publish_light _) fun _ => by simp [Program.Only]

def Command.admitting : Command → Prop
  | .database (.addIntent _) => True
  | command => command.modest fun _ => False

attribute [local simp] Command.admitting

theorem Command.admitting_of_light (command : Command) (quiet : command.modest fun _ => False) :
    command.admitting := by
  cases command with
  | database command => cases command <;> first | exact quiet.1.elim | exact quiet
  | _ => exact quiet

abbrev Admitting {α : Type} (program : Program services α) : Prop :=
  program.Only (S := services) Command.admitting

theorem admitting_of_light {α : Type} {program : Program services α} (light : Light program) :
    Admitting program :=
  only_mono Command.admitting_of_light light

theorem admitIntent_admitting (payload : IntentPayload) :
    Admitting (admitIntent hashing strategyId correlationId decision context payload) := by
  unfold admitIntent
  refine only_bind (by simp [Program.Only])
    fun intentId => ?_
  refine only_bind (by simp [Program.Only])
    fun createdAt => ?_
  refine only_bind (by simp [Program.Only]) fun _ => ?_
  refine only_bind (by simp [Program.Only]) fun _ => ?_
  refine only_bind (admitting_of_light (publish_light _)) fun _ => ?_
  refine only_bind (admitting_of_light (publish_light _)) fun _ => ?_
  simp [Program.Only]

theorem admitUnlessBlocked_admitting (payload : IntentPayload) :
    Admitting (admitUnlessBlocked hashing strategyId correlationId decision context payload) := by
  refine only_bind (only_outcome (admitting_of_light enforceGates_light))
    fun gates => ?_
  split
  · exact admitIntent_admitting _ _ _ _ _ _
  · exact admitting_of_light (rejectDecision_light _ _ _ _ _ _)
  · exact admitting_of_light (rejectDecision_light _ _ _ _ _ _)
  · trivial

theorem settleDecision_admitting :
    Admitting (settleDecision hashing strategyId correlationId decision context) := by
  unfold settleDecision
  split
  · exact admitting_of_light (rejectDecision_light _ _ _ _ _ _)
  · split
    · exact admitting_of_light (rejectDecision_light _ _ _ _ _ _)
    · refine only_bind (by simp [Program.Only])
        fun existing => ?_
      cases existing with
      | none => exact admitUnlessBlocked_admitting _ _ _ _ _ _
      | some intent => simp [Program.Only]

theorem dispatchDecisionResult_admitting :
    Admitting (dispatchDecisionResult hashing strategyId correlationId decision context) := by
  unfold dispatchDecisionResult
  refine only_bind (admitting_of_light (publish_light _)) fun _ => ?_
  refine only_bind (by simp [Program.Only]) fun _ => ?_
  refine only_bind (by simp [Program.Only]) fun _ => ?_
  exact only_bind (settleDecision_admitting _ _ _ _ _) fun _ => trivial

theorem dispatchDecisionResult_calm :
    Calm (dispatchDecisionResult hashing strategyId correlationId decision context) := by
  refine only_mono (fun command admitting => ?_)
    (dispatchDecisionResult_admitting hashing strategyId correlationId decision context)
  cases command with
  | database command =>
    cases command <;>
      first | exact ⟨trivial, trivial⟩ | exact ⟨trivial, admitting.2⟩ | exact admitting.1.elim
  | _ => exact ⟨trivial, trivial⟩

end Dispatch

section Tidy

variable {α β : Type}

/-- A program that starts in a clean session and returns in a clean session. -/
abbrev Tidy (program : Program services α) : Prop :=
  program.Follows guarded (fun _ guard => guard = .clean) (fun _ _ => True) .clean

variable {program : Program services α}

theorem tidy_bind {rest : α → Program services β}
    (first : Tidy program) (second : ∀ value, Tidy (rest value)) : Tidy (program.bind rest) :=
  (follows_bind program rest).mpr
    (follows_mono first (fun value _ same => by rw [same]; exact second value)
      (fun _ _ _ => trivial))

theorem tidy_of_lightBut {may : String → Prop}
    (light : LightBut may program) : Tidy program := by
  refine follows_of_only light (fun command quiet => ⟨?_, fun answer => ?_⟩)
    (fun _ => rfl) (fun _ => trivial)
  · cases command with
    | database command => cases command <;> first | exact quiet.1.elim | trivial
    | submitOrder order => exact quiet.1.elim
    | _ => trivial
  · cases command with
    | database command => cases command <;> first | exact quiet.1.elim | (cases answer <;> rfl)
    | submitOrder order => exact quiet.1.elim
    | _ => rfl

theorem tidy_of_light (light : Light program) : Tidy program :=
  tidy_of_lightBut light

theorem findIntent_tidy (intentId : String) : Tidy (call (.database (.findIntent intentId))) := by
  simp

theorem addIntentEvent_dirty {eventType : String} (recovery : eventType ∈ recoveryTypes)
    (intentId eventStatus : String) (externalOrderId : Option String) (payload : Payload) :
    (addIntentEvent intentId eventType eventStatus externalOrderId payload).Follows guarded
      (fun _ guard => guard = .dirty) (fun _ _ => True) .dirty := by
  simp [addIntentEvent, recovery]

theorem commit_cleans (guard : Guard) (held : guard ≠ .free) :
    (call (.database .commit)).Follows guarded (fun _ guard => guard = .clean)
      (fun _ _ => True) guard := by
  cases guard with
  | free => exact absurd rfl held
  | clean | dirty => simp

end Tidy

section Recovery

variable (hashing : Hashing IntentPayload)

theorem quarantineIntent_light (intent : ExecutionIntent)
    (reasonCode errorMessage failureStage : String) :
    Light (quarantineIntent intent reasonCode errorMessage failureStage) :=
  upsertFailedEvent_light _ (by simp) nofun

theorem refreshIntent_tidy (intentId : String) : Tidy (refreshIntent intentId) := by
  refine tidy_bind (findIntent_tidy intentId) fun found => ?_
  cases found with
  | none => trivial
  | some intent => rfl

theorem createExecutionAttemptArtifact_tidy (intentId : String)
    (executionId requestId sessionId : Option String) :
    Tidy (createExecutionAttemptArtifact intentId executionId requestId sessionId) := by
  refine tidy_bind (findIntent_tidy intentId) fun found => ?_
  cases found with
  | none => trivial
  | some intent =>
    refine tidy_bind (tidy_of_light (by simp [Program.Only])) fun events => ?_
    dsimp only
    split
    · refine tidy_bind (tidy_of_light (upsertFailedEvent_light _ (by simp) fun _ none => by
        cases none)) fun _ => ?_
      exact tidy_bind (commit_cleans .clean (by decide)) fun _ => trivial
    · exact tidy_of_light (by simp [Program.Only])

theorem recordRecovery_holds (intent : ExecutionIntent) (action : String) :
    (recordRecovery hashing intent action).Follows guarded (fun _ guard => guard ≠ .free)
      (fun _ _ => True) .clean := by
  have assigned : ∀ (status : String) {rest : Unit → Program services Unit},
      (∀ reply, (rest reply).Follows guarded (fun _ guard => guard ≠ .free) (fun _ _ => True)
        .dirty) →
      ((call (.database (.assignStatus intent.intentId status))).bind rest).Follows guarded
        (fun _ guard => guard ≠ .free) (fun _ _ => True) .clean := by
    intro status rest follows
    simpa using follows
  have recorded : ∀ {eventType : String}, eventType ∈ recoveryTypes → ∀ (eventStatus : String)
      (payload : Payload), (addIntentEvent intent.intentId eventType eventStatus none
        payload).Follows guarded (fun _ guard => guard ≠ .free) (fun _ _ => True) .dirty := by
    intro eventType recovery eventStatus payload
    refine follows_mono (addIntentEvent_dirty recovery _ _ _ _) ?_ (fun _ _ _ => trivial)
    rintro _ _ rfl
    decide
  unfold recordRecovery
  dsimp only
  split
  · refine follows_then (tidy_of_light (publish_light _)) ?_ (fun _ _ _ => trivial)
    rintro _ _ rfl
    exact assigned "SUBMITTED" fun _ => recorded (by decide) _ _
  · split
    · exact assigned "CANCELED" fun _ => recorded (by decide) _ _
    · split
      · refine assigned "RECONCILING" fun _ => ?_
        refine follows_then (addIntentEvent_dirty (by decide) _ _ _ _) ?_ (fun _ _ _ => trivial)
        rintro _ _ rfl
        refine follows_then (addIntentEvent_dirty (by decide) _ _ _ _) ?_ (fun _ _ _ => trivial)
        rintro _ _ rfl
        simp
      · refine follows_then
          (tidy_of_light (quarantineIntent_light _ _ _ _)) ?_ (fun _ _ _ => trivial)
        rintro _ _ rfl
        exact (by decide : Guard.clean ≠ .free)

theorem recoverIntent_tidy (intent : ExecutionIntent) (action : String) :
    Tidy (recoverIntent hashing intent action) := by
  refine follows_then (recordRecovery_holds hashing intent action) ?_ (fun _ _ _ => trivial)
  intro _ guard held
  refine follows_then (commit_cleans guard held) ?_ (fun _ _ _ => trivial)
  rintro _ _ rfl
  refine tidy_bind (refreshIntent_tidy _) fun refreshed => ?_
  refine tidy_bind (tidy_of_light createAuditLog_light) fun _ => ?_
  exact tidy_bind (createExecutionAttemptArtifact_tidy _ _ _ _) fun _ => rfl

theorem applyIntentRecoveryAction_tidy (intentId action : String) :
    Tidy (applyIntentRecoveryAction hashing intentId action) := by
  refine tidy_bind (findIntent_tidy intentId) fun found => ?_
  cases found with
  | none => exact True.intro
  | some intent =>
    exact (Program.follows_ite _ _ _).mpr
      ⟨fun _ => recoverIntent_tidy hashing intent _, fun _ => True.intro⟩

end Recovery

theorem orMint_light (value tag : String) : Light (orMint value tag) := by
  simp [Program.Only, orMint]

theorem buildContextEnvelope_light (intentId correlationId : String) (orderId : Option String) :
    Light (buildContextEnvelope intentId correlationId orderId) := by
  refine only_bind (by simp [Program.Only]) fun requestId => ?_
  refine only_bind (orMint_light _ _) fun order => ?_
  simp [Program.Only]

theorem enforceCorrelationEnvelope_light (envelope : Payload) (stage intentId : String) :
    Light (enforceCorrelationEnvelope envelope stage intentId) := by
  unfold enforceCorrelationEnvelope
  dsimp only
  split
  · trivial
  · split
    · refine only_bind (upsertFailedEvent_light _ (by simp) nofun) fun _ => ?_
      exact only_bind createAuditLog_light fun _ => trivial
    · exact only_bind createAuditLog_light fun _ => trivial

theorem exchangeGetWithRetry_holds (guard : Guard) (endpoint symbol orderId : String)
    (attempts : Nat) (last : ExchangeAnswer) :
    (exchangeGetWithRetry endpoint symbol orderId attempts last).Follows guarded
      (fun _ reached => reached = guard) (fun _ _ => True) guard := by
  induction attempts generalizing last with
  | zero => rfl
  | succ attempts ih =>
    refine follows_bind_call ⟨?_, fun answer _ => ?_, ?_⟩
    · cases guard <;> trivial
    · have same : guarded.next guard (.exchange endpoint symbol orderId) (.ok answer) = guard := by
        cases guard <;> rfl
      rw [same]
      split
      · rfl
      · exact ih answer
    · exact fun _ _ => trivial

theorem consultExchange_holds (intent : ExecutionIntent) (events : List ExecutionIntentEvent)
    (externalOrderId : Option String) :
    (consultExchange intent events externalOrderId).Follows guarded (fun _ _ => True)
      (fun _ _ => True) .dirty := by
  cases externalOrderId with
  | none => trivial
  | some orderId =>
    refine follows_then (exchangeGetWithRetry_holds .dirty _ _ _ _ _) ?_ (fun _ _ _ => trivial)
    rintro orders _ rfl
    refine follows_then (exchangeGetWithRetry_holds .dirty _ _ _ _ _) ?_ (fun _ _ _ => trivial)
    rintro fills _ rfl
    simp

theorem reconcileAgainstExchange_tidy (intent : ExecutionIntent) (reason stage : String) :
    Tidy (reconcileAgainstExchange intent reason stage) := by
  refine tidy_bind (tidy_of_light (by simp [Program.Only])) fun events => ?_
  refine tidy_bind (tidy_of_light (orMint_light _ _)) fun correlationId => ?_
  refine tidy_bind (tidy_of_light (buildContextEnvelope_light _ _ _)) fun context => ?_
  refine tidy_bind (tidy_of_light (enforceCorrelationEnvelope_light _ _ _)) fun complete => ?_
  cases complete with
  | false => simp
  | true =>
    refine follows_bind_call ⟨trivial, fun _ _ => ?_, fun _ _ => trivial⟩
    refine follows_then (addIntentEvent_dirty (by decide) _ _ _ _) ?_ (fun _ _ _ => trivial)
    rintro _ _ rfl
    refine follows_bind_call ⟨trivial, fun _ _ => ?_, fun _ _ => trivial⟩
    exact follows_then (consultExchange_holds _ _ _) (fun _ _ _ => trivial) (fun _ _ _ => trivial)

theorem reconcileIntentWithExchange_tidy (intentId reason stage : String) :
    Tidy (reconcileIntentWithExchange intentId reason stage) := by
  refine tidy_bind (findIntent_tidy intentId) fun found => ?_
  cases found with
  | none => exact True.intro
  | some intent =>
    refine tidy_bind (tidy_of_light (by simp [Program.Only])) fun events => ?_
    split
    · exact reconcileAgainstExchange_tidy _ _ _
    · refine tidy_bind (tidy_of_light (by simp [Program.Only])) fun now => ?_
      split
      · rfl
      · exact reconcileAgainstExchange_tidy _ _ _

section Bulk

variable (hashing : Hashing IntentPayload)

theorem findQuarantined_light (id : String) : Light (findQuarantined id) := by
  refine only_bind (by simp [Program.Only]) fun byId => ?_
  cases byId <;> simp [Program.Only]

variable {change : FailedEvent → FailedEvent}

theorem changeFailedEvent_light {id : String}
    (proper : Proper may id change) : LightBut may (changeFailedEvent id change) := by
  simp [Program.Only, changeFailedEvent, proper]

theorem now_then_light {α : Type} {rest : Time → Program services α}
    (second : ∀ time, LightBut may (rest time)) : LightBut may ((call .now).bind rest) :=
  only_bind (by simp [Program.Only]) second

theorem actOnRuntimeEvent_light (row : FailedEvent) (action : String)
    (dismissed : action = "dismiss" → may row.id) : LightBut may (actOnRuntimeEvent row action) := by
  unfold actOnRuntimeEvent
  split
  · exact (replayQuarantinedEvent_light row).but
  · split
    · exact dismissQuarantinedEvent_light row (dismissed ‹_›)
    · exact (markQuarantinedFailed_light row).but

theorem actOnOtherEvent_light (row : FailedEvent) (action : String)
    (dismissed : action = "dismiss" → may row.id) :
    LightBut may (actOnOtherEvent hashing row action) := by
  unfold actOnOtherEvent
  split
  · refine only_bind (publish_light _).but fun _ => ?_
    exact now_then_light fun _ => now_then_light fun _ =>
      changeFailedEvent_light (.of_status (fun _ => rfl) (fun _ => rfl) fun _ => by simp)
  · split
    · exact now_then_light fun _ => now_then_light fun _ => changeFailedEvent_light
        ⟨fun _ => rfl, .inr (dismissed ‹_›), fun _ counted => counted⟩
    · exact now_then_light fun _ =>
        changeFailedEvent_light (.of_status (fun _ => rfl) (fun _ => rfl) fun _ => by simp)

theorem applyRuntimeQuarantineAction_light (eventId action : String)
    (dismissed : lower (strip action) = "dismiss" → ∀ id, may id) :
    LightBut may (applyRuntimeQuarantineAction hashing eventId action) := by
  refine only_bind (findQuarantined_light _).but fun found => ?_
  cases found with
  | none => exact True.intro
  | some row =>
    dsimp only
    split
    · exact True.intro
    · split
      · exact only_bind (actOnRuntimeEvent_light _ _ fun same => dismissed same row.id)
          fun _ => createAuditLog_light.but
      · exact only_bind (actOnOtherEvent_light _ _ _ fun same => dismissed same row.id)
          fun _ => createAuditLog_light.but

theorem Proper.of_same {id : String} (keeps : KeepsId change)
    (status : ∀ row, (change row).status = row.status)
    (envelope : ∀ row, (change row).payload.envelope = row.payload.envelope) :
    Proper may id change :=
  ⟨keeps, .inl fun row resolved => (status row).symm.trans resolved, fun row counted => by
    rw [Counted, envelope]
    exact counted⟩

theorem actOnQuarantined_light (row : FailedEvent) (quarantineId mapped note : String)
    (dismissed : mapped = "dismiss" → ∀ id, may id) :
    LightBut may (actOnQuarantined hashing row quarantineId mapped note) := by
  have plain : lower (strip "replay") ≠ "dismiss" ∧ lower (strip "mark_failed") ≠ "dismiss" := by
    decide +kernel
  unfold actOnQuarantined
  split
  · refine only_bind (by simp [Program.Only]) fun minted => ?_
    refine now_then_light fun _ => ?_
    refine only_bind (changeFailedEvent_light
      (.of_same (fun _ => rfl) (fun _ => rfl) fun _ => rfl)) fun _ => ?_
    exact applyRuntimeQuarantineAction_light _ _ _ fun same => absurd same plain.1
  · split
    · rename_i passed
      refine applyRuntimeQuarantineAction_light _ _ _ fun same => ?_
      rcases passed with rfl | rfl
      · exact dismissed rfl
      · exact absurd same plain.2
    · split
      · exact now_then_light fun _ =>
          changeFailedEvent_light (.of_status (fun _ => rfl) (fun _ => rfl) fun _ => by simp)
      · split
        · exact now_then_light fun _ => now_then_light fun _ =>
            changeFailedEvent_light (.of_status (fun _ => rfl) (fun _ => rfl) fun _ => by simp)
        · exact now_then_light fun _ =>
            changeFailedEvent_light (.of_same (fun _ => rfl) (fun _ => rfl) fun _ => rfl)

theorem appendResolution_light (id mapped : String) : Light (appendResolution id mapped) := by
  refine only_bind (by simp [Program.Only]) fun found => ?_
  cases found with
  | none => exact True.intro
  | some row =>
    exact now_then_light fun _ =>
      changeFailedEvent_light (.of_same (fun _ => rfl) (fun _ => rfl) fun _ => rfl)

theorem applyExecutionSafetyQuarantineAction_light (quarantineId action note : String)
    (dismissed : quarantineActionMap.find (lower (strip action)) = some "dismiss" →
      ∀ id, may id) :
    LightBut may (applyExecutionSafetyQuarantineAction hashing quarantineId action note) := by
  unfold applyExecutionSafetyQuarantineAction
  split
  · exact True.intro
  · rename_i mapped entry
    refine only_bind (findQuarantined_light _).but fun found => ?_
    cases found with
    | none => exact True.intro
    | some row =>
      refine only_bind (actOnQuarantined_light _ _ _ _ _ fun same =>
        dismissed (same ▸ entry)) fun _ => ?_
      exact only_bind (appendResolution_light _ _).but fun _ => createAuditLog_light.but

theorem selectBulkTargets_light (action selectionMode : String)
    (intentIds quarantineIds : List String) (filters : BulkFilters) (limit : Nat) :
    Light (selectBulkTargets action selectionMode intentIds quarantineIds filters limit) := by
  have listed : ∀ {rest : List FailedEvent → Program services (List BulkTarget)},
      (∀ rows, Light (rest rows)) → Light ((call (.database .allFailed)).bind rest) :=
    fun second => only_bind (by simp [Program.Only]) second
  unfold selectBulkTargets
  dsimp only
  split
  · exact True.intro
  · refine now_then_light fun now => ?_
    split
    · refine only_bind (by simp [Program.Only]) fun rows => ?_
      split
      · exact True.intro
      · split
        · exact listed fun _ => True.intro
        · exact True.intro
    · split
      · exact listed fun _ => True.intro
      · split
        · exact listed fun _ => True.intro
        · split
          · exact listed fun _ => True.intro
          · exact True.intro

theorem cancelAtExchange_light (symbol orderId : String) :
    Light (cancelAtExchange symbol orderId) := by
  unfold cancelAtExchange
  split
  · exact True.intro
  · refine only_bind (by simp [Program.Only]) fun cancelled => ?_
    split <;> exact True.intro

theorem forceReconciled_tidy (intent : ExecutionIntent) (reason : String) (result : Payload) :
    Tidy (forceReconciled intent reason result) := by
  unfold forceReconciled
  split
  · refine follows_bind_call ⟨trivial, fun _ _ => ?_, fun _ _ => trivial⟩
    refine follows_then (addIntentEvent_dirty (by decide) _ _ _ _) ?_ (fun _ _ _ => trivial)
    rintro _ _ rfl
    refine follows_then (commit_cleans .dirty (by decide)) ?_ (fun _ _ _ => trivial)
    rintro _ _ rfl
    exact tidy_bind (refreshIntent_tidy _) fun _ => rfl
  · rfl

theorem recoverIntentTarget_tidy (action reason : String) (intent : ExecutionIntent) :
    Tidy (recoverIntentTarget hashing action reason intent) := by
  unfold recoverIntentTarget
  dsimp only
  split
  · split
    · rfl
    · exact tidy_bind (applyIntentRecoveryAction_tidy _ _ _) fun _ => rfl
  · split
    · split
      · rfl
      · refine tidy_bind (tidy_of_light (by simp [Program.Only])) fun events => ?_
        refine tidy_bind (tidy_of_light (cancelAtExchange_light _ _)) fun _ => ?_
        exact tidy_bind (applyIntentRecoveryAction_tidy _ _ _) fun _ => rfl
    · split
      · exact tidy_bind (reconcileIntentWithExchange_tidy _ _ _) fun _ => rfl
      · split
        · refine tidy_bind (reconcileIntentWithExchange_tidy _ _ _) fun report => ?_
          exact tidy_bind (forceReconciled_tidy _ _ _) fun _ => rfl
        · split
          · refine tidy_bind (tidy_of_light (by simp [Program.Only]))
              fun failed => ?_
            split
            · rfl
            · exact tidy_bind (tidy_of_light (quarantineIntent_light _ _ _ _)) fun _ => rfl
          · rfl

theorem recoverQuarantineTarget_light (action reason targetId : String) :
    LightBut (fun _ => True) (recoverQuarantineTarget hashing action reason targetId) := by
  have acted : ∀ (mapped : String), LightBut (fun _ => True)
      (applyExecutionSafetyQuarantineAction hashing targetId mapped reason) := fun mapped =>
    applyExecutionSafetyQuarantineAction_light _ _ _ _ fun _ _ => trivial
  refine only_bind (by simp [Program.Only]) fun found => ?_
  cases found with
  | none => exact True.intro
  | some row =>
    refine only_bind (by simp [Program.Only]) fun _ => ?_
    split
    · exact True.intro
    · split
      · exact only_bind (acted _) fun _ => True.intro
      · split
        · exact only_bind (acted _) fun _ => True.intro
        · split
          · exact only_bind (acted _) fun _ => True.intro
          · exact True.intro

theorem recoverTarget_tidy (action reason : String) (target : BulkTarget) :
    Tidy (recoverTarget hashing action reason target) := by
  unfold recoverTarget
  split
  · exact tidy_of_lightBut (recoverQuarantineTarget_light _ _ _ _)
  · refine tidy_bind (findIntent_tidy _) fun found => ?_
    cases found with
    | none => exact True.intro
    | some intent =>
      refine tidy_bind (recoverIntentTarget_tidy _ _ _ _) fun result => ?_
      cases result with
      | error message => rfl
      | ok _ => exact tidy_bind (refreshIntent_tidy _) fun _ => rfl

theorem Guard.held_next (guard : Guard) (command : Command)
    (answer : Except Failure command.Reply) (held : guard ≠ .free) :
    Guard.next guard command answer ≠ .free := by
  unfold Guard.next
  split <;> simp_all

theorem reportTarget_tidy (target : BulkTarget) (outcome : Except Failure (Except String Unit))
    (guard : Guard) (held : guard ≠ .free)
    (returned : ∀ result, outcome = .ok result → guard = .clean) :
    (reportTarget target outcome).Follows guarded (fun _ guard => guard = .clean)
      (fun _ _ => True) guard := by
  have rolledBack : ∀ item : ItemResult,
      ((call (.database .rollback)).bind fun _ => Program.done item).Follows guarded
        (fun _ guard => guard = .clean) (fun _ _ => True) guard := by
    intro item
    cases guard with
    | free => exact absurd rfl held
    | clean | dirty => simp
  match outcome with
  | .ok (.ok _) => exact returned _ rfl
  | .ok (.error message) => exact rolledBack _
  | .error failure => exact rolledBack _

theorem bulkItem_tidy (action reason : String) (target : BulkTarget) :
    Tidy (bulkItem hashing action reason target) := by
  have attempted := Program.follows_and Guard.held_next
    (recoverTarget_tidy hashing action reason target) (by decide : Guard.clean ≠ .free)
  refine (follows_bind _ _).mpr ((Program.follows_outcome _).mpr
    (follows_mono attempted ?_ ?_))
  · rintro result guard ⟨clean, held⟩
    refine follows_then
      (reportTarget_tidy target _ guard held fun _ _ => clean) ?_ (fun _ _ _ => trivial)
    rintro item _ rfl
    exact tidy_bind (tidy_of_light createAuditLog_light) fun _ => rfl
  · rintro failure guard ⟨_, held⟩
    refine follows_then
      (reportTarget_tidy target _ guard held nofun) ?_
      (fun _ _ _ => trivial)
    rintro item _ rfl
    exact tidy_bind (tidy_of_light createAuditLog_light) fun _ => rfl

theorem bulkLoop_tidy (action reason : String) (targets : List BulkTarget) :
    Tidy (bulkLoop hashing action reason targets) := by
  induction targets with
  | nil => rfl
  | cons target targets ih =>
    exact tidy_bind (bulkItem_tidy hashing action reason target) fun _ =>
      tidy_bind ih fun _ => rfl

theorem runBulkRecovery_tidy (action selectionMode : String)
    (intentIds quarantineIds : List String) (filters : BulkFilters) (reason : String)
    (limit : Int) :
    Tidy (runBulkRecovery hashing action selectionMode intentIds quarantineIds filters reason
      limit) := by
  unfold runBulkRecovery
  split
  · exact True.intro
  · exact tidy_bind (tidy_of_light (selectBulkTargets_light _ _ _ _ _ _)) fun _ =>
      bulkLoop_tidy _ _ _ _

end Bulk

/-- Every task runs under its guard. -/
theorem code_guarded (hashing : Hashing IntentPayload) (task : Task) :
    (code hashing task).Follows guarded (fun _ _ => True) (fun _ _ => True)
      (guarded.initial task) := by
  have issued : ∀ {program : Program services Unit}, program.Only (S := services)
      (Guard.allows .free) → program.Follows guarded (fun _ _ => True) (fun _ _ => True) .free :=
    fun only => follows_of_only only (fun command allowed => ⟨allowed, fun _ => rfl⟩)
      (fun _ => trivial) fun _ => trivial
  have calmly : ∀ {may : String → Prop} {program : Program services Unit},
      program.Only (S := services) (Command.calm may) →
      program.Follows guarded (fun _ _ => True) (fun _ _ => True) .free :=
    fun calm => issued (only_mono (fun _ calm => calm.1) calm)
  have free : ∀ {α : Type} {program : Program services α}, Calm program →
      (program.bind fun _ => Program.done ()).Follows guarded (fun _ _ => True)
        (fun _ _ => True) .free := fun calm => calmly (only_bind calm fun _ => trivial)
  have clean : ∀ {α : Type} {program : Program services α}, Tidy program →
      (program.bind fun _ => Program.done ()).Follows guarded (fun _ _ => True)
        (fun _ _ => True) .clean := fun tidy =>
    (follows_bind _ _).mpr
      (follows_mono tidy (fun _ _ _ => trivial) (fun _ _ _ => trivial))
  cases task with
  | publish eventType payload correlationId causationId partitionKey =>
    exact free (calm_of_light (publish_light _))
  | consume eventType workerName => exact free (calm_of_light (consume_light _ _))
  | dispatch strategyId correlationId decision context =>
    exact free (dispatchDecisionResult_calm _ _ _ _ _)
  | workerPass workerName => exact free (processSubmissionEventOnce_calm _ _)
  | release limit => exact free (calm_of_light (release_light _))
  | enqueueRetry entry =>
    exact free (calm_of_light (by simp [Program.Only, enqueueRetryEvent]))
  | enqueueQuarantine envelope errorMessage reasonCode retryCount maxRetry =>
    exact free (calm_of_light (by simp [Program.Only, enqueueQuarantineEvent]))
  | removeQuarantine eventId =>
    exact calmly (calm_of_light (removeQuarantine_light eventId))
  | quarantineAction eventId action =>
    exact calmly (calm_of_light (adminRuntimeQuarantineAction_light _ _ fun _ _ => trivial :
      LightBut (fun _ => True) _))
  | performRecovery intentId action =>
    exact issued (only_bind (performRecoveryAction_free _ _ _) fun _ => trivial)
  | applyRecovery intentId action => exact clean (applyIntentRecoveryAction_tidy _ _ _)
  | reconcile intentId reason stage => exact clean (reconcileIntentWithExchange_tidy _ _ _)
  | bulkRecovery action selectionMode intentIds quarantineIds filters reason limit =>
    exact clean (runBulkRecovery_tidy _ _ _ _ _ _ _ _)

end Runtime
