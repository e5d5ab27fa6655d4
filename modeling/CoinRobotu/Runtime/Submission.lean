import CoinRobotu.Runtime.Guard

/-!
# How a pass submits an order

A worker pass loads an intent, reads its log, and only when it read the log as
open does it submit the order and close the log.
-/

open Interleaving
open Program (only_bind follows_bind follows_mono only_mono follows_of_only follows_then)

namespace Runtime

attribute [local simp] Command.light Command.lawful Command.modest

inductive Stage where
  | bystander
  | operator
  | outside
  | loaded (row : ExecutionIntent)
  | submitting (row : ExecutionIntent) (submitted closed : Bool)

def closesByHand (action : String) : Prop :=
  lower action = "cancel_intent" ∨ lower action = "mark_failed"

instance (action : String) : Decidable (closesByHand action) :=
  inferInstanceAs (Decidable (_ ∨ _))

namespace Stage

def initial : Task → Stage
  | .workerPass _ => outside
  | .performRecovery _ action => if closesByHand action then operator else bystander
  | _ => bystander

def readsOpen (row : ExecutionIntent) (intentId eventType : String) : Prop :=
  intentId = row.intentId ∧ eventType = orderFinalized

instance (row : ExecutionIntent) (intentId eventType : String) :
    Decidable (readsOpen row intentId eventType) := inferInstanceAs (Decidable (_ ∧ _))

def next : Stage → (command : Command) → Except Failure command.Reply → Stage
  | outside, .database (.findIntent _), .ok (some row) => loaded row
  | loaded row, .database (.findEvent intentId eventType), .ok none =>
      if readsOpen row intentId eventType then submitting row false false else loaded row
  | submitting row _ closed, .submitOrder _, .ok _ => submitting row true closed
  | submitting row submitted closed, .database (.addEvent event), .ok _ =>
      submitting row submitted (closed || event.eventType == orderFinalized)
  | stage, _, _ => stage

/-- One order for the loaded intent, and one event that closes its log. -/
def allows : Stage → Command → Prop
  | submitting row submitted _, .submitOrder order =>
      submitted = false ∧ order.intentHash = row.intentHash
  | _, .submitOrder _ => False
  | operator, .database (.addEvent _) => True
  | submitting row _ closed, .database (.addEvent event) =>
      event.eventType = orderFinalized → closed = false ∧ event.intentId = row.intentId
  | _, .database (.addEvent event) => event.eventType ≠ orderFinalized
  | _, _ => True

end Stage

@[simps -fullyApplied] def submission : Protocol services Task Stage :=
  ⟨.bystander, Stage.initial, Stage.next, Stage.allows, fun _ _ => True⟩

section Follows

variable {α : Type} {returns : α → Stage → Prop} {raises : Failure → Stage → Prop} {stage : Stage}

theorem follows_of_light {program : Program services α} (light : Light program)
    (onReturn : ∀ value, returns value stage) (onRaise : ∀ failure, raises failure stage) :
    program.Follows submission returns raises stage := by
  refine follows_of_only light (fun command quiet => ⟨?_, fun answer => ?_⟩)
    onReturn onRaise
  · cases command with
    | database command => cases command <;> first | exact quiet.1.elim | (cases stage <;> trivial)
    | submitOrder order => exact quiet.1.elim
    | _ => cases stage <;> trivial
  · cases command with
    | database command => cases command <;> first | exact quiet.1.elim | (cases stage <;> rfl)
    | submitOrder order => exact quiet.1.elim
    | _ => cases stage <;> rfl

abbrev Ends {α : Type} (program : Program services α) (stage : Stage) : Prop :=
  program.Follows submission (fun _ _ => True) (fun _ _ => True) stage

theorem ends_of_light {program : Program services α} (light : Light program) (stage : Stage) :
    Ends program stage :=
  follows_of_light light (fun _ => trivial) (fun _ => trivial)

/-- A program that ends may be followed by programs that end from any stage. -/
theorem ends_bind {β : Type} {program : Program services α} {rest : α → Program services β}
    (first : Ends program stage) (second : ∀ value stage, Ends (rest value) stage) :
    Ends (program.bind rest) stage :=
  (follows_bind program rest).mpr
    (follows_mono first (fun value reached _ => second value reached)
      (fun _ _ _ => trivial))

end Follows

section Worker

variable (hashing : Hashing IntentPayload)

theorem addIntentEvent_submitting (row : ExecutionIntent) (submitted closed : Bool)
    (eventType eventStatus : String) (externalOrderId : Option String) (payload : Payload)
    (closable : eventType = orderFinalized → closed = false) :
    (addIntentEvent row.intentId eventType eventStatus externalOrderId payload).Follows submission
      (fun _ stage => stage = .submitting row submitted (closed || eventType == orderFinalized))
      (fun _ _ => True) (.submitting row submitted closed) := by
  simp only [addIntentEvent, Program.bind_eq, follows_bind, follows_call,
    submission_allows, submission_next, submission_possible]
  refine ⟨trivial, fun id _ => ⟨trivial, fun createdAt _ => ⟨?_, fun _ _ => rfl,
    fun _ _ => trivial⟩, fun _ _ => trivial⟩, fun _ _ => trivial⟩
  exact fun finalized => ⟨closable finalized, rfl⟩

/-- How many more times the states close the log, counting a close already made. -/
def closings (closed : Bool) (states : List String) : Nat :=
  (if closed then 1 else 0) + (states.filter (· ∈ terminalStates)).length

theorem closings_lifecycle (seed : Nat) : closings false (lifecycleOf seed) = 1 := by
  unfold lifecycleOf
  split
  · decide
  · split <;> decide

section Ending

variable (row : ExecutionIntent)

/-- The loop over the states, by induction on them: each terminal state closes
the log, so a log still open can meet one and a closed one none. -/
theorem recordLifecycle_ends (eventId externalOrderId : String)
    (states : List String) (closed : Bool) (once : closings closed states ≤ 1) :
    (recordLifecycle hashing row eventId externalOrderId states).Follows submission
      (fun _ stage => ∃ closed, stage = .submitting row true closed) (fun _ _ => True)
      (.submitting row true closed) := by
  induction states generalizing closed with
  | nil => exact ⟨closed, rfl⟩
  | cons state states ih =>
    have typed : (lifecycleEventType state == orderFinalized) =
        decide (state ∈ terminalStates) := by
      unfold lifecycleEventType
      split <;> simp_all [orderFinalized]
    have closable : lifecycleEventType state = orderFinalized → closed = false := by
      intro finalized
      have terminal : state ∈ terminalStates := by simpa [finalized] using typed.symm
      cases closed with
      | false => rfl
      | true => simp [closings, terminal] at once
    have remaining :
        closings (closed || lifecycleEventType state == orderFinalized) states ≤ 1 := by
      rw [typed]
      by_cases terminal : state ∈ terminalStates <;>
        cases closed <;> simp_all [closings]
    refine follows_then
      (addIntentEvent_submitting row true closed _ _ _ _ closable) ?_ (fun _ _ _ => trivial)
    rintro _ _ rfl
    exact (follows_bind _ _).mpr (follows_of_light (publish_light _)
      (fun _ => ih _ remaining) (fun _ => trivial))

theorem blockSubmission_ends (eventId processingQueue : String) (raw : Raw) (reasonCode : String) :
    Ends (blockSubmission row eventId processingQueue raw reasonCode)
      (.submitting row false false) :=
  follows_then (addIntentEvent_submitting row false false _ _ _ _ fun _ => rfl)
    (fun _ stage _ => ends_of_light (completeSubmission_light _ _ _ _) stage)
    (fun _ _ _ => trivial)

theorem recordSubmission_ends (eventId processingQueue : String) (raw : Raw) :
    Ends (recordSubmission hashing row eventId processingQueue raw)
      (.submitting row false false) := by
  have submitted : ((submitOrder hashing
      ⟨row.intentHash, row.quantity, row.priceReference⟩).attempt
        fun _ => throw (.runtimeError "exchange_adapter_failure")).Follows submission
      (fun submission stage => submission.lifecycle = lifecycleOf (hashing.seed row.intentHash) ∧
        stage = .submitting row true false) (fun _ _ => True) (.submitting row false false) := by
    simp [submitOrder, Stage.allows, Stage.next]
  refine follows_then submitted ?_ (fun _ _ _ => trivial)
  rintro submission _ ⟨lifecycle, rfl⟩
  refine follows_then
    (addIntentEvent_submitting row true false _ _ _ _ (by decide)) ?_ (fun _ _ _ => trivial)
  rintro _ _ rfl
  refine (follows_bind _ _).mpr (follows_of_light (publish_light _)
    (fun _ => ?_) (fun _ => trivial))
  have once : closings false submission.lifecycle ≤ 1 := by
    rw [lifecycle, closings_lifecycle]
  refine follows_then
    (recordLifecycle_ends hashing row _ _ _ _ once) (fun _ stage _ => ?_) (fun _ _ _ => trivial)
  refine ends_of_light ?_ stage
  refine only_bind (by simp [Program.Only]) fun _ => ?_
  exact only_bind (noteConnection_light _) fun _ => completeSubmission_light _ _ _ _

theorem submitIntent_ends (eventId processingQueue : String) (raw : Raw) :
    Ends (submitIntent hashing row eventId processingQueue raw) (.loaded row) := by
  refine follows_bind_call ⟨trivial, fun found _ => ?_, fun _ _ => trivial⟩
  cases found with
  | some event => exact True.intro
  | none =>
    have opened : submission.next (.loaded row)
        (.database (.findEvent row.intentId orderFinalized)) (.ok none) =
          .submitting row false false :=
      if_pos ⟨rfl, rfl⟩
    rw [opened]
    refine (follows_bind _ _).mpr ((Program.follows_outcome _).mpr
      (follows_of_light enforceGates_light (fun _ => ?_) (fun failure => ?_)))
    · exact recordSubmission_ends hashing row eventId processingQueue raw
    · cases failure with
      | executionSafetyViolation reasonCode => exact blockSubmission_ends row _ _ _ _
      | commercialControlViolation reasonCode => exact blockSubmission_ends row _ _ _ _
      | _ => exact True.intro

end Ending

theorem lookUpIntent_loaded (envelope : Envelope) :
    (lookUpIntent envelope).Follows submission (fun row stage => stage = .loaded row)
      (fun _ _ => True) .outside := by
  unfold lookUpIntent
  dsimp only
  split
  · exact True.intro
  · refine follows_bind_call ⟨trivial, fun found _ => ?_, fun _ _ => trivial⟩
    cases found with
    | none => exact True.intro
    | some row => rfl

theorem processEvent_ends (envelope : Envelope) (eventId processingQueue : String) (raw : Raw) :
    Ends (processEvent hashing envelope eventId processingQueue raw) .outside := by
  refine (follows_bind _ _).mpr ((Program.follows_outcome _).mpr
    (follows_mono (lookUpIntent_loaded envelope) ?_ ?_))
  · rintro row _ rfl
    refine (follows_bind _ _).mpr ((Program.follows_outcome _).mpr
      (follows_mono (submitIntent_ends hashing row eventId processingQueue raw) ?_ ?_))
    · exact fun _ _ _ => trivial
    · exact fun _ stage _ => ends_of_light (handleSubmissionFailure_light _ _ _ _ _ _) stage
  · exact fun _ stage _ => ends_of_light (handleSubmissionFailure_light _ _ _ _ _ _) stage

theorem processSubmissionEventOnce_ends (workerName : String) :
    Ends (processSubmissionEventOnce hashing workerName) .outside := by
  refine (follows_bind _ _).mpr (follows_of_light (release_light 200) (fun _ => ?_)
    (fun _ => trivial))
  refine (follows_bind _ _).mpr (follows_of_light (consume_light _ _) (fun consumed => ?_)
    (fun _ => trivial))
  match consumed with
  | none => exact True.intro
  | some (envelope, processingQueue, raw) =>
    dsimp only
    split
    · exact ends_bind (ends_of_light (ack_light _ _) _) fun _ _ => True.intro
    · refine follows_bind_call ⟨trivial, fun processed _ => ?_, fun _ _ => trivial⟩
      split
      · exact ends_bind (ends_of_light (ack_light _ _) _) fun _ _ => True.intro
      · exact ends_bind (processEvent_ends hashing _ _ _ _) fun _ _ => True.intro

end Worker

section Bystanders

variable (hashing : Hashing IntentPayload)

/-- A command that submits no order and closes no log. -/
def Command.harmless : Command → Prop
  | .submitOrder _ => False
  | .database (.addEvent event) => event.eventType ≠ orderFinalized
  | _ => True

theorem Command.harmless_of_light {may : String → Prop} (command : Command)
    (quiet : command.modest may) :
    command.harmless := by
  cases command with
  | database command => cases command <;> first | exact quiet.1.elim | trivial
  | submitOrder order => exact quiet.1.elim
  | _ => trivial

theorem Command.harmless_of_admitting (command : Command) (admitting : command.admitting) :
    command.harmless := by
  cases command with
  | database command => cases command <;> first | exact admitting.1.elim | trivial
  | submitOrder order => exact admitting.1.elim
  | _ => trivial

theorem ends_of_harmless {α : Type} {program : Program services α}
    (harmless : program.Only (S := services) Command.harmless) : Ends program .bystander := by
  refine follows_of_only harmless (fun command quiet => ⟨?_, fun answer => ?_⟩)
    (fun _ => trivial) (fun _ => trivial)
  · cases command with
    | database command => cases command <;> exact quiet
    | submitOrder order => exact quiet.elim
    | _ => trivial
  · cases command with
    | database command => cases command <;> rfl
    | _ => rfl

theorem harmless_of_tidy {α : Type} {program : Program services α} (tidy : Tidy program) :
    program.Only (S := services) Command.harmless := by
  refine Program.only_of_follows tidy (fun _ _ => trivial)
    (fun guard command answer held => Guard.held_next guard command answer held)
    (fun guard command held allowed => ?_) (by decide : Guard.clean ≠ .free)
  cases guard with
  | free => exact absurd rfl held
  | clean =>
    cases command with
    | database command => cases command <;> first | exact allowed.elim | trivial
    | submitOrder order => exact allowed.elim
    | _ => trivial
  | dirty =>
    cases command with
    | database command =>
      cases command with
      | addEvent event => exact fun same => reported_kept orderFinalized (by decide) (same ▸ allowed)
      | _ => trivial
    | submitOrder order => exact allowed.elim
    | _ => trivial

/-- An operator that does not close the log by hand is harmless. -/
theorem performRecoveryAction_harmless (intentId action : String) (kept : ¬closesByHand action) :
    (performRecoveryAction hashing intentId action).Only (S := services) Command.harmless :=
  performRecoveryAction_only hashing Command.harmless_of_light (fun _ => trivial)
    (fun _ _ => trivial) intentId action
    fun closing => absurd closing kept

theorem performRecoveryAction_ends (intentId action : String) :
    Ends (performRecoveryAction hashing intentId action) .operator := by
  refine follows_of_only (performRecoveryAction_operating hashing intentId action)
    (fun command operating => ⟨?_, fun answer => ?_⟩) (fun _ => trivial) (fun _ => trivial)
  · cases command with
    | database command => cases command <;> trivial
    | submitOrder order => exact operating.elim
    | _ => trivial
  · cases command with
    | database command => cases command <;> rfl
    | _ => rfl

theorem code_submission (task : Task) :
    Ends (code hashing task) (submission.initial task) := by
  have light : ∀ {α : Type} {program : Program services α}, Light program →
      Ends (program.bind fun _ => Program.done ()) .bystander := fun light =>
    ends_bind (ends_of_harmless (only_mono Command.harmless_of_light light))
      fun _ _ => True.intro
  have tidy : ∀ {α : Type} {program : Program services α}, Tidy program →
      Ends (program.bind fun _ => Program.done ()) .bystander := fun tidy =>
    ends_bind (ends_of_harmless (harmless_of_tidy tidy)) fun _ _ => True.intro
  cases task with
  | publish eventType payload correlationId causationId partitionKey =>
    exact light (publish_light _)
  | consume eventType workerName => exact light (consume_light _ _)
  | dispatch strategyId correlationId decision context =>
    exact ends_bind (ends_of_harmless (only_mono Command.harmless_of_admitting
      (dispatchDecisionResult_admitting _ _ _ _ _))) fun _ _ => True.intro
  | workerPass workerName =>
    exact ends_bind (processSubmissionEventOnce_ends _ _) fun _ _ => True.intro
  | release limit => exact light (release_light _)
  | enqueueRetry entry =>
    exact light (by simp [Program.Only, enqueueRetryEvent])
  | enqueueQuarantine envelope errorMessage reasonCode retryCount maxRetry =>
    exact light (by simp [Program.Only, enqueueQuarantineEvent])
  | removeQuarantine eventId =>
    exact ends_of_harmless (only_mono Command.harmless_of_light
      (removeQuarantine_light eventId))
  | quarantineAction eventId action =>
    exact ends_of_harmless (only_mono Command.harmless_of_light
      (adminRuntimeQuarantineAction_light _ _ fun _ _ => trivial : LightBut (fun _ => True) _))
  | performRecovery intentId action =>
    refine ends_bind ?_ fun _ _ => True.intro
    by_cases closing : closesByHand action
    · simpa [Stage.initial, closing] using performRecoveryAction_ends hashing intentId action
    · simpa [Stage.initial, closing] using
        ends_of_harmless (performRecoveryAction_harmless hashing intentId action closing)
  | applyRecovery intentId action => exact tidy (applyIntentRecoveryAction_tidy _ _ _)
  | reconcile intentId reason stage => exact tidy (reconcileIntentWithExchange_tidy _ _ _)
  | bulkRecovery action selectionMode intentIds quarantineIds filters reason limit =>
    exact tidy (runBulkRecovery_tidy _ _ _ _ _ _ _ _)

theorem submission_governs (discipline : Discipline services World Oracle Task Stage) :
    Governs (runtime hashing) submission discipline (fun _ => True) (fun _ _ => True) :=
  ⟨fun _ _ _ _ => trivial, fun _ _ task _ => code_submission hashing task⟩

end Bystanders

end Runtime
