import CoinRobotu.Runtime.Processing

/-!
# Where a published event is kept

An event is kept while it stands in its source queue, in the retry list or in
the quarantine list, and while a running task has taken it out and will put it
back.
-/

open Interleaving
open Program (only_bind follows_bind follows_mono only_outcome only_mono follows_lasting follows_then)

namespace Runtime

def Envelope.plain (envelope : Envelope) : Bool :=
  envelope.eventType ≠ "" &&
    !(submissionRequested ++ ":processing:").toList.isPrefixOf envelope.eventType.toList

def Envelope.tracked (envelope : Envelope) : Option String :=
  if envelope.plain ∧ ¬blank envelope.eventId then envelope.eventId else none

/-- The event an element of a list keeps: as itself in its source queue, as an
entry in the retry list or in the quarantine list. -/
def Raw.keeps (key : String) : Raw → Option String
  | .envelope sent => if key = streamKey sent.eventType then sent.tracked else none
  | .retry entry => if key = runtimeRetryQueue then entry.envelope.tracked else none
  | .quarantine entry => if key = runtimeQuarantineQueue then entry.envelope.tracked else none
  | .text _ => none

/-- Whether a command pushed the event to its source queue. -/
def publishes (eventId : String) : (command : Command) → Except Failure command.Reply → Prop
  | .redis (.rpush key values), .ok _ =>
      ∃ sent : Envelope, .envelope sent ∈ values ∧ (Raw.envelope sent).keeps key = some eventId
  | _, _ => False

def Published (trace : List (Thread × services.Event)) (eventId : String) : Prop :=
  ∃ entry ∈ trace, publishes eventId entry.2.1 entry.2.2

/-- An operator asked for the removal of the event's quarantine entries. -/
def Removed (started : List Task) (eventId : String) : Prop :=
  .removeQuarantine eventId ∈ started ∨ .quarantineAction eventId "dismiss" ∈ started

/-- What a task holds: the events it took out of a list, the quarantine entries
it will write back, what it last read, and the removal it makes. A replay has
`replayed` its event until it deletes the quarantine list. -/
structure Hold where
  hands : List String
  restoring : List String
  read : List Raw
  removing : Option String
  replays : Bool
  replayed : Bool

namespace Hold

def empty : Hold := ⟨[], [], [], none, false, false⟩

def initial : Task → Hold
  | .removeQuarantine eventId => { empty with removing := some eventId }
  | .quarantineAction eventId action =>
      { empty with removing := some eventId, replays := action ≠ "dismiss" }
  | _ => empty

def pushed (key : String) (values : List Raw) (eventId : String) : Bool :=
  values.any fun raw => raw.keeps key = some eventId

def release (hold : Hold) (safe : String → Bool) : Hold :=
  { hold with
    hands := hold.hands.filter fun eventId => !safe eventId
    restoring := hold.restoring.filter fun eventId => !safe eventId }

def next (hold : Hold) : (command : Command) → Except Failure command.Reply → Hold
  | .redis (.rpush key values), .ok _ =>
      { hold.release (pushed key values) with
        replayed := hold.replayed || (hold.replays && key ≠ runtimeQuarantineQueue &&
          hold.removing.any (pushed key values)) }
  | .redis (.sadd key member), .ok _ =>
      hold.release fun eventId => key = processedEventsSet ∧ member = eventId
  | .redis (.sismember key member), .ok found =>
      hold.release fun eventId => key = processedEventsSet ∧ member = eventId ∧ found
  | .redis (.brpoplpush source _), .ok (some raw) =>
      { hold with hands := hold.hands ++ (raw.keeps source).toList }
  | .redis (.lrange _ _ _), .ok items => { hold with read := items }
  | .redis (.ltrim key _ _), .ok _ =>
      { hold with hands := hold.hands ++ hold.read.filterMap (Raw.keeps key) }
  | .redis (.delete key), .ok _ =>
      { hold with
        restoring := hold.restoring ++
          (hold.read.filterMap (Raw.keeps key)).filter (some · ≠ hold.removing)
        replayed := false }
  | _, _ => hold

def allows (hold : Hold) : Command → Prop
  | .redis (.brpoplpush source destination) => source = streamKey submissionRequested ∧
      ∃ workerName, destination = processingKey submissionRequested workerName
  | .redis (.lrem key _ _) => ∃ workerName, key = processingKey submissionRequested workerName
  | .redis (.ltrim key start stop) =>
      key = runtimeRetryQueue ∧ start = hold.read.length ∧ stop = -1
  | .redis (.delete key) => key = runtimeQuarantineQueue ∧ hold.removing ≠ none
  | _ => True

def Free (hold : Hold) : Prop := hold.hands = [] ∧ hold.restoring = []

end Hold

def answersAsAsked : (command : Command) → Except Failure command.Reply → Prop
  | .database (.findFailed _ entityId), .ok (some row) => row.entityId = entityId
  | _, _ => True

@[simps -fullyApplied] def keeping : Protocol services Task Hold :=
  ⟨.empty, Hold.initial, Hold.next, Hold.allows, answersAsAsked⟩

/-- No task stops with an event in its hands. -/
def sound : Discipline services World Oracle Task Hold where
  starts _ _ task :=
    match task with
    | .consume _ _ => False
    | .bulkRecovery _ _ _ _ _ _ _ => False
    | _ => True
  runs view thread _ command :=
    (∀ start stop, command = .redis (.ltrim runtimeRetryQueue start stop) →
      ∀ raw ∈ (view.world.redis.lists runtimeRetryQueue).take (view.phases thread).read.length,
        raw ∈ (view.phases thread).read) ∧
    (command = .redis (.delete runtimeQuarantineQueue) →
      (∀ raw ∈ view.world.redis.lists runtimeQuarantineQueue, raw ∈ (view.phases thread).read) ∧
        ((view.phases thread).replays → (view.phases thread).replayed)) ∧
    ∀ values, command = .redis (.rpush runtimeQuarantineQueue values) →
      ∀ eventId ∈ (view.phases thread).hands,
        Hold.pushed runtimeQuarantineQueue values eventId →
        ∀ other, (view.phases other).replayed → (view.phases other).removing ≠ some eventId
  dies view thread := (view.phases thread).Free

section Follows

variable {α β : Type}

abbrev Relinquishes (program : Program services α) (hold : Hold) : Prop :=
  program.Follows keeping (fun _ reached => reached.Free) (fun _ _ => True) hold

/-- A command that appends to lists and takes nothing from them. -/
def Command.appending : Command → Prop
  | .redis (.incr _) => True
  | .redis (.rpush _ _) => True
  | .redis _ => False
  | _ => True

abbrev Appending (program : Program services α) : Prop :=
  program.Only (S := services) Command.appending

theorem appending_of_offline {program : Program services α} (offline : Offline program) :
    Appending program := by
  apply only_mono _ offline
  intro command off
  cases command with
  | redis command => exact off.elim
  | _ => trivial

theorem Hold.next_appending (hold : Hold) (command : Command) (appends : command.appending)
    (answer : Except Failure command.Reply) :
    hold.allows command ∧ (∀ eventId ∈ (hold.next command answer).hands, eventId ∈ hold.hands) ∧
      (∀ eventId ∈ (hold.next command answer).restoring, eventId ∈ hold.restoring) ∧
      (hold.next command answer).removing = hold.removing := by
  cases command with
  | redis command =>
    cases command with
    | incr key => exact ⟨trivial, fun _ inside => inside, fun _ inside => inside, rfl⟩
    | rpush key values =>
      cases answer with
      | error failure => exact ⟨trivial, fun _ inside => inside, fun _ inside => inside, rfl⟩
      | ok length =>
        exact ⟨trivial, fun _ inside => List.mem_of_mem_filter inside,
          fun _ inside => List.mem_of_mem_filter inside, rfl⟩
    | _ => exact appends.elim
  | _ => exact ⟨trivial, fun _ inside => inside, fun _ inside => inside, rfl⟩

/-- The hold of a task that has nothing in its hands and may remove the event. -/
def Unladen (removing : Option String) (hold : Hold) : Prop :=
  hold.Free ∧ hold.removing = removing

theorem unladen_appending {removing : Option String} {hold : Hold}
    (unladen : Unladen removing hold) (command : Command) (appends : command.appending) :
    hold.allows command ∧ ∀ answer, Unladen removing (hold.next command answer) := by
  obtain ⟨⟨hands, restoring⟩, asked⟩ := unladen
  have keeps := fun answer => hold.next_appending command appends answer
  constructor
  · cases command with
    | redis command => cases command <;> trivial
    | _ => trivial
  · intro answer
    obtain ⟨_, fewerHands, fewerRestoring, same⟩ := keeps answer
    refine ⟨⟨?_, ?_⟩, same.trans asked⟩
    · apply List.eq_nil_iff_forall_not_mem.mpr
      intro eventId inside
      simpa [hands] using fewerHands eventId inside
    · apply List.eq_nil_iff_forall_not_mem.mpr
      intro eventId inside
      simpa [restoring] using fewerRestoring eventId inside

theorem appending_unladen {program : Program services α} (appending : Appending program)
    {removing : Option String} {hold : Hold} (unladen : Unladen removing hold) :
    program.Follows keeping (fun _ => Unladen removing) (fun _ => Unladen removing) hold :=
  follows_lasting (Unladen removing) appending
    (fun _ command held appends => unladen_appending held command appends)
    (fun _ _ held => held) (fun _ _ held => held) unladen

theorem appending_keeps {program : Program services α} (appending : Appending program)
    {hold : Hold} (free : hold.Free) : Relinquishes program hold :=
  follows_mono (appending_unladen appending ⟨free, rfl⟩) (fun _ _ held => held.1)
    (fun _ _ _ => trivial)

end Follows

section Appending

variable (hashing : Hashing IntentPayload)

theorem publish_appending {eventType correlationId partitionKey : String}
    {payload : Payload} {causationId : Option String} :
    Appending (publishRuntimeEvent hashing eventType payload correlationId causationId
      partitionKey) := by
  simp [Program.Only, publishRuntimeEvent, Command.appending]

theorem enqueueRetry_appending (entry : RetryEntry) : Appending (enqueueRetryEvent entry) := by
  simp [Program.Only, enqueueRetryEvent, Command.appending]

theorem enqueueQuarantine_appending (envelope : Envelope) (errorMessage reasonCode : String)
    (retryCount maxRetry : Nat) :
    Appending (enqueueQuarantineEvent envelope errorMessage reasonCode retryCount maxRetry) := by
  simp [Program.Only, enqueueQuarantineEvent, Command.appending]

theorem requeue_appending (envelope : Envelope) : Appending (requeueRuntimeEvent envelope) := by
  simp [Program.Only, requeueRuntimeEvent, Command.appending]

theorem requeueRecorded_appending (payload : FailedPayload) :
    Appending (requeueRecorded payload) := by
  unfold requeueRecorded
  split
  · split
    · trivial
    · exact requeue_appending _
  · trivial

theorem requestForIntent_appending (intent : ExecutionIntent)
    (intentId eventType status : String) (payload : Payload) :
    Appending (requestForIntent hashing intent intentId eventType status payload) := by
  apply only_bind (publish_appending hashing)
  intro _
  exact only_bind (appending_of_offline createAuditLog_offline) fun _ => trivial

theorem closeIntent_appending (intentId eventStatus externalOrderId reason status : String) :
    Appending (closeIntent intentId eventStatus externalOrderId reason status) := by
  apply only_bind (appending_of_offline addIntentEvent_offline)
  intro _
  apply only_bind (only_call trivial)
  intro _
  exact only_bind (appending_of_offline createAuditLog_offline) fun _ => trivial

theorem performRecoveryAction_appending (intentId action : String) :
    Appending (performRecoveryAction hashing intentId action) := by
  apply only_bind (only_call trivial)
  intro found
  cases found with
  | none => trivial
  | some intent =>
    apply only_bind (only_call trivial)
    intro terminalEvent
    split
    · trivial
    · split
      · exact requestForIntent_appending hashing _ _ _ _ _
      · split
        · exact requestForIntent_appending hashing _ _ _ _ _
        · split
          · exact closeIntent_appending _ _ _ _ _
          · split
            · exact closeIntent_appending _ _ _ _ _
            · trivial

variable (strategyId correlationId : String) (decision : DecisionResult) (context : ContextPayload)

theorem rejectDecision_appending (reasonCodes : List String) :
    Appending (rejectDecision hashing strategyId correlationId decision context reasonCodes) := by
  apply only_bind (publish_appending hashing)
  intro _
  simp [Program.Only, Command.appending]

theorem admitIntent_appending (payload : IntentPayload) :
    Appending (admitIntent hashing strategyId correlationId decision context payload) := by
  have published : ∀ eventType announced, Appending
      (publishForDecision hashing strategyId correlationId decision context eventType announced) :=
    fun _ _ => publish_appending hashing
  apply only_bind (only_call trivial)
  intro intentId
  apply only_bind (only_call trivial)
  intro createdAt
  apply only_bind (only_call trivial)
  intro _
  apply only_bind (only_call trivial)
  intro _
  apply only_bind (published _ _)
  intro created
  apply only_bind (published _ _)
  intro requested
  simp [Program.Only, Command.appending]

theorem admitUnlessBlocked_appending (payload : IntentPayload) :
    Appending (admitUnlessBlocked hashing strategyId correlationId decision context payload) := by
  apply only_bind (only_outcome (appending_of_offline enforceGates_offline))
  intro gates
  split
  · exact admitIntent_appending hashing _ _ _ _ _
  · exact rejectDecision_appending hashing _ _ _ _ _
  · exact rejectDecision_appending hashing _ _ _ _ _
  · trivial

theorem settleDecision_appending :
    Appending (settleDecision hashing strategyId correlationId decision context) := by
  unfold settleDecision
  split
  · exact rejectDecision_appending hashing _ _ _ _ _
  · split
    · exact rejectDecision_appending hashing _ _ _ _ _
    · apply only_bind (only_call trivial)
      intro existing
      cases existing with
      | none => exact admitUnlessBlocked_appending hashing _ _ _ _ _
      | some intent => simp [Program.Only, Command.appending]

theorem dispatchDecisionResult_appending :
    Appending (dispatchDecisionResult hashing strategyId correlationId decision context) := by
  apply only_bind (publish_appending hashing)
  intro produced
  apply only_bind (only_call trivial)
  intro _
  apply only_bind (only_call trivial)
  intro _
  exact only_bind (settleDecision_appending hashing _ _ _ _) fun _ => trivial

end Appending

section Carrying

variable {α β : Type} {sent : Envelope} {hold : Hold}

theorem tracked_eq_some {eventId : String} (tracked : sent.tracked = some eventId) :
    sent.plain = true ∧ blank sent.eventId = false ∧ sent.eventId = some eventId := by
  unfold Envelope.tracked at tracked
  split at tracked
  · rename_i kept
    exact ⟨kept.1, by simpa using kept.2, tracked⟩
  · cases tracked

def Carries (sent : Envelope) (hold : Hold) : Prop :=
  (∀ eventId ∈ hold.hands, sent.tracked = some eventId) ∧ hold.restoring = []

theorem carries_of_free (free : hold.Free) : Carries sent hold := by
  obtain ⟨hands, restoring⟩ := free
  exact ⟨by simp [hands], restoring⟩

theorem carries_release (carries : Carries sent hold) (safe : String → Bool) :
    Carries sent (hold.release safe) := by
  obtain ⟨hands, restoring⟩ := carries
  constructor
  · intro eventId inside
    exact hands eventId (List.mem_of_mem_filter inside)
  · simp [Hold.release, restoring]

theorem free_of_release (carries : Carries sent hold) {safe : String → Bool}
    (isSafe : ∀ eventId, sent.tracked = some eventId → safe eventId = true) :
    (hold.release safe).Free := by
  obtain ⟨hands, restoring⟩ := carries
  constructor
  · apply List.filter_eq_nil_iff.mpr
    intro eventId inside
    simpa using isSafe eventId (hands eventId inside)
  · simp [Hold.release, restoring]

variable {program : Program services α}

theorem carries_processing (processing : Processing program)
    (carries : Carries sent hold) :
    program.Follows keeping (fun _ => Carries sent) (fun _ => Carries sent) hold := by
  apply follows_lasting (Carries sent) processing _ (fun _ _ held => held)
    (fun _ _ held => held) carries
  intro reached command held kept
  cases command with
  | redis command =>
    cases command with
    | incr key => exact ⟨trivial, fun _ => held⟩
    | rpush key values =>
      refine ⟨trivial, fun answer => ?_⟩
      cases answer with
      | error failure => exact held
      | ok length => exact carries_release held _
    | lrem key count value => exact ⟨kept, fun _ => held⟩
    | sismember key member =>
      refine ⟨trivial, fun answer => ?_⟩
      cases answer with
      | error failure => exact held
      | ok found => exact carries_release held _
    | sadd key member =>
      refine ⟨trivial, fun answer => ?_⟩
      cases answer with
      | error failure => exact held
      | ok _ => exact carries_release held _
    | _ => exact kept.elim
  | _ => exact ⟨trivial, fun _ => held⟩

/-- The judgment of a part of a pass that may still fail: it returns with empty
hands or raises with the event it carries. -/
abbrev Hands (sent : Envelope) (program : Program services α) (hold : Hold) : Prop :=
  program.Follows keeping (fun _ => Hold.Free) (fun _ => Carries sent) hold

theorem hands_bind {rest : α → Program services β}
    (processing : Processing program) (carries : Carries sent hold)
    (later : ∀ value reached, Carries sent reached → Hands sent (rest value) reached) :
    Hands sent (program.bind rest) hold :=
  follows_then (carries_processing processing carries) later (fun _ _ held => held)

theorem free_processing (processing : Processing program)
    (free : hold.Free) :
    program.Follows keeping (fun _ => Hold.Free) (fun _ => Hold.Free) hold := by
  have untracked : Envelope.absent.tracked = none := by decide +kernel
  have stays : program.Follows keeping (fun _ => Carries .absent) (fun _ => Carries .absent) hold :=
    carries_processing processing (carries_of_free free)
  have freed : ∀ reached, Carries .absent reached → reached.Free := by
    rintro reached ⟨hands, restoring⟩
    constructor
    · apply List.eq_nil_iff_forall_not_mem.mpr
      intro eventId inside
      have tracked := hands eventId inside
      rw [untracked] at tracked
      cases tracked
    · exact restoring
  exact follows_mono stays (fun _ => freed) (fun _ => freed)

theorem markEventProcessed_frees (carries : Carries sent hold) :
    Hands sent (markEventProcessed (sent.eventId.getD "")) hold := by
  refine (follows_call _).mpr ⟨trivial, fun _ _ => ?_, fun _ _ => carries⟩
  apply free_of_release carries
  intro eventId tracked
  obtain ⟨_, _, same⟩ := tracked_eq_some tracked
  simp [same]

variable {workerName : String} {raw : Raw}

theorem completeSubmission_hands (result : PassResult) (carries : Carries sent hold) :
    Hands sent (completeSubmission (sent.eventId.getD "")
      (processingKey submissionRequested workerName) raw result) hold := by
  apply hands_bind (by simp [Program.Only, Command.processing]) carries
  intro _ reached carries
  refine follows_then (markEventProcessed_frees carries) ?_ (fun _ _ held => held)
  intro _ freed free
  refine follows_then (free_processing (ack_processing workerName raw) free) (fun _ _ held => held)
    (fun _ _ held => carries_of_free held)

theorem enqueueRetry_frees {entry : RetryEntry} (same : entry.envelope.tracked = sent.tracked)
    (carries : Carries sent hold) :
    (enqueueRetryEvent entry).Follows keeping (fun _ => Hold.Free) (fun _ _ => True) hold := by
  refine follows_bind_call ⟨trivial, fun _ _ => ?_, fun _ _ => trivial⟩
  apply free_of_release carries
  intro eventId tracked
  simp [Hold.pushed, Raw.keeps, same, tracked]

theorem enqueueQuarantine_frees {envelope : Envelope} (same : envelope.tracked = sent.tracked)
    (errorMessage reasonCode : String) (retryCount maxRetry : Nat)
    (carries : Carries sent hold) :
    (enqueueQuarantineEvent envelope errorMessage reasonCode retryCount maxRetry).Follows keeping
      (fun _ => Hold.Free) (fun _ _ => True) hold := by
  refine follows_bind_call ⟨trivial, fun now _ => ?_, fun _ _ => trivial⟩
  refine follows_bind_call ⟨trivial, fun _ _ => ?_, fun _ _ => trivial⟩
  refine follows_bind_call ⟨trivial, fun _ _ => ?_, fun _ _ => trivial⟩
  apply free_of_release (carries_release carries _)
  intro eventId tracked
  simp [Hold.pushed, Raw.keeps, same, tracked]

variable (hashing : Hashing IntentPayload)

theorem recordSubmission_hands (intent : ExecutionIntent) (carries : Carries sent hold) :
    Hands sent (recordSubmission hashing intent (sent.eventId.getD "")
      (processingKey submissionRequested workerName) raw) hold := by
  apply hands_bind (processing_of_offline (submitOrder_offline hashing _ _)) carries
  intro submission _ carries
  apply hands_bind (processing_of_offline addIntentEvent_offline) carries
  intro _ _ carries
  apply hands_bind (publish_processing hashing (by decide) _ _ _ _) carries
  intro _ _ carries
  apply hands_bind ((processing_passes hashing workerName).recordLifecycle _ _ _ _) carries
  intro _ _ carries
  apply hands_bind (by simp [Program.Only, Command.processing]) carries
  intro _ _ carries
  apply hands_bind (processing_of_offline (noteConnection_offline _)) carries
  intro _ _ carries
  exact completeSubmission_hands _ carries

theorem blockSubmission_hands (intent : ExecutionIntent)
    (reasonCode : String) (carries : Carries sent hold) :
    Hands sent (blockSubmission intent (sent.eventId.getD "")
      (processingKey submissionRequested workerName) raw reasonCode) hold := by
  apply hands_bind (processing_of_offline addIntentEvent_offline) carries
  intro _ _ carries
  exact completeSubmission_hands _ carries

theorem submitIntent_hands (intent : ExecutionIntent) (carries : Carries sent hold) :
    Hands sent (submitIntent hashing intent (sent.eventId.getD "")
      (processingKey submissionRequested workerName) raw) hold := by
  apply hands_bind (by simp [Program.Only, Command.processing]) carries
  intro terminalEvent _ carries
  split
  · exact carries
  · apply hands_bind (only_outcome (processing_of_offline enforceGates_offline)) carries
    intro gates _ carries
    split
    · exact recordSubmission_hands hashing intent carries
    · exact blockSubmission_hands intent _ carries
    · exact blockSubmission_hands intent _ carries
    · exact carries

/-- A failed event goes to the retry list or to the quarantine list before its
pass returns. -/
theorem handleSubmissionFailure_relinquishes (eventId : String)
    (intent : Option ExecutionIntent) (exc : Failure) (carries : Carries sent hold) :
    Relinquishes (handleSubmissionFailure sent eventId
      (processingKey submissionRequested workerName) raw intent exc) hold := by
  have carried :
      ∀ {γ : Type} {program : Program services γ} {rest : γ → Program services PassResult}
      {reached : Hold}, Processing program → Carries sent reached →
      (∀ value later, Carries sent later → Relinquishes (rest value) later) →
      Relinquishes (program.bind rest) reached := fun processing carries later =>
    follows_then (carries_processing processing carries) later (fun _ _ _ => trivial)
  have reported : ∀ {reached : Hold} {program : Program services Unit} (result : PassResult),
      Offline program → reached.Free →
      Relinquishes (program.bind fun _ => (Program.done result : Program services PassResult))
        reached := fun result offline free =>
    follows_then (free_processing (processing_of_offline offline) free)
      (fun _ _ held => held) (fun _ _ _ => trivial)
  unfold handleSubmissionFailure
  apply carried (processing_of_offline (noteFailure_offline intent)) carries
  intro _ _ carries
  apply carried (by simp [Program.Only, Command.processing]) carries
  intro now _ carries
  apply carried (ack_processing workerName raw) carries
  intro _ _ carries
  split
  · refine follows_then (enqueueQuarantine_frees rfl _ _ _ _ carries) ?_ (fun _ _ _ => trivial)
    intro _ _ free
    exact reported _ handleRuntimeFailure_offline free
  · refine follows_then (enqueueRetry_frees rfl carries) ?_ (fun _ _ _ => trivial)
    intro _ _ free
    exact reported _ handleRuntimeFailure_offline free

theorem processEvent_relinquishes (carries : Carries sent hold) :
    Relinquishes (processEvent hashing sent (sent.eventId.getD "")
      (processingKey submissionRequested workerName) raw) hold := by
  refine (follows_bind _ _).mpr ((Program.follows_outcome _).mpr (follows_mono
    (carries_processing (processing_of_offline (lookUpIntent_offline sent)) carries) ?_ ?_))
  · intro intent _ carries
    refine (follows_bind _ _).mpr ((Program.follows_outcome _).mpr (follows_mono
      (submitIntent_hands hashing intent carries) ?_ ?_))
    · exact fun _ _ free => free
    · exact fun exc _ carries =>
        handleSubmissionFailure_relinquishes _ (some intent) exc carries
  · exact fun exc _ carries =>
      handleSubmissionFailure_relinquishes _ none exc carries

end Carrying

end Runtime
