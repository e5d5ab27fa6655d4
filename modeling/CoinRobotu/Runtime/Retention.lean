import CoinRobotu.Runtime.Keeping

/-!
# What the tasks put back

A release of retries takes what it read out of the retry list and puts every entry
back, into the source queue or into the retry list.
-/

open Interleaving
open Program (only_bind follows_bind follows_mono follows_lasting follows_then)

namespace Runtime

section Release

variable {α : Type} {hold : Hold}

def HoldsOf (entries : List Raw) (hold : Hold) : Prop :=
  (∀ eventId ∈ hold.hands, ∃ raw ∈ entries, raw.keeps runtimeRetryQueue = some eventId) ∧
    hold.restoring = []

theorem free_of_holdsOf_nil (holds : HoldsOf [] hold) : hold.Free := by
  obtain ⟨hands, restoring⟩ := holds
  constructor
  · apply List.eq_nil_iff_forall_not_mem.mpr
    intro eventId inside
    obtain ⟨raw, impossible, _⟩ := hands eventId inside
    cases impossible
  · exact restoring

variable {entries : List Raw}

variable {raw : Raw}

theorem holdsOf_struck (holds : HoldsOf (raw :: entries) hold)
    (kept : ∀ eventId ∈ hold.hands, raw.keeps runtimeRetryQueue ≠ some eventId) :
    HoldsOf entries hold := by
  obtain ⟨hands, restoring⟩ := holds
  constructor
  · intro eventId inside
    obtain ⟨other, listed, keeps⟩ := hands eventId inside
    rcases List.mem_cons.mp listed with rfl | listed
    · exact absurd keeps (kept eventId inside)
    · exact ⟨other, listed, keeps⟩
  · exact restoring

theorem holdsOf_appending {program : Program services α} (appending : Appending program)
    (holds : HoldsOf entries hold) :
    program.Follows keeping (fun _ => HoldsOf entries) (fun _ _ => True) hold := by
  apply follows_lasting (HoldsOf entries) appending _ (fun _ _ held => held)
    (fun _ _ _ => trivial) holds
  rintro reached command ⟨hands, restoring⟩ appends
  constructor
  · cases command with
    | redis command => cases command <;> trivial
    | _ => trivial
  · intro answer
    obtain ⟨_, fewerHands, fewerRestoring, _⟩ := reached.next_appending command appends answer
    constructor
    · exact fun eventId inside => hands eventId (fewerHands eventId inside)
    · apply List.eq_nil_iff_forall_not_mem.mpr
      intro eventId inside
      simpa [restoring] using fewerRestoring eventId inside

variable {eventId : String}

theorem keeps_retry
    (keeps : raw.keeps runtimeRetryQueue = some eventId) :
    ∃ entry : RetryEntry, raw = .retry entry ∧ entry.envelope.tracked = some eventId := by
  cases raw with
  | envelope sent =>
    simp [Raw.keeps, (streamKey_ne_retry sent.eventType).symm] at keeps
  | retry entry => exact ⟨entry, rfl, by simpa [Raw.keeps] using keeps⟩
  | quarantine entry =>
    have different : runtimeRetryQueue ≠ runtimeQuarantineQueue := by decide
    simp [Raw.keeps, different] at keeps
  | text characters => cases keeps

theorem keeps_quarantine
    (keeps : raw.keeps runtimeQuarantineQueue = some eventId) :
    ∃ entry : QuarantineEntry, raw = .quarantine entry ∧
      entry.envelope.tracked = some eventId := by
  cases raw with
  | envelope sent =>
    simp [Raw.keeps, (streamKey_ne_quarantine sent.eventType).symm] at keeps
  | retry entry =>
    have different : runtimeQuarantineQueue ≠ runtimeRetryQueue := by decide
    simp [Raw.keeps, different] at keeps
  | quarantine entry => exact ⟨entry, rfl, by simpa [Raw.keeps] using keeps⟩
  | text characters => cases keeps

theorem keeps_source {sent : Envelope} (tracked : sent.tracked = some eventId) :
    sent.eventType ≠ "" ∧
      (Raw.envelope sent).keeps (streamKey sent.eventType) = some eventId := by
  obtain ⟨plain, _, _⟩ := tracked_eq_some tracked
  simp only [Envelope.plain, ne_eq, Bool.and_eq_true, decide_eq_true_eq] at plain
  exact ⟨plain.1, by simp [Raw.keeps, tracked]⟩

theorem requeue_settles {envelope : Envelope}
    (about : ∀ eventId, raw.keeps runtimeRetryQueue = some eventId →
      envelope.tracked = some eventId)
    (holds : HoldsOf (raw :: entries) hold) :
    (requeueRuntimeEvent envelope).Follows keeping (fun _ => HoldsOf entries) (fun _ _ => True)
      hold := by
  by_cases typed : envelope.eventType = ""
  · apply holdsOf_appending (requeue_appending envelope)
    apply holdsOf_struck holds
    intro eventId _ keeps
    exact (keeps_source (about eventId keeps)).1 typed
  · unfold requeueRuntimeEvent
    simp only [typed, ne_eq, not_false_eq_true, if_true]
    refine follows_bind_call ⟨trivial, fun _ _ => ?_, fun _ _ => trivial⟩
    apply holdsOf_appending
    · simp [Program.Only, Command.appending]
    · have fewer : HoldsOf (raw :: entries)
          (hold.release (Hold.pushed (streamKey envelope.eventType) [.envelope envelope])) := by
        obtain ⟨hands, restoring⟩ := holds
        exact ⟨fun eventId inside => hands eventId (List.mem_of_mem_filter inside),
          by simp [Hold.release, restoring]⟩
      apply holdsOf_struck fewer
      intro eventId inside keeps
      have safe := (List.mem_filter.mp inside).2
      have pushed := (keeps_source (about eventId keeps)).2
      simp [Hold.pushed, pushed] at safe

/-- The loop of a release, by induction on the entries it has not looked at: what the
task holds is in these or in the deferred ones. -/
theorem releaseLoop_keeps (now : Time) (remaining : List Raw) (released : Nat)
    (deferred : List Raw) (holds : HoldsOf (remaining ++ deferred) hold) :
    (releaseLoop now remaining released deferred).Follows keeping
      (fun result => HoldsOf result.2) (fun _ _ => True) hold := by
  induction remaining generalizing released deferred hold with
  | nil => exact holds
  | cons raw remaining ih =>
    unfold releaseLoop
    cases loaded : raw.loadEntry with
    | none =>
      apply ih released deferred
      apply holdsOf_struck holds
      intro eventId _ keeps
      obtain ⟨entry, rfl, _⟩ := keeps_retry keeps
      cases loaded
    | some entry =>
      obtain ⟨envelope, nextRetryAt⟩ := entry
      dsimp only
      split
      · exact True.intro
      · have about : ∀ eventId, raw.keeps runtimeRetryQueue = some eventId →
            envelope.tracked = some eventId := by
          intro eventId keeps
          obtain ⟨entry, rfl, tracked⟩ := keeps_retry keeps
          cases loaded
          exact tracked
        exact follows_then (requeue_settles about holds)
          (fun _ _ settled => ih _ _ settled) (fun _ _ _ => trivial)
      · apply ih
        obtain ⟨hands, restoring⟩ := holds
        constructor
        · intro eventId inside
          obtain ⟨other, listed, keeps⟩ := hands eventId inside
          have moved : other ∈ remaining ++ (deferred ++ [raw]) := by
            simp only [List.cons_append, List.mem_cons, List.mem_append] at listed
            simp only [List.mem_append, List.mem_singleton]
            tauto
          exact ⟨other, moved, keeps⟩
        · exact restoring

/-- A release ends with nothing in its hands. -/
theorem release_relinquishes (limit : Int) (free : hold.Free) :
    Relinquishes (releaseDueRetryEvents limit) hold := by
  refine follows_bind_call ⟨trivial, fun items _ => ?_, fun _ _ => trivial⟩
  by_cases nothing : items = []
  · simp only [nothing, if_true]
    exact free
  · simp only [nothing, if_false]
    have taken : HoldsOf (items ++ []) ({ hold with read := items }.next
        (.redis (.ltrim runtimeRetryQueue items.length (-1))) (.ok ())) := by
      obtain ⟨hands, restoring⟩ := free
      constructor
      · intro eventId inside
        simp only [Hold.next, hands, List.nil_append, List.mem_filterMap] at inside
        simpa using inside
      · exact restoring
    refine follows_bind_call ⟨⟨rfl, rfl, rfl⟩, fun _ _ => ?_, fun _ _ => trivial⟩
    refine follows_bind_call ⟨trivial, fun now _ => ?_, fun _ _ => trivial⟩
    refine follows_then (releaseLoop_keeps now items 0 [] taken) ?_ (fun _ _ _ => trivial)
    rintro ⟨released, deferred⟩ reached holds
    dsimp only
    by_cases none : deferred = []
    · subst none
      simp only [ne_eq, not_true_eq_false, if_false]
      exact free_of_holdsOf_nil holds
    · simp only [ne_eq, none, not_false_eq_true, if_true]
      refine follows_bind_call ⟨trivial, fun _ _ => ?_, fun _ _ => trivial⟩
      obtain ⟨hands, restoring⟩ := holds
      constructor
      · apply List.filter_eq_nil_iff.mpr
        intro eventId inside
        obtain ⟨raw, listed, keeps⟩ := hands eventId inside
        have pushed : Hold.pushed runtimeRetryQueue deferred eventId = true :=
          List.any_eq_true.mpr ⟨raw, listed, by simpa using keeps⟩
        simp [pushed]
      · change List.filter _ reached.restoring = []
        rw [restoring, List.filter_nil]

end Release

section Pass

variable {hold : Hold} (hashing : Hashing IntentPayload)

theorem consume_carries (workerName : String) (free : hold.Free) :
    (consumeRuntimeEvent submissionRequested workerName).Follows keeping
      (fun popped reached => match popped with
        | none => reached.Free
        | some (envelope, processing, _) =>
            processing = processingKey submissionRequested workerName ∧ Carries envelope reached)
      (fun _ _ => True) hold := by
  obtain ⟨hands, restoring⟩ := free
  refine follows_bind_call ⟨⟨rfl, workerName, rfl⟩, fun popped _ => ?_, fun _ _ => trivial⟩
  cases popped with
  | none => exact ⟨hands, restoring⟩
  | some raw =>
    have kept : ∀ envelope, raw.loadEnvelope = some envelope → Carries envelope
        { hold with
          hands := hold.hands ++ (raw.keeps (streamKey submissionRequested)).toList } := by
      intro envelope loaded
      refine ⟨fun eventId inside => ?_, restoring⟩
      simp only [hands, List.nil_append, Option.mem_toList] at inside
      cases raw with
      | envelope sent =>
        cases loaded
        simp only [Raw.keeps, Option.ite_none_right_eq_some] at inside
        exact inside.2
      | retry entry =>
        have different : streamKey submissionRequested ≠ runtimeRetryQueue := streamKey_ne_retry _
        simp [Raw.keeps, different] at inside
      | quarantine entry =>
        have different : streamKey submissionRequested ≠ runtimeQuarantineQueue :=
          streamKey_ne_quarantine _
        simp [Raw.keeps, different] at inside
      | text characters => cases loaded
    cases loaded : raw.loadEnvelope with
    | none =>
      simp only [loaded]
      trivial
    | some envelope =>
      simp only [loaded]
      exact ⟨rfl, kept envelope loaded⟩

/-- A pass of a worker ends with nothing in its hands. -/
theorem processSubmissionEventOnce_relinquishes (workerName : String) (free : hold.Free) :
    Relinquishes (processSubmissionEventOnce hashing workerName) hold := by
  refine follows_then (release_relinquishes 200 free) ?_ (fun _ _ _ => trivial)
  intro _ released free
  refine follows_then (consume_carries workerName free) ?_ (fun _ _ _ => trivial)
  intro popped taken carries
  cases popped with
  | none => exact carries
  | some popped =>
    obtain ⟨envelope, processing, raw⟩ := popped
    obtain ⟨rfl, carries⟩ := carries
    have acked : ∀ (result : Option PassResult) (reached : Hold), reached.Free →
        Relinquishes ((ackRuntimeEvent (processingKey submissionRequested workerName) raw).bind
          fun _ => (Program.done result : Program services (Option PassResult))) reached :=
      fun result reached free => follows_then
        (free_processing (ack_processing workerName raw) free) (fun _ _ held => held)
        (fun _ _ _ => trivial)
    dsimp only
    split
    · rename_i nameless
      apply acked
      obtain ⟨hands, restoring⟩ := carries
      refine ⟨List.eq_nil_iff_forall_not_mem.mpr fun eventId inside => ?_, restoring⟩
      obtain ⟨_, named, _⟩ := tracked_eq_some (hands eventId inside)
      rw [nameless] at named
      cases named
    · refine follows_bind_call ⟨trivial, fun found _ => ?_, fun _ _ => trivial⟩
      cases found with
      | true =>
        apply acked
        apply free_of_release carries
        intro eventId tracked
        obtain ⟨_, _, same⟩ := tracked_eq_some tracked
        simp [same]
      | false =>
        refine follows_then
          (processEvent_relinquishes hashing (carries_release carries _))
          (fun _ _ held => held) (fun _ _ _ => trivial)

end Pass

section Removal

variable {hold : Hold}

/-- A removal writes back every entry but those of its own event. -/
theorem removeQuarantine_relinquishes {eventId : String} (unladen : Unladen (some eventId) hold) :
    (removeQuarantineEvent eventId).Follows keeping (fun _ => Unladen (some eventId))
      (fun _ _ => True) hold := by
  obtain ⟨⟨hands, restoring⟩, asked⟩ := unladen
  refine follows_bind_call ⟨trivial, fun items _ => ?_, fun _ _ => trivial⟩
  by_cases nothing : items = []
  · simp only [nothing, if_true]
    exact ⟨⟨hands, restoring⟩, asked⟩
  · simp only [nothing, if_false]
    have written : ∀ other ∈ (items.filterMap (Raw.keeps runtimeQuarantineQueue)).filter
        (some · ≠ hold.removing), ∃ raw ∈ remainingEntries eventId items,
          raw.keeps runtimeQuarantineQueue = some other := by
      intro other inside
      obtain ⟨kept, different⟩ := List.mem_filter.mp inside
      obtain ⟨raw, listed, keeps⟩ := List.mem_filterMap.mp kept
      refine ⟨raw, List.mem_filter.mpr ⟨listed, ?_⟩, keeps⟩
      obtain ⟨entry, rfl, tracked⟩ := keeps_quarantine keeps
      obtain ⟨_, _, same⟩ := tracked_eq_some tracked
      simpa [Raw.loadEntry, same, asked] using different
    have mayRemove : hold.removing ≠ none := by
      rw [asked]
      exact Option.some_ne_none eventId
    have deleted : hold.restoring ++ (items.filterMap (Raw.keeps runtimeQuarantineQueue)).filter
        (some · ≠ hold.removing) =
        (items.filterMap (Raw.keeps runtimeQuarantineQueue)).filter (some · ≠ hold.removing) := by
      rw [restoring, List.nil_append]
    refine follows_bind_call ⟨⟨rfl, mayRemove⟩, fun _ _ => ?_, fun _ _ => trivial⟩
    by_cases none : remainingEntries eventId items = []
    · simp only [none, ne_eq, not_true_eq_false, if_false]
      refine ⟨⟨hands, ?_⟩, asked⟩
      apply List.eq_nil_iff_forall_not_mem.mpr
      intro other inside
      obtain ⟨raw, listed, _⟩ := written other (deleted ▸ inside)
      rw [none] at listed
      cases listed
    · simp only [none, ne_eq, not_false_eq_true, if_true]
      refine follows_bind_call ⟨trivial, fun _ _ => ?_, fun _ _ => trivial⟩
      refine ⟨⟨?_, ?_⟩, asked⟩
      · change List.filter _ hold.hands = []
        rw [hands, List.filter_nil]
      · apply List.filter_eq_nil_iff.mpr
        intro other inside
        obtain ⟨raw, listed, keeps⟩ := written other (deleted ▸ inside)
        have pushed : Hold.pushed runtimeQuarantineQueue (remainingEntries eventId items) other =
            true := List.any_eq_true.mpr ⟨raw, listed, by simpa using keeps⟩
        simp [pushed]

theorem unladen_bind {α β : Type} {removing : Option String} {program : Program services α}
    {rest : α → Program services β} {returns : β → Hold → Prop} (appending : Appending program)
    (unladen : Unladen removing hold)
    (later : ∀ value reached, Unladen removing reached →
      (rest value).Follows keeping returns (fun _ _ => True) reached) :
    (program.bind rest).Follows keeping returns (fun _ _ => True) hold :=
  follows_then (appending_unladen appending unladen) later (fun _ _ _ => trivial)

theorem replay_unladen (failedEvent : FailedEvent)
    (unladen : Unladen (some failedEvent.entityId) hold) :
    (replayQuarantinedEvent failedEvent).Follows keeping
      (fun _ => Unladen (some failedEvent.entityId)) (fun _ _ => True) hold := by
  apply unladen_bind (requeueRecorded_appending _) unladen
  intro _ _ unladen
  refine unladen_bind (only_call trivial) unladen fun _ _ unladen => ?_
  refine unladen_bind (only_call trivial) unladen fun _ _ unladen => ?_
  refine unladen_bind (only_call trivial) unladen fun _ _ unladen => ?_
  refine unladen_bind (only_call trivial) unladen fun _ _ unladen => ?_
  exact removeQuarantine_relinquishes unladen

theorem dismiss_unladen (failedEvent : FailedEvent)
    (unladen : Unladen (some failedEvent.entityId) hold) :
    (dismissQuarantinedEvent failedEvent).Follows keeping
      (fun _ => Unladen (some failedEvent.entityId)) (fun _ _ => True) hold := by
  refine unladen_bind (only_call trivial) unladen fun _ _ unladen => ?_
  refine unladen_bind (only_call trivial) unladen fun _ _ unladen => ?_
  refine unladen_bind (only_call trivial) unladen fun _ _ unladen => ?_
  refine unladen_bind (only_call trivial) unladen fun _ _ unladen => ?_
  refine unladen_bind (only_call trivial) unladen fun _ _ unladen => ?_
  exact removeQuarantine_relinquishes unladen

theorem markQuarantinedFailed_appending (failedEvent : FailedEvent) :
    Appending (markQuarantinedFailed failedEvent) := by
  simp [Program.Only, markQuarantinedFailed, Command.appending]

/-- An operator's action writes back what it takes out of the quarantine list, whatever
the action is. -/
theorem adminRuntimeQuarantineAction_relinquishes (eventId action : String)
    (unladen : Unladen (some eventId) hold) :
    Relinquishes (adminRuntimeQuarantineAction eventId action) hold := by
  have audited : ∀ {program : Program services Unit} {reached : Hold},
      program.Follows keeping (fun _ => Unladen (some eventId)) (fun _ _ => True) reached →
      Relinquishes (program.bind fun _ => createAuditLog) reached := fun unlades =>
    follows_then unlades
      (fun _ _ held => appending_keeps (appending_of_offline createAuditLog_offline) held.1)
      (fun _ _ _ => trivial)
  refine follows_bind_call ⟨trivial, fun found asked => ?_, fun _ _ => trivial⟩
  cases found with
  | none => trivial
  | some failedEvent =>
    have same : failedEvent.entityId = eventId := asked
    subst same
    dsimp only
    split
    · exact audited (replay_unladen failedEvent unladen)
    · split
      · exact audited (dismiss_unladen failedEvent unladen)
      · split
        · exact audited (follows_mono
            (appending_unladen (markQuarantinedFailed_appending failedEvent) unladen)
            (fun _ _ held => held) (fun _ _ _ => trivial))
        · trivial

end Removal

section Recovery

variable (hashing : Hashing IntentPayload)

theorem refreshIntent_offline (intentId : String) : Offline (refreshIntent intentId) := by
  apply only_bind (only_call trivial)
  intro found
  cases found <;> trivial

theorem createExecutionAttemptArtifact_offline (intentId : String)
    (executionId requestId sessionId : Option String) :
    Offline (createExecutionAttemptArtifact intentId executionId requestId sessionId) := by
  apply only_bind (only_call trivial)
  intro found
  cases found with
  | none => trivial
  | some intent =>
    apply only_bind (only_call trivial)
    intro events
    dsimp only
    split
    · apply only_bind (upsertFailedEvent_offline _)
      intro _
      simp [Program.Only, Command.offline]
    · exact only_call trivial

theorem recordRecovery_appending (intent : ExecutionIntent) (action : String) :
    Appending (recordRecovery hashing intent action) := by
  have assigned (status : String) :
      Appending (call (.database (.assignStatus intent.intentId status))) := by
    exact only_call trivial
  have logged (eventType eventStatus : String) (payload : Payload) :
      Appending (addIntentEvent intent.intentId eventType eventStatus none payload) :=
    appending_of_offline addIntentEvent_offline
  unfold recordRecovery
  dsimp only
  split
  · apply only_bind (publish_appending hashing)
    intro _
    exact only_bind (assigned _) fun _ => logged _ _ _
  · split
    · exact only_bind (assigned _) fun _ => logged _ _ _
    · split
      · apply only_bind (assigned _)
        intro _
        apply only_bind (logged _ _ _)
        intro _
        exact only_bind (logged _ _ _) fun _ => assigned _
      · exact only_bind (appending_of_offline (upsertFailedEvent_offline _))
          fun _ => trivial

theorem applyIntentRecoveryAction_appending (intentId action : String) :
    Appending (applyIntentRecoveryAction hashing intentId action) := by
  apply only_bind (only_call trivial)
  intro found
  cases found with
  | none => trivial
  | some intent =>
    dsimp only
    split
    · apply only_bind (recordRecovery_appending hashing _ _)
      intro _
      apply only_bind (only_call trivial)
      intro _
      apply only_bind (appending_of_offline (refreshIntent_offline _))
      intro refreshed
      apply only_bind (appending_of_offline createAuditLog_offline)
      intro _
      exact only_bind (appending_of_offline
        (createExecutionAttemptArtifact_offline _ _ _ _)) fun _ => trivial
    · trivial

theorem exchangeGetWithRetry_offline (endpoint symbol orderId : String) (attempts : Nat)
    (last : ExchangeAnswer) :
    Offline (exchangeGetWithRetry endpoint symbol orderId attempts last) := by
  induction attempts generalizing last with
  | zero => trivial
  | succ attempts ih =>
    apply only_bind (only_call trivial)
    intro answer
    split
    · trivial
    · exact ih answer

theorem consultExchange_offline (intent : ExecutionIntent) (events : List ExecutionIntentEvent)
    (externalOrderId : Option String) :
    Offline (consultExchange intent events externalOrderId) := by
  cases externalOrderId with
  | none => trivial
  | some orderId =>
    apply only_bind (exchangeGetWithRetry_offline _ _ _ _ _)
    intro orders
    apply only_bind (exchangeGetWithRetry_offline _ _ _ _ _)
    intro fills
    split
    · exact only_call trivial
    · trivial

theorem orMint_offline (value tag : String) : Offline (orMint value tag) := by
  simp [Program.Only, orMint, Command.offline]

theorem buildContextEnvelope_offline (intentId correlationId : String) (orderId : Option String) :
    Offline (buildContextEnvelope intentId correlationId orderId) := by
  apply only_bind (only_call trivial)
  intro requestId
  apply only_bind (orMint_offline _ _)
  intro order
  simp [Program.Only, Command.offline]

theorem enforceCorrelationEnvelope_offline (envelope : Payload) (stage intentId : String) :
    Offline (enforceCorrelationEnvelope envelope stage intentId) := by
  unfold enforceCorrelationEnvelope
  dsimp only
  split
  · trivial
  · split
    · apply only_bind (upsertFailedEvent_offline _)
      intro _
      exact only_bind createAuditLog_offline fun _ => trivial
    · exact only_bind createAuditLog_offline fun _ => trivial

theorem reconcileAgainstExchange_offline (intent : ExecutionIntent) (reason stage : String) :
    Offline (reconcileAgainstExchange intent reason stage) := by
  apply only_bind (only_call trivial)
  intro events
  apply only_bind (orMint_offline _ _)
  intro correlationId
  apply only_bind (buildContextEnvelope_offline _ _ _)
  intro context
  apply only_bind (enforceCorrelationEnvelope_offline _ _ _)
  intro complete
  cases complete with
  | false => simp [Program.Only, Command.offline]
  | true =>
    apply only_bind (only_call trivial)
    intro _
    apply only_bind addIntentEvent_offline
    intro _
    apply only_bind (only_call trivial)
    intro _
    exact only_bind (consultExchange_offline _ _ _) fun _ => trivial

theorem reconcileIntentWithExchange_offline (intentId reason stage : String) :
    Offline (reconcileIntentWithExchange intentId reason stage) := by
  apply only_bind (only_call trivial)
  intro found
  cases found with
  | none => trivial
  | some intent =>
    apply only_bind (only_call trivial)
    intro events
    split
    · exact reconcileAgainstExchange_offline _ _ _
    · apply only_bind (only_call trivial)
      intro now
      split
      · trivial
      · exact reconcileAgainstExchange_offline _ _ _

end Recovery

section Governed

variable (hashing : Hashing IntentPayload)

theorem code_keeps (view : View services World Task Hold) (thread : Thread) (task : Task)
    (permitted : sound.starts view thread task) :
    Relinquishes (code hashing task) (Hold.initial task) := by
  have finished : ∀ {α : Type} {program : Program services α} {hold : Hold},
      Relinquishes program hold → Relinquishes (program.bind fun _ => Program.done ()) hold :=
    fun relinquishes => (follows_bind _ _).mpr relinquishes
  have free : Hold.empty.Free := ⟨rfl, rfl⟩
  cases task with
  | publish eventType payload correlationId causationId partitionKey =>
    exact finished (appending_keeps (publish_appending hashing) free)
  | consume | bulkRecovery => exact permitted.elim
  | dispatch strategyId correlationId decision context =>
    exact finished (appending_keeps (dispatchDecisionResult_appending hashing _ _ _ _) free)
  | workerPass workerName =>
    exact finished (processSubmissionEventOnce_relinquishes hashing workerName free)
  | release limit => exact finished (release_relinquishes limit free)
  | enqueueRetry entry => exact finished (appending_keeps (enqueueRetry_appending entry) free)
  | enqueueQuarantine envelope errorMessage reasonCode retryCount maxRetry =>
    exact finished (appending_keeps (enqueueQuarantine_appending _ _ _ _ _) free)
  | removeQuarantine eventId =>
    have unladen : Unladen (some eventId) (Hold.initial (.removeQuarantine eventId)) :=
      ⟨⟨rfl, rfl⟩, rfl⟩
    exact follows_mono (removeQuarantine_relinquishes unladen) (fun _ _ held => held.1)
      (fun _ _ _ => trivial)
  | quarantineAction eventId action =>
    exact adminRuntimeQuarantineAction_relinquishes eventId action ⟨⟨rfl, rfl⟩, rfl⟩
  | performRecovery intentId action =>
    exact finished (appending_keeps (performRecoveryAction_appending hashing _ _) free)
  | applyRecovery intentId action =>
    exact finished (appending_keeps (applyIntentRecoveryAction_appending hashing _ _) free)
  | reconcile intentId reason stage =>
    exact finished (appending_keeps
      (appending_of_offline (reconcileIntentWithExchange_offline _ _ _)) free)

end Governed

end Runtime
