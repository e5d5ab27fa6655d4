import CoinRobotu.Runtime.Processing

/-!
# Which intents a task may name

A submission event names its intent. A dispatch names the intent whose row it has
pending, from the publication until the commit; a worker names the intents that the
events it read name. So where every event in the queue and in the retry list names an
intent that is committed or announced, it stays so. A task that is done with its
announcement has committed the row.
-/

open Interleaving
open Program (only_bind follows_bind follows_mono only_outcome only_mono follows_lasting follows_then)

namespace Runtime

/-- The intent that an element of a list names: in the source queue of submissions any
event that is taken from there, in the retry list an entry that goes back there. -/
def Raw.names (key : String) (raw : Raw) : Option String :=
  if key = streamKey submissionRequested then
    raw.loadEnvelope.bind fun envelope => envelope.payload.find "intent_id"
  else if key = runtimeRetryQueue then
    raw.loadEntry.bind fun entry =>
      if entry.1.eventType = submissionRequested then entry.1.payload.find "intent_id" else none
  else none

/-- What a task knows of intents: those that the events it read name, the one whose row it
has pending, and the one that it has announced before its commit. -/
structure Offer where
  seen : List String
  drafted : Option String
  announced : Option String

namespace Offer

def empty : Offer := ⟨[], none, none⟩

def next (offer : Offer) : (command : Command) → Except Failure command.Reply → Offer
  | .redis (.brpoplpush source _), .ok (some raw) =>
      { offer with seen := offer.seen ++ (raw.names source).toList }
  | .redis (.lrange key _ _), .ok items =>
      { offer with seen := offer.seen ++ items.filterMap (Raw.names key) }
  | .redis (.rpush key values), .ok _ =>
      { offer with
        announced := (offer.drafted.filter fun intentId =>
          values.any fun raw => raw.names key = some intentId).or offer.announced }
  | .database (.addIntent row), .ok _ => { offer with drafted := some row.intentId }
  | .database .flush, .error _ => { offer with drafted := none }
  | .database .commit, _ => { offer with drafted := none, announced := none }
  | _, _ => offer

def allows (offer : Offer) : Command → Prop
  | .redis (.rpush key values) => ∀ raw ∈ values, ∀ intentId, raw.names key = some intentId →
      intentId ∈ offer.seen ∨ offer.drafted = some intentId
  | .redis (.brpoplpush source destination) => source = streamKey submissionRequested ∧
      ∃ workerName, destination = processingKey submissionRequested workerName
  | .database (.findIntent intentId) => intentId ∈ offer.seen
  | .database (.addIntent _) => offer.announced = none
  | .database .flush => offer.announced = none
  | .database .rollback => False
  | _ => True

def Settled (offer : Offer) : Prop := offer.announced = none

end Offer

@[simps -fullyApplied] def announcing : Protocol services Task Offer :=
  ⟨.empty, fun _ => .empty, Offer.next, Offer.allows, fun _ _ => True⟩

theorem names_elsewhere {key : String} (source : key ≠ streamKey submissionRequested)
    (retries : key ≠ runtimeRetryQueue) (raw : Raw) : raw.names key = none := by
  rw [Raw.names, if_neg source, if_neg retries]

theorem names_source (raw : Raw) : raw.names (streamKey submissionRequested) =
    raw.loadEnvelope.bind fun envelope => envelope.payload.find "intent_id" := by
  rw [Raw.names, if_pos rfl]

theorem names_retry (raw : Raw) : raw.names runtimeRetryQueue =
    raw.loadEntry.bind fun entry => if entry.1.eventType = submissionRequested then
      entry.1.payload.find "intent_id" else none := by
  rw [Raw.names, if_neg (streamKey_ne_retry _).symm, if_pos rfl]

theorem names_stream {sent : Envelope} {eventType intentId : String}
    (typed : sent.eventType = eventType)
    (names : (Raw.envelope sent).names (streamKey eventType) = some intentId) :
    eventType = submissionRequested ∧ sent.payload.find "intent_id" = some intentId := by
  subst typed
  by_cases own : sent.eventType = submissionRequested
  · rw [own, names_source] at names
    exact ⟨own, names⟩
  · have source : streamKey sent.eventType ≠ streamKey submissionRequested :=
      fun same => own (streamKey_injective same)
    rw [names_elsewhere source (streamKey_ne_retry _)] at names
    cases names

section Kinds

variable {α β : Type}

/-- A command that names known intents only, and neither reads a list nor drafts. -/
def Command.within (known : String → Prop) : Command → Prop
  | .redis (.rpush key values) => ∀ raw ∈ values, ∀ intentId, raw.names key = some intentId →
      known intentId
  | .redis (.brpoplpush _ _) => False
  | .redis (.lrange _ _ _) => False
  | .database (.findIntent intentId) => known intentId
  | .database (.addIntent _) => False
  | .database .rollback => False
  | _ => True

abbrev Within (known : String → Prop) (program : Program services α) : Prop :=
  program.Only (S := services) (Command.within known)

/-- The commands of one publication. -/
def Command.sending (known : String → Prop) : Command → Prop
  | .redis (.incr _) => True
  | .redis (.rpush key values) => ∀ raw ∈ values, ∀ intentId, raw.names key = some intentId →
      known intentId
  | .now => True
  | .uuid4 => True
  | _ => False

abbrev Sending (known : String → Prop) (program : Program services α) : Prop :=
  program.Only (S := services) (Command.sending known)

attribute [local simp] Command.within Command.sending

variable {known : String → Prop}

theorem within_of_sending {program : Program services α} (sending : Sending known program) :
    Within known program := by
  apply only_mono _ sending
  intro command sends
  cases command with
  | redis command =>
    cases command with
    | incr key => trivial
    | rpush key values => exact sends
    | _ => exact sends.elim
  | now | uuid4 => trivial
  | _ => exact sends.elim

theorem names_copies (raw : Raw) :
    raw.names allEventsKey = none ∧ raw.names runtimeEventsQueue = none :=
  ⟨names_elsewhere allEvents_ne_submission (by decide) raw,
    names_elsewhere runtimeEvents_ne_submission (by decide) raw⟩

theorem publish_sending (hashing : Hashing IntentPayload) {eventType : String} {payload : Payload}
    (names : ∀ intentId, eventType = submissionRequested →
      payload.find "intent_id" = some intentId → known intentId)
    (correlationId : String) (causationId : Option String) (partitionKey : String) :
    Sending known (publishRuntimeEvent hashing eventType payload correlationId causationId
      partitionKey) := by
  have pushed : ∀ (key : String) (raw : Raw), (∀ intentId, raw.names key = some intentId →
      known intentId) → Sending known (call (.redis (.rpush key [raw]))) := by
    intro key raw named
    simpa [Program.Only] using named
  apply only_bind (by simp [Program.Only])
  intro eventId
  apply only_bind (by simp [Program.Only])
  intro ordering
  apply only_bind (by simp [Program.Only])
  intro createdAt
  apply only_bind
  · apply pushed
    intro intentId named
    obtain ⟨own, inside⟩ := names_stream (by rfl) named
    exact names intentId own inside
  · intro _
    apply only_bind (pushed _ _ (by simp [(names_copies _).1]))
    intro _
    exact only_bind (pushed _ _ (by simp [(names_copies _).2])) fun _ => trivial

theorem publish_within (hashing : Hashing IntentPayload) {eventType : String}
    (different : eventType ≠ submissionRequested) (payload : Payload) (correlationId : String)
    (causationId : Option String) (partitionKey : String) :
    Within known (publishRuntimeEvent hashing eventType payload correlationId causationId
      partitionKey) :=
  within_of_sending (publish_sending hashing (fun _ own _ => absurd own different) _ _ _)

theorem upsertFailedEvent_within (fields : FailedEventFields) :
    Within known (upsertFailedEvent fields) := by
  apply only_bind (by simp [Program.Only])
  intro existing
  cases existing with
  | none => simp [Program.Only, createFailedEvent]
  | some row => simp [Program.Only]

theorem handleRuntimeFailure_within (envelope : Envelope) (errorMessage reasonCode : String)
    (retryCount maxRetry : Nat) (nextRetryAt : Option Time) (status : String) :
    Within known (handleRuntimeFailure envelope errorMessage reasonCode retryCount maxRetry
      nextRetryAt status) :=
  only_bind (upsertFailedEvent_within _) fun _ => trivial

theorem addIntentEvent_within (intentId eventType eventStatus : String)
    (externalOrderId : Option String) (payload : Payload) :
    Within known (addIntentEvent intentId eventType eventStatus externalOrderId payload) := by
  simp [Program.Only, addIntentEvent]

theorem enforceGates_within : Within known enforceGates := by
  simp [Program.Only, enforceGates]

theorem noteConnection_within (intent : ExecutionIntent) :
    Within known (noteConnection intent) := by
  simp [Program.Only, noteConnection]

theorem ack_within (processingQueue : String) (raw : Raw) :
    Within known (ackRuntimeEvent processingQueue raw) := by
  simp [Program.Only, ackRuntimeEvent]

end Kinds

section Pass

variable (hashing : Hashing IntentPayload) {known : String → Prop}

theorem completeSubmission_within (eventId processingQueue : String) (raw : Raw)
    (result : PassResult) :
    Within known (completeSubmission eventId processingQueue raw result) := by
  simp [Program.Only, completeSubmission, markEventProcessed, ackRuntimeEvent, Command.within]

theorem within_passes (processingQueue : String) :
    Passes hashing (Command.within known) processingQueue where
  adds _ _ _ _ _ _ := addIntentEvent_within _ _ _ _ _
  publishes _ reported _ _ _ _ :=
    publish_within hashing (reported_ne_submission _ reported) _ _ _ _
  submits _ _ := by simp [Program.Only, submitOrder, Command.within]
  finds _ _ := trivial
  mints := trivial
  notes _ := noteConnection_within _
  gates := enforceGates_within
  completes _ _ _ := completeSubmission_within _ _ _ _

theorem enqueueQuarantine_within (envelope : Envelope) (errorMessage reasonCode : String)
    (retryCount maxRetry : Nat) :
    Within known (enqueueQuarantineEvent envelope errorMessage reasonCode retryCount
      maxRetry) := by
  have dead : ∀ raw : Raw, raw.names runtimeDeadLetterQueue = none :=
    names_elsewhere (by decide) (by decide)
  have quarantined : ∀ raw : Raw, raw.names runtimeQuarantineQueue = none :=
    names_elsewhere (by decide) (by decide)
  simp [Program.Only, enqueueQuarantineEvent, Command.within, dead, quarantined]

def Envelope.about (envelope : Envelope) (intentId : String) : Prop :=
  envelope.payload.find "intent_id" = some intentId

theorem enqueueRetry_within {envelope : Envelope} {entry : RetryEntry}
    (same : entry.envelope.payload = envelope.payload) :
    Within envelope.about (enqueueRetryEvent entry) := by
  have named : ∀ intentId, (Raw.retry entry).names runtimeRetryQueue = some intentId →
      envelope.about intentId := by
    intro intentId names
    simp only [names_retry, Raw.loadEntry, Option.bind_some, Option.ite_none_right_eq_some]
      at names
    rw [Envelope.about, ← same]
    exact names.2
  simpa [Program.Only, enqueueRetryEvent, Command.within] using named

theorem handleSubmissionFailure_within (envelope : Envelope) (eventId processingQueue : String)
    (raw : Raw) (intent : Option ExecutionIntent) (exc : Failure) :
    Within envelope.about (handleSubmissionFailure envelope eventId processingQueue raw intent
      exc) := by
  have noted : Within envelope.about (noteFailure intent) := by
    cases intent with
    | none => trivial
    | some intent => exact noteConnection_within intent
  unfold handleSubmissionFailure
  apply only_bind noted
  intro _
  apply only_bind (only_call trivial)
  intro now
  apply only_bind (ack_within _ _)
  intro _
  split
  · apply only_bind (enqueueQuarantine_within _ _ _ _ _)
    intro _
    exact only_bind (handleRuntimeFailure_within _ _ _ _ _ _ _) fun _ => trivial
  · apply only_bind (enqueueRetry_within rfl)
    intro _
    exact only_bind (handleRuntimeFailure_within _ _ _ _ _ _ _) fun _ => trivial

theorem lookUpIntent_within (envelope : Envelope) :
    Within envelope.about (lookUpIntent envelope) := by
  unfold lookUpIntent
  dsimp only
  split
  · trivial
  · rename_i named
    have known : envelope.about ((envelope.payload.find "intent_id").getD "") := by
      cases found : envelope.payload.find "intent_id" with
      | none => simp [blank, found] at named
      | some intentId => simp [Envelope.about, found]
    apply only_bind (by simpa [Program.Only, Command.within] using known)
    intro found
    cases found <;> trivial

theorem processEvent_within (envelope : Envelope) (eventId processingQueue : String) (raw : Raw) :
    Within envelope.about (processEvent hashing envelope eventId processingQueue raw) :=
  (within_passes hashing processingQueue).processEvent (lookUpIntent_within envelope)
    fun _ _ => handleSubmissionFailure_within _ _ _ _ _ _

end Pass

def namedBy (entries : List Raw) (intentId : String) : Prop :=
  ∃ raw ∈ entries, raw.names runtimeRetryQueue = some intentId

theorem requeue_within {raw : Raw} {entries : List Raw} {envelope : Envelope} {time : RetryAt}
    (inside : raw ∈ entries) (loaded : raw.loadEntry = some (envelope, time)) :
    Within (namedBy entries) (requeueRuntimeEvent envelope) := by
  have named : ∀ intentId, (Raw.envelope envelope).names (streamKey envelope.eventType) =
      some intentId → namedBy entries intentId := by
    intro intentId names
    obtain ⟨own, about⟩ := names_stream rfl names
    refine ⟨raw, inside, ?_⟩
    simp [names_retry, loaded, own, about]
  have copies := names_copies (.envelope envelope)
  by_cases typed : envelope.eventType = ""
  · simp [Program.Only, requeueRuntimeEvent, Command.within, copies.1, copies.2, typed]
  · simpa [Program.Only, requeueRuntimeEvent, Command.within, copies.1, copies.2, typed] using named

section Follows

variable {α β : Type} {known : String → Prop} {offer : Offer}

/-- A worker has nothing pending, and has read of the intents that it may name. -/
def Serving (known : String → Prop) (offer : Offer) : Prop :=
  offer.drafted = none ∧ offer.announced = none ∧ ∀ intentId, known intentId →
    intentId ∈ offer.seen

theorem Offer.next_within {command : Command} (inside : command.within known)
    (answer : Except Failure command.Reply) (serving : Serving known offer) :
    Serving known (offer.next command answer) := by
  obtain ⟨undrafted, unannounced, read⟩ := serving
  cases command with
  | redis issued =>
    cases answer with
    | error failure => cases issued <;> exact ⟨undrafted, unannounced, read⟩
    | ok reply =>
      cases issued with
      | rpush key values =>
        refine ⟨undrafted, ?_, read⟩
        simp [Offer.next, undrafted, unannounced]
      | brpoplpush source destination => exact inside.elim
      | lrange key start stop => exact inside.elim
      | _ => exact ⟨undrafted, unannounced, read⟩
  | database issued =>
    cases issued with
    | addIntent row => exact inside.elim
    | flush => cases answer <;> exact ⟨by first | exact undrafted | rfl, unannounced, read⟩
    | commit => cases answer <;> exact ⟨rfl, rfl, read⟩
    | _ => cases answer <;> exact ⟨undrafted, unannounced, read⟩
  | _ => cases answer <;> exact ⟨undrafted, unannounced, read⟩

theorem within_serves {program : Program services α} (within : Within known program)
    (serving : Serving known offer) :
    program.Follows announcing (fun _ => Serving known) (fun _ => Serving known) offer := by
  apply follows_lasting (Serving known) within _ (fun _ _ held => held)
    (fun _ _ held => held) serving
  intro reached command held inside
  refine ⟨?_, fun answer => Offer.next_within inside answer held⟩
  cases command with
  | redis issued =>
    cases issued with
    | rpush key values =>
      exact fun raw listed intentId names =>
        .inl (held.2.2 intentId (inside raw listed intentId names))
    | brpoplpush source destination => exact inside.elim
    | _ => trivial
  | database issued =>
    cases issued with
    | findIntent intentId => exact held.2.2 intentId inside
    | addIntent row => exact inside.elim
    | rollback => exact inside.elim
    | flush => exact held.2.1
    | _ => trivial
  | _ => trivial

abbrev Offers (program : Program services α) (offer : Offer) : Prop :=
  program.Follows announcing (fun _ => Offer.Settled) (fun _ _ => True) offer

theorem serves_bind {program : Program services α} {rest : α → Program services β}
    {returns : β → Offer → Prop} (within : Within known program) (serving : Serving known offer)
    (later : ∀ value reached, Serving known reached →
      (rest value).Follows announcing returns (fun _ _ => True) reached) :
    (program.bind rest).Follows announcing returns (fun _ _ => True) offer :=
  follows_then (within_serves within serving) later (fun _ _ _ => trivial)

/-- The loop of a release, by induction on the entries it has not looked at. -/
theorem releaseLoop_serves (now : Time) (entries remaining : List Raw) (released : Nat)
    (deferred : List Raw) (inside : ∀ raw ∈ remaining, raw ∈ entries)
    (kept : ∀ raw ∈ deferred, raw ∈ entries) (serving : Serving (namedBy entries) offer) :
    (releaseLoop now remaining released deferred).Follows announcing
      (fun result reached => Serving (namedBy entries) reached ∧ ∀ raw ∈ result.2, raw ∈ entries)
      (fun _ _ => True) offer := by
  induction remaining generalizing released deferred offer with
  | nil => exact ⟨serving, kept⟩
  | cons raw remaining ih =>
    have rest : ∀ other ∈ remaining, other ∈ entries := fun other listed =>
      inside other (List.mem_cons_of_mem _ listed)
    have first : raw ∈ entries := inside raw List.mem_cons_self
    unfold releaseLoop
    cases loaded : raw.loadEntry with
    | none => exact ih _ _ rest kept serving
    | some entry =>
      obtain ⟨envelope, nextRetryAt⟩ := entry
      dsimp only
      split
      · trivial
      · apply serves_bind (requeue_within first loaded) serving
        exact fun _ _ serving => ih _ _ rest kept serving
      · apply ih _ _ rest _ serving
        intro other listed
        rcases List.mem_append.mp listed with earlier | isRaw
        · exact kept other earlier
        · exact List.mem_singleton.mp isRaw ▸ first

theorem release_serves (limit : Int) (serving : Serving (fun _ => False) offer) :
    (releaseDueRetryEvents limit).Follows announcing (fun _ => Serving fun _ => False)
      (fun _ _ => True) offer := by
  refine follows_bind_call ⟨trivial, fun items _ => ?_, fun _ _ => trivial⟩
  obtain ⟨undrafted, unannounced, _⟩ := serving
  have nobody : ∀ reached : Offer, Serving (namedBy items) reached →
      Serving (fun _ => False) reached := fun reached held =>
    ⟨held.1, held.2.1, fun _ impossible => impossible.elim⟩
  have read : Serving (namedBy items) (offer.next
      (.redis (.lrange runtimeRetryQueue 0 (limit - 1))) (.ok items)) := by
    refine ⟨undrafted, unannounced, ?_⟩
    rintro intentId ⟨raw, listed, names⟩
    exact List.mem_append_right _ (List.mem_filterMap.mpr ⟨raw, listed, names⟩)
  by_cases nothing : items = []
  · simp only [nothing, if_true]
    exact ⟨undrafted, unannounced, fun _ impossible => impossible.elim⟩
  · simp only [nothing, if_false]
    apply serves_bind (by simp [Program.Only, Command.within]) read
    intro _ _ serving
    apply serves_bind (by simp [Program.Only, Command.within]) serving
    intro now _ serving
    refine follows_then
      (releaseLoop_serves now items items 0 [] (fun _ listed => listed) (by simp) serving) ?_
      (fun _ _ _ => trivial)
    rintro ⟨released, deferred⟩ reached ⟨serving, kept⟩
    dsimp only
    by_cases none : deferred = []
    · simp only [none, ne_eq, not_true_eq_false, if_false]
      exact nobody reached serving
    · simp only [none, ne_eq, not_false_eq_true, if_true]
      have pushed : ∀ raw ∈ deferred, ∀ intentId, raw.names runtimeRetryQueue = some intentId →
          namedBy items intentId := fun raw listed intentId names => ⟨raw, kept raw listed, names⟩
      apply serves_bind (by simpa [Program.Only, Command.within] using pushed) serving
      exact fun _ later serving => nobody later serving

variable (hashing : Hashing IntentPayload)

/-- A worker that has taken an event serves it, and one that has taken none is done. -/
def Taking : Option (Envelope × String × Raw) → Offer → Prop
  | none, offer => offer.Settled
  | some (envelope, _, _), offer => Serving envelope.about offer

/-- A pass names what the event that it took names. -/
theorem processSubmissionEventOnce_offers (workerName : String) :
    Offers (processSubmissionEventOnce hashing workerName) .empty := by
  have fresh : Serving (fun _ => False) Offer.empty :=
    ⟨rfl, rfl, fun _ impossible => impossible.elim⟩
  refine follows_then (release_serves 200 fresh) ?_ (fun _ _ _ => trivial)
  rintro _ reached ⟨undrafted, unannounced, _⟩
  have settled : ∀ {known : String → Prop} (later : Offer), Serving known later →
      later.Settled := fun _ serving => serving.2.1
  have taken : (consumeRuntimeEvent submissionRequested workerName).Follows announcing
      Taking (fun _ _ => True) reached := by
    refine follows_bind_call ⟨⟨rfl, workerName, rfl⟩, fun popped _ => ?_, fun _ _ => trivial⟩
    cases popped with
    | none => exact unannounced
    | some raw =>
      cases loaded : raw.loadEnvelope with
      | none =>
        simp only [loaded]
        trivial
      | some envelope =>
        simp only [loaded]
        refine ⟨undrafted, unannounced, fun intentId about => ?_⟩
        have names : raw.names (streamKey submissionRequested) = some intentId := by
          rw [names_source, loaded]
          exact about
        exact List.mem_append_right _ (by simp [names])
  refine follows_then taken ?_ (fun _ _ _ => trivial)
  intro popped later serving
  cases popped with
  | none => exact serving
  | some popped =>
    obtain ⟨envelope, processing, raw⟩ := popped
    dsimp only
    split
    · exact serves_bind (ack_within _ _) serving fun _ => settled
    · apply serves_bind (by simp [Program.Only, isEventProcessed, Command.within]) serving
      intro found _ serving
      cases found with
      | true => exact serves_bind (ack_within _ _) serving fun _ => settled
      | false => exact serves_bind (processEvent_within hashing _ _ _ _) serving fun _ => settled

end Follows

section Dispatch

variable (hashing : Hashing IntentPayload) (strategyId correlationId : String)
  (decision : DecisionResult) (context : ContextPayload) {offer : Offer}

abbrev Unpledged (offer : Offer) : Prop := Serving (fun _ => False) offer

/-- From the addition of its row until the commit a dispatch has this intent pending, and
announces no other. -/
def Pledged (intentId : String) (offer : Offer) : Prop :=
  offer.drafted = some intentId ∧ (offer.announced = none ∨ offer.announced = some intentId)

theorem Offer.next_sending {intentId : String} {command : Command}
    (sends : command.sending (· = intentId)) (answer : Except Failure command.Reply)
    (pledged : Pledged intentId offer) : Pledged intentId (offer.next command answer) := by
  obtain ⟨drafted, announced⟩ := pledged
  cases command with
  | redis issued =>
    cases issued with
    | incr key => cases answer <;> exact ⟨drafted, announced⟩
    | rpush key values =>
      cases answer with
      | error failure => exact ⟨drafted, announced⟩
      | ok reply =>
        refine ⟨drafted, ?_⟩
        by_cases named : (values.any fun raw => decide (raw.names key = some intentId)) = true
        · exact .inr (by simp only [Offer.next, drafted, Option.filter, named]; rfl)
        · have unchanged : (offer.next (.redis (.rpush key values)) (.ok reply)).announced =
              offer.announced := by
            simp only [Offer.next, drafted, Option.filter, if_neg named, Option.none_or]
          rw [unchanged]
          exact announced
    | _ => exact sends.elim
  | now | uuid4 => cases answer <;> exact ⟨drafted, announced⟩
  | _ => exact sends.elim

theorem sending_pledged {α : Type} {intentId : String} {program : Program services α}
    (sending : Sending (· = intentId) program) (pledged : Pledged intentId offer) :
    program.Follows announcing (fun _ => Pledged intentId) (fun _ _ => True) offer := by
  apply follows_lasting (Pledged intentId) sending _ (fun _ _ held => held)
    (fun _ _ _ => trivial) pledged
  intro reached command held sends
  refine ⟨?_, fun answer => Offer.next_sending sends answer held⟩
  cases command with
  | redis issued =>
    cases issued with
    | rpush key values =>
      intro raw listed other names
      exact .inr (sends raw listed other names ▸ held.1)
    | incr key => trivial
    | _ => exact sends.elim
  | now | uuid4 => trivial
  | _ => exact sends.elim

theorem offers_bind {α β : Type} {program : Program services α} {returns : α → Offer → Prop}
    {rest : α → Program services β}
    (first : program.Follows announcing returns (fun _ _ => True) offer)
    (later : ∀ value reached, returns value reached → Offers (rest value) reached) :
    Offers (program.bind rest) offer :=
  follows_then first later (fun _ _ _ => trivial)

theorem rejectDecision_offers (reasonCodes : List String) (unpledged : Unpledged offer) :
    Offers (rejectDecision hashing strategyId correlationId decision context reasonCodes)
      offer := by
  apply serves_bind (publish_within hashing (by decide) _ _ _ _) unpledged
  intro _ _ unpledged
  apply serves_bind (by simp [Program.Only, Command.within]) unpledged
  exact fun _ _ settled => settled.2.1

/-- The row is pending before the event that names it is published, and the commit ends
the announcement. -/
theorem admitIntent_offers (payload : IntentPayload) (unpledged : Unpledged offer) :
    Offers (admitIntent hashing strategyId correlationId decision context payload) offer := by
  apply serves_bind (by simp [Program.Only, Command.within]) unpledged
  intro intentId _ unpledged
  apply serves_bind (by simp [Program.Only, Command.within]) unpledged
  intro createdAt reached unpledged
  have named : ∀ (eventType : String) (rest : Payload),
      Sending (· = intentId) (publishForDecision hashing strategyId correlationId decision context
        eventType (("intent_id", intentId) :: rest)) := by
    intro eventType rest
    apply publish_sending
    intro other _ found
    simpa [Payload.find, eq_comm] using found
  have added : (call (.database (.addIntent (intentRow payload (hashing.intentHash payload)
      intentId createdAt)))).Follows announcing
      (fun _ later => Pledged intentId later ∧ later.announced = none) (fun _ _ => True) reached :=
    (follows_call _).mpr ⟨unpledged.2.1, fun _ _ => ⟨⟨rfl, .inl unpledged.2.1⟩, unpledged.2.1⟩,
      fun _ _ => trivial⟩
  apply offers_bind added
  rintro _ drafted ⟨pledged, unannounced⟩
  have flushed : (call (.database .flush)).Follows announcing (fun _ => Pledged intentId)
      (fun _ _ => True) drafted :=
    (follows_call _).mpr ⟨unannounced, fun _ _ => pledged, fun _ _ => trivial⟩
  apply offers_bind flushed
  intro _ _ pledged
  apply offers_bind (sending_pledged (named _ _) pledged)
  intro created _ pledged
  apply offers_bind (sending_pledged (named _ _) pledged)
  intro requested _ _
  exact follows_bind_call ⟨trivial, fun _ _ => rfl, fun _ _ => trivial⟩

theorem settleDecision_offers (unpledged : Unpledged offer) :
    Offers (settleDecision hashing strategyId correlationId decision context) offer := by
  have rejected : ∀ (reasonCodes : List String) (reached : Offer), Unpledged reached →
      Offers (rejectDecision hashing strategyId correlationId decision context reasonCodes)
        reached := fun reasonCodes _ settled =>
    rejectDecision_offers hashing strategyId correlationId decision context reasonCodes settled
  unfold settleDecision
  split
  · exact rejected _ _ unpledged
  · split
    · exact rejected _ _ unpledged
    · apply serves_bind (by simp [Program.Only, Command.within]) unpledged
      intro found _ unpledged
      cases found with
      | some intent =>
        apply serves_bind (by simp [Program.Only, Command.within]) unpledged
        exact fun _ _ settled => settled.2.1
      | none =>
        apply serves_bind (only_outcome enforceGates_within) unpledged
        intro gates _ unpledged
        split
        · exact admitIntent_offers hashing strategyId correlationId decision context _ unpledged
        · exact rejected _ _ unpledged
        · exact rejected _ _ unpledged
        · trivial

theorem dispatchDecisionResult_offers :
    Offers (dispatchDecisionResult hashing strategyId correlationId decision context) .empty := by
  have fresh : Unpledged Offer.empty := ⟨rfl, rfl, fun _ impossible => impossible.elim⟩
  apply serves_bind (publish_within hashing (by decide) _ _ _ _) fresh
  intro produced _ unpledged
  apply serves_bind (by simp [Program.Only, Command.within]) unpledged
  intro _ _ unpledged
  apply serves_bind (by simp [Program.Only, Command.within]) unpledged
  intro _ _ unpledged
  apply (follows_bind _ _).mpr
  exact follows_mono
    (settleDecision_offers hashing strategyId correlationId decision context unpledged)
    (fun _ _ settled => settled) (fun _ _ _ => trivial)

end Dispatch

end Runtime
