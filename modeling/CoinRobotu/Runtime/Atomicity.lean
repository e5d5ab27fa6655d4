import CoinRobotu.Runtime.Frames

/-!
# What a failed attempt leaves in the log

An attempt adds the rows of an order's log to its session and commits them at
its end. When an operation raises in between, the rows stay pending in the
session, and the failure handling works in the same session: its commit of the
failed-event row commits them as well. So the log is the one before the attempt
exactly when the handling itself raises before that commit is through.
-/

open Interleaving
open Program (follows_bind follows_of_only follows_then)

namespace Runtime

def Command.settles : Command → Bool
  | .database .commit => true
  | .database .flush => true
  | .database .rollback => true
  | _ => false

/-- What an attempt may record: rows of its own intent, and only before it
commits. -/
def Command.recordsFor (intentId : String) : Bool → Command → Prop
  | _, .database (.addIntent _) => False
  | _, .database (.assignStatus _ _) => False
  | _, .database .flush => False
  | _, .database .rollback => False
  | settled, .database (.addEvent event) => settled = false ∧ event.intentId = intentId
  | _, _ => True

def recording (intentId : String) : Protocol services Task Bool :=
  ⟨false, fun _ => false, fun settled command _ => settled || command.settles,
    Command.recordsFor intentId, fun _ _ => True⟩

/-- Until the attempt commits, the committed log is the given one and the
session holds rows of the intent only; afterwards it holds none. -/
def Recorded (thread : Thread) (intentId : String) (database : Database) (world : World) :
    Bool → Prop
  | false =>
      world.database = database ∧ (world.sessions thread).broken = false ∧
        (world.sessions thread).statuses = [] ∧ (world.sessions thread).newIntents = [] ∧
        ∀ event ∈ (world.sessions thread).newEvents, event.intentId = intentId
  | true => (world.sessions thread).newEvents = []

theorem World.perform_unsettled (world : World) (thread : Thread) (oracle : Oracle)
    {command : Command} (quiet : command.settles = false) :
    (world.perform thread oracle command).1.database = world.database := by
  rcases world.perform_database thread oracle command with same | ⟨rfl, _⟩
  · exact same
  · cases quiet

theorem recorded_perform {thread : Thread} {intentId : String} {database : Database}
    {world : World} {settled : Bool} (recorded : Recorded thread intentId database world settled)
    (oracle : Oracle) (command : Command) (allowed : command.recordsFor intentId settled) :
    Recorded thread intentId database (world.perform thread oracle command).1
      (settled || command.settles) := by
  have session := world.perform_session thread oracle command
  generalize answered : (world.perform thread oracle command).2 = answer at session
  cases settles : command.settles with
  | true =>
    rw [Bool.or_true]
    have committed : command = .database .commit := by
      cases command with
      | database command =>
        cases command <;> first | rfl | exact allowed.elim | exact nomatch settles
      | _ => cases settles
    subst committed
    cases answer <;> simp [Recorded, session, Session.after, Session.fresh, Session.failed]
  | false =>
    have database := world.perform_unsettled thread oracle settles
    rw [Bool.or_false]
    cases settled with
    | true =>
      have nothing : (world.sessions thread).newEvents = [] := recorded
      cases command with
      | database command =>
        cases command <;> first | exact allowed.elim | exact nomatch allowed.1 | cases settles
        all_goals cases answer <;> simp [Recorded, session, Session.after, nothing]
      | _ => simp [Recorded, session, Session.after, nothing]
    | false =>
      obtain ⟨sameDatabase, sound, unassigned, noIntents, own⟩ := recorded
      refine ⟨database.trans sameDatabase, ?_⟩
      cases command with
      | database command =>
        cases command with
        | addEvent event =>
          cases answer with
          | error failure =>
            simpa [session, Session.after] using ⟨sound, unassigned, noIntents, own⟩
          | ok reply =>
            have added : ∀ row ∈ (world.sessions thread).newEvents ++ [event],
                row.intentId = intentId := by
              intro row inside
              rcases List.mem_append.mp inside with earlier | last
              · exact own row earlier
              · exact List.mem_singleton.mp last ▸ allowed.2
            simpa only [session, Session.after] using ⟨sound, unassigned, noIntents, added⟩
        | _ =>
          first | exact allowed.elim | cases settles
          all_goals cases answer <;> simpa [session, Session.after] using
            ⟨sound, unassigned, noIntents, own⟩
      | _ => simpa [session, Session.after] using ⟨sound, unassigned, noIntents, own⟩

/-- A light command is recorded at any time, unless it is a flush or a rollback. -/
def Command.aloof : Command → Prop
  | .database .flush => False
  | .database .commit => False
  | .database .rollback => False
  | command => command.light

theorem follows_of_aloof {α : Type} {program : Program services α} {intentId : String}
    {returns : α → Bool → Prop} {raises : Failure → Bool → Prop} {settled : Bool}
    (aloof : program.Only (S := services) Command.aloof) (onReturn : ∀ value, returns value settled)
    (onRaise : ∀ failure, raises failure settled) :
    program.Follows (recording intentId) returns raises settled := by
  refine follows_of_only aloof (fun command quiet => ⟨?_, fun answer => ?_⟩)
    onReturn onRaise
  · cases command with
    | database command => cases command <;> first | exact quiet.elim | (cases settled <;> trivial)
    | submitOrder order => exact quiet.elim
    | _ => cases settled <;> trivial
  · cases command with
    | database command => cases command <;> first | exact quiet.elim | (cases settled <;> rfl)
    | _ => cases settled <;> rfl

section Attempt

variable (hashing : Hashing IntentPayload)

theorem publish_aloof (eventType : String) (payload : Payload) (correlationId : String)
    (causationId : Option String) (partitionKey : String) :
    (publishRuntimeEvent hashing eventType payload correlationId causationId
      partitionKey).Only (S := services) Command.aloof := by
  simp [Program.Only, publishRuntimeEvent, Command.aloof, Command.light]

theorem noteConnection_aloof (intent : ExecutionIntent) :
    (noteConnection intent).Only (S := services) Command.aloof := by
  simp [Program.Only, noteConnection, Command.aloof, Command.light]

theorem addIntentEvent_records (intentId eventType eventStatus : String)
    (externalOrderId : Option String) (payload : Payload) :
    (addIntentEvent intentId eventType eventStatus externalOrderId payload).Follows
      (recording intentId) (fun _ settled => settled = false) (fun _ _ => True) false := by
  simp [addIntentEvent, recording, Command.recordsFor, Command.settles]

/-- The loop over the states, by induction on them: nothing settles. -/
theorem recordLifecycle_records (intent : ExecutionIntent) (eventId externalOrderId : String)
    (states : List String) :
    (recordLifecycle hashing intent eventId externalOrderId states).Follows
      (recording intent.intentId) (fun _ settled => settled = false) (fun _ _ => True) false := by
  induction states with
  | nil => rfl
  | cons state states ih =>
    apply follows_then (addIntentEvent_records intent.intentId _ _ _ _)
    · rintro _ _ rfl
      exact (follows_bind _ _).mpr (follows_of_aloof (publish_aloof hashing _ _ _ _ _)
        (fun _ => ih) (fun _ => trivial))
    · exact fun _ _ _ => trivial

theorem completeSubmission_records (intentId eventId processingQueue : String) (raw : Raw)
    (result : PassResult) :
    (completeSubmission eventId processingQueue raw result).Follows (recording intentId)
      (fun _ _ => True) (fun _ _ => True) false := by
  simp [completeSubmission, markEventProcessed, ackRuntimeEvent, recording, Command.recordsFor]

variable (intent : ExecutionIntent)

variable (eventId processingQueue : String)

theorem blockSubmission_records (raw : Raw) (reasonCode : String) :
    (blockSubmission intent eventId processingQueue raw reasonCode).Follows
      (recording intent.intentId) (fun _ _ => True) (fun _ _ => True) false := by
  apply follows_then (addIntentEvent_records intent.intentId _ _ _ _)
  · rintro _ _ rfl
    exact completeSubmission_records intent.intentId _ _ _ _
  · exact fun _ _ _ => trivial

theorem recordSubmission_records (raw : Raw) :
    (recordSubmission hashing intent eventId processingQueue raw).Follows
      (recording intent.intentId) (fun _ _ => True) (fun _ _ => True) false := by
  have submitted : ((submitOrder hashing
      ⟨intent.intentHash, intent.quantity, intent.priceReference⟩).attempt
        fun _ => throw (.runtimeError "exchange_adapter_failure")).Follows
      (recording intent.intentId) (fun _ settled => settled = false) (fun _ _ => True) false := by
    simp [submitOrder, recording, Command.recordsFor, Command.settles]
  apply follows_then submitted
  · rintro submission _ rfl
    apply follows_then (addIntentEvent_records intent.intentId _ _ _ _)
    · rintro _ _ rfl
      refine (follows_bind _ _).mpr (follows_of_aloof (publish_aloof hashing _ _ _ _ _)
        (fun _ => ?_) (fun _ => trivial))
      apply follows_then (recordLifecycle_records hashing intent _ _ _)
      · rintro _ _ rfl
        refine (follows_bind _ _).mpr (follows_of_aloof (by
          simp [Program.Only, Command.aloof, Command.light]) (fun _ => ?_) (fun _ => trivial))
        exact (follows_bind _ _).mpr (follows_of_aloof (noteConnection_aloof intent)
          (fun _ => completeSubmission_records intent.intentId _ _ _ _) (fun _ => trivial))
      · exact fun _ _ _ => trivial
    · exact fun _ _ _ => trivial
  · exact fun _ _ _ => trivial

theorem submitIntent_records (raw : Raw) :
    (submitIntent hashing intent eventId processingQueue raw).Follows
      (recording intent.intentId) (fun _ _ => True) (fun _ _ => True) false := by
  refine follows_bind_call ⟨trivial, fun found _ => ?_, fun _ _ => trivial⟩
  cases found with
  | some event => exact True.intro
  | none =>
    have gates : enforceGates.Only (S := services) Command.aloof := by
      simp [Program.Only, enforceGates, Command.aloof, Command.light]
    refine (follows_bind _ _).mpr ((Program.follows_outcome _).mpr
      (follows_of_aloof gates (fun _ => ?_) (fun failure => ?_)))
    · exact recordSubmission_records hashing intent eventId processingQueue raw
    · cases failure with
      | executionSafetyViolation reasonCode => exact blockSubmission_records intent _ _ _ _
      | commercialControlViolation reasonCode => exact blockSubmission_records intent _ _ _ _
      | _ => exact True.intro

end Attempt

section Handling

/-- How far the failure handling got: before its commit, after it, or at a
commit that raised. -/
inductive Closing where
  | pending
  | committed
  | lost
deriving DecidableEq

namespace Closing

def next : Closing → (command : Command) → Except Failure command.Reply → Closing
  | pending, .database .commit, .ok _ => committed
  | pending, .database .commit, .error _ => lost
  | closing, _, _ => closing

/-- The handling adds no row to a log, and it stops at a commit that raised. -/
def allows : Closing → Command → Prop
  | lost, _ => False
  | pending, .database .commit => True
  | pending, command => command.aloof
  | committed, command => command.light

end Closing

def closing : Protocol services Task Closing :=
  ⟨.pending, fun _ => .pending, Closing.next, Closing.allows, fun _ _ => True⟩

def Command.isCommit : Command → Bool
  | .database .commit => true
  | _ => false

variable {world : World}

theorem light_perform {thread : Thread} (oracle : Oracle) {command : Command}
    (light : command.light) :
    ((world.sessions thread).newEvents = [] →
      ((world.perform thread oracle command).1.sessions thread).newEvents = [] ∧
        (world.perform thread oracle command).1.database.events = world.database.events) := by
  intro nothing
  constructor
  · rw [world.perform_session thread oracle command]
    cases command with
    | database command =>
      cases command <;> first | exact light.elim | skip
      all_goals cases (world.perform thread oracle _).2 <;>
        simp [Session.after, Session.fresh, Session.failed, nothing]
    | _ => simp [Session.after, nothing]
  · rcases world.perform_database thread oracle command with same | ⟨_, committed⟩
    · rw [same]
    · obtain ⟨_, _, _, events, _⟩ := Database.commit_ok committed
      rw [events, nothing, List.append_nil]

theorem committed_keeps_events {α : Type} {program : Program services α} {thread : Thread}
    (follows : program.Follows closing (fun _ reached => reached = .committed) (fun _ _ => True)
      .committed) (oracles : Nat → Oracle) (world : World)
    (nothing : (world.sessions thread).newEvents = []) :
    (program.play runtimeService thread oracles world).1.database.events =
      world.database.events := by
  induction program generalizing oracles world with
  | done | fail => rfl
  | issue command next ih =>
    obtain ⟨light, answered⟩ := follows
    obtain ⟨still, same⟩ := light_perform (oracles 0) light nothing
    have after := answered (world.perform thread (oracles 0) command).2 trivial
    have stays : closing.next .committed command (world.perform thread (oracles 0) command).2 =
        .committed := rfl
    rw [stays] at after
    exact (ih _ after _ _ still).trans same

theorem aloof_perform {thread : Thread} (oracle : Oracle) {command : Command}
    (aloof : command.aloof) :
    ((world.perform thread oracle command).1.sessions thread).newEvents =
        (world.sessions thread).newEvents ∧
      (world.perform thread oracle command).1.database = world.database := by
  constructor
  · rw [world.perform_session thread oracle command]
    cases command with
    | database command =>
      cases command <;> first | exact aloof.elim | skip
      all_goals cases (world.perform thread oracle _).2 <;> simp [Session.after]
    | _ => simp [Session.after]
  · rcases world.perform_database thread oracle command with same | ⟨rfl, _⟩
    · exact same
    · exact aloof.elim

theorem perform_commit_ok {thread : Thread} {oracle : Oracle} {reply : Unit}
    (reached : (world.perform thread oracle (.database .commit)).2 = .ok reply) :
    world.database.commit (world.sessions thread) =
      .ok (world.perform thread oracle (.database .commit)).1.database := by
  unfold World.perform at reached ⊢
  cases fault : oracle.fault with
  | some failure => simp [fault] at reached
  | none =>
    simp only [fault, World.performDatabase] at reached ⊢
    cases committed : world.database.commit (world.sessions thread) with
    | ok database => rfl
    | error failure => simp [committed] at reached

theorem perform_commit_error {thread : Thread} {oracle : Oracle}
    {failure : Failure}
    (reached : (world.perform thread oracle (.database .commit)).2 = .error failure) :
    (world.perform thread oracle (.database .commit)).1.database = world.database := by
  unfold World.perform at reached ⊢
  cases fault : oracle.fault with
  | some failure => rfl
  | none =>
    simp only [fault, World.performDatabase] at reached ⊢
    cases committed : world.database.commit (world.sessions thread) with
    | ok database => simp [committed] at reached
    | error failure => rfl

/-- The handling commits the rows that were pending when it began, unless it
raises up to its commit. By induction on the handling, whose commands before
the commit leave the pending rows alone. -/
theorem handling_commits {α : Type} {program : Program services α} {thread : Thread}
    (follows : program.Follows closing (fun _ reached => reached = .committed) (fun _ _ => True)
      .pending) (oracles : Nat → Oracle) (world : World) :
    match ((program.upTo Command.isCommit).play runtimeService thread oracles world).2 with
    | .ok _ => (program.play runtimeService thread oracles world).1.database.events =
        world.database.events ++ (world.sessions thread).newEvents
    | .error _ => (program.play runtimeService thread oracles world).1.database.events =
        world.database.events := by
  induction program generalizing oracles world with
  | done value => exact nomatch follows
  | fail failure => rfl
  | issue command next ih =>
    obtain ⟨allowed, answered⟩ := follows
    have after := answered (world.perform thread (oracles 0) command).2 trivial
    by_cases commits : command = .database .commit
    · subst commits
      cases reached : (world.perform thread (oracles 0) (.database .commit)).2 with
      | ok reply =>
        rw [reached] at after
        have pendingGone : ((world.perform thread (oracles 0) (.database .commit)).1.sessions
            thread).newEvents = [] := by
          rw [world.perform_session, reached]
          rfl
        have kept := committed_keeps_events after (fun index => oracles (index + 1)) _ pendingGone
        have written := (Database.commit_ok (perform_commit_ok reached)).2.2.2.1
        simpa [Program.upTo, Program.play, runtimeService, reached, Command.isCommit] using
          kept.trans written
      | error failure =>
        rw [reached] at after
        have same := perform_commit_error reached
        cases rest : next (.error failure) with
        | done value =>
          rw [rest] at after
          exact nomatch after
        | issue command next =>
          rw [rest] at after
          exact after.1.elim
        | fail failure =>
          simpa [Program.upTo, Program.play, runtimeService, reached, rest] using
            congrArg Database.events same
    · have aloof : command.aloof := by
        cases command with
        | database command => cases command <;> first | exact allowed | exact absurd rfl commits
        | _ => exact allowed
      have stays : closing.next .pending command (world.perform thread (oracles 0) command).2 =
          .pending := by
        cases command with
        | database command => cases command <;> first | rfl | exact absurd rfl commits
        | _ => rfl
      have onward : command.isCommit = false := by
        cases command with
        | database command => cases command <;> first | rfl | exact absurd rfl commits
        | _ => rfl
      rw [stays] at after
      have still : ((world.perform thread (oracles 0) command).1.sessions thread).newEvents =
          (world.sessions thread).newEvents ∧
            (world.perform thread (oracles 0) command).1.database = world.database :=
        aloof_perform (oracles 0) aloof
      obtain ⟨samePending, sameDatabase⟩ := still
      have handled := ih _ after (fun index => oracles (index + 1))
        (world.perform thread (oracles 0) command).1
      rw [samePending, sameDatabase] at handled
      cases reached : (world.perform thread (oracles 0) command).2 <;>
        simpa [Program.upTo, Program.play, runtimeService, reached, onward] using handled

theorem closing_of_aloof {α : Type} {program : Program services α}
    {returns : α → Closing → Prop} {raises : Failure → Closing → Prop}
    (aloof : program.Only (S := services) Command.aloof)
    (onReturn : ∀ value, returns value .pending) (onRaise : ∀ failure, raises failure .pending) :
    program.Follows closing returns raises .pending := by
  refine follows_of_only aloof (fun command quiet => ⟨?_, fun answer => ?_⟩)
    onReturn onRaise
  · cases command with
    | database command => cases command <;> first | exact quiet | exact quiet.elim
    | _ => exact quiet
  · cases command with
    | database command => cases command <;> first | rfl | exact quiet.elim
    | _ => rfl

theorem upsertFailedEvent_commits (fields : FailedEventFields) :
    (upsertFailedEvent fields).Follows closing (fun _ reached => reached = .committed)
      (fun _ _ => True) .pending := by
  refine follows_bind_call ⟨trivial, fun existing _ => ?_, fun _ _ => trivial⟩
  cases existing <;>
    simp [createFailedEvent, closing, Closing.next, Closing.allows, Command.aloof, Command.light]

theorem handleSubmissionFailure_commits (envelope : Envelope) (eventId processingQueue : String)
    (raw : Raw) (intent : ExecutionIntent) (exc : Failure) :
    (handleSubmissionFailure envelope eventId processingQueue raw (some intent) exc).Follows closing
      (fun _ reached => reached = .committed) (fun _ _ => True) .pending := by
  have handled : ∀ (envelope : Envelope) (reasonCode : String) (retryCount : Nat)
      (nextRetryAt : Option Time) (status : String) (result : PassResult),
      ((handleRuntimeFailure envelope exc.text reasonCode retryCount maxRetry nextRetryAt
        status).bind fun _ => Program.done result).Follows closing
        (fun _ reached => reached = .committed) (fun _ _ => True) .pending := by
    intro envelope reasonCode retryCount nextRetryAt status result
    apply (follows_bind _ _).mpr
    apply (follows_bind _ _).mpr
    exact upsertFailedEvent_commits _
  unfold handleSubmissionFailure
  refine (follows_bind _ _).mpr (closing_of_aloof (noteConnection_aloof intent)
    (fun _ => ?_) (fun _ => trivial))
  refine (follows_bind _ _).mpr (closing_of_aloof (by
    simp [Program.Only, Command.aloof, Command.light]) (fun now => ?_) (fun _ => trivial))
  refine (follows_bind _ _).mpr (closing_of_aloof (by
    simp [Program.Only, ackRuntimeEvent, Command.aloof, Command.light]) (fun _ => ?_)
    (fun _ => trivial))
  split
  · exact (follows_bind _ _).mpr (closing_of_aloof (by
      simp [Program.Only, enqueueQuarantineEvent, Command.aloof, Command.light])
      (fun _ => handled _ _ _ _ _ _) (fun _ => trivial))
  · exact (follows_bind _ _).mpr (closing_of_aloof (by
      simp [Program.Only, enqueueRetryEvent, Command.aloof, Command.light])
      (fun _ => handled _ _ _ _ _ _) (fun _ => trivial))

end Handling

section Atomicity

variable (hashing : Hashing IntentPayload)

/-- The failure handling of a pass, up to the commit of its failed-event row. -/
def recordFailure (envelope : Envelope) (eventId processingQueue : String) (raw : Raw)
    (intent : ExecutionIntent) (exc : Failure) : Program services Unit :=
  (handleSubmissionFailure envelope eventId processingQueue raw (some intent) exc).upTo
    Command.isCommit

theorem eventsOf_longer {before after : Database} {intentId : String}
    {added : List ExecutionIntentEvent} (grown : after.events = before.events ++ added)
    (some : added ≠ []) (own : ∀ event ∈ added, event.intentId = intentId) :
    (before.eventsOf intentId).length < (after.eventsOf intentId).length := by
  have all : added.filter (·.intentId = intentId) = added :=
    List.filter_eq_self.mpr fun event inside => by simpa using own event inside
  have positive := List.length_pos_of_ne_nil some
  simp only [Database.eventsOf, List.length_insertionSort, grown, List.filter_append,
    List.length_append, all]
  omega

/-- An attempt raised after it had added rows to the log, and the failure
handling follows. The committed log of the intent is the one before the attempt
exactly when the handling raises too, before its own commit is through. -/
theorem failed_attempt_keeps_log_iff {thread : Thread} {world middle : World}
    {intent : ExecutionIntent} {eventId processingQueue : String} {raw : Raw} {exc : Failure}
    {oracles : Nat → Oracle}
    (attempted : (submitIntent hashing intent eventId processingQueue raw).play runtimeService
      thread oracles (world.putSession thread .fresh) = (middle, .error exc))
    (added : (middle.sessions thread).newEvents ≠ []) (envelope : Envelope)
    (later : Nat → Oracle) :
    ((handleSubmissionFailure envelope eventId processingQueue raw (some intent) exc).play
        runtimeService thread later middle).1.database.eventsOf intent.intentId =
      world.database.eventsOf intent.intentId ↔
    ∃ failure, ((recordFailure envelope eventId processingQueue raw intent exc).play
      runtimeService thread later middle).2 = .error failure := by
  obtain ⟨settled, recorded, _⟩ := Program.play_invariant runtimeService thread
    (submitIntent_records hashing intent eventId processingQueue raw)
    (Recorded thread intent.intentId world.database) (fun _ => True)
    (fun oracle command world settled _ allowed holds =>
      ⟨trivial, recorded_perform holds oracle command allowed⟩)
    oracles (fun _ => trivial) (world.putSession thread .fresh)
    (by simp [Recorded, Session.fresh])
  rw [attempted] at recorded
  cases settled with
  | true => exact absurd recorded added
  | false =>
    obtain ⟨sameDatabase, _, _, _, own⟩ := recorded
    have handled := @handling_commits _ _ thread
      (handleSubmissionFailure_commits envelope eventId processingQueue raw intent exc) later middle
    constructor
    · intro unchanged
      cases raised : ((recordFailure envelope eventId processingQueue raw intent exc).play
          runtimeService thread later middle).2 with
      | error failure => exact ⟨failure, rfl⟩
      | ok reply =>
        rw [recordFailure] at raised
        rw [raised] at handled
        have longer := eventsOf_longer handled added own
        rw [unchanged, sameDatabase] at longer
        exact absurd longer (lt_irrefl _)
    · rintro ⟨failure, raised⟩
      rw [recordFailure] at raised
      rw [raised, sameDatabase] at handled
      simp only [Database.eventsOf] at handled ⊢
      rw [handled]

def raisingAt (position index : Nat) : Oracle :=
  if index = position then { steady with fault := some (.other "redis down") } else steady

def sampleQueue : String := processingKey submissionRequested "worker"

/-- The publish of the last state of the sample order raises, and the handling
meets no failure of its own. -/
theorem failed_attempt_keeps_log_iff_publish :
    ∃ middle exc,
      (submitIntent sampleHashing sampleIntent "event-1" sampleQueue
        (.envelope sampleEnvelope)).play runtimeService 0 (raisingAt 28)
        ((World.boot emptyRedis (sampleDatabase []) []).putSession 0 .fresh) =
          (middle, .error exc) ∧
      (((handleSubmissionFailure sampleEnvelope "event-1" sampleQueue (.envelope sampleEnvelope)
          (some sampleIntent) exc).play runtimeService 0 (fun _ => steady)
          middle).1.database.eventsOf "intent-1" =
        (World.boot emptyRedis (sampleDatabase []) []).database.eventsOf "intent-1" ↔
      ∃ failure, ((recordFailure sampleEnvelope "event-1" sampleQueue (.envelope sampleEnvelope)
        sampleIntent exc).play runtimeService 0 (fun _ => steady) middle).2 = .error failure) := by
  let attempt := (submitIntent sampleHashing sampleIntent "event-1" sampleQueue
    (.envelope sampleEnvelope)).play runtimeService 0 (raisingAt 28)
    ((World.boot emptyRedis (sampleDatabase []) []).putSession 0 .fresh)
  have attempted : attempt = (attempt.1, .error (.other "redis down")) :=
    Prod.ext rfl (by decide +kernel)
  have added : (attempt.1.sessions 0).newEvents ≠ [] := by decide +kernel
  exact ⟨attempt.1, .other "redis down", attempted,
    failed_attempt_keeps_log_iff sampleHashing attempted added sampleEnvelope fun _ => steady⟩

/-- The sample event is processed twice. In the first pass the publish of the
order's last state raises; its failure handling commits the whole log, so the
second pass takes the event for a duplicate. -/
theorem failed_publish_commits_log :
    let first := (processEvent sampleHashing sampleEnvelope "event-1" sampleQueue
      (.envelope sampleEnvelope)).play runtimeService 0 (raisingAt 29)
      (World.boot emptyRedis (sampleDatabase []) [])
    let retried := sampleEnvelope.failedOnce "worker_internal_error" "redis down"
    let second := (processEvent sampleHashing retried "event-1" sampleQueue
      (.envelope retried)).play runtimeService 0 (fun _ => steady)
      (first.1.putSession 0 .fresh)
    (World.boot emptyRedis (sampleDatabase []) []).database.eventsOf "intent-1" = [] ∧
      first.2 = .ok ⟨"retrying", some "event-1", some "worker_internal_error", none, none⟩ ∧
      (first.1.database.eventsOf "intent-1").map (·.eventType) =
        ["execution.order.submitted", "execution.order.updated", orderFinalized] ∧
      second.2 = .ok
        ⟨"quarantined", some "event-1", some "duplicate_terminal_event", none, none⟩ := by
  decide +kernel

end Atomicity

end Runtime
