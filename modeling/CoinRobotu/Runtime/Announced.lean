import CoinRobotu.Runtime.Announcing
import CoinRobotu.Runtime.Retained

/-!
# Publication and commit agree

A dispatch publishes the submission event of an intent before it commits the intent's row.
Where no worker looks the intent up in between and the commit then succeeds, a lookup
always finds its row, and an event is consumed only for an intent that is committed or
whose dispatch is about to commit it. A worker that comes in between finds no row and puts
the event into quarantine, although the row is committed afterwards.
-/

open Interleaving

namespace Runtime

def Database.Holds (database : Database) (intentId : String) : Prop :=
  ∃ row ∈ database.intents, row.intentId = intentId

def consumes (intentId : String) : (command : Command) → Except Failure command.Reply → Prop
  | .redis (.brpoplpush source _), .ok (some raw) => raw.names source = some intentId
  | _, _ => False

def Consumed (trace : List (Thread × services.Event)) (intentId : String) : Prop :=
  ∃ entry ∈ trace, consumes intentId entry.2.1 entry.2.2

def misses : (command : Command) → Except Failure command.Reply → Prop
  | .database (.findIntent _), .ok none => True
  | _, _ => False

/-- The tasks between which publication and commit have to agree. -/
def Task.submits : Task → Prop
  | .dispatch _ _ _ _ => True
  | .workerPass _ => True
  | _ => False

/-- Dispatchers and workers run. No worker looks an intent up between its announcement and
its commit, and a dispatch that has announced its intent goes on to commit it. -/
def visible : Discipline services World Oracle Task Offer where
  starts _ _ task := task.submits
  runs view thread oracle command :=
    (∀ intentId, command = .database (.findIntent intentId) →
      ∀ other, (view.phases other).announced ≠ some intentId) ∧
    (command = .database .commit → (view.phases thread).announced ≠ none →
      oracle.fault = none ∧
        ∃ database, view.world.database.commit (view.world.sessions thread) = .ok database)
  dies view thread := (view.phases thread).announced = none

section Invariant

/-- The row is committed, or a running dispatch has announced the intent. -/
def Known (database : Database) (phases : Thread → Offer) (intentId : String) : Prop :=
  database.Holds intentId ∨ ∃ thread, (phases thread).announced = some intentId

/-- What a run keeps: every intent that an event names is known, also those of which a task
has read; a dispatch announces the intent whose row it has pending; no lookup has missed. -/
structure Promised (view : View services World Task Offer) : Prop where
  listed : ∀ key, ∀ raw ∈ view.world.redis.lists key, ∀ intentId, raw.names key = some intentId →
    Known view.world.database view.phases intentId
  seen : ∀ thread, ∀ intentId ∈ (view.phases thread).seen,
    Known view.world.database view.phases intentId
  drafted : ∀ thread intentId, (view.phases thread).drafted = some intentId →
    ∃ row ∈ (view.world.sessions thread).newIntents, row.intentId = intentId
  announced : ∀ thread intentId, (view.phases thread).announced = some intentId →
    (view.phases thread).drafted = some intentId
  found : ∀ entry ∈ view.trace, ¬misses entry.2.1 entry.2.2
  consumed : ∀ intentId, Consumed view.trace intentId →
    Known view.world.database view.phases intentId
  asked : ∀ task ∈ view.started, task.submits

variable {offer : Offer} {command : Command} {intentId : String}

theorem Offer.next_announced (drafted : offer.drafted = some intentId)
    (announced : offer.announced = some intentId) (allowed : offer.allows command)
    (uncommitted : command ≠ .database .commit) (answer : Except Failure command.Reply) :
    (offer.next command answer).announced = some intentId := by
  cases command with
  | redis issued =>
    cases answer with
    | error failure => cases issued <;> exact announced
    | ok reply =>
      cases issued with
      | rpush key values =>
        by_cases named : (values.any fun raw => decide (raw.names key = some intentId)) = true
        · simp only [Offer.next, drafted, Option.filter, named]
          rfl
        · simp only [Offer.next, drafted, Option.filter, if_neg named, Option.none_or, announced]
      | brpoplpush source destination => cases reply <;> exact announced
      | _ => exact announced
  | database issued =>
    cases issued with
    | commit => exact absurd rfl uncommitted
    | _ => cases answer <;> exact announced
  | _ => cases answer <;> exact announced

theorem Offer.announced_drafted (pending : ∀ other, offer.announced = some other →
      offer.drafted = some other)
    (allowed : offer.allows command) (answer : Except Failure command.Reply)
    (announced : (offer.next command answer).announced = some intentId) :
    (offer.next command answer).drafted = some intentId := by
  cases command with
  | redis issued =>
    cases answer with
    | error failure => cases issued <;> exact pending _ announced
    | ok reply =>
      cases issued with
      | rpush key values =>
        rcases Option.or_eq_some_iff.mp announced with now | ⟨_, earlier⟩
        · exact (Option.filter_eq_some_iff.mp now).1
        · exact pending _ earlier
      | brpoplpush source destination => cases reply <;> exact pending _ announced
      | _ => exact pending _ announced
  | database issued =>
    cases issued with
    | addIntent row =>
      have unannounced : offer.announced = none := allowed
      cases answer with
      | error failure => exact pending _ announced
      | ok reply => exact nomatch unannounced.symm.trans announced
    | flush =>
      have unannounced : offer.announced = none := allowed
      cases answer with
      | error failure => exact nomatch unannounced.symm.trans announced
      | ok reply => exact pending _ announced
    | commit => cases announced
    | _ => cases answer <;> exact pending _ announced
  | _ => cases answer <;> exact pending _ announced

theorem Offer.seen_of_consumes {answer : Except Failure command.Reply}
    (taken : consumes intentId command answer) : intentId ∈ (offer.next command answer).seen := by
  cases command with
  | redis issued =>
    cases issued with
    | brpoplpush source destination =>
      cases answer with
      | error failure => exact taken.elim
      | ok reply =>
        cases reply with
        | none => exact taken.elim
        | some raw =>
          have names : raw.names source = some intentId := taken
          exact List.mem_append_right _ (by simp [names])
    | _ => exact taken.elim
  | _ => exact taken.elim

theorem Offer.drafted_pending {session : Session}
    (held : ∀ other, offer.drafted = some other → ∃ row ∈ session.newIntents, row.intentId = other)
    (allowed : offer.allows command) (answer : Except Failure command.Reply)
    (drafted : (offer.next command answer).drafted = some intentId) :
    ∃ row ∈ (session.after command answer).newIntents, row.intentId = intentId := by
  cases command with
  | redis issued =>
    cases answer with
    | error failure => cases issued <;> exact held _ drafted
    | ok reply =>
      cases issued with
      | brpoplpush source destination => cases reply <;> exact held _ drafted
      | _ => exact held _ drafted
  | database issued =>
    cases issued with
    | addIntent row =>
      cases answer with
      | error failure => exact held _ drafted
      | ok reply => exact ⟨row, List.mem_append_right _ (List.mem_singleton_self _),
          Option.some.inj drafted⟩
    | flush =>
      cases answer with
      | error failure => cases drafted
      | ok reply => exact held _ drafted
    | commit => cases drafted
    | rollback => exact allowed.elim
    | _ => cases answer <;> exact held _ drafted
  | _ => cases answer <;> exact held _ drafted

theorem World.perform_commit {world : World} {thread : Thread} {oracle : Oracle}
    {database : Database} (fine : oracle.fault = none)
    (accepted : world.database.commit (world.sessions thread) = .ok database) :
    (world.perform thread oracle (.database .commit)).1.database = database := by
  simp [World.perform, fine, World.performDatabase, accepted]

theorem Database.Holds.perform {world : World} (held : world.database.Holds intentId)
    (thread : Thread) (oracle : Oracle) (command : Command) :
    (world.perform thread oracle command).1.database.Holds intentId := by
  obtain ⟨row, inside, same⟩ := held
  rcases world.perform_database thread oracle command with unchanged | ⟨_, committed⟩
  · exact unchanged ▸ ⟨row, inside, same⟩
  · refine ⟨row, ?_, same⟩
    rw [(Database.commit_ok committed).2.2.1]
    exact List.mem_append_left _ inside

theorem World.finds {world : World} (held : world.database.Holds intentId) (thread : Thread)
    (oracle : Oracle) : ¬misses (.database (.findIntent intentId))
      (world.perform thread oracle (.database (.findIntent intentId))).2 := by
  obtain ⟨row, inside, same⟩ := held
  have present : (world.database.findIntent intentId).isSome = true :=
    List.find?_isSome.mpr ⟨row, inside, by simpa using same⟩
  obtain ⟨found, isFound⟩ := Option.isSome_iff_exists.mp present
  unfold World.perform
  cases oracle.fault with
  | some failure => exact id
  | none =>
    simp only [World.performDatabase, World.query]
    split
    · exact id
    · simp only [isFound]
      exact id

variable {view : View services World Task Offer} {thread : Thread} {oracle : Oracle}

theorem Promised.known (promised : Promised view) (allowed : (view.phases thread).allows command)
    (permitted : visible.runs view thread oracle command)
    (known : Known view.world.database view.phases intentId) :
    Known (view.world.perform thread oracle command).1.database
      (Function.update view.phases thread ((view.phases thread).next command
        (view.world.perform thread oracle command).2)) intentId := by
  rcases known with held | ⟨holder, announced⟩
  · exact .inl (held.perform thread oracle command)
  · by_cases same : holder = thread
    · subst same
      have drafted := promised.announced holder intentId announced
      by_cases commits : command = .database .commit
      · subst commits
        have pledged : (view.phases holder).announced ≠ none := by
          rw [announced]
          exact Option.some_ne_none intentId
        obtain ⟨fine, database, accepted⟩ := permitted.2 rfl pledged
        obtain ⟨row, pending, named⟩ := promised.drafted holder intentId drafted
        refine .inl ⟨row, ?_, named⟩
        rw [World.perform_commit fine accepted, (Database.commit_ok accepted).2.2.1]
        exact List.mem_append_right _ pending
      · refine .inr ⟨holder, ?_⟩
        rw [Function.update_self]
        exact Offer.next_announced drafted announced allowed commits _
    · exact .inr ⟨holder, by rw [Function.update_of_ne same]; exact announced⟩

theorem Promised.pushed (promised : Promised view) {key : String} {values : List Raw} {raw : Raw}
    (allowed : (view.phases thread).allows (.redis (.rpush key values))) (inside : raw ∈ values)
    (names : raw.names key = some intentId) (reply : Nat) :
    Known view.world.database (Function.update view.phases thread
      ((view.phases thread).next (.redis (.rpush key values)) (.ok reply))) intentId := by
  rcases allowed raw inside intentId names with seen | drafted
  · rcases promised.seen thread intentId seen with held | ⟨holder, announced⟩
    · exact .inl held
    · refine .inr ⟨holder, ?_⟩
      by_cases same : holder = thread
      · subst same
        rw [Function.update_self]
        exact Offer.next_announced (promised.announced holder intentId announced) announced allowed
          (by simp) (.ok reply)
      · rw [Function.update_of_ne same]
        exact announced
  · refine .inr ⟨thread, ?_⟩
    have named : (values.any fun raw => decide (raw.names key = some intentId)) = true :=
      List.any_eq_true.mpr ⟨raw, inside, by simpa using names⟩
    rw [Function.update_self]
    simp only [Offer.next, drafted, Option.filter, named]
    rfl

theorem Offer.seen_of_next {redis : Redis.Store Raw} {issued : Redis.Command Raw}
    (allowed : offer.allows (.redis issued))
    (seen : intentId ∈ (offer.next (.redis issued) (.ok (redis.perform issued).2)).seen) :
    intentId ∈ offer.seen ∨ ∃ key, ∃ raw ∈ redis.lists key, raw.names key = some intentId := by
  cases issued with
  | brpoplpush source destination =>
    obtain ⟨rfl, workerName, rfl⟩ := allowed
    have performed : redis.perform (.brpoplpush (streamKey submissionRequested)
        (processingKey submissionRequested workerName)) = redis.popPush _ _ := rfl
    rcases redis.popPush_cases (processingKey_ne_stream submissionRequested workerName).symm with
      ⟨_, popped⟩ | ⟨front, value, filled, popped⟩
    · rw [performed, popped] at seen
      exact .inl seen
    · rw [performed, popped] at seen
      rcases List.mem_append.mp seen with earlier | now
      · exact .inl earlier
      · refine .inr ⟨_, value, ?_, by simpa using now⟩
        rw [filled]
        exact List.mem_append_right _ (List.mem_singleton_self value)
  | lrange key start stop =>
    rcases List.mem_append.mp seen with earlier | now
    · exact .inl earlier
    · obtain ⟨raw, inside, names⟩ := List.mem_filterMap.mp now
      exact .inr ⟨key, raw, Redis.mem_of_segment inside, names⟩
  | _ => exact .inl seen

theorem World.perform_sees (world : World) (thread : Thread) (oracle : Oracle) (command : Command) :
    (∃ issued, command = .redis issued ∧ oracle.fault = none) ∨
      ∀ offer : Offer, (offer.next command (world.perform thread oracle command).2).seen =
        offer.seen := by
  cases command with
  | redis issued =>
    cases fault : oracle.fault with
    | none => exact .inl ⟨issued, rfl, rfl⟩
    | some failure =>
      refine .inr fun offer => ?_
      rw [world.perform_store_raised fault]
      cases issued <;> rfl
  | database issued =>
    refine .inr fun offer => ?_
    cases issued <;> cases (world.perform thread oracle (.database _)).2 <;> rfl
  | _ => exact .inr fun offer => rfl

section Performing

variable (promised : Promised view) (allowed : (view.phases thread).allows command)
  (permitted : visible.runs view thread oracle command)

include promised allowed permitted

theorem Promised.perform_listed {key : String} {raw : Raw}
    (inside : raw ∈ (view.world.perform thread oracle command).1.redis.lists key)
    (names : raw.names key = some intentId) :
    Known (view.world.perform thread oracle command).1.database
      (Function.update view.phases thread ((view.phases thread).next command
        (view.world.perform thread oracle command).2)) intentId := by
  have earlier : raw ∈ view.world.redis.lists key → _ := fun listed =>
    promised.known allowed permitted (promised.listed key raw listed intentId names)
  rcases view.world.perform_redis thread oracle command with same | ⟨issued, rfl, fine, performed⟩
  · exact earlier (same ▸ inside)
  · rw [performed] at inside
    rcases Redis.Store.mem_of_perform inside with
      listed | ⟨values, rfl, pushed⟩ | ⟨source, rfl, _⟩
    · exact earlier listed
    · rw [view.world.perform_store fine]
      exact promised.pushed allowed pushed names _
    · obtain ⟨_, workerName, rfl⟩ := allowed
      have elsewhere : processingKey submissionRequested workerName ≠ runtimeRetryQueue := by
        rw [processingKey_eq]
        exact streamKey_ne_retry _
      rw [names_elsewhere (processingKey_ne_stream _ _) elsewhere] at names
      cases names

theorem Promised.perform_seen (seen : intentId ∈
      ((view.phases thread).next command (view.world.perform thread oracle command).2).seen) :
    Known (view.world.perform thread oracle command).1.database
      (Function.update view.phases thread ((view.phases thread).next command
        (view.world.perform thread oracle command).2)) intentId := by
  apply promised.known allowed permitted
  rcases view.world.perform_sees thread oracle command with ⟨issued, rfl, fine⟩ | unchanged
  · rw [view.world.perform_store fine] at seen
    rcases Offer.seen_of_next allowed seen with earlier | ⟨key, raw, listed, names⟩
    · exact promised.seen thread intentId earlier
    · exact promised.listed key raw listed intentId names
  · exact promised.seen thread intentId (unchanged _ ▸ seen)

theorem Promised.perform_found :
    ¬misses command (view.world.perform thread oracle command).2 := by
  cases command with
  | database issued =>
    cases issued with
    | findIntent intentId =>
      have committed : view.world.database.Holds intentId := by
        rcases promised.seen thread intentId allowed with held | ⟨holder, announced⟩
        · exact held
        · exact absurd announced (permitted.1 intentId rfl holder)
      exact World.finds committed thread oracle
    | _ => exact id
  | _ => exact id

variable {hashing : Hashing IntentPayload}

/-- Any command keeps the promises. -/
theorem Promised.perform :
    Promised (view.perform (runtime hashing).toService announcing thread oracle command) := by
  constructor
  · intro key raw inside intentId names
    exact promised.perform_listed allowed permitted inside names
  · intro other intentId seen
    by_cases same : other = thread
    · subst same
      apply promised.perform_seen allowed permitted
      simpa [View.perform] using seen
    · apply promised.known allowed permitted
      apply promised.seen other
      simpa [View.perform, same] using seen
  · intro other intentId drafted
    by_cases same : other = thread
    · subst same
      simp only [View.perform, runtime_perform, announcing_next, Function.update_self]
        at drafted ⊢
      rw [World.perform_session]
      exact Offer.drafted_pending (promised.drafted other) allowed _ drafted
    · simp only [View.perform, runtime_perform, Function.update_of_ne same] at drafted ⊢
      rw [World.perform_other _ _ _ same]
      exact promised.drafted other intentId drafted
  · intro other intentId announced
    by_cases same : other = thread
    · subst same
      simp only [View.perform, runtime_perform, announcing_next, Function.update_self]
        at announced ⊢
      exact Offer.announced_drafted (promised.announced other) allowed _ announced
    · simp only [View.perform, Function.update_of_ne same] at announced ⊢
      exact promised.announced other intentId announced
  · intro entry inside
    rcases List.mem_append.mp inside with earlier | now
    · exact promised.found entry earlier
    · rw [List.mem_singleton.mp now]
      exact promised.perform_found allowed permitted
  · rintro intentId ⟨entry, inside, taken⟩
    rcases List.mem_append.mp inside with earlier | now
    · exact promised.known allowed permitted (promised.consumed intentId ⟨entry, earlier, taken⟩)
    · rw [List.mem_singleton.mp now] at taken
      exact promised.perform_seen allowed permitted (Offer.seen_of_consumes taken)
  · exact promised.asked

end Performing

theorem Promised.renew (promised : Promised view)
    (settled : (view.phases thread).announced = none) {started : List Task}
    (asked : ∀ task ∈ started, task.submits) :
    Promised ⟨view.world.putSession thread .fresh, Function.update view.phases thread .empty,
      started, view.trace⟩ := by
  have known : ∀ intentId, Known view.world.database view.phases intentId →
      Known view.world.database (Function.update view.phases thread .empty) intentId := by
    rintro intentId (held | ⟨holder, announced⟩)
    · exact .inl held
    · refine .inr ⟨holder, ?_⟩
      have different : holder ≠ thread := by
        rintro rfl
        rw [settled] at announced
        cases announced
      rw [Function.update_of_ne different]
      exact announced
  constructor
  · intro key raw inside intentId names
    exact known intentId (promised.listed key raw inside intentId names)
  · intro other intentId seen
    by_cases same : other = thread
    · subst same
      simp [Offer.empty] at seen
    · simp only [Function.update_of_ne same] at seen
      exact known intentId (promised.seen other intentId seen)
  · intro other intentId drafted
    by_cases same : other = thread
    · subst same
      simp [Offer.empty] at drafted
    · simp only [Function.update_of_ne same, World.putSession_sessions] at drafted ⊢
      exact promised.drafted other intentId drafted
  · intro other intentId announced
    by_cases same : other = thread
    · subst same
      simp [Offer.empty] at announced
    · simp only [Function.update_of_ne same] at announced ⊢
      exact promised.announced other intentId announced
  · exact promised.found
  · exact fun intentId taken => known intentId (promised.consumed intentId taken)
  · exact asked

theorem promised_step (view next : View services World Task Offer) (promised : Promised view)
    (step : View.Step (runtime hashing) announcing visible Offer.Settled (fun _ _ => True)
      view next) : Promised next := by
  cases step with
  | started thread task isIdle permitted =>
    have settled : (view.phases thread).announced = none := by
      rw [isIdle]
      rfl
    apply promised.renew settled
    intro other inside
    rcases List.mem_append.mp inside with earlier | isTask
    · exact promised.asked other earlier
    · exact List.mem_singleton.mp isTask ▸ permitted
  | performed thread oracle command allowed permitted => exact promised.perform allowed permitted
  | returned thread ended => exact promised.renew ended promised.asked
  | raised thread failure ended permitted | crashed thread permitted =>
    exact promised.renew permitted promised.asked

end Invariant

section Runs

variable {hashing : Hashing IntentPayload}

theorem announcing_governs :
    Governs (runtime hashing) announcing visible Offer.Settled (fun _ _ => True) := by
  constructor
  · exact fun _ _ _ _ => trivial
  · intro view thread task submits
    cases task with
    | dispatch strategyId correlationId decision context =>
      exact Program.follows_then
        (dispatchDecisionResult_offers hashing _ _ _ _) (fun _ _ settled => settled)
        (fun _ _ _ => trivial)
    | workerPass workerName =>
      exact Program.follows_then
        (processSubmissionEventOnce_offers hashing workerName) (fun _ _ settled => settled)
        (fun _ _ _ => trivial)
    | _ => exact submits.elim

/-- In a run of dispatchers and workers in which no worker looks an intent up between its
announcement and its commit, every announced intent is committed, and no event is dropped
between two lists: every published event is processed, queued, in the hands of a running
task or in the quarantine list; and an event is consumed only for an intent that is
committed or whose dispatch is about to commit it. -/
theorem visible_runs_agree {redis : Redis.Store Raw} {database : Database}
    {accepted : List Order} {labels : List (Label Oracle Task)} {after : RuntimeMachine}
    (queued : ∀ key, ∀ raw ∈ redis.lists key, ∀ intentId, raw.names key = some intentId →
      database.Holds intentId)
    (run : Run (runtime hashing)
      (fun machine label => sound.Permits (runtime hashing) keeping machine label ∧
        visible.Permits (runtime hashing) announcing machine label)
      (Machine.atRest (World.boot redis database accepted)) labels after) :
    (∀ eventId, Published after.trace eventId →
      eventId ∈ after.world.redis.sets processedEventsSet ∨
        (∃ key, key ≠ runtimeQuarantineQueue ∧
          ∃ raw ∈ after.world.redis.lists key, raw.keeps key = some eventId) ∨
        (∃ thread running, after.threads thread = some running ∧
          (eventId ∈ (keeping.phaseOf (some running)).hands ∨
            eventId ∈ (keeping.phaseOf (some running)).restoring)) ∨
        ∃ raw ∈ after.world.redis.lists runtimeQuarantineQueue,
          raw.keeps runtimeQuarantineQueue = some eventId) ∧
      (∀ entry ∈ after.trace, ¬misses entry.2.1 entry.2.2) ∧
      ∀ intentId, Consumed after.trace intentId → after.world.database.Holds intentId ∨
        ∃ thread running, after.threads thread = some running ∧
          (announcing.phaseOf (some running)).announced = some intentId := by
  have promised : Promised (after.view announcing) := by
    apply (run.mono fun _ _ permitted => permitted.2).invariant announcing_governs Promised
      promised_step (Machine.atRest_conforms _)
    constructor
    · exact fun key raw inside intentId names => .inl (queued key raw inside intentId names)
    · exact fun _ intentId seen => nomatch seen
    · exact fun _ intentId drafted => nomatch drafted
    · exact fun _ intentId announced => nomatch announced
    · exact fun entry inside => nomatch inside
    · rintro intentId ⟨entry, inside, _⟩
      cases inside
    · exact fun task inside => nomatch inside
  refine ⟨fun eventId published => ?_, promised.found, fun intentId taken => ?_⟩
  · rcases sound_runs_lose_nothing (run.mono fun _ _ permitted => permitted.1) eventId published
      with processed | removed | ⟨key, listed⟩ | held
    · exact .inl processed
    · rcases removed with removed | dismissed
      · exact (promised.asked _ removed).elim
      · exact (promised.asked _ dismissed).elim
    · by_cases quarantined : key = runtimeQuarantineQueue
      · exact .inr (.inr (.inr (quarantined ▸ listed)))
      · exact .inr (.inl ⟨key, quarantined, listed⟩)
    · exact .inr (.inr (.inl held))
  · rcases promised.consumed intentId taken with held | ⟨thread, announced⟩
    · exact .inl held
    · refine .inr ?_
      have phase : (after.view announcing).phases thread =
          announcing.phaseOf (after.threads thread) := rfl
      rw [phase] at announced
      cases found : after.threads thread with
      | none =>
        rw [found] at announced
        cases announced
      | some running => exact ⟨thread, running, found, found ▸ announced⟩

/-- No lookup comes before a commit, and every commit succeeds. -/
def commitsFirst (machine : RuntimeMachine) : Label Oracle Task → Bool
  | .start _ task =>
      (match task with
        | .dispatch _ _ _ _ => true
        | .workerPass _ => true
        | _ => false) && !(code sampleHashing task).hasRaised
  | .run thread oracle =>
      settlesEvents machine (.run thread oracle) &&
        match machine.threads thread with
        | none => true
        | some running =>
            match running.command with
            | .database (.findIntent _) =>
                (announcing.phaseOf (machine.threads thread)).announced.isNone
            | .database .commit => oracle.fault.isNone &&
                match machine.world.database.commit (machine.world.sessions thread) with
                | .ok _ => true
                | .error _ => false
            | _ => true
  | .crash _ => false

theorem commitsFirst_permitted (machine : RuntimeMachine) (label : Label Oracle Task)
    (lone : machine.Lone 0) (own : label.thread = 0)
    (tested : commitsFirst machine label = true) :
    sound.Permits (runtime sampleHashing) keeping machine label ∧
      visible.Permits (runtime sampleHashing) announcing machine label := by
  cases label with
  | start thread task =>
    simp only [commitsFirst, Bool.and_eq_true, Bool.not_eq_true'] at tested
    obtain ⟨kind, fine⟩ := tested
    have unraised : ∀ failure, (runtime sampleHashing).code task ≠ .fail failure := by
      intro failure raises
      have raises : code sampleHashing task = .fail failure := raises
      rw [raises] at fine
      cases fine
    cases task with
    | dispatch | workerPass =>
      exact ⟨⟨trivial, fun failure raises => absurd raises (unraised failure)⟩,
        trivial, fun failure raises => absurd raises (unraised failure)⟩
    | _ => cases kind
  | run thread oracle =>
    simp only [commitsFirst, Bool.and_eq_true] at tested
    obtain ⟨settles, commits⟩ := tested
    have permitted := settlesEvents_sound machine _ lone own settles
    refine ⟨permitted, fun running found => ⟨⟨?_, ?_⟩, ?_⟩⟩
    · rintro intentId looks other announced
      rw [found] at commits
      simp only [looks] at commits
      by_cases same : other = thread
      · have phase : (machine.view announcing).phases other =
            announcing.phaseOf (some running) := by
          rw [same, ← found]
          rfl
        rw [phase] at announced
        rw [announced] at commits
        cases commits
      · have idle : machine.threads other = none := by
          apply lone
          rw [← own]
          exact same
        simp [Machine.view, idle, Protocol.phaseOf, Offer.empty] at announced
    · rintro asks _
      rw [found] at commits
      simp only [asks, Bool.and_eq_true, Option.isNone_iff_eq_none] at commits
      refine ⟨commits.1, ?_⟩
      have accepted := commits.2
      split at accepted
      · rename_i database isOk
        exact ⟨database, isOk⟩
      · cases accepted
    · intro failure raises
      have unraised := settles
      simp only [settlesEvents, found, Bool.and_eq_true, Bool.not_eq_true'] at unraised
      have raises : running.next (machine.world.perform thread oracle running.command).2 =
          .fail failure := raises
      have fine := unraised.2.2
      rw [raises] at fine
      cases fine
  | crash thread => cases tested

def sampleDecision : DecisionResult :=
  ⟨"BUY", "version", some 1, "{}", "decision", "context", [], "{}"⟩

def sampleContext : ContextPayload := ⟨none, some "user", "BTCUSDT", "{}"⟩

def sampleDispatch (count : Nat) : List (Label Oracle Task) :=
  .start 0 (.dispatch "strategy" "correlation" sampleDecision sampleContext) ::
    runs 0 count { steady with uuid := "dispatched" }

def takes (intentId : String) : (command : Command) → Except Failure command.Reply → Bool
  | .redis (.brpoplpush source _), .ok (some raw) => raw.names source = some intentId
  | _, _ => false

theorem consumed_of_takes {trace : List (Thread × services.Event)} {intentId : String}
    (taken : (trace.any fun entry => takes intentId entry.2.1 entry.2.2) = true) :
    Consumed trace intentId := by
  obtain ⟨⟨thread, command, answer⟩, inside, taken⟩ := List.any_eq_true.mp taken
  refine ⟨_, inside, ?_⟩
  cases command with
  | redis issued =>
    cases issued with
    | brpoplpush source destination =>
      cases answer with
      | error failure => cases taken
      | ok reply =>
        cases reply with
        | none => cases taken
        | some raw =>
          have names : raw.names source = some intentId := by simpa [takes] using taken
          exact names
    | _ => cases answer <;> cases taken
  | _ => cases taken

/-- A dispatch and then a pass: the event is consumed, its intent is committed, and the
event is processed. -/
theorem visible_runs_agree_processed :
    ∃ after : RuntimeMachine,
      Machine.steps (runtime sampleHashing)
        (sampleDispatch 28 ++ .start 0 (.workerPass "worker") :: runs 0 40 steady)
        (Machine.atRest (World.boot emptyRedis noIntents [])) = some after ∧
      (∀ thread, after.threads thread = none) ∧ Published after.trace "dispatched-21" ∧
      Consumed after.trace "dispatched-11" ∧
      "dispatched-21" ∈ after.world.redis.sets processedEventsSet ∧
      (∀ entry ∈ after.trace, ¬misses entry.2.1 entry.2.2) ∧
      after.world.database.Holds "dispatched-11" := by
  have evaluated : (Machine.stepsIf (runtime sampleHashing) commitsFirst
      (sampleDispatch 28 ++ .start 0 (.workerPass "worker") :: runs 0 40 steady)
      (Machine.atRest (World.boot emptyRedis noIntents []))).map (fun machine =>
        ((machine.threads 0).isNone,
          machine.trace.any fun entry => announces "dispatched-21" entry.2.1 entry.2.2,
          machine.trace.any fun entry => takes "dispatched-11" entry.2.1 entry.2.2,
          machine.world.redis.sets processedEventsSet)) =
      some (true, true, true, ["dispatched-21"]) := by
    decide +kernel
  obtain ⟨after, stepped, seen⟩ := Option.map_eq_some_iff.mp evaluated
  simp only [Prod.mk.injEq, Option.isNone_iff_eq_none] at seen
  obtain ⟨ended, announced, taken, processed⟩ := seen
  have lone : (Machine.atRest (World.boot emptyRedis noIntents []) : RuntimeMachine).Lone 0 :=
    fun _ _ => rfl
  have steps := Machine.steps_of_stepsIf _ stepped
  have idle := (Machine.lone_steps lone (by decide) steps).idle ended
  obtain ⟨_, found, committed⟩ := visible_runs_agree
    (fun _ _ inside => absurd inside List.not_mem_nil)
    (Run.of_stepsIf 0 commitsFirst_permitted lone (by decide) stepped)
  have consumed := consumed_of_takes taken
  refine ⟨after, steps, idle, published_of_announces announced, consumed,
    by simp [processed], found, ?_⟩
  rcases committed "dispatched-11" consumed with held | ⟨thread, running, busy, _⟩
  · exact held
  · rw [idle thread] at busy
    cases busy

/-- A pass comes between the publication and the commit: it finds no row and puts the event
into quarantine, and then the row is committed. -/
def earlyPass : List (Label Oracle Task) :=
  sampleDispatch 27 ++ .start 1 (.workerPass "worker") ::
    runs 1 16 { steady with uuid := "failed" } ++ runs 0 1 steady

/-- The commit fails after the publication: the dispatch stops, and a pass consumes the
event of an intent that no one commits. -/
def orphanPass : List (Label Oracle Task) :=
  sampleDispatch 27 ++ runs 0 1 { steady with fault := some (.other "connection") } ++
    .start 0 (.workerPass "worker") :: runs 0 16 { steady with uuid := "failed" }

def quarantinesEarly : List Raw → Bool
  | [.quarantine entry] => entry.errorMessage = "intent_missing" ∧
      entry.reasonCode = "intent_state_violation" ∧ entry.envelope.eventId = some "dispatched-21"
  | _ => false

theorem pass_before_commit_quarantines :
    (∃ after : RuntimeMachine,
      Machine.steps (runtime sampleHashing) earlyPass
        (Machine.atRest (World.boot emptyRedis noIntents [])) = some after ∧
      Published after.trace "dispatched-21" ∧ Consumed after.trace "dispatched-11" ∧
      after.world.database.Holds "dispatched-11" ∧
      after.world.redis.sets processedEventsSet = [] ∧
      after.world.redis.lists (streamKey submissionRequested) = [] ∧
      after.world.redis.lists runtimeRetryQueue = [] ∧
      ∃ entry, after.world.redis.lists runtimeQuarantineQueue = [.quarantine entry] ∧
        entry.errorMessage = "intent_missing" ∧ entry.reasonCode = "intent_state_violation" ∧
        entry.envelope.eventId = some "dispatched-21") ∧
    ∃ after : RuntimeMachine,
      Machine.steps (runtime sampleHashing) orphanPass
        (Machine.atRest (World.boot emptyRedis noIntents [])) = some after ∧
      Consumed after.trace "dispatched-11" ∧ ¬after.world.database.Holds "dispatched-11" ∧
      ∀ thread, after.threads thread = none := by
  constructor
  · have evaluated : (Machine.steps (runtime sampleHashing) earlyPass
        (Machine.atRest (World.boot emptyRedis noIntents []))).map (fun machine =>
          (machine.trace.any (fun entry => announces "dispatched-21" entry.2.1 entry.2.2) &&
              machine.trace.any fun entry => takes "dispatched-11" entry.2.1 entry.2.2,
            machine.world.database.intents.any fun row => row.intentId = "dispatched-11",
            (machine.world.redis.sets processedEventsSet).isEmpty &&
              (machine.world.redis.lists (streamKey submissionRequested)).isEmpty &&
                (machine.world.redis.lists runtimeRetryQueue).isEmpty,
            quarantinesEarly (machine.world.redis.lists runtimeQuarantineQueue))) =
        some (true, true, true, true) := by
      decide +kernel
    obtain ⟨after, stepped, seen⟩ := Option.map_eq_some_iff.mp evaluated
    simp only [Prod.mk.injEq, Bool.and_eq_true, List.isEmpty_iff] at seen
    obtain ⟨⟨announced, taken⟩, held, ⟨⟨marks, source⟩, retries⟩, quarantined⟩ := seen
    obtain ⟨row, inside, named⟩ := List.any_eq_true.mp held
    have entered : ∃ entry,
        after.world.redis.lists runtimeQuarantineQueue = [.quarantine entry] ∧
          entry.errorMessage = "intent_missing" ∧ entry.reasonCode = "intent_state_violation" ∧
          entry.envelope.eventId = some "dispatched-21" := by
      unfold quarantinesEarly at quarantined
      split at quarantined
      · rename_i entry isEntry
        exact ⟨entry, isEntry, of_decide_eq_true quarantined⟩
      · cases quarantined
    exact ⟨after, stepped, published_of_announces announced, consumed_of_takes taken,
      ⟨row, inside, of_decide_eq_true named⟩, marks, source, retries, entered⟩
  · have evaluated : (Machine.steps (runtime sampleHashing) orphanPass
        (Machine.atRest (World.boot emptyRedis noIntents []))).map (fun machine =>
          ((machine.threads 0).isNone,
            machine.trace.any fun entry => takes "dispatched-11" entry.2.1 entry.2.2,
            machine.world.database.intents)) = some (true, true, []) := by
      decide +kernel
    obtain ⟨after, stepped, seen⟩ := Option.map_eq_some_iff.mp evaluated
    simp only [Prod.mk.injEq, Option.isNone_iff_eq_none] at seen
    obtain ⟨ended, taken, nothing⟩ := seen
    have lone : after.Lone 0 := Machine.lone_steps (fun _ _ => rfl) (by decide) stepped
    refine ⟨after, stepped, consumed_of_takes taken, ?_, lone.idle ended⟩
    rintro ⟨row, inside, _⟩
    rw [nothing] at inside
    cases inside

end Runs

end Runtime
