import CoinRobotu.Runtime.Retention

/-!
# No published event is lost

An event that was published stands in a list or in the hands of a running task until it
was processed or an operator removed it.
-/

open Interleaving

namespace Runtime

section Places

/-- The event was processed, an operator removed it, it stands in a list, or a task has
it in its hands. Where `quarantined` fails the quarantine list does not count, nor what
is written back to it. -/
def Kept (quarantined : Prop) (redis : Redis.Store Raw) (started : List Task)
    (phases : Thread → Hold) (eventId : String) : Prop :=
  eventId ∈ redis.sets processedEventsSet ∨ Removed started eventId ∨
    (∃ key, (key = runtimeQuarantineQueue → quarantined) ∧
      ∃ raw ∈ redis.lists key, raw.keeps key = some eventId) ∨
    ∃ thread, eventId ∈ (phases thread).hands ∨
      quarantined ∧ eventId ∈ (phases thread).restoring

variable {quarantined : Prop} {redis later : Redis.Store Raw} {started : List Task}
  {phases : Thread → Hold} {thread : Thread} {hold : Hold} {eventId : String}

theorem Kept.weaken (kept : Kept False redis started phases eventId) :
    Kept quarantined redis started phases eventId := by
  rcases kept with processed | removed | ⟨key, other, listed⟩ | ⟨holder, held | impossible⟩
  · exact .inl processed
  · exact .inr (.inl removed)
  · exact .inr (.inr (.inl ⟨key, fun isQuarantine => (other isQuarantine).elim, listed⟩))
  · exact .inr (.inr (.inr ⟨holder, .inl held⟩))
  · exact impossible.1.elim

theorem Kept.listed {key : String} {raw : Raw} (counts : key = runtimeQuarantineQueue → quarantined)
    (inside : raw ∈ redis.lists key) (keeps : raw.keeps key = some eventId) :
    Kept quarantined redis started phases eventId :=
  .inr (.inr (.inl ⟨key, counts, raw, inside, keeps⟩))

theorem Kept.held (held : eventId ∈ hold.hands) :
    Kept quarantined redis started (Function.update phases thread hold) eventId :=
  .inr (.inr (.inr ⟨thread, .inl (by rw [Function.update_self]; exact held)⟩))

theorem Kept.restored (counts : quarantined) (held : eventId ∈ hold.restoring) :
    Kept quarantined redis started (Function.update phases thread hold) eventId :=
  .inr (.inr (.inr ⟨thread, .inr ⟨counts, by rw [Function.update_self]; exact held⟩⟩))

variable (kept : Kept quarantined redis started phases eventId)
  (processed : eventId ∈ redis.sets processedEventsSet →
  eventId ∈ later.sets processedEventsSet)

include kept processed

/-- What one thread does keeps an event if it keeps the event in each place the thread
can take it from. -/
theorem Kept.transfer
    (lists : ∀ key, (key = runtimeQuarantineQueue → quarantined) → ∀ raw ∈ redis.lists key,
      raw.keeps key = some eventId →
        Kept quarantined later started (Function.update phases thread hold) eventId)
    (hands : eventId ∈ (phases thread).hands →
      Kept quarantined later started (Function.update phases thread hold) eventId)
    (restoring : quarantined → eventId ∈ (phases thread).restoring →
      Kept quarantined later started (Function.update phases thread hold) eventId) :
    Kept quarantined later started (Function.update phases thread hold) eventId := by
  rcases kept with marked | removed | ⟨key, counts, raw, inside, keeps⟩ | ⟨holder, held⟩
  · exact .inl (processed marked)
  · exact .inr (.inl removed)
  · exact lists key counts raw inside keeps
  · by_cases same : holder = thread
    · subst same
      rcases held with held | ⟨counts, held⟩
      · exact hands held
      · exact restoring counts held
    · refine .inr (.inr (.inr ⟨holder, ?_⟩))
      rw [Function.update_of_ne same]
      exact held

theorem Kept.quiet (lists : later.lists = redis.lists) (hands : eventId ∈ (phases thread).hands →
      eventId ∈ later.sets processedEventsSet ∨ eventId ∈ hold.hands)
    (restoring : eventId ∈ (phases thread).restoring →
      eventId ∈ later.sets processedEventsSet ∨ eventId ∈ hold.restoring) :
    Kept quarantined later started (Function.update phases thread hold) eventId := by
  apply kept.transfer processed
  · intro key counts raw inside keeps
    exact Kept.listed counts (by rw [lists]; exact inside) keeps
  · intro inside
    rcases hands inside with marked | held
    · exact .inl marked
    · exact Kept.held held
  · intro counts inside
    rcases restoring inside with marked | held
    · exact .inl marked
    · exact Kept.restored counts held

end Places

section Commands

variable {quarantined : Prop} {redis : Redis.Store Raw} {started : List Task}
  {phases : Thread → Hold} {thread : Thread} {eventId : String}

abbrev KeptAfter (quarantined : Prop) (redis : Redis.Store Raw) (started : List Task)
    (phases : Thread → Hold) (thread : Thread) (command : Redis.Command Raw) (eventId : String) :
    Prop :=
  Kept quarantined (redis.perform command).1 started
    (Function.update phases thread
      ((phases thread).next (.redis command) (.ok (redis.perform command).2))) eventId

theorem Kept.rpush {key : String} {values : List Raw}
    (kept : Kept quarantined redis started phases eventId)
    (counts : eventId ∈ (phases thread).hands → Hold.pushed key values eventId = true →
      key = runtimeQuarantineQueue → quarantined) :
    KeptAfter quarantined redis started phases thread (.rpush key values) eventId := by
  have grown : ∀ raw ∈ values, raw ∈ (redis.perform (.rpush key values)).1.lists key := by
    intro raw inside
    simp [Redis.Store.perform, inside]
  have pushed (counted : key = runtimeQuarantineQueue → quarantined)
      (safe : Hold.pushed key values eventId = true) :
      KeptAfter quarantined redis started phases thread (.rpush key values) eventId := by
    obtain ⟨raw, inside, keeps⟩ := List.any_eq_true.mp safe
    exact Kept.listed counted (grown raw inside) (by simpa using keeps)
  apply kept.transfer
  · exact fun marked => marked
  · intro other counts raw inside keeps
    apply Kept.listed counts _ keeps
    by_cases same : other = key
    · subst same
      simp [Redis.Store.perform, inside]
    · simp [Redis.Store.perform, same, inside]
  · intro held
    by_cases safe : Hold.pushed key values eventId = true
    · exact pushed (counts held safe) safe
    · exact Kept.held (List.mem_filter.mpr ⟨held, by simp [safe]⟩)
  · intro counted held
    by_cases safe : Hold.pushed key values eventId = true
    · exact pushed (fun _ => counted) safe
    · exact Kept.restored counted (List.mem_filter.mpr ⟨held, by simp [safe]⟩)

theorem Kept.brpoplpush {source destination : String}
    (kept : Kept quarantined redis started phases eventId) (different : source ≠ destination) :
    KeptAfter quarantined redis started phases thread (.brpoplpush source destination) eventId := by
  have performed : redis.perform (.brpoplpush source destination) =
      redis.popPush source destination := rfl
  unfold KeptAfter
  rw [performed]
  rcases redis.popPush_cases different with ⟨_, popped⟩ | ⟨front, value, filled, popped⟩
  · rw [popped]
    exact kept.quiet (fun marked => marked) rfl .inr .inr
  · rw [popped]
    apply kept.transfer
    · exact fun marked => marked
    · intro key counts raw inside keeps
      by_cases isSource : key = source
      · subst isSource
        rw [filled] at inside
        rcases List.mem_append.mp inside with inFront | isLast
        · apply Kept.listed counts _ keeps
          simp [Function.update_of_ne different, inFront]
        · apply Kept.held
          rw [List.mem_singleton.mp isLast] at keeps
          exact List.mem_append_right _ (by simp [keeps])
      · apply Kept.listed counts _ keeps
        by_cases isDestination : key = destination
        · subst isDestination
          simp [inside]
        · simp [isSource, isDestination, inside]
    · exact fun held => Kept.held (List.mem_append_left _ held)
    · exact fun counts held => Kept.restored counts held

theorem keeps_processing (workerName : String) (raw : Raw) :
    raw.keeps (processingKey submissionRequested workerName) = none := by
  cases raw with
  | envelope sent =>
    by_cases own : processingKey submissionRequested workerName = streamKey sent.eventType
    · have named : sent.eventType = submissionRequested ++ ":processing:" ++ workerName := by
        rw [processingKey_eq] at own
        exact (streamKey_injective own).symm
      have prefixed : (submissionRequested ++ ":processing:").toList.isPrefixOf
          sent.eventType.toList = true := by
        have split : (submissionRequested ++ ":processing:" ++ workerName).toList =
            (submissionRequested ++ ":processing:").toList ++ workerName.toList :=
          String.toList_append
        rw [named, split, List.isPrefixOf_iff_prefix]
        exact List.prefix_append _ _
      have strange : sent.plain = false := by
        rw [Envelope.plain, prefixed]
        simp
      simp [Raw.keeps, Envelope.tracked, strange]
    · simp [Raw.keeps, own]
  | retry entry =>
    have different : processingKey submissionRequested workerName ≠ runtimeRetryQueue := by
      rw [processingKey_eq]
      exact streamKey_ne_retry _
    simp [Raw.keeps, different]
  | quarantine entry =>
    have different : processingKey submissionRequested workerName ≠ runtimeQuarantineQueue := by
      rw [processingKey_eq]
      exact streamKey_ne_quarantine _
    simp [Raw.keeps, different]
  | text characters => rfl

section Keeping

variable (kept : Kept quarantined redis started phases eventId)

include kept

theorem Kept.lrem {workerName : String} {count : Int} {value : Raw} :
    KeptAfter quarantined redis started phases thread
      (.lrem (processingKey submissionRequested workerName) count value) eventId := by
  apply kept.transfer
  · exact fun marked => marked
  · intro key counts raw inside keeps
    by_cases processing : key = processingKey submissionRequested workerName
    · rw [processing, keeps_processing] at keeps
      cases keeps
    · apply Kept.listed counts _ keeps
      simp [Redis.Store.perform, processing, inside]
  · exact fun held => Kept.held held
  · exact fun counts held => Kept.restored counts held

theorem Kept.ltrim (read : ∀ raw ∈ (redis.lists runtimeRetryQueue).take (phases thread).read.length,
      raw ∈ (phases thread).read) :
    KeptAfter quarantined redis started phases thread
      (.ltrim runtimeRetryQueue (phases thread).read.length (-1)) eventId := by
  have trimmed : (redis.perform (.ltrim runtimeRetryQueue (phases thread).read.length (-1))).1.lists
      runtimeRetryQueue = (redis.lists runtimeRetryQueue).drop (phases thread).read.length := by
    simp [Redis.Store.perform, Redis.segment_to_end]
  apply kept.transfer
  · exact fun marked => marked
  · intro key counts raw inside keeps
    by_cases retries : key = runtimeRetryQueue
    · subst retries
      rw [← List.take_append_drop (phases thread).read.length (redis.lists runtimeRetryQueue)]
        at inside
      rcases List.mem_append.mp inside with dropped | remains
      · apply Kept.held
        exact List.mem_append_right _ (List.mem_filterMap.mpr ⟨raw, read raw dropped, keeps⟩)
      · exact Kept.listed counts (by rw [trimmed]; exact remains) keeps
    · apply Kept.listed counts _ keeps
      simp [Redis.Store.perform, retries, inside]
  · exact fun held => Kept.held (List.mem_append_left _ held)
  · exact fun counts held => Kept.restored counts held

/-- A deletion of a quarantine list that was read takes up all of its events but the one
that is removed, which must be kept elsewhere. -/
theorem Kept.delete
    (read : quarantined → ∀ raw ∈ redis.lists runtimeQuarantineQueue, raw ∈ (phases thread).read)
    (removed : quarantined → some eventId = (phases thread).removing →
      KeptAfter quarantined redis started phases thread (.delete runtimeQuarantineQueue) eventId) :
    KeptAfter quarantined redis started phases thread (.delete runtimeQuarantineQueue) eventId := by
  have marks : processedEventsSet ≠ runtimeQuarantineQueue := by decide
  apply kept.transfer
  · intro marked
    simp [Redis.Store.perform, marks, marked]
  · intro key counts raw inside keeps
    by_cases isQuarantine : key = runtimeQuarantineQueue
    · subst isQuarantine
      by_cases isRemoved : some eventId = (phases thread).removing
      · exact removed (counts rfl) isRemoved
      · apply Kept.restored (counts rfl)
        apply List.mem_append_right
        apply List.mem_filter.mpr
        exact ⟨List.mem_filterMap.mpr ⟨raw, read (counts rfl) raw inside, keeps⟩,
          by simpa using isRemoved⟩
    · apply Kept.listed counts _ keeps
      simp [Redis.Store.perform, isQuarantine, inside]
  · exact fun held => Kept.held held
  · exact fun counts held => Kept.restored counts (List.mem_append_left _ held)

theorem Kept.marked {safe : String → Bool} {later : Redis.Store Raw}
    (lists : later.lists = redis.lists)
    (grown : eventId ∈ redis.sets processedEventsSet → eventId ∈ later.sets processedEventsSet)
    (isMarked : safe eventId = true → eventId ∈ later.sets processedEventsSet) :
    Kept quarantined later started (Function.update phases thread ((phases thread).release safe))
      eventId := by
  apply kept.quiet grown lists
  · intro held
    by_cases isSafe : safe eventId = true
    · exact .inl (isMarked isSafe)
    · exact .inr (List.mem_filter.mpr ⟨held, by simp [isSafe]⟩)
  · intro held
    by_cases isSafe : safe eventId = true
    · exact .inl (isMarked isSafe)
    · exact .inr (List.mem_filter.mpr ⟨held, by simp [isSafe]⟩)

theorem Kept.sismember {key member : String} :
    KeptAfter quarantined redis started phases thread (.sismember key member) eventId := by
  apply kept.marked rfl (fun marked => marked)
  intro found
  simp only [decide_eq_true_eq, Redis.Store.perform] at found
  obtain ⟨rfl, rfl, found⟩ := found
  exact found

theorem Kept.sadd {key member : String} :
    KeptAfter quarantined redis started phases thread (.sadd key member) eventId := by
  have lists : (redis.perform (.sadd key member)).1.lists = redis.lists := rfl
  apply kept.marked lists
  · intro marked
    by_cases same : processedEventsSet = key
    · subst same
      by_cases already : member ∈ redis.sets processedEventsSet <;>
        simp [Redis.Store.perform, already, marked]
    · simp [Redis.Store.perform, same, marked]
  · intro added
    simp only [decide_eq_true_eq] at added
    obtain ⟨rfl, rfl⟩ := added
    by_cases already : member ∈ redis.sets processedEventsSet <;>
      simp [Redis.Store.perform, already]

end Keeping

end Commands

section Invariant

/-- What a run keeps: every published event is kept; an event that a replay counts on is
kept elsewhere than in the quarantine list; and a removal that replays nothing was asked
for. -/
structure Retained (view : View services World Task Hold) : Prop where
  published : ∀ eventId, Published view.trace eventId →
    Kept True view.world.redis view.started view.phases eventId
  replayed : ∀ thread eventId, (view.phases thread).replayed = true →
    (view.phases thread).removing = some eventId →
      Kept False view.world.redis view.started view.phases eventId
  asked : ∀ thread eventId, (view.phases thread).removing = some eventId →
    (view.phases thread).replays = false → Removed view.started eventId

/-- A command either is executed by the store, or it changes neither Redis nor what its
thread holds, and announces nothing. -/
theorem World.perform_holds (world : World) (thread : Thread) (oracle : Oracle)
    (command : Command) :
    (∃ issued, command = .redis issued ∧ oracle.fault = none) ∨
      (world.perform thread oracle command).1.redis = world.redis ∧
        (∀ hold : Hold, hold.next command (world.perform thread oracle command).2 = hold) ∧
        ∀ eventId, ¬publishes eventId command (world.perform thread oracle command).2 := by
  cases fault : oracle.fault with
  | none =>
    cases command with
    | redis issued => exact .inl ⟨issued, rfl, rfl⟩
    | _ =>
      refine .inr ⟨?_, fun hold => rfl, fun eventId announced => announced⟩
      rcases world.perform_redis thread oracle _ with same | ⟨issued, isRedis, _⟩
      · exact same
      · cases isRedis
  | some failure =>
    refine .inr ⟨?_, fun hold => ?_, fun eventId announced => ?_⟩
    · rcases world.perform_redis thread oracle command with same | ⟨issued, _, sound, _⟩
      · exact same
      · rw [fault] at sound
        cases sound
    · cases command with
      | redis issued =>
        rw [world.perform_store_raised fault]
        cases issued <;> rfl
      | _ => rfl
    · cases command with
      | redis issued =>
        rw [world.perform_store_raised fault] at announced
        cases issued <;> exact announced
      | _ => exact announced

theorem Hold.next_removal (hold : Hold) (command : Command)
    (answer : Except Failure command.Reply) :
    (hold.next command answer).removing = hold.removing ∧
      (hold.next command answer).replays = hold.replays := by
  cases command with
  | redis issued =>
    cases answer with
    | error failure => cases issued <;> exact ⟨rfl, rfl⟩
    | ok reply =>
      cases issued with
      | brpoplpush source destination => cases reply <;> exact ⟨rfl, rfl⟩
      | _ => exact ⟨rfl, rfl⟩
  | _ => exact ⟨rfl, rfl⟩

variable {view : View services World Task Hold} {thread : Thread} {oracle : Oracle}

variable {issued : Redis.Command Raw}

variable {eventId : String}

theorem Kept.perform {quarantined : Prop}
    (kept : Kept quarantined view.world.redis view.started view.phases eventId)
    (allowed : (view.phases thread).allows (.redis issued))
    (permitted : sound.runs view thread oracle (.redis issued))
    (pushes : ∀ values, issued = .rpush runtimeQuarantineQueue values →
      eventId ∈ (view.phases thread).hands →
        Hold.pushed runtimeQuarantineQueue values eventId = true → quarantined)
    (removed : quarantined → issued = .delete runtimeQuarantineQueue →
      some eventId = (view.phases thread).removing →
        KeptAfter quarantined view.world.redis view.started view.phases thread issued eventId) :
    KeptAfter quarantined view.world.redis view.started view.phases thread issued eventId := by
  cases issued with
  | incr | lrange => exact kept.quiet (fun marked => marked) rfl .inr .inr
  | rpush key values =>
    apply kept.rpush
    rintro held safe rfl
    exact pushes values rfl held safe
  | brpoplpush source destination =>
    obtain ⟨rfl, workerName, rfl⟩ := allowed
    exact kept.brpoplpush (processingKey_ne_stream _ _).symm
  | lrem key count value =>
    obtain ⟨workerName, rfl⟩ := allowed
    exact kept.lrem
  | ltrim key start stop =>
    obtain ⟨rfl, rfl, rfl⟩ := allowed
    exact kept.ltrim (permitted.1 _ _ rfl)
  | delete key =>
    obtain ⟨rfl, _⟩ := allowed
    exact kept.delete (fun _ => (permitted.2.1 rfl).1) fun counts => removed counts rfl
  | sismember key member => exact kept.sismember
  | sadd key member => exact kept.sadd

theorem Kept.elsewhere {replaying : Thread}
    (kept : Kept False view.world.redis view.started view.phases eventId)
    (isReplayed : (view.phases replaying).replayed = true)
    (removing : (view.phases replaying).removing = some eventId)
    (allowed : (view.phases thread).allows (.redis issued))
    (permitted : sound.runs view thread oracle (.redis issued)) :
    KeptAfter False view.world.redis view.started view.phases thread issued eventId := by
  apply kept.perform allowed permitted
  · rintro values rfl held safe
    exact permitted.2.2 values rfl eventId held safe replaying isReplayed removing
  · exact fun impossible => impossible.elim

/-- A removal that was read deletes no event it must not: a replay has put its event
elsewhere, and any other removal was asked for. -/
theorem Retained.removed (retained : Retained view)
    (allowed : (view.phases thread).allows (.redis (.delete runtimeQuarantineQueue)))
    (permitted : sound.runs view thread oracle (.redis (.delete runtimeQuarantineQueue)))
    (removing : some eventId = (view.phases thread).removing) :
    KeptAfter True view.world.redis view.started view.phases thread
      (.delete runtimeQuarantineQueue) eventId := by
  cases replays : (view.phases thread).replays with
  | true =>
    have isReplayed : (view.phases thread).replayed = true := (permitted.2.1 rfl).2 replays
    have kept := retained.replayed thread eventId isReplayed removing.symm
    exact (kept.elsewhere isReplayed removing.symm allowed permitted).weaken
  | false => exact .inr (.inl (retained.asked thread eventId removing.symm replays))

theorem kept_pushed {quarantined : Prop} {key eventId : String} {values : List Raw}
    {redis : Redis.Store Raw} {started : List Task} {phases : Thread → Hold}
    (counts : key = runtimeQuarantineQueue → quarantined)
    (pushed : Hold.pushed key values eventId = true) :
    Kept quarantined (redis.perform (.rpush key values)).1 started phases eventId := by
  obtain ⟨raw, inside, keeps⟩ := List.any_eq_true.mp pushed
  apply Kept.listed counts _ (by simpa using keeps)
  simp [Redis.Store.perform, inside]

/-- A replay comes to count on another place by a push to that place. -/
theorem Hold.replayed_of_next {hold : Hold} {reply : issued.Reply}
    (removing : hold.removing = some eventId)
    (isReplayed : (hold.next (.redis issued) (.ok reply)).replayed = true) :
    hold.replayed = true ∨ ∃ key values, issued = .rpush key values ∧
      key ≠ runtimeQuarantineQueue ∧ Hold.pushed key values eventId = true := by
  cases issued with
  | rpush key values =>
    simp only [Hold.next, removing, Bool.or_eq_true, Bool.and_eq_true, decide_eq_true_eq,
      Option.any_some] at isReplayed
    rcases isReplayed with earlier | ⟨⟨_, elsewhere⟩, pushed⟩
    · exact .inl earlier
    · exact .inr ⟨key, values, rfl, elsewhere, pushed⟩
  | brpoplpush source destination => cases reply <;> exact .inl isReplayed
  | delete key => cases isReplayed
  | _ => exact .inl isReplayed

/-- A command of the store keeps every event. -/
theorem Retained.perform_store (retained : Retained view)
    (allowed : (view.phases thread).allows (.redis issued))
    (permitted : sound.runs view thread oracle (.redis issued)) :
    Retained ⟨{ view.world with redis := (view.world.redis.perform issued).1 },
      Function.update view.phases thread ((view.phases thread).next (.redis issued)
        (.ok (view.world.redis.perform issued).2)), view.started,
      view.trace ++ [(thread, ⟨.redis issued, .ok (view.world.redis.perform issued).2⟩)]⟩ := by
  have removal := (view.phases thread).next_removal (.redis issued)
    (.ok (view.world.redis.perform issued).2)
  constructor
  · rintro eventId ⟨entry, inside, announced⟩
    rcases List.mem_append.mp inside with earlier | now
    · apply (retained.published eventId ⟨entry, earlier, announced⟩).perform allowed permitted
      · exact fun _ _ _ _ => trivial
      · rintro _ rfl removing
        exact retained.removed allowed permitted removing
    · rw [List.mem_singleton.mp now] at announced
      cases issued with
      | rpush key values =>
        obtain ⟨sent, listed, keeps⟩ := announced
        apply kept_pushed (fun _ => trivial)
        exact List.any_eq_true.mpr ⟨.envelope sent, listed, by simpa using keeps⟩
      | _ => exact announced.elim
  · intro replaying eventId isReplayed removing
    by_cases same : replaying = thread
    · subst same
      simp only [Function.update_self] at isReplayed removing
      rw [removal.1] at removing
      rcases Hold.replayed_of_next removing isReplayed with
        earlier | ⟨key, values, rfl, elsewhere, pushed⟩
      · exact (retained.replayed replaying eventId earlier removing).elsewhere earlier removing
          allowed permitted
      · exact kept_pushed (fun isQuarantine => elsewhere isQuarantine) pushed
    · simp only [Function.update_of_ne same] at isReplayed removing
      exact (retained.replayed replaying eventId isReplayed removing).elsewhere isReplayed removing
        allowed permitted
  · intro other eventId removing replays
    by_cases same : other = thread
    · subst same
      simp only [Function.update_self, removal.1, removal.2] at removing replays
      exact retained.asked other eventId removing replays
    · simp only [Function.update_of_ne same] at removing replays
      exact retained.asked other eventId removing replays

variable {hashing : Hashing IntentPayload}

theorem Retained.perform (retained : Retained view) {command : Command}
    (allowed : (view.phases thread).allows command)
    (permitted : sound.runs view thread oracle command) :
    Retained (view.perform (runtime hashing).toService keeping thread oracle command) := by
  rcases view.world.perform_holds thread oracle command with
    ⟨issued, rfl, fine⟩ | ⟨sameRedis, sameHold, silent⟩
  · rw [View.perform_store hashing keeping view thread fine issued]
    exact retained.perform_store allowed permitted
  · have samePhases : Function.update view.phases thread ((view.phases thread).next command
        (view.world.perform thread oracle command).2) = view.phases := by
      rw [sameHold, Function.update_eq_self]
    constructor
    · rintro eventId ⟨entry, inside, announced⟩
      simp only [View.perform, runtime_perform, keeping_next, samePhases, sameRedis]
      rcases List.mem_append.mp inside with earlier | now
      · exact retained.published eventId ⟨entry, earlier, announced⟩
      · rw [List.mem_singleton.mp now] at announced
        exact (silent eventId announced).elim
    · simp only [View.perform, runtime_perform, keeping_next, samePhases, sameRedis]
      exact retained.replayed
    · simp only [View.perform, runtime_perform, keeping_next, samePhases]
      exact retained.asked

theorem Retained.renew (retained : Retained view) {world : World} {started : List Task}
    {hold : Hold} (free : (view.phases thread).Free) (sameRedis : world.redis = view.world.redis)
    (grown : ∀ eventId, Removed view.started eventId → Removed started eventId)
    (unreplayed : hold.replayed = false)
    (asked : ∀ eventId, hold.removing = some eventId → hold.replays = false →
      Removed started eventId) :
    Retained ⟨world, Function.update view.phases thread hold, started, view.trace⟩ := by
  have kept : ∀ {quarantined : Prop} {eventId : String},
      Kept quarantined view.world.redis view.started view.phases eventId →
      Kept quarantined world.redis started (Function.update view.phases thread hold) eventId := by
    intro quarantined eventId kept
    have wider : Kept quarantined view.world.redis started view.phases eventId :=
      kept.imp_right (Or.imp_left (grown eventId))
    rw [sameRedis]
    apply wider.quiet (fun marked => marked) rfl
    · intro held
      rw [free.1] at held
      cases held
    · intro held
      rw [free.2] at held
      cases held
  constructor
  · exact fun eventId announced => kept (retained.published eventId announced)
  · intro other eventId isReplayed removing
    by_cases same : other = thread
    · subst same
      simp only [Function.update_self, unreplayed] at isReplayed
      cases isReplayed
    · simp only [Function.update_of_ne same] at isReplayed removing
      exact kept (retained.replayed other eventId isReplayed removing)
  · intro other eventId removing replays
    by_cases same : other = thread
    · subst same
      simp only [Function.update_self] at removing replays
      exact asked eventId removing replays
    · simp only [Function.update_of_ne same] at removing replays
      exact grown eventId (retained.asked other eventId removing replays)

theorem Hold.initial_asked (task : Task) (started : List Task)
    (removing : (Hold.initial task).removing = some eventId)
    (replays : (Hold.initial task).replays = false) : Removed (started ++ [task]) eventId := by
  cases task with
  | removeQuarantine asked =>
    cases removing
    exact .inl (List.mem_append_right _ (List.mem_singleton_self _))
  | quarantineAction asked action =>
    cases removing
    have dismissed : action = "dismiss" := by simpa [Hold.initial] using replays
    rw [dismissed]
    exact .inr (List.mem_append_right _ (List.mem_singleton_self _))
  | _ => cases removing

theorem retained_step (view next : View services World Task Hold) (retained : Retained view)
    (step : View.Step (runtime hashing) keeping sound Hold.Free (fun _ _ => True) view next) :
    Retained next := by
  have idle : ∀ {started : List Task} {eventId : String}, Hold.empty.removing = some eventId →
      Hold.empty.replays = false → Removed started eventId := nofun
  cases step with
  | started thread task isIdle permitted =>
    have free : (view.phases thread).Free := by
      rw [isIdle]
      exact ⟨rfl, rfl⟩
    change Retained ⟨view.world.putSession thread .fresh,
      Function.update view.phases thread (Hold.initial task), view.started ++ [task], view.trace⟩
    apply retained.renew free
    · rfl
    · rintro eventId (removed | dismissed)
      · exact .inl (List.mem_append_left _ removed)
      · exact .inr (List.mem_append_left _ dismissed)
    · cases task <;> rfl
    · exact fun eventId => Hold.initial_asked task view.started
  | performed thread oracle command allowed permitted => exact retained.perform allowed permitted
  | returned thread ended =>
    exact retained.renew ended rfl (fun _ removed => removed) rfl fun _ => idle
  | raised thread failure ended permitted | crashed thread permitted =>
    exact retained.renew permitted rfl (fun _ removed => removed) rfl fun _ => idle

end Invariant

section Runs

variable {hashing : Hashing IntentPayload}

/-- A failed event is looked up by its entity. -/
theorem World.answers_asAsked (world : World) (thread : Thread) (oracle : Oracle)
    (command : Command) : answersAsAsked command (world.perform thread oracle command).2 := by
  cases command with
  | database command =>
    cases command with
    | findFailed entityType entityId =>
      simp only [World.perform]
      cases oracle.fault with
      | some failure => trivial
      | none =>
        simp only [World.performDatabase, World.query]
        by_cases broken : (world.sessions thread).broken
        · simp only [broken, if_true]
          trivial
        · simp only [broken]
          cases found : world.database.failed.find? fun row =>
              row.entityType = entityType ∧ row.entityId = entityId with
          | none => trivial
          | some row =>
            have asked := List.find?_some found
            simp only [decide_eq_true_eq] at asked
            exact asked.2
    | _ => trivial
  | _ => trivial

theorem keeping_governs : Governs (runtime hashing) keeping sound Hold.Free (fun _ _ => True) := by
  constructor
  · exact fun thread oracle command world => world.answers_asAsked thread oracle command
  · exact code_keeps hashing

/-- In a run in which no task stops with an event in its hands and no list is trimmed or
deleted beyond what was read, every event that was published is processed, was removed by
an operator, stands in its source queue, in the retry list or in the quarantine list, or
is in the hands of a running task. -/
theorem sound_runs_lose_nothing {redis : Redis.Store Raw} {database : Database}
    {accepted : List Order} {labels : List (Label Oracle Task)} {after : RuntimeMachine}
    (run : Run (runtime hashing) (sound.Permits (runtime hashing) keeping)
      (Machine.atRest (World.boot redis database accepted)) labels after)
    (eventId : String) (published : Published after.trace eventId) :
    eventId ∈ after.world.redis.sets processedEventsSet ∨ Removed after.started eventId ∨
      (∃ key, ∃ raw ∈ after.world.redis.lists key, raw.keeps key = some eventId) ∨
      ∃ thread running, after.threads thread = some running ∧
        (eventId ∈ (keeping.phaseOf (some running)).hands ∨
          eventId ∈ (keeping.phaseOf (some running)).restoring) := by
  have retained : Retained (after.view keeping) := by
    apply run.invariant keeping_governs Retained retained_step (Machine.atRest_conforms _)
    constructor
    · rintro eventId ⟨entry, impossible, _⟩
      cases impossible
    · exact nofun
    · exact nofun
  rcases retained.published eventId published with
    processed | removed | ⟨key, _, listed⟩ | ⟨thread, held⟩
  · exact .inl processed
  · exact .inr (.inl removed)
  · exact .inr (.inr (.inl ⟨key, listed⟩))
  · refine .inr (.inr (.inr ?_))
    have phase : (after.view keeping).phases thread = keeping.phaseOf (after.threads thread) := rfl
    rw [phase] at held
    cases found : after.threads thread with
    | none =>
      rw [found] at held
      rcases held with held | ⟨_, held⟩ <;> cases held
    | some running =>
      rw [found] at held
      exact ⟨thread, running, found, held.imp_right And.right⟩

def Command.changes : Command → List String
  | .redis (.rpush key _) => [key]
  | .redis (.brpoplpush source destination) => [source, destination]
  | .redis (.lrem key _ _) => [key]
  | .redis (.ltrim key _ _) => [key]
  | .redis (.delete key) => [key]
  | _ => []

theorem World.perform_lists (world : World) (thread : Thread) (oracle : Oracle)
    (command : Command) {key : String} (unnamed : key ∉ command.changes) :
    (world.perform thread oracle command).1.redis.lists key = world.redis.lists key := by
  rcases world.perform_redis thread oracle command with same | ⟨issued, rfl, _, same⟩
  · rw [same]
  · rw [same]
    cases issued with
    | brpoplpush source destination =>
      simp only [Command.changes, List.mem_cons, List.not_mem_nil, or_false, not_or] at unnamed
      simp only [Redis.Store.perform, Redis.Store.popPush]
      split <;> simp [unnamed.1, unnamed.2]
    | rpush | lrem | ltrim | delete =>
      simp only [Command.changes, List.mem_cons, List.not_mem_nil, or_false] at unnamed
      simp [Redis.Store.perform, unnamed]
    | _ => rfl

theorem lists_unnamed {permits : RuntimeMachine → Label Oracle Task → Prop}
    {before after : RuntimeMachine} {labels : List (Label Oracle Task)}
    (run : Run (runtime hashing) permits before labels after) {key : String}
    (unnamed : ∀ entry ∈ after.trace, key ∉ entry.2.1.changes) :
    after.world.redis.lists key = before.world.redis.lists key := by
  have resumed : ∀ (machine : RuntimeMachine) (thread : Thread) (task : Task)
      (past : List services.Event) (program : Program services Unit),
      (machine.resume (runtime hashing) thread task past program).world.redis =
        machine.world.redis ∧
      (machine.resume (runtime hashing) thread task past program).trace = machine.trace := by
    intro machine thread task past program
    cases program <;> exact ⟨rfl, rfl⟩
  induction run with
  | rest => rfl
  | step _ label _ stepped ih =>
    cases label with
    | start thread task =>
      simp only [Machine.step, Option.ite_none_right_eq_some, Option.some.injEq] at stepped
      obtain ⟨_, rfl⟩ := stepped
      rw [(resumed _ _ _ _ _).1]
      rw [(resumed _ _ _ _ _).2] at unnamed
      exact ih unnamed
    | run thread oracle =>
      simp only [Machine.step, Option.map_eq_some_iff] at stepped
      obtain ⟨running, _, rfl⟩ := stepped
      rw [(resumed _ _ _ _ _).1]
      rw [(resumed _ _ _ _ _).2] at unnamed
      have now := unnamed _ (List.mem_append_right _ (List.mem_singleton_self _))
      refine (World.perform_lists _ thread oracle running.command now).trans ?_
      exact ih fun entry inside => unnamed entry (List.mem_append_left _ inside)
    | crash thread =>
      simp only [Machine.step, Option.map_eq_some_iff] at stepped
      obtain ⟨running, _, rfl⟩ := stepped
      exact ih unnamed

/-- Nothing is read back, raised or crashed, and nothing is replayed. -/
def settlesEvents (machine : RuntimeMachine) : Label Oracle Task → Bool
  | .start _ task =>
      (match task with
        | .publish _ _ _ _ _ => true
        | .workerPass _ => true
        | _ => false) && !(code sampleHashing task).hasRaised
  | .run thread oracle =>
      !(keeping.phaseOf (machine.threads thread)).replayed &&
        match machine.threads thread with
        | none => true
        | some running =>
            (match running.command with
              | .redis (.ltrim _ _ _) => false
              | .redis (.delete _) => false
              | _ => true) &&
              !(running.next (machine.world.perform thread oracle running.command).2).hasRaised
  | .crash _ => false

theorem settlesEvents_sound (machine : RuntimeMachine) (label : Label Oracle Task)
    (lone : machine.Lone 0) (own : label.thread = 0)
    (tested : settlesEvents machine label = true) :
    sound.Permits (runtime sampleHashing) keeping machine label := by
  cases label with
  | start thread task =>
    simp only [settlesEvents, Bool.and_eq_true, Bool.not_eq_true'] at tested
    obtain ⟨kind, fine⟩ := tested
    constructor
    · cases task <;> first | exact trivial | simp at kind
    · intro failure raises
      have raises : code sampleHashing task = .fail failure := raises
      rw [raises] at fine
      cases fine
  | run thread oracle =>
    intro running found
    simp only [settlesEvents, Bool.and_eq_true, found, Bool.not_eq_true'] at tested
    obtain ⟨unreplayed, kind, fine⟩ := tested
    have nobody : ∀ other, ((machine.view keeping).phases other).replayed = false := by
      intro other
      by_cases same : other = thread
      · rw [same, ← unreplayed, ← found]
        rfl
      · have idle : machine.threads other = none := by
          apply lone
          rw [← own]
          exact same
        have phase : (machine.view keeping).phases other = .empty := by
          simp [Machine.view, idle, Protocol.phaseOf]
        rw [phase]
        rfl
    constructor
    · refine ⟨?_, ?_, ?_⟩
      · intro start stop trims
        rw [trims] at kind
        cases kind
      · intro deletes
        rw [deletes] at kind
        cases kind
      · intro values _ eventId _ _ other isReplayed
        rw [nobody other] at isReplayed
        cases isReplayed
    · intro failure raises
      have raises : running.next (machine.world.perform thread oracle running.command).2 =
          .fail failure := raises
      rw [raises] at fine
      cases fine
  | crash thread => cases tested

def noIntents : Database := ⟨[], [], [], List.nodup_nil, List.nodup_nil⟩

/-- An event is published, and a pass of a worker issues so many commands about it. -/
def passAfterPublish (count : Nat) : List (Label Oracle Task) :=
  samplePublish 0 ++ .start 0 (.workerPass "worker") ::
    runs 0 count { steady with uuid := "failed" }

def announces (eventId : String) : (command : Command) → Except Failure command.Reply → Bool
  | .redis (.rpush key values), .ok _ => values.any fun raw =>
      match raw with
      | .envelope sent => (Raw.envelope sent).keeps key = some eventId
      | _ => false
  | _, _ => false

theorem published_of_announces {trace : List (Thread × services.Event)} {eventId : String}
    (announced : (trace.any fun entry => announces eventId entry.2.1 entry.2.2) = true) :
    Published trace eventId := by
  obtain ⟨⟨thread, command, answer⟩, inside, announced⟩ := List.any_eq_true.mp announced
  refine ⟨_, inside, ?_⟩
  cases command with
  | redis issued =>
    cases issued with
    | rpush key values =>
      cases answer with
      | error failure => cases announced
      | ok reply =>
        obtain ⟨raw, listed, keeps⟩ := List.any_eq_true.mp announced
        cases raw with
        | envelope sent => exact ⟨sent, listed, by simpa using keeps⟩
        | _ => cases keeps
    | _ => cases answer <;> cases announced
  | _ => cases announced

/-- A pass that runs to its end leaves the event in the quarantine list. -/
theorem sound_runs_lose_nothing_quarantined :
    ∃ after : RuntimeMachine,
      Machine.steps (runtime sampleHashing) (passAfterPublish 16)
        (Machine.atRest (World.boot emptyRedis noIntents [])) = some after ∧
      after.threads 0 = none ∧ Published after.trace "published-0" ∧
      ("published-0" ∈ after.world.redis.sets processedEventsSet ∨
        Removed after.started "published-0" ∨
        (∃ key, ∃ raw ∈ after.world.redis.lists key, raw.keeps key = some "published-0") ∨
        ∃ thread running, after.threads thread = some running ∧
          ("published-0" ∈ (keeping.phaseOf (some running)).hands ∨
            "published-0" ∈ (keeping.phaseOf (some running)).restoring)) := by
  have evaluated : (Machine.stepsIf (runtime sampleHashing) settlesEvents (passAfterPublish 16)
      (Machine.atRest (World.boot emptyRedis noIntents []))).map (fun machine =>
        ((machine.threads 0).isNone,
          machine.trace.any fun entry => announces "published-0" entry.2.1 entry.2.2)) =
      some (true, true) := by
    decide +kernel
  obtain ⟨after, stepped, seen⟩ := Option.map_eq_some_iff.mp evaluated
  simp only [Prod.mk.injEq, Option.isNone_iff_eq_none] at seen
  obtain ⟨ended, announced⟩ := seen
  have lone : (Machine.atRest (World.boot emptyRedis noIntents []) : RuntimeMachine).Lone 0 :=
    fun _ _ => rfl
  have run : Run (runtime sampleHashing) (sound.Permits (runtime sampleHashing) keeping)
      (Machine.atRest (World.boot emptyRedis noIntents [])) (passAfterPublish 16) after :=
    Run.of_stepsIf 0 settlesEvents_sound lone (by decide) stepped
  have published := published_of_announces announced
  exact ⟨after, Machine.steps_of_stepsIf _ stepped, ended, published,
    sound_runs_lose_nothing run "published-0" published⟩

/-- A worker that crashes between the acknowledgement and the next list loses its event:
it is in no list at all, and no task runs. -/
theorem crash_after_ack_loses_event :
    ∃ after : RuntimeMachine,
      Machine.steps (runtime sampleHashing) (passAfterPublish 6 ++ [.crash 0])
        (Machine.atRest (World.boot emptyRedis noIntents [])) = some after ∧
      (∀ thread, after.threads thread = none) ∧ Published after.trace "published-0" ∧
      "published-0" ∉ after.world.redis.sets processedEventsSet ∧
      ¬Removed after.started "published-0" ∧
      after.world.redis.lists (processingKey submissionRequested "worker") = [] ∧
      ∀ key, ∀ raw ∈ after.world.redis.lists key, raw.keeps key ≠ some "published-0" := by
  have evaluated : (Machine.steps (runtime sampleHashing) (passAfterPublish 6 ++ [.crash 0])
      (Machine.atRest (World.boot emptyRedis noIntents []))).map (fun machine =>
        ((machine.threads 0).isNone,
          machine.trace.any fun entry => announces "published-0" entry.2.1 entry.2.2,
          machine.world.redis.sets processedEventsSet,
          (machine.world.redis.lists (processingKey submissionRequested "worker")).isEmpty,
          machine.started.all (fun task => match task with
            | .publish _ _ _ _ _ => true
            | .workerPass _ => true
            | _ => false),
          (machine.trace.flatMap fun entry => entry.2.1.changes).all fun key =>
            (machine.world.redis.lists key).all fun raw => raw.keeps key ≠ some "published-0")) =
      some (true, true, [], true, true, true) := by
    decide +kernel
  obtain ⟨after, stepped, seen⟩ := Option.map_eq_some_iff.mp evaluated
  simp only [Prod.mk.injEq, Option.isNone_iff_eq_none] at seen
  obtain ⟨ended, announced, marks, processing, asked, gone⟩ := seen
  have lone : after.Lone 0 := Machine.lone_steps (fun _ _ => rfl) (by decide) stepped
  refine ⟨after, stepped, lone.idle ended, published_of_announces announced, by simp [marks], ?_,
    List.isEmpty_iff.mp processing, ?_⟩
  · rintro (removed | dismissed)
    · have kind := List.all_eq_true.mp asked _ removed
      cases kind
    · have kind := List.all_eq_true.mp asked _ dismissed
      cases kind
  · intro key raw inside
    by_cases named : key ∈ after.trace.flatMap fun entry => entry.2.1.changes
    · have kept := List.all_eq_true.mp (List.all_eq_true.mp gone key named) raw inside
      simpa using kept
    · have run : Run (runtime sampleHashing) (fun _ _ => True)
          (Machine.atRest (World.boot emptyRedis noIntents [])) (passAfterPublish 6 ++ [.crash 0])
          after := Run.of_steps (fun _ _ => trivial) stepped
      have unnamed : ∀ entry ∈ after.trace, key ∉ entry.2.1.changes := fun entry listed changed =>
        named (List.mem_flatMap.mpr ⟨entry, listed, changed⟩)
      rw [lists_unnamed run unnamed] at inside
      cases inside

end Runs

end Runtime
