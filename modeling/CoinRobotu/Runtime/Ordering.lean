import CoinRobotu.Runtime.Processing

/-!
# In which order events are consumed

Publishing numbers the events and appends them to their source queue, and a
consumer takes the last element of that queue. So an event is taken before every
older one that still waits. As long as each event taken is the only waiting one
of its partition, the events of a partition are consumed in the order of their
numbers; two waiting events of one partition are consumed in reverse.
-/

open Interleaving
open Program (only_bind follows_bind follows_mono follows_of_only follows_then)

namespace Runtime

def taken (kind : String) : (command : Command) → Except Failure command.Reply → Option Raw
  | .redis (.brpoplpush source _), .ok popped => if source = streamKey kind then popped else none
  | _, _ => none

def consumed (kind : String) (trace : List (Thread × services.Event)) : List Envelope :=
  (trace.filterMap fun entry => taken kind entry.2.1 entry.2.2).filterMap Raw.loadEnvelope

def waiting (kind : String) (redis : Redis.Store Raw) : List Envelope :=
  (redis.lists (streamKey kind)).filterMap Raw.loadEnvelope

/-- In each partition the consumed events are in the order of their numbers, and
those that wait come after them. -/
def InOrder (kind : String) (redis : Redis.Store Raw) (trace : List (Thread × services.Event)) :
    Prop :=
  ∀ partition, ((consumed kind trace ++ waiting kind redis).filter
    (·.partitionKey = partition)).Pairwise fun first second => first.ordering ≤ second.ordering

/-- The last element of the queue shares its partition with no other element. -/
def Solitary (queue : List Raw) : Prop :=
  ∀ front last, queue = front ++ [.envelope last] → ∀ other, .envelope other ∈ front →
    other.partitionKey ≠ last.partitionKey

section Turns

/-- What a task does about the queue of one type: it publishes, with the number
it drew, it works, or it releases retries. -/
inductive Turn where
  | bystander
  | publisher (number : Option Int)
  | worker
  | releasing

namespace Turn

def initial : Task → Turn
  | .publish _ _ _ _ _ => publisher none
  | .consume _ _ => worker
  | .workerPass _ => worker
  | _ => bystander

def next : Turn → (command : Command) → Except Failure command.Reply → Turn
  | publisher none, .redis (.incr _), .ok number => publisher (some number)
  | worker, .redis (.lrange _ _ _), .ok items => if items = [] then worker else releasing
  | turn, _, _ => turn

def allows (kind : String) : Turn → Command → Prop
  | releasing, _ => True
  | publisher none, .redis (.incr key) => key = orderingKey
  | publisher (some number), .redis (.rpush key values) =>
      key = streamKey kind → ∃ sent : Envelope, values = [.envelope sent] ∧ sent.ordering = number
  | worker, .redis (.lrange key _ _) => key = runtimeRetryQueue
  | worker, .redis (.brpoplpush source destination) =>
      source = streamKey kind ∧ ∃ workerName, destination = processingKey kind workerName
  | worker, .redis (.incr key) => key = orderingKey
  | worker, .redis (.rpush key _) => key ≠ streamKey kind
  | worker, .redis (.lrem key _ _) => ∃ workerName, key = processingKey kind workerName
  | worker, .redis (.sismember _ _) => True
  | worker, .redis (.sadd _ _) => True
  | _, .redis _ => False
  | _, _ => True

end Turn

@[simps -fullyApplied] def queueing (kind : String) : Protocol services Task Turn :=
  ⟨.bystander, Turn.initial, Turn.next, Turn.allows kind, fun _ _ => True⟩

variable (kind : String)

/-- Events of one type are published one after the other and taken by workers
that never put an event on the retry list. -/
def inTurn : Discipline services World Oracle Task Turn where
  starts view _ task :=
    match task with
    | .publish eventType _ _ _ _ =>
        eventType = kind ∧ ∀ other number, view.phases other ≠ .publisher number
    | .consume eventType _ => eventType = kind
    | .workerPass _ => kind = submissionRequested
    | _ => False
  runs view _ _ command :=
    (∀ values, command ≠ .redis (.rpush runtimeRetryQueue values)) ∧
      ∀ destination, command = .redis (.brpoplpush (streamKey kind) destination) →
        Solitary (view.world.redis.lists (streamKey kind))
  dies _ _ := True

end Turns

section Follows

variable {kind : String} {α : Type}

abbrev Queues (kind : String) (program : Program services α) (turn : Turn) : Prop :=
  program.Follows (queueing kind) (fun _ _ => True) (fun _ _ => True) turn

theorem queues_releasing (program : Program services α) : Queues kind program .releasing := by
  induction program with
  | done | fail => exact True.intro
  | issue command next ih =>
    exact ⟨trivial, fun answer _ => ih answer⟩

theorem queues_processing {program : Program services α} (processing : Processing program) :
    Queues submissionRequested program .worker := by
  refine follows_of_only processing (fun command kept => ?_) (fun _ => trivial)
    (fun _ => trivial)
  cases command with
  | redis command =>
    cases command with
    | lrem key count value => exact ⟨kept, fun answer => rfl⟩
    | incr key => exact ⟨kept, fun answer => rfl⟩
    | rpush key values => exact ⟨kept, fun answer => rfl⟩
    | sismember key member => exact ⟨trivial, fun answer => rfl⟩
    | sadd key member => exact ⟨trivial, fun answer => rfl⟩
    | _ => exact kept.elim
  | _ => exact ⟨trivial, fun answer => rfl⟩

theorem queues_publish (hashing : Hashing IntentPayload) (payload : Payload)
    (correlationId : String) (causationId : Option String) (partitionKey : String) :
    Queues kind (publishRuntimeEvent hashing kind payload correlationId causationId partitionKey)
      (.publisher none) := by
  have events : runtimeEventsQueue ≠ streamKey kind := (streamKey_ne_events kind).symm
  simp [publishRuntimeEvent, Turn.allows, Turn.next, events]

theorem queues_consume (workerName : String) :
    (consumeRuntimeEvent kind workerName).Follows (queueing kind)
      (fun consumed turn => turn = .worker ∧
        ∀ envelope processing raw, consumed = some (envelope, processing, raw) →
          processing = processingKey kind workerName)
      (fun _ _ => True) .worker := by
  refine follows_bind_call ⟨⟨rfl, workerName, rfl⟩, fun popped _ => ?_, fun _ _ => trivial⟩
  cases popped with
  | none => exact ⟨rfl, fun _ _ _ impossible => nomatch impossible⟩
  | some raw =>
    dsimp only
    cases raw.loadEnvelope with
    | none => exact True.intro
    | some envelope =>
      refine ⟨rfl, fun _ _ _ same => ?_⟩
      cases same
      rfl

theorem queues_release (limit : Int) :
    (releaseDueRetryEvents limit).Follows (queueing kind)
      (fun _ turn => turn = .worker ∨ turn = .releasing) (fun _ _ => True) .worker := by
  have stays : ∀ reached command answer, reached = Turn.releasing →
      (queueing kind).next reached command answer = .releasing := by
    rintro _ command answer rfl
    rfl
  refine follows_bind_call ⟨rfl, fun items _ => ?_, fun _ _ => trivial⟩
  by_cases nothing : items = []
  · simp [nothing, Turn.next]
  · simp only [queueing_next, Turn.next, nothing, if_false]
    exact follows_mono (Program.follows_and stays (queues_releasing _) rfl)
      (fun _ _ kept => .inr kept.2) (fun _ _ _ => trivial)

theorem queues_pass (hashing : Hashing IntentPayload) (workerName : String) :
    Queues submissionRequested (processSubmissionEventOnce hashing workerName) .worker := by
  refine follows_then (queues_release 200) ?_ (fun _ _ _ => trivial)
  rintro _ _ (rfl | rfl)
  · refine follows_then (queues_consume workerName) ?_ (fun _ _ _ => trivial)
    rintro consumed _ ⟨rfl, processing⟩
    match consumed, processing with
    | none, _ => exact True.intro
    | some (envelope, processingQueue, raw), processing =>
      obtain rfl := processing _ _ _ rfl
      refine queues_processing ?_
      dsimp only
      split
      · exact only_bind (ack_processing workerName raw) fun _ => trivial
      · refine only_bind (isEventProcessed_processing _) fun processed => ?_
        split
        · exact only_bind (ack_processing workerName raw) fun _ => trivial
        · exact only_bind (processEvent_processing hashing _ _ _ _) fun _ => trivial
  · exact queues_releasing _

theorem code_queues (hashing : Hashing IntentPayload) (view : View services World Task Turn)
    (thread : Thread) (task : Task) (permitted : (inTurn kind).starts view thread task) :
    Queues kind (code hashing task) (Turn.initial task) := by
  have finished : ∀ {α : Type} {program : Program services α} {turn : Turn},
      Queues kind program turn → Queues kind (program.bind fun _ => Program.done ()) turn :=
    fun queues => (follows_bind _ _).mpr queues
  cases task with
  | publish eventType payload correlationId causationId partitionKey =>
    obtain ⟨rfl, _⟩ := permitted
    exact finished (queues_publish hashing payload correlationId causationId partitionKey)
  | consume eventType workerName =>
    obtain rfl : eventType = kind := permitted
    exact finished (follows_mono (queues_consume workerName) (fun _ _ _ => trivial)
      (fun _ _ _ => trivial))
  | workerPass workerName =>
    obtain rfl : kind = submissionRequested := permitted
    exact finished (queues_pass hashing workerName)
  | _ => exact permitted.elim

end Follows

section Invariant

variable {kind : String} {view : View services World Task Turn}

def Turn.publishes : Turn → Prop
  | publisher _ => True
  | _ => False

def published (kind : String) (view : View services World Task Turn) : List Envelope :=
  consumed kind view.trace ++ waiting kind view.world.redis

/-- What is kept while events are published one after the other. Every event was
numbered before the one that is being published. -/
structure Sorted (kind : String) (view : View services World Task Turn) : Prop where
  noRetries : view.world.redis.lists runtimeRetryQueue = []
  noRelease : ∀ thread, view.phases thread ≠ .releasing
  single : ∀ thread other, (view.phases thread).publishes → (view.phases other).publishes →
    thread = other
  numbered : ∀ sent ∈ published kind view, sent.ordering ≤ view.world.redis.counters orderingKey
  latest : ∀ thread number, view.phases thread = .publisher (some number) →
    number ≤ view.world.redis.counters orderingKey ∧
      ∀ sent ∈ published kind view, sent.ordering ≤ number
  envelopes : ∀ raw ∈ view.world.redis.lists (streamKey kind), ∃ sent, raw = .envelope sent
  inOrder : InOrder kind view.world.redis view.trace

/-- The lists that matter are as they were, the counter has not fallen and no
event of the type was taken. -/
structure Unmoved (kind : String) (view next : View services World Task Turn) : Prop where
  retries : next.world.redis.lists runtimeRetryQueue = view.world.redis.lists runtimeRetryQueue
  queue : next.world.redis.lists (streamKey kind) = view.world.redis.lists (streamKey kind)
  counter : view.world.redis.counters orderingKey ≤ next.world.redis.counters orderingKey
  took : consumed kind next.trace = consumed kind view.trace

variable {next : View services World Task Turn}

theorem Unmoved.published
    (unmoved : Unmoved kind view next) :
    published kind next = published kind view := by
  simp only [Runtime.published, waiting, unmoved.took, unmoved.queue]

theorem Sorted.unmoved (sorted : Sorted kind view)
    (unmoved : Unmoved kind view next)
    (turns : ∀ thread, next.phases thread = view.phases thread ∨
      ¬(next.phases thread).publishes ∧ next.phases thread ≠ .releasing) : Sorted kind next := by
  have same := unmoved.published
  have former : ∀ thread, (next.phases thread).publishes →
      next.phases thread = view.phases thread := fun thread publishes =>
    (turns thread).resolve_right fun quiet => quiet.1 publishes
  refine ⟨unmoved.retries ▸ sorted.noRetries, fun thread => ?_, fun first second left right => ?_,
    fun sent inside => (sorted.numbered sent (same ▸ inside)).trans unmoved.counter,
    fun thread number found => ?_, unmoved.queue ▸ sorted.envelopes, ?_⟩
  · rcases turns thread with was | ⟨_, settled⟩
    · exact was ▸ sorted.noRelease thread
    · exact settled
  · exact sorted.single first second (former first left ▸ left) (former second right ▸ right)
  · have was := former thread (by rw [found]; exact trivial)
    obtain ⟨drawn, later⟩ := sorted.latest thread number (was ▸ found)
    exact ⟨drawn.trans unmoved.counter, same ▸ later⟩
  · intro partition
    have before := sorted.inOrder partition
    rwa [← Runtime.published, ← same] at before

theorem turns_update (phases : Thread → Turn) (thread : Thread) {turn : Turn}
    (quiet : turn = phases thread ∨ ¬turn.publishes ∧ turn ≠ .releasing) (other : Thread) :
    Function.update phases thread turn other = phases other ∨
      ¬(Function.update phases thread turn other).publishes ∧
        Function.update phases thread turn other ≠ .releasing := by
  by_cases isThread : other = thread
  · subst isThread
    simpa using quiet
  · simp [isThread]

variable {hashing : Hashing IntentPayload} {thread : Thread} {oracle : Oracle}

theorem consumed_append (trace : List (Thread × services.Event)) (thread : Thread)
    (event : services.Event) :
    consumed kind (trace ++ [(thread, event)]) =
      consumed kind trace ++ ((taken kind event.1 event.2).bind Raw.loadEnvelope).toList := by
  cases found : taken kind event.1 event.2 with
  | none => simp [consumed, found]
  | some raw => cases loaded : raw.loadEnvelope <;> simp [consumed, found, loaded]

theorem unmoved_elsewhere (command : Command)
    (elsewhere : (∀ issued, command ≠ .redis issued) ∨ ∃ failure, oracle.fault = some failure) :
    Unmoved kind view
      (view.perform (runtime hashing).toService (queueing kind) thread oracle command) := by
  have sameRedis : (view.world.perform thread oracle command).1.redis = view.world.redis := by
    rcases view.world.perform_redis thread oracle command with same | ⟨issued, rfl, sound, _⟩
    · exact same
    · rcases elsewhere with other | ⟨failure, raised⟩
      · exact absurd rfl (other issued)
      · simp [sound] at raised
  have nothing : taken kind command (view.world.perform thread oracle command).2 = none := by
    rcases elsewhere with other | ⟨failure, raised⟩
    · cases command with
      | redis issued => exact absurd rfl (other issued)
      | _ => rfl
    · cases command with
      | redis issued =>
        rw [World.perform_store_raised view.world raised]
        cases issued <;> rfl
      | _ => rfl
  refine ⟨?_, ?_, ?_, ?_⟩
  · exact congrArg (fun redis => redis.lists runtimeRetryQueue) sameRedis
  · exact congrArg (fun redis => redis.lists (streamKey kind)) sameRedis
  · exact (congrArg (fun redis => redis.counters orderingKey) sameRedis).ge
  · simp only [View.perform, runtime_perform, consumed_append, nothing]
    simp

theorem Sorted.draws (sorted : Sorted kind view)
    (turn : view.phases thread = .publisher none) (unmoved : Unmoved kind view next)
    (counter : next.world.redis.counters orderingKey =
      view.world.redis.counters orderingKey + 1)
    (phases : next.phases = Function.update view.phases thread
      (.publisher (some (view.world.redis.counters orderingKey + 1)))) : Sorted kind next := by
  have same := unmoved.published
  have former : ∀ other, other ≠ thread → ¬(view.phases other).publishes := by
    intro other different publishes
    exact different (sorted.single other thread publishes (by rw [turn]; trivial))
  have only : ∀ other, (next.phases other).publishes → other = thread := by
    intro other publishes
    by_contra different
    rw [phases, Function.update_of_ne different] at publishes
    exact former other different publishes
  refine ⟨unmoved.retries ▸ sorted.noRetries, fun other => ?_,
    fun first second left right => (only first left).trans (only second right).symm,
    fun sent inside => (sorted.numbered sent (same ▸ inside)).trans unmoved.counter,
    fun other number found => ?_, unmoved.queue ▸ sorted.envelopes, ?_⟩
  · rw [phases]
    by_cases isThread : other = thread
    · simp [isThread]
    · simpa [isThread] using sorted.noRelease other
  · obtain rfl := only other (by rw [found]; trivial)
    have drawn : view.world.redis.counters orderingKey + 1 = number := by
      simpa [phases] using found
    refine ⟨by omega, fun sent inside => ?_⟩
    have older := sorted.numbered sent (same ▸ inside)
    omega
  · intro partition
    have before := sorted.inOrder partition
    rwa [← published, ← same] at before

theorem Sorted.appends (sorted : Sorted kind view)
    {sent : Envelope} (turn : view.phases thread = .publisher (some sent.ordering))
    (phases : next.phases = view.phases)
    (retries : next.world.redis.lists runtimeRetryQueue = view.world.redis.lists runtimeRetryQueue)
    (counter : next.world.redis.counters = view.world.redis.counters)
    (queue : next.world.redis.lists (streamKey kind) =
      view.world.redis.lists (streamKey kind) ++ [.envelope sent])
    (took : consumed kind next.trace = consumed kind view.trace) : Sorted kind next := by
  have grown : published kind next = published kind view ++ [sent] := by
    simp [published, waiting, took, queue, Raw.loadEnvelope]
  obtain ⟨drawn, latest⟩ := sorted.latest thread _ turn
  refine ⟨retries ▸ sorted.noRetries, phases ▸ sorted.noRelease, phases ▸ sorted.single,
    fun other inside => ?_, fun other number found => ?_, fun raw inside => ?_, fun partition => ?_⟩
  · rw [counter]
    rcases List.mem_append.mp (grown ▸ inside) with earlier | now
    · exact sorted.numbered other earlier
    · exact List.mem_singleton.mp now ▸ drawn
  · rw [phases] at found
    obtain rfl := sorted.single other thread (by rw [found]; trivial) (by rw [turn]; trivial)
    rw [turn, Turn.publisher.injEq, Option.some.injEq] at found
    subst found
    refine ⟨counter ▸ drawn, fun other inside => ?_⟩
    rcases List.mem_append.mp (grown ▸ inside) with earlier | now
    · exact latest other earlier
    · exact (congrArg Envelope.ordering (List.mem_singleton.mp now)).le
  · rw [queue] at inside
    rcases List.mem_append.mp inside with earlier | now
    · exact sorted.envelopes raw earlier
    · exact ⟨sent, List.mem_singleton.mp now⟩
  · have before := sorted.inOrder partition
    rw [← published] at before ⊢
    rw [grown, List.filter_append, List.pairwise_append]
    refine ⟨before, ?_, fun first inside second last => ?_⟩
    · by_cases same : sent.partitionKey = partition <;> simp [same]
    · obtain rfl := List.mem_singleton.mp (List.mem_of_mem_filter last)
      exact latest first (List.mem_of_mem_filter inside)

/-- The event that is taken has no other one of its partition before it. -/
theorem Sorted.takes (sorted : Sorted kind view)
    {front : List Raw} {last : Envelope}
    (waited : view.world.redis.lists (streamKey kind) = front ++ [.envelope last])
    (solitary : Solitary (view.world.redis.lists (streamKey kind)))
    (phases : next.phases = view.phases)
    (retries : next.world.redis.lists runtimeRetryQueue = view.world.redis.lists runtimeRetryQueue)
    (counter : next.world.redis.counters = view.world.redis.counters)
    (queue : next.world.redis.lists (streamKey kind) = front)
    (took : consumed kind next.trace = consumed kind view.trace ++ [last]) : Sorted kind next := by
  have before : published kind view =
      consumed kind view.trace ++ (front.filterMap Raw.loadEnvelope ++ [last]) := by
    simp [published, waiting, waited, Raw.loadEnvelope]
  have after : published kind next =
      consumed kind view.trace ++ ([last] ++ front.filterMap Raw.loadEnvelope) := by
    simp [published, waiting, took, queue]
  have same : ∀ sent, sent ∈ published kind next ↔ sent ∈ published kind view := by
    intro sent
    simp only [before, after, List.mem_append]
    tauto
  refine ⟨retries ▸ sorted.noRetries, phases ▸ sorted.noRelease, phases ▸ sorted.single,
    fun sent inside => counter ▸ sorted.numbered sent ((same sent).mp inside),
    fun other number found => ?_, fun raw inside => ?_, fun partition => ?_⟩
  · obtain ⟨drawn, later⟩ := sorted.latest other number (phases ▸ found)
    exact ⟨counter ▸ drawn, fun sent inside => later sent ((same sent).mp inside)⟩
  · exact sorted.envelopes raw (waited ▸ List.mem_append_left _ (queue ▸ inside))
  · have ordered := sorted.inOrder partition
    rw [← published] at ordered ⊢
    rw [before, List.filter_append, List.filter_append] at ordered
    rw [after, List.filter_append, List.filter_append]
    by_cases own : last.partitionKey = partition
    · have nobody : (front.filterMap Raw.loadEnvelope).filter
          (·.partitionKey = partition) = [] := by
        rw [List.filter_eq_nil_iff]
        intro other inside
        obtain ⟨raw, isFront, loaded⟩ := List.mem_filterMap.mp inside
        obtain ⟨sent, rfl⟩ := sorted.envelopes raw (waited ▸ List.mem_append_left _ isFront)
        cases loaded
        simpa [own] using solitary front last waited _ isFront
      rw [nobody, List.append_nil]
      simpa [nobody] using ordered
    · simpa [own] using ordered

theorem Turn.next_elsewhere (turn : Turn) (command : Command)
    (answer : Except Failure command.Reply)
    (elsewhere : (∀ issued, command ≠ .redis issued) ∨ ∃ failure, answer = .error failure) :
    turn.next command answer = turn := by
  rcases elsewhere with other | ⟨failure, rfl⟩
  · cases command with
    | redis issued => exact absurd rfl (other issued)
    | _ => cases turn with
      | publisher number => cases number <;> rfl
      | _ => rfl
  · cases command with
    | redis issued =>
      cases turn with
      | publisher number => cases number <;> cases issued <;> rfl
      | _ => cases issued <;> rfl
    | _ => cases turn with
      | publisher number => cases number <;> rfl
      | _ => rfl

/-- A Redis command of a worker that finds no retry. -/
theorem Sorted.works (sorted : Sorted kind view) (sound : oracle.fault = none)
    (turn : view.phases thread = .worker) {issued : Redis.Command Raw}
    (allowed : Turn.allows kind .worker (.redis issued))
    (permitted : (inTurn kind).runs view thread oracle (.redis issued)) :
    Sorted kind (view.perform (runtime hashing).toService (queueing kind) thread oracle
      (.redis issued)) := by
  rw [View.perform_store hashing (queueing kind) view thread sound, turn]
  have retriesNe := streamKey_ne_retry kind
  have stay : ∀ {next : View services World Task Turn}, Unmoved kind view next →
      next.phases = Function.update view.phases thread .worker → Sorted kind next :=
    fun unmoved phases => sorted.unmoved unmoved fun other =>
      phases ▸ turns_update view.phases thread (.inl turn.symm) other
  cases issued with
  | incr key =>
    obtain rfl : key = orderingKey := allowed
    refine stay ⟨rfl, rfl, ?_, ?_⟩ rfl
    · simp [Redis.Store.perform]
    · simp only [consumed_append, taken]
      simp
  | rpush key values =>
    have noRetry : runtimeRetryQueue ≠ key := fun same => permitted.1 values (same ▸ rfl)
    refine stay ⟨?_, ?_, le_rfl, ?_⟩ rfl
    · simp [Redis.Store.perform, noRetry]
    · have other : streamKey kind ≠ key := Ne.symm allowed
      simp [Redis.Store.perform, other]
    · simp only [consumed_append, taken]
      simp
  | lrange key start stop =>
    obtain rfl : key = runtimeRetryQueue := allowed
    have nothing : Redis.segment (view.world.redis.lists runtimeRetryQueue) start stop = [] := by
      simp [sorted.noRetries, Redis.segment]
    refine stay ⟨rfl, rfl, le_rfl, ?_⟩ ?_
    · simp only [consumed_append, taken]
      simp
    · simp [Turn.next, Redis.Store.perform, nothing]
  | lrem key count value =>
    obtain ⟨workerName, rfl⟩ := allowed
    have noRetry : runtimeRetryQueue ≠ processingKey kind workerName := by
      rw [processingKey_eq]
      exact (streamKey_ne_retry _).symm
    have other : streamKey kind ≠ processingKey kind workerName :=
      (processingKey_ne_stream kind workerName).symm
    refine stay ⟨?_, ?_, le_rfl, ?_⟩ rfl
    · simp [Redis.Store.perform, noRetry]
    · simp [Redis.Store.perform, other]
    · simp only [consumed_append, taken]
      simp
  | sismember | sadd =>
    refine stay ⟨rfl, rfl, le_rfl, ?_⟩ rfl
    simp only [consumed_append, taken]
    simp
  | brpoplpush source destination =>
    obtain ⟨rfl, workerName, rfl⟩ := allowed
    have noRetry : runtimeRetryQueue ≠ processingKey kind workerName := by
      rw [processingKey_eq]
      exact (streamKey_ne_retry _).symm
    have other : streamKey kind ≠ processingKey kind workerName :=
      (processingKey_ne_stream kind workerName).symm
    simp only [Redis.Store.perform]
    rcases view.world.redis.popPush_cases other with ⟨_, popped⟩ | ⟨front, raw, waited, popped⟩
    · rw [popped]
      refine stay ⟨rfl, rfl, le_rfl, ?_⟩ rfl
      simp only [consumed_append, taken]
      simp
    · obtain ⟨last, rfl⟩ := sorted.envelopes raw (by simp [waited])
      rw [popped]
      refine sorted.takes waited (permitted.2 _ rfl) ?_ ?_ rfl ?_ ?_
      · exact Function.update_eq_self_iff.mpr turn.symm
      · simp [noRetry, retriesNe.symm]
      · simp [other]
      · simp [consumed_append, taken, Raw.loadEnvelope]
  | _ => exact allowed.elim

theorem Sorted.perform (sorted : Sorted kind view) (command : Command)
    (allowed : Turn.allows kind (view.phases thread) command)
    (permitted : (inTurn kind).runs view thread oracle command) :
    Sorted kind
      (view.perform (runtime hashing).toService (queueing kind) thread oracle command) := by
  by_cases elsewhere : (∀ issued, command ≠ .redis issued) ∨
      ∃ failure, oracle.fault = some failure
  · refine sorted.unmoved (unmoved_elsewhere command elsewhere) (turns_update _ _ (.inl ?_))
    refine Turn.next_elsewhere _ _ _ (elsewhere.imp_right fun ⟨failure, raised⟩ => ⟨failure, ?_⟩)
    simp [World.perform, raised]
  · simp only [not_or, not_forall, not_not, not_exists] at elsewhere
    obtain ⟨⟨issued, rfl⟩, unraised⟩ := elsewhere
    have sound : oracle.fault = none := Option.eq_none_iff_forall_ne_some.mpr unraised
    cases turn : view.phases thread with
    | bystander =>
      rw [turn] at allowed
      exact allowed.elim
    | releasing => exact absurd turn (sorted.noRelease thread)
    | worker => exact sorted.works sound turn (turn ▸ allowed) permitted
    | publisher number =>
      rw [turn] at allowed
      rw [View.perform_store hashing (queueing kind) view thread sound, turn]
      cases number with
      | none =>
        cases issued with
        | incr key =>
          obtain rfl : key = orderingKey := allowed
          refine sorted.draws turn ⟨rfl, rfl, ?_, ?_⟩ ?_ rfl
          · simp [Redis.Store.perform]
          · simp only [consumed_append, taken]
            simp
          · simp [Redis.Store.perform]
        | _ => exact allowed.elim
      | some number =>
        cases issued with
        | rpush key values =>
          have noRetry : runtimeRetryQueue ≠ key := fun same => permitted.1 values (same ▸ rfl)
          have unchanged : Function.update view.phases thread (.publisher (some number)) =
              view.phases := Function.update_eq_self_iff.mpr turn.symm
          by_cases own : key = streamKey kind
          · obtain ⟨sent, rfl, rfl⟩ := allowed own
            subst own
            refine sorted.appends turn unchanged ?_ rfl ?_ ?_
            · simp [Redis.Store.perform, noRetry]
            · simp [Redis.Store.perform]
            · simp only [consumed_append, taken]
              simp
          · refine sorted.unmoved ⟨?_, ?_, le_rfl, ?_⟩ fun other => .inl (congrFun unchanged other)
            · simp [Redis.Store.perform, noRetry]
            · have different : streamKey kind ≠ key := Ne.symm own
              simp [Redis.Store.perform, different]
            · simp only [consumed_append, taken]
              simp
        | _ => exact allowed.elim

end Invariant

section Runs

variable {kind : String} {hashing : Hashing IntentPayload}

theorem queueing_governs : Governs (runtime hashing) (queueing kind) (inTurn kind) (fun _ => True)
    (fun _ _ => True) :=
  ⟨fun _ _ _ _ => trivial, code_queues hashing⟩

theorem sorted_step (view next : View services World Task Turn) (sorted : Sorted kind view)
    (step : View.Step (runtime hashing) (queueing kind) (inTurn kind) (fun _ => True)
      (fun _ _ => True) view next) : Sorted kind next := by
  have unmoved : ∀ world, world.redis = view.world.redis → ∀ phases started,
      Unmoved kind view ⟨world, phases, started, view.trace⟩ := by
    intro world same phases started
    refine ⟨?_, ?_, ?_, rfl⟩ <;> simp [same]
  have rest : ∀ thread, Sorted kind
      (view.stop (runtime hashing).toService (queueing kind) thread) := fun thread =>
    sorted.unmoved (unmoved _ (by simp) _ _)
      (turns_update _ _ (.inr ⟨not_false, by simp⟩))
  cases step with
  | started thread task idle permitted =>
    cases task with
    | publish eventType payload correlationId causationId partitionKey =>
      obtain ⟨_, nobody⟩ := permitted
      have begun := unmoved (view.world.putSession thread .fresh) (by simp)
        (Function.update view.phases thread (.publisher none))
        (view.started ++ [.publish eventType payload correlationId causationId partitionKey])
      have other : ∀ current, (view.phases current).publishes → False := by
        intro current publishes
        cases turn : view.phases current with
        | publisher number => exact nobody current number turn
        | _ => simp [turn, Turn.publishes] at publishes
      have only : ∀ current, (Function.update view.phases thread (.publisher none)
          current).publishes → current = thread := by
        intro current publishes
        by_contra different
        exact other current (by simpa [different] using publishes)
      have same := begun.published
      refine ⟨sorted.noRetries, fun current => ?_,
        fun first second left right => (only first left).trans (only second right).symm,
        fun sent inside => sorted.numbered sent (same ▸ inside), fun current number found => ?_,
        sorted.envelopes, fun partition => ?_⟩
      · by_cases isThread : current = thread
        · subst isThread
          simp [View.start, Turn.initial]
        · simpa [View.start, isThread] using sorted.noRelease current
      · obtain rfl := only current (by
          have turn : Function.update view.phases thread (.publisher none) current =
              .publisher (some number) := found
          rw [turn]
          trivial)
        simp [View.start, Turn.initial] at found
      · exact sorted.inOrder partition
    | consume eventType workerName =>
      exact sorted.unmoved (unmoved _ (by simp) _ _) (turns_update _ _
        (.inr ⟨not_false, by simp [Turn.initial]⟩))
    | workerPass workerName =>
      exact sorted.unmoved (unmoved _ (by simp) _ _) (turns_update _ _
        (.inr ⟨not_false, by simp [Turn.initial]⟩))
    | _ => exact permitted.elim
  | performed thread oracle command allowed permitted =>
    exact sorted.perform command allowed permitted
  | returned thread | raised thread | crashed thread => exact rest thread

/-- When the events of one type are published one after the other, and every
event is taken while no other one of its partition waits, the events of each
partition are consumed in the order of their numbers, and none waits that was
published before a consumed one. -/
theorem lone_events_consumed_in_order {redis : Redis.Store Raw} {database : Database}
    {accepted : List Order} {labels : List (Label Oracle Task)} {after : RuntimeMachine}
    (run : Run (runtime hashing) ((inTurn kind).Permits (runtime hashing) (queueing kind))
      (Machine.atRest (World.boot redis database accepted)) labels after)
    (noEvents : redis.lists (streamKey kind) = [])
    (noRetries : redis.lists runtimeRetryQueue = []) :
    InOrder kind after.world.redis after.trace := by
  have nothing : waiting kind redis = [] := by simp [waiting, noEvents]
  have initially : Sorted kind
      ((Machine.atRest (World.boot redis database accepted)).view (queueing kind)) := by
    refine ⟨noRetries, fun _ => by simp [Machine.view, Machine.atRest, Protocol.phaseOf],
      fun _ _ impossible => impossible.elim, ?_, nofun, ?_, ?_⟩
    · intro sent inside
      simp [published, consumed, Machine.view, Machine.atRest, World.boot, nothing] at inside
    · intro raw inside
      simp [Machine.view, Machine.atRest, World.boot, noEvents] at inside
    · intro partition
      simp [consumed, Machine.view, Machine.atRest, World.boot, nothing]
  exact (run.invariant queueing_governs (Sorted kind) sorted_step (Machine.atRest_conforms _)
    initially).inOrder

/-- A pop of a queue with at most one element, and a publication by the only
thread, are in turn. -/
def alternates (machine : RuntimeMachine) : Label Oracle Task → Bool
  | .start thread (.publish eventType _ _ _ _) =>
      eventType = submissionRequested && (machine.threads thread).isNone
  | .start _ (.consume eventType _) => eventType = submissionRequested
  | .start _ _ => false
  | .run thread _ =>
      match (machine.threads thread).map Running.command with
      | some (.redis (.rpush key _)) => key ≠ runtimeRetryQueue
      | some (.redis (.brpoplpush _ _)) =>
          (machine.world.redis.lists (streamKey submissionRequested)).length ≤ 1
      | _ => true
  | .crash _ => true

theorem solitary_of_short {queue : List Raw} (short : queue.length ≤ 1) : Solitary queue := by
  rintro front last rfl other inside
  have nothing : front = [] := by
    rw [List.length_append, List.length_singleton] at short
    exact List.length_eq_zero_iff.mp (by omega)
  subst nothing
  cases inside

theorem alternates_inTurn (machine : RuntimeMachine) (label : Label Oracle Task)
    (lone : machine.Lone label.thread) (tested : alternates machine label = true) :
    (inTurn submissionRequested).Permits (runtime hashing) (queueing submissionRequested) machine
      label := by
  cases label with
  | start thread task =>
    refine ⟨?_, fun _ _ => trivial⟩
    cases task with
    | publish eventType payload correlationId causationId partitionKey =>
      simp only [alternates, Bool.and_eq_true, decide_eq_true_eq,
        Option.isNone_iff_eq_none] at tested
      refine ⟨tested.1, fun other number busy => ?_⟩
      have idle : machine.threads other = none := lone.idle tested.2 other
      simp [Machine.view, Protocol.phaseOf, idle] at busy
    | consume eventType workerName => simpa [alternates, inTurn] using tested
    | _ => simp [alternates] at tested
  | run thread oracle =>
    refine fun running found => ⟨⟨?_, ?_⟩, fun _ _ => trivial⟩
    · intro values issued
      simp [alternates, found, issued] at tested
    · intro destination issued
      simp only [alternates, found, Option.map_some, issued] at tested
      exact solitary_of_short (of_decide_eq_true tested)
  | crash thread => exact trivial

def oneByOne : List (Label Oracle Task) :=
  samplePublish 0 ++ .start 0 (.consume submissionRequested "worker") :: runs 0 1 steady ++
    samplePublish 0 ++ .start 0 (.consume submissionRequested "worker") :: runs 0 1 steady

theorem lone_events_consumed_in_order_one_by_one :
    ∃ after : RuntimeMachine,
      Machine.steps (runtime sampleHashing) oneByOne
        (Machine.atRest (World.boot emptyRedis (sampleDatabase []) [])) = some after ∧
      (consumed submissionRequested after.trace).map Envelope.ordering = [1, 2] ∧
      InOrder submissionRequested after.world.redis after.trace := by
  have evaluated : (Machine.stepsIf (runtime sampleHashing) alternates oneByOne
      sampleMachine).map (fun machine =>
        (consumed submissionRequested machine.trace).map Envelope.ordering) = some [1, 2] := by
    decide +kernel
  obtain ⟨after, stepped, order⟩ := Option.map_eq_some_iff.mp evaluated
  have run : Run (runtime sampleHashing)
      ((inTurn submissionRequested).Permits (runtime sampleHashing) (queueing submissionRequested))
      sampleMachine oneByOne after :=
    Run.of_stepsIf 0 (fun machine label lone own tested =>
      alternates_inTurn machine label (own ▸ lone) tested) (fun _ _ => rfl) (by decide) stepped
  exact ⟨after, Machine.steps_of_stepsIf _ stepped, order,
    lone_events_consumed_in_order run rfl rfl⟩

def backlog : List (Label Oracle Task) :=
  samplePublish 0 ++ samplePublish 0 ++
    .start 0 (.consume submissionRequested "worker") :: runs 0 1 steady ++
    .start 0 (.consume submissionRequested "worker") :: runs 0 1 steady

theorem backlog_consumed_in_reverse :
    ∃ after : RuntimeMachine,
      Machine.steps (runtime sampleHashing) backlog
        (Machine.atRest (World.boot emptyRedis (sampleDatabase []) [])) = some after ∧
      (consumed submissionRequested after.trace).map Envelope.ordering = [2, 1] ∧
      ¬InOrder submissionRequested after.world.redis after.trace := by
  have evaluated : (Machine.steps (runtime sampleHashing) backlog sampleMachine).map (fun machine =>
        ((consumed submissionRequested machine.trace).map Envelope.ordering,
          decide (((consumed submissionRequested machine.trace ++
            waiting submissionRequested machine.world.redis).filter
              (·.partitionKey = "BTCUSDT::strategy")).Pairwise
                fun first second => first.ordering ≤ second.ordering))) =
      some ([2, 1], false) := by
    decide +kernel
  obtain ⟨after, stepped, order⟩ := Option.map_eq_some_iff.mp evaluated
  simp only [Prod.mk.injEq, decide_eq_false_iff_not] at order
  exact ⟨after, stepped, order.1, fun inOrder => order.2 (inOrder "BTCUSDT::strategy")⟩

end Runs

end Runtime
