import CoinRobotu.Interleaving.Ledger
import CoinRobotu.Runtime.Tasks

/-!
# Rewriting the retry list and the quarantine list

A release reads the head of the retry list, trims it off, and pushes each entry
to its source queue or back to the retry list.
-/

open Interleaving
open Program (follows_bind follows_then)

namespace Runtime

def Envelope.routed (envelope : Envelope) : Bool :=
  envelope.eventType ≠ "" && envelope.eventType ≠ "all"

def routedEntry (raw : Raw) : Option Envelope :=
  raw.loadEntry.bind fun entry => if entry.1.routed then some entry.1 else none

def retryEnvelopes (rawItems : List Raw) : List Envelope := rawItems.filterMap routedEntry

def requeuedBy (key : String) : List Raw → Option Envelope
  | [.envelope envelope] =>
      if envelope.routed ∧ key = streamKey envelope.eventType then some envelope else none
  | _ => none

def requeues (envelope : Envelope) : (command : Command) → Except Failure command.Reply → Bool
  | .redis (.rpush key values), .ok _ => requeuedBy key values = some envelope
  | _, _ => false

/-- Whether a command filed the entry, which `enqueue_quarantine_event` does first. -/
def files (entry : QuarantineEntry) : (command : Command) → Except Failure command.Reply → Bool
  | .redis (.rpush key values), .ok _ =>
      key = runtimeDeadLetterQueue ∧ values = [.quarantine entry]
  | _, _ => false

def requeued (envelope : Envelope) (trace : List (Thread × services.Event)) : Nat :=
  trace.countP fun entry => requeues envelope entry.2.1 entry.2.2

def filed (entry : QuarantineEntry) (trace : List (Thread × services.Event)) : Nat :=
  trace.countP fun event => files entry event.2.1 event.2.2

/-- The envelopes for which `enqueue_retry_event` was called. -/
def enqueuedRetries (started : List Task) : List Envelope :=
  started.filterMap fun
    | .enqueueRetry entry => routedEntry (.retry entry)
    | _ => none

def Untouched (started : List Task) (entry : QuarantineEntry) : Prop :=
  ∀ eventId, .removeQuarantine eventId ∈ started → entry.envelope.eventId ≠ some eventId

/-- No entry is lost and none is duplicated. -/
structure Conserved (before after : Redis.Store Raw) (started : List Task)
    (trace : List (Thread × services.Event)) : Prop where
  retries : ∀ envelope : Envelope, envelope.routed →
    (retryEnvelopes (before.lists runtimeRetryQueue)).count envelope +
        (enqueuedRetries started).count envelope =
      (retryEnvelopes (after.lists runtimeRetryQueue)).count envelope + requeued envelope trace
  quarantined : ∀ entry, Untouched started entry →
    (before.lists runtimeQuarantineQueue).count (.quarantine entry) + filed entry trace =
      (after.lists runtimeQuarantineQueue).count (.quarantine entry)

/-- How far a task has got with the list it rewrites or appends to. -/
inductive Rewrite where
  | idle
  | filing (entry : RetryEntry)
  | reporting
  | quarantining (entry : QuarantineEntry)
  | looking
  | read (items : List Raw)
  | releasing (held : List Envelope)
  | checking (eventId : String)
  | listed (eventId : String) (items : List Raw)
  | restoring (held : List Raw)

namespace Rewrite

def initial : Task → Rewrite
  | .release _ => looking
  | .enqueueRetry entry => filing entry
  | .enqueueQuarantine _ _ _ _ _ => reporting
  | .removeQuarantine eventId => checking eventId
  | _ => idle

def next : Rewrite → (command : Command) → Except Failure command.Reply → Rewrite
  | filing _, .redis (.rpush _ _), .ok _ => idle
  | reporting, .redis (.rpush _ [.quarantine entry]), .ok _ => quarantining entry
  | quarantining _, .redis (.rpush _ _), .ok _ => idle
  | looking, .redis (.lrange _ _ _), .ok items => read items
  | read items, .redis (.ltrim _ _ _), .ok _ => releasing (retryEnvelopes items)
  | releasing held, .redis (.rpush key values), .ok _ =>
      if key = runtimeRetryQueue then idle
      else releasing ((requeuedBy key values).elim held held.erase)
  | checking eventId, .redis (.lrange _ _ _), .ok items => listed eventId items
  | listed eventId items, .redis (.delete _), .ok _ => restoring (remainingEntries eventId items)
  | restoring _, .redis (.rpush _ _), .ok _ => idle
  | phase, _, _ => phase

def allows : Rewrite → Command → Prop
  | idle, .redis _ => False
  | filing entry, .redis command => command = .rpush runtimeRetryQueue [.retry entry]
  | reporting, .redis command =>
      ∃ entry, command = .rpush runtimeDeadLetterQueue [.quarantine entry]
  | quarantining entry, .redis command =>
      command = .rpush runtimeQuarantineQueue [.quarantine entry]
  | looking, .redis command => ∃ stop, command = .lrange runtimeRetryQueue 0 stop
  | read items, .redis command => command = .ltrim runtimeRetryQueue items.length (-1)
  | releasing held, .redis command =>
      (∃ values, command = .rpush runtimeRetryQueue values ∧ (retryEnvelopes values).Perm held) ∨
        ∃ key values, command = .rpush key values ∧
          key ∉ [runtimeRetryQueue, runtimeQuarantineQueue, runtimeDeadLetterQueue] ∧
          ∀ envelope, requeuedBy key values = some envelope → envelope ∈ held
  | checking _, .redis command => command = .lrange runtimeQuarantineQueue 0 (-1)
  | listed _ _, .redis command => command = .delete runtimeQuarantineQueue
  | restoring held, .redis command => command = .rpush runtimeQuarantineQueue held
  | _, _ => True

def retryHeld : Rewrite → List Envelope
  | filing entry => retryEnvelopes [.retry entry]
  | releasing held => held
  | _ => []

def quarantineHeld : Rewrite → List Raw
  | quarantining entry => [.quarantine entry]
  | restoring held => held
  | _ => []

def removes : Rewrite → Option String
  | checking eventId => some eventId
  | listed eventId _ => some eventId
  | _ => none

def Settled (phase : Rewrite) : Prop := phase.retryHeld = [] ∧ phase.quarantineHeld = []

end Rewrite

@[simps -fullyApplied] def rewriting : Protocol services Task Rewrite :=
  ⟨.idle, Rewrite.initial, Rewrite.next, Rewrite.allows, fun _ _ => True⟩

/-- A trim drops exactly the entries its release read, a deletion exactly those
its removal read, and no call raises or is cut off. -/
def undisturbed : Discipline services World Oracle Task Rewrite where
  starts _ _ task :=
    match task with
    | .release _ => True
    | .enqueueRetry _ => True
    | .enqueueQuarantine _ _ _ _ _ => True
    | .removeQuarantine _ => True
    | _ => False
  runs view thread oracle command :=
    oracle.fault = none ∧
      (∀ items, view.phases thread = .read items →
        command = .redis (.ltrim runtimeRetryQueue items.length (-1)) →
        ((view.world.redis.lists runtimeRetryQueue).take items.length).Perm items) ∧
      ∀ eventId items, view.phases thread = .listed eventId items →
        command = .redis (.delete runtimeQuarantineQueue) →
        (view.world.redis.lists runtimeQuarantineQueue).Perm items
  dies _ _ := False

abbrev Rewrites {α : Type} (program : Program services α) (phase : Rewrite) : Prop :=
  program.Follows rewriting (fun _ reached => reached.Settled) (fun _ _ => True) phase

theorem retryEnvelopes_append (first second : List Raw) :
    retryEnvelopes (first ++ second) = retryEnvelopes first ++ retryEnvelopes second :=
  List.filterMap_append

theorem requeuedBy_eq_some {key : String} {values : List Raw} {envelope : Envelope} :
    requeuedBy key values = some envelope ↔
      values = [.envelope envelope] ∧ envelope.routed ∧ key = streamKey envelope.eventType := by
  constructor
  · intro found
    unfold requeuedBy at found
    split at found
    · split at found
      · rename_i sent routed
        cases found
        exact ⟨rfl, routed⟩
      · cases found
    · cases found
  · rintro ⟨rfl, routed⟩
    simp [requeuedBy, routed]

theorem requeuedBy_elsewhere {key : String} {sent : Envelope}
    (elsewhere : sent.routed → key ≠ streamKey sent.eventType) :
    requeuedBy key [.envelope sent] = none := by
  by_contra found
  obtain ⟨envelope, requeued⟩ := Option.ne_none_iff_exists'.mp found
  obtain ⟨same, routed, own⟩ := requeuedBy_eq_some.mp requeued
  cases same
  exact elsewhere routed own

theorem push_rewrites {key : String} {sent : Envelope} {held : List Envelope}
    (other : key ∉ [runtimeRetryQueue, runtimeQuarantineQueue, runtimeDeadLetterQueue])
    (inside : ∀ envelope, requeuedBy key [.envelope sent] = some envelope → envelope ∈ held) :
    (call (.redis (.rpush key [.envelope sent]))).Follows rewriting
      (fun _ phase =>
        phase = .releasing ((requeuedBy key [.envelope sent]).elim held held.erase))
      (fun _ _ => True) (.releasing held) := by
  have noRetry : key ≠ runtimeRetryQueue := by
    rintro rfl
    simp at other
  rw [follows_call]
  constructor
  · exact .inr ⟨key, _, rfl, other, inside⟩
  · exact ⟨fun reply _ => by simp [Rewrite.next, noRetry], fun _ _ => trivial⟩

theorem streamKey_not_rewritten (eventType : String) : streamKey eventType ∉
    [runtimeRetryQueue, runtimeQuarantineQueue, runtimeDeadLetterQueue] := by
  have retry := streamKey_ne_retry eventType
  have quarantine := streamKey_ne_quarantine eventType
  have dead := streamKey_ne_deadLetter eventType
  simp [retry, quarantine, dead]

/-- Requeueing takes the envelope from the hands of the task. -/
theorem requeue_rewrites {sent : Envelope} {held : List Envelope}
    (inside : sent.routed → sent ∈ held) :
    (requeueRuntimeEvent sent).Follows rewriting
      (fun _ phase => phase = .releasing (if sent.routed then held.erase sent else held))
      (fun _ _ => True) (.releasing held) := by
  have last : ∀ rest : List Envelope, (do
      let _ ← call (.redis (.rpush allEventsKey [.envelope sent]))
      let _ ← call (.redis (.rpush runtimeEventsQueue [.envelope sent])) :
        Program services Unit).Follows rewriting (fun _ phase => phase = .releasing rest)
        (fun _ _ => True) (.releasing rest) := by
    intro rest
    have all : requeuedBy allEventsKey [.envelope sent] = none := by
      apply requeuedBy_elsewhere
      intro routed same
      have isAll : "all" = sent.eventType := streamKey_injective same
      simp [Envelope.routed, ← isAll] at routed
    have events : requeuedBy runtimeEventsQueue [.envelope sent] = none :=
      requeuedBy_elsewhere fun _ => (streamKey_ne_events _).symm
    refine follows_then (push_rewrites (by decide) (by simp [all])) ?_ (fun _ _ _ => trivial)
    rintro _ _ rfl
    refine follows_then (push_rewrites (by decide) (by simp [events])) ?_ (fun _ _ _ => trivial)
    rintro _ _ rfl
    simp [all, events]
  unfold requeueRuntimeEvent
  by_cases typed : sent.eventType = ""
  · have unrouted : sent.routed = false := by simp [Envelope.routed, typed]
    simpa [typed, unrouted] using last held
  · have own : requeuedBy (streamKey sent.eventType) [.envelope sent] =
        if sent.routed then some sent else none := by
      simp [requeuedBy]
    have kept : ∀ envelope, requeuedBy (streamKey sent.eventType) [.envelope sent] =
        some envelope → envelope ∈ held := by
      intro envelope found
      obtain ⟨same, routed, _⟩ := requeuedBy_eq_some.mp found
      cases same
      exact inside routed
    simp only [typed, ne_eq, not_false_eq_true, if_true]
    refine follows_then
      (push_rewrites (streamKey_not_rewritten sent.eventType) kept) ?_ (fun _ _ _ => trivial)
    rintro _ _ rfl
    have remains : (requeuedBy (streamKey sent.eventType) [.envelope sent]).elim held held.erase =
        if sent.routed then held.erase sent else held := by
      rw [own]
      split <;> rfl
    rw [remains]
    exact last _

/-- The loop of a release, by induction on the entries it has not looked at:
these and the deferred ones are what the task holds. -/
theorem releaseLoop_rewrites (now : Time) (remaining : List Raw) (released : Nat)
    (deferred : List Raw) (held : List Envelope)
    (holds : held.Perm (retryEnvelopes remaining ++ retryEnvelopes deferred)) :
    (releaseLoop now remaining released deferred).Follows rewriting
      (fun result phase => ∃ held : List Envelope, phase = .releasing held ∧
        held.Perm (retryEnvelopes result.2))
      (fun _ _ => True) (.releasing held) := by
  induction remaining generalizing released deferred held with
  | nil => exact ⟨held, rfl, by simpa [retryEnvelopes] using holds⟩
  | cons raw remaining ih =>
    have split : retryEnvelopes (raw :: remaining) =
        (routedEntry raw).toList ++ retryEnvelopes remaining := by
      cases found : routedEntry raw <;> simp [retryEnvelopes, found]
    rw [split] at holds
    unfold releaseLoop
    cases loaded : raw.loadEntry with
    | none =>
      have nothing : routedEntry raw = none := by simp [routedEntry, loaded]
      rw [nothing] at holds
      exact ih released deferred held holds
    | some entry =>
      obtain ⟨sent, nextRetryAt⟩ := entry
      have own : routedEntry raw = if sent.routed then some sent else none := by
        simp [routedEntry, loaded]
      dsimp only
      split
      · exact True.intro
      · have inside : sent.routed → sent ∈ held := by
          intro routed
          apply holds.mem_iff.mpr
          simp [own, routed]
        refine follows_then (requeue_rewrites inside) ?_ (fun _ _ _ => trivial)
        rintro _ _ rfl
        apply ih
        by_cases routed : sent.routed
        · have erased := holds.erase sent
          simpa [own, routed] using erased
        · simpa [own, routed] using holds
      · apply ih
        have moved : retryEnvelopes (deferred ++ [raw]) =
            retryEnvelopes deferred ++ (routedEntry raw).toList := by
          cases found : routedEntry raw <;> simp [retryEnvelopes, found]
        rw [moved, ← List.append_assoc]
        exact holds.trans (by
          rw [List.append_assoc]
          exact List.perm_append_comm)

theorem release_rewrites (limit : Int) : Rewrites (releaseDueRetryEvents limit) .looking := by
  refine follows_bind_call ⟨⟨_, rfl⟩, fun items _ => ?_, fun _ _ => trivial⟩
  by_cases nothing : items = []
  · simp only [nothing, if_true]
    exact ⟨rfl, rfl⟩
  · simp only [nothing, if_false]
    refine follows_bind_call ⟨rfl, fun _ _ => ?_, fun _ _ => trivial⟩
    refine follows_bind_call ⟨trivial, fun now _ => ?_, fun _ _ => trivial⟩
    refine follows_then
      (releaseLoop_rewrites now items 0 [] (retryEnvelopes items) (by simp [retryEnvelopes])) ?_
      (fun _ _ _ => trivial)
    rintro ⟨released, deferred⟩ _ ⟨held, rfl, holds⟩
    dsimp only
    by_cases none : deferred = []
    · subst none
      have empty : held = [] := List.Perm.eq_nil holds
      simp only [ne_eq, not_true_eq_false, if_false]
      exact ⟨empty, rfl⟩
    · simp only [ne_eq, none, not_false_eq_true, if_true]
      refine follows_bind_call ⟨.inl ⟨deferred, rfl, holds.symm⟩, fun _ _ => ?_, fun _ _ => trivial⟩
      exact ⟨rfl, rfl⟩

theorem removeQuarantine_rewrites (eventId : String) :
    Rewrites (removeQuarantineEvent eventId) (.checking eventId) := by
  refine follows_bind_call ⟨rfl, fun items _ => ?_, fun _ _ => trivial⟩
  by_cases nothing : items = []
  · simp only [nothing, if_true]
    exact ⟨rfl, rfl⟩
  · simp only [nothing, if_false]
    refine follows_bind_call ⟨rfl, fun _ _ => ?_, fun _ _ => trivial⟩
    by_cases none : remainingEntries eventId items = []
    · simp only [none, ne_eq, not_true_eq_false, if_false]
      exact ⟨rfl, none⟩
    · simp only [none, ne_eq, not_false_eq_true, if_true]
      refine follows_bind_call ⟨rfl, fun _ _ => ?_, fun _ _ => trivial⟩
      exact ⟨rfl, rfl⟩

theorem enqueueRetry_rewrites (entry : RetryEntry) :
    Rewrites (enqueueRetryEvent entry) (.filing entry) := by
  refine follows_bind_call ⟨rfl, fun _ _ => ?_, fun _ _ => trivial⟩
  exact ⟨rfl, rfl⟩

theorem enqueueQuarantine_rewrites (envelope : Envelope) (errorMessage reasonCode : String)
    (retryCount maxRetry : Nat) :
    Rewrites (enqueueQuarantineEvent envelope errorMessage reasonCode retryCount maxRetry)
      .reporting := by
  refine follows_bind_call ⟨trivial, fun now _ => ?_, fun _ _ => trivial⟩
  refine follows_bind_call ⟨⟨_, rfl⟩, fun _ _ => ?_, fun _ _ => trivial⟩
  refine follows_bind_call ⟨rfl, fun _ _ => ?_, fun _ _ => trivial⟩
  exact ⟨rfl, rfl⟩

theorem code_rewrites (hashing : Hashing IntentPayload) (view : View services World Task Rewrite)
    (thread : Thread) (task : Task) (permitted : undisturbed.starts view thread task) :
    Rewrites (code hashing task) (Rewrite.initial task) := by
  have finished : ∀ {α : Type} {program : Program services α} {phase : Rewrite},
      Rewrites program phase → Rewrites (program.bind fun _ => Program.done ()) phase :=
    fun rewrites => (follows_bind _ _).mpr rewrites
  cases task with
  | release limit => exact finished (release_rewrites limit)
  | enqueueRetry entry => exact finished (enqueueRetry_rewrites entry)
  | enqueueQuarantine envelope errorMessage reasonCode retryCount maxRetry =>
    exact finished (enqueueQuarantine_rewrites _ _ _ _ _)
  | removeQuarantine eventId => exact removeQuarantine_rewrites eventId
  | _ => exact permitted.elim

section Invariant

variable {before : Redis.Store Raw} {view next : View services World Task Rewrite}
  {thread : Thread}

/-- The ledger of a run: what was there and what was enqueued is there now, or
was requeued, or is in the hands of a task. -/
structure Balanced (before : Redis.Store Raw) (view : View services World Task Rewrite) :
    Prop where
  announced : ∀ thread eventId, (view.phases thread).removes = some eventId →
    .removeQuarantine eventId ∈ view.started
  retries : ∀ envelope : Envelope, envelope.routed → ∃ held,
    InHands (fun phase => phase.retryHeld.count envelope) view.phases held ∧
      (retryEnvelopes (before.lists runtimeRetryQueue)).count envelope +
          (enqueuedRetries view.started).count envelope =
        (retryEnvelopes (view.world.redis.lists runtimeRetryQueue)).count envelope +
          requeued envelope view.trace + held
  quarantined : ∀ entry, Untouched view.started entry → ∃ held,
    InHands (fun phase => phase.quarantineHeld.count (.quarantine entry)) view.phases held ∧
      (before.lists runtimeQuarantineQueue).count (.quarantine entry) + filed entry view.trace =
        (view.world.redis.lists runtimeQuarantineQueue).count (.quarantine entry) + held

/-- One thread's step keeps the ledger when it balances by itself. -/
structure Transfer (thread : Thread) (phase : Rewrite)
    (view next : View services World Task Rewrite) : Prop where
  phases : next.phases = Function.update view.phases thread phase
  started : ∀ task ∈ view.started, task ∈ next.started
  announced : ∀ eventId, phase.removes = some eventId → .removeQuarantine eventId ∈ next.started
  retries : ∀ envelope : Envelope, envelope.routed →
    (enqueuedRetries next.started).count envelope +
        (retryEnvelopes (view.world.redis.lists runtimeRetryQueue)).count envelope +
        requeued envelope view.trace + (view.phases thread).retryHeld.count envelope =
      (enqueuedRetries view.started).count envelope +
        (retryEnvelopes (next.world.redis.lists runtimeRetryQueue)).count envelope +
        requeued envelope next.trace + phase.retryHeld.count envelope
  quarantined : ∀ entry, Untouched next.started entry →
    filed entry next.trace +
        (view.world.redis.lists runtimeQuarantineQueue).count (.quarantine entry) +
        (view.phases thread).quarantineHeld.count (.quarantine entry) =
      filed entry view.trace +
        (next.world.redis.lists runtimeQuarantineQueue).count (.quarantine entry) +
        phase.quarantineHeld.count (.quarantine entry)

theorem Balanced.transfer (balanced : Balanced before view) {phase : Rewrite}
    (transfer : Transfer thread phase view next) : Balanced before next := by
  constructor
  · intro other eventId found
    rw [transfer.phases] at found
    by_cases isThread : other = thread
    · subst isThread
      exact transfer.announced eventId (by simpa using found)
    · rw [Function.update_of_ne isThread] at found
      exact transfer.started _ (balanced.announced other eventId found)
  · intro envelope routed
    obtain ⟨held, hands, ledger⟩ := balanced.retries envelope routed
    obtain ⟨others, split, exchanged⟩ := hands.exchange thread
    have local' := transfer.retries envelope routed
    rw [transfer.phases]
    exact ⟨_, exchanged phase, by omega⟩
  · intro entry untouched
    have earlier : Untouched view.started entry := fun eventId asked =>
      untouched eventId (transfer.started _ asked)
    obtain ⟨held, hands, ledger⟩ := balanced.quarantined entry earlier
    obtain ⟨others, split, exchanged⟩ := hands.exchange thread
    have local' := transfer.quarantined entry untouched
    rw [transfer.phases]
    exact ⟨_, exchanged phase, by omega⟩

@[simp] theorem requeued_append (envelope : Envelope) (trace : List (Thread × services.Event))
    (thread : Thread) (event : services.Event) :
    requeued envelope (trace ++ [(thread, event)]) =
      requeued envelope trace + if requeues envelope event.1 event.2 then 1 else 0 := by
  simp [requeued, List.countP_singleton]

@[simp] theorem filed_append (entry : QuarantineEntry) (trace : List (Thread × services.Event))
    (thread : Thread) (event : services.Event) :
    filed entry (trace ++ [(thread, event)]) =
      filed entry trace + if files entry event.1 event.2 then 1 else 0 := by
  simp [filed, List.countP_singleton]

theorem Transfer.quiet {phase : Rewrite}
    (phases : next.phases = Function.update view.phases thread phase)
    (started : next.started = view.started)
    (announced : ∀ eventId, phase.removes = some eventId →
      .removeQuarantine eventId ∈ view.started)
    (retryHeld : phase.retryHeld = (view.phases thread).retryHeld)
    (quarantineHeld : phase.quarantineHeld = (view.phases thread).quarantineHeld)
    (retries : next.world.redis.lists runtimeRetryQueue =
      view.world.redis.lists runtimeRetryQueue)
    (quarantine : next.world.redis.lists runtimeQuarantineQueue =
      view.world.redis.lists runtimeQuarantineQueue)
    (requeues : ∀ envelope, requeued envelope next.trace = requeued envelope view.trace)
    (files : ∀ entry, filed entry next.trace = filed entry view.trace) :
    Transfer thread phase view next := by
  constructor
  · exact phases
  · exact fun task inside => started ▸ inside
  · exact fun eventId found => started ▸ announced eventId found
  · intro envelope _
    rw [started, retries, requeues, retryHeld]
  · intro entry _
    rw [files, quarantine, quarantineHeld]

variable {hashing : Hashing IntentPayload} {oracle : Oracle}

section Transferring

variable (sound : oracle.fault = none)

include sound

/-- A push is balanced when what it appends, and what it requeues or files, is
what leaves the hands of its task. -/
theorem transfer_push {phase reached : Rewrite}
    (was : view.phases thread = phase) {key : String} {values : List Raw}
    (reaches : ∀ length, phase.next (.redis (.rpush key values)) (.ok length) = reached)
    (removesNone : reached.removes = none)
    (retries : ∀ envelope : Envelope, envelope.routed → phase.retryHeld.count envelope =
      (if key = runtimeRetryQueue then (retryEnvelopes values).count envelope else 0) +
        (if requeuedBy key values = some envelope then 1 else 0) +
        reached.retryHeld.count envelope)
    (quarantined : ∀ entry, (if key = runtimeDeadLetterQueue ∧ values = [.quarantine entry]
        then 1 else 0) + phase.quarantineHeld.count (.quarantine entry) =
      (if key = runtimeQuarantineQueue then values.count (.quarantine entry) else 0) +
        reached.quarantineHeld.count (.quarantine entry)) :
    Transfer thread reached view
      (view.perform (runtime hashing).toService rewriting thread oracle
        (.redis (.rpush key values))) := by
  rw [View.perform_store hashing rewriting view thread sound, was, rewriting_next, reaches]
  constructor
  · rfl
  · exact fun task inside => inside
  · intro eventId found
    rw [removesNone] at found
    cases found
  · intro envelope routed
    have held := retries envelope routed
    simp only [requeued_append, requeues, decide_eq_true_eq, Redis.Store.perform,
      Redis.Store.put_lists, was]
    by_cases own : runtimeRetryQueue = key
    · subst own
      rw [Function.update_self, retryEnvelopes_append, List.count_append]
      simp only [if_true] at held
      omega
    · rw [Function.update_of_ne own]
      rw [if_neg (Ne.symm own)] at held
      omega
  · intro entry _
    have held := quarantined entry
    simp only [filed_append, files, decide_eq_true_eq, Redis.Store.perform,
      Redis.Store.put_lists, was]
    by_cases own : runtimeQuarantineQueue = key
    · subst own
      rw [Function.update_self, List.count_append]
      simp only [if_true] at held
      omega
    · rw [Function.update_of_ne own]
      rw [if_neg (Ne.symm own)] at held
      omega

theorem transfer_read {phase : Rewrite}
    (was : view.phases thread = phase) {key : String} {start stop : Int}
    {reads : List Raw → Rewrite}
    (reaches : ∀ items, phase.next (.redis (.lrange key start stop)) (.ok items) = reads items)
    (removesSame : ∀ items, (reads items).removes = phase.removes)
    (announced : ∀ eventId, phase.removes = some eventId →
      .removeQuarantine eventId ∈ view.started)
    (retryHeld : ∀ items, (reads items).retryHeld = phase.retryHeld)
    (quarantineHeld : ∀ items, (reads items).quarantineHeld = phase.quarantineHeld) :
    Transfer thread (reads (Redis.segment (view.world.redis.lists key) start stop)) view
      (view.perform (runtime hashing).toService rewriting thread oracle
        (.redis (.lrange key start stop))) := by
  have reached := reaches (Redis.segment (view.world.redis.lists key) start stop)
  rw [View.perform_store hashing rewriting view thread sound, was, rewriting_next]
  apply Transfer.quiet
  · exact congrArg (Function.update view.phases thread) reached
  · rfl
  · exact fun eventId found => announced eventId (removesSame _ ▸ found)
  · rw [was, retryHeld]
  · rw [was, quarantineHeld]
  · rfl
  · rfl
  · intro envelope
    simp [requeues]
  · intro entry
    simp [files]

theorem transfer_trim {items : List Raw} (was : view.phases thread = .read items)
    (dropped : ((view.world.redis.lists runtimeRetryQueue).take items.length).Perm items) :
    Transfer thread (.releasing (retryEnvelopes items)) view
      (view.perform (runtime hashing).toService rewriting thread oracle
        (.redis (.ltrim runtimeRetryQueue items.length (-1)))) := by
  rw [View.perform_store hashing rewriting view thread sound, was]
  constructor
  · rfl
  · exact fun task inside => inside
  · exact nofun
  · intro envelope _
    have whole := congrArg (fun rawItems => (retryEnvelopes rawItems).count envelope)
      (List.take_append_drop items.length (view.world.redis.lists runtimeRetryQueue))
    have same : (retryEnvelopes ((view.world.redis.lists runtimeRetryQueue).take
        items.length)).count envelope = (retryEnvelopes items).count envelope :=
      (dropped.filterMap routedEntry).count_eq envelope
    rw [retryEnvelopes_append, List.count_append, same] at whole
    simp only [requeued_append, requeues, Redis.Store.perform, Redis.Store.put_lists, was,
      Function.update_self, Redis.segment_to_end]
    simp only [Rewrite.retryHeld, List.count_nil, Bool.false_eq_true, if_false]
    omega
  · intro entry _
    have other : runtimeQuarantineQueue ≠ runtimeRetryQueue := by decide
    simp only [filed_append, files, Redis.Store.perform, Redis.Store.put_lists, was,
      Function.update_of_ne other]
    simp [Rewrite.quarantineHeld]

theorem transfer_delete {eventId : String} {items : List Raw}
    (was : view.phases thread = .listed eventId items)
    (asked : .removeQuarantine eventId ∈ view.started)
    (whole : (view.world.redis.lists runtimeQuarantineQueue).Perm items) :
    Transfer thread (.restoring (remainingEntries eventId items)) view
      (view.perform (runtime hashing).toService rewriting thread oracle
        (.redis (.delete runtimeQuarantineQueue))) := by
  rw [View.perform_store hashing rewriting view thread sound, was]
  constructor
  · rfl
  · exact fun task inside => inside
  · exact nofun
  · intro envelope _
    have other : runtimeRetryQueue ≠ runtimeQuarantineQueue := by decide
    simp only [requeued_append, requeues, Redis.Store.perform, was, Function.update_of_ne other]
    simp [Rewrite.retryHeld]
  · intro entry untouched
    have kept : (remainingEntries eventId items).count (.quarantine entry) =
        items.count (.quarantine entry) := by
      apply List.count_filter
      simpa [Raw.loadEntry] using untouched eventId asked
    simp only [filed_append, files, Redis.Store.perform, was, Function.update_self]
    simp only [Rewrite.quarantineHeld, kept, whole.count_eq, List.count_nil, Bool.false_eq_true,
      if_false]
    omega

end Transferring

theorem transfer_offline (command : Command) (offline : ∀ issued, command ≠ .redis issued)
    (announced : ∀ eventId, (view.phases thread).removes = some eventId →
      .removeQuarantine eventId ∈ view.started) :
    Transfer thread (view.phases thread) view
      (view.perform (runtime hashing).toService rewriting thread oracle command) := by
  have same : (view.world.perform thread oracle command).1.redis = view.world.redis := by
    rcases view.world.perform_redis thread oracle command with same | ⟨issued, isRedis, _⟩
    · exact same
    · exact absurd isRedis (offline issued)
  have stays : (view.phases thread).next command (view.world.perform thread oracle command).2 =
      view.phases thread := by
    cases command with
    | redis issued => exact absurd rfl (offline issued)
    | _ => cases view.phases thread <;> rfl
  have pushes : ∀ envelope, requeues envelope command
      (view.world.perform thread oracle command).2 = false := by
    intro envelope
    cases command with
    | redis issued => exact absurd rfl (offline issued)
    | _ => rfl
  have reports : ∀ entry, files entry command
      (view.world.perform thread oracle command).2 = false := by
    intro entry
    cases command with
    | redis issued => exact absurd rfl (offline issued)
    | _ => rfl
  apply Transfer.quiet
  · exact congrArg (Function.update view.phases thread) stays
  · rfl
  · exact announced
  · rfl
  · rfl
  · exact congrArg (fun redis => redis.lists runtimeRetryQueue) same
  · exact congrArg (fun redis => redis.lists runtimeQuarantineQueue) same
  · intro envelope
    simp [View.perform, pushes]
  · intro entry
    simp [View.perform, reports]

variable (balanced : Balanced before view)

include balanced

/-- Every allowed command of an undisturbed run keeps the ledger. -/
theorem Balanced.perform (command : Command) (allowed : (view.phases thread).allows command)
    (permitted : undisturbed.runs view thread oracle command) :
    Balanced before
      (view.perform (runtime hashing).toService rewriting thread oracle command) := by
  obtain ⟨sound, trimmed, deleted⟩ := permitted
  by_cases offline : ∀ issued, command ≠ .redis issued
  · exact balanced.transfer (transfer_offline command offline (balanced.announced thread))
  · simp only [not_forall, not_not] at offline
    obtain ⟨issued, rfl⟩ := offline
    have announced := balanced.announced thread
    cases was : view.phases thread with
    | idle =>
      rw [was] at allowed
      exact allowed.elim
    | filing entry =>
      rw [was] at allowed
      obtain rfl : issued = .rpush runtimeRetryQueue [.retry entry] := allowed
      apply balanced.transfer
      apply transfer_push sound was (fun _ => rfl) rfl
      · intro envelope _
        simp [Rewrite.retryHeld, requeuedBy]
      · intro quarantined
        have noReport : runtimeRetryQueue ≠ runtimeQuarantineQueue := by decide
        simp [Rewrite.quarantineHeld, noReport]
    | reporting =>
      rw [was] at allowed
      obtain ⟨entry, rfl⟩ := allowed
      apply balanced.transfer
      apply transfer_push sound was (fun _ => rfl) rfl
      · intro envelope _
        have noRetry : runtimeDeadLetterQueue ≠ runtimeRetryQueue := by decide
        simp [Rewrite.retryHeld, requeuedBy, noRetry]
      · intro quarantined
        have noReport : runtimeDeadLetterQueue ≠ runtimeQuarantineQueue := by decide
        simp [Rewrite.quarantineHeld, noReport, List.count_singleton]
    | quarantining entry =>
      rw [was] at allowed
      obtain rfl : issued = .rpush runtimeQuarantineQueue [.quarantine entry] := allowed
      apply balanced.transfer
      apply transfer_push sound was (fun _ => rfl) rfl
      · intro envelope _
        have noRetry : runtimeQuarantineQueue ≠ runtimeRetryQueue := by decide
        simp [Rewrite.retryHeld, requeuedBy, noRetry]
      · intro quarantined
        have noFile : runtimeQuarantineQueue ≠ runtimeDeadLetterQueue := by decide
        simp [Rewrite.quarantineHeld, noFile]
    | looking =>
      rw [was] at allowed announced
      obtain ⟨stop, rfl⟩ := allowed
      exact balanced.transfer (transfer_read sound was (fun _ => rfl) (fun _ => rfl) announced
        (fun _ => rfl) (fun _ => rfl))
    | read items =>
      rw [was] at allowed
      obtain rfl : issued = .ltrim runtimeRetryQueue items.length (-1) := allowed
      exact balanced.transfer (transfer_trim sound was (trimmed items was rfl))
    | releasing held =>
      rw [was] at allowed
      rcases allowed with ⟨values, rfl, same⟩ | ⟨key, values, rfl, other, inside⟩
      · apply balanced.transfer
        apply transfer_push sound was (fun _ => if_pos rfl) rfl
        · intro envelope _
          have nothing : requeuedBy runtimeRetryQueue values ≠ some envelope := by
            intro found
            exact streamKey_ne_retry _ (requeuedBy_eq_some.mp found).2.2.symm
          simp [Rewrite.retryHeld, same.count_eq, nothing]
        · intro quarantined
          have noReport : runtimeRetryQueue ≠ runtimeQuarantineQueue := by decide
          have noFile : runtimeRetryQueue ≠ runtimeDeadLetterQueue := by decide
          simp [Rewrite.quarantineHeld, noReport, noFile]
      · simp only [List.mem_cons, List.not_mem_nil, or_false, not_or] at other
        obtain ⟨noRetry, noReport, noFile⟩ := other
        apply balanced.transfer
        apply transfer_push sound was (fun _ => if_neg noRetry) rfl
        · intro envelope _
          cases found : requeuedBy key values with
          | none => simp [Rewrite.retryHeld, noRetry]
          | some sent =>
            have present : 0 < held.count sent := List.count_pos_iff.mpr (inside sent found)
            by_cases own : sent = envelope
            · subst own
              simp only [Rewrite.retryHeld, noRetry, if_false, Option.elim_some, if_true,
                List.count_erase_self]
              omega
            · have different : ¬envelope = sent := Ne.symm own
              simp [Rewrite.retryHeld, noRetry, own, List.count_erase_of_ne different]
        · intro quarantined
          simp [Rewrite.quarantineHeld, noReport, noFile]
    | checking eventId =>
      rw [was] at allowed announced
      obtain rfl : issued = .lrange runtimeQuarantineQueue 0 (-1) := allowed
      exact balanced.transfer (transfer_read sound was (fun _ => rfl) (fun _ => rfl) announced
        (fun _ => rfl) (fun _ => rfl))
    | listed eventId items =>
      rw [was] at allowed announced
      obtain rfl : issued = .delete runtimeQuarantineQueue := allowed
      exact balanced.transfer (transfer_delete sound was (announced eventId rfl)
        (deleted eventId items was rfl))
    | restoring held =>
      rw [was] at allowed
      obtain rfl : issued = .rpush runtimeQuarantineQueue held := allowed
      apply balanced.transfer
      apply transfer_push sound was (fun _ => rfl) rfl
      · intro envelope _
        have noRetry : runtimeQuarantineQueue ≠ runtimeRetryQueue := by decide
        have nothing : requeuedBy runtimeQuarantineQueue held ≠ some envelope := by
          intro found
          exact streamKey_ne_quarantine _ (requeuedBy_eq_some.mp found).2.2.symm
        simp [Rewrite.retryHeld, noRetry, nothing]
      · intro quarantined
        have noFile : runtimeQuarantineQueue ≠ runtimeDeadLetterQueue := by decide
        simp [Rewrite.quarantineHeld, noFile]

theorem Balanced.start (idle : view.phases thread = .idle) (task : Task) :
    Balanced before (view.start (runtime hashing).toService rewriting thread task) := by
  apply balanced.transfer
  constructor
  · rfl
  · exact fun other inside => List.mem_append_left _ inside
  · intro eventId found
    apply List.mem_append_right
    cases task with
    | removeQuarantine asked =>
      cases found
      exact List.mem_singleton_self _
    | _ => cases found
  · intro envelope _
    rw [idle]
    cases task with
    | enqueueRetry entry =>
      cases found : routedEntry (.retry entry) with
      | none =>
        simp [View.start, enqueuedRetries, Rewrite.initial, Rewrite.retryHeld, retryEnvelopes,
          found]
      | some sent =>
        simp [View.start, enqueuedRetries, Rewrite.initial, Rewrite.retryHeld, retryEnvelopes,
          found]
        omega
    | _ => simp [View.start, enqueuedRetries, Rewrite.initial, Rewrite.retryHeld]
  · intro entry _
    rw [idle]
    cases task <;> simp [View.start, Rewrite.initial, Rewrite.quarantineHeld]

theorem Balanced.stop (settled : (view.phases thread).Settled) :
    Balanced before (view.stop (runtime hashing).toService rewriting thread) := by
  apply balanced.transfer
  apply Transfer.quiet
  · rfl
  · rfl
  · exact nofun
  · exact settled.1.symm
  · exact settled.2.symm
  · rfl
  · rfl
  · exact fun _ => rfl
  · exact fun _ => rfl

end Invariant

section Runs

variable {hashing : Hashing IntentPayload}

theorem rewriting_governs : Governs (runtime hashing) rewriting undisturbed Rewrite.Settled
    (fun _ _ => True) :=
  ⟨fun _ _ _ _ => trivial, code_rewrites hashing⟩

theorem balanced_step {before : Redis.Store Raw} (view next : View services World Task Rewrite)
    (balanced : Balanced before view)
    (step : View.Step (runtime hashing) rewriting undisturbed Rewrite.Settled (fun _ _ => True)
      view next) : Balanced before next := by
  cases step with
  | started thread task idle permitted => exact balanced.start idle task
  | performed thread oracle command allowed permitted =>
    exact balanced.perform command allowed permitted
  | returned thread ended => exact balanced.stop ended
  | raised thread failure ended permitted | crashed thread permitted => exact permitted.elim

/-- When every trim drops exactly the entries that were read and so does every
deletion, any number of interleaved releases, removals and enqueues lose no
entry and duplicate none: this is so whenever no task is in progress. -/
theorem undisturbed_rewrites_conserve {redis : Redis.Store Raw} {database : Database}
    {accepted : List Order} {labels : List (Label Oracle Task)} {after : RuntimeMachine}
    (run : Run (runtime hashing) (undisturbed.Permits (runtime hashing) rewriting)
      (Machine.atRest (World.boot redis database accepted)) labels after)
    (quiet : ∀ thread, after.threads thread = none) :
    Conserved redis after.world.redis after.started after.trace := by
  have initially : Balanced redis
      ((Machine.atRest (World.boot redis database accepted)).view rewriting) := by
    constructor
    · exact nofun
    · intro envelope _
      refine ⟨0, inHands_nothing fun _ => rfl, ?_⟩
      simp [Machine.view, Machine.atRest, World.boot, enqueuedRetries, requeued]
    · intro entry _
      refine ⟨0, inHands_nothing fun _ => rfl, ?_⟩
      simp [Machine.view, Machine.atRest, World.boot, filed]
  have balanced := run.invariant rewriting_governs (Balanced redis) balanced_step
    (Machine.atRest_conforms _) initially
  have idle : ∀ thread, (after.view rewriting).phases thread = .idle := by
    intro thread
    simp [Machine.view, quiet thread, Protocol.phaseOf]
  constructor
  · intro envelope routed
    obtain ⟨held, hands, ledger⟩ := balanced.retries envelope routed
    have nothing : held = 0 := hands.eq_zero fun thread => by rw [idle]; rfl
    rw [nothing] at ledger
    exact ledger
  · intro entry untouched
    obtain ⟨held, hands, ledger⟩ := balanced.quarantined entry untouched
    have nothing : held = 0 := hands.eq_zero fun thread => by rw [idle]; rfl
    rw [nothing] at ledger
    exact ledger

/-- A step that drops exactly what was read, in the same order, and ends no task
by raising. -/
def dropsWhatItRead (machine : RuntimeMachine) : Label Oracle Task → Bool
  | .start _ task =>
      (match task with
        | .release _ => true
        | .enqueueRetry _ => true
        | .enqueueQuarantine _ _ _ _ _ => true
        | .removeQuarantine _ => true
        | _ => false) && !(code sampleHashing task).hasRaised
  | .run thread oracle =>
      oracle.fault.isNone &&
        (match rewriting.phaseOf (machine.threads thread) with
          | .read items =>
              (machine.world.redis.lists runtimeRetryQueue).take items.length = items
          | .listed _ items => machine.world.redis.lists runtimeQuarantineQueue = items
          | _ => true) &&
        match machine.threads thread with
        | none => true
        | some running =>
            !(running.next (machine.world.perform thread oracle running.command).2).hasRaised
  | .crash _ => false

theorem dropsWhatItRead_undisturbed (machine : RuntimeMachine) (label : Label Oracle Task)
    (tested : dropsWhatItRead machine label = true) :
    undisturbed.Permits (runtime sampleHashing) rewriting machine label := by
  cases label with
  | start thread task =>
    simp only [dropsWhatItRead, Bool.and_eq_true, Bool.not_eq_true'] at tested
    obtain ⟨kind, sound⟩ := tested
    constructor
    · cases task <;> first | exact trivial | simp at kind
    · intro failure raises
      have raises : code sampleHashing task = .fail failure := raises
      rw [raises] at sound
      cases sound
  | run thread oracle =>
    intro running found
    simp only [dropsWhatItRead, Bool.and_eq_true, Option.isNone_iff_eq_none, found,
      Bool.not_eq_true'] at tested
    obtain ⟨⟨unraised, drops⟩, sound⟩ := tested
    have phase : (machine.view rewriting).phases thread =
        rewriting.phaseOf (some running) := by simp [Machine.view, found]
    constructor
    · refine ⟨unraised, fun items reading _ => ?_, fun eventId items reading _ => ?_⟩
      · rw [phase] at reading
        simp only [reading, decide_eq_true_eq] at drops
        exact List.Perm.of_eq drops
      · rw [phase] at reading
        simp only [reading, decide_eq_true_eq] at drops
        exact List.Perm.of_eq drops
    · intro failure raises
      have raises : running.next (machine.world.perform thread oracle running.command).2 =
          .fail failure := raises
      rw [raises] at sound
      cases sound
  | crash thread => cases tested

/-- A due and a deferred retry, a release, and a removal that keeps one entry. -/
def rewrites : List (Label Oracle Task) :=
  .start 0 (.enqueueRetry (sampleRetry 0)) :: runs 0 1 steady ++
    .start 0 (.enqueueRetry (sampleRetry 1)) :: runs 0 1 steady ++
    .start 0 (.release 200) :: runs 0 7 steady ++
    .start 0 (.enqueueQuarantine sampleEnvelope "intent_missing" "intent_state_violation" 1 3) ::
      runs 0 3 steady ++
    .start 0 (.removeQuarantine "event-2") :: runs 0 3 steady

theorem undisturbed_rewrites_conserve_release :
    ∃ after : RuntimeMachine,
      Machine.steps (runtime sampleHashing) rewrites
        (Machine.atRest (World.boot emptyRedis (sampleDatabase []) [])) = some after ∧
      requeued sampleEnvelope after.trace = 1 ∧
      Conserved emptyRedis after.world.redis after.started after.trace := by
  have evaluated : (Machine.stepsIf (runtime sampleHashing) dropsWhatItRead rewrites
      sampleMachine).map (fun machine =>
        (requeued sampleEnvelope machine.trace, (machine.threads 0).isNone)) = some (1, true) := by
    decide +kernel
  obtain ⟨after, stepped, counted⟩ := Option.map_eq_some_iff.mp evaluated
  simp only [Prod.mk.injEq, Option.isNone_iff_eq_none] at counted
  have boot : sampleMachine.Lone 0 := fun _ _ => rfl
  have steps := Machine.steps_of_stepsIf _ stepped
  have quiet := (Machine.lone_steps boot (by decide) steps).idle counted.2
  have run : Run (runtime sampleHashing) (undisturbed.Permits (runtime sampleHashing) rewriting)
      sampleMachine rewrites after :=
    Run.of_stepsIf 0 (fun machine label _ _ tested =>
      dropsWhatItRead_undisturbed machine label tested) (fun _ _ => rfl) (by decide) stepped
  exact ⟨after, steps, counted.1, undisturbed_rewrites_conserve run quiet⟩

def overlappingReleases : List (Label Oracle Task) :=
  .start 0 (.enqueueRetry (sampleRetry 0)) :: runs 0 1 steady ++
    .start 0 (.release 200) :: runs 0 1 steady ++
    .start 1 (.release 200) :: runs 1 1 steady ++
    runs 0 5 steady ++ runs 1 5 steady

theorem overlapping_releases_duplicate :
    ∃ after : RuntimeMachine,
      Machine.steps (runtime sampleHashing) overlappingReleases
        (Machine.atRest (World.boot emptyRedis (sampleDatabase []) [])) = some after ∧
      after.threads 0 = none ∧ after.threads 1 = none ∧
      ¬Conserved emptyRedis after.world.redis after.started after.trace := by
  have evaluated : (Machine.steps (runtime sampleHashing) overlappingReleases
      sampleMachine).map (fun machine =>
        ((machine.threads 0).isNone, (machine.threads 1).isNone,
          (enqueuedRetries machine.started).count sampleEnvelope,
          (retryEnvelopes (machine.world.redis.lists runtimeRetryQueue)).count sampleEnvelope,
          requeued sampleEnvelope machine.trace)) = some (true, true, 1, 0, 2) := by
    decide +kernel
  obtain ⟨after, stepped, counted⟩ := Option.map_eq_some_iff.mp evaluated
  simp only [Prod.mk.injEq, Option.isNone_iff_eq_none] at counted
  obtain ⟨first, second, enqueued, kept, pushed⟩ := counted
  refine ⟨after, stepped, first, second, fun conserved => ?_⟩
  have ledger := conserved.retries sampleEnvelope (by decide)
  have nothing : (retryEnvelopes (emptyRedis.lists runtimeRetryQueue)).count sampleEnvelope = 0 :=
    rfl
  omega

end Runs

end Runtime
