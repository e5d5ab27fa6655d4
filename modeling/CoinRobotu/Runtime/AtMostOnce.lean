import CoinRobotu.Runtime.Submitting

/-!
# When an intent is submitted at most once

A pass submits an order only after it read the intent's log as open, and it
closes the log when it commits.
-/

open Interleaving

namespace Runtime

def submissions (accepted : List Order) (intentHash : String) : Nat :=
  accepted.countP (·.intentHash = intentHash)

def finalizations (events : List ExecutionIntentEvent) (intentId : String) : Nat :=
  events.countP fun event => event.intentId = intentId ∧ event.eventType = orderFinalized

/-- No order was accepted twice and no log was closed twice. -/
structure AtMostOnce (world : World) : Prop where
  submitted : ∀ intentHash, submissions world.accepted intentHash ≤ 1
  finalized : ∀ intentId, finalizations world.database.events intentId ≤ 1

/-- A log is read by a pass only while no other pass is submitting its intent,
and not while the intent's order was accepted and its log is still open. -/
def careful : Discipline services World Oracle Task Stage where
  starts _ _ task :=
    ∀ intentId action, task = .performRecovery intentId action → ¬closesByHand action
  runs view thread _ command := ∀ row, view.phases thread = .loaded row →
    command = .database (.findEvent row.intentId orderFinalized) →
      (∀ other current submitted closed, view.phases other = .submitting current submitted closed →
        current.intentId ≠ row.intentId) ∧
      (view.world.database.findEvent row.intentId orderFinalized = none →
        submissions view.world.accepted row.intentHash = 0)
  dies _ _ := True

@[simp] theorem submissions_append (accepted : List Order) (order : Order) (intentHash : String) :
    submissions (accepted ++ [order]) intentHash =
      submissions accepted intentHash + if order.intentHash = intentHash then 1 else 0 := by
  simp [submissions, List.countP_singleton]

@[simp] theorem finalizations_nil (intentId : String) : finalizations [] intentId = 0 := rfl

@[simp] theorem finalizations_append (events added : List ExecutionIntentEvent)
    (intentId : String) :
    finalizations (events ++ added) intentId =
      finalizations events intentId + finalizations added intentId :=
  List.countP_append

theorem finalizations_sublist {kept events : List ExecutionIntentEvent}
    (sublist : kept.Sublist events) (intentId : String) :
    finalizations kept intentId ≤ finalizations events intentId :=
  sublist.countP_le

theorem finalizations_open {database : Database} {intentId : String}
    (unfinished : database.findEvent intentId orderFinalized = none) :
    finalizations database.events intentId = 0 := by
  rw [finalizations, List.countP_eq_zero]
  intro event inside closes
  obtain ⟨same, finalized⟩ := by simpa using closes
  exact Database.findEvent_none.mp unfinished event inside same finalized

section Invariant

def Stage.closing : Stage → String → Nat
  | .submitting row _ true, intentId => if row.intentId = intentId then 1 else 0
  | _, _ => 0

/-- What a careful run keeps: at most one pass submits each intent, and what
that pass has done accounts for every accepted order and every closing event. -/
structure Sparing (world : World) (phases : Thread → Stage) : Prop where
  rooted : Rooted world phases
  unattended : ∀ thread, phases thread ≠ .operator
  once : AtMostOnce world
  pending : ∀ thread intentId,
    finalizations (world.sessions thread).newEvents intentId ≤ (phases thread).closing intentId
  alone : ∀ thread other row current submitted closed submitted' closed',
    phases thread = .submitting row submitted closed →
    phases other = .submitting current submitted' closed' →
    row.intentId = current.intentId → thread = other
  own : ∀ thread row submitted closed, phases thread = .submitting row submitted closed →
    submissions world.accepted row.intentHash ≤ submitted.toNat ∧
      finalizations world.database.events row.intentId +
        finalizations (world.sessions thread).newEvents row.intentId ≤ closed.toNat

variable {world after : World} {phases : Thread → Stage} {thread : Thread}

abbrev OthersKeep (thread : Thread) (world after : World) : Prop :=
  ∀ other, other ≠ thread → after.sessions other = world.sessions other

theorem Sparing.keep (sparing : Sparing world phases) (others : OthersKeep thread world after)
    (accepted : after.accepted = world.accepted) (database : after.database = world.database)
    (pending : ∀ intentId, finalizations (after.sessions thread).newEvents intentId ≤
      finalizations (world.sessions thread).newEvents intentId) : Sparing after phases := by
  have fewer : ∀ other intentId, finalizations (after.sessions other).newEvents intentId ≤
      finalizations (world.sessions other).newEvents intentId := by
    intro other intentId
    by_cases same : other = thread
    · subst same
      exact pending intentId
    · rw [others other same]
  refine ⟨fun other row found => database ▸ sparing.rooted other row found, sparing.unattended,
    ⟨accepted ▸ sparing.once.submitted, database ▸ sparing.once.finalized⟩,
    fun other intentId => (fewer other intentId).trans (sparing.pending other intentId),
    sparing.alone, fun other row submitted closed found => ?_⟩
  obtain ⟨orders, events⟩ := sparing.own other row submitted closed found
  rw [accepted, database]
  exact ⟨orders, (Nat.add_le_add_left (fewer other row.intentId) _).trans events⟩

theorem Sparing.settle (sparing : Sparing world phases) {stage : Stage}
    (inside : ∀ row, stage.row = some row → row ∈ world.database.intents)
    (quiet : ∀ row submitted closed, stage ≠ .submitting row submitted closed)
    (unattended : stage ≠ .operator)
    (nothing : ∀ intentId, finalizations (world.sessions thread).newEvents intentId = 0) :
    Sparing world (Function.update phases thread stage) := by
  have former : ∀ other row submitted closed,
      Function.update phases thread stage other = .submitting row submitted closed →
        phases other = .submitting row submitted closed := by
    intro other row submitted closed found
    by_cases same : other = thread
    · subst same
      exact absurd (by simpa using found) (quiet row submitted closed)
    · simpa [same] using found
  refine ⟨sparing.rooted.update thread inside, fun other => ?_, sparing.once,
    fun other intentId => ?_, fun first second _ _ _ _ _ _ left right => sparing.alone _ _ _ _ _ _
      _ _ (former _ _ _ _ left) (former _ _ _ _ right),
    fun other row submitted closed found => sparing.own _ _ _ _ (former _ _ _ _ found)⟩
  · by_cases same : other = thread
    · subst same
      simpa using unattended
    · simpa [same] using sparing.unattended other
  · by_cases same : other = thread
    · subst same
      simp [nothing]
    · simpa [same] using sparing.pending other intentId

variable {row : ExecutionIntent}

section Sparing

variable (sparing : Sparing world phases)

include sparing

/-- A pass that read the log as open, while nobody else submits the intent and
no order of it was accepted, starts its submission. -/
theorem Sparing.opens (loaded : phases thread = .loaded row)
    (unfinished : world.database.findEvent row.intentId orderFinalized = none)
    (nobody : ∀ other current submitted closed,
      phases other = .submitting current submitted closed → current.intentId ≠ row.intentId)
    (unsubmitted : submissions world.accepted row.intentHash = 0) :
    Sparing world (Function.update phases thread (.submitting row false false)) := by
  have nothing : ∀ intentId, finalizations (world.sessions thread).newEvents intentId = 0 := by
    intro intentId
    simpa [loaded, Stage.closing] using sparing.pending thread intentId
  refine ⟨sparing.rooted.update thread fun current found => ?_, fun other => ?_, sparing.once,
    fun other intentId => ?_, ?_, fun other current submitted closed found => ?_⟩
  · exact sparing.rooted thread current (by rw [loaded]; exact found)
  · by_cases same : other = thread
    · simp [same]
    · simpa [same] using sparing.unattended other
  · by_cases same : other = thread
    · simp [same, nothing]
    · simpa [same] using sparing.pending other intentId
  · intro first second left right _ _ _ _ leftFound rightFound same
    by_cases isFirst : first = thread <;> by_cases isSecond : second = thread
    · rw [isFirst, isSecond]
    · simp only [isFirst, Function.update_self, Stage.submitting.injEq] at leftFound
      simp only [ne_eq, isSecond, not_false_eq_true, Function.update_of_ne] at rightFound
      exact absurd (leftFound.1 ▸ same.symm) (nobody second right _ _ rightFound)
    · simp only [isSecond, Function.update_self, Stage.submitting.injEq] at rightFound
      simp only [ne_eq, isFirst, not_false_eq_true, Function.update_of_ne] at leftFound
      exact absurd (rightFound.1 ▸ same) (nobody first left _ _ leftFound)
    · exact sparing.alone _ _ _ _ _ _ _ _ (by simpa [isFirst] using leftFound)
        (by simpa [isSecond] using rightFound) same
  · by_cases same : other = thread
    · simp only [same, Function.update_self, Stage.submitting.injEq] at found
      obtain ⟨rfl, rfl, rfl⟩ := found
      rw [same, unsubmitted, finalizations_open unfinished, nothing]
      exact ⟨le_rfl, le_rfl⟩
    · exact sparing.own other current submitted closed (by simpa [same] using found)

theorem Sparing.alone_update
    {submitted closed : Bool} (held : phases thread = .submitting row submitted closed)
    (submitted' closed' : Bool) {first second : Thread} {left right : ExecutionIntent}
    {leftSubmitted leftClosed rightSubmitted rightClosed : Bool}
    (leftFound : Function.update phases thread (.submitting row submitted' closed') first =
      .submitting left leftSubmitted leftClosed)
    (rightFound : Function.update phases thread (.submitting row submitted' closed') second =
      .submitting right rightSubmitted rightClosed)
    (same : left.intentId = right.intentId) : first = second := by
  have former : ∀ {other current currentSubmitted currentClosed},
      Function.update phases thread (.submitting row submitted' closed') other =
        .submitting current currentSubmitted currentClosed →
      ∃ earlier earlierClosed, phases other = .submitting current earlier earlierClosed := by
    intro other current currentSubmitted currentClosed found
    by_cases isThread : other = thread
    · subst isThread
      simp only [Function.update_self, Stage.submitting.injEq] at found
      exact ⟨submitted, closed, found.1 ▸ held⟩
    · exact ⟨currentSubmitted, currentClosed, by simpa [isThread] using found⟩
  obtain ⟨_, _, leftFormer⟩ := former leftFound
  obtain ⟨_, _, rightFormer⟩ := former rightFound
  exact sparing.alone _ _ _ _ _ _ _ _ leftFormer rightFormer same

variable (others : OthersKeep thread world after)

include others

/-- The accepted order is the first one of its intent. -/
theorem Sparing.submits {closed : Bool} (held : phases thread = .submitting row false closed)
    {order : Order} (same : order.intentHash = row.intentHash)
    (accepted : after.accepted = world.accepted ++ [order])
    (database : after.database = world.database)
    (pending : (after.sessions thread).newEvents = (world.sessions thread).newEvents) :
    Sparing after (Function.update phases thread (.submitting row true closed)) := by
  have sessions : ∀ other, (after.sessions other).newEvents = (world.sessions other).newEvents := by
    intro other
    by_cases isThread : other = thread
    · exact isThread ▸ pending
    · rw [others other isThread]
  have inside : row ∈ world.database.intents :=
    sparing.rooted thread row (by rw [held]; rfl)
  obtain ⟨unsubmitted, log⟩ := sparing.own thread row false closed held
  have rooted : Rooted after phases := fun other current found =>
    database ▸ sparing.rooted other current found
  refine ⟨rooted.update thread fun current found => ?_, fun other => ?_,
    ⟨fun intentHash => ?_, database ▸ sparing.once.finalized⟩, fun other intentId => ?_,
    fun _ _ _ _ _ _ _ _ => sparing.alone_update held true closed,
    fun other current submitted closed' found => ?_⟩
  · cases found
    exact database ▸ inside
  · by_cases isThread : other = thread
    · simp [isThread]
    · simpa [isThread] using sparing.unattended other
  · rw [accepted, submissions_append, same]
    by_cases isRow : row.intentHash = intentHash
    · subst isRow
      simpa using unsubmitted
    · simpa [isRow] using sparing.once.submitted intentHash
  · rw [sessions]
    by_cases isThread : other = thread
    · subst isThread
      have bound := sparing.pending other intentId
      rw [held] at bound
      cases closed <;> simpa [Stage.closing] using bound
    · simpa [isThread] using sparing.pending other intentId
  · rw [accepted, database, sessions, submissions_append, same]
    by_cases isThread : other = thread
    · subst isThread
      simp only [Function.update_self, Stage.submitting.injEq] at found
      obtain ⟨rfl, rfl, rfl⟩ := found
      exact ⟨by simpa using unsubmitted, log⟩
    · have found : phases other = .submitting current submitted closed' := by
        simpa [isThread] using found
      obtain ⟨orders, events⟩ := sparing.own other current submitted closed' found
      have distinct : row.intentHash ≠ current.intentHash := by
        intro sameHash
        have sameRow := Database.intent_of_hash inside
          (sparing.rooted other current (by rw [found]; rfl)) sameHash
        exact isThread (sparing.alone other thread _ _ _ _ _ _ found held (by rw [sameRow]))
      exact ⟨by simpa [distinct] using orders, events⟩

theorem Sparing.closes {submitted : Bool}
    (held : phases thread = .submitting row submitted false) {event : ExecutionIntentEvent}
    (same : event.intentId = row.intentId) (finalized : event.eventType = orderFinalized)
    (accepted : after.accepted = world.accepted) (database : after.database = world.database)
    (pending : (after.sessions thread).newEvents = (world.sessions thread).newEvents ++ [event]) :
    Sparing after (Function.update phases thread (.submitting row submitted true)) := by
  have counted : ∀ intentId, finalizations [event] intentId =
      if row.intentId = intentId then 1 else 0 := by
    intro intentId
    simp [finalizations, List.countP_singleton, same, finalized]
  obtain ⟨orders, log⟩ := sparing.own thread row submitted false held
  have rooted : Rooted after phases := fun other current found =>
    database ▸ sparing.rooted other current found
  refine ⟨rooted.update thread fun current found => ?_, fun other => ?_,
    ⟨accepted ▸ sparing.once.submitted, database ▸ sparing.once.finalized⟩,
    fun other intentId => ?_, fun _ _ _ _ _ _ _ _ => sparing.alone_update held submitted true,
    fun other current submitted' closed found => ?_⟩
  · exact rooted thread current (by rw [held]; exact found)
  · by_cases isThread : other = thread
    · simp [isThread]
    · simpa [isThread] using sparing.unattended other
  · by_cases isThread : other = thread
    · subst isThread
      have nothing : finalizations (world.sessions other).newEvents intentId = 0 := by
        simpa [held, Stage.closing] using sparing.pending other intentId
      rw [pending, finalizations_append, nothing, counted]
      simp [Stage.closing]
    · rw [others other isThread]
      simpa [isThread] using sparing.pending other intentId
  · by_cases isThread : other = thread
    · subst isThread
      simp only [Function.update_self, Stage.submitting.injEq] at found
      obtain ⟨rfl, rfl, rfl⟩ := found
      refine ⟨accepted ▸ orders, ?_⟩
      rw [database, pending, finalizations_append, counted, ← Nat.add_assoc]
      simpa using log
    · rw [accepted, database, others other isThread]
      exact sparing.own other current submitted' closed (by simpa [isThread] using found)

/-- A commit moves the pending events to the log, and a pass has pending only
what closes its own intent. -/
theorem Sparing.commits (accepted : after.accepted = world.accepted)
    (committed : world.database.commit (world.sessions thread) = .ok after.database)
    (pending : (after.sessions thread).newEvents = []) : Sparing after phases := by
  obtain ⟨_, _, intents, events, _⟩ := Database.commit_ok committed
  have counted : ∀ intentId, finalizations after.database.events intentId =
      finalizations world.database.events intentId +
        finalizations (world.sessions thread).newEvents intentId := by
    intro intentId
    rw [events, finalizations_append]
  have added : ∀ intentId, finalizations (world.sessions thread).newEvents intentId = 0 ∨
      ∃ row submitted, phases thread = .submitting row submitted true ∧
        row.intentId = intentId := by
    intro intentId
    have bound := sparing.pending thread intentId
    cases stage : phases thread with
    | submitting row submitted closed =>
      rw [stage] at bound
      cases closed with
      | false => exact .inl (by simpa [Stage.closing] using bound)
      | true =>
        by_cases same : row.intentId = intentId
        · exact .inr ⟨row, submitted, rfl, same⟩
        · exact .inl (by simpa [Stage.closing, same] using bound)
    | _ => exact .inl (by simpa [stage, Stage.closing] using bound)
  refine ⟨fun other row found => intents ▸ List.mem_append_left _ (sparing.rooted other row found),
    sparing.unattended, ⟨accepted ▸ sparing.once.submitted, fun intentId => ?_⟩,
    fun other intentId => ?_, sparing.alone, fun other row submitted closed found => ?_⟩
  · rw [counted]
    rcases added intentId with nothing | ⟨row, submitted, held, rfl⟩
    · simpa [nothing] using sparing.once.finalized intentId
    · exact (sparing.own thread row submitted true held).2
  · by_cases isThread : other = thread
    · subst isThread
      simp [pending]
    · rw [others other isThread]
      exact sparing.pending other intentId
  · obtain ⟨orders, log⟩ := sparing.own other row submitted closed found
    refine ⟨accepted ▸ orders, ?_⟩
    rw [counted]
    by_cases isThread : other = thread
    · subst isThread
      simpa [pending] using log
    · rcases added row.intentId with nothing | ⟨current, submitted', held, same⟩
      · rw [others other isThread, nothing]
        exact log
      · exact absurd (sparing.alone other thread _ _ _ _ _ _ found held same.symm) isThread

end Sparing

theorem Stage.next_other_event (stage : Stage) {event : ExecutionIntentEvent}
    (other : event.eventType ≠ orderFinalized) :
    stage.next (.database (.addEvent event)) (.ok ()) = stage := by
  cases stage with
  | submitting row submitted closed => simp [Stage.next, other]
  | _ => rfl

/-- Every allowed command of a careful run keeps the invariant. -/
theorem Sparing.perform (sparing : Sparing world phases) (oracle : Oracle) (command : Command)
    (allowed : (phases thread).allows command)
    (care : ∀ row, phases thread = .loaded row →
      command = .database (.findEvent row.intentId orderFinalized) →
        (∀ other current submitted closed, phases other = .submitting current submitted closed →
          current.intentId ≠ row.intentId) ∧
        (world.database.findEvent row.intentId orderFinalized = none →
          submissions world.accepted row.intentHash = 0)) :
    Sparing (world.perform thread oracle command).1
      (Function.update phases thread
        ((phases thread).next command (world.perform thread oracle command).2)) := by
  have others : OthersKeep thread world (world.perform thread oracle command).1 :=
    fun other different => world.perform_other thread oracle different command
  have moves := world.perform_moves thread oracle (phases thread) command allowed
  have unmoved : Function.update phases thread (phases thread) = phases :=
    Function.update_eq_self thread phases
  generalize reachedIs : (phases thread).next command (world.perform thread oracle command).2 =
    reached at moves ⊢
  generalize (world.perform thread oracle command).1 = after at moves others ⊢
  generalize stageIs : phases thread = stage at moves allowed unmoved
  cases moves with
  | keeps _ _ kept =>
    exact unmoved.symm ▸ sparing.keep others kept.accepted kept.database
      (finalizations_sublist kept.pending)
  | loads intentId row found kept =>
    have keptSparing := sparing.keep others kept.accepted kept.database
      (finalizations_sublist kept.pending)
    refine keptSparing.settle (fun current isRow => ?_) (fun _ _ _ => by simp) (by simp)
      fun intentId => ?_
    · cases isRow
      exact kept.database ▸ (Database.findIntent_some found).1
    · simpa [stageIs, Stage.closing] using keptSparing.pending thread intentId
  | opens row unfinished kept =>
    obtain ⟨nobody, unsubmitted⟩ := care row stageIs rfl
    have keptSparing := sparing.keep others kept.accepted kept.database
      (finalizations_sublist kept.pending)
    exact keptSparing.opens stageIs (kept.database ▸ unfinished) nobody
      (kept.accepted ▸ unsubmitted unfinished)
  | submits order row closed same accepted database pending =>
    exact sparing.submits others stageIs same accepted database pending
  | records event _ _ accepted database pending =>
    by_cases finalized : event.eventType = orderFinalized
    · cases stage with
      | submitting row submitted closed =>
        obtain ⟨rfl, same⟩ := allowed finalized
        simpa [Stage.next, finalized] using
          sparing.closes others stageIs same finalized accepted database pending
      | operator => exact absurd stageIs (sparing.unattended thread)
      | _ => exact absurd finalized allowed
    · rw [Stage.next_other_event _ finalized, unmoved]
      refine sparing.keep others accepted database fun intentId => ?_
      rw [pending, finalizations_append]
      simp [finalizations, finalized]
  | commits _ accepted committed pending =>
    exact unmoved.symm ▸ sparing.commits others accepted committed pending

theorem Sparing.rest (sparing : Sparing world phases) (thread : Thread) {stage : Stage}
    (resting : stage = .bystander ∨ stage = .outside) :
    Sparing (world.putSession thread .fresh) (Function.update phases thread stage) := by
  have others : OthersKeep thread world (world.putSession thread .fresh) :=
    fun other different => by simp [different]
  have emptied : Sparing (world.putSession thread .fresh) phases :=
    sparing.keep others rfl rfl (fun intentId => by simp [Session.fresh])
  refine emptied.settle (fun row found => ?_) (fun row submitted closed => ?_) ?_
    (fun intentId => by simp [Session.fresh])
  · rcases resting with rfl | rfl <;> cases found
  · rcases resting with rfl | rfl <;> simp
  · rcases resting with rfl | rfl <;> simp

end Invariant

section Runs

variable {hashing : Hashing IntentPayload}

/-- A task that closes no log by hand starts as a bystander or outside. -/
theorem Stage.initial_resting {task : Task}
    (kept : ∀ intentId action, task = .performRecovery intentId action → ¬closesByHand action) :
    Stage.initial task = .bystander ∨ Stage.initial task = .outside := by
  cases task with
  | workerPass workerName => exact .inr rfl
  | performRecovery intentId action => exact .inl (if_neg (kept intentId action rfl))
  | _ => exact .inl rfl

theorem sparing_step (view next : View services World Task Stage)
    (sparing : Sparing view.world view.phases)
    (step : View.Step (runtime hashing) submission careful (fun _ => True) (fun _ _ => True)
      view next) : Sparing next.world next.phases := by
  cases step with
  | started thread task idle permitted =>
    exact sparing.rest thread (Stage.initial_resting permitted)
  | performed thread oracle command allowed permitted =>
    exact sparing.perform oracle command allowed permitted
  | returned thread | raised thread | crashed thread => exact sparing.rest thread (.inl rfl)

theorem sparing_boot {redis : Redis.Store Raw} {database : Database} {accepted : List Order}
    (initially : AtMostOnce (World.boot redis database accepted)) :
    Sparing (World.boot redis database accepted) fun _ => .bystander where
  rooted _ _ found := nomatch found
  unattended _ same := nomatch same
  once := initially
  pending _ _ := le_rfl
  alone _ _ _ _ _ _ _ _ found := nomatch found
  own _ _ _ _ found := nomatch found

/-- A pass may read the log when nothing was accepted and no one else is at work. -/
def readsEarly (machine : RuntimeMachine) : Label Oracle Task → Bool
  | .start _ (.performRecovery _ _) => false
  | .start _ _ => true
  | .run thread _ =>
      match submission.phaseOf (machine.threads thread) with
      | .loaded _ => decide (machine.world.accepted = [])
      | _ => true
  | .crash _ => true

theorem readsEarly_careful (machine : RuntimeMachine) (label : Label Oracle Task)
    (lone : machine.Lone label.thread) (tested : readsEarly machine label = true) :
    careful.Permits (runtime hashing) submission machine label := by
  cases label with
  | start thread task =>
    refine ⟨fun intentId action same => ?_, fun _ _ => trivial⟩
    subst same
    cases tested
  | run thread oracle =>
    refine fun running found => ⟨fun row loaded _ => ⟨?_, fun _ => ?_⟩, fun _ _ => trivial⟩
    · intro other current submitted closed busy
      by_cases isThread : other = thread
      · rw [isThread, loaded] at busy
        cases busy
      · have idle : machine.threads other = none := lone other isThread
        simp [Machine.view, Protocol.phaseOf, idle] at busy
    · have loaded : submission.phaseOf (machine.threads thread) = .loaded row := loaded
      have nothing : machine.world.accepted = [] := by simpa [readsEarly, loaded] using tested
      simp [Machine.view, nothing, submissions]
  | crash thread => exact trivial

def onePass : List (Label Oracle Task) :=
  samplePublish 0 ++ .start 0 (.workerPass "worker") :: runs 0 39 steady

/-- The pass fails after the adapter accepted its order, and the retry finds the
log open. -/
def twoPasses : List (Label Oracle Task) :=
  samplePublish 0 ++ .start 0 (.workerPass "worker") :: runs 0 11 steady ++
    runs 0 1 { steady with fault := some (.other "connection") } ++
    runs 0 10 { steady with uuid := "failed" } ++
    .start 0 (.workerPass "worker") :: runs 0 13 { steady with now := 1000000 }

end Runs

end Runtime
