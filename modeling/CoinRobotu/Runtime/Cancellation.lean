import CoinRobotu.Runtime.Submitting
import CoinRobotu.Runtime.Untouched

/-!
# A cancelled intent is not submitted

Of the ways to cancel an intent only one can commit: the operator's action that
closes the log by hand. The others record the cancel under an assigned status,
and their commit raises. A committed cancel is therefore a closed log, a worker
pass that starts its submission later reads that log first, and so no later pass
calls the exchange adapter.
-/

open Interleaving

namespace Runtime

def ExecutionIntentEvent.cancels (event : ExecutionIntentEvent) : Prop :=
  event.eventType = orderFinalized ∧ event.eventStatus = "canceled" ∨
    event.eventType = "EXECUTION_RECOVERY_CANCEL_REQUESTED"

/-- Between two states of the committed rows a cancel of the intent was recorded,
in its status or in its log. -/
def CancelRecorded (before after : Database) (intentId : String) : Prop :=
  (∃ row ∈ before.intents, ∃ later ∈ after.intents, row.intentId = intentId ∧
      later.intentId = intentId ∧ canonicalIntentState row.status ≠ .canceled ∧
      canonicalIntentState later.status = .canceled) ∨
    ∃ added, after.events = before.events ++ added ∧
      ∃ event ∈ added, event.intentId = intentId ∧ event.cancels

def Closed (database : Database) (intentId : String) : Prop :=
  ∃ event ∈ database.events, event.intentId = intentId ∧ event.eventType = orderFinalized

def Submitting (phases : Thread → Stage) (intentId : String) : Prop :=
  ∃ thread row submitted closed,
    phases thread = .submitting row submitted closed ∧ row.intentId = intentId

section Commits

variable {hashing : Hashing IntentPayload}

theorem step_database {machine after : RuntimeMachine} {label : Label Oracle Task}
    (stepped : machine.step (runtime hashing) label = some after) :
    after.world.database = machine.world.database ∨
      ∃ thread, machine.world.database.commit (machine.world.sessions thread) =
        .ok after.world.database := by
  have resumed : ∀ (machine : RuntimeMachine) thread task past program,
      (machine.resume (runtime hashing) thread task past program).world.database =
        machine.world.database := by
    intro machine thread task past program
    cases program <;> rfl
  cases label with
  | start thread task =>
    simp only [Machine.step, Option.ite_none_right_eq_some, Option.some.injEq] at stepped
    obtain ⟨_, rfl⟩ := stepped
    exact .inl (resumed _ _ _ _ _)
  | run thread oracle =>
    simp only [Machine.step, Option.map_eq_some_iff] at stepped
    obtain ⟨running, _, rfl⟩ := stepped
    rw [resumed]
    rcases machine.world.perform_database thread oracle running.command with same | ⟨_, committed⟩
    · exact .inl same
    · exact .inr ⟨thread, committed⟩
  | crash thread =>
    simp only [Machine.step, Option.map_eq_some_iff] at stepped
    obtain ⟨running, _, rfl⟩ := stepped
    exact .inl rfl

def GuardsHold (view : View services World Task Guard) : Prop :=
  ∀ thread, (view.phases thread).Holds (view.world.sessions thread)

theorem guardsHold_step (view next : View services World Task Guard) (hold : GuardsHold view)
    (step : View.Step (runtime hashing) guarded Discipline.any (fun _ => True) (fun _ _ => True)
      view next) : GuardsHold next := by
  have rest : ∀ thread guard, guard ≠ .dirty → ∀ other,
      (Function.update view.phases thread guard other).Holds
        ((view.world.putSession thread .fresh).sessions other) := by
    intro thread guard start other
    by_cases same : other = thread
    · simpa [same] using Guard.holds_fresh start
    · simpa [same] using hold other
  cases step with
  | started thread task idle permitted => exact rest thread _ (Guard.initial_start task)
  | performed thread oracle command allowed permitted =>
    intro other
    by_cases same : other = thread
    · subst same
      have holds := Guard.holds_next (hold other) allowed
        (view.world.perform other oracle command).2
      rw [← view.world.perform_session other oracle command] at holds
      simpa [View.perform] using holds
    · simpa [View.perform, same, view.world.perform_other thread oracle same command] using
        hold other
  | returned thread | raised thread | crashed thread => exact rest thread .free (by simp)

theorem guarded_governs : Governs (runtime hashing) guarded Discipline.any (fun _ => True)
    (fun _ _ => True) :=
  ⟨fun _ _ _ _ => trivial, fun _ _ task _ => code_guarded hashing task⟩

variable {permits : RuntimeMachine → Label Oracle Task → Prop}

variable {labels : List (Label Oracle Task)}

theorem run_guardsHold
    {redis : Redis.Store Raw} {database : Database} {accepted : List Order}
    {after : RuntimeMachine}
    (run : Run (runtime hashing) permits (Machine.atRest (World.boot redis database accepted))
      labels after) : GuardsHold (after.view guarded) :=
  run.unrestricted.invariant guarded_governs GuardsHold guardsHold_step
    (Machine.atRest_conforms _) fun _ =>
      Guard.holds_fresh (by decide : Guard.free ≠ .dirty)

/-- A committed cancel is a closed log: no status ever changes, and no event of a
recovery type is ever committed. -/
theorem cancel_closes_log
    {redis : Redis.Store Raw} {database : Database} {accepted : List Order}
    {before cancelled : RuntimeMachine}
    (run : Run (runtime hashing) permits (Machine.atRest (World.boot redis database accepted))
      labels before) {label : Label Oracle Task}
    (stepped : before.step (runtime hashing) label = some cancelled) {intentId : String}
    (recorded : CancelRecorded before.world.database cancelled.world.database intentId) :
    Closed cancelled.world.database intentId := by
  have single : Run (runtime hashing) (fun _ _ => True) before ([] ++ [label]) cancelled :=
    Run.rest.step label trivial stepped
  rcases recorded with ⟨row, inside, later, found, isRow, isLater, active, canceled⟩ |
    ⟨added, grown, event, inside, same, cancels⟩
  · have kept := run_keeps_row single inside found (isLater.trans isRow.symm)
    exact absurd (kept ▸ canceled) active
  · have committed : event ∈ cancelled.world.database.events :=
      grown ▸ List.mem_append_right _ inside
    rcases cancels with ⟨finalized, _⟩ | recovery
    · exact ⟨event, committed, same, finalized⟩
    · exfalso
      rcases step_database stepped with unchanged | ⟨thread, commits⟩
      · rw [unchanged, List.self_eq_append_right] at grown
        simp [grown] at inside
      · obtain ⟨⟨pending, grownBy, ordinary⟩, _⟩ :=
          Guard.holds_commit (run_guardsHold run thread) commits
        rw [grown, List.append_cancel_left_eq] at grownBy
        exact ordinary event (grownBy ▸ inside) (recovery ▸ by decide)

end Commits

section Barred

variable {hashing : Hashing IntentPayload} {intentId : String} {earlier : Nat}

def ForOther (database : Database) (intentId : String) (order : Order) : Prop :=
  ∃ row ∈ database.intents, row.intentHash = order.intentHash ∧ row.intentId ≠ intentId

/-- The intent's log is closed, no pass submits it, and every order since the
given point of the trace was one of another intent. -/
structure Barred (intentId : String) (earlier : Nat) (view : View services World Task Stage) :
    Prop where
  rooted : Rooted view.world view.phases
  closed : Closed view.world.database intentId
  idle : ¬Submitting view.phases intentId
  others : ∀ entry ∈ view.trace.drop earlier, ∀ order, entry.2.1 = .submitOrder order →
    ForOther view.world.database intentId order

theorem World.perform_events (world : World) (thread : Thread) (oracle : Oracle)
    (command : Command) {event : ExecutionIntentEvent} (inside : event ∈ world.database.events) :
    event ∈ (world.perform thread oracle command).1.database.events := by
  rcases world.perform_database thread oracle command with same | ⟨_, committed⟩
  · exact same ▸ inside
  · obtain ⟨_, _, _, events, _⟩ := Database.commit_ok committed
    exact events ▸ List.mem_append_left _ inside

theorem Moves.submitting {thread : Thread} {world after : World} {command : Command}
    {stage reached : Stage} (moves : Moves thread world after command stage reached)
    {row : ExecutionIntent} {submitted closed : Bool}
    (busy : reached = .submitting row submitted closed) :
    (∃ submitted closed, stage = .submitting row submitted closed) ∨
      ¬Closed world.database row.intentId := by
  cases moves with
  | keeps | commits => exact .inl ⟨submitted, closed, busy⟩
  | loads intentId found _ _ => cases busy
  | opens loaded unfinished _ =>
    cases busy
    refine .inr fun ⟨event, inside, same, finalized⟩ => ?_
    exact Database.findEvent_none.mp unfinished event inside same finalized
  | submits order current _ _ _ _ _ =>
    cases busy
    exact .inl ⟨false, closed, rfl⟩
  | records event stage _ _ _ _ =>
    cases stage with
    | submitting current earlier open' =>
      cases busy
      exact .inl ⟨submitted, open', rfl⟩
    | _ => cases busy

theorem not_submitting_update {phases : Thread → Stage} (idle : ¬Submitting phases intentId)
    (thread : Thread) {stage : Stage}
    (quiet : ∀ row submitted closed, stage = .submitting row submitted closed →
      row.intentId ≠ intentId) :
    ¬Submitting (Function.update phases thread stage) intentId := by
  rintro ⟨other, row, submitted, closed, busy, same⟩
  by_cases isThread : other = thread
  · subst isThread
    exact quiet row submitted closed (by simpa using busy) same
  · exact idle ⟨other, row, submitted, closed, by simpa [isThread] using busy, same⟩

theorem Barred.perform {view : View services World Task Stage}
    (barred : Barred intentId earlier view) (thread : Thread) (oracle : Oracle) (command : Command)
    (allowed : (view.phases thread).allows command) :
    Barred intentId earlier
      (view.perform (runtime hashing).toService submission thread oracle command) := by
  have moves := view.world.perform_moves thread oracle (view.phases thread) command allowed
  have kept : ∀ order, ForOther view.world.database intentId order →
      ForOther (view.world.perform thread oracle command).1.database intentId order :=
    fun order ⟨row, inside, sameHash, different⟩ =>
      ⟨row, view.world.perform_intents thread oracle command inside, sameHash, different⟩
  refine ⟨barred.rooted.perform thread oracle command allowed, ?_, ?_, ?_⟩
  · obtain ⟨event, inside, closes⟩ := barred.closed
    exact ⟨event, view.world.perform_events thread oracle command inside, closes⟩
  · refine not_submitting_update barred.idle thread fun row submitted closed busy => ?_
    rintro rfl
    rcases moves.submitting busy with ⟨_, _, held⟩ | unclosed
    · exact barred.idle ⟨thread, row, _, _, held, rfl⟩
    · exact unclosed barred.closed
  · intro entry inside order issued
    simp only [View.perform, List.drop_append] at inside
    rcases List.mem_append.mp inside with before | now
    · exact kept order (barred.others entry before order issued)
    · cases List.mem_singleton.mp (List.mem_of_mem_drop now)
      cases issued
      cases stage : view.phases thread with
      | submitting row submitted closed =>
        rw [stage] at allowed
        refine kept order ⟨row, barred.rooted thread row (by rw [stage]; rfl), allowed.2.symm, ?_⟩
        rintro rfl
        exact barred.idle ⟨thread, row, submitted, closed, stage, rfl⟩
      | _ =>
        rw [stage] at allowed
        exact allowed.elim

theorem barred_step (view next : View services World Task Stage)
    (barred : Barred intentId earlier view)
    (step : View.Step (runtime hashing) submission Discipline.any (fun _ => True)
      (fun _ _ => True) view next) : Barred intentId earlier next := by
  have rest : ∀ thread stage, stage.row = none →
      Rooted view.world (Function.update view.phases thread stage) ∧
        ¬Submitting (Function.update view.phases thread stage) intentId := by
    intro thread stage resting
    refine ⟨barred.rooted.update thread fun row found => ?_,
      not_submitting_update barred.idle thread fun row submitted closed busy => ?_⟩
    · rw [resting] at found
      cases found
    · subst busy
      cases resting
  cases step with
  | started thread task idle permitted =>
    obtain ⟨rooted, idle⟩ := rest thread _ (Stage.initial_row task)
    exact ⟨rooted, barred.closed, idle, barred.others⟩
  | performed thread oracle command allowed permitted =>
    exact barred.perform thread oracle command allowed
  | returned thread | raised thread | crashed thread =>
    obtain ⟨rooted, idle⟩ := rest thread .bystander rfl
    exact ⟨rooted, barred.closed, idle, barred.others⟩

end Barred

section Runs

variable {hashing : Hashing IntentPayload} {permits : RuntimeMachine → Label Oracle Task → Prop}
  {redis : Redis.Store Raw} {database : Database} {accepted : List Order}

theorem rooted_step (view next : View services World Task Stage)
    (rooted : Rooted view.world view.phases)
    (step : View.Step (runtime hashing) submission Discipline.any (fun _ => True)
      (fun _ _ => True) view next) : Rooted next.world next.phases := by
  have rest : ∀ thread stage, stage.row = none →
      Rooted view.world (Function.update view.phases thread stage) := fun thread stage resting =>
    rooted.update thread fun row found => by
      rw [resting] at found
      cases found
  cases step with
  | started thread task idle permitted => exact rest thread _ (Stage.initial_row task)
  | performed thread oracle command allowed permitted =>
    exact rooted.perform thread oracle command allowed
  | returned thread | raised thread | crashed thread => exact rest thread .bystander rfl

/-- After a cancel of an intent was committed, by whichever action, no call of
the exchange adapter is for that intent, unless a pass had started its
submission before. This holds for every order of later worker passes, retries,
replays and operator actions, whatever raises and whichever threads crash. -/
theorem cancelled_intents_are_not_submitted {labels rest : List (Label Oracle Task)}
    {before cancelled after : RuntimeMachine} {label : Label Oracle Task} {intentId : String}
    (first : Run (runtime hashing) permits (Machine.atRest (World.boot redis database accepted))
      labels before)
    (stepped : before.step (runtime hashing) label = some cancelled)
    (recorded : CancelRecorded before.world.database cancelled.world.database intentId)
    (idle : ¬Submitting (cancelled.view submission).phases intentId)
    (second : Run (runtime hashing) permits cancelled rest after) :
    ∀ entry ∈ after.trace.drop cancelled.trace.length, ∀ order,
      entry.2.1 = .submitOrder order → ∀ row ∈ after.world.database.intents,
        row.intentId = intentId → order.intentHash ≠ row.intentHash := by
  have reached : Run (runtime hashing) (Discipline.any.Permits (runtime hashing) submission)
      (Machine.atRest (World.boot redis database accepted)) (labels ++ [label]) cancelled :=
    ((first.mono fun _ _ _ => trivial).step label trivial stepped).unrestricted
  have governs := submission_governs hashing Discipline.any
  have conforms := (reached.simulates governs (Machine.atRest_conforms _)).1
  have rooted := reached.invariant governs
    (fun view => Rooted view.world view.phases) rooted_step (Machine.atRest_conforms _)
    nofun
  have barred := second.unrestricted.invariant governs
    (Barred intentId cancelled.trace.length) barred_step conforms
    ⟨rooted, cancel_closes_log first stepped recorded, idle, by simp [Machine.view]⟩
  intro entry inside order issued row committed isRow sameHash
  obtain ⟨other, otherCommitted, otherHash, different⟩ :=
    barred.others entry inside order issued
  have same := Database.intent_of_hash otherCommitted committed (otherHash.trans sameHash)
  exact different (same ▸ isRow)

def pendingCancel : List (Label Oracle Task) :=
  samplePublish 0 ++ .start 0 (.performRecovery "intent-1" "cancel_intent") :: runs 0 5 steady

def passAfterCancel : List (Label Oracle Task) :=
  runs 0 4 steady ++ .start 0 (.workerPass "worker") :: runs 0 17 { steady with uuid := "pass" }

def cancelEvent : ExecutionIntentEvent :=
  ⟨"uuid-2", "intent-1", orderFinalized, "canceled", some "manual_cancel",
    [("reason", "manual_recovery_cancel")], 0⟩

def submits : Stage → Bool
  | .submitting _ _ _ => true
  | _ => false

theorem cancelled_intents_are_not_submitted_pass :
    ∃ before cancelled after : RuntimeMachine,
      Machine.steps (runtime sampleHashing) pendingCancel
        (Machine.atRest (World.boot emptyRedis (sampleDatabase []) [])) = some before ∧
      before.step (runtime sampleHashing) (.run 0 steady) = some cancelled ∧
      Machine.steps (runtime sampleHashing) passAfterCancel cancelled = some after ∧
      ∀ entry ∈ after.trace.drop cancelled.trace.length, ∀ order,
        entry.2.1 = .submitOrder order → order.intentHash ≠ "hash-1" := by
  have evaluated : (Machine.steps (runtime sampleHashing) pendingCancel
      sampleMachine).map (fun before =>
        (before.world.database.events, (before.step (runtime sampleHashing) (.run 0 steady)).map
          fun cancelled => (cancelled.world.database.events,
            submits (submission.phaseOf (cancelled.threads 0))))) =
      some ([], some ([cancelEvent], false)) := by
    decide +kernel
  have continued : ((Machine.steps (runtime sampleHashing) pendingCancel
      sampleMachine).bind fun before =>
        (before.step (runtime sampleHashing) (.run 0 steady)).bind fun cancelled =>
          (Machine.steps (runtime sampleHashing) passAfterCancel cancelled).map
            fun after => after.world.database.intents) = some [sampleIntent] := by
    decide +kernel
  simp only [Option.map_eq_some_iff, Prod.mk.injEq] at evaluated
  obtain ⟨before, reached, unrecorded, cancelled, stepped, recorded, quiet⟩ := evaluated
  rw [reached, Option.bind_some, stepped, Option.bind_some] at continued
  obtain ⟨after, ended, intents⟩ := Option.map_eq_some_iff.mp continued
  have boot : sampleMachine.Lone 0 := fun _ _ => rfl
  have lone : cancelled.Lone 0 := fun other different =>
    (Machine.step_other stepped different).trans
      (Machine.lone_steps boot (by decide) reached other different)
  refine ⟨before, cancelled, after, reached, stepped, ended, fun entry inside order issued => ?_⟩
  have first : Run (runtime sampleHashing) (fun _ _ => True) sampleMachine pendingCancel before :=
    Run.of_steps (fun _ _ => trivial) reached
  have second : Run (runtime sampleHashing) (fun _ _ => True) cancelled passAfterCancel after :=
    Run.of_steps (fun _ _ => trivial) ended
  refine cancelled_intents_are_not_submitted first stepped
    (.inr ⟨[cancelEvent], by rw [unrecorded, recorded]; rfl, cancelEvent, List.mem_singleton_self _,
      rfl, .inl ⟨rfl, rfl⟩⟩) ?_ second entry inside order issued sampleIntent
    (intents ▸ List.mem_singleton_self _) rfl
  rintro ⟨thread, row, submitted, closed, busy, _⟩
  by_cases isOwn : thread = 0
  · subst isOwn
    have busy : submission.phaseOf (cancelled.threads 0) = .submitting row submitted closed := busy
    simp [busy, submits] at quiet
  · simp [Machine.view, Protocol.phaseOf, lone thread isOwn] at busy

end Runs

end Runtime
