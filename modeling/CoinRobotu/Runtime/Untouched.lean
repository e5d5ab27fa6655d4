import CoinRobotu.Runtime.Guard

/-!
# What recovery actions leave untouched

A session that follows the guard never commits what a recovery action recorded:
while it is clean nothing about intents is pending, and while it is dirty its
commits raise. From this the committed intents and logs are the same before and
after any recovery action, wherever it stops, and along any run an intent's
status never changes at all.
-/

open Interleaving

namespace Runtime

/-- What the guard says of its thread's pending work. -/
def Guard.Holds : Guard → Session → Prop
  | .free, session => ∀ event ∈ session.newEvents, event.eventType ∉ recoveryTypes
  | .clean, session => session.newIntents = [] ∧ session.newEvents = []
  | .dirty, session => session.statuses ≠ []

theorem Guard.holds_fresh {guard : Guard} (start : guard ≠ .dirty) : guard.Holds .fresh := by
  cases guard with
  | free => exact nofun
  | clean => exact ⟨rfl, rfl⟩
  | dirty => exact absurd rfl start

theorem Guard.initial_start (task : Task) : Guard.initial task ≠ .dirty := by
  cases task <;> simp [Guard.initial]

/-- The guard keeps describing the session, whatever an allowed command does. -/
theorem Guard.holds_next {guard : Guard} {session : Session} (holds : guard.Holds session)
    {command : Command} (allowed : guard.allows command) (answer : Except Failure command.Reply) :
    (guard.next command answer).Holds (session.after command answer) := by
  have failed : ∀ guard : Guard, guard ≠ .dirty → guard.Holds .failed := by
    intro guard start
    cases guard with
    | free => exact nofun
    | clean => exact ⟨rfl, rfl⟩
    | dirty => exact absurd rfl start
  have fresh : ∀ guard : Guard, guard ≠ .dirty → guard.Holds .fresh := fun _ start =>
    Guard.holds_fresh start
  cases command with
  | database command =>
    cases command with
    | addEvent row =>
      cases answer with
      | error failure => cases guard <;> exact holds
      | ok reply =>
        cases guard with
        | free =>
          intro event inside
          rcases List.mem_append.mp inside with earlier | added
          · exact holds event earlier
          · exact List.mem_singleton.mp added ▸ allowed
        | clean => exact allowed.elim
        | dirty => exact holds
    | addIntent row =>
      cases guard with
      | free => cases answer <;> exact holds
      | clean => exact allowed.elim
      | dirty => exact allowed.elim
    | assignStatus intentId status =>
      cases answer with
      | error failure => cases guard <;> exact holds
      | ok reply =>
        cases guard with
        | free => exact allowed.elim
        | clean => exact List.append_ne_nil_of_right_ne_nil _ (List.cons_ne_nil _ _)
        | dirty => exact List.append_ne_nil_of_right_ne_nil _ (List.cons_ne_nil _ _)
    | flush =>
      cases answer with
      | ok reply => cases guard <;> exact holds
      | error failure => cases guard <;> exact failed _ (by simp [Guard.next])
    | commit =>
      cases answer with
      | ok reply => cases guard <;> exact fresh _ (by simp [Guard.next])
      | error failure => cases guard <;> exact failed _ (by simp [Guard.next])
    | rollback =>
      cases answer with
      | ok reply => cases guard <;> exact fresh _ (by simp [Guard.next])
      | error failure => cases guard <;> exact holds
    | _ => cases guard <;> cases answer <;> exact holds
  | _ => cases guard <;> exact holds

/-- A commit under the guard adds no event of a recovery type, and under a
guard that is held it adds nothing about intents. -/
theorem Guard.holds_commit {guard : Guard} {database after : Database} {session : Session}
    (holds : guard.Holds session) (committed : database.commit session = .ok after) :
    (∃ added, after.events = database.events ++ added ∧
        ∀ event ∈ added, event.eventType ∉ recoveryTypes) ∧
      (guard ≠ .free → after.intents = database.intents ∧ after.events = database.events) := by
  obtain ⟨_, unassigned, intents, events, _⟩ := Database.commit_ok committed
  cases guard with
  | free => exact ⟨⟨session.newEvents, events, holds⟩, fun held => absurd rfl held⟩
  | clean =>
    obtain ⟨noIntents, noEvents⟩ := holds
    rw [noIntents, List.append_nil] at intents
    rw [noEvents, List.append_nil] at events
    exact ⟨⟨[], by simpa using events, nofun⟩,
      fun _ => ⟨intents, events⟩⟩
  | dirty => exact absurd unassigned holds

section Alone

variable (hashing : Hashing IntentPayload)

/-- The committed rows about intents are the given ones, and the guard, which
is held, describes the thread's session. -/
def Undisturbed (thread : Thread) (database : Database) (world : World) (guard : Guard) : Prop :=
  world.database.intents = database.intents ∧ world.database.events = database.events ∧
    guard ≠ .free ∧ guard.Holds (world.sessions thread)

theorem undisturbed_perform {thread : Thread} {database : Database} {world : World} {guard : Guard}
    (undisturbed : Undisturbed thread database world guard) (oracle : Oracle) (command : Command)
    (allowed : guard.allows command) :
    Undisturbed thread database (world.perform thread oracle command).1
      (guard.next command (world.perform thread oracle command).2) := by
  obtain ⟨intents, events, held, holds⟩ := undisturbed
  have holdsNext := Guard.holds_next holds allowed (world.perform thread oracle command).2
  rw [← world.perform_session thread oracle command] at holdsNext
  have heldNext := Guard.held_next guard command (world.perform thread oracle command).2 held
  rcases world.perform_database thread oracle command with same | ⟨_, committed⟩
  · exact ⟨same ▸ intents, same ▸ events, heldNext, holdsNext⟩
  · obtain ⟨sameIntents, sameEvents⟩ := (Guard.holds_commit holds committed).2 held
    exact ⟨sameIntents.trans intents, sameEvents.trans events, heldNext, holdsNext⟩

/-- A tidy program run on its own leaves the committed intents and logs as they
were, wherever it stops. -/
theorem tidy_undisturbed {α : Type} {program : Program services α} (tidy : Tidy program)
    (thread : Thread) (oracles : List Oracle) (world : World) :
    (program.execute runtimeService thread oracles
        (world.putSession thread .fresh)).1.database.intents = world.database.intents ∧
      (program.execute runtimeService thread oracles
        (world.putSession thread .fresh)).1.database.events = world.database.events := by
  obtain ⟨_, undisturbed, _⟩ := Program.execute_invariant runtimeService thread tidy
    (Undisturbed thread world.database) (fun _ _ _ => trivial)
    (fun oracle command _ _ allowed holds => undisturbed_perform holds oracle command allowed)
    oracles (world.putSession thread .fresh)
    ⟨rfl, rfl, by decide, by simpa using Guard.holds_fresh (by decide : Guard.clean ≠ .dirty)⟩
  exact ⟨undisturbed.1, undisturbed.2.1⟩

/-- A recovery action in a session of its own leaves the committed statuses and
event logs exactly as they were, whatever the services answer, whatever raises,
and wherever the action or an item of a bulk run is cut off. -/
theorem recovery_leaves_intents_untouched (thread : Thread) (oracles : List Oracle)
    (world : World) :
    (∀ intentId action,
      let after := ((applyIntentRecoveryAction hashing intentId action).execute runtimeService
        thread oracles (world.putSession thread .fresh)).1.database
      after.intents = world.database.intents ∧ after.events = world.database.events) ∧
    (∀ intentId reason stage,
      let after := ((reconcileIntentWithExchange intentId reason stage).execute runtimeService
        thread oracles (world.putSession thread .fresh)).1.database
      after.intents = world.database.intents ∧ after.events = world.database.events) ∧
    (∀ action selectionMode intentIds quarantineIds filters reason limit,
      let after := ((runBulkRecovery hashing action selectionMode intentIds quarantineIds filters
        reason limit).execute runtimeService thread oracles
          (world.putSession thread .fresh)).1.database
      after.intents = world.database.intents ∧ after.events = world.database.events) :=
  ⟨fun _ _ => tidy_undisturbed (applyIntentRecoveryAction_tidy _ _ _) thread oracles world,
    fun _ _ _ => tidy_undisturbed (reconcileIntentWithExchange_tidy _ _ _) thread oracles world,
    fun _ _ _ _ _ _ _ => tidy_undisturbed (runBulkRecovery_tidy _ _ _ _ _ _ _ _) thread oracles
      world⟩

/-- The intents that stand canceled after a bulk run are the ones that stood
canceled before it: whatever the logs record and the exchange answers, a bulk
run cancels no intent, so it hides no live order. -/
theorem bulk_run_cancels_no_intent (thread : Thread) (oracles : List Oracle) (world : World)
    (action selectionMode : String) (intentIds quarantineIds : List String)
    (filters : BulkFilters) (reason : String) (limit : Int) :
    (((runBulkRecovery hashing action selectionMode intentIds quarantineIds filters reason
        limit).execute runtimeService thread oracles
        (world.putSession thread .fresh)).1.database.intents.filter
      fun row => canonicalIntentState row.status = .canceled) =
    world.database.intents.filter fun row => canonicalIntentState row.status = .canceled := by
  rw [(tidy_undisturbed (runBulkRecovery_tidy hashing action selectionMode intentIds
    quarantineIds filters reason limit) thread oracles world).1]

end Alone

section Lifecycle

def Transition (source target : IntentState) : Prop := target ∈ intentTransitions source

variable {hashing : Hashing IntentPayload}
  {permits : RuntimeMachine → Label Oracle Task → Prop}

/-- The later rows and accepted orders begin with the earlier ones. -/
def World.Extends (earlier later : World) : Prop :=
  earlier.database.intents <+: later.database.intents ∧
    earlier.database.events <+: later.database.events ∧ earlier.accepted <+: later.accepted

theorem World.perform_extends (world : World) (thread : Thread) (oracle : Oracle)
    (command : Command) : world.Extends (world.perform thread oracle command).1 := by
  have orders : world.accepted <+: (world.perform thread oracle command).1.accepted := by
    rcases world.perform_accepted thread oracle command with same | ⟨_, _, _, appended⟩
    · simp [same]
    · exact appended ▸ List.prefix_append _ _
  rcases world.perform_database thread oracle command with same | ⟨_, committed⟩
  · simpa [World.Extends, same] using orders
  · obtain ⟨_, _, intents, events, _⟩ := Database.commit_ok committed
    exact ⟨intents ▸ List.prefix_append _ _, events ▸ List.prefix_append _ _, orders⟩

section Keeping

variable {before after : RuntimeMachine} {labels : List (Label Oracle Task)}
  (run : Run (runtime hashing) permits before labels after)

include run

theorem run_keeps_intents {row : ExecutionIntent}
    (inside : row ∈ before.world.database.intents) : row ∈ after.world.database.intents := by
  refine run.world_invariant (fun world => row ∈ world.database.intents) ?_
    (fun _ _ holds => holds) (fun _ _ holds => holds) inside
  exact fun thread oracle command world holds =>
    (world.perform_extends thread oracle command).1.subset holds

theorem run_keeps_row {row later : ExecutionIntent} (inside : row ∈ before.world.database.intents)
    (found : later ∈ after.world.database.intents) (same : later.intentId = row.intentId) :
    later = row :=
  Database.intent_of_id found (run_keeps_intents run inside) same

end Keeping

/-- Whatever recovery actions, workers and dispatchers do in any order, the
committed state of an intent moves along `INTENT_TRANSITIONS` only. -/
theorem intent_states_follow_transitions {before after : RuntimeMachine}
    {labels : List (Label Oracle Task)}
    (run : Run (runtime hashing) permits before labels after) {row later : ExecutionIntent}
    (inside : row ∈ before.world.database.intents)
    (found : later ∈ after.world.database.intents) (same : later.intentId = row.intentId) :
    Relation.ReflTransGen Transition (canonicalIntentState row.status)
        (canonicalIntentState later.status) ∧
      (canonicalIntentState row.status ∈ [.failed, .canceled, .reconciled] →
        canonicalIntentState later.status = canonicalIntentState row.status) ∧
      (canonicalIntentState row.status = .filled →
        canonicalIntentState later.status ≠ .submitted ∧
          canonicalIntentState later.status ≠ .canceled) := by
  have kept := run_keeps_row run inside found same
  subst kept
  refine ⟨.refl, fun _ => rfl, fun filled => ?_⟩
  rw [filled]
  exact ⟨by decide, by decide⟩

def refusedRetry : List (Label Oracle Task) :=
  .start 0 (.applyRecovery "intent-1" "retry") :: runs 0 12 steady

theorem intent_states_follow_transitions_refused :
    ∃ after : RuntimeMachine,
      Machine.steps (runtime sampleHashing) refusedRetry
        (Machine.atRest (World.boot emptyRedis (sampleDatabase []) [])) = some after ∧
      Relation.ReflTransGen Transition (canonicalIntentState sampleIntent.status)
        (canonicalIntentState sampleIntent.status) := by
  obtain ⟨after, stepped⟩ := Option.isSome_iff_exists.mp
    (show (Machine.steps (runtime sampleHashing) refusedRetry
      sampleMachine).isSome by decide +kernel)
  have inside : sampleIntent ∈ (sampleDatabase []).intents := List.mem_singleton.mpr rfl
  have run : Run (runtime sampleHashing) (fun _ _ => True) sampleMachine refusedRetry after :=
    Run.of_steps (fun _ _ => trivial) stepped
  exact ⟨after, stepped, (intent_states_follow_transitions run inside
    (run_keeps_intents run inside) rfl).1⟩

end Lifecycle

end Runtime
