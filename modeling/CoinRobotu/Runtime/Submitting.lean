import CoinRobotu.Runtime.Submission

/-!
# What one command does to orders and logs

Seen through the stages of submission, a command is one of six moves: it loads
an intent, reads its log as open, submits its order, adds an event to a log,
commits, or does none of these. The invariants over runs are proved from these
moves alone. The first of them says that a pass only ever works on a committed
intent.
-/

open Interleaving

namespace Runtime

section Moves

/-- The part of the world that no move but its own changes. -/
structure Keeps (thread : Thread) (world after : World) : Prop where
  accepted : after.accepted = world.accepted
  database : after.database = world.database
  pending : (after.sessions thread).newEvents.Sublist (world.sessions thread).newEvents

/-- The moves of a thread, each with the stages before and after it. -/
inductive Moves (thread : Thread) (world after : World) : Command → Stage → Stage → Prop where
  | keeps (command : Command) (stage : Stage) (kept : Keeps thread world after) :
      Moves thread world after command stage stage
  | loads (intentId : String) (row : ExecutionIntent)
      (found : world.database.findIntent intentId = some row) (kept : Keeps thread world after) :
      Moves thread world after (.database (.findIntent intentId)) .outside (.loaded row)
  | opens (row : ExecutionIntent)
      (unfinished : world.database.findEvent row.intentId orderFinalized = none)
      (kept : Keeps thread world after) :
      Moves thread world after (.database (.findEvent row.intentId orderFinalized)) (.loaded row)
        (.submitting row false false)
  | submits (order : Order) (row : ExecutionIntent) (closed : Bool)
      (same : order.intentHash = row.intentHash)
      (accepted : after.accepted = world.accepted ++ [order])
      (database : after.database = world.database)
      (pending : (after.sessions thread).newEvents = (world.sessions thread).newEvents) :
      Moves thread world after (.submitOrder order) (.submitting row false closed)
        (.submitting row true closed)
  | records (event : ExecutionIntentEvent) (stage : Stage)
      (allowed : stage.allows (.database (.addEvent event)))
      (accepted : after.accepted = world.accepted) (database : after.database = world.database)
      (pending : (after.sessions thread).newEvents = (world.sessions thread).newEvents ++ [event]) :
      Moves thread world after (.database (.addEvent event)) stage
        (stage.next (.database (.addEvent event)) (.ok ()))
  | commits (stage : Stage) (accepted : after.accepted = world.accepted)
      (committed : world.database.commit (world.sessions thread) = .ok after.database)
      (pending : (after.sessions thread).newEvents = []) :
      Moves thread world after (.database .commit) stage stage

variable (world : World) (thread : Thread) (oracle : Oracle)

theorem World.query_answer {α : Type} {answer : Database → α} {value : α}
    (answered : (world.query thread answer).2 = .ok value) : value = answer world.database := by
  unfold World.query at answered
  split at answered
  · cases answered
  · cases answered
    rfl

theorem World.perform_findIntent {intentId : String} {found : Option ExecutionIntent}
    (answered : (world.perform thread oracle (.database (.findIntent intentId))).2 = .ok found) :
    world.database.findIntent intentId = found := by
  unfold World.perform at answered
  split at answered
  · cases answered
  · exact (world.query_answer thread answered).symm

theorem World.perform_findEvent {intentId eventType : String}
    {found : Option ExecutionIntentEvent}
    (answered : (world.perform thread oracle
      (.database (.findEvent intentId eventType))).2 = .ok found) :
    world.database.findEvent intentId eventType = found := by
  unfold World.perform at answered
  split at answered
  · cases answered
  · exact (world.query_answer thread answered).symm

theorem Session.after_pending (session : Session) (command : Command)
    (answer : Except Failure command.Reply)
    (other : ∀ event, command ≠ .database (.addEvent event)) :
    (session.after command answer).newEvents.Sublist session.newEvents := by
  cases command with
  | database command =>
    cases command with
    | addEvent event => exact absurd rfl (other event)
    | _ => cases answer <;> simp [Session.after, Session.fresh, Session.failed]
  | _ => exact List.Sublist.refl _

theorem World.perform_keeps (command : Command) (noCommit : command ≠ .database .commit)
    (noOrder : ∀ order, command ≠ .submitOrder order)
    (noEvent : ∀ event, command ≠ .database (.addEvent event)) :
    Keeps thread world (world.perform thread oracle command).1 := by
  refine ⟨?_, ?_, ?_⟩
  · rcases world.perform_accepted thread oracle command with same | ⟨order, issued, _⟩
    · exact same
    · exact absurd issued (noOrder order)
  · rcases world.perform_database thread oracle command with same | ⟨issued, _⟩
    · exact same
    · exact absurd issued noCommit
  · rw [world.perform_session thread oracle command]
    exact Session.after_pending _ _ _ noEvent

theorem World.perform_keeps_raised {command : Command} {failure : Failure}
    (raised : (world.perform thread oracle command).2 = .error failure) :
    Keeps thread world (world.perform thread oracle command).1 := by
  refine ⟨?_, ?_, ?_⟩
  · rcases world.perform_accepted thread oracle command with same | ⟨order, rfl, sound, _⟩
    · exact same
    · simp [World.perform, sound] at raised
  · rcases world.perform_database thread oracle command with same | ⟨rfl, committed⟩
    · exact same
    · unfold World.perform at raised ⊢
      cases fault : oracle.fault with
      | some failure => rfl
      | none => simp [fault, World.performDatabase, committed] at raised
  · rw [world.perform_session thread oracle command]
    by_cases adds : ∃ event, command = .database (.addEvent event)
    · obtain ⟨event, rfl⟩ := adds
      rw [raised]
      exact List.Sublist.refl _
    · exact Session.after_pending _ _ _ fun event same => adds ⟨event, same⟩

theorem Stage.next_error (stage : Stage) (command : Command) (failure : Failure) :
    stage.next command (.error failure) = stage := by
  cases stage <;> cases command <;> first | rfl | (rename_i command; cases command <;> rfl)

theorem World.perform_sound {command : Command} {reply : command.Reply}
    (answered : (world.perform thread oracle command).2 = .ok reply) : oracle.fault = none := by
  cases fault : oracle.fault with
  | none => rfl
  | some failure => simp [World.perform, fault] at answered

theorem Moves.of_same {thread : Thread} {world after : World} {command : Command}
    {stage reached : Stage} (kept : Keeps thread world after) (same : reached = stage) :
    Moves thread world after command stage reached :=
  same ▸ .keeps command stage kept

variable (stage : Stage)

theorem World.findIntent_moves (intentId : String) {reply : Option ExecutionIntent}
    (answered : (world.perform thread oracle (.database (.findIntent intentId))).2 = .ok reply) :
    Moves thread world (world.perform thread oracle (.database (.findIntent intentId))).1
      (.database (.findIntent intentId)) stage
      (stage.next (.database (.findIntent intentId)) (.ok reply)) := by
  have kept := world.perform_keeps thread oracle (.database (.findIntent intentId))
    (by simp) (by simp) (by simp)
  have found := world.perform_findIntent thread oracle answered
  cases stage with
  | outside =>
    cases reply with
    | none => exact .keeps _ _ kept
    | some row => exact .loads intentId row found kept
  | _ => exact .keeps _ _ kept

theorem World.findEvent_moves (intentId eventType : String) {reply : Option ExecutionIntentEvent}
    (answered : (world.perform thread oracle
      (.database (.findEvent intentId eventType))).2 = .ok reply) :
    Moves thread world (world.perform thread oracle (.database (.findEvent intentId eventType))).1
      (.database (.findEvent intentId eventType)) stage
      (stage.next (.database (.findEvent intentId eventType)) (.ok reply)) := by
  have kept := world.perform_keeps thread oracle (.database (.findEvent intentId eventType))
    (by simp) (by simp) (by simp)
  have found := world.perform_findEvent thread oracle answered
  cases stage with
  | loaded row =>
    cases reply with
    | some event => exact .keeps _ _ kept
    | none =>
      by_cases reads : Stage.readsOpen row intentId eventType
      · have opened : Stage.next (.loaded row) (.database (.findEvent intentId eventType))
            (.ok none) = .submitting row false false := if_pos reads
        obtain ⟨rfl, rfl⟩ := reads
        exact opened ▸ .opens row found kept
      · exact .of_same kept (if_neg reads)
  | _ => exact .keeps _ _ kept

theorem World.commit_moves
    (answered : (world.perform thread oracle (.database .commit)).2 = .ok ()) :
    Moves thread world (world.perform thread oracle (.database .commit)).1 (.database .commit)
      stage (stage.next (.database .commit) (.ok ())) := by
  have sound := world.perform_sound thread oracle answered
  have same : stage.next (.database .commit) (.ok ()) = stage := by cases stage <;> rfl
  rw [same]
  cases committed : world.database.commit (world.sessions thread) with
  | error failure => simp [World.perform, sound, World.performDatabase, committed] at answered
  | ok database =>
    refine .commits stage ?_ ?_ ?_ <;>
      simp [World.perform, sound, World.performDatabase, committed, Session.fresh]

theorem World.perform_moves (command : Command) (allowed : stage.allows command) :
    Moves thread world (world.perform thread oracle command).1 command stage
      (stage.next command (world.perform thread oracle command).2) := by
  cases answered : (world.perform thread oracle command).2 with
  | error failure =>
    exact .of_same (world.perform_keeps_raised thread oracle answered) (stage.next_error _ _)
  | ok reply =>
    have sound := world.perform_sound thread oracle answered
    cases command with
    | submitOrder order =>
      cases stage with
      | submitting row submitted closed =>
        obtain ⟨rfl, same⟩ := allowed
        refine .submits order row closed same ?_ ?_ ?_ <;> simp [World.perform, sound]
      | _ => exact allowed.elim
    | database command =>
      cases command with
      | findIntent intentId => exact world.findIntent_moves thread oracle stage intentId answered
      | findEvent intentId eventType =>
        exact world.findEvent_moves thread oracle stage intentId eventType answered
      | commit => exact world.commit_moves thread oracle stage answered
      | addEvent event =>
        refine .records event stage allowed ?_ ?_ ?_ <;>
          simp [World.perform, sound, World.performDatabase, World.record]
      | _ =>
        exact .of_same (world.perform_keeps thread oracle _ (by simp) (by simp) (by simp))
          (by cases stage <;> rfl)
    | _ =>
      exact .of_same (world.perform_keeps thread oracle _ (by simp) (by simp) (by simp))
        (by cases stage <;> rfl)

end Moves

def Stage.row : Stage → Option ExecutionIntent
  | .loaded row => some row
  | .submitting row _ _ => some row
  | _ => none

def Rooted (world : World) (phases : Thread → Stage) : Prop :=
  ∀ thread row, (phases thread).row = some row → row ∈ world.database.intents

theorem World.perform_intents (world : World) (thread : Thread) (oracle : Oracle)
    (command : Command) {row : ExecutionIntent} (inside : row ∈ world.database.intents) :
    row ∈ (world.perform thread oracle command).1.database.intents := by
  rcases world.perform_database thread oracle command with same | ⟨_, committed⟩
  · exact same ▸ inside
  · obtain ⟨_, _, intents, _⟩ := Database.commit_ok committed
    exact intents ▸ List.mem_append_left _ inside

theorem Moves.row {thread : Thread} {world after : World} {command : Command}
    {stage reached : Stage} (moves : Moves thread world after command stage reached) :
    reached.row = stage.row ∨ ∃ row ∈ world.database.intents, reached.row = some row := by
  cases moves with
  | keeps | opens | submits | commits => exact .inl rfl
  | loads intentId row found _ => exact .inr ⟨row, (Database.findIntent_some found).1, rfl⟩
  | records event stage _ _ _ _ => exact .inl (by cases stage <;> rfl)

theorem Stage.initial_row (task : Task) : (Stage.initial task).row = none := by
  cases task with
  | performRecovery intentId action =>
    unfold Stage.initial
    dsimp only
    split <;> rfl
  | _ => rfl

theorem Rooted.update {world : World} {phases : Thread → Stage} (rooted : Rooted world phases)
    (thread : Thread) {stage : Stage}
    (inside : ∀ row, stage.row = some row → row ∈ world.database.intents) :
    Rooted world (Function.update phases thread stage) := by
  intro other row found
  by_cases same : other = thread
  · subst same
    exact inside row (by simpa using found)
  · exact rooted other row (by simpa [same] using found)

theorem Rooted.perform {world : World} {phases : Thread → Stage} (rooted : Rooted world phases)
    (thread : Thread) (oracle : Oracle) (command : Command)
    (allowed : (phases thread).allows command) :
    Rooted (world.perform thread oracle command).1
      (Function.update phases thread
        ((phases thread).next command (world.perform thread oracle command).2)) := by
  have later : Rooted (world.perform thread oracle command).1 phases := fun other row found =>
    world.perform_intents thread oracle command (rooted other row found)
  refine later.update thread fun row found => ?_
  rcases (world.perform_moves thread oracle _ command allowed).row with same | ⟨loaded, inside, now⟩
  · exact later thread row (same ▸ found)
  · rw [found] at now
    exact world.perform_intents thread oracle command (Option.some.inj now ▸ inside)

end Runtime
