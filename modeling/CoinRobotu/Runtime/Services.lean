import CoinRobotu.Interleaving.Alone
import CoinRobotu.Redis.Store
import CoinRobotu.Runtime.Store

/-!
# The services behind the runtime

Everything a modelled function does outside its own variables is one command:
a Redis command, a query or a session operation, an order or a question to an
exchange, the clock, a fresh identifier. `aside` stands for calls whose effects
are on data left out of the model (health snapshots, alerts, audit rows, signed
artifacts, the enforcement gates); like every command they may raise.

The oracle of a step decides whether the command raises, and otherwise what
the clock, `uuid4` and the exchange answer. A command that raises has no
effect, except that a flush or a commit that raises loses the session's
pending work.
-/

open Interleaving

namespace Runtime

universe u

/-- The part of an intent that reaches the exchange adapter. -/
structure Order where
  intentHash : String
  quantity : ℚ
  priceReference : String
deriving DecidableEq

/-- What an exchange answers to a signed request: whether it succeeded, the
`orderStatus` of each listed order, and `execQty` and `execPrice` of each fill. -/
structure ExchangeAnswer where
  ok : Bool
  orderStatuses : List (Option String)
  fills : List (ℚ × ℚ)
deriving DecidableEq

inductive DatabaseCommand where
  | findIntent (intentId : String)
  | findIntentByHash (intentHash : String)
  | allIntents
  | findEvent (intentId eventType : String)
  | eventsOf (intentId : String)
  | findFailed (entityType entityId : String)
  | findFailedById (id : String)
  | findFailedByEntity (entityId : String)
  | allFailed
  | addIntent (row : ExecutionIntent)
  | addEvent (row : ExecutionIntentEvent)
  | addFailed (row : FailedEvent)
  | assignStatus (intentId status : String)
  | assignFailed (id : String) (change : FailedEvent → FailedEvent)
  | flush
  | commit
  | rollback

@[reducible] def DatabaseCommand.Reply : DatabaseCommand → Type
  | .findIntent _ => Option ExecutionIntent
  | .findIntentByHash _ => Option ExecutionIntent
  | .allIntents => List ExecutionIntent
  | .findEvent _ _ => Option ExecutionIntentEvent
  | .eventsOf _ => List ExecutionIntentEvent
  | .findFailed _ _ => Option FailedEvent
  | .findFailedById _ => Option FailedEvent
  | .findFailedByEntity _ => Option FailedEvent
  | .allFailed => List FailedEvent
  | _ => Unit

inductive Command where
  | redis (command : Redis.Command Raw)
  | database (command : DatabaseCommand)
  | submitOrder (order : Order)
  | exchange (endpoint symbol orderId : String)
  | now
  | uuid4
  | aside (call : String)

@[reducible] def Command.Reply : Command → Type
  | .redis command => command.Reply
  | .database command => command.Reply
  | .submitOrder _ => Unit
  | .exchange _ _ _ => ExchangeAnswer
  | .now => Time
  | .uuid4 => String
  | .aside _ => Unit

@[reducible] def services : Signature := ⟨Command, Command.Reply, Failure⟩

/-- The shared state: Redis, the committed rows, one session for each thread and
the orders the exchange adapter accepted. -/
structure World where
  redis : Redis.Store Raw
  database : Database
  sessions : Thread → Session
  accepted : List Order

/-- What the environment decides about one command. -/
structure Oracle where
  fault : Option Failure
  now : Time
  uuid : String
  exchange : ExchangeAnswer

def World.putSession (world : World) (thread : Thread) (session : Session) : World :=
  { world with sessions := Function.update world.sessions thread session }

section Put

variable (world : World) (thread : Thread) (session : Session)

@[simp] theorem World.putSession_redis :
    (world.putSession thread session).redis = world.redis := rfl

@[simp] theorem World.putSession_database :
    (world.putSession thread session).database = world.database := rfl

@[simp] theorem World.putSession_accepted :
    (world.putSession thread session).accepted = world.accepted := rfl

@[simp] theorem World.putSession_sessions : (world.putSession thread session).sessions =
    Function.update world.sessions thread session := rfl

end Put

def World.query {α : Type} (world : World) (thread : Thread) (answer : Database → α) :
    World × Except Failure α :=
  if (world.sessions thread).broken then (world, .error .pendingRollback)
  else (world, .ok (answer world.database))

def World.record (world : World) (thread : Thread) (change : Session → Session) :
    World × Except Failure Unit :=
  (world.putSession thread (change (world.sessions thread)), .ok ())

def World.performDatabase (world : World) (thread : Thread) :
    (command : DatabaseCommand) → World × Except Failure command.Reply
  | .findIntent intentId => world.query thread (·.findIntent intentId)
  | .findIntentByHash intentHash => world.query thread (·.findIntentByHash intentHash)
  | .allIntents => world.query thread fun database =>
      database.intents.insertionSort (fun left right => left.createdAt ≤ right.createdAt)
  | .findEvent intentId eventType => world.query thread (·.findEvent intentId eventType)
  | .eventsOf intentId => world.query thread (·.eventsOf intentId)
  | .findFailed entityType entityId => world.query thread fun database =>
      database.failed.find? (fun row => row.entityType = entityType ∧ row.entityId = entityId)
  | .findFailedById id => world.query thread fun database => database.failed.find? (·.id = id)
  | .findFailedByEntity entityId => world.query thread fun database =>
      database.failed.find? (·.entityId = entityId)
  | .allFailed => world.query thread fun database =>
      database.failed.insertionSort (fun left right => left.updatedAt ≤ right.updatedAt)
  | .addIntent row => world.record thread fun session =>
      { session with newIntents := session.newIntents ++ [row] }
  | .addEvent row => world.record thread fun session =>
      { session with newEvents := session.newEvents ++ [row] }
  | .addFailed row => world.record thread fun session =>
      { session with newFailed := session.newFailed ++ [row] }
  | .assignStatus intentId status => world.record thread fun session =>
      { session with statuses := session.statuses ++ [(intentId, status)] }
  | .assignFailed id change => world.record thread fun session =>
      { session with changes := session.changes ++ [(id, change)] }
  | .flush =>
      match world.database.commit (world.sessions thread) with
      | .ok _ => (world, .ok ())
      | .error failure => (world.putSession thread .failed, .error failure)
  | .commit =>
      match world.database.commit (world.sessions thread) with
      | .ok database => ({ world with database := database }.putSession thread .fresh, .ok ())
      | .error failure => (world.putSession thread .failed, .error failure)
  | .rollback => (world.putSession thread .fresh, .ok ())

def World.fail (world : World) (thread : Thread) : Command → World
  | .database .flush => world.putSession thread .failed
  | .database .commit => world.putSession thread .failed
  | _ => world

/-- Execute one command for a thread. -/
def World.perform (world : World) (thread : Thread) (oracle : Oracle) (command : Command) :
    World × Except Failure command.Reply :=
  match oracle.fault with
  | some failure => (world.fail thread command, .error failure)
  | none =>
      match command with
      | .redis command =>
          let result := world.redis.perform command
          ({ world with redis := result.1 }, .ok result.2)
      | .database command => world.performDatabase thread command
      | .submitOrder order => ({ world with accepted := world.accepted ++ [order] }, .ok ())
      | .exchange _ _ _ => (world, .ok oracle.exchange)
      | .now => (world, .ok oracle.now)
      | .uuid4 => (world, .ok oracle.uuid)
      | .aside _ => (world, .ok ())

/-- What a command with its answer makes of its thread's session. -/
def Session.after (session : Session) :
    (command : Command) → Except Failure command.Reply → Session
  | .database (.addIntent row), .ok _ => { session with newIntents := session.newIntents ++ [row] }
  | .database (.addEvent row), .ok _ => { session with newEvents := session.newEvents ++ [row] }
  | .database (.addFailed row), .ok _ => { session with newFailed := session.newFailed ++ [row] }
  | .database (.assignStatus intentId status), .ok _ =>
      { session with statuses := session.statuses ++ [(intentId, status)] }
  | .database (.assignFailed id change), .ok _ =>
      { session with changes := session.changes ++ [(id, change)] }
  | .database .flush, .error _ => .failed
  | .database .commit, .ok _ => .fresh
  | .database .commit, .error _ => .failed
  | .database .rollback, .ok _ => .fresh
  | _, _ => session

section Effects

attribute [local simp] World.performDatabase World.record World.fail Session.after

variable (world : World) (thread : Thread) (oracle : Oracle)

theorem World.query_world {α : Type} (answer : Database → α) :
    (world.query thread answer).1 = world := by
  unfold World.query
  split <;> rfl

attribute [local simp] World.query_world

theorem World.perform_sessions (command : Command) :
    (world.perform thread oracle command).1.sessions = Function.update world.sessions thread
      ((world.sessions thread).after command (world.perform thread oracle command).2) := by
  unfold World.perform
  cases oracle.fault with
  | some failure =>
    cases command with
    | database command => cases command <;> simp
    | _ => simp
  | none =>
    cases command with
    | database command =>
      cases command <;> simp
      all_goals split <;> simp
    | _ => simp

theorem World.perform_session (command : Command) :
    (world.perform thread oracle command).1.sessions thread =
      (world.sessions thread).after command (world.perform thread oracle command).2 := by
  rw [perform_sessions, Function.update_self]

theorem World.perform_other {other : Thread} (different : other ≠ thread) (command : Command) :
    (world.perform thread oracle command).1.sessions other = world.sessions other := by
  rw [perform_sessions, Function.update_of_ne different]

theorem World.perform_database (command : Command) :
    (world.perform thread oracle command).1.database = world.database ∨
      command = .database .commit ∧
        world.database.commit (world.sessions thread) =
          .ok (world.perform thread oracle command).1.database := by
  unfold World.perform
  cases oracle.fault with
  | some failure =>
    cases command with
    | database command => cases command <;> simp
    | _ => exact .inl rfl
  | none =>
    cases command with
    | database command =>
      cases command <;> simp
      all_goals split <;> simp_all
    | _ => exact .inl rfl

theorem World.perform_accepted (command : Command) :
    (world.perform thread oracle command).1.accepted = world.accepted ∨
      ∃ order, command = .submitOrder order ∧ oracle.fault = none ∧
        (world.perform thread oracle command).1.accepted = world.accepted ++ [order] := by
  unfold World.perform
  cases fault : oracle.fault with
  | some failure =>
    cases command with
    | database command => cases command <;> simp
    | _ => exact .inl rfl
  | none =>
    cases command with
    | database command =>
      cases command <;> simp
      all_goals split <;> simp
    | submitOrder order => exact .inr ⟨order, rfl, rfl, rfl⟩
    | _ => exact .inl rfl

variable {thread oracle} in
/-- A Redis command that does not raise is executed by the store. -/
theorem World.perform_store (sound : oracle.fault = none) (command : Redis.Command Raw) :
    world.perform thread oracle (.redis command) =
      ({ world with redis := (world.redis.perform command).1 },
        .ok (world.redis.perform command).2) := by
  simp [World.perform, sound]

variable {thread oracle} in
theorem World.perform_store_raised {failure : Failure} (raised : oracle.fault = some failure)
    (command : Redis.Command Raw) :
    world.perform thread oracle (.redis command) = (world, .error failure) := by
  simp [World.perform, raised]

theorem World.perform_redis (command : Command) :
    (world.perform thread oracle command).1.redis = world.redis ∨
      ∃ issued, command = .redis issued ∧ oracle.fault = none ∧
        (world.perform thread oracle command).1.redis = (world.redis.perform issued).1 := by
  unfold World.perform
  cases fault : oracle.fault with
  | some failure =>
    cases command with
    | database command => cases command <;> simp
    | _ => exact .inl rfl
  | none =>
    cases command with
    | database command =>
      cases command <;> simp
      all_goals split <;> simp
    | redis issued => exact .inr ⟨issued, rfl, rfl, rfl⟩
    | _ => exact .inl rfl

end Effects

/-- The services of the runtime. A task works in a session of its own, which
is closed with the task. -/
def runtimeService : Service services World Oracle where
  perform thread oracle command world := world.perform thread oracle command
  opens thread world := world.putSession thread .fresh
  closes thread world := world.putSession thread .fresh

def call (command : Command) : Program services command.Reply :=
  Program.call (S := services) command

/-- One command, seen by a protocol: it is allowed, and both answers lead on. -/
@[simp] theorem follows_call {Observed : Type} {Phase : Type u}
    {protocol : Protocol services Observed Phase} {raises : Failure → Phase → Prop} {phase : Phase}
    (command : Command) {returns : command.Reply → Phase → Prop} :
    @Program.Follows services Observed Phase (no_index command.Reply) protocol
        (call command) returns raises phase ↔
      protocol.allows phase command ∧
        (∀ reply, protocol.possible command (.ok reply) →
          returns reply (protocol.next phase command (.ok reply))) ∧
        (∀ failure, protocol.possible command (.error failure) →
          raises failure (protocol.next phase command (.error failure))) :=
  Program.follows_call (S := services) command

theorem only_call {kind : Command → Prop} {command : Command} (allowed : kind command) :
    (call command).Only (S := services) kind :=
  (follows_call command).mpr ⟨allowed, fun _ _ => trivial, fun _ _ => trivial⟩

theorem follows_bind_call {Observed α : Type} {Phase : Type u}
    {protocol : Protocol services Observed Phase} {returns : α → Phase → Prop}
    {raises : Failure → Phase → Prop} {phase : Phase} {command : Command}
    {rest : command.Reply → Program services α}
    (ends : protocol.allows phase command ∧
      (∀ reply, protocol.possible command (.ok reply) →
        (rest reply).Follows protocol returns raises
          (protocol.next phase command (.ok reply))) ∧
      (∀ failure, protocol.possible command (.error failure) →
        raises failure (protocol.next phase command (.error failure)))) :
    ((call command).bind rest).Follows protocol returns raises phase :=
  (Program.follows_bind _ _).mpr ((follows_call command).mpr ends)

abbrev throw {α : Type} (failure : Failure) : Program services α :=
  Program.fail (S := services) failure

end Runtime
