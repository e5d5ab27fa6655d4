import Mathlib.Data.List.Infix
import CoinRobotu.Interleaving.Alone
import CoinRobotu.Paper.Opening

/-!
# The rows of execution intents

An intent carries a status and the columns that its operations read.
-/

namespace Intent

inductive IntentStatus where
  | previewed
  | submitted
  | queued
  | approved
  | rejected
  | released
  | cancelled
deriving DecidableEq, Repr

def IntentStatus.text : IntentStatus → String
  | .previewed => "PREVIEWED"
  | .submitted => "SUBMITTED"
  | .queued => "QUEUED"
  | .approved => "APPROVED"
  | .rejected => "REJECTED"
  | .released => "RELEASED"
  | .cancelled => "CANCELLED"

/-- `EXECUTION_INTENT_ALLOWED_TRANSITIONS`. -/
def allowedTransitions : IntentStatus → List IntentStatus
  | .previewed => [.queued, .rejected, .cancelled]
  | .submitted => [.queued, .rejected, .cancelled]
  | .queued => [.approved, .rejected, .cancelled]
  | .approved => [.released, .cancelled]
  | .rejected => [.queued, .cancelled]
  | .released => []
  | .cancelled => []

def IntentStatus.Final (status : IntentStatus) : Prop := status = .released ∨ status = .cancelled

instance (status : IntentStatus) : Decidable status.Final :=
  inferInstanceAs (Decidable (status = .released ∨ status = .cancelled))

theorem not_final_of_allowed {before after : IntentStatus}
    (allowed : after ∈ allowedTransitions before) : ¬before.Final := by
  rintro (rfl | rfl) <;> cases allowed

/-- The columns of `user_execution_intents` that the operations read. -/
structure UserExecutionIntent where
  id : String
  userId : String
  intentToken : String
  previewHash : String
  status : IntentStatus
  intentType : String
  positionId : Option String
  symbol : String
  notional : ℚ
  size : Option ℚ
  price : Option ℚ
  stopPrice : Option ℚ
  takeProfitPrice : Option ℚ
  reduceOnly : Bool
  riskScore : ℚ
  riskFlags : List String
  rejectReasonCodes : List String
  normalizedOrderPayload : Paper.OpeningPayload
deriving DecidableEq

namespace UserExecutionIntent

def positionIntent (intent : UserExecutionIntent) : Paper.PositionIntent where
  userId := intent.userId
  intentType := intent.intentType
  positionId := intent.positionId
  price := intent.price
  size := intent.size
  stopPrice := intent.stopPrice
  takeProfitPrice := intent.takeProfitPrice

def openingIntent (intent : UserExecutionIntent) : Paper.OpeningIntent where
  userId := intent.userId
  symbol := intent.symbol
  notional := intent.notional
  stopPrice := intent.stopPrice
  takeProfitPrice := intent.takeProfitPrice

/-- `POSITION_ACTION_TYPES`. -/
def positionActionTypes : List String :=
  ["CLOSE_POSITION", "PARTIAL_CLOSE", "REVERSE_POSITION", "MOVE_STOP", "MOVE_TAKE_PROFIT"]

/-- `_is_high_risk_intent`. -/
def isHighRisk (intent : UserExecutionIntent) : Bool :=
  decide (70 ≤ intent.riskScore) ||
    intent.riskFlags.any fun flag =>
      ["critical", "high", "override"].any fun word =>
        decide (word.toList <:+: (Runtime.lower flag).toList)

end UserExecutionIntent

end Intent

/-!
## Sessions on one intent

Every operation runs in a database session of its own. A session keeps the row
of the intent once it has read it, collects what is assigned to it and to the
positions, and writes all of it when it commits. After a commit or a rollback
the row is read anew at the next access. A query that locks the row waits for
the session that holds the lock, but it does not refresh a row that its session
has already read; a flush of a changed row takes the lock as well.

A call may raise. When the database raised, the session can no longer be used;
when something else did, whatever the session has collected is still there.
-/

open Interleaving

namespace Intent

universe u

inductive Operation where
  | submit
  | cancel
  | approve
  | execute
  | reject
  | retry
  | adminCancel
  | edit
deriving DecidableEq, Repr

/-- The places at which an operation calls something. -/
inductive Point where
  | find
  | attributes
  | wallet
  | pipeline
  | commercialControl
  | executionGuard
  | openAllowed
  | rejectedCommit
  | rejectedRefresh
  | submittedCommit
  | submittedRefresh
  | rebalance
  | detail
  | user
  | marketType
  | defaultBot
  | position
  | exitPrice
  | price
  | positionFlush
  | sync
  | oppositeSync
  | trace
  | tradeTrace
  | commit
  | refresh
  | auditEntry
  | auditCommit
  | auditRefresh
deriving DecidableEq, Repr

structure Site where
  operation : Operation
  point : Point
deriving DecidableEq, Repr

/-- What `_ensure_fresh_wallet_snapshot` answers. -/
structure WalletRefresh where
  ok : Bool
  reasonCode : Option String
deriving DecidableEq

/-- What `run_execution_pipeline` answers; the rejection carries its reason code. -/
structure PipelineResult where
  enforcedAction : Option String
  standardizedReject : Option (Option String)
deriving DecidableEq

/-- The services an operation calls with its session. -/
inductive Service where
  | wallet
  | pipeline
  | commercialControl
  | executionGuard
  | openAllowed
  | rebalance
  | detail
  | user
  | marketType
  | defaultBot
  | safePrice (symbol : String)
  | syncPositionState
  | decisionTrace
  | auditEntry
deriving DecidableEq

@[reducible] def Service.Reply : Service → Type
  | .wallet => WalletRefresh
  | .pipeline => PipelineResult
  | .safePrice _ => ℚ
  | _ => Unit

/-- What a service did to the transaction of the session. -/
inductive Effect where
  | kept
  | flushed
  | committed
  | rolledBack
deriving DecidableEq, Repr

/-- The guard evaluates the readiness, which rolls back, and writes an audit row,
which commits; other services commit where they store or refuse something, or flush
the rows they add. A service that raises may have come so far or not. -/
def Service.effect (wanted : Effect) (raises : Bool) : Service → Effect
  | .executionGuard =>
      if raises = false ∧ wanted ≠ .rolledBack then .committed else wanted
  | .wallet => if wanted = .committed then .committed else .kept
  | .pipeline => if wanted = .committed then .committed else .kept
  | .openAllowed => if wanted = .committed then .committed else .kept
  | .commercialControl => if wanted = .committed ∧ raises = true then .committed else .kept
  | .defaultBot => if wanted = .flushed then .flushed else .kept
  | .rebalance => if raises = false ∨ wanted = .flushed then .flushed else .kept
  | .syncPositionState => if raises = false ∨ wanted = .flushed then .flushed else .kept
  | .decisionTrace => if raises = false ∨ wanted = .flushed then .flushed else .kept
  | _ => .kept

/-- A row of a position that a session writes. -/
inductive PositionWrite where
  | add (position : Paper.PaperPosition)
  | update (position : Paper.PaperPosition)
deriving DecidableEq

inductive Action where
  | findByToken (userId intentToken : String)
  | findForUpdate (intentId : String)
  | attributes
  | status
  | setStatus (status : IntentStatus)
  | assign (columns : UserExecutionIntent → UserExecutionIntent)
  | openPosition (intent : Paper.PositionIntent) (id : String)
  | write (write : PositionWrite)
  | flush
  | commit
  | refresh
  | call (service : Service)

@[reducible] def Action.Reply : Action → Type
  | .findByToken _ _ => Option UserExecutionIntent
  | .findForUpdate _ => Option UserExecutionIntent
  | .attributes => UserExecutionIntent
  | .status => IntentStatus
  | .setStatus _ => Unit
  | .assign _ => Unit
  | .openPosition _ _ => Option Paper.PaperPosition
  | .write _ => Unit
  | .flush => Unit
  | .commit => Unit
  | .refresh => UserExecutionIntent
  | .call service => service.Reply

def Action.commits : Action → Bool
  | .commit => true
  | _ => false

structure Command where
  site : Site
  action : Action

@[reducible] def signature : Signature where
  Command := Command
  Reply command := command.action.Reply
  Failure := String

/-- A raise, and whether the session is still usable after it. -/
structure Raise where
  reason : String
  usable : Bool
deriving DecidableEq

/-- What the surroundings decide about a command. -/
structure Oracle where
  raises : Site → Option Raise
  effect : Site → Effect
  wallet : Site → WalletRefresh
  pipeline : PipelineResult
  price : String → ℚ

/-- What one commit did to the status, and whether it wrote positions. -/
structure Change where
  before : IntentStatus
  after : IntentStatus
  moves : Bool
deriving DecidableEq, Repr

/-- The committed rows. The history of the commits is never read. -/
structure Database where
  intent : UserExecutionIntent
  positions : Paper.Book
  history : List Change

/-- What a session has read and collected: the row with the columns assigned since, the
status assigned since, these columns, and the rows of positions to write. -/
structure Session where
  row : Option UserExecutionIntent
  status : Option IntentStatus
  columns : List (UserExecutionIntent → UserExecutionIntent)
  writes : List PositionWrite
  usable : Bool

structure World where
  database : Database
  lock : Option Thread
  sessions : Thread → Session

def UserExecutionIntent.assigned (row : UserExecutionIntent)
    (columns : List (UserExecutionIntent → UserExecutionIntent)) : UserExecutionIntent :=
  { columns.foldl (fun row change => change row) row with status := row.status }

def PositionWrite.apply (book : Paper.Book) : PositionWrite → Except String Paper.Book
  | .add position => book.insert position
  | .update position => .ok (book.update
      (fun row => if row.id = position.id then position else row) fun row => by
        split
        · rename_i same
          exact same.symm
        · rfl)

def writeAll (book : Paper.Book) (writes : List PositionWrite) : Except String Paper.Book :=
  writes.foldlM PositionWrite.apply book

namespace Session

def opened : Session := ⟨none, none, [], [], true⟩

def dirty (session : Session) : Bool := session.status.isSome || !session.columns.isEmpty

end Session

namespace World

variable (world : World) (thread : Thread)

def put (session : Session) : World :=
  { world with sessions := Function.update world.sessions thread session }

def unlock : World := { world with lock := if world.lock = some thread then none else world.lock }

def rowSeen : UserExecutionIntent :=
  (world.sessions thread).row.getD
    (world.database.intent.assigned (world.sessions thread).columns)

def attributes : UserExecutionIntent :=
  { world.rowSeen thread with
    status := (world.sessions thread).status.getD (world.rowSeen thread).status }

def load : World :=
  world.put thread { world.sessions thread with row := some (world.rowSeen thread) }

def spoil : World := world.put thread { world.sessions thread with usable := false }

def rollback : World := (world.unlock thread).put thread .opened

/-- Write what the session collected, unless a primary key is taken. -/
def commit? : Option World :=
  match writeAll world.database.positions (world.sessions thread).writes with
  | .error _ => none
  | .ok positions =>
      let before := world.database.intent.status
      let after := (world.sessions thread).status.getD before
      let database : Database :=
        { intent :=
            { world.database.intent.assigned (world.sessions thread).columns with status := after }
          positions
          history := world.database.history ++
            [⟨before, after, !(world.sessions thread).writes.isEmpty⟩] }
      some ({ world.unlock thread with database }.put thread .opened)

def flushed : World :=
  if (world.sessions thread).dirty then { world with lock := some thread } else world

def undergo : Effect → World
  | .kept => world
  | .flushed => world.flushed thread
  | .committed => (world.commit? thread).getD world
  | .rolledBack => world.rollback thread

end World

/-- What a service answers. -/
def Service.reply (oracle : Oracle) (site : Site) : (service : Service) → service.Reply
  | .wallet => oracle.wallet site
  | .pipeline => oracle.pipeline
  | .safePrice symbol => oracle.price symbol
  | .commercialControl => ()
  | .executionGuard => ()
  | .openAllowed => ()
  | .rebalance => ()
  | .detail => ()
  | .user => ()
  | .marketType => ()
  | .defaultBot => ()
  | .syncPositionState => ()
  | .decisionTrace => ()
  | .auditEntry => ()

namespace World

def inMemory (world : World) (thread : Thread) : Action → Bool
  | .attributes => (world.sessions thread).row.isSome
  | .status => (world.sessions thread).row.isSome
  | .setStatus _ => true
  | .assign _ => true
  | .write _ => true
  | _ => false

/-- What a command raises, if it does, and the world then. -/
def fault (world : World) (thread : Thread) (oracle : Oracle) (command : Command) :
    Option (World × String) :=
  if world.inMemory thread command.action then none
  else if (world.sessions thread).usable then
    (oracle.raises command.site).map fun raise =>
      match command.action with
      | .call service =>
          let left := world.undergo thread (service.effect (oracle.effect command.site) true)
          (if raise.usable then left else left.spoil thread, raise.reason)
      | _ => (world.spoil thread, raise.reason)
  else some (world, "This Session's transaction has been rolled back")

/-- What a command that does not raise by itself does and answers. -/
def answer (world : World) (thread : Thread) (oracle : Oracle) (site : Site) :
    (action : Action) → World × Except String action.Reply
  | .findByToken userId intentToken =>
      if world.database.intent.userId = userId ∧ world.database.intent.intentToken = intentToken then
        (world.load thread, .ok (some (world.attributes thread)))
      else (world, .ok none)
  | .findForUpdate intentId =>
      if world.database.intent.id = intentId then
        ({ world.load thread with lock := some thread }, .ok (some (world.attributes thread)))
      else (world, .ok none)
  | .attributes => (world.load thread, .ok (world.attributes thread))
  | .status => (world.load thread, .ok (world.attributes thread).status)
  | .setStatus status =>
      let held := world.sessions thread
      -- a value that the row already had is not written
      let assigned := if held.row.map (·.status) = some status then none else some status
      (world.put thread { held with status := assigned }, .ok ())
  | .assign columns =>
      let held := world.sessions thread
      (world.put thread
        { held with
          row := held.row.map (·.assigned [columns])
          columns := held.columns ++ [columns] }, .ok ())
  | .openPosition intent id => (world, .ok (world.database.positions.openPosition intent id))
  | .write write =>
      let held := world.sessions thread
      (world.put thread { held with writes := held.writes ++ [write] }, .ok ())
  | .flush =>
      match writeAll world.database.positions (world.sessions thread).writes with
      | .error reason => (world.spoil thread, .error reason)
      | .ok _ => (world.flushed thread, .ok ())
  | .commit =>
      match world.commit? thread with
      | none => (world.spoil thread, .error "duplicate key value violates unique constraint")
      | some after => (after, .ok ())
  | .refresh =>
      (world.put thread
        { world.sessions thread with
          row := some world.database.intent
          status := none
          columns := [] }, .ok world.database.intent)
  | .call service =>
      (world.undergo thread (service.effect (oracle.effect site) false),
        .ok (service.reply oracle site))

def perform (thread : Thread) (oracle : Oracle) (command : Command) (world : World) :
    World × Except String command.action.Reply :=
  match world.fault thread oracle command with
  | some (left, reason) => (left, .error reason)
  | none => world.answer thread oracle command.site command.action

/-- Whether a command writes the row of the intent or locks it. -/
def needsLock (world : World) (thread : Thread) (oracle : Oracle) (command : Command) : Bool :=
  match command.action with
  | .findForUpdate intentId => world.database.intent.id = intentId
  | .flush => (world.sessions thread).dirty
  | .commit => (world.sessions thread).dirty
  | .call service =>
      decide (service.effect (oracle.effect command.site) (oracle.raises command.site).isSome ∈
        [.flushed, .committed]) && (world.sessions thread).dirty
  | _ => false

def Waits (world : World) (thread : Thread) (oracle : Oracle) (command : Command) : Prop :=
  world.needsLock thread oracle command = true ∧ world.lock ≠ none ∧ world.lock ≠ some thread

instance (world : World) (thread : Thread) (oracle : Oracle) (command : Command) :
    Decidable (world.Waits thread oracle command) :=
  inferInstanceAs (Decidable (_ ∧ _ ∧ _))

end World

def sessions : Interleaving.Service signature World Oracle where
  perform thread oracle command world := world.perform thread oracle command
  opens thread world := world.put thread .opened
  closes thread world := world.rollback thread

end Intent
