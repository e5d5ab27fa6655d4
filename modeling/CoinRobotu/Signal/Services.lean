import CoinRobotu.Interleaving.Machine
import CoinRobotu.Signal.Rows

/-!
# The services behind the signal engine

A command is a query, a flush or a commit, an operation on the execution queue,
a call of the exchange adapter, or a question to code whose data the model
leaves out (`ask` and `aside`: alerts, audit rows, metrics, the kill switch, the
timeline; the flag says whether they use the session). Every command of these
kinds may raise, and one that uses the session then leaves it unusable until it
is closed. `hold` and `assign` are the
assignments to attributes of loaded rows, as events of their own: they touch
nothing outside the session and cannot fail.

`accepted`, `applied` and `filled` record the run and are never read: the
requests the exchange took, whether or not the adapter came back with the
answer, the jobs whose fills a commit wrote to a position, and the orders as a
commit made them filled.
-/

open Interleaving

namespace Signal

open Runtime (upper lower)
open Numeric

/-- `TERMINAL_STATES`. -/
def terminalStates : List String := ["FILLED", "FAILED", "CANCELED"]

/-- `STATE_TRANSITIONS`; a state that is no key has no transitions. -/
def stateTransitions (state : String) : List String :=
  if state = "CREATED" then ["SENT", "FAILED", "CANCELED"]
  else if state = "SENT" then ["PARTIALLY_FILLED", "FILLED", "FAILED", "CANCELED"]
  else if state = "PARTIALLY_FILLED" then ["PARTIALLY_FILLED", "FILLED", "FAILED", "CANCELED"]
  else []

/-- The keys of `STATE_TRANSITIONS`. -/
def orderStates : List String :=
  ["CREATED", "SENT", "PARTIALLY_FILLED", "FILLED", "FAILED", "CANCELED"]

/-- `OPEN_STATES` of the reconciliation. -/
def openStates : List String := ["CREATED", "SENT", "PARTIALLY_FILLED"]

/-- What the adapter is asked to submit. -/
structure SubmitRequest where
  executionJobId : Id
  idempotencyKey : String
  symbol : String
  side : String
  size : ℚ
  strategyName : String
  markPrice : ℚ
deriving DecidableEq

/-- The exchange's answer about an order, and whether the adapter's active
market is futures. -/
structure OrderReply where
  futures : Bool
  orderId : String
  status : String
  executedQty : ℚ
  cumulativeQuote : ℚ
  avgPrice : ℚ
deriving DecidableEq

/-- What `submit_order` returns. -/
structure ExchangeResult where
  externalOrderId : String
  states : List String
  avgFillPrice : ℚ
  filledSize : ℚ
deriving DecidableEq

/-- What `get_order_status` returns. -/
structure StatusPayload where
  status : String
  executedQty : ℚ
  avgFillPrice : ℚ
deriving DecidableEq

/-- `_map_status_to_states`. -/
def mapStatusToStates (status : String) : List String :=
  let normalized := upper status
  if normalized = "NEW" then ["SENT"]
  else if normalized = "PARTIALLY_FILLED" then ["SENT", "PARTIALLY_FILLED"]
  else if normalized = "FILLED" then ["SENT", "FILLED"]
  else if normalized = "CANCELED" then ["SENT", "CANCELED"]
  else if normalized = "REJECTED" then ["SENT", "FAILED"]
  else if normalized = "EXPIRED" then ["SENT", "FAILED"]
  else ["SENT"]

/-- The end of `submit_order`: from the exchange's answer to the result. -/
def OrderReply.toResult (reply : OrderReply) (markPrice : ℚ) : ExchangeResult :=
  let avgFillPrice :=
    if 0 < reply.executedQty then reply.cumulativeQuote / reply.executedQty else markPrice
  let status := upper reply.status
  let exchangeStatus :=
    if reply.futures ∧ status = "" then if 0 < reply.executedQty then "FILLED" else "SENT"
    else status
  { externalOrderId := reply.orderId
    states := mapStatusToStates exchangeStatus
    avgFillPrice := roundTo 8 avgFillPrice
    filledSize := roundTo 8 reply.executedQty }

/-- The end of `get_order_status`. -/
def OrderReply.toStatus (reply : OrderReply) : StatusPayload :=
  let quoted := if reply.futures then reply.avgPrice else 0
  let avgFillPrice :=
    if quoted ≤ 0 ∧ 0 < reply.executedQty then reply.cumulativeQuote / reply.executedQty else quoted
  { status := upper reply.status
    executedQty := roundTo 8 reply.executedQty
    avgFillPrice := roundTo 8 avgFillPrice }

/-- What the session of a delivery holds: the rows it works on, with the values
they were read with, and what became of the session. A new order and a new
position have no stored row. -/
structure Work where
  storedJob : ExecutionJob
  job : ExecutionJob
  storedOrder : Option Order
  order : Order
  position : Option (Option Position × Position)
  jobExpired : Bool
  orderExpired : Bool
  broken : Bool
deriving DecidableEq

/-- What a commit of the session writes. -/
def Work.changes (work : Work) : List Change :=
  (if work.job = work.storedJob then [] else [.updateJob work.storedJob work.job]) ++
    (match work.storedOrder with
      | none => [.insertOrder work.order]
      | some stored =>
          if work.order = stored then [] else [.updateOrder stored work.order]) ++
    match work.position with
      | none => []
      | some (none, position) => [.insertPosition work.job.id position]
      | some (some stored, position) => [.updatePosition work.job.id stored position]

/-- What `validate_order_precheck` answers. -/
structure Precheck where
  valid : Bool
  adjustedSize : Option ℚ
deriving DecidableEq

inductive Command where
  | findJob (id : Id)
  | findJobByKey (key : String)
  | orderOfJob (jobId : Id)
  | findOrder (id : Id)
  | findPosition (positionId : String × String)
  | openOrders (limit : ℤ)
  | openNotional (userId : String)
  | flush (changes : List Change)
  | commit (changes : List Change)
  | hold (work : Work)
  | assign (orderId : Id) (previous target : String)
  | lpop
  | rpush (payload : QueuePayload)
  | availableBalance
  | submitOrder (request : SubmitRequest)
  | orderStatus (symbol orderId : String)
  | validatePrecheck
  | evaluateCanary
  | uuid4
  | now
  | ask (question : String) (ofSession : Bool)
  | aside (call : String) (ofSession : Bool)

@[reducible] def Command.Reply : Command → Type
  | .findJob _ => Option ExecutionJob
  | .findJobByKey _ => Option ExecutionJob
  | .orderOfJob _ => Option Order
  | .findOrder _ => Option Order
  | .findPosition _ => Option Position
  | .openOrders _ => List Order
  | .openNotional _ => ℚ
  | .lpop => Option QueuePayload
  | .availableBalance => ℚ
  | .submitOrder _ => OrderReply
  | .orderStatus _ _ => OrderReply
  | .validatePrecheck => Precheck
  | .evaluateCanary => Option String
  | .uuid4 => Id
  | .now => ℤ
  | .ask _ _ => Bool
  | _ => Unit

@[reducible] def services : Signature := ⟨Command, Command.Reply, String⟩

structure World where
  database : Database
  queue : List QueuePayload
  nextId : Id
  accepted : List SubmitRequest
  applied : List Id
  filled : List Order

/-- What the environment decides about one command. `canary` is the reason why
the canary refuses a signal, and `recent` is the order of `updated_at`, with
what a limit leaves out left out. -/
structure Oracle where
  fault : Option String
  accepts : Bool
  answer : Bool
  time : ℤ
  balance : ℚ
  reply : OrderReply
  precheck : Precheck
  canary : Option String
  recent : List Id

/-- The commands that use the session's connection. -/
def Command.ofSession : Command → Bool
  | .findJob _ => true
  | .findJobByKey _ => true
  | .orderOfJob _ => true
  | .findOrder _ => true
  | .findPosition _ => true
  | .openOrders _ => true
  | .openNotional _ => true
  | .validatePrecheck => true
  | .evaluateCanary => true
  | .flush _ => true
  | .commit _ => true
  | .ask _ ofSession => ofSession
  | .aside _ ofSession => ofSession
  | _ => false

/-- The session after a commit: everything is stored, and the attributes are
read again when they are next used. -/
def Work.committed (work : Work) : Work :=
  { work with
    storedJob := work.job
    storedOrder := some work.order
    position := none
    jobExpired := true
    orderExpired := true }

def Work.answered (work : Work) : (command : Command) → Except String command.Reply → Work
  | .commit _, .ok _ => work.committed
  | .findJob _, .ok (some row) => { work with storedJob := row, job := row, jobExpired := false }
  | .findOrder _, .ok (some row) =>
      { work with storedOrder := some row, order := row, orderExpired := false }
  | .hold held, .ok _ => held
  | command, .error _ => if command.ofSession then { work with broken := true } else work
  | _, .ok _ => work

def Change.fillJob : Change → Option Id
  | .insertPosition jobId _ => some jobId
  | .updatePosition jobId _ _ => some jobId
  | _ => none

def newlyFilled (before after : Database) : List Order :=
  after.orders.filter fun order =>
    order.state = "FILLED" ∧
      ∀ earlier, before.findOrder order.id = some earlier → earlier.state ≠ "FILLED"

def Command.total : Command → Bool
  | .hold _ => true
  | .assign _ _ _ => true
  | .uuid4 => true
  | .now => true
  | _ => false

/-- The answer where the command does not raise. -/
def World.answer (world : World) (oracle : Oracle) :
    (command : Command) → World × Except String command.Reply
  | .findJob id => (world, .ok (world.database.findJob id))
  | .findJobByKey key => (world, .ok (world.database.findJobByKey key))
  | .orderOfJob jobId => (world, .ok (world.database.orderOfJob jobId))
  | .findOrder id => (world, .ok (world.database.findOrder id))
  | .findPosition positionId => (world, .ok (world.database.findPosition positionId))
  | .openOrders limit =>
      (world, .ok (((oracle.recent.dedup.filterMap world.database.findOrder).filter fun order =>
        order.state ∈ openStates ∧ order.externalOrderId.isSome).take
          (max 1 (min limit 300)).toNat))
  | .openNotional userId => (world, .ok (world.database.openNotional userId))
  | .flush changes => (world, (world.database.commit changes).map fun _ => ())
  | .commit changes =>
      match world.database.commit changes with
      | .ok database =>
          ({ world with
              database
              applied := world.applied ++ changes.filterMap Change.fillJob
              filled := world.filled ++ newlyFilled world.database database }, .ok ())
      | .error failure => (world, .error failure)
  | .hold _ => (world, .ok ())
  | .assign _ _ _ => (world, .ok ())
  | .lpop => ({ world with queue := world.queue.tail }, .ok world.queue.head?)
  | .rpush payload => ({ world with queue := world.queue ++ [payload] }, .ok ())
  | .availableBalance => (world, .ok oracle.balance)
  | .submitOrder request =>
      ({ world with accepted := world.accepted ++ [request] }, .ok oracle.reply)
  | .orderStatus _ _ => (world, .ok oracle.reply)
  | .validatePrecheck => (world, .ok oracle.precheck)
  | .evaluateCanary => (world, .ok oracle.canary)
  | .uuid4 => ({ world with nextId := world.nextId + 1 }, .ok world.nextId)
  | .now => (world, .ok oracle.time)
  | .ask _ _ => (world, .ok oracle.answer)
  | .aside _ _ => (world, .ok ())

/-- A command that raises has no effect, except that the exchange may have taken
an order before the adapter raised. -/
def World.raised (world : World) (oracle : Oracle) : Command → World
  | .submitOrder request =>
      if oracle.accepts then { world with accepted := world.accepted ++ [request] } else world
  | _ => world

def World.perform (world : World) (oracle : Oracle) (command : Command) :
    World × Except String command.Reply :=
  match oracle.fault with
  | none => world.answer oracle command
  | some failure =>
      if command.total then world.answer oracle command
      else (world.raised oracle command, .error failure)

/-- Sessions are the programs' own, so starting and ending a task does nothing. -/
def signalService : Service services World Oracle :=
  ⟨fun _ oracle command world => world.perform oracle command, fun _ world => world,
    fun _ world => world⟩

def call (command : Command) : Program services command.Reply :=
  @Program.call services command

end Signal
