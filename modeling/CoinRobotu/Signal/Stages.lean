import CoinRobotu.Signal.Intake

/-!
# The stages of a task

Seen from outside, a delivery looks its job up, opens or creates its order, and
then works on a session. There its step says which part of the `try` statement
it is in: before the adapter answered, with the answer, in the loop over the
states, after the commit, or in the handler. A signal inserts a job, may commit
it, and ends by rejecting or accepting it. A reconciliation goes through the
listed orders and collects what its commit will write.
-/

open Interleaving

namespace Signal

open Runtime (upper orElse)

section Sessions

variable (work : Work)

def Work.cleared : Work := { work with job := { work.job with failureClass := none } }

def Work.recorded (result : ExchangeResult) : Work :=
  { work with order := work.order.withResult result }

def Work.moved (moved : Order) (state : String) : Work :=
  { work with order := moved, job := { work.job with state } }

def Work.synced (row : Option Position) : Work :=
  { work with position := some (row, syncedPosition work.order row) }

def Work.failed (failure : String) : Work := { work with job := work.job.afterFailure failure }

end Sessions

/-- Where a delivery stands in its `try` statement. -/
inductive Step where
  | preparing
  | replied (result : ExchangeResult)
  | answered (result : ExchangeResult)
  | recording (states : List String)
  | filling (states : List String)
  | filled (row : Option Position) (states : List String)
  | closed
  | raising
  | failed
  | handled
deriving DecidableEq

namespace Step

/-- What the `try` block assigns in a step. -/
def Assigns (work : Work) : Step → Work → Prop
  | .replied _, held => held = work.cleared
  | .answered result, held =>
      held = work.recorded result ∧ work.jobExpired = false ∧ work.orderExpired = false
  | .recording (state :: _), held =>
      ∃ moved, advanceOrderState work.order state = .ok moved ∧ held = work.moved moved state
  | .filled row _, held => held = work.synced row
  | _, _ => False

/-- Whether the handler may take over. -/
def MayRaise (work : Work) : Step → Prop
  | .preparing => True
  | .raising => True
  | .recording (state :: _) => ∃ failure, advanceOrderState work.order state = .error failure
  | _ => False

/-- The steps in which the session is committed. -/
def Commits : Step → Prop
  | .answered _ => True
  | .recording states => states = []
  | .closed => True
  | .failed => True
  | .handled => True
  | _ => False

/-- The steps in which code outside of the session is called: not between the
move of an order to filled and the assignment of its position. -/
def Pauses : Step → Prop
  | .filling _ => False
  | .filled _ _ => False
  | _ => True

theorem Commits.pauses {step : Step} (commits : step.Commits) : step.Pauses := by
  cases step with
  | filling | filled => exact commits
  | _ => trivial

/-- The step after an assignment of the `try` block. -/
def assigned : Step → Step
  | .replied result => .answered result
  | .answered result => .recording result.states
  | .recording (state :: states) => if state = "FILLED" then .filling states else .recording states
  | .filled _ states => .recording states
  | step => step

def committed : Step → Step
  | .recording _ => .closed
  | .failed => .handled
  | step => step

def located (row : Option Position) : Step → Step
  | .filling states => .filled row states
  | step => step

def raised : Step → Step
  | .failed => .failed
  | .handled => .handled
  | _ => .raising

/-- The step after an answer. -/
def next (work : Work) (step : Step) : (command : Command) → Except String command.Reply → Step
  | .hold held, .ok _ =>
    if held.job.retryCount = work.job.retryCount then step.assigned else .failed
  | .commit _, .ok _ => step.committed
  | .submitOrder request, .ok reply => .replied (reply.toResult request.markPrice)
  | .findPosition _, .ok row => step.located row
  | .findJob _, .ok none => step.raised
  | .findOrder _, .ok none => step.raised
  | _, .error _ => step.raised
  | _, .ok _ => step

theorem next_error (work : Work) (step : Step) (command : Command) (failure : String) :
    step.next work command (.error failure) = step.raised := by
  cases command <;> rfl

/-- The commands of a delivery that works on a session. -/
def allows (payload : QueuePayload) (work : Work) (step : Step) (command : Command) : Prop :=
  (command.ofSession = true → work.broken = false) ∧
    match command with
    | .hold held =>
        step.Assigns work held ∨
          ∃ failure, held = work.failed failure ∧ work.jobExpired = false ∧
            (work.broken = true ∨ step.MayRaise work)
    | .assign id previous target =>
        ∃ state states moved, step = .recording (state :: states) ∧
          advanceOrderState work.order state = .ok moved ∧ id = work.order.id ∧
          previous = work.order.state ∧ target = moved.state
    | .commit changes => changes = work.changes ∧ step.Commits
    | .findJob id => id = work.job.id ∧ work.jobExpired = true
    | .findOrder id => id = work.order.id ∧ work.orderExpired = true
    | .findPosition positionId =>
        ∃ states, step = .filling states ∧ positionId = (work.order.userId, work.order.symbol)
    | .submitOrder request => step = .preparing ∧ request = work.job.request
    | .rpush next =>
        step = .handled ∧ work.jobExpired = false ∧ upper work.job.state ≠ "FAILED" ∧
          next.executionJobId = payload.executionJobId
    | .availableBalance => step.Pauses
    | .now => True
    | .ask _ _ => step.Pauses
    | .aside _ _ => step.Pauses
    | _ => False

end Step

/-- Where a task stands. -/
inductive Stage where
  | idle
  | quiet
  | signalling (request : SignalRequest)
  | numbered (request : SignalRequest) (id : Id)
  | admitted (request : SignalRequest) (job : ExecutionJob) (stored : Option ExecutionJob)
      (room : Option ℚ)
  | pushed (job : ExecutionJob)
  | fetching
  | looking (payload : QueuePayload)
  | found (payload : QueuePayload) (job : ExecutionJob)
  | ordering (payload : QueuePayload) (job : ExecutionJob)
  | inserting (payload : QueuePayload) (job : ExecutionJob) (order : Order)
  | working (payload : QueuePayload) (work : Work) (step : Step)
  | listing
  | reconciling (current : Option (Order × StatusPayload)) (rest : List Order)
      (changes : List Change)

def ExecutionJob.payload (job : ExecutionJob) : QueuePayload := ⟨some job.id, job.retryCount, 0⟩

def ExecutionJob.accepted (job : ExecutionJob) : ExecutionJob :=
  { job with queuePayload := some job.payload }

namespace Stage

/-- Commands that change nothing outside of the session. -/
def inert : Command → Prop
  | .ask _ _ => True
  | .aside _ _ => True
  | .now => True
  | .commit changes => changes = []
  | _ => False

def allows : Stage → Command → Prop
  | .idle, _ => False
  | .signalling _, .validatePrecheck => True
  | .signalling _, .findJobByKey _ => True
  | .signalling _, .uuid4 => True
  | .numbered request id, .flush changes =>
      ∃ key side size, 0 < size ∧ changes =
        [.insertJob (newJob id key request (upper (request.symbol.getD "")) side size)]
  | .admitted _ _ _ _, .evaluateCanary => True
  | .admitted request _ _ _, .openNotional userId => userId = request.userId
  | .admitted _ job stored _, .commit changes =>
      changes = saveJob stored job ∨ ∃ reason, changes = saveJob stored (job.rejected reason)
  | .admitted request job stored room, .rpush payload =>
      stored = none ∧ payload = job.payload ∧ ∃ notional, room = some notional ∧
        notional + proposedNotional job.size request.price ≤ request.limits.perUserNotionalCap
  | .pushed job, .commit changes => changes = saveJob none job.accepted
  | .fetching, .lpop => True
  | .looking payload, .findJob id => payload.executionJobId = some id
  | .found payload _, .rpush again => again = payload
  | .found _ job, .orderOfJob jobId => jobId = job.id
  | .ordering _ _, .uuid4 => True
  | .inserting _ _ order, .flush changes => changes = [.insertOrder order]
  | .working payload work step, command => step.allows payload work command
  | .listing, .openOrders _ => True
  | .reconciling _ rest _, .orderStatus symbol orderId =>
      ∃ order orders, rest = order :: orders ∧ symbol = order.symbol ∧
        orderId = order.externalOrderId.getD ""
  | .reconciling current _ _, .assign id previous target =>
      ∃ order payload, current = some (order, payload) ∧ id = order.id ∧ previous = order.state ∧
        target = upper payload.status ∧ target ≠ "" ∧ target ≠ upper order.state
  | .reconciling current _ _, .findJob id =>
      ∃ order payload, current = some (order, payload) ∧ id = order.executionJobId ∧
        upper payload.status ∈ ["FILLED", "CANCELED", "FAILED"]
  | .reconciling _ rest changes, .commit committed => rest = [] ∧ committed = changes
  | _, command => inert command

/-- The stage after a reply. -/
def replied : Stage → (command : Command) → command.Reply → Stage
  | .signalling request, .uuid4, id => .numbered request id
  | .numbered request _, .flush [.insertJob job], _ => .admitted request job none none
  | .admitted request job stored _, .openNotional _, notional =>
      .admitted request job stored (some notional)
  | .admitted request job stored room, .commit changes, _ =>
      if changes = saveJob stored job then .admitted request job (some job) room else .quiet
  | .admitted _ job _ _, .rpush _, _ => .pushed job
  | .pushed _, .commit _, _ => .quiet
  | .fetching, .lpop, none => .quiet
  | .fetching, .lpop, some payload => .looking payload
  | .looking _, .findJob _, none => .quiet
  | .looking payload, .findJob _, some job =>
      if upper job.state ∈ terminalStates then .quiet else .found payload job
  | .found _ _, .rpush _, _ => .quiet
  | .found payload job, .orderOfJob _, none => .ordering payload job
  | .found payload job, .orderOfJob _, some order =>
      .working payload (.opened job (some order) order) .preparing
  | .ordering payload job, .uuid4, id => .inserting payload job (newOrder id job)
  | .inserting payload job order, .flush _, _ =>
      .working payload (.opened job none order) .preparing
  | .listing, .openOrders _, orders => .reconciling none orders []
  | .reconciling _ (order :: orders) changes, .orderStatus _ _, reply =>
      .reconciling (some (order, reply.toStatus)) orders changes
  | .reconciling (some (order, payload)) rest changes, .assign _ _ _, _ =>
      .reconciling (some (order, payload)) rest
        (changes ++ [.updateOrder order (order.reconciled payload)])
  | .reconciling (some (order, payload)) rest changes, .findJob _, some job =>
      .reconciling (some (order, payload)) rest
        (changes ++ saveJob (some job) { job with state := upper payload.status })
  | .reconciling _ _ _, .commit _, _ => .quiet
  | stage, _, _ => stage

/-- The stage after an answer. Outside of a `try` block a failure ends the task,
except that the reconciliation goes on with the next order. -/
def next : Stage → (command : Command) → Except String command.Reply → Stage
  | .working payload work step, command, answer =>
      .working payload (work.answered command answer) (step.next work command answer)
  | .reconciling _ (_ :: orders) changes, .orderStatus _ _, .error _ =>
      .reconciling none orders changes
  | stage, command, .ok reply => stage.replied command reply
  | _, _, .error _ => .quiet

def initial : Task → Stage
  | .signal request => .signalling request
  | .deliver payload => .looking payload
  | .consume => .fetching
  | .reconcile _ => .listing

end Stage

def stages : Protocol services Task Stage where
  idle := .idle
  initial := Stage.initial
  next := Stage.next
  allows := Stage.allows
  possible _ _ := True

end Signal
