import Mathlib.Data.List.Nodup
import CoinRobotu.Numeric.Rounding
import CoinRobotu.Runtime.Text

/-!
# Jobs, orders and positions

The signal engine keeps three tables. A job is what a signal asks for, an order
is what the exchange was asked for on its behalf, and a position is what the
fills of a user and symbol add up to. A commit writes the attributes that were
assigned since the rows were read; the other attributes of a row stay as they
are in the table. Identifiers that `uuid4` draws are numbers here, and the text
`user:symbol` that identifies a position is the pair it is made of.
-/

namespace Signal

abbrev Id := Nat

/-- What `execute_queued_job` reads of a queue payload; a missing time is zero. -/
structure QueuePayload where
  executionJobId : Option Id
  retryCount : ℤ
  retryAtTs : ℤ
deriving DecidableEq

structure ExecutionJob where
  id : Id
  idempotencyKey : String
  userId : String
  symbol : String
  side : String
  size : ℚ
  strategyName : String
  state : String
  rejectReason : Option String
  failReason : Option String
  lastError : Option String
  failureClass : Option String
  retryCount : ℤ
  maxRetry : ℤ
  queuePayload : Option QueuePayload
  /-- `mark_price` and `leverage` of the `meta_payload`. -/
  markPrice : ℚ
  leverage : ℤ
deriving DecidableEq

structure Order where
  id : Id
  executionJobId : Id
  userId : String
  symbol : String
  side : String
  size : ℚ
  state : String
  externalOrderId : Option String
  avgFillPrice : Option ℚ
  filledSize : ℚ
  rejectReason : Option String
  failReason : Option String
deriving DecidableEq

structure Position where
  userId : String
  symbol : String
  size : ℚ
  entryPrice : ℚ
  currentPrice : ℚ
  status : String
  externalOrderId : Option String
deriving DecidableEq

/-- `position_id`. -/
def Position.positionId (position : Position) : String × String :=
  (position.userId, position.symbol)

/-- `value or 1.0`. -/
def orOne (value : ℚ) : ℚ := if value = 0 then 1 else value

/-- The attribute after a write: the assigned one, or else the one in the table. -/
def pick {α : Type} [DecidableEq α] (stored current row : α) : α :=
  if current = stored then row else current

@[simp] theorem pick_stored {α : Type} [DecidableEq α] (stored current : α) :
    pick stored current stored = current := by
  unfold pick
  split
  · rename_i same
    exact same.symm
  · rfl

@[simp] theorem pick_same {α : Type} [DecidableEq α] (stored row : α) :
    pick stored stored row = row := by
  simp [pick]

def ExecutionJob.merge (stored current row : ExecutionJob) : ExecutionJob :=
  { id := row.id
    idempotencyKey := row.idempotencyKey
    userId := row.userId
    symbol := row.symbol
    side := row.side
    size := row.size
    strategyName := row.strategyName
    state := pick stored.state current.state row.state
    rejectReason := pick stored.rejectReason current.rejectReason row.rejectReason
    failReason := pick stored.failReason current.failReason row.failReason
    lastError := pick stored.lastError current.lastError row.lastError
    failureClass := pick stored.failureClass current.failureClass row.failureClass
    retryCount := pick stored.retryCount current.retryCount row.retryCount
    maxRetry := row.maxRetry
    queuePayload := pick stored.queuePayload current.queuePayload row.queuePayload
    markPrice := row.markPrice
    leverage := row.leverage }

def Order.merge (stored current row : Order) : Order :=
  { id := row.id
    executionJobId := row.executionJobId
    userId := row.userId
    symbol := row.symbol
    side := row.side
    size := row.size
    state := pick stored.state current.state row.state
    externalOrderId := pick stored.externalOrderId current.externalOrderId row.externalOrderId
    avgFillPrice := pick stored.avgFillPrice current.avgFillPrice row.avgFillPrice
    filledSize := pick stored.filledSize current.filledSize row.filledSize
    rejectReason := pick stored.rejectReason current.rejectReason row.rejectReason
    failReason := pick stored.failReason current.failReason row.failReason }

def Position.merge (stored current row : Position) : Position :=
  { userId := row.userId
    symbol := row.symbol
    size := pick stored.size current.size row.size
    entryPrice := row.entryPrice
    currentPrice := pick stored.currentPrice current.currentPrice row.currentPrice
    status := pick stored.status current.status row.status
    externalOrderId := pick stored.externalOrderId current.externalOrderId row.externalOrderId }

/-- What a commit writes: a new row, or the attributes in which the current
values of a row differ from those that were read. -/
inductive Change where
  | insertJob (job : ExecutionJob)
  | updateJob (stored current : ExecutionJob)
  | insertOrder (order : Order)
  | updateOrder (stored current : Order)
  | insertPosition (jobId : Id) (position : Position)
  | updatePosition (jobId : Id) (stored current : Position)
deriving DecidableEq

structure Tables where
  jobs : List ExecutionJob
  orders : List Order
  positions : List Position

/-- The unique constraints of the three tables. -/
def Tables.Consistent (tables : Tables) : Prop :=
  (tables.jobs.map ExecutionJob.id).Nodup ∧
    (tables.jobs.map ExecutionJob.idempotencyKey).Nodup ∧
    (tables.orders.map Order.id).Nodup ∧
    (tables.orders.filterMap Order.externalOrderId).Nodup ∧
    (tables.positions.map Position.positionId).Nodup

instance (tables : Tables) : Decidable tables.Consistent := by
  unfold Tables.Consistent
  infer_instance

theorem Tables.consistent_nil : Tables.Consistent ⟨[], [], []⟩ := by decide

def rewrite {α κ : Type} [DecidableEq κ] (key : α → κ) (target : κ) (change : α → α)
    (rows : List α) : List α :=
  rows.map fun row => if key row = target then change row else row

def Tables.write (tables : Tables) : Change → Tables
  | .insertJob job => { tables with jobs := tables.jobs ++ [job] }
  | .updateJob stored current =>
      { tables with
        jobs := rewrite ExecutionJob.id stored.id (ExecutionJob.merge stored current) tables.jobs }
  | .insertOrder order => { tables with orders := tables.orders ++ [order] }
  | .updateOrder stored current =>
      { tables with
        orders := rewrite Order.id stored.id (Order.merge stored current) tables.orders }
  | .insertPosition _ position => { tables with positions := tables.positions ++ [position] }
  | .updatePosition _ stored current =>
      { tables with
        positions := rewrite Position.positionId stored.positionId (Position.merge stored current)
          tables.positions }

def Tables.writeAll (tables : Tables) (changes : List Change) : Tables :=
  changes.foldl Tables.write tables

structure Database extends Tables where
  consistent : toTables.Consistent

namespace Database

variable (database : Database)

def commit (changes : List Change) : Except String Database :=
  if consistent : (database.toTables.writeAll changes).Consistent then
    .ok ⟨database.toTables.writeAll changes, consistent⟩
  else .error "duplicate key value violates unique constraint"

def findJob (id : Id) : Option ExecutionJob := database.jobs.find? (·.id = id)

def findJobByKey (key : String) : Option ExecutionJob :=
  database.jobs.find? (·.idempotencyKey = key)

def findOrder (id : Id) : Option Order := database.orders.find? (·.id = id)

def orderOfJob (jobId : Id) : Option Order := database.orders.find? (·.executionJobId = jobId)

def findPosition (positionId : String × String) : Option Position :=
  database.positions.find? (·.positionId = positionId)

def openNotional (userId : String) : ℚ :=
  ((database.positions.filter fun position =>
    position.userId = userId ∧ position.status = "open").map fun position =>
      |position.size * position.currentPrice|).sum

end Database

end Signal
