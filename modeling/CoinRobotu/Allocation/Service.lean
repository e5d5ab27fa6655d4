import Mathlib.Data.List.Sort
import CoinRobotu.Allocation.Rows

/-!
# The operations on the allocation table

A session sees the committed rows with its own changes that have not been committed. An operation
reads and changes what the session sees, and commits it, or rolls back to the committed rows when
it refuses inside of its `try` block; a refusal before that block changes nothing back. Rows are
kept in the order of their identifiers, in which the queries return them.
-/

namespace Allocation

open Numeric
open Runtime (strip lower upper)
open Stateful

structure Session where
  committed : List StrategyAllocation
  rows : List StrategyAllocation
  deriving DecidableEq, Repr

abbrev Work := Refusing Session ValueError

def commit : Work PUnit := modify fun session => { session with committed := session.rows }

/-- `db.rollback()`. -/
def Session.rollback (session : Session) : Session := { session with rows := session.committed }

/-- A `try` block that rolls back and raises again. -/
def tryBlock {Result : Type} (work : Work Result) : Work Result := orUndo Session.rollback work

def writeRows (change : List StrategyAllocation → List StrategyAllocation) : Work PUnit :=
  modify fun session => { session with rows := change session.rows }

def rowOf (rows : List StrategyAllocation) (strategyId : String) : Option StrategyAllocation :=
  rows.find? fun row => row.strategyId = strategyId

/-- `db.add` and `db.flush` of a row, at its place among the others. -/
def addRow (row : StrategyAllocation) : Work PUnit :=
  writeRows (List.orderedInsert (fun one other => one.strategyId ≤ other.strategyId) row)

def replaced (row : StrategyAllocation) (rows : List StrategyAllocation) :
    List StrategyAllocation :=
  rows.map fun other => if other.strategyId = row.strategyId then row else other

def onRow {Result : Type} (row : StrategyAllocation)
    (work : Refusing StrategyAllocation ValueError Result) : Work Result :=
  within (fun _ => row) (fun row session => { session with rows := replaced row session.rows }) work

def existingRow (key : String) : Work StrategyAllocation := do
  match rowOf (← get).rows key with
  | none => throw (.missing key)
  | some row => return row

def getExistingStrategyAllocation (strategyId : String) : Work StrategyAllocation := do
  let key ← validateNonEmptyStrategyId (some strategyId)
  existingRow key

/-- The row of `get_or_create_strategy_allocation`. -/
def autoCreated (strategyId : String) : StrategyAllocation where
  strategyId := strategyId
  capitalWeight := defaultStartupCapitalWeight
  maxCapital := 10000
  currentCapital := 0
  confidenceScore := 0
  performanceScore := 0
  state := "ACTIVE"
  expectedReturn := 2
  realizedReturn := 0
  signalDecay := 0
  executionQualityScore := 75
  revisionId := 1
  updatedBy := "system"
  changeReason := "system_auto_create"

def getOrCreateStrategyAllocation (strategyId : String) : Work StrategyAllocation := do
  let key ← validateNonEmptyStrategyId (some strategyId)
  match rowOf (← get).rows key with
  | some row => return row
  | none => do
    addRow (autoCreated key)
    return autoCreated key

/-- The row of `list_strategy_allocations` for a canonical strategy that has none. -/
def autoSeeded (strategyId : String) : StrategyAllocation where
  strategyId := strategyId
  capitalWeight := defaultStartupCapitalWeight
  maxCapital := 100000
  currentCapital := 0
  confidenceScore := 0
  performanceScore := 0
  state := "DISABLED"
  expectedReturn := 2
  realizedReturn := 0
  signalDecay := 0
  executionQualityScore := 75
  revisionId := 1
  updatedBy := "system"
  changeReason := "canonical_auto_seed"

def seed (strategyId : String) : Work PUnit := do
  match rowOf (← get).rows strategyId with
  | none => addRow (autoSeeded strategyId)
  | some row => writeRows (replaced { row with
      state := normalizedState (some row.state) "DISABLED" })

/-- Recalculate the metrics of the first canonical rows that were there before the seeding: the new
ones are not in the database yet when the rows are queried. -/
def recalculateListed (activity : String → Activity) (before : List StrategyAllocation)
    (limit : ℕ) : Work PUnit :=
  let listed := ((before.filter (·.isCanonical)).take limit).map (·.strategyId)
  writeRows fun rows => rows.map fun row =>
    if row.strategyId ∈ listed then recalculated row (activity row.strategyId) else row

def listStrategyAllocations (activity : String → Activity) (limit : ℕ) :
    Work (List StrategyAllocation) := do
  let before := (← get).rows
  canonicalStrategies.forM seed
  recalculateListed activity before limit
  commit
  return ((← get).rows.filter (·.isCanonical)).take limit

section Creation

/-- What `create_strategy_allocation` reads of its payload. -/
structure CreatePayload where
  strategyId : Option String
  capitalWeight : Field
  maxCapital : Field
  currentCapital : Field
  confidenceScore : Field
  performanceScore : Field
  state : Option String
  expectedReturn : Field
  realizedReturn : Field
  signalDecay : Field
  executionQualityScore : Field
  deriving DecidableEq, Repr

/-- `payload.get(key, 0.0)`. -/
def Field.orZero : Field → Field
  | .absent => .number 0
  | field => field

variable (actorId changeReason : Option String)

/-- The checks of `create_strategy_allocation` and the row that it adds. -/
def newAllocation (payload : CreatePayload) : Work StrategyAllocation := do
  let strategyId ← validateNonEmptyStrategyId payload.strategyId
  refuseIf (rowOf (← get).rows strategyId ≠ none) (.existing strategyId)
  let capitalWeight ← assertNonNegativeNumeric "capital_weight" payload.capitalWeight.orZero
  refuseIf (1 < capitalWeight) (.weightAboveOne "")
  let maxCapital ← assertNonNegativeNumeric "max_capital" payload.maxCapital.orZero
  let currentCapital ← assertNonNegativeNumeric "current_capital" payload.currentCapital.orZero
  refuseIf (maxCapital < currentCapital) (.currentAboveMax "")
  return {
    strategyId
    capitalWeight
    maxCapital
    currentCapital
    confidenceScore := max (payload.confidenceScore.safeFloat 0) 0
    performanceScore := max (payload.performanceScore.safeFloat 0) 0
    state := normalizedState payload.state "ACTIVE"
    expectedReturn := max (payload.expectedReturn.safeFloat 0) 0
    realizedReturn := payload.realizedReturn.safeFloat 0
    signalDecay := max (payload.signalDecay.safeFloat 0) 0
    executionQualityScore := max (payload.executionQualityScore.safeFloat 0) 0
    revisionId := 1
    updatedBy := orDefault actorId "system"
    changeReason := orDefault changeReason "manual_create" }

def ensureTable : Work PUnit := do
  ensureCapitalLimit (← get).rows
  ensureWeightIsOne (← get).rows

def reduceAndCheck : Work PUnit := do
  writeRows fun rows => rows.map reducedByDrawdown
  ensureTable

def createStrategyAllocation (payload : CreatePayload) : Work PUnit := do
  let row ← newAllocation actorId changeReason payload
  tryBlock do
    addRow row
    reduceAndCheck
    commit

end Creation

section Updates

/-- What an update of one row reads of its payload. `state` is the value behind the key, if the
key is there. -/
structure RowPayload where
  capitalWeight : Field
  maxCapital : Field
  currentCapital : Field
  state : Option (Option String)
  deriving DecidableEq, Repr

def assignNumber (fieldName : String) (field : Field)
    (write : ℚ → StrategyAllocation → StrategyAllocation) :
    Refusing StrategyAllocation ValueError PUnit :=
  if field = .absent then pure ⟨⟩
  else do
    let value ← assertNonNegativeNumeric fieldName field
    modify (write value)

/-- The assignments of an update, each with its check, and the check of the two capitals. -/
def assignFields (payload : RowPayload) (label : String) :
    Refusing StrategyAllocation ValueError PUnit := do
  let previousState := normalizedState (some (← get).state) "ACTIVE"
  assignNumber "capital_weight" payload.capitalWeight fun value row =>
    { row with capitalWeight := value }
  refuseIf (payload.capitalWeight ≠ .absent ∧ 1 < (← get).capitalWeight) (.weightAboveOne label)
  assignNumber "max_capital" payload.maxCapital fun value row => { row with maxCapital := value }
  assignNumber "current_capital" payload.currentCapital fun value row =>
    { row with currentCapital := value }
  modify fun row => { row with
    state := payload.state.elim row.state fun value => normalizedState value previousState }
  refuseIf ((← get).maxCapital < (← get).currentCapital) (.currentAboveMax label)

variable (actorId changeReason : Option String)

def stampRevisions (strategyIds : List String) (reason : String) : Work PUnit :=
  writeRows fun rows => rows.map fun row =>
    if row.strategyId ∈ strategyIds then
      applyRevisionMetadata row actorId (some (orDefault changeReason reason))
    else row

def assignedRow (strategyId : String) (payload : RowPayload) : Work StrategyAllocation := do
  let row ← getExistingStrategyAllocation strategyId
  onRow row (assignFields payload "")
  return row

def updateStrategyAllocation (strategyId : String) (payload : RowPayload) : Work PUnit := do
  let row ← assignedRow strategyId payload
  tryBlock do
    reduceAndCheck
    stampRevisions actorId changeReason [row.strategyId] "update_allocation"
    commit

structure Confirmation where
  confirmPrimary : Option String
  confirmSecondary : Option String
  deriving DecidableEq, Repr

/-- `_ensure_double_confirm`. -/
def ensureDoubleConfirm (payload : Confirmation) : Work PUnit :=
  refuseIf (upper (strip (payload.confirmPrimary.getD "")) ≠ "CONFIRM" ∨
    upper (strip (payload.confirmSecondary.getD "")) ≠ "STATE CHANGE") .doubleConfirm

def toggledRow (strategyId : String) (payload : Confirmation) : Work StrategyAllocation := do
  let row ← getExistingStrategyAllocation strategyId
  ensureDoubleConfirm payload
  onRow row (modify fun row => { row with
    state := if normalizedState (some row.state) "ACTIVE" = "DISABLED" then "ACTIVE"
      else "DISABLED" })
  return row

def toggleStrategyThrottle (strategyId : String) (payload : Confirmation) : Work PUnit := do
  let row ← toggledRow strategyId payload
  tryBlock do
    reduceAndCheck
    stampRevisions actorId changeReason [row.strategyId] "toggle_throttle"
    commit

structure BulkItem where
  strategyId : Option String
  payload : RowPayload
  deriving DecidableEq, Repr

/-- In a bulk update a `None` is like a missing key, and so is an empty state. -/
def BulkItem.present (item : BulkItem) : RowPayload where
  capitalWeight :=
    if item.payload.capitalWeight = .null then .absent else item.payload.capitalWeight
  maxCapital := if item.payload.maxCapital = .null then .absent else item.payload.maxCapital
  currentCapital :=
    if item.payload.currentCapital = .null then .absent else item.payload.currentCapital
  state := item.payload.state.filter fun value => value.getD "" ≠ ""

/-- The loop over the items of a bulk update: the identifiers of the rows that are updated. -/
def updateItems : List BulkItem → Work (List String)
  | [] => pure []
  | item :: items => do
    let strategyId ← validateNonEmptyStrategyId item.strategyId
    let row ← existingRow strategyId
    onRow row (assignFields item.present (" (" ++ strategyId ++ ")"))
    let rest ← updateItems items
    return strategyId :: rest

/-- The reply of a bulk update. -/
structure BulkReply where
  updatedRows : List StrategyAllocation
  summary : Summary
  enforcedReduceRows : List EnforcedReduce
  deriving DecidableEq, Repr

/-- The rows of a bulk update with their new values, normalized if that is asked for: the
identifiers of the updated rows. -/
def updatedItems (updates : List BulkItem) (autoNormalized : Bool) : Work (List String) := do
  refuseIf (updates = []) .noUpdates
  let updatedIds ← updateItems updates
  writeRows fun rows => if autoNormalized then applyNormalize rows else rows
  return updatedIds

def bulkUpdateStrategyAllocations (updates : List BulkItem) (autoNormalized : Bool) :
    Work BulkReply := do
  let updatedIds ← updatedItems updates autoNormalized
  tryBlock do
    let before := (← get).rows
    reduceAndCheck
    stampRevisions actorId changeReason
      (if autoNormalized then before.map (·.strategyId) else updatedIds) "bulk_update_allocation"
    commit
    let rows := (← get).rows
    return {
      updatedRows := rows.filter (·.strategyId ∈ updatedIds)
      summary := collectSummary rows
      enforcedReduceRows := enforcedReductions before }

end Updates

section Deletion

variable (actorId changeReason : Option String)

def normalizeAll (reason : String) : Work PUnit := do
  writeRows applyNormalize
  writeRows fun rows => rows.map fun row =>
    applyRevisionMetadata row actorId (some (orDefault changeReason reason))

def deleteStrategyAllocation (strategyId : String) (autoNormalized : Bool) : Work Summary := do
  let row ← getExistingStrategyAllocation strategyId
  tryBlock do
    writeRows fun rows => rows.filter (·.strategyId ≠ row.strategyId)
    let remaining := (← get).rows
    onlyIf (autoNormalized ∧ remaining ≠ [])
      (normalizeAll actorId changeReason "delete_auto_normalize")
    onlyIf (remaining ≠ []) ensureTable
    commit
    return collectSummary (← get).rows

def ensureRows : Work PUnit := do
  refuseIf ((← get).rows = []) .nothingToNormalize

def normalizeStrategyAllocations : Work Summary := do
  ensureRows
  tryBlock do
    normalizeAll actorId changeReason "normalize_weights"
    ensureTable
    commit
    return collectSummary (← get).rows

end Deletion

/-- One call on the session. The last is any other code that commits the session, such as that of
an audit log. -/
inductive Call where
  | create (payload : CreatePayload) (actorId changeReason : Option String)
  | update (strategyId : String) (payload : RowPayload) (actorId changeReason : Option String)
  | toggle (strategyId : String) (payload : Confirmation) (actorId changeReason : Option String)
  | bulk (updates : List BulkItem) (autoNormalized : Bool) (actorId changeReason : Option String)
  | delete (strategyId : String) (autoNormalized : Bool) (actorId changeReason : Option String)
  | normalize (actorId changeReason : Option String)
  | getOrCreate (strategyId : String)
  | list (activity : String → Activity) (limit : ℕ)
  | commit

/-- What a call returns beyond the rows of the session. -/
inductive Reply where
  | done
  | bulk (reply : BulkReply)
  | summary (summary : Summary)
  | rows (rows : List StrategyAllocation)
  deriving DecidableEq, Repr

def perform : Call → Work Reply
  | .create payload actorId changeReason =>
    (fun _ => .done) <$> createStrategyAllocation actorId changeReason payload
  | .update strategyId payload actorId changeReason =>
    (fun _ => .done) <$> updateStrategyAllocation actorId changeReason strategyId payload
  | .toggle strategyId payload actorId changeReason =>
    (fun _ => .done) <$> toggleStrategyThrottle actorId changeReason strategyId payload
  | .bulk updates autoNormalized actorId changeReason =>
    .bulk <$> bulkUpdateStrategyAllocations actorId changeReason updates autoNormalized
  | .delete strategyId autoNormalized actorId changeReason =>
    .summary <$> deleteStrategyAllocation actorId changeReason strategyId autoNormalized
  | .normalize actorId changeReason =>
    .summary <$> normalizeStrategyAllocations actorId changeReason
  | .getOrCreate strategyId =>
    (fun row => .rows [row]) <$> getOrCreateStrategyAllocation strategyId
  | .list activity limit => .rows <$> listStrategyAllocations activity limit
  | .commit => (fun _ => .done) <$> commit

def outcome (session : Session) (call : Call) : Except ValueError Reply × Session :=
  match perform call session with
  | .ok reply after => (.ok reply, after)
  | .error refusal after => (.error refusal, after)

def exampleRow (strategyId : String) (capitalWeight : ℚ) : StrategyAllocation :=
  { autoSeeded strategyId with capitalWeight := capitalWeight }

def exampleSession (rows : List StrategyAllocation) : Session := ⟨rows, rows⟩

end Allocation
