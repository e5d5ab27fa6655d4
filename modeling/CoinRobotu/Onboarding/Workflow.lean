import Mathlib.Data.List.Sort
import CoinRobotu.Keyed.Table
import CoinRobotu.Numeric.Rounding
import CoinRobotu.Runtime.Text

/-!
# The onboarding workflow

A user who is taken on goes through the steps `ops`, `risk` and `final`. A case is started,
assigned, moved from step to step and escalated, by hand or because its time has run out. There is
at most one case for a user. A refused call is rolled back.

The trace has the logs of the steps in the order in which they are written, and the starts, which
the database does not keep. No function reads it.
-/

namespace Onboarding

open Numeric
open Runtime (strip lower)

inductive WorkflowStatus where
  | active
  | escalated
  | completed
  deriving DecidableEq, Repr

/-- The `current_step` of a case. -/
inductive WorkflowStep where
  | ops
  | risk
  | final
  | completed
  deriving DecidableEq, Repr

/-- `_next_step`. -/
def WorkflowStep.next : WorkflowStep → Option WorkflowStep
  | .ops => some .risk
  | .risk => some .final
  | .final => none
  | .completed => none

/-- A step name that is one of `WORKFLOW_STEPS`. -/
def readStep (stepName : String) : Option WorkflowStep :=
  let normalized := lower (strip stepName)
  if normalized = "ops" then some .ops
  else if normalized = "risk" then some .risk
  else if normalized = "final" then some .final
  else none

structure WorkflowCase where
  id : String
  userId : String
  workflowStatus : WorkflowStatus
  currentStep : WorkflowStep
  assignedAdminId : Option String
  priorityScore : ℚ
  slaDueAt : Option ℤ
  escalatedAt : Option ℤ
  escalationCount : ℕ
  supervisorQueue : Bool
  deriving DecidableEq

inductive StepStatus where
  | completed
  | escalated
  deriving DecidableEq, Repr

structure StepLog where
  workflowCaseId : String
  userId : String
  stepName : WorkflowStep
  stepStatus : StepStatus
  actorUserId : String
  note : Option String
  deriving DecidableEq

/-- What the trace keeps. -/
inductive Event where
  | started (userId : String)
  | logged (log : StepLog)
  deriving DecidableEq

/-- The cases, at most one for a user, and the trace. -/
structure Workflow where
  cases : Keyed.Table String WorkflowCase WorkflowCase.userId
  trace : List Event

def Workflow.empty : Workflow := ⟨⟨[], List.nodup_nil⟩, []⟩

structure HTTPException where
  statusCode : ℕ
  detail : String
  deriving DecidableEq

/-- What `build_onboarding_context` says of a user. -/
structure OnboardingContext where
  riskScore : ℚ
  amlFlag : String
  approvalDisabled : Bool
  deriving DecidableEq

/-- `_priority_score`. -/
def priorityScore (context : OnboardingContext) : ℚ :=
  let aml := if context.amlFlag = "" then "clear" else context.amlFlag
  roundTo 2 (context.riskScore + (if aml = "blacklist" ∨ aml = "sanction_hit" then 40 else 0) +
    if context.approvalDisabled then 10 else 0)

/-- `value or fallback`, of an optional identifier. -/
def orElse (value fallback : Option String) : Option String :=
  if value.getD "" = "" then fallback else value

def slaTime (configured : ℤ) : ℤ := max 5 configured * 60000000

section Operations

variable (configured : ℤ) (workflow : Workflow)

/-- A case as a start leaves it. -/
def WorkflowCase.restart (row : WorkflowCase) (assignedAdminId : Option String) (priority : ℚ)
    (now : ℤ) : WorkflowCase :=
  { row with
    workflowStatus := .active
    currentStep := .ops
    assignedAdminId := assignedAdminId
    priorityScore := priority
    slaDueAt := some (now + slaTime configured)
    supervisorQueue := false }

variable {row : WorkflowCase}

@[simp] theorem WorkflowCase.restart_userId {assigned : Option String} {priority : ℚ} {now : ℤ} :
    (row.restart configured assigned priority now).userId = row.userId := rfl

def WorkflowCase.created (id userId : String) : WorkflowCase :=
  ⟨id, userId, .active, .ops, none, 0, none, none, 0, false⟩

/-- `start_workflow_case`. -/
def startWorkflowCase (userId : String) (assignedAdminId : Option String) (actor : String)
    (context : Option OnboardingContext) (id : String) (now : ℤ) :
    Except HTTPException Workflow :=
  match context with
  | none => .error ⟨404, "user_not_found"⟩
  | some context =>
    let assigned := orElse assignedAdminId (some actor)
    if assigned.getD "" = "" then .error ⟨400, "assigned_to_required"⟩
    else
      let row := (WorkflowCase.created id userId).restart configured assigned
        (priorityScore context) now
      .ok {
      cases :=
        if fresh : row.userId ∉ workflow.cases.rows.map WorkflowCase.userId then
          workflow.cases.insert row fresh
        else
          workflow.cases.modify userId
            (·.restart configured assigned (priorityScore context) now) fun _ =>
              WorkflowCase.restart_userId configured
      trace := workflow.trace ++ [.started userId] }

def WorkflowCase.assign (row : WorkflowCase) (assignedAdminId : String) : WorkflowCase :=
  { row with assignedAdminId := some assignedAdminId, supervisorQueue := false }

@[simp] theorem WorkflowCase.assign_userId {assignedAdminId : String} :
    (row.assign assignedAdminId).userId = row.userId := rfl

/-- `assign_workflow_owner`, which starts a case where there is none. -/
def assignWorkflowOwner (userId assignedAdminId actor : String)
    (context : Option OnboardingContext) (id : String) (now : ℤ) :
    Except HTTPException Workflow :=
  if strip assignedAdminId = "" then .error ⟨400, "assigned_to_required"⟩
  else do
    let started ← match workflow.cases.find userId with
      | some _ => .ok workflow
      | none =>
        startWorkflowCase configured workflow userId (some assignedAdminId) actor context id now
    return { started with
      cases := started.cases.modify userId (·.assign assignedAdminId) fun _ =>
        WorkflowCase.assign_userId }

/-- A case once a step has been completed. -/
def WorkflowCase.advance (row : WorkflowCase) (step : WorkflowStep) (now : ℤ) : WorkflowCase :=
  match step.next with
  | none =>
    { row with
      workflowStatus := .completed
      currentStep := .completed
      slaDueAt := none
      supervisorQueue := false }
  | some nextStep =>
    { row with
      workflowStatus := .active
      currentStep := nextStep
      slaDueAt := some (now + slaTime configured)
      supervisorQueue := false }

theorem WorkflowCase.advance_userId {step : WorkflowStep} {now : ℤ} :
    (row.advance configured step now).userId = row.userId := by
  cases step <;> rfl

def WorkflowCase.log (row : WorkflowCase) (status : StepStatus) (actor : String)
    (note : Option String) : StepLog :=
  ⟨row.id, row.userId, row.currentStep, status, actor, note⟩

/-- `complete_workflow_step`. -/
def completeWorkflowStep (userId stepName actor : String) (note : Option String) (now : ℤ) :
    Except HTTPException Workflow :=
  match workflow.cases.find userId with
  | none => .error ⟨404, "workflow_case_not_found"⟩
  | some row =>
    match readStep stepName with
    | none => .error ⟨400, "invalid_workflow_step"⟩
    | some step =>
      if step ≠ row.currentStep then .error ⟨409, "workflow_step_sequence_violation"⟩
      else .ok {
        cases := workflow.cases.modify userId (·.advance configured step now) fun _ =>
          WorkflowCase.advance_userId configured
        trace := workflow.trace ++ [.logged (row.log .completed actor note)] }

/-- A case as an escalation leaves it. -/
def WorkflowCase.escalate (row : WorkflowCase) (supervisorAdminId : Option String) (now : ℤ) :
    WorkflowCase :=
  { row with
    workflowStatus := .escalated
    escalatedAt := some now
    escalationCount := row.escalationCount + 1
    supervisorQueue := true
    assignedAdminId := orElse supervisorAdminId row.assignedAdminId
    slaDueAt := some (now + slaTime configured) }

@[simp] theorem WorkflowCase.escalate_userId {supervisorAdminId : Option String} {now : ℤ} :
    (row.escalate configured supervisorAdminId now).userId = row.userId := rfl

def WorkflowCase.timedOut (row : WorkflowCase) (now : ℤ) : Bool :=
  row.workflowStatus = .active ∧ ∃ due ∈ row.slaDueAt, due ≤ now

def escalateTimedOutCases (actor : String) (supervisorAdminId : Option String) (now : ℤ) :
    Workflow where
  cases := workflow.cases.mapRows
    (fun row => if row.timedOut now then row.escalate configured supervisorAdminId now else row)
    fun row => by split <;> rfl
  trace := workflow.trace ++ (workflow.cases.rows.filter (·.timedOut now)).map fun row =>
    .logged (row.log .escalated actor (some "sla_timeout_escalation"))

/-- `escalate_workflow_case`. -/
def escalateWorkflowCase (userId actor : String) (supervisorAdminId note : Option String)
    (force : Bool) (now : ℤ) : Except HTTPException Workflow :=
  match workflow.cases.find userId with
  | none => .error ⟨404, "workflow_case_not_found"⟩
  | some row =>
    if row.workflowStatus = .completed then .error ⟨409, "workflow_case_completed"⟩
    else if ¬(∃ due ∈ row.slaDueAt, due ≤ now) ∧ ¬force then
      .error ⟨409, "workflow_case_not_timed_out"⟩
    else if (orElse supervisorAdminId row.assignedAdminId).getD "" = "" then
      .error ⟨400, "assigned_to_required"⟩
    else .ok {
      cases := workflow.cases.modify userId (·.escalate configured supervisorAdminId now) fun _ =>
        WorkflowCase.escalate_userId configured
      trace := workflow.trace ++ [.logged (row.log .escalated actor
        (some (String.ofList
          (((orElse note (some "manual_escalation")).getD "").toList.take 500))))] }

end Operations

inductive PriorityLevel where
  | high
  | normal
  | low
  deriving DecidableEq, Repr

/-- `_priority_level`. -/
def priorityLevel (riskScore : ℚ) : PriorityLevel :=
  if 70 ≤ riskScore then .high else if 35 ≤ riskScore then .normal else .low

/-- An item of the priority queue: the case, and what its risk score says. -/
structure QueueItem where
  workflowCase : WorkflowCase
  riskScore : ℚ
  priorityLevel : PriorityLevel
  deriving DecidableEq

/-- The order of the queue: the highest risk first, and the earliest SLA time; none comes last. -/
def before (riskMap : String → Option ℚ) (row other : WorkflowCase) : Bool :=
  let risk := (riskMap row.userId).getD 0
  let otherRisk := (riskMap other.userId).getD 0
  decide (otherRisk < risk) || decide (risk = otherRisk) &&
    match row.slaDueAt, other.slaDueAt with
    | some due, some otherDue => due ≤ otherDue
    | _, none => true
    | none, some _ => false

/-- `list_priority_queue`, for the risk scores of the profiles. -/
def listPriorityQueue (riskMap : String → Option ℚ) (workflow : Workflow)
    (assignedAdminId : Option String) : List QueueItem :=
  let rows := workflow.cases.rows.filter fun row =>
    row.workflowStatus = .active ∧
      (assignedAdminId.getD "" = "" ∨ row.assignedAdminId = assignedAdminId)
  (rows.insertionSort (before riskMap · ·)).map fun row =>
    let riskScore := (riskMap row.userId).getD 0
    ⟨row, riskScore, priorityLevel riskScore⟩

/-- One call, with the clock and what the call meets outside of the workflow. -/
inductive Call where
  | start (userId : String) (assignedAdminId : Option String) (actor : String)
      (context : Option OnboardingContext) (id : String) (now : ℤ)
  | assign (userId assignedAdminId actor : String) (context : Option OnboardingContext)
      (id : String) (now : ℤ)
  | complete (userId stepName actor : String) (note : Option String) (now : ℤ)
  | escalateTimedOut (actor : String) (supervisorAdminId : Option String) (now : ℤ)
  | escalate (userId actor : String) (supervisorAdminId note : Option String) (force : Bool)
      (now : ℤ)

section Runs

variable (configured : ℤ) (workflow : Workflow)

/-- The workflow that a call leaves, or its refusal. -/
def perform : Call → Except HTTPException Workflow
  | .start userId assignedAdminId actor context id now =>
    startWorkflowCase configured workflow userId assignedAdminId actor context id now
  | .assign userId assignedAdminId actor context id now =>
    assignWorkflowOwner configured workflow userId assignedAdminId actor context id now
  | .complete userId stepName actor note now =>
    completeWorkflowStep configured workflow userId stepName actor note now
  | .escalateTimedOut actor supervisorAdminId now =>
    .ok (escalateTimedOutCases configured workflow actor supervisorAdminId now)
  | .escalate userId actor supervisorAdminId note force now =>
    escalateWorkflowCase configured workflow userId actor supervisorAdminId note force now

def next (call : Call) : Workflow :=
  match perform configured workflow call with
  | .ok after => after
  | .error _ => workflow

end Runs

end Onboarding
