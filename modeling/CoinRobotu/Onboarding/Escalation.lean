import CoinRobotu.Automata.History
import CoinRobotu.Interleaving.Calls
import CoinRobotu.Onboarding.Workflow

/-!
# Onboarding cases over whole runs

The steps that are logged as completed since a case was last started are those before its current
step, so a case is completed exactly when all three have been logged in their order.
-/

namespace Onboarding

open Interleaving

section Histories

def Event.IsStart (userId : String) : Event → Prop
  | .started other => other = userId
  | .logged _ => False

def Event.IsLog (userId : String) (status : StepStatus) : Event → Prop
  | .started _ => False
  | .logged log => log.userId = userId ∧ log.stepStatus = status

instance {userId : String} : DecidablePred (Event.IsStart userId) := fun event => by
  cases event <;> unfold Event.IsStart <;> infer_instance

instance {userId : String} {status : StepStatus} : DecidablePred (Event.IsLog userId status) :=
  fun event => by cases event <;> unfold Event.IsLog <;> infer_instance

def Event.userId : Event → String
  | .started userId => userId
  | .logged log => log.userId

def Event.record (userId : String) (steps : List WorkflowStep) : Event → List WorkflowStep
  | .started other => if other = userId then [] else steps
  | .logged log =>
    if log.userId = userId ∧ log.stepStatus = .completed then steps ++ [log.stepName] else steps

/-- The steps of a user that have been logged as completed since the last start. -/
def stepsSince (userId : String) (trace : List Event) : List WorkflowStep :=
  trace.foldl (Event.record userId) []

/-- The case of a user has been escalated since it was last started or a step was completed. -/
def EscalatedSince (userId : String) (trace : List Event) : Prop :=
  Automata.Since (fun _ event => event.IsLog userId .escalated)
    (fun event => event.IsStart userId ∨ event.IsLog userId .completed) trace

variable {userId : String} {trace events : List Event} {event : Event}

theorem stepsSince_concat :
    stepsSince userId (trace ++ [event]) = event.record userId (stepsSince userId trace) :=
  List.foldl_concat _ _ _ _

theorem escalatedSince_concat : EscalatedSince userId (trace ++ [event]) ↔
    event.IsLog userId .escalated ∨ (EscalatedSince userId trace ∧
      ¬(event.IsStart userId ∨ event.IsLog userId .completed)) := Automata.since_concat

variable (others : ∀ event ∈ events, event.userId ≠ userId)

include others

theorem stepsSince_others :
    stepsSince userId (trace ++ events) = stepsSince userId trace := by
  induction events using List.reverseRecOn with
  | nil => rw [List.append_nil]
  | append_singleton events event ih =>
    have other := others event (List.mem_append_right _ (List.mem_singleton_self _))
    rw [← List.append_assoc, stepsSince_concat, ih
      fun event inside => others event (List.mem_append_left _ inside)]
    cases event with
    | started started => exact if_neg other
    | logged log => exact if_neg fun own => other own.1

theorem escalatedSince_others :
    EscalatedSince userId (trace ++ events) ↔ EscalatedSince userId trace := by
  induction events using List.reverseRecOn with
  | nil => rw [List.append_nil]
  | append_singleton events event ih =>
    have other := others event (List.mem_append_right _ (List.mem_singleton_self _))
    rw [← List.append_assoc, escalatedSince_concat, ih
      fun event inside => others event (List.mem_append_left _ inside)]
    cases event with
    | started started => simp [Event.IsLog, Event.IsStart, show ¬started = userId from other]
    | logged log => simp [Event.IsLog, Event.IsStart, show ¬log.userId = userId from other]

end Histories

section Cases

def WorkflowStep.done : WorkflowStep → List WorkflowStep
  | .ops => []
  | .risk => [.ops]
  | .final => [.ops, .risk]
  | .completed => [.ops, .risk, .final]

/-- A case and what the trace says of it. -/
structure Orderly (trace : List Event) (row : WorkflowCase) : Prop where
  steps : stepsSince row.userId trace = row.currentStep.done
  completed : row.workflowStatus = .completed ↔ row.currentStep = .completed
  escalated : row.workflowStatus = .escalated ↔ EscalatedSince row.userId trace
  due : row.workflowStatus ≠ .completed → row.slaDueAt.isSome

variable {configured : ℤ} {trace events : List Event} {row : WorkflowCase}

theorem Orderly.others (orderly : Orderly trace row)
    (others : ∀ event ∈ events, event.userId ≠ row.userId) : Orderly (trace ++ events) row where
  steps := (stepsSince_others others).trans orderly.steps
  completed := orderly.completed
  escalated := orderly.escalated.trans (escalatedSince_others others).symm
  due := orderly.due

theorem orderly_restart {userId : String} (own : row.userId = userId) {assigned : Option String}
    {priority : ℚ} {now : ℤ} :
    Orderly (trace ++ [.started userId]) (row.restart configured assigned priority now) where
  steps := by
    rw [stepsSince_concat]
    exact if_pos own.symm
  completed := by simp [WorkflowCase.restart]
  escalated := by
    rw [escalatedSince_concat]
    simp [WorkflowCase.restart, Event.IsLog, Event.IsStart, own]
  due _ := rfl

variable (orderly : Orderly trace row)

include orderly

theorem Orderly.assign {assignedAdminId : String} :
    Orderly trace (row.assign assignedAdminId) :=
  ⟨orderly.steps, orderly.completed, orderly.escalated, orderly.due⟩

theorem Orderly.advance {step : WorkflowStep} {actor : String}
    {note : Option String} {now : ℤ} (unfinished : step ≠ .completed)
    (current : row.currentStep = step) :
    Orderly (trace ++ [.logged (row.log .completed actor note)])
      (row.advance configured step now) := by
  have sameUser := @WorkflowCase.advance_userId configured row step now
  have recorded : stepsSince row.userId (trace ++ [.logged (row.log .completed actor note)]) =
      step.done ++ [step] := by
    rw [stepsSince_concat, orderly.steps, current]
    show (if _ then _ else _) = _
    rw [if_pos ⟨rfl, rfl⟩]
    exact congrArg (step.done ++ [·]) current
  have calm : ¬EscalatedSince row.userId
      (trace ++ [.logged (row.log .completed actor note)]) := by
    rw [escalatedSince_concat]
    simp [Event.IsLog, WorkflowCase.log]
  constructor
  · rw [sameUser, recorded]
    cases step with
    | completed => exact absurd rfl unfinished
    | _ => rfl
  · cases step <;> simp [WorkflowCase.advance, WorkflowStep.next]
  · rw [sameUser]
    refine iff_of_false ?_ calm
    cases step <;> simp [WorkflowCase.advance, WorkflowStep.next]
  · cases step <;> simp [WorkflowCase.advance, WorkflowStep.next]

theorem Orderly.escalate {actor : String} {supervisorAdminId note : Option String} {now : ℤ}
    (unfinished : row.workflowStatus ≠ .completed) :
    Orderly (trace ++ [.logged (row.log .escalated actor note)])
      (row.escalate configured supervisorAdminId now) where
  steps := by
    rw [stepsSince_concat]
    exact (if_neg (by simp [WorkflowCase.log])).trans orderly.steps
  completed := by
    have notLast : row.currentStep ≠ .completed := fun last =>
      unfinished (orderly.completed.mpr last)
    exact iff_of_false nofun notLast
  escalated := by
    rw [escalatedSince_concat]
    exact iff_of_true rfl (Or.inl ⟨rfl, rfl⟩)
  due _ := rfl

end Cases

section Runs

variable {configured : ℤ} {workflow after : Workflow} {userId : String}

def AllOrderly (workflow : Workflow) : Prop :=
  ∀ userId row, workflow.cases.find userId = some row → Orderly workflow.trace row

theorem AllOrderly.modify (orderly : AllOrderly workflow) {event : Event}
    {change : WorkflowCase → WorkflowCase} {keeps : ∀ row, (change row).userId = row.userId}
    (own : event.userId = userId)
    (changed : ∀ row, workflow.cases.find userId = some row →
      Orderly (workflow.trace ++ [event]) (change row)) :
    AllOrderly ⟨workflow.cases.modify userId change keeps, workflow.trace ++ [event]⟩ := by
  intro other row found
  rw [Keyed.Table.find_modify] at found
  by_cases same : other = userId
  · rw [if_pos same] at found
    obtain ⟨old, isOld, rfl⟩ := Option.map_eq_some_iff.mp found
    exact changed old (same ▸ isOld)
  · rw [if_neg same] at found
    apply (orderly other row found).others
    intro event' isEvent
    rw [List.mem_singleton.mp isEvent, own, Keyed.Table.key_of_find found]
    exact Ne.symm same

variable {context : Option OnboardingContext}

theorem AllOrderly.start (orderly : AllOrderly workflow) {assignedAdminId : Option String}
    {actor id : String} {now : ℤ}
    (started : startWorkflowCase configured workflow userId assignedAdminId actor context id now =
      .ok after) : AllOrderly after := by
  unfold startWorkflowCase at started
  cases context with
  | none => cases started
  | some context =>
    dsimp only at started
    split at started
    · cases started
    · cases started
      split
      · rename_i fresh
        intro other row found
        dsimp only at found
        rw [Keyed.Table.find_insert, WorkflowCase.restart_userId] at found
        change (if userId = other then _ else _) = _ at found
        by_cases same : userId = other
        · rw [if_pos same] at found
          cases found
          apply orderly_restart
          rfl
        · rw [if_neg same] at found
          apply (orderly other row found).others
          intro event isEvent
          rw [List.mem_singleton.mp isEvent, Keyed.Table.key_of_find found]
          exact same
      · have own : (Event.started userId).userId = userId := rfl
        apply orderly.modify own
        intro row found
        exact orderly_restart (Keyed.Table.key_of_find found)

theorem AllOrderly.assign (orderly : AllOrderly workflow) {assignedAdminId actor id : String}
    {now : ℤ}
    (assigned : assignWorkflowOwner configured workflow userId assignedAdminId actor context id
      now = .ok after) : AllOrderly after := by
  have assign : ∀ started : Workflow, AllOrderly started → AllOrderly { started with
      cases := started.cases.modify userId (·.assign assignedAdminId) fun _ =>
        WorkflowCase.assign_userId } := by
    intro started orderly other row found
    dsimp only at found
    rw [Keyed.Table.find_modify] at found
    by_cases same : other = userId
    · rw [if_pos same] at found
      obtain ⟨old, isOld, rfl⟩ := Option.map_eq_some_iff.mp found
      exact (orderly other old isOld).assign
    · rw [if_neg same] at found
      exact orderly other row found
  unfold assignWorkflowOwner at assigned
  split at assigned
  · cases assigned
  · cases found : workflow.cases.find userId with
    | some row =>
      rw [found] at assigned
      cases assigned
      exact assign workflow orderly
    | none =>
      rw [found] at assigned
      cases started : startWorkflowCase configured workflow userId (some assignedAdminId) actor
          context id now with
      | error refusal =>
        simp only [started] at assigned
        cases assigned
      | ok middle =>
        simp only [started] at assigned
        cases assigned
        exact assign middle (orderly.start started)

theorem readStep_ne {stepName : String} {step : WorkflowStep}
    (read : readStep stepName = some step) : step ≠ .completed := by
  unfold readStep at read
  dsimp only at read
  rintro rfl
  split_ifs at read <;> cases read

theorem AllOrderly.complete (orderly : AllOrderly workflow) {stepName actor : String}
    {note : Option String} {now : ℤ}
    (completed : completeWorkflowStep configured workflow userId stepName actor note now =
      .ok after) : AllOrderly after := by
  unfold completeWorkflowStep at completed
  cases found : workflow.cases.find userId with
  | none =>
    rw [found] at completed
    cases completed
  | some row =>
    cases read : readStep stepName with
    | none =>
      rw [found, read] at completed
      cases completed
    | some step =>
      rw [found, read] at completed
      dsimp only at completed
      split at completed
      · cases completed
      · rename_i current
        cases completed
        have key : row.userId = userId := Keyed.Table.key_of_find found
        have own : (Event.logged (row.log .completed actor note)).userId = userId := key
        apply orderly.modify own
        intro other isOther
        rw [found] at isOther
        cases isOther
        exact (orderly userId row found).advance (readStep_ne read) (not_not.mp current).symm

theorem AllOrderly.escalate (orderly : AllOrderly workflow) {actor : String}
    {supervisorAdminId note : Option String} {force : Bool} {now : ℤ}
    (escalated : escalateWorkflowCase configured workflow userId actor supervisorAdminId note force
      now = .ok after) : AllOrderly after := by
  unfold escalateWorkflowCase at escalated
  cases found : workflow.cases.find userId with
  | none =>
    rw [found] at escalated
    cases escalated
  | some row =>
    rw [found] at escalated
    dsimp only at escalated
    split at escalated
    · cases escalated
    · rename_i unfinished
      split_ifs at escalated
      cases escalated
      have key : row.userId = userId := Keyed.Table.key_of_find found
      have own : ∀ text, (Event.logged (row.log .escalated actor text)).userId = userId :=
        fun _ => key
      apply orderly.modify (own _)
      intro other isOther
      rw [found] at isOther
      cases isOther
      exact (orderly userId row found).escalate unfinished

theorem timedOut_split {row : WorkflowCase} {actor : String} {now : ℤ}
    (inside : row ∈ workflow.cases.rows) (timedOut : row.timedOut now = true) :
    ∃ earlier later : List Event,
      ((workflow.cases.rows.filter (·.timedOut now)).map fun row =>
          Event.logged (row.log .escalated actor (some "sla_timeout_escalation"))) =
        earlier ++ .logged (row.log .escalated actor (some "sla_timeout_escalation")) :: later ∧
      (∀ event ∈ earlier, event.userId ≠ row.userId) ∧
        ∀ event ∈ later, event.userId ≠ row.userId := by
  have member : row ∈ workflow.cases.rows.filter (·.timedOut now) :=
    List.mem_filter.mpr ⟨inside, timedOut⟩
  obtain ⟨earlier, later, split⟩ := List.append_of_mem member
  have nodup : ((workflow.cases.rows.filter (·.timedOut now)).map WorkflowCase.userId).Nodup :=
    workflow.cases.keys_nodup.sublist (List.filter_sublist.map _)
  rw [split, List.map_append, List.map_cons] at nodup
  obtain ⟨_, nodupLater, apart⟩ := List.nodup_append.mp nodup
  refine ⟨_, _, by rw [split, List.map_append, List.map_cons], ?_, ?_⟩
  · intro event isEvent
    obtain ⟨other, isOther, rfl⟩ := List.mem_map.mp isEvent
    exact apart _ (List.mem_map_of_mem isOther) _ List.mem_cons_self
  · intro event isEvent
    obtain ⟨other, isOther, rfl⟩ := List.mem_map.mp isEvent
    intro same
    exact (List.nodup_cons.mp nodupLater).1 (same ▸ List.mem_map_of_mem isOther)

theorem timedOut_unfinished {row : WorkflowCase} {now : ℤ} (timedOut : row.timedOut now = true) :
    row.workflowStatus ≠ .completed := by
  have isActive := (of_decide_eq_true timedOut).1
  rw [isActive]
  decide

theorem AllOrderly.escalateTimedOut (orderly : AllOrderly workflow) {actor : String}
    {supervisorAdminId : Option String} {now : ℤ} :
    AllOrderly (escalateTimedOutCases configured workflow actor supervisorAdminId now) := by
  intro userId row found
  unfold escalateTimedOutCases at found ⊢
  rw [Keyed.Table.find_mapRows] at found
  obtain ⟨old, isOld, rfl⟩ := Option.map_eq_some_iff.mp found
  have inside := List.mem_of_find?_eq_some isOld
  by_cases timedOut : old.timedOut now = true
  · obtain ⟨earlier, later, split, before, behind⟩ := @timedOut_split workflow old actor now inside
      timedOut
    dsimp only
    rw [if_pos timedOut, split, ← List.singleton_append, ← List.append_assoc,
      ← List.append_assoc]
    have behindIt : ∀ event ∈ later,
        event.userId ≠ (old.escalate configured supervisorAdminId now).userId := behind
    apply Orderly.others _ behindIt
    exact ((orderly userId old isOld).others before).escalate (timedOut_unfinished timedOut)
  · rw [if_neg timedOut]
    apply (orderly userId old isOld).others
    intro event isEvent
    obtain ⟨other, isOther, rfl⟩ := List.mem_map.mp isEvent
    obtain ⟨isRow, otherTimedOut⟩ := List.mem_filter.mp isOther
    intro same
    have sameRow := List.inj_on_of_nodup_map workflow.cases.keys_nodup isRow inside same
    exact timedOut (sameRow ▸ otherTimedOut)

theorem AllOrderly.next (orderly : AllOrderly workflow) {call : Call} :
    AllOrderly (Onboarding.next configured workflow call) := by
  unfold Onboarding.next
  cases performed : perform configured workflow call with
  | error refusal => exact orderly
  | ok after =>
    cases call with
    | start userId assignedAdminId actor context id now => exact orderly.start performed
    | assign userId assignedAdminId actor context id now => exact orderly.assign performed
    | complete userId stepName actor note now => exact orderly.complete performed
    | escalateTimedOut actor supervisorAdminId now =>
      cases performed
      exact orderly.escalateTimedOut
    | escalate userId actor supervisorAdminId note force now => exact orderly.escalate performed

theorem allOrderly_afterAll {calls : List Call} :
    AllOrderly (afterAll (Onboarding.next configured) .empty calls) := by
  apply afterAll_keeps
  · intro userId row found
    cases found
  · exact fun workflow call orderly => orderly.next

end Runs

section Verdicts

variable {configured : ℤ} {riskMap : String → Option ℚ} {workflow : Workflow}
  {row : WorkflowCase}

def timesQueued (riskMap : String → Option ℚ) (workflow : Workflow) (userId : String) : ℕ :=
  ((listPriorityQueue riskMap workflow none).map (·.workflowCase.userId)).count userId

/-- Once its SLA time has passed, the next escalation of timed-out cases escalates and logs a
case. -/
def EscalatesOnTime (configured : ℤ) (workflow : Workflow) (row : WorkflowCase) : Prop :=
  ∃ due ∈ row.slaDueAt, ∀ actor supervisorAdminId now, due ≤ now →
    let after := escalateTimedOutCases configured workflow actor supervisorAdminId now
    after.cases.find row.userId = some (row.escalate configured supervisorAdminId now) ∧
      .logged (row.log .escalated actor (some "sla_timeout_escalation")) ∈
        after.trace.drop workflow.trace.length

theorem timesQueued_eq (inside : row ∈ workflow.cases.rows) :
    timesQueued riskMap workflow row.userId = if row.workflowStatus = .active then 1 else 0 := by
  have users : ((listPriorityQueue riskMap workflow none).map (·.workflowCase.userId)).Perm
      ((workflow.cases.rows.filter (·.workflowStatus = .active)).map WorkflowCase.userId) := by
    unfold listPriorityQueue
    rw [List.map_map]
    simp only [Option.getD_none, true_or, and_true]
    exact (List.perm_insertionSort _ _).map _
  have nodup : ((workflow.cases.rows.filter (·.workflowStatus = .active)).map
      WorkflowCase.userId).Nodup := workflow.cases.keys_nodup.sublist (List.filter_sublist.map _)
  unfold timesQueued
  rw [users.count_eq]
  split
  · rename_i isActive
    apply List.count_eq_one_of_mem nodup
    exact List.mem_map_of_mem (List.mem_filter.mpr ⟨inside, decide_eq_true isActive⟩)
  · rename_i notActive
    rw [List.count_eq_zero]
    intro queued
    obtain ⟨other, isOther, same⟩ := List.mem_map.mp queued
    obtain ⟨isRow, isActive⟩ := List.mem_filter.mp isOther
    have sameRow := List.inj_on_of_nodup_map workflow.cases.keys_nodup isRow inside same
    exact notActive (sameRow ▸ of_decide_eq_true isActive)

theorem escalatesOnTime_of_active (inside : row ∈ workflow.cases.rows)
    (isActive : row.workflowStatus = .active) (due : row.slaDueAt.isSome) :
    EscalatesOnTime configured workflow row := by
  obtain ⟨time, isTime⟩ := Option.isSome_iff_exists.mp due
  refine ⟨time, isTime, fun actor supervisorAdminId now passed => ?_⟩
  have timedOut : row.timedOut now = true := decide_eq_true ⟨isActive, time, isTime, passed⟩
  constructor
  · unfold escalateTimedOutCases
    rw [Keyed.Table.find_mapRows, Keyed.Table.find_of_mem inside, Option.map_some,
      if_pos timedOut]
  · show _ ∈ (workflow.trace ++ _).drop workflow.trace.length
    rw [List.drop_left]
    exact List.mem_map_of_mem (List.mem_filter.mpr ⟨inside, timedOut⟩)

/-- A case is completed exactly when its three steps have been completed in order since it was
started, and a case that is not completed is in the queue once and escalated on time. -/
structure WorkflowSound (configured : ℤ) (riskMap : String → Option ℚ) (workflow : Workflow) :
    Prop where
  completed : ∀ row ∈ workflow.cases.rows, row.workflowStatus = .completed ↔
    stepsSince row.userId workflow.trace = [.ops, .risk, .final]
  unfinished : ∀ row ∈ workflow.cases.rows, row.workflowStatus ≠ .completed →
    timesQueued riskMap workflow row.userId = 1 ∧ EscalatesOnTime configured workflow row

/-- After any calls, the workflow is as it should be exactly when no open case has been escalated
since it was started or one of its steps was completed. -/
theorem workflow_sound_iff {calls : List Call} :
    WorkflowSound configured riskMap (afterAll (next configured) .empty calls) ↔
      ∀ row ∈ (afterAll (next configured) .empty calls).cases.rows,
        row.workflowStatus ≠ .completed →
          ¬EscalatedSince row.userId (afterAll (next configured) .empty calls).trace := by
  have orderly := fun {row} (inside : row ∈ (afterAll (next configured) .empty calls).cases.rows) =>
    @allOrderly_afterAll configured calls row.userId row (Keyed.Table.find_of_mem inside)
  constructor
  · intro sound row inside unfinished escalated
    have isEscalated := (orderly inside).escalated.mpr escalated
    have queued := (sound.unfinished row inside unfinished).1
    rw [timesQueued_eq inside, isEscalated] at queued
    cases queued
  · intro calm
    constructor
    · intro row inside
      rw [(orderly inside).completed, (orderly inside).steps]
      cases row.currentStep <;> decide
    · intro row inside unfinished
      have isActive : row.workflowStatus = .active := by
        cases isStatus : row.workflowStatus with
        | active => rfl
        | escalated =>
          exact absurd ((orderly inside).escalated.mp isStatus) (calm row inside unfinished)
        | completed => exact absurd isStatus unfinished
      constructor
      · rw [timesQueued_eq inside, if_pos isActive]
      · exact escalatesOnTime_of_active inside isActive ((orderly inside).due unfinished)

def escalatedCase : List Call :=
  [.start "u-1" none "a-1" (some ⟨50, "clear", false⟩) "c-1" 0,
    .escalateTimedOut "a-1" none 1800000000]

/-- The escalated case is in no queue, and nothing escalates it again when its new time has run
out. -/
theorem escalated_case_is_lost :
    ¬WorkflowSound 30 (fun _ => some 50) (afterAll (next 30) .empty escalatedCase) ∧
      (listPriorityQueue (fun _ => some 50) (afterAll (next 30) .empty escalatedCase)
        none) = [] ∧
      ((afterAll (next 30) .empty (escalatedCase ++ [.escalateTimedOut "a-1" none
        3600000000])).cases.rows.map fun row =>
          (row.workflowStatus, row.slaDueAt, row.escalationCount)) =
        [(.escalated, some 3600000000, 1)] := by
  have rows : (afterAll (next 30) .empty escalatedCase).cases.rows =
      [⟨"c-1", "u-1", .escalated, .ops, some "a-1", 50, some 3600000000, some 1800000000, 1,
        true⟩] := by
    decide +kernel
  refine ⟨fun sound => ?_, by decide +kernel, by decide +kernel⟩
  have queued := (sound.unfinished _ (rows ▸ List.mem_singleton_self _)
    (by decide)).1
  revert queued
  decide +kernel

end Verdicts

end Onboarding
