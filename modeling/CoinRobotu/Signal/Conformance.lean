import CoinRobotu.Signal.Stages

/-!
# Every task follows the protocol

Code inside the `try` statement is judged by where it leads: from a session and
a step of a delivery it either ends with a session and step of which something
is known, or it raises in one.
-/

open Interleaving

namespace Signal

open Runtime (upper orElse)

def CanFail (work : Work) (step : Step) : Prop := work.broken = true ∨ step.MayRaise work

/-- Code leads from a session and step of a delivery to another one, returning
as `returns` says or raising as `raises` says. -/
def Engine.Leads {α : Type} (payload : QueuePayload) (code : Engine α)
    (returns : α → Work → Step → Prop) (raises : Work → Step → Prop) (work : Work) (step : Step) :
    Prop :=
  (code work).Follows stages
    (fun outcome stage => ∃ reached, stage = .working payload outcome.2 reached ∧
      match outcome.1 with
      | .ok value => returns value outcome.2 reached
      | .error _ => raises outcome.2 reached)
    (fun _ _ => False) (.working payload work step)

/-- A failure in this step is one that `raises` speaks of. -/
structure Tolerates (raises : Work → Step → Prop) (step : Step) : Prop where
  raised : ∀ work, raises work step.raised
  broken : ∀ work, work.broken = true → raises work step

section Rules

variable {payload : QueuePayload} {α β : Type} {returns : α → Work → Step → Prop}
  {raises : Work → Step → Prop} {work : Work} {step : Step}

theorem tolerates_any : Tolerates (fun _ _ => True) step := ⟨fun _ => trivial, fun _ _ => trivial⟩

theorem tolerates_try (inside : step ≠ .failed) (unhandled : step ≠ .handled) :
    Tolerates CanFail step := by
  have raising : step.raised = .raising := by
    cases step with
    | failed => exact absurd rfl inside
    | handled => exact absurd rfl unhandled
    | _ => rfl
  exact ⟨fun work => .inr (raising ▸ trivial), fun work broken => .inl broken⟩

theorem leads_pure {value : α} (holds : returns value work step) :
    (pure value : Engine α).Leads payload returns raises work step :=
  ⟨step, rfl, holds⟩

theorem leads_raise {failure : String} (holds : raises work step) :
    (Engine.raise failure : Engine α).Leads payload returns raises work step :=
  ⟨step, rfl, holds⟩

theorem leads_get {returns : Work → Work → Step → Prop} (holds : returns work work step) :
    Engine.get.Leads payload returns raises work step :=
  ⟨step, rfl, holds⟩

theorem leads_bind {first : Engine α} {rest : α → Engine β} {returns : β → Work → Step → Prop}
    (leads : first.Leads payload
      (fun value reached next => (rest value).Leads payload returns raises reached next) raises
      work step) :
    (first >>= rest).Leads payload returns raises work step := by
  have sequenced : (first >>= rest) work = (first work).bind (Engine.next rest) := rfl
  unfold Engine.Leads
  rw [sequenced, Program.follows_bind]
  refine Program.follows_mono leads ?_ (fun _ _ impossible => impossible)
  rintro ⟨outcome, reached⟩ stage ⟨next, rfl, holds⟩
  cases outcome with
  | ok value => exact holds
  | error failure => exact ⟨next, rfl, holds⟩

theorem leads_mono {code : Engine α} {returns' : α → Work → Step → Prop}
    (leads : code.Leads payload returns raises work step)
    (weaker : ∀ value reached next, returns value reached next → returns' value reached next) :
    code.Leads payload returns' raises work step := by
  refine Program.follows_mono leads ?_ (fun _ _ impossible => impossible)
  rintro ⟨outcome, reached⟩ stage ⟨next, rfl, holds⟩
  cases outcome with
  | ok value => exact ⟨next, rfl, weaker value reached next holds⟩
  | error failure => exact ⟨next, rfl, holds⟩

theorem leads_then {first : Engine α} {rest : α → Engine β} {returns' : β → Work → Step → Prop}
    (leads : first.Leads payload returns raises work step)
    (goesOn : ∀ value reached next, returns value reached next →
      (rest value).Leads payload returns' raises reached next) :
    (first >>= rest).Leads payload returns' raises work step :=
  leads_bind (leads_mono leads goesOn)

theorem leads_issue {command : Command} {returns : command.Reply → Work → Step → Prop}
    (tolerates : Tolerates raises step)
    (allowed : (command.ofSession = true → work.broken = false) → step.allows payload work command)
    (replied : ∀ reply,
      returns reply (work.answered command (.ok reply)) (step.next work command (.ok reply))) :
    (Engine.issue command).Leads payload returns raises work step := by
  unfold Engine.Leads Engine.issue
  split
  · rename_i refused
    exact ⟨step, rfl, tolerates.broken work refused.2⟩
  · rename_i usable
    have sound : command.ofSession = true → work.broken = false := by
      intro ofSession
      simpa using fun broken => usable ⟨ofSession, broken⟩
    refine ⟨allowed sound, fun answer _ => ⟨step.next work command answer, rfl, ?_⟩⟩
    cases answer with
    | ok reply => exact replied reply
    | error failure =>
      rw [Step.next_error]
      exact tolerates.raised _

theorem leads_when {condition : Prop} [Decidable condition] {first : Engine Unit}
    {rest : Unit → Engine α}
      (leads : first.Leads payload (fun _ _ next => next = step) raises work step)
    (goesOn : ∀ reached, (rest ()).Leads payload returns raises reached step) :
    (if condition then first >>= rest else rest ()).Leads payload returns raises work step := by
  split
  · apply leads_then leads
    rintro _ reached _ rfl
    exact goesOn reached
  · exact goesOn work

theorem leads_aside {command : Command} {returns : command.Reply → Work → Step → Prop}
    (tolerates : Tolerates raises step)
    (allowed : (command.ofSession = true → work.broken = false) → step.allows payload work command)
    (session : ∀ reply, work.answered command (.ok reply) = work)
    (stays : ∀ reply, step.next work command (.ok reply) = step)
    (holds : ∀ reply, returns reply work step) :
    (Engine.issue command).Leads payload returns raises work step := by
  apply leads_issue tolerates allowed
  intro reply
  rw [session, stays]
  exact holds reply

variable {returns : Unit → Work → Step → Prop}

theorem leads_hold {held : Work}
    (tolerates : Tolerates raises step) (assigns : step.Assigns work held)
    (same : held.job.retryCount = work.job.retryCount) (holds : returns () held step.assigned) :
    (Engine.issue (.hold held)).Leads payload returns raises work step := by
  apply leads_issue tolerates
  · exact fun sound => ⟨sound, .inl assigns⟩
  · intro _
    have counted : step.next work (.hold held) (.ok ()) = step.assigned := if_pos same
    exact counted.symm ▸ holds

theorem leads_failed {failure : String}
    (tolerates : Tolerates raises step) (fresh : work.jobExpired = false)
      (canFail : CanFail work step)
    (holds : returns () (work.failed failure) .failed) :
    (Engine.issue (.hold (work.failed failure))).Leads payload returns raises work step := by
  apply leads_issue tolerates
  · exact fun sound => ⟨sound, .inr ⟨failure, rfl, fresh, canFail⟩⟩
  · intro _
    have counted : step.next work (.hold (work.failed failure)) (.ok ()) = .failed := by
      apply if_neg
      simp [Work.failed, ExecutionJob.afterFailure]
    exact counted.symm ▸ holds

end Rules

section Helpers

variable {payload : QueuePayload} {raises : Work → Step → Prop} {work : Work} {step : Step}

section Asking

variable (tolerates : Tolerates raises step)

include tolerates

theorem leads_ask {question : String} {ofSession : Bool} {returns : Bool → Work → Step → Prop}
    (pauses : step.Pauses)
    (holds : ∀ reply, returns reply work step) :
    (Engine.issue (.ask question ofSession)).Leads payload returns raises work step :=
  leads_aside tolerates (fun sound => ⟨sound, pauses⟩) (fun _ => rfl) (fun _ => rfl) holds

theorem leads_call {call : String} {ofSession : Bool} {returns : Unit → Work → Step → Prop}
    (pauses : step.Pauses) (holds : returns () work step) :
    (Engine.issue (.aside call ofSession)).Leads payload returns raises work step :=
  leads_aside tolerates (fun sound => ⟨sound, pauses⟩) (fun _ => rfl) (fun _ => rfl)
    fun _ => holds

theorem readJob_leads :
    readJob.Leads payload
      (fun job reached next => next = step ∧ job = reached.job ∧
        ∃ stored job, reached = { work with storedJob := stored, job, jobExpired := false })
      raises work step := by
  apply leads_bind
  apply leads_get
  split
  · rename_i expired
    apply leads_bind
    apply leads_issue tolerates
    · exact fun sound => ⟨sound, rfl, expired⟩
    · rintro (_ | row)
      · exact leads_raise (tolerates.raised _)
      · exact leads_pure ⟨rfl, rfl, row, row, rfl⟩
  · rename_i fresh
    have unexpired : work.jobExpired = false := by simpa using fresh
    apply leads_pure
    exact ⟨rfl, rfl, work.storedJob, work.job, by rw [← unexpired]⟩

theorem readOrder_leads :
    readOrder.Leads payload
      (fun order reached next => next = step ∧ order = reached.order ∧
        ∃ stored order, reached = { work with storedOrder := stored, order, orderExpired := false })
      raises work step := by
  apply leads_bind
  apply leads_get
  split
  · rename_i expired
    apply leads_bind
    apply leads_issue tolerates
    · exact fun sound => ⟨sound, rfl, expired⟩
    · rintro (_ | row)
      · exact leads_raise (tolerates.raised _)
      · exact leads_pure ⟨rfl, rfl, some row, row, rfl⟩
  · rename_i fresh
    have unexpired : work.orderExpired = false := by simpa using fresh
    apply leads_pure
    exact ⟨rfl, rfl, work.storedOrder, work.order, by rw [← unexpired]⟩

theorem commitSession_leads (commits : step.Commits) :
    commitSession.Leads payload (fun _ reached next => reached = work.committed ∧
      next = step.committed) raises work step := by
  apply leads_bind
  apply leads_get
  apply leads_issue tolerates
  · exact fun sound => ⟨sound, rfl, commits⟩
  · exact fun _ => ⟨rfl, rfl⟩

variable (commits : step.Commits) (stays : step.committed = step)

include commits stays

theorem createSystemAlert_leads :
    createSystemAlert.Leads payload (fun _ _ next => next = step) raises work step := by
  have commit : ∀ work, commitSession.Leads payload (fun _ _ next => next = step) raises
      work step := by
    intro work
    apply leads_mono (commitSession_leads tolerates commits)
    rintro _ reached next ⟨_, rfl⟩
    exact stays
  apply leads_bind
  apply leads_ask tolerates commits.pauses
  intro kept
  split
  · exact leads_pure rfl
  · apply leads_then (commit work)
    rintro _ reached _ rfl
    apply leads_bind
    apply leads_call tolerates commits.pauses
    exact commit reached

theorem alertTrigger_leads (question : String) :
    (alertTrigger question).Leads payload (fun _ _ next => next = step) raises work step := by
  apply leads_bind
  apply leads_ask tolerates commits.pauses
  intro due
  split
  · exact createSystemAlert_leads tolerates commits stays
  · exact leads_pure rfl

theorem evaluateAutoKillSwitch_leads :
    evaluateAutoKillSwitch.Leads payload (fun _ _ next => next = step) raises work step := by
  apply leads_bind
  apply leads_ask tolerates commits.pauses
  intro due
  split
  · apply leads_bind
    apply leads_call tolerates commits.pauses
    exact createSystemAlert_leads tolerates commits stays
  · exact leads_pure rfl

theorem createAuditLog_leads :
    createAuditLog.Leads payload (fun _ _ next => next = step) raises work step := by
  apply leads_bind
  apply leads_call tolerates commits.pauses
  apply leads_mono (commitSession_leads tolerates commits)
  rintro _ reached next ⟨_, rfl⟩
  exact stays

end Asking

end Helpers

section Trying

variable {payload : QueuePayload} {work : Work}

theorem tolerates_recording (states : List String) : Tolerates CanFail (.recording states) :=
  tolerates_try Step.noConfusion Step.noConfusion

theorem syncPositionAfterFill_leads (states : List String) :
    syncPositionAfterFill.Leads payload (fun _ _ next => next = .recording states) CanFail work
      (.filling states) := by
  apply leads_bind
  apply leads_get
  apply leads_bind
  apply leads_issue (tolerates_try Step.noConfusion Step.noConfusion)
  · exact fun sound => ⟨sound, states, rfl, rfl⟩
  · intro row
    exact leads_hold (tolerates_try Step.noConfusion Step.noConfusion) rfl rfl rfl

theorem applyState_leads (state : String) (states : List String) :
    (applyState state).Leads payload (fun _ _ next => next = .recording states) CanFail work
      (.recording (state :: states)) := by
  have tolerates := tolerates_recording (state :: states)
  apply leads_bind
  apply leads_get
  cases advanced : advanceOrderState work.order state with
  | error failure =>
    apply leads_raise
    exact .inr ⟨failure, advanced⟩
  | ok moved =>
    apply leads_bind
    apply leads_issue tolerates
    · exact fun sound => ⟨sound, state, states, moved, rfl, advanced, rfl, rfl, rfl⟩
    · intro _
      apply leads_bind
      apply leads_hold tolerates ⟨moved, advanced, rfl⟩ rfl
      have emits : ∀ work, emitTimelineEvent.Leads payload
          (fun _ _ next => next = .recording states) CanFail work (.recording states) :=
        fun work => leads_call (tolerates_recording states) trivial rfl
      by_cases isFill : state = "FILLED"
      · rw [if_pos isFill, Step.assigned, if_pos isFill]
        apply leads_then (syncPositionAfterFill_leads states)
        rintro _ held _ rfl
        exact emits held
      · rw [if_neg isFill, Step.assigned, if_neg isFill]
        exact emits _

theorem applyStates_leads (states : List String) :
    (applyStates states).Leads payload (fun _ _ next => next = .recording []) CanFail work
      (.recording states) := by
  induction states generalizing work with
  | nil => exact leads_pure rfl
  | cons state states ih =>
    apply leads_then (applyState_leads state states)
    rintro _ reached _ rfl
    exact ih

theorem handleExecutionResult_leads (result : ExchangeResult) :
    (handleExecutionResult result).Leads payload (fun _ _ next => next = .closed) CanFail work
      (.answered result) := by
  have tolerates : Tolerates CanFail (.answered result) :=
    tolerates_try Step.noConfusion Step.noConfusion
  have closed : Tolerates CanFail .closed := tolerates_try Step.noConfusion Step.noConfusion
  apply leads_then (readJob_leads tolerates)
  rintro _ _ _ ⟨rfl, _, storedJob, job, rfl⟩
  apply leads_then (readOrder_leads tolerates)
  rintro _ _ _ ⟨rfl, _, storedOrder, order, rfl⟩
  apply leads_bind
  apply leads_get
  apply leads_bind
  apply leads_hold tolerates ⟨rfl, rfl, rfl⟩ rfl
  apply leads_then (applyStates_leads result.states)
  rintro _ recorded _ rfl
  apply leads_bind
  apply leads_call (tolerates_recording []) trivial
  apply leads_then (commitSession_leads (tolerates_recording []) rfl)
  rintro _ _ _ ⟨rfl, rfl⟩
  apply leads_then (readOrder_leads closed)
  rintro _ _ _ ⟨rfl, _⟩
  apply leads_then (readJob_leads closed)
  rintro job _ _ ⟨rfl, _⟩
  exact leads_pure rfl

theorem recordExecution_leads (result : ExchangeResult) :
    (recordExecution result).Leads payload (fun _ _ _ => True) CanFail work (.replied result) := by
  have tolerates : Tolerates CanFail (.answered result) :=
    tolerates_try Step.noConfusion Step.noConfusion
  have closed : Tolerates CanFail .closed := tolerates_try Step.noConfusion Step.noConfusion
  apply leads_bind
  apply leads_get
  apply leads_bind
  apply leads_hold
  · exact tolerates_try Step.noConfusion Step.noConfusion
  · exact rfl
  · exact rfl
  apply leads_bind
  apply leads_ask tolerates trivial
  intro slow
  apply leads_when (createSystemAlert_leads tolerates trivial rfl)
  intro alerted
  apply leads_then (handleExecutionResult_leads result)
  rintro state _ _ rfl
  apply leads_then (createAuditLog_leads closed trivial rfl)
  rintro _ _ _ rfl
  apply leads_then (alertTrigger_leads closed trivial rfl "failed_orders")
  rintro _ _ _ rfl
  apply leads_then (evaluateAutoKillSwitch_leads closed trivial rfl)
  rintro _ _ _ rfl
  exact leads_pure trivial

theorem routeJob_leads :
    routeJob.Leads payload (fun _ _ _ => True) CanFail work .preparing := by
  have tolerates : Tolerates CanFail .preparing := tolerates_try Step.noConfusion Step.noConfusion
  apply leads_bind
  apply leads_get
  apply leads_bind
  apply leads_issue tolerates
  · exact fun sound => ⟨sound, trivial⟩
  · intro available
    split
    · exact leads_raise (.inr trivial)
    · apply leads_bind
      apply leads_issue tolerates
      · exact fun sound => ⟨sound, rfl, rfl⟩
      · exact fun reply => recordExecution_leads _

end Trying

section Handling

variable {payload : QueuePayload} {work : Work} {step : Step}

theorem finishFailure_leads (failure : String) :
    (finishFailure failure).Leads payload (fun _ _ _ => True) (fun _ _ => True) work .handled := by
  have commits : Step.Commits .handled := trivial
  apply leads_then (alertTrigger_leads tolerates_any commits rfl "worker_failures")
  rintro _ _ _ rfl
  apply leads_then (alertTrigger_leads tolerates_any commits rfl "failed_orders")
  rintro _ _ _ rfl
  apply leads_then (readJob_leads tolerates_any)
  rintro job reached _ ⟨rfl, _⟩
  apply leads_when (createSystemAlert_leads tolerates_any commits rfl)
  intro alerted
  apply leads_then (evaluateAutoKillSwitch_leads tolerates_any commits rfl)
  rintro _ _ _ rfl
  apply leads_then (readJob_leads tolerates_any)
  intro _ _ _ _
  exact leads_pure trivial

theorem handleFailure_leads (failure : String) (canFail : CanFail work step) :
    (handleFailure payload failure).Leads payload (fun _ _ _ => True) (fun _ _ => True)
      work step := by
  apply leads_then (readJob_leads tolerates_any)
  rintro _ _ step ⟨rfl, rfl, storedJob, row, rfl⟩
  apply leads_bind
  apply leads_get
  apply leads_bind
  have commits : Step.Commits .failed := trivial
  have refreshed : CanFail { work with storedJob, job := row, jobExpired := false } step := by
    cases step <;> exact canFail
  apply leads_failed tolerates_any rfl refreshed
  apply leads_then (commitSession_leads tolerates_any commits)
  rintro _ _ _ ⟨rfl, rfl⟩
  apply leads_then (readJob_leads tolerates_any)
  rintro job reached _ ⟨rfl, rfl, storedJob, row, rfl⟩
  split
  · apply leads_then (readOrder_leads tolerates_any)
    rintro _ _ _ ⟨rfl, _⟩
    apply leads_bind
    apply leads_call tolerates_any
    · exact trivial
    · exact finishFailure_leads failure
  · rename_i unfinished
    apply leads_bind
    apply leads_aside tolerates_any (fun sound => ⟨sound, trivial⟩) (fun _ => rfl) (fun _ => rfl)
    intro time
    apply leads_bind
    apply leads_aside tolerates_any
    · exact fun sound => ⟨sound, rfl, rfl, unfinished, rfl⟩
    · exact fun _ => rfl
    · exact fun _ => rfl
    · exact fun _ => finishFailure_leads failure

theorem tryRoute_follows (work : Work) :
    (tryRoute payload work).Follows stages (fun _ _ => True) (fun _ _ => True)
      (.working payload work .preparing) := by
  apply (Program.follows_bind _ _).mpr
  refine Program.follows_mono routeJob_leads ?_ (fun _ _ _ => trivial)
  rintro ⟨outcome, left⟩ _ ⟨step, rfl, ends⟩
  cases outcome with
  | ok reply => exact trivial
  | error failure =>
    apply (Program.follows_bind _ _).mpr
    refine Program.follows_mono (handleFailure_leads failure ends) ?_ (fun _ _ _ => trivial)
    rintro ⟨outcome, left⟩ _ _
    cases outcome <;> exact trivial

end Handling

/-- A program outside of a `try` block reaches a stage, returning as said; its
failures end the task. -/
def Reaches {α : Type} (program : Program services α) (returns : α → Stage → Prop) (stage : Stage) :
    Prop :=
  program.Follows stages returns (fun _ _ => True) stage

section Reaching

variable {α β : Type} {returns : α → Stage → Prop} {stage : Stage}

theorem reaches_done {value : α} (holds : returns value stage) :
    Reaches (.done value) returns stage := holds

theorem reaches_fail {failure : String} :
    Reaches (.fail failure : Program services α) returns stage := trivial

variable {rest : α → Program services β}

theorem reaches_bind {first : Program services α}
    {returns : β → Stage → Prop}
    (reaches : Reaches first (fun value reached => Reaches (rest value) returns reached) stage) :
    Reaches (first >>= rest) returns stage :=
  (Program.follows_bind first rest).mpr reaches

theorem reaches_mono {program : Program services α} {returns' : α → Stage → Prop}
    (reaches : Reaches program returns stage)
    (weaker : ∀ value reached, returns value reached → returns' value reached) :
    Reaches program returns' stage :=
  Program.follows_mono reaches weaker (fun _ _ _ => trivial)

theorem reaches_then {first : Program services α}
    {returns' : β → Stage → Prop} (reaches : Reaches first returns stage)
    (goesOn : ∀ value reached, returns value reached → Reaches (rest value) returns' reached) :
    Reaches (first >>= rest) returns' stage :=
  reaches_bind (reaches_mono reaches goesOn)

theorem reaches_call {command : Command} {returns : command.Reply → Stage → Prop}
    (allowed : stage.allows command)
    (replied : ∀ reply, returns reply (stage.next command (.ok reply))) :
    Reaches (call command) returns stage :=
  ⟨allowed, fun
    | .ok reply, _ => replied reply
    | .error _, _ => trivial⟩

theorem reaches_bind_call {command : Command} {rest : command.Reply → Program services β}
    {returns : β → Stage → Prop} (allowed : stage.allows command)
    (replied : ∀ reply, Reaches (rest reply) returns (stage.next command (.ok reply))) :
    Reaches (call command >>= rest) returns stage :=
  reaches_bind (reaches_call allowed replied)

end Reaching

section Delivering

variable {payload : QueuePayload}

theorem createOrGetOrder_reaches (job : ExecutionJob) :
    Reaches (createOrGetOrder job) (fun work stage => stage = .working payload work .preparing)
      (.found payload job) := by
  apply reaches_bind_call
  · exact rfl
  rintro (_ | order)
  · apply reaches_bind_call
    · exact trivial
    intro id
    apply reaches_bind_call
    · exact rfl
    exact fun _ => reaches_done rfl
  · exact reaches_done rfl

theorem executeJob_reaches (job : ExecutionJob) :
    Reaches (executeJob payload job) (fun _ _ => True) (.found payload job) := by
  apply reaches_bind_call
  · exact trivial
  intro time
  split
  · apply reaches_bind_call
    · exact rfl
    exact fun _ => reaches_done trivial
  · apply reaches_then (createOrGetOrder_reaches job)
    rintro work _ rfl
    apply reaches_bind_call
    · exact ⟨fun impossible => Bool.noConfusion impossible, trivial⟩
    exact fun _ => tryRoute_follows work

theorem executeQueuedJob_reaches :
    Reaches (executeQueuedJob payload) (fun _ _ => True) (.looking payload) := by
  unfold executeQueuedJob
  split
  · exact reaches_done trivial
  · rename_i id named
    apply reaches_bind_call
    · exact named
    rintro (_ | job)
    · exact reaches_done trivial
    · by_cases terminal : upper job.state ∈ terminalStates
      · simp only [if_pos terminal]
        exact reaches_done trivial
      · have stage : Stage.next (.looking payload) (.findJob id) (.ok (some job)) =
            .found payload job := if_neg terminal
        simp only [if_neg terminal]
        exact stage ▸ executeJob_reaches job

theorem consumeExecutionQueueOnce_reaches :
    Reaches consumeExecutionQueueOnce (fun _ _ => True) .fetching := by
  apply reaches_bind_call
  · exact trivial
  rintro (_ | payload)
  · exact reaches_done trivial
  · apply reaches_then executeQueuedJob_reaches
    exact fun _ _ _ => reaches_done trivial

end Delivering

section Signalling

variable {request : SignalRequest} {job : ExecutionJob} {stored : Option ExecutionJob}
  {room : Option ℚ} {stage : Stage}

theorem saveJob_reaches :
    Reaches (call (.commit (saveJob stored job)))
      (fun _ stage => stage = .admitted request job (some job) room)
      (.admitted request job stored room) := by
  apply reaches_call
  · exact .inl rfl
  exact fun _ => if_pos rfl

theorem saveJob_stored : saveJob (some job) job = [] := if_pos rfl

theorem auditJob_reaches :
    Reaches (auditJob stored job)
      (fun _ stage => stage = .admitted request job (some job) room)
      (.admitted request job stored room) := by
  apply reaches_bind_call
  · exact trivial
  exact fun _ => saveJob_reaches

theorem alertJob_reaches :
    Reaches (alertJob stored job)
      (fun stored stage => stage = .admitted request job stored room)
      (.admitted request job stored room) := by
  apply reaches_bind_call
  · exact trivial
  intro kept
  split
  · exact reaches_done rfl
  · apply reaches_then saveJob_reaches
    rintro _ _ rfl
    apply reaches_bind_call
    · exact trivial
    intro _
    rw [← saveJob_stored]
    apply reaches_then saveJob_reaches
    rintro _ _ rfl
    exact reaches_done rfl

theorem triggerJob_reaches (question : String) :
    Reaches (triggerJob question stored job)
      (fun stored stage => stage = .admitted request job stored room)
      (.admitted request job stored room) := by
  apply reaches_bind_call
  · exact trivial
  intro due
  split
  · exact alertJob_reaches
  · exact reaches_done rfl

theorem dailyLoss_reaches :
    Reaches (dailyLoss job)
      (fun loss stage => stage = .admitted request job loss.2 room ∧ (loss.1 = [] → loss.2 = none))
      (.admitted request job none room) := by
  apply reaches_bind_call
  · exact trivial
  intro exceeded
  split
  · apply reaches_then (triggerJob_reaches "daily_loss_limit")
    rintro stored _ rfl
    apply reaches_bind_call
    · exact trivial
    intro drawdown
    split
    · apply reaches_bind_call
      · exact trivial
      exact fun _ => reaches_done ⟨rfl, nofun⟩
    · exact reaches_done ⟨rfl, nofun⟩
  · exact reaches_done ⟨rfl, fun _ => rfl⟩

theorem limitReasons_fits {limits : RiskLimits} {killSwitch : Bool} {size markPrice : ℚ}
    {leverage : ℤ} {openNotional : ℚ}
    (none : limitReasons limits killSwitch size markPrice leverage openNotional = []) :
    openNotional + proposedNotional size markPrice ≤ limits.perUserNotionalCap := by
  by_contra exceeds
  have above : limits.perUserNotionalCap < openNotional + proposedNotional size markPrice :=
    not_le.mp exceeds
  simp [limitReasons, above] at none

theorem evaluateRisk_reaches :
    Reaches (evaluateRisk request job.size job)
      (fun risk stage => ∃ notional, stage = .admitted request job risk.2 (some notional) ∧
        (risk.1 = [] → risk.2 = none ∧ notional + proposedNotional job.size request.price ≤
          request.limits.perUserNotionalCap))
      (.admitted request job none none) := by
  apply reaches_bind_call
  · exact trivial
  intro killSwitch
  apply reaches_bind_call
  · exact rfl
  intro notional
  apply reaches_then dailyLoss_reaches
  rintro ⟨found, stored⟩ _ ⟨rfl, uncommitted⟩
  dsimp only
  split
  · rename_i none
    obtain ⟨limits, losses⟩ := List.append_eq_nil_iff.mp none
    exact reaches_done ⟨notional, rfl, fun _ => ⟨uncommitted losses, limitReasons_fits limits⟩⟩
  · rename_i some
    apply reaches_then auditJob_reaches
    rintro _ _ rfl
    exact reaches_done ⟨notional, rfl, fun none => absurd none some⟩

theorem inert_reaches {command : Command} (inert : Stage.inert command) :
    Reaches (call command) (fun _ stage => stage = .quiet) .quiet := by
  apply reaches_call
  · cases command <;> exact inert
  · cases command with
    | commit | now | ask | aside => exact fun _ => rfl
    | _ => exact inert.elim

theorem quiet_then {α : Type} {command : Command} {rest : command.Reply → Program services α}
    {returns : α → Stage → Prop} (inert : Stage.inert command)
    (goesOn : ∀ reply, Reaches (rest reply) returns .quiet) :
    Reaches (call command >>= rest) returns .quiet := by
  apply reaches_then (inert_reaches inert)
  rintro reply _ rfl
  exact goesOn reply

theorem auditJob_quiet : Reaches (auditJob (some job) job)
    (fun _ stage => stage = .quiet) .quiet := by
  unfold auditJob
  rw [saveJob_stored]
  apply quiet_then
  · exact trivial
  intro _
  exact inert_reaches rfl

theorem triggerJob_quiet (question : String) :
    Reaches (triggerJob question (some job) job) (fun _ stage => stage = .quiet) .quiet := by
  unfold triggerJob alertJob
  rw [saveJob_stored]
  apply quiet_then
  · exact trivial
  intro due
  split
  · apply quiet_then
    · exact trivial
    intro kept
    split
    · exact reaches_done rfl
    · apply quiet_then
      · exact rfl
      intro _
      apply quiet_then
      · exact trivial
      intro _
      apply quiet_then
      · exact rfl
      intro _
      exact reaches_done rfl
  · exact reaches_done rfl

theorem enqueueExecution_reaches {notional : ℚ}
    (fits : notional + proposedNotional job.size request.price ≤
      request.limits.perUserNotionalCap) :
    Reaches (enqueueExecution none job) (fun _ _ => True)
      (.admitted request job none (some notional)) := by
  apply reaches_bind_call
  · exact trivial
  intro _
  apply reaches_bind_call
  · exact ⟨rfl, rfl, notional, rfl, fits⟩
  intro _
  apply reaches_bind_call
  · exact rfl
  intro _
  apply reaches_then (triggerJob_quiet "queue_depth")
  rintro _ _ rfl
  apply reaches_then (triggerJob_quiet "kill_switch_due")
  rintro _ _ rfl
  apply reaches_then auditJob_quiet
  exact fun _ _ _ => reaches_done trivial

section Rejected

variable (created : job.state = "CREATED")

include created

theorem saveJob_rejected (reason : Option String) :
    saveJob stored (job.rejected reason) ≠ saveJob stored job := by
  have moved : job.rejected reason ≠ job := by
    intro same
    have state := congrArg ExecutionJob.state same
    simp [ExecutionJob.rejected, created] at state
  cases stored with
  | none => simpa [saveJob] using moved
  | some row =>
    by_cases first : job.rejected reason = row <;> by_cases second : job = row
    · exact absurd (first.trans second.symm) moved
    · simp [saveJob, first, second]
    · subst second
      simp [saveJob, moved]
    · simpa [saveJob, first, second] using moved

theorem rejected_reaches (reason : Option String) :
    Reaches (call (.commit (saveJob stored (job.rejected reason))))
      (fun _ stage => stage = .quiet) (.admitted request job stored room) := by
  apply reaches_call
  · exact .inr ⟨reason, rfl⟩
  exact fun _ => if_neg (saveJob_rejected created reason)

theorem decideSignal_reaches {reasons : List String}
    {notional : ℚ} (accepts : reasons = [] → stored = none ∧
      notional + proposedNotional job.size request.price ≤ request.limits.perUserNotionalCap) :
    Reaches (decideSignal job reasons stored) (fun _ _ => True)
      (.admitted request job stored (some notional)) := by
  unfold decideSignal
  split
  · rename_i none
    obtain ⟨rfl, fits⟩ := accepts none
    exact enqueueExecution_reaches fits
  · unfold auditJob
    apply reaches_bind
    apply reaches_bind_call
    · exact trivial
    intro _
    apply reaches_mono (rejected_reaches created reasons.head?)
    rintro _ _ rfl
    apply quiet_then
    · exact trivial
    intro _
    apply quiet_then
    · exact rfl
    exact fun _ => reaches_done trivial

theorem rejectByCanary_reaches (reason : String) :
    Reaches (rejectByCanary job reason) (fun _ _ => True) (.admitted request job none room) := by
  unfold rejectByCanary
  dsimp only
  split
  · apply reaches_then (rejected_reaches created (some reason))
    exact fun _ _ _ => reaches_done trivial
  · apply reaches_then auditJob_reaches
    rintro _ _ rfl
    apply reaches_then (rejected_reaches created (some reason))
    exact fun _ _ _ => reaches_done trivial

end Rejected

theorem admitSignal_reaches (key side : String) {size : ℚ} (positive : 0 < size) :
    Reaches (admitSignal request key (upper (request.symbol.getD "")) side size) (fun _ _ => True)
      (.signalling request) := by
  apply reaches_bind_call
  · exact trivial
  intro id
  apply reaches_bind_call
  · exact ⟨key, side, size, positive, rfl⟩
  intro _
  apply reaches_bind_call
  · exact trivial
  rintro (_ | reason)
  · apply reaches_then evaluateRisk_reaches
    rintro ⟨reasons, stored⟩ _ ⟨notional, rfl, accepts⟩
    exact decideSignal_reaches rfl accepts
  · exact rejectByCanary_reaches rfl reason

theorem keepSignal_reaches (side : String) {size : ℚ} (positive : 0 < size) :
    Reaches (keepSignal request (upper (request.symbol.getD "")) side size) (fun _ _ => True)
      (.signalling request) := by
  have key : Reaches (signalKey request (upper (request.symbol.getD "")) side)
      (fun _ stage => stage = .signalling request) (.signalling request) := by
    unfold signalKey
    split
    · exact reaches_done rfl
    · split
      · exact reaches_done rfl
      · apply reaches_bind_call
        · exact trivial
        exact fun _ => reaches_done rfl
  apply reaches_then key
  rintro key _ rfl
  apply reaches_bind_call
  · exact trivial
  rintro (_ | job)
  · exact admitSignal_reaches key side positive
  · exact reaches_done trivial

theorem adjustedSize_pos {size : ℚ} (positive : 0 < size) (precheck : Precheck) :
    0 < adjustedSize size precheck := by
  unfold adjustedSize
  extract_lets adjusted
  split
  · rename_i lowered
    exact lowered.1
  · exact positive

theorem noteWhen_reaches (condition : Bool) :
    Reaches (noteWhen condition) (fun _ stage => stage = .signalling request)
      (.signalling request) := by
  unfold noteWhen
  split
  · apply reaches_call
    · exact trivial
    exact fun _ => rfl
  · exact reaches_done rfl

theorem submitSignal_reaches :
    Reaches (submitSignal request) (fun _ _ => True) (.signalling request) := by
  unfold submitSignal
  dsimp only
  split
  · exact reaches_fail
  · rename_i valid
    have positive : 0 < request.size.getD 0 := by
      by_contra notPositive
      exact valid (.inr (.inr (not_lt.mp notPositive)))
    apply reaches_bind_call
    · exact trivial
    intro killSwitch
    apply reaches_then (noteWhen_reaches killSwitch)
    rintro _ _ rfl
    apply reaches_bind_call
    · exact trivial
    intro precheck
    split
    · apply reaches_then (noteWhen_reaches _)
      rintro _ _ rfl
      exact keepSignal_reaches _ (adjustedSize_pos positive precheck)
    · exact reaches_done trivial

end Signalling

section Reconciling

variable {rest : List Order} {changes : List Change}

theorem next_assigned (order : Order) (payload : StatusPayload) (id : Id)
    (previous target : String) :
    Stage.next (.reconciling (some (order, payload)) rest changes) (.assign id previous target)
        (.ok ()) =
      .reconciling (some (order, payload)) rest
        (changes ++ [.updateOrder order (order.reconciled payload)]) := by
  cases rest <;> rfl

theorem next_followed (order : Order) (payload : StatusPayload) (id : Id)
    (found : Option ExecutionJob) :
    Stage.next (.reconciling (some (order, payload)) rest changes) (.findJob id) (.ok found) =
      .reconciling (some (order, payload)) rest
        (changes ++ found.elim [] fun job =>
          saveJob (some job) { job with state := upper payload.status }) := by
  cases found with
  | none =>
    rw [Option.elim_none, List.append_nil]
    cases rest <;> rfl
  | some job => cases rest <;> rfl

theorem followingJob_reaches (order : Order) (payload : StatusPayload) :
    Reaches (followingJob order (upper payload.status))
      (fun added stage => stage = .reconciling (some (order, payload)) rest (changes ++ added))
      (.reconciling (some (order, payload)) rest changes) := by
  unfold followingJob
  split
  · rename_i followed
    apply reaches_bind_call
    · cases rest <;> exact ⟨order, payload, rfl, rfl, followed⟩
    intro found
    rw [next_followed]
    cases found with
    | none | some => exact reaches_done rfl
  · apply reaches_done
    rw [List.append_nil]

theorem reconcileOrder_reaches (order : Order) (current : Option (Order × StatusPayload)) :
    Reaches (reconcileOrder order)
      (fun added stage => ∃ current, stage = .reconciling current rest (changes ++ added))
      (.reconciling current (order :: rest) changes) := by
  apply reaches_bind
  apply (Program.follows_outcome _).mpr
  refine (Program.follows_call _).mpr
    ⟨⟨order, rest, rfl, rfl, rfl⟩, fun reply _ => ?_, fun failure _ => ?_⟩
  · have asked : stages.next (.reconciling current (order :: rest) changes)
        (.orderStatus order.symbol (order.externalOrderId.getD "")) (.ok reply) =
          .reconciling (some (order, reply.toStatus)) rest changes := rfl
    rw [asked]
    dsimp only
    split
    · apply reaches_done
      rw [List.append_nil]
      exact ⟨_, rfl⟩
    · rename_i differs
      obtain ⟨named, other⟩ := not_or.mp differs
      apply reaches_bind_call
      · cases rest <;> exact ⟨order, reply.toStatus, rfl, rfl, rfl, rfl, named, other⟩
      intro _
      rw [next_assigned]
      apply reaches_then (followingJob_reaches order reply.toStatus)
      rintro jobs _ rfl
      apply reaches_done
      exact ⟨some (order, reply.toStatus), by simp⟩
  · apply reaches_done
    rw [List.append_nil]
    exact ⟨none, rfl⟩

theorem reconcileOrders_reaches (orders : List Order) (current : Option (Order × StatusPayload)) :
    Reaches (reconcileOrders orders)
      (fun added stage => ∃ current, stage = .reconciling current [] (changes ++ added))
      (.reconciling current orders changes) := by
  induction orders generalizing current changes with
  | nil =>
    apply reaches_done
    rw [List.append_nil]
    exact ⟨current, rfl⟩
  | cons order orders ih =>
    apply reaches_then (reconcileOrder_reaches order current)
    rintro first _ ⟨reached, rfl⟩
    apply reaches_then (ih reached)
    rintro others _ ⟨last, rfl⟩
    apply reaches_done
    exact ⟨last, by rw [List.append_assoc]⟩

theorem runOrderReconciliation_reaches (limit : ℤ) :
    Reaches (runOrderReconciliation limit) (fun _ _ => True) .listing := by
  apply reaches_bind_call
  · exact trivial
  intro orders
  apply reaches_then (reconcileOrders_reaches orders none)
  rintro changes _ ⟨current, rfl⟩
  apply reaches_call
  · exact ⟨rfl, rfl⟩
  exact fun _ => trivial

end Reconciling

theorem code_follows (task : Task) :
    task.code.Follows stages (fun _ _ => True) (fun _ _ => True) (Stage.initial task) := by
  have ends : ∀ {α : Type} {program : Program services α} {stage : Stage},
      Reaches program (fun _ _ => True) stage →
        (program.bind fun _ => .done ()).Follows stages (fun _ _ => True) (fun _ _ => True) stage :=
    fun reaches => (Program.follows_bind _ _).mpr reaches
  cases task with
  | signal request => exact ends submitSignal_reaches
  | deliver payload => exact ends executeQueuedJob_reaches
  | consume => exact ends consumeExecutionQueueOnce_reaches
  | reconcile limit => exact runOrderReconciliation_reaches limit

theorem engine_governs (discipline : Discipline services World Oracle Task Stage) :
    Governs engine stages discipline (fun _ => True) (fun _ _ => True) :=
  ⟨fun _ _ _ _ => trivial, fun _ _ task _ => code_follows task⟩

end Signal
