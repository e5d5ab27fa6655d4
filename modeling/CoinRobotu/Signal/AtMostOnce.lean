import CoinRobotu.Signal.Conformance
import CoinRobotu.Signal.Moves

/-!
# When a job is submitted at most once

A delivery submits its job whenever the job is not terminal and the order is
not past submission in its eyes, and nothing it reads tells whether the exchange
took an order before. A run is careful when the order of a job is looked up only
while no other delivery is past that point and the exchange took nothing for the
job. In a careful run every job is submitted at most once and its fill is
applied at most once, whatever raises and whichever threads crash.
-/

open Interleaving

namespace Signal

def submissions (accepted : List SubmitRequest) (jobId : Id) : Nat :=
  accepted.countP (·.executionJobId = jobId)

/-- No job was accepted twice and no job's fill was applied twice. -/
structure AtMostOnce (world : World) : Prop where
  submitted : ∀ jobId, submissions world.accepted jobId ≤ 1
  applied : ∀ jobId, world.applied.count jobId ≤ 1

def Stage.delivers : Stage → Option Id
  | .ordering _ job => some job.id
  | .inserting _ job _ => some job.id
  | .working _ work _ => some work.job.id
  | _ => none

/-- The order of a job is looked up only while no other delivery of the job is
at work, and only if no order was accepted for it. -/
def careful : Discipline services World Oracle Task Stage where
  starts _ _ _ := True
  runs view _ _ command := ∀ jobId, command = .orderOfJob jobId →
    (∀ other, (view.phases other).delivers ≠ some jobId) ∧
      submissions view.world.accepted jobId = 0
  dies _ _ := True

@[simp] theorem submissions_append (accepted : List SubmitRequest) (request : SubmitRequest)
    (jobId : Id) :
    submissions (accepted ++ [request]) jobId =
      submissions accepted jobId + if request.executionJobId = jobId then 1 else 0 := by
  simp [submissions, List.countP_singleton]

theorem mapStatusToStates_mem (status : String) :
    mapStatusToStates status ∈ [["SENT"], ["SENT", "PARTIALLY_FILLED"], ["SENT", "FILLED"],
      ["SENT", "CANCELED"], ["SENT", "FAILED"]] := by
  unfold mapStatusToStates
  dsimp only
  repeat' split
  all_goals simp

theorem mapStatusToStates_fills (status : String) :
    (mapStatusToStates status).count "FILLED" ≤ 1 := by
  have counted : ∀ states ∈ [["SENT"], ["SENT", "PARTIALLY_FILLED"], ["SENT", "FILLED"],
      ["SENT", "CANCELED"], ["SENT", "FAILED"]], states.count "FILLED" ≤ 1 := by
    decide
  exact counted _ (mapStatusToStates_mem status)

theorem saveJob_fills (stored : Option ExecutionJob) (job : ExecutionJob) :
    (saveJob stored job).filterMap Change.fillJob = [] := by
  cases stored with
  | none => rfl
  | some row =>
    unfold saveJob
    dsimp only
    split <;> rfl

section Invariant

def Step.fills : Step → Nat
  | .replied result => result.states.count "FILLED"
  | .answered result => result.states.count "FILLED"
  | .recording states => states.count "FILLED"
  | .filling states => states.count "FILLED" + 1
  | .filled _ states => states.count "FILLED" + 1
  | _ => 0

def Stage.fills : Stage → Nat
  | .working _ work step => step.fills + if work.position.isSome then 1 else 0
  | _ => 0

/-- A delivery that has not submitted its job yet. -/
def Stage.Early : Stage → Prop
  | .ordering _ _ => True
  | .inserting _ _ _ => True
  | .working _ _ step => step = .preparing
  | _ => False

def Stage.Harmless : Stage → Prop
  | .reconciling _ _ changes => changes.filterMap Change.fillJob = []
  | _ => True

/-- What a delivery has done for its job accounts for the order and the fill. -/
structure Accounted (world : World) (stage : Stage) (jobId : Id) : Prop where
  once : submissions world.accepted jobId ≤ 1
  covered : world.applied.count jobId + stage.fills ≤ submissions world.accepted jobId
  early : stage.Early → submissions world.accepted jobId = 0

/-- What a careful run keeps: at most one delivery of a job is past the lookup of
its order, and every applied fill is of an accepted order. -/
structure Sparing (world : World) (phases : Thread → Stage) : Prop where
  once : ∀ jobId, submissions world.accepted jobId ≤ 1
  covered : ∀ jobId, world.applied.count jobId ≤ submissions world.accepted jobId
  alone : ∀ thread other jobId, (phases thread).delivers = some jobId →
    (phases other).delivers = some jobId → thread = other
  own : ∀ thread jobId, (phases thread).delivers = some jobId →
    Accounted world (phases thread) jobId
  harmless : ∀ thread, (phases thread).Harmless

variable {world after : World} {phases : Thread → Stage} {thread : Thread} {reached : Stage}

section Sparing

variable (sparing : Sparing world phases)

include sparing

theorem Sparing.atMostOnce : AtMostOnce world :=
  ⟨sparing.once, fun jobId => (sparing.covered jobId).trans (sparing.once jobId)⟩

/-- A thread goes on with its own job, or with none; it changes the counts of
that job only. -/
theorem Sparing.replace (others : ∀ jobId, (phases thread).delivers ≠ some jobId →
      submissions after.accepted jobId = submissions world.accepted jobId ∧
        after.applied.count jobId = world.applied.count jobId)
    (same : reached.delivers = none ∨ reached.delivers = (phases thread).delivers)
    (own : ∀ jobId, (phases thread).delivers = some jobId → Accounted after reached jobId)
    (harmless : reached.Harmless) : Sparing after (Function.update phases thread reached) := by
  have former :
      ∀ {other jobId}, (Function.update phases thread reached other).delivers = some jobId →
      (phases other).delivers = some jobId := by
    intro other jobId found
    by_cases isThread : other = thread
    · subst isThread
      rw [Function.update_self] at found
      rcases same with none | same
      · rw [none] at found
        cases found
      · exact same ▸ found
    · simpa [isThread] using found
  refine ⟨fun jobId => ?_, fun jobId => ?_, fun first second jobId left right =>
    sparing.alone first second jobId (former left) (former right), fun other jobId found => ?_,
    fun other => ?_⟩
  · by_cases isOwn : (phases thread).delivers = some jobId
    · exact (own jobId isOwn).once
    · rw [(others jobId isOwn).1]
      exact sparing.once jobId
  · by_cases isOwn : (phases thread).delivers = some jobId
    · have covered := (own jobId isOwn).covered
      omega
    · rw [(others jobId isOwn).1, (others jobId isOwn).2]
      exact sparing.covered jobId
  · have held := former found
    by_cases isThread : other = thread
    · subst isThread
      rw [Function.update_self]
      exact own jobId held
    · have foreign : (phases thread).delivers ≠ some jobId := fun also =>
        isThread (sparing.alone other thread jobId held also)
      obtain ⟨once, covered, early⟩ := sparing.own other jobId held
      rw [Function.update_of_ne isThread]
      refine ⟨?_, ?_, ?_⟩
      · rw [(others jobId foreign).1]
        exact once
      · rw [(others jobId foreign).1, (others jobId foreign).2]
        exact covered
      · rw [(others jobId foreign).1]
        exact early
  · by_cases isThread : other = thread
    · subst isThread
      rw [Function.update_self]
      exact harmless
    · rw [Function.update_of_ne isThread]
      exact sparing.harmless other

/-- A delivery looks up the order of a job nobody else delivers and for which
nothing was accepted. -/
theorem Sparing.enter {jobId : Id} (nobody : ∀ other, (phases other).delivers ≠ some jobId)
    (unsubmitted : submissions world.accepted jobId = 0) (entered : reached.delivers = some jobId)
    (nothing : reached.fills = 0) (harmless : reached.Harmless) :
    Sparing world (Function.update phases thread reached) := by
  refine ⟨sparing.once, sparing.covered, fun first second other left right => ?_,
    fun other owner found => ?_, fun other => ?_⟩
  · by_cases isFirst : first = thread <;> by_cases isSecond : second = thread
    · rw [isFirst, isSecond]
    · rw [isFirst, Function.update_self, entered] at left
      rw [Function.update_of_ne isSecond] at right
      cases left
      exact absurd right (nobody second)
    · rw [isSecond, Function.update_self, entered] at right
      rw [Function.update_of_ne isFirst] at left
      cases right
      exact absurd left (nobody first)
    · rw [Function.update_of_ne isFirst] at left
      rw [Function.update_of_ne isSecond] at right
      exact sparing.alone first second other left right
  · by_cases isThread : other = thread
    · rw [isThread, Function.update_self] at found ⊢
      rw [entered] at found
      cases found
      have covered := sparing.covered jobId
      exact ⟨sparing.once jobId, by omega, fun _ => unsubmitted⟩
    · rw [Function.update_of_ne isThread] at found ⊢
      exact sparing.own other owner found
  · by_cases isThread : other = thread
    · rw [isThread, Function.update_self]
      exact harmless
    · rw [Function.update_of_ne isThread]
      exact sparing.harmless other

theorem Sparing.follow
    (accepted : after.accepted = world.accepted) (applied : after.applied = world.applied)
    (same : reached.delivers = none ∨ reached.delivers = (phases thread).delivers)
    (fewer : reached.fills ≤ (phases thread).fills) (early : reached.Early → (phases thread).Early)
    (harmless : reached.Harmless) : Sparing after (Function.update phases thread reached) := by
  apply sparing.replace
  · intro jobId _
    rw [accepted, applied]
    exact ⟨rfl, rfl⟩
  · exact same
  · intro jobId found
    obtain ⟨once, covered, wasEarly⟩ := sparing.own thread jobId found
    refine ⟨accepted ▸ once, ?_, fun isEarly => accepted ▸ wasEarly (early isEarly)⟩
    rw [accepted, applied]
    omega
  · exact harmless

theorem Sparing.leave
    (accepted : after.accepted = world.accepted) (applied : after.applied = world.applied)
    (outside : reached.delivers = none) (nothing : reached.fills = 0) (late : ¬reached.Early)
    (harmless : reached.Harmless) : Sparing after (Function.update phases thread reached) :=
  sparing.follow accepted applied (.inl outside) (by omega)
    (fun early => absurd early late) harmless

theorem Sparing.submit {payload : QueuePayload} {work : Work}
    (held : phases thread = .working payload work .preparing)
    (accepted : after.accepted = world.accepted ++ [work.job.request])
    (applied : after.applied = world.applied) {step : Step} (fills : step.fills ≤ 1)
    (late : step ≠ .preparing) {work' : Work} (same : work'.job = work.job)
    (position : work'.position = work.position) :
    Sparing after (Function.update phases thread (.working payload work' step)) := by
  have delivers : (phases thread).delivers = some work.job.id := by rw [held]; rfl
  obtain ⟨_, covered, early⟩ := sparing.own thread work.job.id delivers
  have unsubmitted : submissions world.accepted work.job.id = 0 := by
    apply early
    rw [held]
    rfl
  have counted : ∀ jobId, submissions after.accepted jobId =
      submissions world.accepted jobId + if work.job.id = jobId then 1 else 0 := by
    intro jobId
    rw [accepted, submissions_append]
    rfl
  rw [held] at covered
  simp only [Stage.fills, Step.fills] at covered
  apply sparing.replace
  · intro jobId foreign
    have different : work.job.id ≠ jobId := fun isOwn => foreign (isOwn ▸ delivers)
    rw [counted, applied, if_neg different]
    exact ⟨rfl, rfl⟩
  · exact .inr (by rw [delivers, ← same]; rfl)
  · intro jobId found
    rw [delivers] at found
    cases found
    have now := counted work.job.id
    rw [if_pos rfl] at now
    refine ⟨by omega, ?_, fun isEarly => absurd isEarly late⟩
    rw [applied]
    simp only [Stage.fills, position]
    omega
  · trivial

theorem Sparing.apply {payload : QueuePayload} {work : Work}
    {step : Step} (held : phases thread = .working payload work step)
    (accepted : after.accepted = world.accepted)
    (applied : after.applied = world.applied ++ work.changes.filterMap Change.fillJob) :
    Sparing after
      (Function.update phases thread (.working payload work.committed step.committed)) := by
  have delivers : (phases thread).delivers = some work.job.id := by rw [held]; rfl
  have counted : ∀ jobId, after.applied.count jobId = world.applied.count jobId +
      if work.position.isSome ∧ work.job.id = jobId then 1 else 0 := by
    intro jobId
    rw [applied, work.changes_fills, List.count_append]
    cases work.position.isSome <;> simp [List.count_singleton]
  apply sparing.replace
  · intro jobId foreign
    have different : work.job.id ≠ jobId := fun isOwn => foreign (isOwn ▸ delivers)
    rw [accepted, counted, if_neg (fun both => different both.2)]
    exact ⟨rfl, rfl⟩
  · exact .inr (by rw [delivers]; rfl)
  · intro jobId found
    obtain ⟨once, covered, early⟩ := sparing.own thread jobId found
    rw [delivers] at found
    cases found
    have fewer : step.committed.fills ≤ step.fills := by
      cases step <;> simp [Step.committed, Step.fills]
    have now := counted work.job.id
    rw [held] at covered
    simp only [Stage.fills] at covered
    refine ⟨accepted ▸ once, ?_, fun isEarly => ?_⟩
    · rw [accepted]
      simp only [Stage.fills, Work.committed, Option.isSome_none]
      simp only [and_true] at now
      simp only [Bool.false_eq_true, if_false]
      omega
    · rw [accepted]
      apply early
      rw [held]
      cases step <;> first | exact isEarly | exact absurd isEarly Step.noConfusion
  · trivial

end Sparing

section Steps

variable {work held : Work} (step : Step)

theorem Step.raised_fills : step.raised.fills = 0 := by cases step <;> rfl

theorem Step.raised_late : step.raised ≠ .preparing := by cases step <;> exact Step.noConfusion

theorem Step.assigned_late (assigns : step.Assigns work held) : step.assigned ≠ .preparing := by
  cases step with
  | preparing => exact assigns.elim
  | recording states =>
    cases states with
    | nil => exact Step.noConfusion
    | cons state states =>
      by_cases isFill : state = "FILLED" <;> simp [Step.assigned, isFill]
  | _ => exact Step.noConfusion

variable {step}

theorem Step.Assigns.fills (assigns : step.Assigns work held) :
    step.assigned.fills + (if held.position.isSome then 1 else 0) ≤
      step.fills + if work.position.isSome then 1 else 0 := by
  cases step with
  | replied result =>
    cases assigns
    exact le_rfl
  | answered result =>
    obtain ⟨rfl, _⟩ := assigns
    exact le_rfl
  | recording states =>
    cases states with
    | nil => exact assigns.elim
    | cons state states =>
      obtain ⟨moved, _, rfl⟩ := assigns
      apply Nat.add_le_add_right
      by_cases isFill : state = "FILLED"
      · simp [Step.assigned, Step.fills, isFill]
      · simp [Step.assigned, Step.fills, isFill]
  | filled row states =>
    cases assigns
    simp [Step.assigned, Step.fills, Work.synced]
  | _ => exact assigns.elim

end Steps

theorem wrote_applied {database : Database} {changes : List Change}
    (harmless : changes.filterMap Change.fillJob = []) :
    (world.wrote database changes).applied = world.applied := by
  rw [World.wrote, harmless, List.append_nil]

/-- Every move of a careful run keeps the invariant. -/
theorem Sparing.moves (sparing : Sparing world phases) {oracle : Oracle} {command : Command}
    {stage : Stage} (held : phases thread = stage)
    (care : ∀ jobId, command = .orderOfJob jobId →
      (∀ other, (phases other).delivers ≠ some jobId) ∧ submissions world.accepted jobId = 0)
    (moves : Moves world oracle stage command after reached) :
    Sparing after (Function.update phases thread reached) := by
  cases moves with
  | rests | assigns =>
    rw [← held, Function.update_eq_self]
    exact sparing
  | ends | numbers | checks | enqueues | pops | finds | defers =>
    exact sparing.leave rfl rfl rfl rfl id trivial
  | inserts request id key side size database positive fresh =>
    exact sparing.leave rfl rfl rfl rfl (fun early => early) trivial
  | saves | rejects | accepts =>
    exact sparing.leave rfl (wrote_applied (saveJob_fills _ _)) rfl rfl id trivial
  | opens payload job | misses payload job =>
    obtain ⟨nobody, unsubmitted⟩ := care job.id rfl
    exact sparing.enter nobody unsubmitted rfl rfl trivial
  | names | creates =>
    exact sparing.follow rfl rfl (.inr (held ▸ rfl)) (Nat.zero_le _)
      (fun _ => held ▸ trivial) trivial
  | lists limit orders distinct listed => exact sparing.leave rfl rfl rfl rfl id rfl
  | asks | skips =>
    have harmless : Stage.Harmless _ := held ▸ sparing.harmless thread
    exact sparing.leave rfl rfl rfl rfl id harmless
  | corrects order payload orders changes named differs =>
    have harmless : Stage.Harmless _ := held ▸ sparing.harmless thread
    apply sparing.leave rfl rfl rfl rfl id
    simpa [Stage.Harmless, Change.fillJob] using harmless
  | follows order payload orders changes job found followed =>
    have harmless : Stage.Harmless _ := held ▸ sparing.harmless thread
    apply sparing.leave rfl rfl rfl rfl id
    simp only [Stage.Harmless] at harmless ⊢
    rw [List.filterMap_append, harmless, saveJob_fills, List.append_nil]
  | writes current changes database committed =>
    have harmless : Stage.Harmless _ := held ▸ sparing.harmless thread
    exact sparing.leave rfl (wrote_applied harmless) rfl rfl id trivial
  | raises payload work step command accepted cause taken pauses =>
    have position : (work.hurt command).position = work.position := by
      unfold Work.hurt
      split <;> rfl
    have job : (work.hurt command).job = work.job := by
      unfold Work.hurt
      split <;> rfl
    rcases taken with rfl | ⟨rfl, rfl⟩
    · apply sparing.follow rfl rfl
      · exact .inr (by rw [held]; exact congrArg (fun job => some job.id) job)
      · rw [held]
        simp only [Stage.fills, position]
        exact Nat.add_le_add_right (step.raised_fills.trans_le (Nat.zero_le _)) _
      · exact fun early => absurd early step.raised_late
      · trivial
    · apply sparing.submit held
      · rfl
      · rfl
      · exact Nat.zero_le _
      · exact Step.noConfusion
      · exact job
      · exact position
  | holds payload work next step assigns =>
    apply sparing.follow rfl rfl
    · exact .inr (by rw [held]; exact congrArg some assigns.sameJob.1)
    · rw [held]
      exact assigns.fills
    · exact fun early => absurd early (step.assigned_late assigns)
    · trivial
  | handles payload work step failure fresh canFail =>
    apply sparing.follow rfl rfl
    · exact .inr (held ▸ rfl)
    · rw [held]
      exact Nat.add_le_add_right (Nat.zero_le _) _
    · exact fun early => absurd early Step.noConfusion
    · trivial
  | commits payload work step database usable commits committed =>
    exact sparing.apply held rfl rfl
  | rereads payload work step row usable expired found =>
    have same : row.id = work.job.id := (Database.findJob_some.mp found).2
    apply sparing.follow rfl rfl
    · exact .inr (by rw [held]; exact congrArg some same)
    · rw [held]
      exact le_rfl
    · exact fun early => held ▸ early
    · trivial
  | reopens payload work step row usable expired found =>
    apply sparing.follow rfl rfl
    · exact .inr (held ▸ rfl)
    · rw [held]
      exact le_rfl
    · exact fun early => held ▸ early
    · trivial
  | losesJob payload work step | losesOrder payload work step =>
    apply sparing.follow rfl rfl
    · exact .inr (held ▸ rfl)
    · rw [held]
      exact Nat.add_le_add_right (step.raised_fills.trans_le (Nat.zero_le _)) _
    · exact fun early => absurd early step.raised_late
    · trivial
  | locates payload work states =>
    apply sparing.follow rfl rfl
    · exact .inr (held ▸ rfl)
    · rw [held]
      exact le_rfl
    · exact fun early => absurd early Step.noConfusion
    · trivial
  | submits payload work sound =>
    apply sparing.submit held
    · rfl
    · rfl
    · exact mapStatusToStates_fills _
    · exact Step.noConfusion
    · rfl
    · rfl
  | pushes payload pushed work fresh unfinished same =>
    apply sparing.follow
    · rfl
    · rfl
    · exact .inr (held ▸ rfl)
    · rw [held]
    · exact fun early => absurd early Step.noConfusion
    · trivial

end Invariant

theorem sparing_step (view next : View services World Task Stage)
    (sparing : Sparing view.world view.phases)
    (step : View.Step engine stages careful (fun _ => True) (fun _ _ => True) view next) :
    Sparing next.world next.phases := by
  have stopped : ∀ thread, Sparing view.world (Function.update view.phases thread .idle) :=
    fun thread => sparing.leave rfl rfl rfl rfl id trivial
  cases step with
  | started thread task idle permitted =>
    cases task <;> exact sparing.leave rfl rfl rfl rfl id trivial
  | performed thread oracle command allowed permitted =>
    exact sparing.moves rfl permitted (view.world.perform_moves oracle _ command allowed)
  | returned thread | raised thread | crashed thread => exact stopped thread

abbrev SignalMachine : Type := Machine services World Task

/-- The order of a job may be looked up when nothing was accepted and the
delivery is alone. -/
def looksUpFirst (machine : SignalMachine) : Label Oracle Task → Bool
  | .run thread _ =>
      match machine.threads thread with
      | some ⟨_, _, .orderOfJob _, _⟩ =>
          machine.world.accepted.isEmpty &&
            (stages.phaseOf (machine.threads thread)).delivers.isNone
      | _ => true
  | _ => true

theorem looksUpFirst_careful (machine : SignalMachine) (label : Label Oracle Task)
    (lone : machine.Lone label.thread) (tested : looksUpFirst machine label = true) :
    careful.Permits engine stages machine label := by
  cases label with
  | start thread task => exact ⟨trivial, fun _ _ => trivial⟩
  | run thread oracle =>
    refine fun running found => ⟨fun jobId looksUp => ?_, fun _ _ => trivial⟩
    obtain ⟨task, past, command, next⟩ := running
    cases looksUp
    simp only [looksUpFirst, found, Bool.and_eq_true, List.isEmpty_iff,
      Option.isNone_iff_eq_none] at tested
    obtain ⟨nothing, outside⟩ := tested
    refine ⟨fun other => ?_, by simp [Machine.view, nothing, submissions]⟩
    by_cases isThread : other = thread
    · subst isThread
      simp only [Machine.view, found, outside]
      exact fun same => by cases same
    · have idle : machine.threads other = none := lone other isThread
      simp only [Machine.view, idle]
      exact fun same => by cases same
  | crash thread => exact trivial

def oneJob : World := .boot ⟨⟨[sampleJob], [], []⟩, by decide⟩

def oneDelivery : List (Label Oracle Task) :=
  .start 0 (.deliver sampleJob.payload) :: runs 0 27 steady

/-- The adapter raises after the exchange took the order, and the retry finds
the order as it was. -/
def twoDeliveries : List (Label Oracle Task) :=
  .start 0 (.deliver sampleJob.payload) :: runs 0 7 steady ++
    runs 0 1 { raising with accepts := true } ++ runs 0 8 steady ++
    .start 0 .consume :: runs 0 25 { steady with time := 1000 }

end Signal
