import CoinRobotu.Signal.AtMostOnce
import CoinRobotu.Signal.Sessions

/-!
# Terminal jobs stay terminal

The terminal check at the entry of a delivery reads the committed state of the
job, and the handler of a delivery also runs when something raised after the
job became terminal in memory or in the table. Then it commits the job as failed
over a fill, or enqueues a filled job again. A run is orderly when a job is read
only while no other delivery of it runs, and when nothing outside of the session
raises while the session holds a job as filled or canceled.
-/

open Interleaving

namespace Signal

open Runtime (upper)

def Stage.job : Stage → Option Id
  | .found _ job => some job.id
  | .ordering _ job => some job.id
  | .inserting _ job _ => some job.id
  | .working _ work _ => some work.job.id
  | _ => none

/-- The session holds the job as filled or canceled, and a failure would not
spend the last retry of a job that is not committed as terminal yet. -/
def Work.Delicate (work : Work) : Prop :=
  work.job.state ∈ ["FILLED", "CANCELED"] ∧
    ¬(work.storedJob.state ∉ terminalStates ∧ work.job.maxRetry ≤ work.job.retryCount + 1)

/-- Deliveries only; a job is read while no other delivery of it runs, and in a
delicate session only commands of the session raise. -/
def orderly : Discipline services World Oracle Task Stage where
  starts _ _ task := (∃ payload, task = .deliver payload) ∨ task = .consume
  runs view thread oracle command :=
    (∀ id, command = .findJob id → ∀ other, (view.phases other).job = some id → other = thread) ∧
    ∀ payload work step, view.phases thread = .working payload work step → work.Delicate →
      oracle.fault = none ∨ command.ofSession = true
  dies _ _ := True

section States

/-- States that a job may go through one after another: only the last is terminal. -/
def Ends (states : List String) : Prop :=
  (∀ state ∈ states, state ∈ orderStates) ∧ ∀ state ∈ states.dropLast, state ∉ terminalStates

theorem mapStatusToStates_ends (status : String) : Ends (mapStatusToStates status) := by
  have shaped : ∀ states ∈ [["SENT"], ["SENT", "PARTIALLY_FILLED"], ["SENT", "FILLED"],
      ["SENT", "CANCELED"], ["SENT", "FAILED"]],
      (∀ state ∈ states, state ∈ orderStates) ∧ ∀ state ∈ states.dropLast, state ∉
        terminalStates := by
    decide
  exact shaped _ (mapStatusToStates_mem status)

theorem Ends.first {state next : String} {states : List String}
    (ends : Ends (state :: next :: states)) : state ∉ terminalStates :=
  ends.2 state (by simp)

variable {state : String}

theorem Ends.rest {states : List String} (ends : Ends (state :: states)) :
    Ends states := by
  refine ⟨fun other inside => ends.1 other (List.mem_cons_of_mem _ inside), fun other inside => ?_⟩
  apply ends.2 other
  cases states with
  | nil => cases inside
  | cons next states => exact List.mem_cons_of_mem _ inside

theorem upper_listed (listed : state ∈ orderStates) : upper state = state := by
  have same : ∀ state ∈ orderStates, upper state = state := by decide +kernel
  exact same state listed

theorem listed_of_terminal (terminal : state ∈ terminalStates) :
    state ∈ ["FILLED", "CANCELED"] ∨ state = "FAILED" := by
  simp only [terminalStates, List.mem_cons, List.not_mem_nil, or_false] at terminal ⊢
  tauto

theorem terminal_of_delicate (delicate : state ∈ ["FILLED", "CANCELED"]) :
    state ∈ terminalStates := by
  simp only [terminalStates, List.mem_cons, List.not_mem_nil, or_false] at delicate ⊢
  tauto

end States

section Sessions

/-- What a step says of the state of the session's job. -/
def Step.Fits (work : Work) : Step → Prop
  | .preparing => work.job.state ∉ terminalStates
  | .replied result => work.job.state ∉ terminalStates ∧ Ends result.states
  | .answered result => work.job.state ∉ terminalStates ∧ Ends result.states
  | .recording [] => True
  | .recording (state :: states) => work.job.state ∉ terminalStates ∧ Ends (state :: states)
  | .filling states => states = []
  | .filled _ states => states = []
  | .closed => True
  | .raising => work.broken = true ∨ ¬work.Delicate
  | .failed => work.broken = true ∨ work.job.state ∉ ["FILLED", "CANCELED"]
  | .handled => work.job.state ∉ ["FILLED", "CANCELED"] ∧ work.job.state = work.storedJob.state

theorem Step.fits_recording {work : Work} {states : List String}
    (undecided : work.job.state ∉ terminalStates) (ends : Ends states) :
    Step.Fits work (.recording states) := by
  cases states with
  | nil => trivial
  | cons state states => exact ⟨undecided, ends⟩

/-- Once the job is committed as terminal, the session changes no state any more. -/
structure Settled (work : Work) (step : Step) : Prop where
  ended : step = .closed ∨ step = .raising ∨ step = .failed ∨ step = .handled
  job : work.broken = false → work.job.state = work.storedJob.state
  order : work.broken = false → ∃ stored, work.storedOrder = some stored ∧
    work.order.state = stored.state
  position : work.broken = false → work.position = none

/-- What holds of a delivery that works on a session. -/
structure Delivering (database : Database) (payload : QueuePayload) (work : Work) (step : Step) :
    Prop where
  named : payload.executionJobId = some work.job.id
  held : Held database work
  listed : work.job.state ∈ orderStates
  fits : step.Fits work
  settled : work.storedJob.state ∈ terminalStates → Settled work step
  reopened : work.orderExpired = true → ∃ stored, work.storedOrder = some stored
  opens : ∀ row position, work.position = some (row, position) → position.status = "open"

variable {world : World} {payload : QueuePayload} {work held : Work} {step : Step}

theorem Delivering.undecided (delivering : Delivering world.database payload work step)
    (early : step ≠ .closed ∧ step ≠ .raising ∧ step ≠ .failed ∧ step ≠ .handled) :
    work.storedJob.state ∉ terminalStates := by
  intro terminal
  obtain ⟨notClosed, notRaising, notFailed, notHandled⟩ := early
  rcases (delivering.settled terminal).ended with closed | raising | failed | handled
  · exact notClosed closed
  · exact notRaising raising
  · exact notFailed failed
  · exact notHandled handled

/-- The assignments of the `try` block. -/
theorem Delivering.assigns (delivering : Delivering world.database payload work step)
    (assigns : step.Assigns work held) :
    Delivering world.database payload held step.assigned := by
  have undecided : work.storedJob.state ∉ terminalStates := by
    apply delivering.undecided
    cases step <;> first | exact assigns.elim | simp
  have same : held.storedJob = work.storedJob ∧ held.job.id = work.job.id ∧
      held.orderExpired = work.orderExpired ∧ held.storedOrder = work.storedOrder := by
    cases step with
    | recording states =>
      cases states with
      | nil => exact assigns.elim
      | cons state states =>
        obtain ⟨moved, _, rfl⟩ := assigns
        exact ⟨rfl, rfl, rfl, rfl⟩
    | answered result =>
      obtain ⟨rfl, _⟩ := assigns
      exact ⟨rfl, rfl, rfl, rfl⟩
    | replied | filled =>
      cases assigns
      exact ⟨rfl, rfl, rfl, rfl⟩
    | _ => exact assigns.elim
  obtain ⟨storedJob, jobId, orderExpired, storedOrder⟩ := same
  have fits := delivering.fits
  have listed : held.job.state ∈ orderStates ∧ step.assigned.Fits held ∧
      ∀ row position, held.position = some (row, position) → position.status = "open" := by
    cases step with
    | replied result =>
      cases assigns
      exact ⟨delivering.listed, fits, delivering.opens⟩
    | answered result =>
      obtain ⟨rfl, _⟩ := assigns
      exact ⟨delivering.listed, Step.fits_recording fits.1 fits.2, delivering.opens⟩
    | recording states =>
      cases states with
      | nil => exact assigns.elim
      | cons state states =>
        obtain ⟨moved, _, rfl⟩ := assigns
        obtain ⟨_, ends⟩ := fits
        refine ⟨ends.1 state (List.mem_cons_self), ?_, delivering.opens⟩
        cases states with
        | nil => by_cases isFill : state = "FILLED" <;> simp [Step.assigned, isFill, Step.Fits]
        | cons next states =>
          have undecided : state ∉ terminalStates := ends.first
          have notFill : state ≠ "FILLED" := by
            rintro rfl
            exact undecided (by simp [terminalStates])
          rw [Step.assigned, if_neg notFill]
          exact Step.fits_recording undecided ends.rest
    | filled row states =>
      cases assigns
      cases (fits : states = [])
      refine ⟨delivering.listed, trivial, fun row' position isHeld => ?_⟩
      cases isHeld
      cases row <;> rfl
    | _ => exact assigns.elim
  obtain ⟨listed, fits, opens⟩ := listed
  exact
    { named := jobId ▸ delivering.named
      held := delivering.held.assigns assigns
      listed
      fits
      settled := fun terminal => absurd (storedJob ▸ terminal) undecided
      reopened := by
        rw [orderExpired, storedOrder]
        exact delivering.reopened
      opens }

theorem afterFailure_state (job : ExecutionJob) (failure : String) :
    (job.afterFailure failure).state = "FAILED" ∧ job.maxRetry ≤ job.retryCount + 1 ∨
      (job.afterFailure failure).state = job.state ∧ ¬job.maxRetry ≤ job.retryCount + 1 := by
  unfold ExecutionJob.afterFailure
  dsimp only
  split
  · rename_i spent
    exact .inl ⟨rfl, spent⟩
  · rename_i left
    exact .inr ⟨rfl, left⟩

section Delivery

variable (delivering : Delivering world.database payload work step)

include delivering

/-- The assignments of the handler. -/
theorem Delivering.handles (failure : String) (canFail : work.broken = true ∨ step.MayRaise work) :
    Delivering world.database payload (work.failed failure) .failed := by
  have fits := delivering.fits
  have state := afterFailure_state work.job failure
  -- Where the handler may start in a sound session, the job is undecided or not delicate.
  have calm : work.broken = true ∨ ¬work.Delicate := by
    rcases canFail with broken | mayRaise
    · exact .inl broken
    · cases step with
      | preparing => exact .inr fun delicate => fits (terminal_of_delicate delicate.1)
      | raising => exact fits
      | recording states =>
        cases states with
        | nil => exact mayRaise.elim
        | cons state states => exact .inr fun delicate => fits.1 (terminal_of_delicate delicate.1)
      | _ => exact mayRaise.elim
  refine
    { named := delivering.named
      held := delivering.held.failed failure
      listed := ?_
      fits := ?_
      settled := fun terminal => ⟨.inr (.inr (.inl rfl)), fun usable => ?_, ?_, ?_⟩
      reopened := delivering.reopened
      opens := delivering.opens }
  · rcases state with ⟨failed, _⟩ | ⟨same, _⟩
    · exact failed ▸ (by decide)
    · exact same ▸ delivering.listed
  · rcases calm with broken | calm
    · exact .inl broken
    · right
      rcases state with ⟨failed, _⟩ | ⟨same, left⟩
      · change (work.job.afterFailure failure).state ∉ _
        rw [failed]
        decide
      · change (work.job.afterFailure failure).state ∉ _
        rw [same]
        exact fun delicate => calm ⟨delicate, fun spent => left spent.2⟩
  · have settled := delivering.settled terminal
    have unchanged := settled.job usable
    have sound : work.broken = false := usable
    have calm : ¬work.Delicate := calm.resolve_left (by simp [sound])
    have isFailed : work.job.state = "FAILED" := by
      rcases listed_of_terminal (unchanged ▸ terminal) with delicate | isFailed
      · exact absurd ⟨delicate, fun spent => spent.1 terminal⟩ calm
      · exact isFailed
    change (work.job.afterFailure failure).state = work.storedJob.state
    rcases state with ⟨failed, _⟩ | ⟨same, _⟩
    · rw [failed, ← unchanged, isFailed]
    · rw [same, unchanged]
  · exact (delivering.settled terminal).order
  · exact (delivering.settled terminal).position

theorem Delivering.commits
    {database : Database} (usable : work.broken = false) (commits : step.Commits)
    (committed : world.database.commit work.changes = .ok database) :
    Delivering database payload work.committed step.committed := by
  have fits := delivering.fits
  have sound : ¬work.broken = true := by simp [usable]
  refine
    { named := delivering.named
      held := delivering.held.commits committed
      listed := delivering.listed
      fits := ?_
      settled := fun terminal => ⟨?_, fun _ => rfl, fun _ => ⟨work.order, rfl, rfl⟩, fun _ => rfl⟩
      reopened := fun _ => ⟨work.order, rfl⟩
      opens := nofun }
  · cases step with
    | answered result => exact fits
    | recording states =>
      cases (commits : states = [])
      trivial
    | closed => trivial
    | failed => exact ⟨fits.resolve_left sound, rfl⟩
    | handled => exact ⟨fits.1, rfl⟩
    | _ => exact commits.elim
  · cases step with
    | answered result => exact absurd terminal fits.1
    | recording | closed => exact .inl rfl
    | failed | handled => exact .inr (.inr (.inr rfl))
    | _ => exact commits.elim

/-- A command raised, and the session was not delicate or is lost. -/
theorem Delivering.raises (command : Command) (calm : command.ofSession = true ∨ ¬work.Delicate) :
    Delivering world.database payload (work.hurt command) step.raised := by
  have hurt : work.hurt command = work ∨
      command.ofSession = true ∧ work.hurt command = { work with broken := true } := by
    unfold Work.hurt
    by_cases ofSession : command.ofSession = true
    · exact .inr ⟨ofSession, if_pos ofSession⟩
    · exact .inl (if_neg ofSession)
  have fits := delivering.fits
  have raised : step.raised = .raising ∨ step = .failed ∨ step = .handled := by
    cases step <;> simp [Step.raised]
  have reached : step.raised.Fits (work.hurt command) := by
    rcases raised with raising | rfl | rfl
    · rw [raising]
      rcases calm with ofSession | calm
      · left
        rw [Work.hurt, if_pos ofSession]
      · rcases hurt with same | ⟨_, lost⟩
        · rw [same]
          exact .inr calm
        · exact .inl (by rw [lost])
    · rcases hurt with same | ⟨_, lost⟩
      · rw [same]
        exact fits
      · exact .inl (by rw [lost])
    · rcases hurt with same | ⟨_, lost⟩
      · rw [same]
        exact fits
      · rw [lost]
        exact fits
  have ended : work.storedJob.state ∈ terminalStates →
      step.raised = .closed ∨ step.raised = .raising ∨ step.raised = .failed ∨
        step.raised = .handled := by
    intro _
    rcases raised with raising | rfl | rfl
    · exact .inr (.inl raising)
    · exact .inr (.inr (.inl rfl))
    · exact .inr (.inr (.inr rfl))
  rcases hurt with same | ⟨_, lost⟩
  · rw [same] at reached ⊢
    exact { delivering with
      fits := reached
      settled := fun terminal =>
        ⟨ended terminal, (delivering.settled terminal).job, (delivering.settled terminal).order,
          (delivering.settled terminal).position⟩ }
  · rw [lost] at reached ⊢
    exact
      { named := delivering.named
        held := lost ▸ delivering.held.hurt command
        listed := delivering.listed
        fits := reached
        settled := fun terminal =>
          ⟨ended terminal, nofun, nofun, nofun⟩
        reopened := delivering.reopened
        opens := delivering.opens }

/-- The job is read again, and is the one that is stored. -/
theorem Delivering.rereads {row : ExecutionJob} (usable : work.broken = false)
    (listed : ∀ job ∈ world.database.jobs, job.state ∈ orderStates)
    (found : world.database.findJob work.job.id = some row) :
    Delivering world.database payload
      { work with storedJob := row, job := row, jobExpired := false } step := by
  have same : work.storedJob = row := Option.some.inj (delivering.held.job.symm.trans found)
  obtain ⟨inside, id⟩ := Database.findJob_some.mp found
  have undecided : step ≠ .closed ∧ step ≠ .raising ∧ step ≠ .failed ∧ step ≠ .handled →
      row.state ∉ terminalStates := fun early => same ▸ delivering.undecided early
  have fits := delivering.fits
  -- A committed terminal state is the one the session has.
  have unchanged : row.state ∈ terminalStates → work.job.state = row.state := fun terminal =>
    same ▸ (delivering.settled (same.symm ▸ terminal)).job usable
  refine
    { named := by rw [delivering.named, ← id]
      held := delivering.held.reread found
      listed := listed row inside
      fits := ?_
      settled := fun terminal =>
        ⟨(delivering.settled (same ▸ terminal)).ended, fun _ => rfl,
          (delivering.settled (same ▸ terminal)).order,
          (delivering.settled (same ▸ terminal)).position⟩
      reopened := delivering.reopened
      opens := delivering.opens }
  have sound : ¬work.broken = true := by simp [usable]
  cases step with
  | preparing => exact undecided (by simp)
  | replied | answered => exact ⟨undecided (by simp), fits.2⟩
  | recording states =>
    cases states with
    | nil => trivial
    | cons state states => exact ⟨undecided (by simp), fits.2⟩
  | filling | filled => exact fits
  | closed => trivial
  | raising =>
    right
    rintro ⟨delicate, _⟩
    have terminal := terminal_of_delicate delicate
    refine fits.resolve_left sound ⟨unchanged terminal ▸ delicate, fun spent => spent.1 ?_⟩
    exact same.symm ▸ terminal
  | failed =>
    right
    intro delicate
    exact fits.resolve_left sound (unchanged (terminal_of_delicate delicate) ▸ delicate)
  | handled =>
    refine ⟨fun delicate => fits.1 (unchanged (terminal_of_delicate delicate) ▸ delicate), rfl⟩

theorem Delivering.reopens {row : Order} (expired : work.orderExpired = true)
    (found : world.database.findOrder work.order.id = some row) :
    Delivering world.database payload
      { work with storedOrder := some row, order := row, orderExpired := false } step :=
  { named := delivering.named
    held := delivering.held.reopen (delivering.reopened expired) found
    listed := delivering.listed
    fits := by
      have fits := delivering.fits
      cases step with
      | recording states => cases states <;> exact fits
      | _ => exact fits
    settled := fun terminal =>
      ⟨(delivering.settled terminal).ended, (delivering.settled terminal).job,
        fun _ => ⟨row, rfl, rfl⟩, (delivering.settled terminal).position⟩
    reopened := nofun
    opens := delivering.opens }

theorem Delivering.continues
    {next : Step} (early : step ≠ .closed ∧ step ≠ .raising ∧ step ≠ .failed ∧ step ≠ .handled)
    (fits : next.Fits work) : Delivering world.database payload work next :=
  { delivering with
    fits
    settled := fun terminal => absurd terminal (delivering.undecided early) }

theorem Delivering.frame {database : Database} {other : Work} (others : Held world.database other)
    (committed : world.database.commit other.changes = .ok database)
    (foreign : work.job.id ≠ other.job.id) : Delivering database payload work step := by
  have job : database.findJob work.job.id = world.database.findJob work.job.id := by
    rw [others.commit_job committed]
    exact if_neg foreign
  have order : ∀ stored, work.storedOrder = some stored →
      database.findOrder work.order.id = world.database.findOrder work.order.id := by
    intro stored isStored
    have found := delivering.held.order stored isStored
    rw [found]
    apply others.commit_otherOrder committed found
    rw [← (delivering.held.keepsOrder stored isStored).executionJobId, delivering.held.owner]
    exact foreign
  exact { delivering with held := delivering.held.frame job order }

end Delivery

end Sessions

section Invariant

/-- What holds of a delivery that has read its job and not its order. -/
structure Waiting (database : Database) (payload : QueuePayload) (job : ExecutionJob) : Prop where
  named : payload.executionJobId = some job.id
  found : database.findJob job.id = some job
  listed : job.state ∈ orderStates
  unfinished : job.state ∉ terminalStates

/-- What holds of a stage of a delivery. -/
def Stage.Sound (database : Database) : Stage → Prop
  | .idle => True
  | .quiet => True
  | .fetching => True
  | .looking _ => True
  | .found payload job => Waiting database payload job
  | .ordering payload job => Waiting database payload job
  | .inserting payload job order =>
      Waiting database payload job ∧ order.executionJobId = job.id
  | .working payload work step => Delivering database payload work step
  | _ => False

/-- What an orderly run keeps: at most one delivery works on a job, and its
session agrees with the tables. -/
structure Orderly (world : World) (phases : Thread → Stage) : Prop where
  listed : ∀ job ∈ world.database.jobs, job.state ∈ orderStates
  alone : ∀ thread other id, (phases thread).job = some id → (phases other).job = some id →
    thread = other
  sound : ∀ thread, (phases thread).Sound world.database

variable {world after : World} {phases : Thread → Stage} {thread : Thread} {reached : Stage}
  {oracle : Oracle} {command : Command}

theorem Orderly.replace (orderly : Orderly world phases)
    (listed : ∀ job ∈ after.database.jobs, job.state ∈ orderStates)
    (same : ∀ id, reached.job = some id → (phases thread).job = some id)
    (others : ∀ other, other ≠ thread → (phases other).Sound after.database)
    (sound : reached.Sound after.database) :
    Orderly after (Function.update phases thread reached) := by
  have former : ∀ {other id}, (Function.update phases thread reached other).job = some id →
      (phases other).job = some id := by
    intro other id found
    by_cases isThread : other = thread
    · subst isThread
      rw [Function.update_self] at found
      exact same id found
    · rw [Function.update_of_ne isThread] at found
      exact found
  refine ⟨listed, fun first second id left right =>
    orderly.alone first second id (former left) (former right), fun other => ?_⟩
  by_cases isThread : other = thread
  · subst isThread
    rw [Function.update_self]
    exact sound
  · rw [Function.update_of_ne isThread]
    exact others other isThread

theorem Orderly.continue (orderly : Orderly world phases)
    (database : after.database = world.database)
    (same : ∀ id, reached.job = some id → (phases thread).job = some id)
    (sound : reached.Sound world.database) :
    Orderly after (Function.update phases thread reached) :=
  orderly.replace (database ▸ orderly.listed) same
    (fun other _ => database ▸ orderly.sound other) (database ▸ sound)

theorem Orderly.reads (orderly : Orderly world phases) {payload : QueuePayload} {job : ExecutionJob}
    (waiting : Waiting world.database payload job)
    (nobody : ∀ other, (phases other).job = some job.id → other = thread) :
    Orderly world (Function.update phases thread (.found payload job)) := by
  have owner :
      ∀ {other id}, (Function.update phases thread (.found payload job) other).job = some id →
      id = job.id → other = thread := by
    intro other id found isOwn
    by_cases isThread : other = thread
    · exact isThread
    · rw [Function.update_of_ne isThread] at found
      exact nobody other (isOwn ▸ found)
  refine ⟨orderly.listed, fun first second id left right => ?_, fun other => ?_⟩
  · by_cases isOwn : id = job.id
    · rw [owner left isOwn, owner right isOwn]
    · have foreign :
          ∀ {other}, (Function.update phases thread (.found payload job) other).job = some id →
          (phases other).job = some id := by
        intro other found
        by_cases isThread : other = thread
        · rw [isThread, Function.update_self] at found
          cases found
          exact absurd rfl isOwn
        · rw [Function.update_of_ne isThread] at found
          exact found
      exact orderly.alone first second id (foreign left) (foreign right)
  · by_cases isThread : other = thread
    · rw [isThread, Function.update_self]
      exact waiting
    · rw [Function.update_of_ne isThread]
      exact orderly.sound other

theorem Stage.Sound.frame {stage : Stage} (sound : stage.Sound world.database) {work : Work}
    {database : Database} (held : Held world.database work)
    (committed : world.database.commit work.changes = .ok database)
    (foreign : stage.job ≠ some work.job.id) : stage.Sound database := by
  have waiting : ∀ {payload job}, Waiting world.database payload job →
      some job.id ≠ some work.job.id →
      Waiting database payload job := by
    intro payload job waiting other
    refine { waiting with found := ?_ }
    rw [held.commit_job committed, if_neg (fun same => other (congrArg some same))]
    exact waiting.found
  cases stage with
  | found | ordering => exact waiting sound foreign
  | inserting payload job order => exact ⟨waiting sound.1 foreign, sound.2⟩
  | working payload other step =>
    exact Delivering.frame sound held committed fun same => foreign (congrArg some same)
  | _ => exact sound

/-- Every move of an orderly run keeps the invariant. -/
theorem Orderly.moves (orderly : Orderly world phases) {stage : Stage}
    (held : phases thread = stage)
    (alone : ∀ id, command = .findJob id → ∀ other, (phases other).job = some id → other = thread)
    (calm : ∀ payload work step, stage = .working payload work step → work.Delicate →
      oracle.fault = none ∨ command.ofSession = true)
    (moves : Moves world oracle stage command after reached) :
    Orderly after (Function.update phases thread reached) := by
  have sound : stage.Sound world.database := held ▸ orderly.sound thread
  have nothing : ∀ {stage : Stage}, stage.job = none → ∀ id, stage.job = some id →
      (phases thread).job = some id := by
    intro stage none id some
    rw [none] at some
    cases some
  cases moves with
  | rests | assigns =>
    rw [← held, Function.update_eq_self]
    exact orderly
  | ends | pops | defers => exact orderly.continue rfl (nothing rfl) trivial
  | finds payload job named found unfinished =>
    have listed := orderly.listed job (Database.findJob_some.mp found).1
    have waiting : Waiting world.database payload job :=
      ⟨named, found, listed, upper_listed listed ▸ unfinished⟩
    exact orderly.reads waiting fun other => alone job.id rfl other
  | opens payload job order found =>
    obtain ⟨inside, owner⟩ := Database.orderOfJob_some found
    have waiting : Waiting world.database payload job := sound
    apply orderly.continue rfl (fun id same => held ▸ same)
    exact
      { named := waiting.named
        held := Held.opened waiting.found
          (fun row isStored => ⟨(Option.some.inj isStored).symm, inside⟩) owner
        listed := waiting.listed
        fits := waiting.unfinished
        settled := fun terminal => absurd terminal waiting.unfinished
        reopened := nofun
        opens := nofun }
  | misses | pushes payload pushed work fresh unfinished same =>
    exact orderly.continue rfl (fun id same => held ▸ same) sound
  | names payload job => exact orderly.continue rfl (fun id same => held ▸ same) ⟨sound, rfl⟩
  | creates payload job order database fresh =>
    obtain ⟨waiting, owner⟩ := sound
    apply orderly.continue rfl (fun id same => held ▸ same)
    exact
      { named := waiting.named
        held := Held.opened waiting.found nofun owner
        listed := waiting.listed
        fits := waiting.unfinished
        settled := fun terminal => absurd terminal waiting.unfinished
        reopened := nofun
        opens := nofun }
  | raises payload work step command accepted cause taken pauses =>
    have delivering : Delivering world.database payload work step := sound
    have jobId : (work.hurt command).job.id = work.job.id := by
      unfold Work.hurt
      split <;> rfl
    have quiet : command.ofSession = true ∨ ¬work.Delicate := by
      by_cases delicate : work.Delicate
      · rcases calm payload work step rfl delicate with unfailing | ofSession
        · exact .inl (cause.resolve_left fun failing => failing unfailing)
        · exact .inl ofSession
      · exact .inr delicate
    apply orderly.continue
    · rfl
    · intro id same
      rw [held, ← same]
      exact congrArg some jobId.symm
    · exact delivering.raises command quiet
  | holds payload work next step assigns =>
    have delivering : Delivering world.database payload work step := sound
    apply orderly.continue rfl
    · intro id same
      rw [held, ← same]
      exact congrArg some assigns.sameJob.1.symm
    · exact delivering.assigns assigns
  | handles payload work step failure fresh canFail =>
    have delivering : Delivering world.database payload work step := sound
    exact orderly.continue rfl (fun id same => held ▸ same) (delivering.handles failure canFail)
  | commits payload work step database usable commits committed =>
    have delivering : Delivering world.database payload work step := sound
    apply orderly.replace
    · intro job inside
      rcases delivering.held.commit_jobs committed inside with rfl | before
      · exact delivering.listed
      · exact orderly.listed job before
    · exact fun id same => held ▸ same
    · intro other different
      apply (orderly.sound other).frame delivering.held committed
      intro same
      exact different (orderly.alone other thread _ same (held ▸ rfl))
    · exact delivering.commits usable commits committed
  | rereads payload work step row usable expired found =>
    have delivering : Delivering world.database payload work step := sound
    have id : row.id = work.job.id := (Database.findJob_some.mp found).2
    apply orderly.continue rfl
    · intro other same
      rw [held, ← same]
      exact congrArg some id.symm
    · exact delivering.rereads usable orderly.listed found
  | reopens payload work step row usable expired found =>
    have delivering : Delivering world.database payload work step := sound
    exact orderly.continue rfl (fun id same => held ▸ same) (delivering.reopens expired found)
  | losesJob payload work step absent =>
    have delivering : Delivering world.database payload work step := sound
    have found := delivering.held.job
    rw [absent] at found
    cases found
  | losesOrder payload work step expired absent =>
    have delivering : Delivering world.database payload work step := sound
    obtain ⟨stored, isStored⟩ := delivering.reopened expired
    have found := delivering.held.order stored isStored
    rw [absent] at found
    cases found
  | locates payload work states =>
    have delivering : Delivering world.database payload work (.filling states) := sound
    apply orderly.continue rfl (fun id same => held ▸ same)
    exact delivering.continues (by simp) delivering.fits
  | submits payload work unfailing =>
    have delivering : Delivering world.database payload work .preparing := sound
    apply orderly.continue
    · rfl
    · exact fun id same => held ▸ same
    · exact delivering.continues (by simp) ⟨delivering.fits, mapStatusToStates_ends _⟩
  | _ => exact sound.elim

end Invariant

section Retention

/-- What stays of a job, its order and its fill from one state to a later one. -/
structure Retained (jobId : Id) (before after : World) : Prop where
  job : ∀ job, before.database.findJob jobId = some job →
    ∃ now, after.database.findJob jobId = some now ∧ now.state = job.state
  order : ∀ id order, before.database.findOrder id = some order → order.executionJobId = jobId →
    ∃ now, after.database.findOrder id = some now ∧ now.executionJobId = jobId ∧
      now.state = order.state
  position : ∀ positionId position, before.database.findPosition positionId = some position →
    position.status = "open" →
      ∃ now, after.database.findPosition positionId = some now ∧ now.status = "open"
  fills : after.applied.count jobId = before.applied.count jobId

def Enqueues (jobId : Id) (event : services.Event) : Prop :=
  ∃ payload, event.1 = .rpush payload ∧ payload.executionJobId = some jobId

variable {world middle after : World} {phases : Thread → Stage} {thread : Thread}
  {oracle : Oracle} {command : Command} {reached : Stage} {jobId : Id}

theorem Retained.of_same (database : after.database = world.database)
    (applied : after.applied = world.applied) : Retained jobId world after where
  job job found := ⟨job, database ▸ found, rfl⟩
  order id order found owner := ⟨order, database ▸ found, owner, rfl⟩
  position positionId position found isOpen := ⟨position, database ▸ found, isOpen⟩
  fills := by rw [applied]

theorem Retained.trans (first : Retained jobId world middle)
    (second : Retained jobId middle after) :
    Retained jobId world after where
  job job found := by
    obtain ⟨now, present, same⟩ := first.job job found
    obtain ⟨last, kept, unchanged⟩ := second.job now present
    exact ⟨last, kept, unchanged.trans same⟩
  order id order found owner := by
    obtain ⟨now, present, owned, same⟩ := first.order id order found owner
    obtain ⟨last, kept, ownedStill, unchanged⟩ := second.order id now present owned
    exact ⟨last, kept, ownedStill, unchanged.trans same⟩
  position positionId position found isOpen := by
    obtain ⟨now, present, openNow⟩ := first.position positionId position found isOpen
    exact second.position positionId now present openNow
  fills := second.fills.trans first.fills

variable {job : ExecutionJob} (found : world.database.findJob jobId = some job)
  (terminal : job.state ∈ terminalStates)

include found terminal

/-- The commit of a delivery leaves a terminal job alone. -/
theorem Delivering.commit_retains {payload : QueuePayload} {work : Work} {step : Step}
    (delivering : Delivering world.database payload work step) {database : Database}
    (usable : work.broken = false)
    (committed : world.database.commit work.changes = .ok database) :
    Retained jobId world (world.wrote database work.changes) := by
  have held := delivering.held
  have fills : (world.wrote database work.changes).applied =
      world.applied ++ if work.position.isSome then [work.job.id] else [] := by
    rw [← work.changes_fills]
    rfl
  by_cases isOwn : work.job.id = jobId
  · subst isOwn
    have stored : work.storedJob = job := Option.some.inj (held.job.symm.trans found)
    have settled := delivering.settled (stored.symm ▸ terminal)
    constructor
    · intro other isOther
      have same : work.storedJob = other := Option.some.inj (held.job.symm.trans isOther)
      refine ⟨work.job, ?_, same ▸ settled.job usable⟩
      exact (held.commit_job committed work.job.id).trans (if_pos rfl)
    · intro id order present owner
      obtain ⟨storedOrder, isStored, sameState⟩ := settled.order usable
      by_cases isHeld : id = work.order.id
      · subst isHeld
        have same : storedOrder = order :=
          Option.some.inj ((held.order storedOrder isStored).symm.trans present)
        refine ⟨work.order, ?_, held.owner, same ▸ sameState⟩
        exact (held.commit_order committed work.order.id).trans (if_pos rfl)
      · refine ⟨order, ?_, owner, rfl⟩
        exact ((held.commit_order committed id).trans (if_neg isHeld)).trans present
    · intro positionId position present isOpen
      exact commit_openPosition committed delivering.opens present isOpen
    · have none : work.position = none := settled.position usable
      rw [fills, none]
      simp
  · constructor
    · intro other isOther
      refine ⟨other, ?_, rfl⟩
      have different : ¬jobId = work.job.id := fun same => isOwn same.symm
      exact ((held.commit_job committed jobId).trans (if_neg different)).trans isOther
    · intro id order present owner
      have foreign : order.executionJobId ≠ work.job.id := by
        rw [owner]
        exact fun same => isOwn same.symm
      exact ⟨order, held.commit_otherOrder committed present foreign, owner, rfl⟩
    · intro positionId position present isOpen
      exact commit_openPosition committed delivering.opens present isOpen
    · rw [fills]
      by_cases isSynced : work.position.isSome = true
      · rw [if_pos isSynced]
        simp [isOwn]
      · rw [if_neg isSynced, List.append_nil]

theorem Orderly.retains (orderly : Orderly world phases) {stage : Stage}
    (held : phases thread = stage) (moves : Moves world oracle stage command after reached) :
    Retained jobId world after := by
  have sound : stage.Sound world.database := held ▸ orderly.sound thread
  cases moves with
  | saves | rejects | accepts | writes => exact sound.elim
  | commits payload work step database usable commits committed =>
    exact Delivering.commit_retains found terminal sound usable committed
  | _ => exact Retained.of_same rfl rfl

theorem Orderly.enqueues_none (orderly : Orderly world phases)
    (allowed : (phases thread).allows command)
    (answer : Except String command.Reply) : ¬Enqueues jobId ⟨command, answer⟩ := by
  rintro ⟨payload, isPush, named⟩
  cases (isPush : command = .rpush payload)
  have sound := orderly.sound thread
  cases stage : phases thread with
  | admitted request job stored room =>
    rw [stage] at sound
    exact sound
  | found again waiting =>
    rw [stage] at sound allowed
    cases (allowed : payload = again)
    have own : waiting.id = jobId := Option.some.inj (sound.named.symm.trans named)
    have same : waiting = job := Option.some.inj (sound.found.symm.trans (own ▸ found))
    exact sound.unfinished (same ▸ terminal)
  | working again work step =>
    rw [stage] at sound allowed
    have delivering : Delivering world.database again work step := sound
    obtain ⟨_, rfl, _, unfinished, same⟩ := allowed
    have own : work.job.id = jobId :=
      Option.some.inj (delivering.named.symm.trans (same ▸ named))
    have stored : work.storedJob = job :=
      Option.some.inj (delivering.held.job.symm.trans (own ▸ found))
    obtain ⟨notDelicate, unchanged⟩ := delivering.fits
    rw [upper_listed delivering.listed] at unfinished
    rcases listed_of_terminal (unchanged ▸ stored ▸ terminal) with delicate | failed
    · exact notDelicate delicate
    · exact unfinished failed
  | _ =>
    rw [stage] at allowed
    exact allowed

end Retention

section Runs

variable {jobId : Id}

theorem orderly_step (view next : View services World Task Stage)
    (holds : Orderly view.world view.phases)
    (step : View.Step engine stages orderly (fun _ => True) (fun _ _ => True) view next) :
    Orderly next.world next.phases := by
  have stopped : ∀ thread, Orderly view.world (Function.update view.phases thread .idle) := by
    intro thread
    apply holds.continue
    · rfl
    · exact nofun
    · trivial
  cases step with
  | started thread task idle permitted =>
    rcases permitted with ⟨payload, rfl⟩ | rfl
    all_goals
      apply holds.continue
      · rfl
      · exact nofun
      · trivial
  | performed thread oracle command allowed permitted =>
    obtain ⟨alone, calm⟩ := permitted
    exact holds.moves rfl alone calm (view.world.perform_moves oracle _ command allowed)
  | returned thread | raised thread | crashed thread => exact stopped thread

/-- What a run keeps from the point at which the job is committed as terminal. -/
structure StaysEnded (jobId : Id) (start view : View services World Task Stage) : Prop where
  holds : Orderly view.world view.phases
  retained : Retained jobId start.world view.world
  silent : ∃ events, view.trace = start.trace ++ events ∧
    ∀ event ∈ events, ¬Enqueues jobId event.2

theorem staysEnded_step {start : View services World Task Stage} {job : ExecutionJob}
    (found : start.world.database.findJob jobId = some job) (terminal : job.state ∈ terminalStates)
    (view next : View services World Task Stage) (stays : StaysEnded jobId start view)
    (step : View.Step engine stages orderly (fun _ => True) (fun _ _ => True) view next) :
    StaysEnded jobId start next := by
  obtain ⟨holds, retained, events, trace, silent⟩ := stays
  have holdsNext := orderly_step view next holds step
  obtain ⟨now, present, same⟩ := retained.job job found
  cases step with
  | started | returned | raised | crashed => exact ⟨holdsNext, retained, events, trace, silent⟩
  | performed thread oracle command allowed permitted =>
    have kept := holds.retains present (same ▸ terminal) rfl
      (view.world.perform_moves oracle _ command allowed)
    refine ⟨holdsNext, retained.trans kept,
      events ++ [(thread, ⟨command, (view.world.perform oracle command).2⟩)], ?_, ?_⟩
    · rw [← List.append_assoc, ← trace]
      rfl
    · intro event inside
      rcases List.mem_append.mp inside with earlier | last
      · exact silent event earlier
      · cases List.mem_singleton.mp last
        exact holds.enqueues_none present (same ▸ terminal) allowed _

def soundDeliveries (_ : SignalMachine) : Label Oracle Task → Bool
  | .start _ (.deliver _) => true
  | .start _ .consume => true
  | .start _ _ => false
  | .run _ oracle => oracle.fault.isNone
  | .crash _ => true

theorem soundDeliveries_orderly (machine : SignalMachine) (label : Label Oracle Task)
    (lone : machine.Lone label.thread) (tested : soundDeliveries machine label = true) :
    orderly.Permits engine stages machine label := by
  cases label with
  | start thread task =>
    refine ⟨?_, fun _ _ => trivial⟩
    cases task with
    | deliver payload => exact .inl ⟨payload, rfl⟩
    | consume => exact .inr rfl
    | signal request => cases tested
    | reconcile limit => cases tested
  | run thread oracle =>
    refine fun running found =>
      ⟨⟨fun id _ other held => ?_, fun _ _ _ _ _ => ?_⟩, fun _ _ => trivial⟩
    · by_contra isOther
      have idle : machine.threads other = none := lone other isOther
      simp only [Machine.view, idle] at held
      cases held
    · exact .inl (Option.isNone_iff_eq_none.mp tested)
  | crash thread => exact trivial

def redelivery : List (Label Oracle Task) :=
  .start 0 (.deliver sampleJob.payload) :: runs 0 1 steady

def failedTwice : World := .boot ⟨⟨[{ sampleJob with retryCount := 2 }], [], []⟩, by decide⟩

def lastDelivery : List (Label Oracle Task) :=
  .start 0 (.deliver sampleJob.payload) :: runs 0 26 steady ++
    runs 0 1 { steady with answer := true }

end Runs

end Signal
