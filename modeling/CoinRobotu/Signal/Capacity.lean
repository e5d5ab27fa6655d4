import CoinRobotu.Interleaving.Solo
import CoinRobotu.Signal.Exposure

/-!
# Runs that respect the notional cap of a user

The risk check adds a signal to the open positions, and the accepted jobs that
wait in the queue are not among them. Where every signal that passes the check
also fits beside these jobs, and fills are at the fixed price and within what was
ordered, the exposure of the user stays within the cap in every reachable state.
Calls run one after another, and one may stop anywhere.
-/

open Interleaving

namespace Signal

open Runtime (upper)
open Numeric

/-- Signals and deliveries of accepted jobs, one after another. -/
def roomy (price : String → ℚ) (userId : String) (cap : ℚ) :
    Discipline services World Oracle Task Stage where
  starts view _ task := (∀ other, view.phases other = .idle) ∧
    match task with
    | .signal request => request.userId = userId →
        request.limits.perUserNotionalCap = cap ∧
          request.price = price (upper (request.symbol.getD ""))
    | .deliver payload => ∀ id job, payload.executionJobId = some id →
        view.world.database.findJob id = some job → job.queuePayload.isSome
    | .consume => True
    | .reconcile _ => False
  runs view thread oracle command :=
    (∀ request job stored room, view.phases thread = .admitted request job stored room →
      request.userId = userId → command = .openNotional userId →
        view.world.database.openNotional userId + proposedNotional job.size request.price ≤ cap →
          view.world.database.openNotional userId +
            view.world.database.pendingExposure price userId +
            |job.size * price job.symbol| ≤ cap) ∧
    ∀ payload work step request, view.phases thread = .working payload work step →
      command = .submitOrder request → oracle.fault = none →
        "FILLED" ∈ (oracle.reply.toResult request.markPrice).states →
          WithinSize price userId (work.order.withResult (oracle.reply.toResult request.markPrice))
  dies _ _ := True

section Invariant

variable (price : String → ℚ) (userId : String) (cap : ℚ)

/-- What such a run keeps of the shared state. -/
structure Roomy (world : World) : Prop where
  bound : world.database.exposure price userId ≤ cap
  ended : FilledEnded world.database
  priced : Priced price userId world.database
  orders : ∀ order ∈ world.database.orders, ∃ job,
    world.database.findJob order.executionJobId = some job ∧ order.Matches job
  jobs : ∀ job ∈ world.database.jobs, job.id < world.nextId
  queue : ∀ payload ∈ world.queue, ∀ id, payload.executionJobId = some id → id < world.nextId ∧
    ∀ job, world.database.findJob id = some job → job.queuePayload.isSome

/-- What holds of a new job that was not accepted yet: its identifier is in no
payload, and what was read of the open notional is still so. -/
structure Proposing (world : World) (request : SignalRequest) (job : ExecutionJob)
    (stored : Option ExecutionJob) (room : Option ℚ) : Prop where
  user : job.userId = request.userId
  fixed : request.userId = userId → request.limits.perUserNotionalCap = cap
  unaccepted : job.queuePayload = none
  numbered : job.id < world.nextId
  unnamed : ∀ payload ∈ world.queue, payload.executionJobId ≠ some job.id
  absent : stored = none → world.database.findJob job.id = none
  present : ∀ row, stored = some row → row = job ∧ world.database.findJob job.id = some job
  fits : ∀ notional, room = some notional → request.userId = userId →
    notional + proposedNotional job.size request.price ≤ cap →
      world.database.exposure price userId + |job.size * price job.symbol| ≤ cap

/-- What holds of the stage of the one task at work. -/
def Stage.Roomy (world : World) : Stage → Prop
  | .signalling request => request.userId = userId → request.limits.perUserNotionalCap = cap
  | .numbered request id =>
      (request.userId = userId → request.limits.perUserNotionalCap = cap) ∧ id < world.nextId ∧
        ∀ payload ∈ world.queue, payload.executionJobId ≠ some id
  | .admitted request job stored room => Proposing price userId cap world request job stored room
  | .pushed job => job.id < world.nextId ∧ world.database.findJob job.id = none ∧
      (job.userId = userId → world.database.exposure price userId +
        |job.size * price job.symbol| ≤ cap)
  | .looking payload => ∀ id job, payload.executionJobId = some id →
      world.database.findJob id = some job → job.queuePayload.isSome
  | .found payload job => payload.executionJobId = some job.id ∧ job.queuePayload.isSome
  | .ordering payload job => payload.executionJobId = some job.id ∧ job.queuePayload.isSome
  | .inserting payload job _ => payload.executionJobId = some job.id ∧ job.queuePayload.isSome
  | .working payload work step => Carrying payload work step
  | .listing => False
  | .reconciling _ _ _ => False
  | _ => True

variable {price userId cap}

section Moves

variable {world after : World} {stage reached : Stage} {oracle : Oracle} {command : Command}

theorem Roomy.same (roomy : Roomy price userId cap world)
    (database : after.database = world.database)
    (queue : after.queue = world.queue) (nextId : world.nextId ≤ after.nextId) :
    Roomy price userId cap after where
  bound := database ▸ roomy.bound
  ended := database ▸ roomy.ended
  priced := database ▸ roomy.priced
  orders := database ▸ roomy.orders
  jobs := database ▸ fun job inside => (roomy.jobs job inside).trans_le nextId
  queue := by
    rw [queue, database]
    intro payload inside id named
    obtain ⟨numbered, accepted⟩ := roomy.queue payload inside id named
    exact ⟨numbered.trans_le nextId, accepted⟩

theorem Roomy.push (roomy : Roomy price userId cap world) (payload : QueuePayload)
    (named : ∀ id, payload.executionJobId = some id → id < world.nextId ∧
      ∀ job, world.database.findJob id = some job → job.queuePayload.isSome) :
    Roomy price userId cap { world with queue := world.queue ++ [payload] } where
  bound := roomy.bound
  ended := roomy.ended
  priced := roomy.priced
  orders := roomy.orders
  jobs := roomy.jobs
  queue other inside := by
    rcases List.mem_append.mp inside with earlier | last
    · exact roomy.queue other earlier
    · cases List.mem_singleton.mp last
      exact named

variable {database : Database}

variable {job : ExecutionJob}

section Fitting

variable (roomy : Roomy price userId cap world)

include roomy

/-- A commit that writes one job keeps the shared state, if the job is new or
keeps its columns, and is accepted when a payload names it. -/
theorem Roomy.write {changes : List Change}
    (bound : database.exposure price userId ≤ cap) (ended : FilledEnded database)
    (priced : Priced price userId database)
    (orders : ∀ order ∈ database.orders, order ∈ world.database.orders ∨
      order.executionJobId = job.id ∧ order.Matches job)
    (jobs : ∀ id, database.findJob id = if id = job.id then some job else world.database.findJob id)
    (columns : ∀ row, world.database.findJob job.id = some row →
      ∀ order : Order, order.Matches row → order.Matches job)
    (numbered : job.id < world.nextId)
    (accepted : ∀ payload ∈ world.queue, payload.executionJobId = some job.id →
      job.queuePayload.isSome) :
    Roomy price userId cap (world.wrote database changes) where
  bound := bound
  ended := ended
  priced := priced
  orders order inside := by
    rcases orders order inside with earlier | ⟨owner, agrees⟩
    · obtain ⟨row, found, agrees⟩ := roomy.orders order earlier
      by_cases isOwn : order.executionJobId = job.id
      · rw [isOwn] at found
        exact ⟨job, (jobs _).trans (if_pos isOwn), columns row found order agrees⟩
      · exact ⟨row, ((jobs _).trans (if_neg isOwn)).trans found, agrees⟩
    · exact ⟨job, (jobs _).trans (if_pos owner), agrees⟩
  jobs row inside := by
    have found : database.findJob row.id = some row := Database.findJob_some.mpr ⟨inside, rfl⟩
    rw [jobs] at found
    split at found
    · cases found
      exact numbered
    · exact roomy.jobs row (Database.findJob_some.mp found).1
  queue payload inside id named := by
    obtain ⟨known, before⟩ := roomy.queue payload inside id named
    refine ⟨known, fun row found => ?_⟩
    change database.findJob id = some row at found
    rw [jobs] at found
    split at found
    · rename_i isOwn
      cases found
      exact accepted payload inside (isOwn ▸ named)
    · exact before row found

theorem Roomy.saves {stored : Option ExecutionJob}
    (committed : world.database.commit (saveJob stored job) = .ok database)
    (savable : Savable world.database stored job)
    (bound : world.database.exposure price userId -
      stored.elim 0 (ExecutionJob.exposure price userId) + job.exposure price userId ≤ cap)
    (fails : ∀ row, stored = some row → job.state = row.state ∨ upper job.state ∈ terminalStates)
    (fresh : stored = none → world.database.findJob job.id = none)
    (numbered : job.id < world.nextId)
    (accepted : ∀ payload ∈ world.queue, payload.executionJobId = some job.id →
      job.queuePayload.isSome) :
    Roomy price userId cap (world.wrote database (saveJob stored job)) := by
  have orders := commit_saveJob_orders committed
  have positions := commit_saveJob_positions committed
  have within : database.exposure price userId ≤ cap := by
    rw [commit_saveJob_exposure committed savable price userId]
    exact bound
  have columns : ∀ row, world.database.findJob job.id = some row →
      ∀ order : Order, order.Matches row → order.Matches job := by
    intro row found order agrees
    cases isStored : stored with
    | none =>
      rw [fresh isStored] at found
      cases found
    | some old =>
      obtain ⟨known, keeps⟩ := savable old isStored
      have same : old = row := Option.some.inj (known.symm.trans found)
      subst same
      obtain ⟨user, symbol, size⟩ := keeps.columns
      exact ⟨agrees.userId.trans user.symm, agrees.symbol.trans symbol.symm,
        agrees.size.trans size.symm⟩
  exact roomy.write within (roomy.ended.of_orders orders (saveJob_jobs_end committed fails))
    (fun position inside => roomy.priced position (positions ▸ inside))
    (fun order inside => .inl (orders ▸ inside)) (commit_saveJob_findJob committed savable) columns
    numbered accepted

section Carrying

variable {payload : QueuePayload} {work : Work} {step : Step}
  (nonzero : ∀ symbol, price symbol ≠ 0)
  (posting : Posting (sizeTest price userId) world.database work step)
  (carrying : Carrying payload work step)

include nonzero posting carrying

theorem Roomy.commits (usable : work.broken = false) (commits : step.Commits)
    (committed : world.database.commit work.changes = .ok database) :
    Roomy price userId cap (world.wrote database work.changes) := by
  have accepted : work.job.queuePayload.isSome := carrying.queued ▸ carrying.accepted
  have columns : ∀ row, world.database.findJob work.job.id = some row →
      ∀ order : Order, order.Matches row → order.Matches work.job := by
    intro row found order agrees
    have same : work.storedJob = row := Option.some.inj (posting.held.job.symm.trans found)
    subst same
    obtain ⟨user, symbol, size⟩ := posting.held.keepsJob.columns
    exact ⟨agrees.userId.trans user.symm, agrees.symbol.trans symbol.symm,
      agrees.size.trans size.symm⟩
  have numbered : work.job.id < world.nextId := by
    obtain ⟨inside, same⟩ := Database.findJob_some.mp posting.held.job
    exact same ▸ roomy.jobs work.storedJob inside
  have orders : ∀ order ∈ database.orders, order ∈ world.database.orders ∨
      order.executionJobId = work.job.id ∧ order.Matches work.job := by
    intro order inside
    have found : database.findOrder order.id = some order :=
      Database.findOrder_some.mpr ⟨inside, rfl⟩
    rw [posting.held.commit_order committed] at found
    split at found
    · cases found
      exact .inr ⟨posting.held.owner, carrying.agrees⟩
    · exact .inl (Database.findOrder_some.mp found).1
  have bound := carrying.commit_exposure posting roomy.priced usable commits committed
  exact roomy.write (bound.trans roomy.bound) (posting.commit_ended committed roomy.ended)
    (posting.commit_priced roomy.priced usable commits committed nonzero) orders
    (posting.held.commit_job committed) columns numbered fun _ _ _ => accepted

theorem Roomy.works
    (moves : Moves world oracle (.working payload work step) command after reached) :
    Roomy price userId cap after := by
  cases moves with
  | commits _ _ _ database usable commits committed =>
    exact roomy.commits nonzero posting carrying usable commits committed
  | pushes _ pushed _ fresh unfinished same =>
    apply roomy.push
    intro id named
    rw [same, carrying.named] at named
    cases named
    obtain ⟨inside, isOwn⟩ := Database.findJob_some.mp posting.held.job
    refine ⟨isOwn ▸ roomy.jobs work.storedJob inside, fun row found => ?_⟩
    rw [posting.held.job] at found
    cases found
    exact carrying.accepted
  | _ => exact roomy.same rfl rfl le_rfl

end Carrying

/-- A signal that proposes a job keeps the shared state, and what holds of it. -/
theorem Proposing.moves {request : SignalRequest} {stored : Option ExecutionJob} {room : Option ℚ}
    (proposing : Proposing price userId cap world request job stored room)
    (checks : request.userId = userId → command = .openNotional userId →
      world.database.openNotional userId + proposedNotional job.size request.price ≤ cap →
        world.database.openNotional userId + world.database.pendingExposure price userId +
          |job.size * price job.symbol| ≤ cap)
    (moves : Moves world oracle (.admitted request job stored room) command after reached) :
    Roomy price userId cap after ∧ reached.Roomy price userId cap after := by
  have nothing : job.exposure price userId = 0 :=
    ExecutionJob.exposure_unaccepted proposing.unaccepted
  have storedNothing : stored.elim 0 (ExecutionJob.exposure price userId) = 0 := by
    cases isStored : stored with
    | none => rfl
    | some row =>
      obtain ⟨rfl, _⟩ := proposing.present row isStored
      exact nothing
  have unnamed : ∀ payload ∈ world.queue, payload.executionJobId = some job.id →
      job.queuePayload.isSome :=
    fun payload inside named => absurd named (proposing.unnamed payload inside)
  cases moves with
  | rests => exact ⟨roomy, proposing⟩
  | ends => exact ⟨roomy, trivial⟩
  | checks =>
    refine ⟨roomy, { proposing with fits := ?_ }⟩
    intro notional isRoom isUser passes
    cases isRoom
    have prices := fun position inside => (roomy.priced position inside).2
    have positions := openNotional_eq prices
    rw [isUser] at passes
    have fits := checks isUser (congrArg Command.openNotional isUser) passes
    rw [positions] at fits
    exact fits
  | saves _ _ _ _ database committed =>
    have savable : Savable world.database stored job := by
      intro row isStored
      obtain ⟨rfl, found⟩ := proposing.present row isStored
      exact ⟨found, ExecutionJob.keeps_refl row⟩
    have exposure := commit_saveJob_exposure committed savable price userId
    rw [storedNothing, nothing, sub_zero, add_zero] at exposure
    constructor
    · apply roomy.saves committed savable
      · rw [storedNothing, nothing, sub_zero, add_zero]
        exact roomy.bound
      · intro row isStored
        obtain ⟨rfl, _⟩ := proposing.present row isStored
        exact .inl rfl
      · exact proposing.absent
      · exact proposing.numbered
      · exact unnamed
    · refine { proposing with absent := (fun none => nomatch none), present := ?_, fits := ?_ }
      · intro row isStored
        cases isStored
        exact ⟨rfl, (commit_saveJob_findJob committed savable _).trans (if_pos rfl)⟩
      · intro notional isRoom isUser passes
        change database.exposure price userId + _ ≤ cap
        rw [exposure]
        exact proposing.fits notional isRoom isUser passes
  | rejects _ _ _ _ reason database committed =>
    have savable : Savable world.database stored (job.rejected reason) := by
      intro row isStored
      obtain ⟨rfl, found⟩ := proposing.present row isStored
      exact ⟨found, ExecutionJob.keeps_iff.mpr rfl⟩
    refine ⟨?_, trivial⟩
    apply roomy.saves committed savable
    · have rejectedNothing : (job.rejected reason).exposure price userId = 0 :=
        ExecutionJob.exposure_unaccepted proposing.unaccepted
      rw [storedNothing, rejectedNothing, sub_zero, add_zero]
      exact roomy.bound
    · intro row _
      have failed : upper "FAILED" ∈ terminalStates := by decide +kernel
      exact .inr failed
    · exact proposing.absent
    · exact proposing.numbered
    · exact unnamed
  | enqueues _ _ notional fits =>
    have absent := proposing.absent rfl
    constructor
    · apply roomy.push
      intro id named
      cases named
      refine ⟨proposing.numbered, fun row found => ?_⟩
      rw [absent] at found
      cases found
    · refine ⟨proposing.numbered, absent, fun isUser => ?_⟩
      have isRequest : request.userId = userId := proposing.user.symm.trans isUser
      apply proposing.fits notional rfl isRequest
      rw [← proposing.fixed isRequest]
      exact fits

/-- Every move of such a run keeps the shared state. -/
theorem Roomy.moves (nonzero : ∀ symbol, price symbol ≠ 0)
    (posts : stage.Posts (sizeTest price userId) world.database)
    (law : stage.Roomy price userId cap world)
    (checks : ∀ request job stored room, stage = .admitted request job stored room →
      request.userId = userId → command = .openNotional userId →
        world.database.openNotional userId + proposedNotional job.size request.price ≤ cap →
          world.database.openNotional userId + world.database.pendingExposure price userId +
            |job.size * price job.symbol| ≤ cap)
    (moves : Moves world oracle stage command after reached) :
    Roomy price userId cap after ∧ reached.Roomy price userId cap after := by
  cases stage with
  | idle | quiet => cases moves <;> exact ⟨roomy, trivial⟩
  | listing | reconciling => exact law.elim
  | signalling request =>
    cases moves with
    | rests => exact ⟨roomy, law⟩
    | ends => exact ⟨roomy, trivial⟩
    | numbers =>
      refine ⟨roomy.same rfl rfl (Nat.le_succ _), law, Nat.lt_succ_self _, ?_⟩
      intro payload inside named
      have before := (roomy.queue payload inside _ named).1
      exact absurd before (Nat.lt_irrefl _)
  | numbered request id =>
    obtain ⟨fixed, numbered, unnamed⟩ := law
    cases moves with
    | rests => exact ⟨roomy, fixed, numbered, unnamed⟩
    | ends => exact ⟨roomy, trivial⟩
    | inserts _ _ key side size database positive fresh =>
      have absent := commit_insertJob_fresh fresh
      exact ⟨roomy,
        { user := rfl
          fixed
          unaccepted := rfl
          numbered
          unnamed
          absent := fun _ => absent
          present := fun _ none => nomatch none
          fits := fun _ none => nomatch none }⟩
  | admitted request job stored room =>
    exact Proposing.moves roomy law (checks request job stored room rfl) moves
  | pushed job =>
    obtain ⟨numbered, absent, fits⟩ := law
    cases moves with
    | rests => exact ⟨roomy, numbered, absent, fits⟩
    | ends => exact ⟨roomy, trivial⟩
    | accepts _ database committed =>
      refine ⟨?_, trivial⟩
      apply roomy.saves committed (fun _ none => nomatch none)
      · have most : job.accepted.exposure price userId ≤
            if job.userId = userId then |job.size * price job.symbol| else 0 :=
          job.accepted.exposure_le
        have bound := roomy.bound
        rw [Option.elim_none, sub_zero]
        split at most
        · rename_i isUser
          exact (add_le_add_right most _).trans (fits isUser)
        · linarith
      · exact fun _ none => nomatch none
      · exact fun _ => absent
      · exact numbered
      · exact fun _ _ _ => rfl
  | fetching =>
    cases moves with
    | rests => exact ⟨roomy, trivial⟩
    | ends => exact ⟨roomy, trivial⟩
    | pops payload later head =>
      have inside : payload ∈ world.queue := by simp [head]
      refine ⟨{ roomy with queue := fun other among => ?_ }, ?_⟩
      · apply roomy.queue other
        rw [head]
        exact List.mem_cons_of_mem _ among
      · exact fun id job named => (roomy.queue payload inside id named).2 job
  | looking payload =>
    cases moves with
    | rests => exact ⟨roomy, law⟩
    | ends => exact ⟨roomy, trivial⟩
    | finds _ job named found unfinished => exact ⟨roomy, named, law job.id job named found⟩
  | found payload job =>
    obtain ⟨known, unfinished⟩ := posts
    obtain ⟨named, accepted⟩ := law
    cases moves with
    | rests => exact ⟨roomy, named, accepted⟩
    | ends => exact ⟨roomy, trivial⟩
    | misses => exact ⟨roomy, named, accepted⟩
    | defers =>
      refine ⟨roomy.push payload fun id isNamed => ?_, trivial⟩
      rw [named] at isNamed
      cases isNamed
      refine ⟨roomy.jobs job (Database.findJob_some.mp known).1, fun row found => ?_⟩
      rw [known] at found
      cases found
      exact accepted
    | opens _ _ order found =>
      obtain ⟨inside, owner⟩ := Database.orderOfJob_some found
      obtain ⟨row, isRow, agrees⟩ := roomy.orders order inside
      rw [owner, known] at isRow
      cases isRow
      exact ⟨roomy, Carrying.opened named accepted agrees unfinished⟩
  | ordering payload job =>
    cases moves with
    | rests => exact ⟨roomy, law⟩
    | ends => exact ⟨roomy, trivial⟩
    | names => exact ⟨roomy.same rfl rfl (Nat.le_succ _), law⟩
  | inserting payload job order =>
    obtain ⟨⟨_, unfinished⟩, isNew⟩ := posts
    cases moves with
    | rests => exact ⟨roomy, law⟩
    | ends => exact ⟨roomy, trivial⟩
    | creates =>
      have agrees : order.Matches job := by
        rw [isNew]
        exact ⟨rfl, rfl, rfl⟩
      exact ⟨roomy, Carrying.opened law.1 law.2 agrees unfinished⟩
  | working payload work step =>
    have posting : Posting (sizeTest price userId) world.database work step := posts
    have carrying : Carrying payload work step := law
    refine ⟨roomy.works nonzero posting carrying moves, ?_⟩
    have working : ∃ left next, reached = .working payload left next := by
      cases moves with
      | ends _ _ outside => exact absurd rfl (outside payload work step)
      | _ => exact ⟨_, _, rfl⟩
    obtain ⟨left, next, rfl⟩ := working
    exact carrying.moves posting moves

end Fitting

end Moves

end Invariant

section Runs

variable {price : String → ℚ} {userId : String} {cap : ℚ}

theorem roomy_sequential : Sequential engine stages (roomy price userId cap) where
  alone _ _ _ permitted := permitted.1
  silent _ allowed := allowed
  opens _ _ := rfl
  closes _ _ := rfl

/-- From empty tables on, the exposure of the user is within the cap in every state
that such a run reaches. -/
theorem roomy_runs_respect_notional_cap {world : World} {labels : List (Label Oracle Task)}
    {after : SignalMachine} (nonzero : ∀ symbol, price symbol ≠ 0) (nonnegative : 0 ≤ cap)
    (run : Run engine ((roomy price userId cap).Permits engine stages) (Machine.atRest world) labels
      after)
    (noJobs : world.database.jobs = []) (noOrders : world.database.orders = [])
    (noPositions : world.database.positions = []) (noPayloads : world.queue = []) :
    after.world.database.exposure price userId ≤ cap := by
  have resting : Roomy price userId cap world := by
    constructor
    · simpa [Database.exposure, Database.positionExposure, Database.pendingExposure, noJobs,
        noPositions] using nonnegative
    · intro order inside
      rw [noOrders] at inside
      cases inside
    · intro position inside
      rw [noPositions] at inside
      cases inside
    · simp [noOrders]
    · simp [noJobs]
    · simp [noPayloads]
  have kept : Solo stages (fun world _ stage => Roomy price userId cap world ∧
      stage.Posts (sizeTest price userId) world.database ∧ stage.Roomy price userId cap world)
      (after.view stages) := by
    apply run.solo (engine_governs _) roomy_sequential
    · rintro view thread task ⟨_, permitted⟩ ⟨roomy, _⟩
      cases task with
      | signal request => exact ⟨roomy, trivial, fun isUser => (permitted isUser).1⟩
      | deliver payload => exact ⟨roomy, trivial, permitted⟩
      | consume => exact ⟨roomy, trivial, trivial⟩
      | reconcile limit => exact permitted.elim
    · rintro view thread oracle command allowed ⟨checks, fits⟩ ⟨roomy, posts, law⟩
      have moves := view.world.perform_moves oracle _ command allowed
      have kept := roomy.moves nonzero posts law checks moves
      exact ⟨kept.1, posts.moves roomy.ended fits moves, kept.2⟩
    · exact fun _ _ _ holds => ⟨holds.1, trivial, trivial⟩
    · exact Machine.atRest_conforms _
    · exact solo_atRest ⟨resting, trivial, trivial⟩
  obtain ⟨_, _, roomy, _⟩ := kept
  exact roomy.bound

/-- A signal that buys ten units at 100, with a cap of 1000. -/
def sampleSignal (key : String) : SignalRequest where
  userId := "user"
  symbol := some "BTCUSDT"
  side := some "BUY"
  size := some 10
  strategyName := none
  timestamp := none
  markPrice := some 100
  leverage := some 1
  idempotencyKey := some key
  limits := ⟨100, 1, 1000⟩

def nothingYet : World := .boot ⟨⟨[], [], []⟩, Tables.consistent_nil⟩

/-- One call of `submit_signal`. -/
def oneSignal (key : String) : List (Label Oracle Task) :=
  .start 0 (.signal (sampleSignal key)) :: runs 0 16 steady

def oneFill : List (Label Oracle Task) :=
  .start 0 .consume ::
    runs 0 28 { steady with reply := ⟨true, "exchange-1", "FILLED", 10, 1000, 100⟩ }

/-- A signal fits beside what is accepted, and a fill is within its order. -/
def fitsBeside (machine : SignalMachine) : Label Oracle Task → Bool
  | .start thread task =>
      (machine.threads thread).isNone &&
        match task with
        | .signal request => decide (request.limits.perUserNotionalCap = 1000 ∧ request.price = 100)
        | .consume => true
        | _ => false
  | .run thread oracle =>
      match stages.phaseOf (machine.threads thread), machine.threads thread with
      | .admitted _ job _ _, some ⟨_, _, .openNotional _, _⟩ =>
          decide (machine.world.database.openNotional "user" +
            machine.world.database.pendingExposure (fun _ => 100) "user" + |job.size * 100| ≤ 1000)
      | .working _ work _, some ⟨_, _, .submitOrder request, _⟩ =>
          decide ((oracle.reply.toResult request.markPrice).avgFillPrice = 100 ∧
            |(oracle.reply.toResult request.markPrice).filledSize| ≤ |work.order.size|)
      | _, _ => true
  | .crash _ => true

theorem fitsBeside_roomy (machine : SignalMachine) (label : Label Oracle Task)
    (lone : machine.Lone label.thread) (tested : fitsBeside machine label = true) :
    (roomy (fun _ => 100) "user" 1000).Permits engine stages machine label := by
  cases label with
  | start thread task =>
    obtain ⟨isIdle, admitted⟩ := Bool.and_eq_true_iff.mp tested
    refine ⟨⟨fun other => ?_, ?_⟩, fun _ _ => trivial⟩
    · have idle : machine.threads other = none :=
        lone.idle (Option.isNone_iff_eq_none.mp isIdle) other
      simp only [Machine.view, idle]
      rfl
    · cases task with
      | signal request => exact fun _ => of_decide_eq_true admitted
      | consume => trivial
      | deliver payload => cases admitted
      | reconcile limit => cases admitted
  | run thread oracle =>
    refine fun running found => ⟨⟨fun request job stored room stage _ isCheck _ => ?_,
      fun payload work step request stage isSubmit _ _ _ => ?_⟩, fun _ _ => trivial⟩
    · have phase : stages.phaseOf (machine.threads thread) =
          .admitted request job stored room := stage
      obtain ⟨task, past, command, next⟩ := running
      cases isCheck
      rw [found] at phase
      simp only [fitsBeside, found, phase, decide_eq_true_eq] at tested
      exact tested
    · have phase : stages.phaseOf (machine.threads thread) = .working payload work step := stage
      obtain ⟨task, past, command, next⟩ := running
      cases isSubmit
      rw [found] at phase
      simp only [fitsBeside, found, phase, decide_eq_true_eq] at tested
      exact ⟨congrArg some tested.1, tested.2⟩
  | crash thread => exact trivial

theorem roomy_runs_respect_notional_cap_fill :
    ∃ after : SignalMachine,
      Machine.steps engine (oneSignal "key-1" ++ oneFill) (Machine.atRest nothingYet) = some after ∧
        after.world.database.positionExposure (fun _ => 100) "user" = 1000 ∧
          after.world.database.exposure (fun _ => 100) "user" ≤ 1000 := by
  have evaluated : (Machine.stepsIf engine fitsBeside (oneSignal "key-1" ++ oneFill)
      (Machine.atRest nothingYet)).map (fun machine =>
        machine.world.database.positionExposure (fun _ => 100) "user") = some 1000 := by
    decide +kernel
  obtain ⟨after, stepped, exposed⟩ := Option.map_eq_some_iff.mp evaluated
  have run : Run engine ((roomy (fun _ => 100) "user" 1000).Permits engine stages)
      (Machine.atRest nothingYet) (oneSignal "key-1" ++ oneFill) after :=
    Run.of_stepsIf 0 (fun machine label lone own tested =>
      fitsBeside_roomy machine label (own ▸ lone) tested) (fun _ _ => rfl) (by decide) stepped
  exact ⟨after, Machine.steps_of_stepsIf _ stepped, exposed,
    roomy_runs_respect_notional_cap (fun _ => by norm_num) (by norm_num) run rfl rfl rfl rfl⟩

/-- Both signals are checked against the positions, and there are none yet. -/
theorem accepted_jobs_exceed_notional_cap :
    ∃ after : SignalMachine,
      Machine.steps engine (oneSignal "key-1" ++ oneSignal "key-2") (Machine.atRest nothingYet) =
        some after ∧
        after.world.database.pendingExposure (fun _ => 100) "user" = 2000 ∧
          ¬after.world.database.exposure (fun _ => 100) "user" ≤ 1000 := by
  have evaluated : (Machine.steps engine (oneSignal "key-1" ++ oneSignal "key-2")
      (Machine.atRest nothingYet)).map (fun machine =>
        (machine.world.database.pendingExposure (fun _ => 100) "user",
          machine.world.database.exposure (fun _ => 100) "user")) = some (2000, 2000) := by
    decide +kernel
  obtain ⟨after, stepped, numbers⟩ := Option.map_eq_some_iff.mp evaluated
  obtain ⟨pending, exposed⟩ := Prod.mk.inj numbers
  refine ⟨after, stepped, pending, ?_⟩
  rw [exposed]
  norm_num

end Runs

end Signal
