import Mathlib.Data.List.Dedup
import CoinRobotu.Signal.Stages
import CoinRobotu.Signal.Writes

/-!
# What one command does

Every command that a stage allows is one of a few moves, each with the shared
state and the stage before and after it. The invariants over runs are proved
from these moves alone. A job, an order or a position that was read is the
committed row, and a commit is the only move that changes the tables.
-/

namespace Signal

open Runtime (upper)

def World.wrote (world : World) (database : Database) (changes : List Change) : World :=
  { world with
    database
    applied := world.applied ++ changes.filterMap Change.fillJob
    filled := world.filled ++ newlyFilled world.database database }

def Work.hurt (work : Work) (command : Command) : Work :=
  if command.ofSession then { work with broken := true } else work

/-- The moves, each with the stages before and after it. -/
inductive Moves (world : World) (oracle : Oracle) : Stage → Command → World → Stage → Prop where
  | rests (stage : Stage) (command : Command) : Moves world oracle stage command world stage
  | ends (stage : Stage) (command : Command)
      (outside : ∀ payload work step, stage ≠ .working payload work step) :
      Moves world oracle stage command world .quiet
  | numbers (request : SignalRequest) :
      Moves world oracle (.signalling request) .uuid4 { world with nextId := world.nextId + 1 }
        (.numbered request world.nextId)
  | inserts (request : SignalRequest) (id : Id) (key side : String) (size : ℚ) (database : Database)
      (positive : 0 < size)
      (fresh : world.database.commit
        [.insertJob (newJob id key request (upper (request.symbol.getD "")) side size)] =
          .ok database) :
      Moves world oracle (.numbered request id)
        (.flush [.insertJob
          (newJob id key request (upper (request.symbol.getD "")) side size)]) world
        (.admitted request
          (newJob id key request (upper (request.symbol.getD "")) side size) none none)
  | checks (request : SignalRequest) (job : ExecutionJob) (stored : Option ExecutionJob)
      (room : Option ℚ) :
      Moves world oracle (.admitted request job stored room) (.openNotional request.userId) world
        (.admitted request job stored (some (world.database.openNotional request.userId)))
  | saves (request : SignalRequest) (job : ExecutionJob) (stored : Option ExecutionJob)
      (room : Option ℚ) (database : Database)
      (committed : world.database.commit (saveJob stored job) = .ok database) :
      Moves world oracle (.admitted request job stored room) (.commit (saveJob stored job))
        (world.wrote database (saveJob stored job)) (.admitted request job (some job) room)
  | rejects (request : SignalRequest) (job : ExecutionJob) (stored : Option ExecutionJob)
      (room : Option ℚ) (reason : Option String) (database : Database)
      (committed : world.database.commit (saveJob stored (job.rejected reason)) = .ok database) :
      Moves world oracle (.admitted request job stored room)
        (.commit (saveJob stored (job.rejected reason)))
        (world.wrote database (saveJob stored (job.rejected reason))) .quiet
  | enqueues (request : SignalRequest) (job : ExecutionJob) (notional : ℚ)
      (fits : notional + proposedNotional job.size request.price ≤
        request.limits.perUserNotionalCap) :
      Moves world oracle (.admitted request job none (some notional)) (.rpush job.payload)
        { world with queue := world.queue ++ [job.payload] } (.pushed job)
  | accepts (job : ExecutionJob) (database : Database)
      (committed : world.database.commit (saveJob none job.accepted) = .ok database) :
      Moves world oracle (.pushed job) (.commit (saveJob none job.accepted))
        (world.wrote database (saveJob none job.accepted)) .quiet
  | pops (payload : QueuePayload) (later : List QueuePayload)
      (head : world.queue = payload :: later) :
      Moves world oracle .fetching .lpop { world with queue := later } (.looking payload)
  | finds (payload : QueuePayload) (job : ExecutionJob)
    (named : payload.executionJobId = some job.id)
      (found : world.database.findJob job.id = some job)
      (unfinished : upper job.state ∉ terminalStates) :
      Moves world oracle (.looking payload) (.findJob job.id) world (.found payload job)
  | defers (payload : QueuePayload) (job : ExecutionJob) :
      Moves world oracle (.found payload job) (.rpush payload)
        { world with queue := world.queue ++ [payload] } .quiet
  | opens (payload : QueuePayload) (job : ExecutionJob) (order : Order)
      (found : world.database.orderOfJob job.id = some order) :
      Moves world oracle (.found payload job) (.orderOfJob job.id) world
        (.working payload (.opened job (some order) order) .preparing)
  | misses (payload : QueuePayload) (job : ExecutionJob)
      (absent : world.database.orderOfJob job.id = none) :
      Moves world oracle (.found payload job) (.orderOfJob job.id) world (.ordering payload job)
  | names (payload : QueuePayload) (job : ExecutionJob) :
      Moves world oracle (.ordering payload job) .uuid4 { world with nextId := world.nextId + 1 }
        (.inserting payload job (newOrder world.nextId job))
  | creates (payload : QueuePayload) (job : ExecutionJob) (order : Order) (database : Database)
      (fresh : world.database.commit [.insertOrder order] = .ok database) :
      Moves world oracle (.inserting payload job order) (.flush [.insertOrder order]) world
        (.working payload (.opened job none order) .preparing)
  | lists (limit : ℤ) (orders : List Order) (distinct : (orders.map Order.id).Nodup)
      (listed : ∀ order ∈ orders,
        world.database.findOrder order.id = some order ∧ order.state ∈ openStates) :
      Moves world oracle .listing (.openOrders limit) world (.reconciling none orders [])
  | asks (current : Option (Order × StatusPayload)) (order : Order) (orders : List Order)
      (changes : List Change) (sound : oracle.fault = none) :
      Moves world oracle (.reconciling current (order :: orders) changes)
        (.orderStatus order.symbol (order.externalOrderId.getD "")) world
        (.reconciling (some (order, oracle.reply.toStatus)) orders changes)
  | skips (current : Option (Order × StatusPayload)) (order : Order) (orders : List Order)
      (changes : List Change) (command : Command) :
      Moves world oracle (.reconciling current (order :: orders) changes) command world
        (.reconciling none orders changes)
  | corrects (order : Order) (payload : StatusPayload) (orders : List Order) (changes : List Change)
      (named : upper payload.status ≠ "") (differs : upper payload.status ≠ upper order.state) :
      Moves world oracle (.reconciling (some (order, payload)) orders changes)
        (.assign order.id order.state (upper payload.status)) world
        (.reconciling (some (order, payload)) orders
          (changes ++ [.updateOrder order (order.reconciled payload)]))
  | follows (order : Order) (payload : StatusPayload) (orders : List Order) (changes : List Change)
      (job : ExecutionJob) (found : world.database.findJob order.executionJobId = some job)
      (followed : upper payload.status ∈ ["FILLED", "CANCELED", "FAILED"]) :
      Moves world oracle (.reconciling (some (order, payload)) orders changes)
        (.findJob order.executionJobId) world
        (.reconciling (some (order, payload)) orders
          (changes ++ saveJob (some job) { job with state := upper payload.status }))
  | writes (current : Option (Order × StatusPayload)) (changes : List Change) (database : Database)
      (committed : world.database.commit changes = .ok database) :
      Moves world oracle (.reconciling current [] changes) (.commit changes)
        (world.wrote database changes) .quiet
  | raises (payload : QueuePayload) (work : Work) (step : Step) (command : Command)
      (accepted : List SubmitRequest)
      (cause : oracle.fault ≠ none ∨ command.ofSession = true)
      (taken : accepted = world.accepted ∨
        step = .preparing ∧ accepted = world.accepted ++ [work.job.request])
      (pauses : command.ofSession = true ∨ step.Pauses) :
      Moves world oracle (.working payload work step) command { world with accepted }
        (.working payload (work.hurt command) step.raised)
  | assigns (payload : QueuePayload) (work : Work) (state : String) (states : List String)
      (moved : Order) (advanced : advanceOrderState work.order state = .ok moved) :
      Moves world oracle (.working payload work (.recording (state :: states)))
        (.assign work.order.id work.order.state moved.state) world
        (.working payload work (.recording (state :: states)))
  | holds (payload : QueuePayload) (work held : Work) (step : Step)
      (assigns : step.Assigns work held) :
      Moves world oracle (.working payload work step) (.hold held) world
        (.working payload held step.assigned)
  | handles (payload : QueuePayload) (work : Work) (step : Step) (failure : String)
      (fresh : work.jobExpired = false) (canFail : work.broken = true ∨ step.MayRaise work) :
      Moves world oracle (.working payload work step) (.hold (work.failed failure)) world
        (.working payload (work.failed failure) .failed)
  | commits (payload : QueuePayload) (work : Work) (step : Step) (database : Database)
      (usable : work.broken = false) (commits : step.Commits)
      (committed : world.database.commit work.changes = .ok database) :
      Moves world oracle (.working payload work step) (.commit work.changes)
        (world.wrote database work.changes) (.working payload work.committed step.committed)
  | rereads (payload : QueuePayload) (work : Work) (step : Step) (row : ExecutionJob)
      (usable : work.broken = false) (expired : work.jobExpired = true)
      (found : world.database.findJob work.job.id = some row) :
      Moves world oracle (.working payload work step) (.findJob work.job.id) world
        (.working payload { work with storedJob := row, job := row, jobExpired := false } step)
  | reopens (payload : QueuePayload) (work : Work) (step : Step) (row : Order)
      (usable : work.broken = false) (expired : work.orderExpired = true)
      (found : world.database.findOrder work.order.id = some row) :
      Moves world oracle (.working payload work step) (.findOrder work.order.id) world
        (.working payload { work with storedOrder := some row, order := row, orderExpired := false }
          step)
  | losesJob (payload : QueuePayload) (work : Work) (step : Step)
      (absent : world.database.findJob work.job.id = none) :
      Moves world oracle (.working payload work step) (.findJob work.job.id) world
        (.working payload work step.raised)
  | losesOrder (payload : QueuePayload) (work : Work) (step : Step)
      (expired : work.orderExpired = true)
        (absent : world.database.findOrder work.order.id = none) :
      Moves world oracle (.working payload work step) (.findOrder work.order.id) world
        (.working payload work step.raised)
  | locates (payload : QueuePayload) (work : Work) (states : List String) :
      Moves world oracle (.working payload work (.filling states))
        (.findPosition (work.order.userId, work.order.symbol)) world
        (.working payload work
          (.filled (world.database.findPosition (work.order.userId, work.order.symbol)) states))
  | submits (payload : QueuePayload) (work : Work) (sound : oracle.fault = none) :
      Moves world oracle (.working payload work .preparing) (.submitOrder work.job.request)
        { world with accepted := world.accepted ++ [work.job.request] }
        (.working payload work (.replied (oracle.reply.toResult work.job.request.markPrice)))
  | pushes (payload pushed : QueuePayload) (work : Work) (fresh : work.jobExpired = false)
      (unfinished : upper work.job.state ≠ "FAILED")
      (same : pushed.executionJobId = payload.executionJobId) :
      Moves world oracle (.working payload work .handled) (.rpush pushed)
        { world with queue := world.queue ++ [pushed] } (.working payload work .handled)

variable (world : World) (oracle : Oracle)

section Answers

variable {world oracle}

theorem World.answer_commit_nil : world.answer oracle (.commit []) = (world, .ok ()) := by
  simp [World.answer, Database.commit_nil, Database.newlyFilled_same]

theorem listed_orders (limit : ℤ) {orders : List Order}
    (answered : (world.answer oracle (.openOrders limit)).2 = .ok orders) :
    (orders.map Order.id).Nodup ∧ ∀ order ∈ orders,
      world.database.findOrder order.id = some order ∧ order.state ∈ openStates := by
  have found : ∀ id order, world.database.findOrder id = some order → order.id = id :=
    fun id order found => (Database.findOrder_some.mp found).2
  have distinct : ∀ ids : List Id, ids.Nodup →
      ((ids.filterMap world.database.findOrder).map Order.id).Nodup := by
    intro ids unrepeated
    have keys : (ids.filterMap world.database.findOrder).map Order.id =
        ids.filter fun id => (world.database.findOrder id).isSome := by
      induction ids with
      | nil => rfl
      | cons id ids ih =>
        have rest := ih (List.nodup_cons.mp unrepeated).2
        cases known : world.database.findOrder id with
        | none => simp [known, rest]
        | some order => simp [known, rest, found id order known]
    exact keys ▸ unrepeated.filter _
  simp only [World.answer, Except.ok.injEq] at answered
  subst answered
  constructor
  · have sublist := (List.take_sublist (max 1 (min limit 300)).toNat
      ((oracle.recent.dedup.filterMap world.database.findOrder).filter fun order =>
        decide (order.state ∈ openStates ∧ order.externalOrderId.isSome))).trans List.filter_sublist
    exact (distinct _ (List.nodup_dedup oracle.recent)).sublist (sublist.map Order.id)
  · intro order inside
    obtain ⟨listed, isOpen⟩ := List.mem_filter.mp (List.mem_of_mem_take inside)
    obtain ⟨id, _, known⟩ := List.mem_filterMap.mp listed
    have same := found id order known
    exact ⟨same ▸ known, (of_decide_eq_true isOpen).1⟩

theorem Step.Assigns.sameJob {work held : Work} {step : Step} (assigns : step.Assigns work held) :
    held.job.id = work.job.id ∧ held.job.idempotencyKey = work.job.idempotencyKey ∧
      held.job.retryCount = work.job.retryCount := by
  cases step with
  | replied | filled =>
    cases assigns
    exact ⟨rfl, rfl, rfl⟩
  | answered result =>
    obtain ⟨rfl, _⟩ := assigns
    exact ⟨rfl, rfl, rfl⟩
  | recording states =>
    cases states with
    | nil => exact assigns.elim
    | cons state states =>
      obtain ⟨moved, _, rfl⟩ := assigns
      exact ⟨rfl, rfl, rfl⟩
  | _ => exact assigns.elim

end Answers

/-- What an answered command does to a delivery that works on a session. -/
theorem World.working_moves (payload : QueuePayload) (work : Work) (step : Step)
    (command : Command) (allowed : step.allows payload work command)
    (sound : command.total = false → oracle.fault = none) :
    Moves world oracle (.working payload work step) command (world.answer oracle command).1
      (Stage.next (.working payload work step) command (world.answer oracle command).2) := by
  obtain ⟨usable, allowed⟩ := allowed
  cases command with
  | hold held =>
    rcases allowed with assigns | ⟨failure, rfl, fresh, canFail⟩
    · have reached : Stage.next (.working payload work step) (.hold held) (.ok ()) =
          .working payload held step.assigned :=
        congrArg (Stage.working payload held) (if_pos assigns.sameJob.2.2)
      change Moves world oracle _ (.hold held) world (Stage.next _ (.hold held) (.ok ()))
      rw [reached]
      exact .holds payload work held step assigns
    · have reached :
          Stage.next (.working payload work step) (.hold (work.failed failure)) (.ok ()) =
          .working payload (work.failed failure) .failed := by
        apply congrArg (Stage.working payload (work.failed failure))
        apply if_neg
        simp [Work.failed, ExecutionJob.afterFailure]
      change Moves world oracle _ (.hold (work.failed failure)) world
        (Stage.next _ (.hold (work.failed failure)) (.ok ()))
      rw [reached]
      exact .handles payload work step failure fresh canFail
  | assign id previous target =>
    obtain ⟨state, states, moved, rfl, advanced, rfl, rfl, rfl⟩ := allowed
    exact .assigns payload work state states moved advanced
  | commit changes =>
    obtain ⟨rfl, commits⟩ := allowed
    cases committed : world.database.commit work.changes with
    | ok database =>
      have answered : world.answer oracle (.commit work.changes) =
          (world.wrote database work.changes, .ok ()) := by
        simp [World.answer, committed, World.wrote]
      rw [answered]
      exact .commits payload work step database (usable rfl) commits committed
    | error failure =>
      have answered : world.answer oracle (.commit work.changes) = (world, .error failure) := by
        simp [World.answer, committed]
      rw [answered]
      exact .raises payload work step _ world.accepted (.inr rfl) (.inl rfl) (.inl rfl)
  | findJob id =>
    obtain ⟨rfl, expired⟩ := allowed
    cases found : world.database.findJob work.job.id with
    | some row =>
      have answered : world.answer oracle (.findJob work.job.id) = (world, .ok (some row)) := by
        simp [World.answer, found]
      rw [answered]
      exact .rereads payload work step row (usable rfl) expired found
    | none =>
      have answered : world.answer oracle (.findJob work.job.id) = (world, .ok none) := by
        simp [World.answer, found]
      rw [answered]
      exact .losesJob payload work step found
  | findOrder id =>
    obtain ⟨rfl, expired⟩ := allowed
    cases found : world.database.findOrder work.order.id with
    | some row =>
      have answered : world.answer oracle (.findOrder work.order.id) = (world, .ok (some row)) := by
        simp [World.answer, found]
      rw [answered]
      exact .reopens payload work step row (usable rfl) expired found
    | none =>
      have answered : world.answer oracle (.findOrder work.order.id) = (world, .ok none) := by
        simp [World.answer, found]
      rw [answered]
      exact .losesOrder payload work step expired found
  | findPosition positionId =>
    obtain ⟨states, rfl, rfl⟩ := allowed
    exact .locates payload work states
  | submitOrder request =>
    obtain ⟨rfl, rfl⟩ := allowed
    exact .submits payload work (sound rfl)
  | rpush pushed =>
    obtain ⟨rfl, fresh, unfinished, same⟩ := allowed
    exact .pushes payload pushed work fresh unfinished same
  | availableBalance | now | ask | aside => exact .rests _ _
  | _ => exact allowed.elim

theorem World.commit_answer (changes : List Change) :
    (∃ database, world.database.commit changes = .ok database ∧
      world.answer oracle (.commit changes) = (world.wrote database changes, .ok ())) ∨
    ∃ failure, world.answer oracle (.commit changes) = (world, .error failure) := by
  cases committed : world.database.commit changes with
  | ok database => exact .inl ⟨database, rfl, by simp [World.answer, committed, World.wrote]⟩
  | error failure => exact .inr ⟨failure, by simp [World.answer, committed]⟩

theorem World.flush_answer (changes : List Change) :
    (∃ database, world.database.commit changes = .ok database ∧
      world.answer oracle (.flush changes) = (world, .ok ())) ∨
    ∃ failure, world.answer oracle (.flush changes) = (world, .error failure) := by
  cases committed : world.database.commit changes with
  | ok database => exact .inl ⟨database, rfl, by simp [World.answer, committed, Except.map]⟩
  | error failure => exact .inr ⟨failure, by simp [World.answer, committed, Except.map]⟩

theorem World.inert_moves {stage : Stage} {command : Command} (inert : Stage.inert command)
    (stays : ∀ reply, stage.next command (.ok reply) = stage) :
    Moves world oracle stage command (world.answer oracle command).1
      (stage.next command (world.answer oracle command).2) := by
  have answered : ∃ reply, world.answer oracle command = (world, .ok reply) := by
    cases command with
    | commit changes =>
      cases (inert : changes = [])
      exact ⟨(), World.answer_commit_nil⟩
    | now => exact ⟨oracle.time, rfl⟩
    | ask question ofSession => exact ⟨oracle.answer, rfl⟩
    | aside name ofSession => exact ⟨(), rfl⟩
    | _ => exact inert.elim
  obtain ⟨reply, answered⟩ := answered
  rw [answered, stays]
  exact .rests stage command

/-- What an answered command of a signal does. -/
theorem World.signal_moves {stage : Stage} {command : Command} (allowed : stage.allows command)
    (signals : (∃ request, stage = .signalling request) ∨
      (∃ request id, stage = .numbered request id) ∨
      (∃ request job stored room, stage = .admitted request job stored room) ∨
      ∃ job, stage = .pushed job) :
    Moves world oracle stage command (world.answer oracle command).1
      (stage.next command (world.answer oracle command).2) := by
  rcases signals with
      ⟨request, rfl⟩ | ⟨request, id, rfl⟩ | ⟨request, job, stored, room, rfl⟩ | ⟨job, rfl⟩
  · cases command with
    | uuid4 => exact .numbers request
    | validatePrecheck | findJobByKey => exact .rests _ _
    | _ => exact world.inert_moves oracle allowed fun _ => rfl
  · cases command with
    | flush changes =>
      obtain ⟨key, side, size, positive, rfl⟩ := allowed
      rcases world.flush_answer oracle [.insertJob (newJob id key request
        (upper (request.symbol.getD "")) side size)] with
          ⟨database, fresh, answered⟩ | ⟨failure, answered⟩
      · rw [answered]
        exact .inserts request id key side size database positive fresh
      · rw [answered]
        exact .ends _ _ (fun _ _ _ => Stage.noConfusion)
    | _ => exact world.inert_moves oracle allowed fun _ => rfl
  · cases command with
    | openNotional userId =>
      cases (allowed : userId = request.userId)
      exact .checks request job stored room
    | commit changes =>
      rcases world.commit_answer oracle changes with
          ⟨database, committed, answered⟩ | ⟨failure, answered⟩
      · rw [answered]
        by_cases saved : changes = saveJob stored job
        · subst saved
          have reached : Stage.next (.admitted request job stored room)
              (.commit (saveJob stored job)) (.ok ()) = .admitted request job (some job) room :=
            if_pos rfl
          exact reached ▸ .saves request job stored room database committed
        · have reached : Stage.next (.admitted request job stored room) (.commit changes) (.ok ()) =
              .quiet := if_neg saved
          obtain rfl | ⟨reason, rfl⟩ := allowed
          · exact absurd rfl saved
          · exact reached ▸ .rejects request job stored room reason database committed
      · rw [answered]
        exact .ends _ _ (fun _ _ _ => Stage.noConfusion)
    | rpush payload =>
      obtain ⟨rfl, rfl, notional, rfl, fits⟩ := allowed
      exact .enqueues request job notional fits
    | evaluateCanary => exact .rests _ _
    | _ => exact world.inert_moves oracle allowed fun _ => rfl
  · cases command with
    | commit changes =>
      cases (allowed : changes = saveJob none job.accepted)
      rcases world.commit_answer oracle (saveJob none job.accepted) with
        ⟨database, committed, answered⟩ | ⟨failure, answered⟩
      · rw [answered]
        exact .accepts job database committed
      · rw [answered]
        exact .ends _ _ (fun _ _ _ => Stage.noConfusion)
    | _ => exact world.inert_moves oracle allowed fun _ => rfl

/-- What an answered command of a delivery does before its session is opened. -/
theorem World.delivery_moves {stage : Stage} {command : Command} (allowed : stage.allows command)
    (delivers : stage = .fetching ∨ (∃ payload, stage = .looking payload) ∨
      (∃ payload job, stage = .found payload job) ∨ (∃ payload job, stage = .ordering payload job) ∨
      ∃ payload job order, stage = .inserting payload job order) :
    Moves world oracle stage command (world.answer oracle command).1
      (stage.next command (world.answer oracle command).2) := by
  rcases delivers with rfl | ⟨payload, rfl⟩ | ⟨payload, job, rfl⟩ | ⟨payload, job, rfl⟩ |
    ⟨payload, job, order, rfl⟩
  · cases command with
    | lpop =>
      cases queue : world.queue with
      | nil =>
        have answered : world.answer oracle .lpop = (world, .ok none) := by
          obtain ⟨_, _, _, _, _, _⟩ := world
          cases queue
          rfl
        rw [answered]
        exact .ends _ _ (fun _ _ _ => Stage.noConfusion)
      | cons payload later =>
        have answered : world.answer oracle .lpop =
            ({ world with queue := later }, .ok (some payload)) := by
          simp [World.answer, queue]
        rw [answered]
        exact .pops payload later queue
    | _ => exact world.inert_moves oracle allowed fun _ => rfl
  · cases command with
    | findJob id =>
      cases found : world.database.findJob id with
      | none =>
        have answered : world.answer oracle (.findJob id) = (world, .ok none) := by
          simp [World.answer, found]
        rw [answered]
        exact .ends _ _ (fun _ _ _ => Stage.noConfusion)
      | some job =>
        have answered : world.answer oracle (.findJob id) = (world, .ok (some job)) := by
          simp [World.answer, found]
        rw [answered]
        obtain ⟨_, rfl⟩ := Database.findJob_some.mp found
        by_cases terminal : upper job.state ∈ terminalStates
        · have reached :
              Stage.next (.looking payload) (.findJob job.id) (.ok (some job)) = .quiet :=
            if_pos terminal
          exact reached ▸ .ends _ _ (fun _ _ _ => Stage.noConfusion)
        · have reached : Stage.next (.looking payload) (.findJob job.id) (.ok (some job)) =
              .found payload job := if_neg terminal
          exact reached ▸ .finds payload job allowed found terminal
    | _ => exact world.inert_moves oracle allowed fun _ => rfl
  · cases command with
    | rpush pushed =>
      cases (allowed : pushed = payload)
      exact .defers payload job
    | orderOfJob jobId =>
      cases (allowed : jobId = job.id)
      cases found : world.database.orderOfJob job.id with
      | none =>
        have answered : world.answer oracle (.orderOfJob job.id) = (world, .ok none) := by
          simp [World.answer, found]
        rw [answered]
        exact .misses payload job found
      | some order =>
        have answered : world.answer oracle (.orderOfJob job.id) = (world, .ok (some order)) := by
          simp [World.answer, found]
        rw [answered]
        exact .opens payload job order found
    | _ => exact world.inert_moves oracle allowed fun _ => rfl
  · cases command with
    | uuid4 => exact .names payload job
    | _ => exact world.inert_moves oracle allowed fun _ => rfl
  · cases command with
    | flush changes =>
      cases (allowed : changes = [.insertOrder order])
      rcases world.flush_answer oracle [.insertOrder order] with
        ⟨database, fresh, answered⟩ | ⟨failure, answered⟩
      · rw [answered]
        exact .creates payload job order database fresh
      · rw [answered]
        exact .ends _ _ (fun _ _ _ => Stage.noConfusion)
    | _ => exact world.inert_moves oracle allowed fun _ => rfl

/-- What an answered command of a reconciliation does. -/
theorem World.reconciling_moves (current : Option (Order × StatusPayload)) (rest : List Order)
    (changes : List Change) (command : Command)
    (allowed : Stage.allows (.reconciling current rest changes) command)
    (sound : command.total = false → oracle.fault = none) :
    Moves world oracle (.reconciling current rest changes) command (world.answer oracle command).1
      (Stage.next (.reconciling current rest changes) command (world.answer oracle command).2) := by
  have unmatched : ∀ command : Command, Stage.inert command →
      (∀ changes, command ≠ .commit changes) →
      ∀ reply, Stage.next (.reconciling current rest changes) command (.ok reply) =
        .reconciling current rest changes := by
    intro command inert other reply
    cases command with
    | commit changes => exact absurd rfl (other changes)
    | now | ask | aside => cases rest <;> cases current <;> rfl
    | _ => exact inert.elim
  cases command with
  | orderStatus symbol orderId =>
    have asked : ∃ order orders, rest = order :: orders ∧ symbol = order.symbol ∧
        orderId = order.externalOrderId.getD "" := by
      cases rest <;> exact allowed
    obtain ⟨order, orders, rfl, rfl, rfl⟩ := asked
    exact .asks current order orders changes (sound rfl)
  | assign id previous target =>
    have corrected : ∃ order payload, current = some (order, payload) ∧ id = order.id ∧
        previous = order.state ∧ target = upper payload.status ∧ target ≠ "" ∧
        target ≠ upper order.state := by
      cases rest <;> exact allowed
    obtain ⟨order, payload, rfl, rfl, rfl, rfl, named, differs⟩ := corrected
    have reached : Stage.next (.reconciling (some (order, payload)) rest changes)
        (.assign order.id order.state (upper payload.status)) (.ok ()) =
          .reconciling (some (order, payload)) rest
            (changes ++ [.updateOrder order (order.reconciled payload)]) := by
      cases rest <;> rfl
    exact reached ▸ .corrects order payload rest changes named differs
  | findJob id =>
    have followed : ∃ order payload, current = some (order, payload) ∧ id = order.executionJobId ∧
        upper payload.status ∈ ["FILLED", "CANCELED", "FAILED"] := by
      cases rest <;> exact allowed
    obtain ⟨order, payload, rfl, rfl, named⟩ := followed
    cases found : world.database.findJob order.executionJobId with
    | none =>
      have answered : world.answer oracle (.findJob order.executionJobId) = (world, .ok none) := by
        simp [World.answer, found]
      have reached : Stage.next (.reconciling (some (order, payload)) rest changes)
          (.findJob order.executionJobId) (.ok none) =
            .reconciling (some (order, payload)) rest changes := by
        cases rest <;> rfl
      rw [answered, reached]
      exact .rests _ _
    | some job =>
      have answered : world.answer oracle (.findJob order.executionJobId) =
          (world, .ok (some job)) := by
        simp [World.answer, found]
      have reached : Stage.next (.reconciling (some (order, payload)) rest changes)
          (.findJob order.executionJobId) (.ok (some job)) =
            .reconciling (some (order, payload)) rest
              (changes ++ saveJob (some job) { job with state := upper payload.status }) := by
        cases rest <;> rfl
      rw [answered, reached]
      exact .follows order payload rest changes job found named
  | commit committed =>
    have written : rest = [] ∧ committed = changes := by
      cases rest <;> exact allowed
    obtain ⟨rfl, rfl⟩ := written
    rcases world.commit_answer oracle committed with
        ⟨database, written, answered⟩ | ⟨failure, answered⟩
    · rw [answered]
      have reached : Stage.next (.reconciling current [] committed) (.commit committed) (.ok ()) =
          .quiet := by
        cases current <;> rfl
      exact reached ▸ .writes current committed database written
    · rw [answered]
      exact .ends _ _ (fun _ _ _ => Stage.noConfusion)
  | now | ask | aside => exact world.inert_moves oracle trivial (unmatched _ trivial (by simp))
  | _ => cases rest <;> exact allowed.elim

theorem World.answer_moves (stage : Stage) (command : Command) (allowed : stage.allows command)
    (sound : command.total = false → oracle.fault = none) :
    Moves world oracle stage command (world.answer oracle command).1
      (stage.next command (world.answer oracle command).2) := by
  cases stage with
  | idle => exact allowed.elim
  | quiet =>
    have inert : Stage.inert command := by cases command <;> exact allowed
    refine world.inert_moves oracle inert fun reply => ?_
    cases command <;> rfl
  | signalling request => exact world.signal_moves oracle allowed (.inl ⟨request, rfl⟩)
  | numbered request id =>
    exact world.signal_moves oracle allowed (.inr (.inl ⟨request, id, rfl⟩))
  | admitted request job stored room =>
    exact world.signal_moves oracle allowed
      (.inr (.inr (.inl ⟨request, job, stored, room, rfl⟩)))
  | pushed job => exact world.signal_moves oracle allowed (.inr (.inr (.inr ⟨job, rfl⟩)))
  | fetching => exact world.delivery_moves oracle allowed (.inl rfl)
  | looking payload =>
    exact world.delivery_moves oracle allowed (.inr (.inl ⟨payload, rfl⟩))
  | found payload job =>
    exact world.delivery_moves oracle allowed (.inr (.inr (.inl ⟨payload, job, rfl⟩)))
  | ordering payload job =>
    exact world.delivery_moves oracle allowed
      (.inr (.inr (.inr (.inl ⟨payload, job, rfl⟩))))
  | inserting payload job order =>
    exact world.delivery_moves oracle allowed
      (.inr (.inr (.inr (.inr ⟨payload, job, order, rfl⟩))))
  | working payload work step =>
    exact world.working_moves oracle payload work step command allowed sound
  | listing =>
    cases command with
    | openOrders limit =>
      obtain ⟨distinct, listed⟩ := @listed_orders world oracle limit _ rfl
      exact .lists limit _ distinct listed
    | _ => exact world.inert_moves oracle allowed fun _ => rfl
  | reconciling current rest changes =>
    exact world.reconciling_moves oracle current rest changes command allowed sound

theorem Work.answered_error (work : Work) (command : Command) (failure : String) :
    work.answered command (.error failure) = work.hurt command := by
  cases command <;> rfl

/-- Only an order that the exchange took can be left by a command that raised. -/
theorem World.raised_accepted (command : Command) :
    world.raised oracle command = world ∨ ∃ request, command = .submitOrder request ∧
      world.raised oracle command = { world with accepted := world.accepted ++ [request] } := by
  cases command with
  | submitOrder request =>
    by_cases accepts : oracle.accepts = true
    · exact .inr ⟨request, rfl, if_pos accepts⟩
    · exact .inl (if_neg accepts)
  | _ => exact .inl rfl

/-- A command that raised ends the task, or leaves it to the handler. -/
theorem World.raised_moves (stage : Stage) (command : Command) (allowed : stage.allows command)
    (fault : oracle.fault ≠ none) (partially : command.total = false) (failure : String) :
    Moves world oracle stage command (world.raised oracle command)
      (stage.next command (.error failure)) := by
  have unsubmitted : (∀ request, command ≠ .submitOrder request) →
      world.raised oracle command = world := by
    intro other
    rcases world.raised_accepted oracle command with same | ⟨request, isSubmit, _⟩
    · exact same
    · exact absurd isSubmit (other request)
  cases stage with
  | working payload work step =>
    have reached : Stage.next (.working payload work step) command (.error failure) =
        .working payload (work.hurt command) step.raised := by
      change Stage.working payload _ _ = _
      rw [work.answered_error, Step.next_error]
    have pauses : command.ofSession = true ∨ step.Pauses := by
      obtain ⟨_, allowed⟩ := allowed
      cases command with
      | hold held => cases partially
      | assign id previous target => cases partially
      | now => cases partially
      | submitOrder request => exact .inr (allowed.1 ▸ trivial)
      | rpush pushed => exact .inr (allowed.1 ▸ trivial)
      | availableBalance => exact .inr allowed
      | ask question ofSession => exact .inr allowed
      | aside name ofSession => exact .inr allowed
      | commit changes => exact .inl rfl
      | findJob id => exact .inl rfl
      | findOrder id => exact .inl rfl
      | findPosition positionId => exact .inl rfl
      | _ => exact allowed.elim
    rw [reached]
    rcases world.raised_accepted oracle command with same | ⟨request, rfl, taken⟩
    · rw [same]
      exact .raises payload work step command world.accepted (.inl fault) (.inl rfl) pauses
    · obtain ⟨_, rfl, rfl⟩ := allowed
      rw [taken]
      exact .raises payload work .preparing _ _ (.inl fault) (.inr ⟨rfl, rfl⟩) pauses
  | reconciling current rest changes =>
    have other : ∀ request, command ≠ .submitOrder request := by
      rintro request rfl
      cases rest <;> exact allowed
    rw [unsubmitted other]
    cases rest with
    | nil =>
      have reached :
          Stage.next (.reconciling current [] changes) command (.error failure) = .quiet := by
        cases command <;> rfl
      exact reached ▸ .ends _ _ (fun _ _ _ => Stage.noConfusion)
    | cons order orders =>
      by_cases asked : ∃ symbol orderId, command = .orderStatus symbol orderId
      · obtain ⟨symbol, orderId, rfl⟩ := asked
        exact .skips current order orders changes _
      · have reached : Stage.next (.reconciling current (order :: orders) changes) command
            (.error failure) = .quiet := by
          cases command with
          | orderStatus symbol orderId => exact absurd ⟨symbol, orderId, rfl⟩ asked
          | _ => rfl
        exact reached ▸ .ends _ _ (fun _ _ _ => Stage.noConfusion)
  | _ =>
    have other : ∀ request, command ≠ .submitOrder request := by
      rintro request rfl
      exact allowed
    rw [unsubmitted other]
    exact .ends _ _ (fun _ _ _ => Stage.noConfusion)

theorem World.perform_moves (stage : Stage) (command : Command) (allowed : stage.allows command) :
    Moves world oracle stage command (world.perform oracle command).1
      (stage.next command (world.perform oracle command).2) := by
  unfold World.perform
  cases fault : oracle.fault with
  | none => exact world.answer_moves oracle stage command allowed fun _ => fault
  | some failure =>
    dsimp only
    split
    · rename_i total
      refine world.answer_moves oracle stage command allowed fun partially => ?_
      rw [total] at partially
      cases partially
    · rename_i partially
      exact world.raised_moves oracle stage command allowed (by simp [fault])
        (by simpa using partially)
        failure

end Signal
