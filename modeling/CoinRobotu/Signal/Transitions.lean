import CoinRobotu.Interleaving.Solo
import CoinRobotu.Signal.AtMostOnce
import CoinRobotu.Signal.Sessions

/-!
# The states of an order

The engine moves an order by `advance_order_state`, which knows the transitions,
and the reconciliation writes the status that the exchange reports, whatever it
is. Where every report about a listed order is empty, its own state or one of
its transitions, each assignment is a transition, the committed state of an
order moves along the transitions from any point of a run to any later one, and
a terminal order keeps its state. Tasks run one after another here.
-/

open Interleaving

namespace Signal

open Runtime (upper)

/-- The states that can be reached along `STATE_TRANSITIONS`. -/
abbrev StatePath : String → String → Prop :=
  Relation.ReflTransGen fun state next => next ∈ stateTransitions state

/-- The exchange reports nothing new about an order, or a transition of it. -/
def Reports (order : Order) (payload : StatusPayload) : Prop :=
  upper payload.status = "" ∨ upper payload.status = upper order.state ∨
    upper payload.status ∈ stateTransitions order.state

instance (order : Order) (payload : StatusPayload) : Decidable (Reports order payload) := by
  unfold Reports
  infer_instance

/-- Tasks run one after another, and the exchange reports only transitions to the
reconciliation. -/
def lawful : Discipline services World Oracle Task Stage where
  starts view _ _ := ∀ other, view.phases other = .idle
  runs view thread oracle command := ∀ current order orders changes,
    view.phases thread = .reconciling current (order :: orders) changes →
      (∃ symbol orderId, command = .orderStatus symbol orderId) → oracle.fault = none →
        Reports order oracle.reply.toStatus
  dies _ _ := True

section Paths

variable {state next : String}

theorem transitions_listed (transition : next ∈ stateTransitions state) :
    next ∈ orderStates := by
  unfold stateTransitions at transition
  split_ifs at transition
  all_goals simp only [orderStates, List.mem_cons, List.not_mem_nil, or_false] at transition ⊢
  all_goals tauto

theorem StatePath.listed (path : StatePath state next)
    (listed : state ∈ orderStates) : next ∈ orderStates := by
  induction path with
  | refl => exact listed
  | tail _ transition _ => exact transitions_listed transition

theorem StatePath.terminal (path : StatePath state next)
    (terminal : state ∈ terminalStates) : next = state := by
  induction path with
  | refl => rfl
  | tail _ transition same =>
    have none : ∀ state ∈ terminalStates, stateTransitions state = [] := by decide
    rw [same, none state terminal] at transition
    cases transition

theorem listed_upper {state : String} (listed : state ∈ orderStates) :
    upper (if state = "" then "CREATED" else state) = state := by
  have same : ∀ state ∈ orderStates, upper (if state = "" then "CREATED" else state) = state := by
    decide +kernel
  exact same state listed

theorem advanceOrderState_transition {order moved : Order} {state : String}
    (advanced : advanceOrderState order state = .ok moved) (listed : order.state ∈ orderStates) :
    moved.state ∈ stateTransitions order.state := by
  obtain ⟨transition, failReason, rejectReason, rfl⟩ := advanceOrderState_ok advanced
  rw [listed_upper listed] at transition
  exact transition

end Paths

section Tables

/-- Every order is still there, and its state moved along the transitions. -/
def OrderPaths (before after : Database) : Prop :=
  ∀ id order, before.findOrder id = some order →
    ∃ now, after.findOrder id = some now ∧ StatePath order.state now.state

variable {database middle after : Database}

theorem OrderPaths.of_orders (same : after.orders = database.orders) :
    OrderPaths database after := by
  intro id order found
  refine ⟨order, ?_, .refl⟩
  unfold Database.findOrder at found ⊢
  rw [same]
  exact found

theorem OrderPaths.trans (first : OrderPaths database middle) (second : OrderPaths middle after) :
    OrderPaths database after := by
  intro id order found
  obtain ⟨now, present, path⟩ := first id order found
  obtain ⟨last, kept, further⟩ := second id now present
  exact ⟨last, kept, path.trans further⟩

/-- What a reconciliation may write about the orders of a database. -/
def Corrects (database : Database) : Change → Prop
  | .updateJob _ _ => True
  | .updateOrder stored current =>
      database.findOrder stored.id = some stored ∧ StatePath stored.state current.state
  | _ => False

theorem correct_path {changes : List Change}
    (corrects : ∀ change ∈ changes, Corrects database change)
    {row : Order} (found : database.findOrder row.id = some row) :
    StatePath row.state (correctAll changes row).state := by
  have moved : ∀ current : Order, current.id = row.id → StatePath row.state current.state →
      StatePath row.state (correctAll changes current).state := by
    induction changes with
    | nil => exact fun _ _ path => path
    | cons change changes ih =>
      intro current same path
      apply ih fun other inside => corrects other (List.mem_cons_of_mem _ inside)
      · rw [change.correct_id, same]
      · cases change with
        | updateOrder stored target =>
          obtain ⟨known, further⟩ := corrects _ List.mem_cons_self
          unfold Change.correct
          dsimp only
          split
          · rename_i isStored
            have isRow : stored = row := by
              rw [← isStored, same, found] at known
              exact (Option.some.inj known).symm
            have merged : (Order.merge stored target current).state =
                pick stored.state target.state current.state := rfl
            rw [merged]
            unfold pick
            split
            · exact path
            · exact isRow ▸ further
          · exact path
        | _ => exact path
  exact moved row rfl .refl

theorem commit_corrections {changes : List Change}
    (corrects : ∀ change ∈ changes, Corrects database change)
    (committed : database.commit changes = .ok after)
    (listed : ∀ order ∈ database.orders, order.state ∈ orderStates) :
    OrderPaths database after ∧ ∀ order ∈ after.orders, order.state ∈ orderStates := by
  have written : after.orders = database.orders.map (correctAll changes) := by
    rw [Database.commit_ok committed]
    exact database.writeAll_orders fun order inside => corrects _ inside
  have path : ∀ row ∈ database.orders,
      StatePath row.state (correctAll changes row).state :=
    fun row inside => correct_path corrects (Database.findOrder_some.mpr ⟨inside, rfl⟩)
  constructor
  · intro id order found
    obtain ⟨inside, same⟩ := Database.findOrder_some.mp found
    refine ⟨_, Database.findOrder_some.mpr ⟨?_, ?_⟩, path order inside⟩
    · rw [written]
      exact List.mem_map_of_mem inside
    · rw [correctAll_id, same]
  · intro order inside
    rw [written] at inside
    obtain ⟨row, isRow, rfl⟩ := List.mem_map.mp inside
    exact (path row isRow).listed (listed row isRow)

end Tables

section Sessions

/-- The order of a session moved along the transitions since it was read. -/
structure Tracked (database : Database) (work : Work) : Prop where
  held : Held database work
  path : ∀ stored, work.storedOrder = some stored → StatePath stored.state work.order.state
  listed : work.order.state ∈ orderStates
  reopened : work.orderExpired = true → ∃ stored, work.storedOrder = some stored

variable {world : World} {work held : Work} {step : Step}

section Tracking

variable (tracked : Tracked world.database work)

include tracked

theorem Tracked.same (holds : Held world.database held)
    (state : held.order.state = work.order.state) (stored : held.storedOrder = work.storedOrder)
    (expired : held.orderExpired = work.orderExpired) : Tracked world.database held where
  held := holds
  path row isStored := state ▸ tracked.path row (stored ▸ isStored)
  listed := state ▸ tracked.listed
  reopened isExpired := stored ▸ tracked.reopened (expired ▸ isExpired)

theorem Tracked.assigns (assigns : step.Assigns work held) :
    Tracked world.database held := by
  have holds := tracked.held.assigns assigns
  cases step with
  | replied | filled =>
    cases assigns
    exact tracked.same holds rfl rfl rfl
  | answered result =>
    obtain ⟨rfl, _⟩ := assigns
    exact tracked.same holds rfl rfl rfl
  | recording states =>
    cases states with
    | nil => exact assigns.elim
    | cons state states =>
      obtain ⟨moved, advanced, rfl⟩ := assigns
      have transition := advanceOrderState_transition advanced tracked.listed
      exact
        { held := holds
          path := fun row isStored => (tracked.path row isStored).tail transition
          listed := transitions_listed transition
          reopened := tracked.reopened }
  | _ => exact assigns.elim

theorem Tracked.commits {database : Database}
    (committed : world.database.commit work.changes = .ok database) :
    Tracked database work.committed where
  held := tracked.held.commits committed
  path row isStored := by
    cases isStored
    exact .refl
  listed := tracked.listed
  reopened _ := ⟨work.order, rfl⟩

theorem Tracked.commit_paths {database : Database}
    (committed : world.database.commit work.changes = .ok database)
    (listed : ∀ order ∈ world.database.orders, order.state ∈ orderStates) :
    OrderPaths world.database database ∧ ∀ order ∈ database.orders, order.state ∈ orderStates := by
  constructor
  · intro id order found
    have written := tracked.held.commit_order committed id
    by_cases isOwn : id = work.order.id
    · subst isOwn
      rw [if_pos rfl] at written
      cases isStored : work.storedOrder with
      | none =>
        rw [Held.commit_fresh committed isStored] at found
        cases found
      | some stored =>
        have same : stored = order :=
          Option.some.inj ((tracked.held.order stored isStored).symm.trans found)
        exact ⟨work.order, written, same ▸ tracked.path stored isStored⟩
    · rw [if_neg isOwn] at written
      exact ⟨order, written.trans found, .refl⟩
  · intro order inside
    have found : database.findOrder order.id = some order :=
      Database.findOrder_some.mpr ⟨inside, rfl⟩
    rw [tracked.held.commit_order committed] at found
    split at found
    · exact Option.some.inj found ▸ tracked.listed
    · exact listed order (Database.findOrder_some.mp found).1

theorem Tracked.reopens {row : Order} (expired : work.orderExpired = true)
    (found : world.database.findOrder work.order.id = some row)
    (listed : ∀ order ∈ world.database.orders, order.state ∈ orderStates) :
    Tracked world.database
      { work with storedOrder := some row, order := row, orderExpired := false } where
  held := tracked.held.reopen (tracked.reopened expired) found
  path stored isStored := by
    cases isStored
    exact .refl
  listed := listed row (Database.findOrder_some.mp found).1
  reopened isExpired := nomatch isExpired

end Tracking

end Sessions

section Invariant

/-- What holds of the stage of the one task at work. -/
def Stage.Lawful (database : Database) : Stage → Prop
  | .found _ job => database.findJob job.id = some job
  | .ordering _ job => database.findJob job.id = some job
  | .inserting _ job order => database.findJob job.id = some job ∧ order = newOrder order.id job
  | .working _ work _ => Tracked database work
  | .reconciling current rest changes =>
      (∀ order payload, current = some (order, payload) →
        database.findOrder order.id = some order ∧ Reports order payload) ∧
      (∀ order ∈ rest, database.findOrder order.id = some order) ∧
      ∀ change ∈ changes, Corrects database change
  | _ => True

variable {world after : World} {stage reached : Stage} {oracle : Oracle} {command : Command}

/-- What every move of a lawful run keeps. -/
theorem Stage.Lawful.moves (law : stage.Lawful world.database)
    (listed : ∀ order ∈ world.database.orders, order.state ∈ orderStates)
    (reports : ∀ current order orders changes,
      stage = .reconciling current (order :: orders) changes →
        (∃ symbol orderId, command = .orderStatus symbol orderId) → oracle.fault = none →
          Reports order oracle.reply.toStatus)
    (moves : Moves world oracle stage command after reached) :
    (∀ order ∈ after.database.orders, order.state ∈ orderStates) ∧
      reached.Lawful after.database ∧ OrderPaths world.database after.database := by
  have unchanged : OrderPaths world.database world.database := OrderPaths.of_orders rfl
  have saved : ∀ {stored : Option ExecutionJob} {job : ExecutionJob} {database : Database},
      world.database.commit (saveJob stored job) = .ok database →
        (∀ order ∈ database.orders, order.state ∈ orderStates) ∧
          OrderPaths world.database database := by
    intro stored job database committed
    have same := commit_saveJob_orders committed
    exact ⟨same ▸ listed, OrderPaths.of_orders same⟩
  cases moves with
  | rests | misses | assigns | losesJob | losesOrder | locates | submits | pushes =>
    exact ⟨listed, law, unchanged⟩
  | ends | numbers | inserts | checks | enqueues | pops | defers =>
    exact ⟨listed, trivial, unchanged⟩
  | saves request job stored room database committed
  | rejects request job stored room reason database committed | accepts job database committed =>
    exact ⟨(saved committed).1, trivial, (saved committed).2⟩
  | finds payload job named found unfinished => exact ⟨listed, found, unchanged⟩
  | opens payload job order found =>
    obtain ⟨inside, owner⟩ := Database.orderOfJob_some found
    have same : ∀ row, some order = some row → row = order ∧ order ∈ world.database.orders :=
      fun row isStored => ⟨(Option.some.inj isStored).symm, inside⟩
    have tracked : Tracked world.database (.opened job (some order) order) :=
      { held := Held.opened law same owner
        path := fun row isStored => by
          cases isStored
          exact .refl
        listed := listed order inside
        reopened := nofun }
    exact ⟨listed, tracked, unchanged⟩
  | names payload job => exact ⟨listed, ⟨law, rfl⟩, unchanged⟩
  | creates payload job order database fresh =>
    obtain ⟨found, isNew⟩ := law
    have owner : order.executionJobId = job.id := isNew ▸ rfl
    have created : order.state = "CREATED" := isNew ▸ rfl
    have tracked : Tracked world.database (.opened job none order) :=
      { held := Held.opened found nofun owner
        path := nofun
        listed := by
          change order.state ∈ orderStates
          rw [created]
          decide
        reopened := nofun }
    exact ⟨listed, tracked, unchanged⟩
  | lists limit orders distinct known =>
    refine ⟨listed, ⟨fun _ _ none => (nomatch none), fun order inside => (known order inside).1,
      fun _ inside => nomatch inside⟩, unchanged⟩
  | asks current order orders changes unfailing =>
    obtain ⟨_, rest, corrects⟩ := law
    refine ⟨listed,
      ⟨fun other payload isCurrent => ?_, fun other inside => ?_, corrects⟩, unchanged⟩
    · cases isCurrent
      exact ⟨rest order List.mem_cons_self, reports current order orders changes rfl
        ⟨_, _, rfl⟩ unfailing⟩
    · exact rest other (List.mem_cons_of_mem _ inside)
  | skips current order orders changes command =>
    obtain ⟨_, rest, corrects⟩ := law
    exact ⟨listed, ⟨nofun,
      fun other inside => rest other (List.mem_cons_of_mem _ inside), corrects⟩, unchanged⟩
  | corrects order payload orders changes named differs =>
    obtain ⟨current, rest, corrects⟩ := law
    obtain ⟨found, report⟩ := current order payload rfl
    have transition : upper payload.status ∈ stateTransitions order.state :=
      (report.resolve_left named).resolve_left differs
    have state : (order.reconciled payload).state = upper payload.status := by
      unfold Order.reconciled
      dsimp only
      split <;> rfl
    refine ⟨listed, ⟨current, rest, fun change inside => ?_⟩, unchanged⟩
    rcases List.mem_append.mp inside with earlier | last
    · exact corrects change earlier
    · cases List.mem_singleton.mp last
      exact ⟨found, state ▸ .single transition⟩
  | follows order payload orders changes job found followed =>
    obtain ⟨current, rest, corrects⟩ := law
    refine ⟨listed, ⟨current, rest, fun change inside => ?_⟩, unchanged⟩
    rcases List.mem_append.mp inside with earlier | last
    · exact corrects change earlier
    · unfold saveJob at last
      dsimp only at last
      split at last
      · cases last
      · cases List.mem_singleton.mp last
        trivial
  | writes current changes database committed =>
    obtain ⟨_, _, corrects⟩ := law
    obtain ⟨paths, listedStill⟩ := commit_corrections corrects committed listed
    exact ⟨listedStill, trivial, paths⟩
  | raises payload work step command accepted cause taken pauses =>
    have tracked : Tracked world.database work := law
    have fields : (work.hurt command).order = work.order ∧
        (work.hurt command).storedOrder = work.storedOrder ∧
        (work.hurt command).orderExpired = work.orderExpired := by
      unfold Work.hurt
      split <;> exact ⟨rfl, rfl, rfl⟩
    obtain ⟨order, stored, expired⟩ := fields
    exact ⟨listed, tracked.same (tracked.held.hurt command) (order ▸ rfl) stored expired, unchanged⟩
  | holds payload work next step assigns => exact ⟨listed, Tracked.assigns law assigns, unchanged⟩
  | handles payload work step failure fresh canFail =>
    have tracked : Tracked world.database work := law
    exact ⟨listed, tracked.same (tracked.held.failed failure) rfl rfl rfl, unchanged⟩
  | commits payload work step database usable commits committed =>
    obtain ⟨paths, listedStill⟩ := Tracked.commit_paths law committed listed
    exact ⟨listedStill, Tracked.commits law committed, paths⟩
  | rereads payload work step row usable expired found =>
    have tracked : Tracked world.database work := law
    exact ⟨listed, tracked.same (tracked.held.reread found) rfl rfl rfl, unchanged⟩
  | reopens payload work step row usable expired found =>
    exact ⟨listed, Tracked.reopens law expired found listed, unchanged⟩

theorem Stage.Lawful.assigns {id : Id} {previous target : String}
    (law : stage.Lawful world.database)
    (allowed : stage.allows (.assign id previous target)) : target ∈ stateTransitions previous := by
  cases stage with
  | working payload work step =>
    obtain ⟨_, state, states, moved, _, advanced, _, rfl, rfl⟩ := allowed
    exact advanceOrderState_transition advanced law.listed
  | reconciling current rest changes =>
    have corrected : ∃ order payload, current = some (order, payload) ∧ id = order.id ∧
        previous = order.state ∧ target = upper payload.status ∧ target ≠ "" ∧
        target ≠ upper order.state := by
      cases rest <;> exact allowed
    obtain ⟨order, payload, isCurrent, _, rfl, rfl, named, differs⟩ := corrected
    exact ((law.1 order payload isCurrent).2.resolve_left named).resolve_left differs
  | _ => exact allowed.elim

end Invariant

section Runs

/-- What a lawful run keeps. -/
structure LawfulSoFar (world : World) (trace : List (Thread × services.Event)) (stage : Stage) :
    Prop where
  listed : ∀ order ∈ world.database.orders, order.state ∈ orderStates
  assigned : ∀ event ∈ trace, ∀ id previous target, event.2.1 = .assign id previous target →
    target ∈ stateTransitions previous
  stage : stage.Lawful world.database

theorem lawful_sequential : Sequential engine stages lawful where
  alone _ _ _ permitted := permitted
  silent _ allowed := allowed
  opens _ _ := rfl
  closes _ _ := rfl

variable {trace : List (Thread × services.Event)}

theorem LawfulSoFar.started {world : World}
    (holds : LawfulSoFar world trace .idle) (task : Task) :
    LawfulSoFar world trace (Stage.initial task) where
  listed := holds.listed
  assigned := holds.assigned
  stage := by cases task <;> trivial

theorem LawfulSoFar.stopped {world : World} {stage : Stage}
    (holds : LawfulSoFar world trace stage) : LawfulSoFar world trace .idle :=
  ⟨holds.listed, holds.assigned, trivial⟩

theorem LawfulSoFar.performed (view : View services World Task Stage) (thread : Thread)
    (oracle : Oracle) (command : Command) (allowed : (view.phases thread).allows command)
    (permitted : lawful.runs view thread oracle command)
    (holds : LawfulSoFar view.world view.trace (view.phases thread)) :
    LawfulSoFar (view.world.perform oracle command).1
        (view.trace ++ [(thread, ⟨command, (view.world.perform oracle command).2⟩)])
        ((view.phases thread).next command (view.world.perform oracle command).2) ∧
      OrderPaths view.world.database (view.world.perform oracle command).1.database := by
  obtain ⟨listed, lawfulStage, paths⟩ := holds.stage.moves holds.listed permitted
    (view.world.perform_moves oracle _ command allowed)
  refine ⟨⟨listed, fun event inside id previous target isAssign => ?_, lawfulStage⟩, paths⟩
  rcases List.mem_append.mp inside with earlier | last
  · exact holds.assigned event earlier id previous target isAssign
  · cases List.mem_singleton.mp last
    cases (isAssign : command = .assign id previous target)
    exact holds.stage.assigns allowed

/-- In a lawful run the states of all orders are known ones, every assignment is a
transition, every committed order moves along the transitions from any point to
any later one, and a terminal order keeps its state. -/
theorem lawful_orders_follow_transitions {world : World} {labels later : List (Label Oracle Task)}
    {middle after : SignalMachine}
    (run : Run engine (lawful.Permits engine stages) (Machine.atRest world) labels middle)
    (continued : Run engine (lawful.Permits engine stages) middle later after)
    (listed : ∀ order ∈ world.database.orders, order.state ∈ orderStates) :
    (∀ order ∈ after.world.database.orders, order.state ∈ orderStates) ∧
      (∀ event ∈ after.trace, ∀ id previous target, event.2.1 = .assign id previous target →
        target ∈ stateTransitions previous) ∧
      (∀ id order, middle.world.database.findOrder id = some order →
        ∃ now, after.world.database.findOrder id = some now ∧ StatePath order.state now.state ∧
          (order.state ∈ terminalStates → now.state = order.state)) := by
  have governs := engine_governs lawful
  have resting : LawfulSoFar world [] .idle := ⟨listed, fun _ inside => (nomatch inside), trivial⟩
  have conforms := (run.simulates governs (Machine.atRest_conforms _)).1
  have halfway : Solo stages LawfulSoFar (middle.view stages) := by
    apply run.solo governs lawful_sequential
    · exact fun view thread task _ holds => holds.started task
    · exact fun view thread oracle command allowed permitted holds =>
        (LawfulSoFar.performed view thread oracle command allowed permitted holds).1
    · exact fun _ _ _ holds => holds.stopped
    · exact Machine.atRest_conforms _
    · exact solo_atRest resting
  have lastly : Solo stages (fun world trace stage => LawfulSoFar world trace stage ∧
      OrderPaths middle.world.database world.database) (after.view stages) := by
    apply continued.solo governs lawful_sequential
    · exact fun view thread task _ holds => ⟨holds.1.started task, holds.2⟩
    · intro view thread oracle command allowed permitted holds
      have next := LawfulSoFar.performed view thread oracle command allowed permitted holds.1
      exact ⟨next.1, holds.2.trans next.2⟩
    · exact fun _ _ _ holds => ⟨holds.1.stopped, holds.2⟩
    · exact conforms
    · obtain ⟨thread, others, holds⟩ := halfway
      exact ⟨thread, others, holds, OrderPaths.of_orders rfl⟩
  obtain ⟨_, _, holds, paths⟩ := lastly
  refine ⟨holds.listed, holds.assigned, fun id order found => ?_⟩
  obtain ⟨now, present, path⟩ := paths id order found
  exact ⟨now, present, path, path.terminal⟩

def reportsTransition (machine : SignalMachine) : Label Oracle Task → Bool
  | .start thread _ => (machine.threads thread).isNone
  | .run thread oracle =>
      match stages.phaseOf (machine.threads thread) with
      | .reconciling _ (order :: _) _ => decide (Reports order oracle.reply.toStatus)
      | _ => true
  | .crash _ => true

theorem reportsTransition_lawful (machine : SignalMachine) (label : Label Oracle Task)
    (lone : machine.Lone label.thread) (tested : reportsTransition machine label = true) :
    lawful.Permits engine stages machine label := by
  cases label with
  | start thread task =>
    refine ⟨fun other => ?_, fun _ _ => trivial⟩
    have idle : machine.threads other = none :=
      lone.idle (Option.isNone_iff_eq_none.mp tested) other
    simp only [Machine.view, idle]
    rfl
  | run thread oracle =>
    refine fun running found =>
      ⟨fun current order orders changes stage _ _ => ?_, fun _ _ => trivial⟩
    have phase : stages.phaseOf (machine.threads thread) =
        .reconciling current (order :: orders) changes := stage
    simp only [reportsTransition, phase] at tested
    exact of_decide_eq_true tested
  | crash thread => exact trivial

/-- An order that the exchange has taken and not filled yet. -/
def sentOrder : Order where
  id := 2
  executionJobId := 1
  userId := "user"
  symbol := "BTCUSDT"
  side := "BUY"
  size := 1
  state := "SENT"
  externalOrderId := some "exchange-1"
  avgFillPrice := none
  filledSize := 0
  rejectReason := none
  failReason := none

def oneSentOrder : World :=
  .boot ⟨⟨[{ sampleJob with state := "SENT" }], [sentOrder], []⟩, by decide⟩

def reconcilesFill : List (Label Oracle Task) := .start 0 (.reconcile 100) :: runs 0 5 steady

def reconcilesNothing : List (Label Oracle Task) := .start 0 (.reconcile 100) :: runs 0 2 steady

theorem lawful_orders_follow_transitions_fill :
    ∃ middle after : SignalMachine,
      Machine.steps engine reconcilesFill (Machine.atRest oneSentOrder) = some middle ∧
        Machine.steps engine reconcilesNothing middle = some after ∧
          (middle.world.database.findOrder 2).map Order.state = some "FILLED" ∧
            (after.world.database.findOrder 2).map Order.state = some "FILLED" := by
  have evaluated : ((Machine.stepsIf engine reportsTransition reconcilesFill
      (Machine.atRest oneSentOrder)).bind fun middle =>
        (Machine.stepsIf engine reportsTransition reconcilesNothing middle).map fun _ =>
          (middle.world.database.findOrder 2).map Order.state) = some (some "FILLED") := by
    decide +kernel
  obtain ⟨middle, first, evaluated⟩ := Option.bind_eq_some_iff.mp evaluated
  obtain ⟨after, second, isFilled⟩ := Option.map_eq_some_iff.mp evaluated
  have permitted : ∀ machine label, machine.Lone 0 → label.thread = 0 →
      reportsTransition machine label = true → lawful.Permits engine stages machine label :=
    fun machine label lone own tested => reportsTransition_lawful machine label (own ▸ lone) tested
  have lone : middle.Lone 0 :=
    Machine.lone_steps (fun _ _ => rfl) (by decide) (Machine.steps_of_stepsIf _ first)
  have run := Run.of_stepsIf 0 permitted (fun _ _ => rfl) (by decide) first
  have continued := Run.of_stepsIf 0 permitted lone (by decide) second
  obtain ⟨order, found, state⟩ := Option.map_eq_some_iff.mp isFilled
  have terminal : order.state ∈ terminalStates := by
    rw [state]
    decide
  obtain ⟨now, present, _, same⟩ :=
    (lawful_orders_follow_transitions run continued (by decide)).2.2 2 order found
  refine ⟨middle, after, Machine.steps_of_stepsIf _ first,
    Machine.steps_of_stepsIf _ second, isFilled, ?_⟩
  rw [present, Option.map_some, same terminal, state]

def unfilled : Oracle := { steady with reply := ⟨true, "exchange-1", "NEW", 0, 0, 0⟩ }

theorem reconciliation_writes_unknown_state :
    ∃ after : SignalMachine,
      Machine.steps engine (.start 0 (.reconcile 100) :: runs 0 4 unfilled)
          (Machine.atRest oneSentOrder) = some after ∧
        (after.world.database.findOrder 2).map Order.state = some "NEW" ∧
          "NEW" ∉ orderStates ∧ "NEW" ∉ stateTransitions sentOrder.state := by
  have evaluated : (Machine.steps engine (.start 0 (.reconcile 100) :: runs 0 4 unfilled)
      (Machine.atRest oneSentOrder)).map (fun after =>
        (after.world.database.findOrder 2).map Order.state) = some (some "NEW") := by
    decide +kernel
  obtain ⟨after, stepped, state⟩ := Option.map_eq_some_iff.mp evaluated
  exact ⟨after, stepped, state, by decide, by decide⟩

end Runs

end Signal
