import CoinRobotu.Signal.Holdings

/-!
# Runs that keep the positions

A signal and a reconciliation change no filled order and no position, and a
delivery commits a fill together with its position. So the books are kept along
every run in which the fills average, from tables without orders on: the stored
size is what was bought less what was sold, and the entry price is the average
price of the fills.
-/

open Interleaving

namespace Signal

open Runtime (upper)
open Numeric

section Invariant

/-- What holds of a signal that may still be committed, and of what a
reconciliation will write. -/
def Stage.Booked (database : Database) : Stage → Prop
  | .admitted _ job stored _ => ∀ row, stored = some row → row = job
  | .reconciling current rest changes =>
      (∀ order payload, current = some (order, payload) →
        (database.findOrder order.id = some order ∧ order.state ∈ openStates) ∧
          upper payload.status ≠ "FILLED") ∧
      (∀ order ∈ rest, database.findOrder order.id = some order ∧ order.state ∈ openStates) ∧
      ∀ change ∈ changes, Leaves database change
  | _ => True

variable {world after : World} {stage reached : Stage} {oracle : Oracle} {command : Command}

/-- The books are kept by what changes neither the tables nor the fills. -/
theorem Booked.same (booked : Booked world) (database : after.database = world.database)
    (filled : after.filled = world.filled) : Booked after where
  size positionId := database ▸ booked.size positionId
  filled order inside := by
    rw [database]
    exact booked.filled order (filled ▸ inside)
  bought position inside := by
    rw [filled]
    exact booked.bought position (database ▸ inside)
  ended order inside isFilled := by
    rw [database]
    exact booked.ended order (database ▸ inside) isFilled

theorem Booked.works (booked : Booked world) {payload : QueuePayload} {work : Work} {step : Step}
    (posting : Posting averageTest world.database work step)
    (moves : Moves world oracle (.working payload work step) command after reached) :
    Booked after := by
  rcases moves.working_writes with ⟨database, filled⟩ | ⟨database, usable, commits, committed, rfl⟩
  · exact booked.same database filled
  · rcases posting.closes usable commits with synced | idle
    · exact posting.commit_fill booked committed synced
    · exact posting.commit_neutral booked committed idle

theorem open_unfilled {state : String} (isOpen : state ∈ openStates) : state ≠ "FILLED" := by
  rintro rfl
  exact absurd isOpen (by decide)

/-- A reconciliation keeps the books. -/
theorem Booked.corrected (booked : Booked world) {current : Option (Order × StatusPayload)}
    {rest : List Order} {changes : List Change}
    (law : (Stage.reconciling current rest changes).Booked world.database)
    (reports : ∀ earlier order orders collected,
      Stage.reconciling current rest changes = .reconciling earlier (order :: orders) collected →
        (∃ symbol orderId, command = .orderStatus symbol orderId) → oracle.fault = none →
          upper oracle.reply.toStatus.status ≠ "FILLED")
    (moves : Moves world oracle (.reconciling current rest changes) command after reached) :
    Booked after ∧ reached.Booked after.database := by
  obtain ⟨reported, listed, leaves⟩ := law
  cases moves with
  | rests => exact ⟨booked, reported, listed, leaves⟩
  | ends => exact ⟨booked, trivial⟩
  | asks _ order orders _ unfailing =>
    refine ⟨booked, fun other payload isCurrent => ?_,
      fun other inside => listed other (List.mem_cons_of_mem _ inside), leaves⟩
    cases isCurrent
    have report := reports current order orders changes rfl ⟨_, _, rfl⟩ unfailing
    exact ⟨listed order List.mem_cons_self, report⟩
  | skips _ order orders _ command =>
    exact ⟨booked, nofun,
      fun other inside => listed other (List.mem_cons_of_mem _ inside), leaves⟩
  | corrects order payload _ _ named differs =>
    obtain ⟨⟨found, isOpen⟩, report⟩ := reported order payload rfl
    have state : (order.reconciled payload).state = upper payload.status := by
      unfold Order.reconciled
      dsimp only
      split <;> rfl
    refine ⟨booked, reported, listed, fun change inside => ?_⟩
    rcases List.mem_append.mp inside with earlier | last
    · exact leaves change earlier
    · cases List.mem_singleton.mp last
      exact ⟨found, open_unfilled isOpen, state ▸ report⟩
  | follows order payload _ _ job found followed =>
    refine ⟨booked, reported, listed, fun change inside => ?_⟩
    rcases List.mem_append.mp inside with earlier | last
    · exact leaves change earlier
    · unfold saveJob at last
      dsimp only at last
      split at last
      · cases last
      · cases List.mem_singleton.mp last
        have terminal : ∀ state ∈ ["FILLED", "CANCELED", "FAILED"],
            upper state ∈ terminalStates := by
          decide +kernel
        exact terminal _ followed
  | writes _ _ database committed => exact ⟨booked.reconciles committed leaves, trivial⟩

/-- Every move of an averaging run keeps the books. -/
theorem Booked.moves (booked : Booked world) (posts : stage.Posts averageTest world.database)
    (law : stage.Booked world.database)
    (reports : ∀ current order orders changes,
      stage = .reconciling current (order :: orders) changes →
        (∃ symbol orderId, command = .orderStatus symbol orderId) → oracle.fault = none →
          upper oracle.reply.toStatus.status ≠ "FILLED")
    (moves : Moves world oracle stage command after reached) :
    Booked after ∧ reached.Booked after.database := by
  cases stage with
  | working payload work step =>
    have posting : Posting averageTest world.database work step := posts
    refine ⟨booked.works posting moves, ?_⟩
    cases moves <;> trivial
  | admitted request job stored room =>
    cases moves with
    | rests => exact ⟨booked, law⟩
    | ends => exact ⟨booked, trivial⟩
    | checks => exact ⟨booked, law⟩
    | saves _ _ _ _ database committed =>
      refine ⟨booked.saves committed fun row isStored => .inl ?_, fun row isStored => ?_⟩
      · rw [law row isStored]
      · exact (Option.some.inj isStored).symm
    | rejects _ _ _ _ reason database committed =>
      refine ⟨booked.saves committed fun row isStored => .inr ?_, trivial⟩
      change upper "FAILED" ∈ terminalStates
      decide +kernel
    | enqueues => exact ⟨booked.same rfl rfl, trivial⟩
  | pushed job =>
    cases moves with
    | rests => exact ⟨booked, trivial⟩
    | ends => exact ⟨booked, trivial⟩
    | accepts _ database committed =>
      exact ⟨booked.saves committed fun _ none => (nomatch none), trivial⟩
  | numbered request id =>
    cases moves with
    | rests => exact ⟨booked, trivial⟩
    | ends => exact ⟨booked, trivial⟩
    | inserts => exact ⟨booked, fun _ none => nomatch none⟩
  | listing =>
    cases moves with
    | rests => exact ⟨booked, trivial⟩
    | ends => exact ⟨booked, trivial⟩
    | lists limit orders distinct listed =>
      exact ⟨booked, fun _ _ none => (nomatch none), listed, fun _ inside => nomatch inside⟩
  | reconciling current rest changes => exact booked.corrected law reports moves
  | _ => cases moves <;> exact ⟨booked.same rfl rfl, trivial⟩

end Invariant

theorem averaging_sequential : Sequential engine stages averaging where
  alone _ _ _ permitted := permitted
  silent _ allowed := allowed
  opens _ _ := rfl
  closes _ _ := rfl

/-- From tables without orders on, the positions are what the fills add up to in
every state that an averaging run reaches. -/
theorem averaging_positions_match_fills {world : World} {labels : List (Label Oracle Task)}
    {after : SignalMachine}
    (run : Run engine (averaging.Permits engine stages) (Machine.atRest world) labels after)
    (noOrders : world.database.orders = []) (noPositions : world.database.positions = [])
    (noFills : world.filled = []) : PositionsMatch after.world := by
  have resting : Booked world := by
    constructor
    · intro positionId
      simp [Database.positionSize, Database.findPosition, Database.signedFills,
        noOrders, noPositions]
    · simp [noFills]
    · simp [noPositions]
    · intro order inside
      rw [noOrders] at inside
      cases inside
  have kept : Solo stages (fun world _ stage => Booked world ∧
      stage.Posts averageTest world.database ∧ stage.Booked world.database)
        (after.view stages) := by
    apply run.solo (engine_governs averaging) averaging_sequential
    · rintro view thread task _ ⟨booked, _⟩
      cases task <;> exact ⟨booked, trivial, trivial⟩
    · rintro view thread oracle command allowed ⟨reports, averages⟩ ⟨booked, posts, law⟩
      have moves := view.world.perform_moves oracle _ command allowed
      have kept := booked.moves posts law reports moves
      exact ⟨kept.1, posts.moves booked.ended averages moves, kept.2⟩
    · exact fun _ _ _ holds => ⟨holds.1, trivial, trivial⟩
    · exact Machine.atRest_conforms _
    · exact solo_atRest ⟨resting, trivial, trivial⟩
  obtain ⟨_, _, booked, _⟩ := kept
  exact booked.match

/-- Tasks run one after another, nothing is reconciled, and a submitted order buys
into tables without positions. -/
def opensPositions (machine : SignalMachine) : Label Oracle Task → Bool
  | .start thread _ => (machine.threads thread).isNone
  | .run thread oracle =>
      match stages.phaseOf (machine.threads thread), machine.threads thread with
      | .working _ work _, some ⟨_, _, .submitOrder request, _⟩ =>
          decide (upper work.order.side = "BUY" ∧
            0 < (oracle.reply.toResult request.markPrice).filledSize ∧
            (oracle.reply.toResult request.markPrice).avgFillPrice ≠ 0) &&
              machine.world.database.positions.isEmpty
      | .reconciling _ _ _, _ => false
      | _, _ => true
  | .crash _ => true

theorem opensPositions_averages (machine : SignalMachine) (label : Label Oracle Task)
    (lone : machine.Lone label.thread) (tested : opensPositions machine label = true) :
    averaging.Permits engine stages machine label := by
  cases label with
  | start thread task =>
    refine ⟨fun other => ?_, fun _ _ => trivial⟩
    have idle : machine.threads other = none :=
      lone.idle (Option.isNone_iff_eq_none.mp tested) other
    simp only [Machine.view, idle]
    rfl
  | run thread oracle =>
    refine fun running found => ⟨⟨fun current order orders changes stage _ _ => ?_,
      fun payload work step request stage isSubmit _ _ => ?_⟩, fun _ _ => trivial⟩
    · have phase : stages.phaseOf (machine.threads thread) =
          .reconciling current (order :: orders) changes := stage
      simp [opensPositions, phase] at tested
    · have phase : stages.phaseOf (machine.threads thread) = .working payload work step := stage
      obtain ⟨task, past, command, next⟩ := running
      cases isSubmit
      rw [found] at phase
      simp only [opensPositions, found, phase, Bool.and_eq_true, decide_eq_true_eq,
        List.isEmpty_iff] at tested
      obtain ⟨⟨buys, positive, nonzero⟩, none⟩ := tested
      refine ⟨buys, positive, _, rfl, nonzero, fun position present => ?_⟩
      have inside : position ∈ machine.world.database.positions :=
        (Database.findPosition_some.mp present).1
      rw [none] at inside
      cases inside
  | crash thread => exact trivial

theorem averaging_positions_match_fills_delivery :
    ∃ after : SignalMachine,
      Machine.steps engine oneDelivery (Machine.atRest oneJob) = some after ∧
        after.world.database.positionSize ("user", "BTCUSDT") = 1 ∧ PositionsMatch after.world := by
  have evaluated : (Machine.stepsIf engine opensPositions oneDelivery (Machine.atRest oneJob)).map
      (fun machine => machine.world.database.positionSize ("user", "BTCUSDT")) = some 1 := by
    decide +kernel
  obtain ⟨after, stepped, size⟩ := Option.map_eq_some_iff.mp evaluated
  have run : Run engine (averaging.Permits engine stages) (Machine.atRest oneJob)
      oneDelivery after :=
    Run.of_stepsIf 0 (fun machine label lone own tested =>
      opensPositions_averages machine label (own ▸ lone) tested) (fun _ _ => rfl)
        (by decide) stepped
  exact ⟨after, Machine.steps_of_stepsIf _ stepped, size,
    averaging_positions_match_fills run rfl rfl rfl⟩

def oneSale : World := .boot ⟨⟨[{ sampleJob with side := "SELL" }], [], []⟩, by decide⟩

theorem sale_adds_to_position :
    ∃ after : SignalMachine,
      Machine.steps engine oneDelivery (Machine.atRest oneSale) = some after ∧
        after.world.database.positionSize ("user", "BTCUSDT") = 1 ∧
          after.world.database.signedFills ("user", "BTCUSDT") = -1 ∧
            ¬PositionsMatch after.world := by
  have evaluated : (Machine.steps engine oneDelivery (Machine.atRest oneSale)).map
      (fun machine => (machine.world.database.positionSize ("user", "BTCUSDT"),
        machine.world.database.signedFills ("user", "BTCUSDT"))) = some (1, -1) := by
    decide +kernel
  obtain ⟨after, stepped, numbers⟩ := Option.map_eq_some_iff.mp evaluated
  obtain ⟨size, fills⟩ := Prod.mk.inj numbers
  refine ⟨after, stepped, size, fills, fun agrees => ?_⟩
  have same := agrees.size ("user", "BTCUSDT")
  rw [size, fills] at same
  norm_num at same

end Signal
