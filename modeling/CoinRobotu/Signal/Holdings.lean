import CoinRobotu.Interleaving.Solo
import CoinRobotu.Signal.Pnl
import CoinRobotu.Signal.Posting

/-!
# Positions and the fills behind them

A fill adds the filled quantity to the position of its user and symbol, whatever
its side, and leaves the entry price as it is; the reconciliation makes orders
filled without a position. Where every order that is filled buys a positive
quantity at the entry price of its position, and the reconciliation fills none,
the stored positions are what the fills add up to. Tasks run one after another
here.
-/

open Interleaving

namespace Signal

open Runtime (upper)
open Numeric

def Order.contribution (positionId : String × String) (order : Order) : ℚ :=
  if order.state = "FILLED" ∧ (order.userId, order.symbol) = positionId then
    order.sign * order.filledSize
  else 0

/-- The filled orders of a user and symbol: what they bought less what they sold. -/
def Database.signedFills (database : Database) (positionId : String × String) : ℚ :=
  (database.orders.map (Order.contribution positionId)).sum

def Database.positionSize (database : Database) (positionId : String × String) : ℚ :=
  (database.findPosition positionId).elim 0 Position.size

/-- The fills of a user and symbol, in the order in which they were committed. -/
def World.fillsOf (world : World) (positionId : String × String) : List (Fill ℚ) :=
  (world.filled.filter fun order => (order.userId, order.symbol) = positionId).map Order.fill

/-- The positions are what the fills add up to. -/
structure PositionsMatch (world : World) : Prop where
  size : ∀ positionId,
    world.database.positionSize positionId = world.database.signedFills positionId
  entry : ∀ positionId position, world.database.findPosition positionId = some position →
    position.size ≠ 0 → position.entryPrice = (holdingOf (world.fillsOf positionId)).entry

/-- An order that buys a positive quantity at the entry price of its position. -/
def Averages (database : Database) (order : Order) : Prop :=
  upper order.side = "BUY" ∧ 0 < order.filledSize ∧ ∃ price, order.avgFillPrice = some price ∧
    price ≠ 0 ∧ ∀ position, database.findPosition (order.userId, order.symbol) = some position →
      position.entryPrice = price

/-- The same as a test of fills. -/
def averageTest : FillTest where
  fits := Averages
  positions := by
    rintro before after order same ⟨buys, positive, price, isPrice, nonzero, entry⟩
    refine ⟨buys, positive, price, isPrice, nonzero, fun position found => ?_⟩
    apply entry position
    unfold Database.findPosition at found ⊢
    rw [← same]
    exact found
  columns := by
    rintro database order other ⟨buys, positive, price, isPrice, nonzero, entry⟩
        userId symbol side _
      fillPrice filledSize
    refine ⟨side ▸ buys, filledSize ▸ positive, price, fillPrice.trans isPrice, nonzero, ?_⟩
    rw [userId, symbol]
    exact entry

/-- Tasks run one after another, the exchange reports no order as filled to the
reconciliation, and an order that it fills when it is submitted buys a positive
quantity at the entry price of its position. -/
def averaging : Discipline services World Oracle Task Stage where
  starts view _ _ := ∀ other, view.phases other = .idle
  runs view thread oracle command :=
    (∀ current order orders changes,
      view.phases thread = .reconciling current (order :: orders) changes →
        (∃ symbol orderId, command = .orderStatus symbol orderId) → oracle.fault = none →
          upper oracle.reply.toStatus.status ≠ "FILLED") ∧
    ∀ payload work step request, view.phases thread = .working payload work step →
      command = .submitOrder request → oracle.fault = none →
        "FILLED" ∈ (oracle.reply.toResult request.markPrice).states →
          Averages view.world.database
            (work.order.withResult (oracle.reply.toResult request.markPrice))
  dies _ _ := True

/-- What a run of such tasks keeps of the shared state. -/
structure Booked (world : World) : Prop where
  size : ∀ positionId,
    world.database.positionSize positionId = world.database.signedFills positionId
  filled : ∀ order ∈ world.filled, upper order.side = "BUY" ∧ 0 < order.filledSize ∧
    ∃ position, world.database.findPosition (order.userId, order.symbol) = some position ∧
      order.avgFillPrice.getD 0 = position.entryPrice
  bought : ∀ position ∈ world.database.positions, ∃ order ∈ world.filled,
    (order.userId, order.symbol) = position.positionId
  ended : FilledEnded world.database

theorem Booked.match {world : World} (booked : Booked world) : PositionsMatch world where
  size := booked.size
  entry positionId position found _ := by
    obtain ⟨inside, isPosition⟩ := Database.findPosition_some.mp found
    have each : ∀ fill ∈ world.fillsOf positionId,
        0 < fill.quantity ∧ fill.price = position.entryPrice := by
      intro fill isFill
      obtain ⟨order, listed, rfl⟩ := List.mem_map.mp isFill
      obtain ⟨isFilled, same⟩ := List.mem_filter.mp listed
      obtain ⟨buys, positive, row, present, price⟩ := booked.filled order isFilled
      have samePosition : (order.userId, order.symbol) = positionId := of_decide_eq_true same
      rw [samePosition, found] at present
      cases present
      refine ⟨?_, price⟩
      have isBuy : order.sign = 1 := if_pos buys
      simp only [Order.fill, isBuy, one_mul]
      exact positive
    obtain ⟨order, isFilled, same⟩ := booked.bought position inside
    have some : world.fillsOf positionId ≠ [] := by
      apply List.ne_nil_of_mem (List.mem_map_of_mem (List.mem_filter.mpr ⟨isFilled, ?_⟩))
      rw [same, isPosition]
      exact decide_eq_true rfl
    symm
    apply holdingOf_constant
    · exact fun fill inside => (each fill inside).1
    · exact fun fill inside => (each fill inside).2
    · exact some

section Commits

variable {world : World} {database after : Database}

/-- A commit that touches no position and no filled order. -/
structure Neutral (before after : Database) : Prop where
  positions : after.positions = before.positions
  fills : ∀ positionId, after.signedFills positionId = before.signedFills positionId
  filled : ∀ order ∈ after.orders, order.state = "FILLED" → order ∈ before.orders
  ended : FilledEnded after

theorem Neutral.findPosition (neutral : Neutral database after) (positionId : String × String) :
    after.findPosition positionId = database.findPosition positionId := by
  unfold Database.findPosition
  rw [neutral.positions]

theorem Booked.neutral (booked : Booked world) {changes : List Change}
    (neutral : Neutral world.database after) : Booked (world.wrote after changes) := by
  have nothing : newlyFilled world.database after = [] := by
    unfold newlyFilled
    apply List.filter_eq_nil_iff.mpr
    intro order inside isNew
    obtain ⟨isFilled, before⟩ := of_decide_eq_true isNew
    have known : world.database.findOrder order.id = some order :=
      Database.findOrder_some.mpr ⟨neutral.filled order inside isFilled, rfl⟩
    exact before order known isFilled
  have filled : (world.wrote after changes).filled = world.filled := by
    change world.filled ++ newlyFilled world.database after = world.filled
    rw [nothing, List.append_nil]
  constructor
  · intro positionId
    have size : after.positionSize positionId = world.database.positionSize positionId := by
      unfold Database.positionSize
      rw [neutral.findPosition]
    exact size.trans ((booked.size positionId).trans (neutral.fills positionId).symm)
  · intro order inside
    rw [filled] at inside
    obtain ⟨buys, positive, position, found, price⟩ := booked.filled order inside
    exact ⟨buys, positive, position, (neutral.findPosition _).trans found, price⟩
  · intro position inside
    have inside : position ∈ world.database.positions := neutral.positions ▸ inside
    rw [filled]
    exact booked.bought position inside
  · exact neutral.ended

/-- Saving a job that is new, as it was, or failed leaves orders and positions as
they are. -/
theorem Booked.saves (booked : Booked world) {stored : Option ExecutionJob} {job : ExecutionJob}
    (committed : world.database.commit (saveJob stored job) = .ok after)
    (fails : ∀ row, stored = some row → job.state = row.state ∨ upper job.state ∈ terminalStates) :
    Booked (world.wrote after (saveJob stored job)) := by
  have orders := commit_saveJob_orders committed
  apply booked.neutral
  constructor
  · exact commit_saveJob_positions committed
  · intro positionId
    unfold Database.signedFills
    rw [orders]
  · exact fun order inside _ => orders ▸ inside
  · exact booked.ended.of_orders orders (saveJob_jobs_end committed fails)

/-- What a reconciliation may write: jobs that ended, and orders that are not
filled, before or after. -/
def Leaves (database : Database) : Change → Prop
  | .updateJob _ current => upper current.state ∈ terminalStates
  | .updateOrder stored current =>
      database.findOrder stored.id = some stored ∧ stored.state ≠ "FILLED" ∧
        current.state ≠ "FILLED"
  | _ => False

/-- Such changes leave a filled order as it is, and fill none. -/
theorem correctAll_leaves {changes : List Change}
    (leaves : ∀ change ∈ changes, Leaves database change)
    {row : Order} (found : database.findOrder row.id = some row) :
    (row.state = "FILLED" → correctAll changes row = row) ∧
      (row.state ≠ "FILLED" → (correctAll changes row).state ≠ "FILLED") := by
  constructor
  · intro isFilled
    induction changes with
    | nil => rfl
    | cons change changes ih =>
      have rest :=
        ih fun other inside => leaves other (List.mem_cons_of_mem _ inside)
      have first : change.correct row = row := by
        cases change with
        | updateOrder stored current =>
          obtain ⟨known, unfilled, _⟩ := leaves _ List.mem_cons_self
          apply if_neg
          intro same
          rw [← same, found] at known
          exact unfilled (Option.some.inj known ▸ isFilled)
        | _ => rfl
      change correctAll changes (change.correct row) = row
      rw [first, rest]
  · clear found
    intro unfilled
    induction changes generalizing row with
    | nil => exact unfilled
    | cons change changes ih =>
      apply ih fun other inside => leaves other (List.mem_cons_of_mem _ inside)
      cases change with
      | updateOrder stored current =>
        obtain ⟨_, _, target⟩ := leaves _ List.mem_cons_self
        unfold Change.correct
        dsimp only
        split
        · have merged : (Order.merge stored current row).state =
              pick stored.state current.state row.state := rfl
          rw [merged]
          unfold pick
          split
          · exact unfilled
          · exact target
        · exact unfilled
      | _ => exact unfilled

/-- A reconciliation's commit is neutral. -/
theorem Booked.reconciles (booked : Booked world) {changes : List Change}
    (committed : world.database.commit changes = .ok after)
    (leaves : ∀ change ∈ changes, Leaves world.database change) :
    Booked (world.wrote after changes) := by
  have written := Database.commit_ok committed
  have orders : after.orders = world.database.orders.map (correctAll changes) := by
    rw [written]
    exact world.database.writeAll_orders fun order inside => leaves _ inside
  have positions : after.positions = world.database.positions := by
    rw [written]
    clear written orders committed
    generalize world.database.toTables = tables at leaves ⊢
    induction changes generalizing tables with
    | nil => rfl
    | cons change changes ih =>
      have rest := ih
        (fun other inside => leaves other (List.mem_cons_of_mem _ inside)) (tables.write change)
      apply rest.trans
      cases change with
      | insertPosition jobId position => exact (leaves _ List.mem_cons_self).elim
      | updatePosition jobId stored current => exact (leaves _ List.mem_cons_self).elim
      | _ => rfl
  have known : ∀ row ∈ world.database.orders, world.database.findOrder row.id = some row :=
    fun row inside => Database.findOrder_some.mpr ⟨inside, rfl⟩
  have filled : ∀ order ∈ after.orders, order.state = "FILLED" → order ∈ world.database.orders := by
    intro order inside isFilled
    rw [orders] at inside
    obtain ⟨row, isRow, rfl⟩ := List.mem_map.mp inside
    obtain ⟨keeps, fills⟩ := correctAll_leaves leaves (known row isRow)
    by_cases before : row.state = "FILLED"
    · rw [keeps before]
      exact isRow
    · exact absurd isFilled (fills before)
  have ends : JobsEnd world.database after := by
    apply commit_jobs_end committed
    exact fun stored current inside => .inr (leaves _ inside)
  apply booked.neutral
  constructor
  · exact positions
  · intro positionId
    unfold Database.signedFills
    rw [orders, List.map_map]
    congr 1
    apply List.map_congr_left
    intro row isRow
    obtain ⟨keeps, fills⟩ := correctAll_leaves leaves (known row isRow)
    by_cases before : row.state = "FILLED"
    · rw [Function.comp_apply, keeps before]
    · unfold Order.contribution
      rw [Function.comp_apply, if_neg (fun both => fills before both.1),
        if_neg (fun both => before both.1)]
  · exact filled
  · intro order inside isFilled
    obtain ⟨job, found, terminal⟩ := booked.ended order (filled order inside isFilled) isFilled
    exact ends _ job found terminal

end Commits

section Sessions

variable {world : World} {work held : Work} {step : Step} {after : Database}

/-- A session's commit changes the filled quantity by what its order changed. -/
theorem Held.commit_fills (holds : Held world.database work)
    (committed : world.database.commit work.changes = .ok after) (positionId : String × String) :
    after.signedFills positionId = world.database.signedFills positionId -
      work.storedOrder.elim 0 (Order.contribution positionId) +
        work.order.contribution positionId := by
  have orders : after.orders = work.writtenOrders world.database.orders := by
    rw [Database.commit_ok committed, work.writeAll_changes]
  unfold Work.writtenOrders at orders
  unfold Database.signedFills
  cases isStored : work.storedOrder with
  | none =>
    rw [isStored] at orders
    rw [orders, List.map_append, List.sum_append]
    simp
  | some stored =>
    rw [isStored] at orders
    obtain ⟨inside, same⟩ := Database.findOrder_some.mp (holds.order stored isStored)
    have merged : Order.merge stored work.order stored = work.order :=
      holds.keepsOrder stored isStored
    rw [orders, sum_rewrite world.database.consistent.2.2.1 inside, merged]
    rfl

section Committing

variable (booked : Booked world) (posting : Posting averageTest world.database work step)
  (committed : world.database.commit work.changes = .ok after)

include booked posting committed

theorem Posting.commit_neutral
    (idle : Unfilled work ∨ Recorded work) : Booked (world.wrote after work.changes) := by
  have position : work.position = none := by
    rcases idle with unfilled | recorded
    · exact unfilled.position
    · exact recorded.position
  apply booked.neutral
  constructor
  · exact commit_positions committed position
  · intro positionId
    have fills := posting.held.commit_fills committed positionId
    rcases idle with unfilled | recorded
    · have current : work.order.contribution positionId = 0 :=
        if_neg fun both => unfilled.state both.1
      have before : work.storedOrder.elim 0 (Order.contribution positionId) = 0 := by
        cases isStored : work.storedOrder with
        | none => rfl
        | some stored => exact if_neg fun both => unfilled.stored stored isStored both.1
      rw [fills, current, before]
      ring
    · rw [fills, recorded.stored]
      simp
  · intro order inside isFilled
    have found : after.findOrder order.id = some order := Database.findOrder_some.mpr ⟨inside, rfl⟩
    rw [posting.held.commit_order committed] at found
    split at found
    · cases found
      rcases idle with unfilled | recorded
      · exact absurd isFilled unfilled.state
      · exact (Database.findOrder_some.mp (posting.held.order _ recorded.stored)).1
    · exact (Database.findOrder_some.mp found).1
  · exact posting.commit_ended committed booked.ended

/-- The commit of a fill keeps the books. -/
theorem Posting.commit_fill (synced : Synced averageTest world.database work) : Booked
      (world.wrote after work.changes) := by
  obtain ⟨buys, positive, price, isPrice, nonzero, entry⟩ := synced.fits
  have quantity : work.order.quantity = work.order.filledSize := if_neg positive.ne'
  have sign : work.order.sign = 1 := if_pos buys
  have written := synced.commit_position committed
  -- The entry price of the position is the price of the fill.
  have priced : (syncedPosition work.order
      (world.database.findPosition (work.order.userId, work.order.symbol))).entryPrice = price := by
    cases known : world.database.findPosition (work.order.userId, work.order.symbol) with
    | none =>
      change orOne (work.order.avgFillPrice.getD 0) = price
      rw [isPrice]
      exact if_neg nonzero
    | some row => exact entry row known
  have isNew : ∀ order, order ∈ newlyFilled world.database after ↔ order = work.order := by
    intro order
    unfold newlyFilled
    rw [List.mem_filter, decide_eq_true_iff]
    constructor
    · rintro ⟨inside, isFilled, before⟩
      have found : after.findOrder order.id = some order :=
        Database.findOrder_some.mpr ⟨inside, rfl⟩
      rw [posting.held.commit_order committed] at found
      split at found
      · exact (Option.some.inj found).symm
      · exact absurd isFilled (before order found)
    · rintro rfl
      have found : after.findOrder work.order.id = some work.order :=
        (posting.held.commit_order committed _).trans (if_pos rfl)
      refine ⟨(Database.findOrder_some.mp found).1, synced.state, fun earlier known => ?_⟩
      cases isStored : work.storedOrder with
      | none =>
        rw [Held.commit_fresh committed isStored] at known
        cases known
      | some stored =>
        have same : stored = earlier :=
          Option.some.inj ((posting.held.order stored isStored).symm.trans known)
        exact same ▸ synced.stored stored isStored
  constructor
  · intro positionId
    have fills := posting.held.commit_fills committed positionId
    have before : work.storedOrder.elim 0 (Order.contribution positionId) = 0 := by
      cases isStored : work.storedOrder with
      | none => rfl
      | some stored => exact if_neg fun both => synced.stored stored isStored both.1
    have size := booked.size positionId
    change after.positionSize positionId = after.signedFills positionId
    rw [fills, before, ← size, sub_zero]
    unfold Database.positionSize
    rw [written]
    by_cases isOwn : positionId = (work.order.userId, work.order.symbol)
    · have added : work.order.contribution positionId = work.order.filledSize := by
        rw [Order.contribution, if_pos ⟨synced.state, isOwn.symm⟩, sign, one_mul]
      rw [if_pos isOwn, added, isOwn, ← quantity]
      cases world.database.findPosition (work.order.userId, work.order.symbol) with
      | none => exact (zero_add _).symm
      | some row => rfl
    · have added : work.order.contribution positionId = 0 := if_neg fun both => isOwn both.2.symm
      rw [if_neg isOwn, added, add_zero]
  · intro order inside
    rcases List.mem_append.mp inside with earlier | new
    · obtain ⟨buysToo, positiveToo, position, found, same⟩ := booked.filled order earlier
      refine ⟨buysToo, positiveToo, ?_⟩
      by_cases isOwn : (order.userId, order.symbol) = (work.order.userId, work.order.symbol)
      · refine ⟨_, (written _).trans (if_pos isOwn), ?_⟩
        rw [priced, same]
        exact entry position (isOwn ▸ found)
      · exact ⟨position, ((written _).trans (if_neg isOwn)).trans found, same⟩
    · cases (isNew order).mp new
      refine ⟨buys, positive, _, (written _).trans (if_pos rfl), ?_⟩
      rw [priced, isPrice]
      rfl
  · intro position inside
    have found : after.findPosition position.positionId = some position :=
      Database.findPosition_some.mpr ⟨inside, rfl⟩
    rw [written] at found
    by_cases isOwn : position.positionId = (work.order.userId, work.order.symbol)
    · exact ⟨work.order, List.mem_append_right _ ((isNew _).mpr rfl), isOwn.symm⟩
    · rw [if_neg isOwn] at found
      obtain ⟨order, isFilled, same⟩ :=
        booked.bought position (Database.findPosition_some.mp found).1
      exact ⟨order, List.mem_append_left _ isFilled, same⟩
  · exact posting.commit_ended committed booked.ended

end Committing

end Sessions

end Signal
