import CoinRobotu.Signal.Moves

/-!
# What a session holds

A delivery assigns to attributes of the rows it read, and only to those that a
commit writes. As long as nobody else writes these rows, a commit therefore
leaves exactly the values that the session holds, and rows that are read again
are the ones it has.
-/

namespace Signal

open Runtime (upper)

section Assigning

/-- The current values differ from the stored ones only in what a commit writes. -/
def ExecutionJob.Keeps (stored current : ExecutionJob) : Prop :=
  ExecutionJob.merge stored current stored = current

def Order.Keeps (stored current : Order) : Prop := Order.merge stored current stored = current

theorem ExecutionJob.keeps_refl (job : ExecutionJob) : ExecutionJob.Keeps job job :=
  ExecutionJob.merge_same job job

theorem Order.keeps_refl (order : Order) : Order.Keeps order order := Order.merge_same order order

variable {stored current : ExecutionJob}

/-- A job is kept by what agrees with it on the columns that are never assigned. -/
theorem ExecutionJob.keeps_iff :
    ExecutionJob.Keeps stored current ↔
      current = { stored with
        state := current.state
        rejectReason := current.rejectReason
        failReason := current.failReason
        lastError := current.lastError
        failureClass := current.failureClass
        retryCount := current.retryCount
        queuePayload := current.queuePayload } := by
  unfold ExecutionJob.Keeps ExecutionJob.merge
  simp only [pick_stored]
  exact eq_comm

theorem Order.keeps_iff {stored current : Order} :
    Order.Keeps stored current ↔
      current = { stored with
        state := current.state
        externalOrderId := current.externalOrderId
        avgFillPrice := current.avgFillPrice
        filledSize := current.filledSize
        rejectReason := current.rejectReason
        failReason := current.failReason } := by
  unfold Order.Keeps Order.merge
  simp only [pick_stored]
  exact eq_comm

theorem ExecutionJob.Keeps.id
    (keeps : ExecutionJob.Keeps stored current) : current.id = stored.id :=
  (congrArg ExecutionJob.id keeps).symm

theorem Order.Keeps.executionJobId {stored current : Order} (keeps : Order.Keeps stored current) :
    current.executionJobId = stored.executionJobId := (congrArg Order.executionJobId keeps).symm

theorem ExecutionJob.Keeps.columns
    (keeps : ExecutionJob.Keeps stored current) :
    current.userId = stored.userId ∧ current.symbol = stored.symbol ∧
      current.size = stored.size := by
  rw [ExecutionJob.keeps_iff] at keeps
  rw [keeps]
  exact ⟨rfl, rfl, rfl⟩

theorem Order.Keeps.columns {stored current : Order} (keeps : Order.Keeps stored current) :
    current.userId = stored.userId ∧ current.symbol = stored.symbol ∧ current.side = stored.side ∧
      current.size = stored.size := by
  rw [Order.keeps_iff] at keeps
  rw [keeps]
  exact ⟨rfl, rfl, rfl, rfl⟩

end Assigning

theorem advanceOrderState_ok {order moved : Order} {state : String}
    (advanced : advanceOrderState order state = .ok moved) :
    upper state ∈ stateTransitions (upper (if order.state = "" then "CREATED" else order.state)) ∧
      ∃ failReason rejectReason, moved = { order with
        state := upper state
        failReason
        rejectReason } := by
  unfold advanceOrderState at advanced
  extract_lets current target at advanced
  split at advanced
  · rename_i listed
    cases advanced
    exact ⟨listed, _, _, rfl⟩
  · cases advanced

/-- The rows of a session are the committed ones, with assignments. -/
structure Held (database : Database) (work : Work) : Prop where
  job : database.findJob work.job.id = some work.storedJob
  keepsJob : ExecutionJob.Keeps work.storedJob work.job
  order : ∀ stored, work.storedOrder = some stored → database.findOrder work.order.id = some stored
  keepsOrder : ∀ stored, work.storedOrder = some stored → Order.Keeps stored work.order
  owner : work.order.executionJobId = work.job.id

namespace Held

variable {database after : Database} {work held : Work}

theorem opened {job : ExecutionJob} {storedOrder : Option Order} {order : Order}
    (found : database.findJob job.id = some job)
    (stored : ∀ row, storedOrder = some row → row = order ∧ order ∈ database.orders)
    (owner : order.executionJobId = job.id) : Held database (.opened job storedOrder order) where
  job := found
  keepsJob := ExecutionJob.keeps_refl job
  order row isStored := by
    obtain ⟨rfl, inside⟩ := stored row isStored
    exact Database.findOrder_some.mpr ⟨inside, rfl⟩
  keepsOrder row isStored := by
    obtain ⟨rfl, _⟩ := stored row isStored
    exact Order.keeps_refl row
  owner := owner

theorem frame (holds : Held database work)
    (job : after.findJob work.job.id = database.findJob work.job.id)
    (order : ∀ stored, work.storedOrder = some stored →
      after.findOrder work.order.id = database.findOrder work.order.id) : Held after work where
  job := job.trans holds.job
  keepsJob := holds.keepsJob
  order stored isStored := (order stored isStored).trans (holds.order stored isStored)
  keepsOrder := holds.keepsOrder
  owner := holds.owner

theorem assigned (holds : Held database work) (storedJob : held.storedJob = work.storedJob)
    (storedOrder : held.storedOrder = work.storedOrder)
    (job : ∀ stored, ExecutionJob.Keeps stored work.job → ExecutionJob.Keeps stored held.job)
    (order : ∀ stored, Order.Keeps stored work.order → Order.Keeps stored held.order)
    (jobId : held.job.id = work.job.id) (orderId : held.order.id = work.order.id)
    (owner : held.order.executionJobId = work.order.executionJobId) : Held database held where
  job := by rw [jobId, storedJob, holds.job]
  keepsJob := storedJob ▸ job _ holds.keepsJob
  order stored isStored := by
    rw [orderId]
    exact holds.order stored (storedOrder ▸ isStored)
  keepsOrder stored isStored := order stored (holds.keepsOrder stored (storedOrder ▸ isStored))
  owner := by rw [owner, jobId, holds.owner]

theorem withResult_keeps {order stored : Order} (result : ExchangeResult)
    (keeps : Order.Keeps stored order) : Order.Keeps stored (order.withResult result) := by
  rw [Order.keeps_iff] at keeps ⊢
  rw [keeps]
  rfl

theorem state_keeps {job stored : ExecutionJob} (state : String)
    (keeps : ExecutionJob.Keeps stored job) : ExecutionJob.Keeps stored { job with state } := by
  rw [ExecutionJob.keeps_iff] at keeps ⊢
  rw [keeps]

theorem afterFailure_keeps {job stored : ExecutionJob} (failure : String)
    (keeps : ExecutionJob.Keeps stored job) : ExecutionJob.Keeps stored
      (job.afterFailure failure) := by
  have same : ExecutionJob.merge stored job stored = job := keeps
  unfold ExecutionJob.Keeps
  unfold ExecutionJob.merge at same ⊢
  simp only [pick_stored] at same ⊢
  rw [← same]
  rfl

theorem moved_keeps {order moved stored : Order} {state : String}
    (advanced : advanceOrderState order state = .ok moved) (keeps : Order.Keeps stored order) :
    Order.Keeps stored moved := by
  obtain ⟨_, failReason, rejectReason, rfl⟩ := advanceOrderState_ok advanced
  rw [Order.keeps_iff] at keeps ⊢
  rw [keeps]

section Holding

variable (holds : Held database work)

include holds

theorem assigns {step : Step} (assigns : step.Assigns work held) :
    Held database held := by
  cases step with
  | replied result =>
    cases assigns
    refine holds.assigned rfl rfl (fun stored keeps => ?_) (fun _ keeps => keeps) rfl rfl rfl
    rw [ExecutionJob.keeps_iff] at keeps ⊢
    change ({ work.job with failureClass := none } : ExecutionJob) = _
    rw [keeps]
    rfl
  | answered result =>
    obtain ⟨rfl, _⟩ := assigns
    exact holds.assigned rfl rfl (fun _ keeps => keeps)
      (fun _ => withResult_keeps result) rfl rfl rfl
  | recording states =>
    cases states with
    | nil => exact assigns.elim
    | cons state states =>
      obtain ⟨moved, advanced, rfl⟩ := assigns
      have same := advanceOrderState_ok advanced
      refine holds.assigned rfl rfl (fun _ => state_keeps state)
        (fun _ => moved_keeps advanced) rfl ?_ ?_
      · obtain ⟨_, failReason, rejectReason, rfl⟩ := same
        rfl
      · obtain ⟨_, failReason, rejectReason, rfl⟩ := same
        rfl
  | filled row states =>
    cases assigns
    exact holds.assigned rfl rfl (fun _ keeps => keeps) (fun _ keeps => keeps) rfl rfl rfl
  | _ => exact assigns.elim

theorem failed (failure : String) :
    Held database (work.failed failure) := by
  exact holds.assigned rfl rfl (fun _ => afterFailure_keeps failure)
    (fun _ keeps => keeps) rfl rfl rfl

theorem hurt (command : Command) :
    Held database (work.hurt command) := by
  unfold Work.hurt
  split
  · exact holds.assigned rfl rfl (fun _ keeps => keeps) (fun _ keeps => keeps) rfl rfl rfl
  · exact holds

theorem reread {row : ExecutionJob} (found : database.findJob work.job.id = some row) :
    Held database { work with storedJob := row, job := row, jobExpired := false } := by
  have same : work.storedJob = row := Option.some.inj (holds.job.symm.trans found)
  have id : row.id = work.job.id := (Database.findJob_some.mp found).2
  refine ⟨?_, ExecutionJob.keeps_refl row, holds.order, holds.keepsOrder, ?_⟩
  · rw [id]
    exact found
  · rw [id]
    exact holds.owner

theorem reopen {row : Order} (committed : ∃ stored, work.storedOrder = some stored)
    (found : database.findOrder work.order.id = some row) :
    Held database { work with storedOrder := some row, order := row, orderExpired := false } := by
  obtain ⟨stored, isStored⟩ := committed
  have same : stored = row := Option.some.inj ((holds.order stored isStored).symm.trans found)
  have id : row.id = work.order.id := (Database.findOrder_some.mp found).2
  refine ⟨holds.job, holds.keepsJob, fun other isOther => ?_, fun other isOther => ?_, ?_⟩
  · cases isOther
    rw [id]
    exact found
  · cases isOther
    exact Order.keeps_refl _
  · rw [← same, ← holds.owner]
    exact (holds.keepsOrder stored isStored).executionJobId.symm

end Holding

theorem commit_fresh (committed : database.commit work.changes = .ok after)
    (isNew : work.storedOrder = none) : database.findOrder work.order.id = none := by
  have orders : after.orders = database.orders ++ [work.order] := by
    have written : after.orders = work.writtenOrders database.orders := by
      rw [Database.commit_ok committed, work.writeAll_changes]
    rw [written, Work.writtenOrders, isNew]
  have distinct : (after.orders.map Order.id).Nodup := after.consistent.2.2.1
  rw [orders, List.map_append] at distinct
  cases found : database.findOrder work.order.id with
  | none => rfl
  | some row =>
    obtain ⟨inside, same⟩ := Database.findOrder_some.mp found
    have twice := List.disjoint_of_nodup_append distinct (List.mem_map_of_mem inside)
    exact absurd (by simp [same]) twice

section Committing

variable (holds : Held database work) (committed : database.commit work.changes = .ok after)
include holds committed

theorem commit_job (id : Id) :
    after.findJob id = if id = work.job.id then some work.job else database.findJob id := by
  have jobs : after.jobs = rewrite ExecutionJob.id work.storedJob.id
      (ExecutionJob.merge work.storedJob work.job) database.jobs := by
    rw [Database.commit_ok committed, work.writeAll_changes]
  have storedId : work.storedJob.id = work.job.id := (Database.findJob_some.mp holds.job).2
  have found : after.findJob id = (database.findJob id).map fun row =>
      if row.id = work.storedJob.id then ExecutionJob.merge work.storedJob work.job
        row else row := by
    unfold Database.findJob
    rw [jobs]
    exact find_rewrite fun _ => rfl
  rw [found]
  by_cases isOwn : id = work.job.id
  · rw [if_pos isOwn, isOwn, holds.job, Option.map_some, if_pos rfl]
    exact congrArg some holds.keepsJob
  · rw [if_neg isOwn]
    cases row : database.findJob id with
    | none => rfl
    | some other =>
      have otherId : other.id = id := (Database.findJob_some.mp row).2
      have different : other.id ≠ work.storedJob.id := by
        rw [otherId, storedId]
        exact isOwn
      rw [Option.map_some, if_neg different]

theorem commit_order (id : Id) :
    after.findOrder id = if id = work.order.id then some work.order else database.findOrder id := by
  have orders : after.orders = work.writtenOrders database.orders := by
    rw [Database.commit_ok committed, work.writeAll_changes]
  unfold Work.writtenOrders at orders
  cases isStored : work.storedOrder with
  | none =>
    rw [isStored] at orders
    by_cases isOwn : id = work.order.id
    · rw [if_pos isOwn]
      apply Database.findOrder_some.mpr
      rw [orders]
      exact ⟨List.mem_append_right _ (List.mem_singleton.mpr rfl), isOwn.symm⟩
    · have different : ¬work.order.id = id := fun same => isOwn same.symm
      rw [if_neg isOwn]
      unfold Database.findOrder
      rw [orders, List.find?_append]
      simp [different]
  | some stored =>
    rw [isStored] at orders
    have storedId : stored.id = work.order.id :=
      (Database.findOrder_some.mp (holds.order stored isStored)).2
    have found : after.findOrder id = (database.findOrder id).map fun row =>
        if row.id = stored.id then Order.merge stored work.order row else row := by
      unfold Database.findOrder
      rw [orders]
      exact find_rewrite fun _ => rfl
    rw [found]
    by_cases isOwn : id = work.order.id
    · rw [if_pos isOwn, isOwn, holds.order stored isStored, Option.map_some, if_pos rfl]
      exact congrArg some (holds.keepsOrder stored isStored)
    · rw [if_neg isOwn]
      cases row : database.findOrder id with
      | none => rfl
      | some other =>
        have otherId : other.id = id := (Database.findOrder_some.mp row).2
        have different : other.id ≠ stored.id := by
          rw [otherId, storedId]
          exact isOwn
        rw [Option.map_some, if_neg different]

theorem commits : Held after work.committed where
  job := by
    rw [holds.commit_job committed]
    exact if_pos rfl
  keepsJob := ExecutionJob.keeps_refl _
  order stored isStored := by
    cases isStored
    rw [holds.commit_order committed]
    exact if_pos rfl
  keepsOrder stored isStored := by
    cases isStored
    exact Order.keeps_refl _
  owner := holds.owner

theorem commit_otherOrder {id : Id} {row : Order} (found : database.findOrder id = some row)
    (foreign : row.executionJobId ≠ work.job.id) : after.findOrder id = some row := by
  rw [holds.commit_order committed]
  by_cases isOwn : id = work.order.id
  · exfalso
    cases isStored : work.storedOrder with
    | some stored =>
      have same : stored = row :=
        Option.some.inj ((holds.order stored isStored).symm.trans (isOwn ▸ found))
      rw [← same, ← (holds.keepsOrder stored isStored).executionJobId, holds.owner] at foreign
      exact foreign rfl
    | none =>
      rw [isOwn, commit_fresh committed isStored] at found
      cases found
  · rw [if_neg isOwn]
    exact found

theorem commit_jobs {row : ExecutionJob} (inside : row ∈ after.jobs) :
    row = work.job ∨ row ∈ database.jobs := by
  have found : after.findJob row.id = some row := Database.findJob_some.mpr ⟨inside, rfl⟩
  rw [holds.commit_job committed] at found
  split at found
  · exact .inl (Option.some.inj found).symm
  · exact .inr (Database.findJob_some.mp found).1

end Committing

end Held

theorem commit_openPosition {database after : Database} {work : Work}
    (committed : database.commit work.changes = .ok after)
    (opens : ∀ row position, work.position = some (row, position) → position.status = "open")
    {positionId : String × String} {row : Position}
    (found : database.findPosition positionId = some row) (isOpen : row.status = "open") :
    ∃ later, after.findPosition positionId = some later ∧ later.status = "open" := by
  have positions : after.positions = work.writtenPositions database.positions := by
    rw [Database.commit_ok committed, work.writeAll_changes]
  unfold Work.writtenPositions at positions
  unfold Database.findPosition at found ⊢
  rcases held : work.position with _ | ⟨_ | stored, position⟩
  · rw [held] at positions
    rw [positions]
    exact ⟨row, found, isOpen⟩
  · rw [held] at positions
    rw [positions, List.find?_append, found]
    exact ⟨row, rfl, isOpen⟩
  · rw [held] at positions
    have rewritten : after.positions.find? (fun row => decide (row.positionId = positionId)) =
        (database.positions.find? fun row => decide (row.positionId = positionId)).map
          fun row => if row.positionId = stored.positionId then Position.merge stored position row
            else row := by
      rw [positions]
      exact find_rewrite fun _ => rfl
    rw [rewritten, found]
    refine ⟨_, rfl, ?_⟩
    dsimp only
    split
    · have merged : (Position.merge stored position row).status =
          pick stored.status position.status row.status := rfl
      rw [merged, opens _ _ held, isOpen]
      unfold pick
      split <;> rfl
    · exact isOpen

section Saving

variable {database after : Database} {stored : Option ExecutionJob} {job : ExecutionJob}

theorem writeAll_saveJob (tables : Tables) (stored : Option ExecutionJob) (job : ExecutionJob) :
    (tables.writeAll (saveJob stored job)).orders = tables.orders ∧
      (tables.writeAll (saveJob stored job)).positions = tables.positions := by
  cases stored with
  | none => exact ⟨rfl, rfl⟩
  | some row =>
    unfold saveJob
    dsimp only
    split <;> exact ⟨rfl, rfl⟩

variable (committed : database.commit (saveJob stored job) = .ok after)

include committed

theorem commit_saveJob_orders :
    after.orders = database.orders := by
  rw [Database.commit_ok committed]
  exact (writeAll_saveJob _ _ _).1

theorem commit_saveJob_positions :
    after.positions = database.positions := by
  rw [Database.commit_ok committed]
  exact (writeAll_saveJob _ _ _).2

end Saving

end Signal
