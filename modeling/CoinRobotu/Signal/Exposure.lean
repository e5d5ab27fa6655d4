import CoinRobotu.Signal.Posting

/-!
# What a user is exposed to

At fixed prices an open position adds its notional to the exposure of its user,
and so does an accepted job until it ends. The risk check reads the positions
only. A delivery never adds to the exposure: as long as its job has not ended the
job is counted, and the fill moves at most the notional of the job to the position
in the commit in which the job ends.
-/

namespace Signal

open Runtime (upper)
open Numeric

section Totals

variable (price : String → ℚ) (userId : String)

def Position.exposure (position : Position) : ℚ :=
  if position.userId = userId ∧ position.status = "open" then
    |position.size * price position.symbol|
  else 0

/-- What an accepted job adds that has not ended; `queue_payload` is written when
a job is accepted. -/
def ExecutionJob.exposure (job : ExecutionJob) : ℚ :=
  if job.userId = userId ∧ job.queuePayload.isSome ∧ upper job.state ∉ terminalStates then
    |job.size * price job.symbol|
  else 0

def Database.positionExposure (database : Database) : ℚ :=
  (database.positions.map (Position.exposure price userId)).sum

def Database.pendingExposure (database : Database) : ℚ :=
  (database.jobs.map (ExecutionJob.exposure price userId)).sum

def Database.exposure (database : Database) : ℚ :=
  database.positionExposure price userId + database.pendingExposure price userId

variable {price userId} {database after : Database}

theorem openNotional_eq (prices : ∀ position ∈ database.positions, position.userId = userId →
    position.currentPrice = price position.symbol) :
    database.openNotional userId = database.positionExposure price userId := by
  unfold Database.openNotional Database.positionExposure
  generalize database.positions = positions at prices ⊢
  induction positions with
  | nil => rfl
  | cons position positions ih =>
    have rest :=
      ih fun other inside => prices other (List.mem_cons_of_mem _ inside)
    have first := prices position List.mem_cons_self
    rw [List.map_cons, List.sum_cons, ← rest, Position.exposure]
    by_cases counted : position.userId = userId ∧ position.status = "open"
    · rw [if_pos counted, List.filter_cons_of_pos (by simpa using counted), List.map_cons,
        List.sum_cons, first counted.1]
    · rw [if_neg counted, List.filter_cons_of_neg (by simpa using counted), zero_add]

theorem ExecutionJob.exposure_unaccepted {job : ExecutionJob}
    (unaccepted : job.queuePayload = none) :
    job.exposure price userId = 0 := by
  apply if_neg
  rintro ⟨_, accepted, _⟩
  rw [unaccepted] at accepted
  cases accepted

theorem ExecutionJob.exposure_le (job : ExecutionJob) :
    job.exposure price userId ≤
      if job.userId = userId then |job.size * price job.symbol| else 0 := by
  have nonnegative : 0 ≤ |job.size * price job.symbol| := abs_nonneg _
  unfold ExecutionJob.exposure
  split
  · rename_i counted
    rw [if_pos counted.1]
  · split
    · exact nonnegative
    · exact le_rfl

end Totals

section Saving

variable {database after : Database} {stored : Option ExecutionJob} {job : ExecutionJob}

/-- A job may be saved when it is new, or when it was read and differs only in
what a commit writes. -/
def Savable (database : Database) (stored : Option ExecutionJob) (job : ExecutionJob) : Prop :=
  ∀ row, stored = some row → database.findJob job.id = some row ∧ ExecutionJob.Keeps row job

theorem commit_saveJob_jobs (committed : database.commit (saveJob stored job) = .ok after) :
    after.jobs = stored.elim (database.jobs ++ [job]) fun row =>
      rewrite ExecutionJob.id row.id (ExecutionJob.merge row job) database.jobs := by
  rw [Database.commit_ok committed]
  cases stored with
  | none => rfl
  | some row =>
    have written := database.toTables.writeAll_job row job
    exact congrArg Tables.jobs written

section Saving

variable (committed : database.commit (saveJob stored job) = .ok after)
  (savable : Savable database stored job)

include committed savable

/-- The saved job is found, and the others are as before. -/
theorem commit_saveJob_findJob (id : Id) :
    after.findJob id = if id = job.id then some job else database.findJob id := by
  have jobs := commit_saveJob_jobs committed
  have inside : job ∈ after.jobs := by
    rw [jobs]
    cases stored with
    | none => exact List.mem_append_right _ (List.mem_singleton.mpr rfl)
    | some row =>
      obtain ⟨found, keeps⟩ := savable row rfl
      obtain ⟨present, same⟩ := Database.findJob_some.mp found
      refine List.mem_map.mpr ⟨row, present, ?_⟩
      rw [if_pos rfl]
      exact keeps
  by_cases isOwn : id = job.id
  · rw [if_pos isOwn]
    exact Database.findJob_some.mpr ⟨inside, isOwn.symm⟩
  · rw [if_neg isOwn]
    unfold Database.findJob
    rw [jobs]
    cases stored with
    | none =>
      have different : ¬job.id = id := fun same => isOwn same.symm
      simp [different]
    | some row =>
      obtain ⟨found, keeps⟩ := savable row rfl
      have rewritten : (rewrite ExecutionJob.id row.id (ExecutionJob.merge row job)
          database.jobs).find? (fun other => decide (other.id = id)) =
            (database.jobs.find? fun other => decide (other.id = id)).map fun other =>
              if other.id = row.id then ExecutionJob.merge row job other else other :=
        find_rewrite fun _ => rfl
      change List.find? _ (rewrite ExecutionJob.id row.id (ExecutionJob.merge row job)
        database.jobs) = _
      rw [rewritten]
      cases known : database.jobs.find? (fun other => decide (other.id = id)) with
      | none => rfl
      | some other =>
        have isOther : other.id = id := by simpa using List.find?_some known
        have different : ¬other.id = row.id := by
          rw [isOther, ← keeps.id]
          exact isOwn
        rw [Option.map_some, if_neg different]

/-- What is pending changes by what the job adds. -/
theorem commit_saveJob_pending (price : String → ℚ) (userId : String) :
    after.pendingExposure price userId = database.pendingExposure price userId -
      stored.elim 0 (ExecutionJob.exposure price userId) + job.exposure price userId := by
  unfold Database.pendingExposure
  rw [commit_saveJob_jobs committed]
  cases stored with
  | none => simp
  | some row =>
    obtain ⟨found, keeps⟩ := savable row rfl
    have merged : ExecutionJob.merge row job row = job := keeps
    change (List.map _ (rewrite ExecutionJob.id row.id (ExecutionJob.merge row job)
      database.jobs)).sum = _
    rw [sum_rewrite database.consistent.1 (Database.findJob_some.mp found).1, merged]
    rfl

theorem commit_saveJob_exposure (price : String → ℚ) (userId : String) :
    after.exposure price userId = database.exposure price userId -
      stored.elim 0 (ExecutionJob.exposure price userId) + job.exposure price userId := by
  unfold Database.exposure Database.positionExposure
  rw [commit_saveJob_pending committed savable price userId, commit_saveJob_positions committed]
  ring

end Saving

theorem commit_insertJob_fresh (committed : database.commit [.insertJob job] = .ok after) :
    database.findJob job.id = none := by
  have jobs : after.jobs = database.jobs ++ [job] := by
    rw [Database.commit_ok committed]
    rfl
  have distinct : (after.jobs.map ExecutionJob.id).Nodup := after.consistent.1
  rw [jobs, List.map_append] at distinct
  cases found : database.findJob job.id with
  | none => rfl
  | some row =>
    obtain ⟨inside, same⟩ := Database.findJob_some.mp found
    have twice := List.disjoint_of_nodup_append distinct (List.mem_map_of_mem inside)
    exact absurd (by simp [same]) twice

end Saving

section Carrying

/-- An order asks for what its job asks for. -/
structure Order.Matches (order : Order) (job : ExecutionJob) : Prop where
  userId : order.userId = job.userId
  symbol : order.symbol = job.symbol
  size : order.size = job.size

/-- Until the order is filled its job has not ended: before the answer of the
adapter in memory, and then in the table. -/
def Step.Undecided (work : Work) : Step → Prop
  | .preparing => upper work.job.state ∉ terminalStates
  | .replied _ => upper work.job.state ∉ terminalStates
  | .answered _ => upper work.job.state ∉ terminalStates
  | .recording _ => upper work.storedJob.state ∉ terminalStates
  | .filling _ => upper work.storedJob.state ∉ terminalStates
  | .filled _ _ => upper work.storedJob.state ∉ terminalStates
  | _ => True

/-- What a delivery keeps of its job: it was accepted, it is never revived, and a
position is only held while the job has not ended in the table. -/
structure Carrying (payload : QueuePayload) (work : Work) (step : Step) : Prop where
  named : payload.executionJobId = some work.job.id
  accepted : work.storedJob.queuePayload.isSome
  queued : work.job.queuePayload = work.storedJob.queuePayload
  agrees : work.order.Matches work.job
  ends : upper work.storedJob.state ∈ terminalStates → upper work.job.state ∈ terminalStates
  undecided : step.Undecided work
  pending : work.position ≠ none → upper work.storedJob.state ∉ terminalStates

variable {world after : World} {oracle : Oracle} {payload : QueuePayload} {work held : Work}
  {step : Step} {command : Command}

theorem Carrying.opened {job : ExecutionJob} {stored : Option Order} {order : Order}
    (named : payload.executionJobId = some job.id) (accepted : job.queuePayload.isSome)
    (agrees : order.Matches job) (unfinished : upper job.state ∉ terminalStates) :
    Carrying payload (.opened job stored order) .preparing where
  named := named
  accepted := accepted
  queued := rfl
  agrees := agrees
  ends := id
  undecided := unfinished
  pending holdsOne := absurd rfl holdsOne

section Carrying

variable (carrying : Carrying payload work step)

include carrying

theorem Carrying.assigns
    (assigns : step.Assigns work held) : Carrying payload held step.assigned := by
  obtain ⟨named, accepted, queued, agrees, ends, undecided, pending⟩ := carrying
  have early : upper work.job.state ∉ terminalStates →
      upper work.storedJob.state ∉ terminalStates := mt ends
  cases step with
  | replied result =>
    cases assigns
    exact ⟨named, accepted, queued, ⟨agrees.1, agrees.2, agrees.3⟩, ends, undecided, pending⟩
  | answered result =>
    obtain ⟨rfl, _⟩ := assigns
    exact ⟨named, accepted, queued, ⟨agrees.1, agrees.2, agrees.3⟩, ends, early undecided, pending⟩
  | recording states =>
    cases states with
    | nil => exact assigns.elim
    | cons state states =>
      obtain ⟨moved, advanced, rfl⟩ := assigns
      obtain ⟨_, failReason, rejectReason, rfl⟩ := advanceOrderState_ok advanced
      refine ⟨named, accepted, queued, ⟨agrees.1, agrees.2, agrees.3⟩,
        fun ended => absurd ended undecided, ?_, pending⟩
      unfold Step.assigned
      dsimp only
      split <;> exact undecided
  | filled row states =>
    cases assigns
    exact ⟨named, accepted, queued, ⟨agrees.1, agrees.2, agrees.3⟩, ends, undecided,
      fun _ => undecided⟩
  | _ => exact assigns.elim

theorem Carrying.handles (failure : String) :
    Carrying payload (work.failed failure) .failed := by
  obtain ⟨named, accepted, queued, agrees, ends, _, pending⟩ := carrying
  refine ⟨named, accepted, queued, ⟨agrees.1, agrees.2, agrees.3⟩, fun ended => ?_,
    trivial, pending⟩
  change upper (work.job.afterFailure failure).state ∈ terminalStates
  rcases afterFailure_state work.job failure with ⟨failed, _⟩ | ⟨same, _⟩
  · rw [failed]
    decide +kernel
  · rw [same]
    exact ends ended

theorem Carrying.raises (command : Command) :
    Carrying payload (work.hurt command) step.raised := by
  obtain ⟨named, accepted, queued, agrees, ends, _, pending⟩ := carrying
  have quiet : ∀ work, step.raised.Undecided work := by
    intro work
    cases step <;> trivial
  unfold Work.hurt
  split
  · exact ⟨named, accepted, queued, ⟨agrees.1, agrees.2, agrees.3⟩, ends, quiet _, pending⟩
  · exact ⟨named, accepted, queued, agrees, ends, quiet _, pending⟩

theorem Carrying.commits (commits : step.Commits) :
    Carrying payload work.committed step.committed := by
  obtain ⟨named, accepted, queued, agrees, _, undecided, _⟩ := carrying
  refine ⟨named, queued ▸ accepted, rfl, ⟨agrees.1, agrees.2, agrees.3⟩, id, ?_,
    fun holdsOne => absurd rfl holdsOne⟩
  cases step with
  | answered result => exact undecided
  | recording | closed | failed | handled => trivial
  | _ => exact commits.elim

theorem Carrying.rereads {database : Database} (holds : Held database work) {row : ExecutionJob}
    (found : database.findJob work.job.id = some row) :
    Carrying payload { work with storedJob := row, job := row, jobExpired := false } step := by
  obtain ⟨named, accepted, _, agrees, ends, undecided, pending⟩ := carrying
  have same : work.storedJob = row := Option.some.inj (holds.job.symm.trans found)
  subst same
  have id : work.storedJob.id = work.job.id := (Database.findJob_some.mp found).2
  obtain ⟨userId, symbol, size⟩ := holds.keepsJob.columns
  refine ⟨id ▸ named, accepted, rfl, ?_, fun ended => ended, ?_, pending⟩
  · exact ⟨agrees.userId.trans userId, agrees.symbol.trans symbol, agrees.size.trans size⟩
  · cases step with
    | preparing | replied | answered => exact mt ends undecided
    | recording | filling | filled => exact undecided
    | _ => trivial

theorem Carrying.reopens {database : Database}
    (holds : Held database work) {row : Order} (stored : ∃ stored, work.storedOrder = some stored)
    (found : database.findOrder work.order.id = some row) :
    Carrying payload { work with storedOrder := some row, order := row, orderExpired := false }
      step := by
  obtain ⟨named, accepted, queued, agrees, ends, undecided, pending⟩ := carrying
  obtain ⟨order, isStored⟩ := stored
  have same : order = row := Option.some.inj ((holds.order order isStored).symm.trans found)
  subst same
  obtain ⟨userId, symbol, _, size⟩ := (holds.keepsOrder order isStored).columns
  refine ⟨named, accepted, queued, ?_, ends, ?_, pending⟩
  · exact ⟨userId.symm.trans agrees.userId, symbol.symm.trans agrees.symbol,
      size.symm.trans agrees.size⟩
  · cases step <;> exact undecided

theorem Carrying.moves {test : FillTest}
    (posting : Posting test world.database work step) {left : Work} {next : Step}
    (moves : Moves world oracle (.working payload work step) command after
      (.working payload left next)) : Carrying payload left next := by
  cases moves with
  | rests | assigns | pushes => exact carrying
  | raises => exact carrying.raises command
  | holds _ _ _ _ assigns => exact carrying.assigns assigns
  | handles _ _ _ failure => exact carrying.handles failure
  | commits _ _ _ _ _ commits => exact carrying.commits commits
  | rereads _ _ _ row _ _ found => exact carrying.rereads posting.held found
  | reopens _ _ _ row _ expired found =>
    exact carrying.reopens posting.held (posting.reopened expired) found
  | losesJob _ _ _ absent =>
    have found := posting.held.job
    rw [absent] at found
    cases found
  | losesOrder _ _ _ expired absent =>
    obtain ⟨stored, isStored⟩ := posting.reopened expired
    have found := posting.held.order stored isStored
    rw [absent] at found
    cases found
  | locates | submits => exact { carrying with }

end Carrying

end Carrying

section Filling

/-- Fills of a user's orders: at the fixed price, and of at most what was ordered. -/
def WithinSize (price : String → ℚ) (userId : String) (order : Order) : Prop :=
  order.userId = userId →
    order.avgFillPrice = some (price order.symbol) ∧ |order.filledSize| ≤ |order.size|

def sizeTest (price : String → ℚ) (userId : String) : FillTest where
  fits _ order := WithinSize price userId order
  positions _ within := within
  columns := by
    intro database order other within user symbol _ size fillPrice filledSize isUser
    rw [symbol, size, fillPrice, filledSize]
    exact within (user ▸ isUser)

def Priced (price : String → ℚ) (userId : String) (database : Database) : Prop :=
  ∀ position ∈ database.positions, position.status = "open" ∧
    (position.userId = userId → position.currentPrice = price position.symbol)

variable {price : String → ℚ} {userId : String} {database after : Database}
  {payload : QueuePayload} {work : Work} {step : Step}

theorem quantity_le {order : Order} (within : |order.filledSize| ≤ |order.size|) :
    |order.quantity| ≤ |order.size| := by
  unfold Order.quantity
  split
  · exact le_rfl
  · exact within

theorem syncedPosition_exposure {order : Order} {row : Option Position}
    (within : WithinSize price userId order)
    (isOwn : ∀ position, row = some position →
      position.positionId = (order.userId, order.symbol) ∧ position.status = "open") :
    (syncedPosition order row).exposure price userId ≤
      row.elim 0 (Position.exposure price userId) +
        if order.userId = userId then |order.size * price order.symbol| else 0 := by
  by_cases isUser : order.userId = userId
  · have quantity := quantity_le (within isUser).2
    have added : |order.quantity * price order.symbol| ≤ |order.size * price order.symbol| := by
      rw [abs_mul, abs_mul]
      exact mul_le_mul_of_nonneg_right quantity (abs_nonneg _)
    rw [if_pos isUser]
    cases row with
    | none =>
      have opened : (syncedPosition order none).exposure price userId =
          |order.quantity * price order.symbol| := if_pos ⟨isUser, rfl⟩
      rw [opened, Option.elim_none, zero_add]
      exact added
    | some position =>
      obtain ⟨samePosition, isOpen⟩ := isOwn position rfl
      obtain ⟨user, symbol⟩ := Prod.mk.inj samePosition
      have before : position.exposure price userId = |position.size * price position.symbol| :=
        if_pos ⟨user.trans isUser, isOpen⟩
      have rewritten : (syncedPosition order (some position)).exposure price userId =
          |(position.size + order.quantity) * price position.symbol| :=
        if_pos ⟨user.trans isUser, rfl⟩
      rw [rewritten, Option.elim_some, before, symbol, add_mul]
      exact (abs_add_le _ _).trans (add_le_add_right added _)
  · rw [if_neg isUser, add_zero]
    have foreign : ∀ position : Position, position.userId = order.userId →
        position.exposure price userId = 0 := by
      intro position user
      exact if_neg fun counted => isUser (user.symm.trans counted.1)
    cases row with
    | none => exact (foreign _ rfl).le
    | some position =>
      have user : position.userId = order.userId := congrArg Prod.fst (isOwn position rfl).1
      rw [Option.elim_some, foreign position user]
      exact (foreign (syncedPosition order (some position)) user).le

variable (price userId)

theorem Synced.commit_exposure {test : FillTest} (synced : Synced test database work)
    (committed : database.commit work.changes = .ok after) :
    after.positionExposure price userId = database.positionExposure price userId -
      (database.findPosition (work.order.userId, work.order.symbol)).elim 0
        (Position.exposure price userId) +
      (syncedPosition work.order
        (database.findPosition (work.order.userId, work.order.symbol))).exposure price userId := by
  have positions : after.positions = work.writtenPositions database.positions := by
    rw [Database.commit_ok committed, work.writeAll_changes]
  rw [Work.writtenPositions, synced.position] at positions
  unfold Database.positionExposure
  cases known : database.findPosition (work.order.userId, work.order.symbol) with
  | none =>
    rw [known] at positions
    rw [positions, List.map_append, List.sum_append]
    simp
  | some row =>
    rw [known] at positions
    have merged : Position.merge row (syncedPosition work.order (some row)) row =
        syncedPosition work.order (some row) := by
      unfold Position.merge
      simp only [pick_stored]
      rfl
    rw [positions, sum_rewrite database.consistent.2.2.2.2 (Database.findPosition_some.mp known).1,
      merged]
    rfl

theorem Held.commit_pending (holds : Held database work)
    (committed : database.commit work.changes = .ok after) :
    after.pendingExposure price userId = database.pendingExposure price userId -
      work.storedJob.exposure price userId + work.job.exposure price userId := by
  have jobs : after.jobs = rewrite ExecutionJob.id work.storedJob.id
      (ExecutionJob.merge work.storedJob work.job) database.jobs := by
    rw [Database.commit_ok committed, work.writeAll_changes]
  have merged : ExecutionJob.merge work.storedJob work.job work.storedJob = work.job :=
    holds.keepsJob
  unfold Database.pendingExposure
  rw [jobs, sum_rewrite database.consistent.1 (Database.findJob_some.mp holds.job).1, merged]

theorem Carrying.exposure_le (carrying : Carrying payload work step) (holds : Held database work) :
    work.job.exposure price userId ≤ work.storedJob.exposure price userId := by
  obtain ⟨user, symbol, size⟩ := holds.keepsJob.columns
  unfold ExecutionJob.exposure
  rw [user, symbol, size, carrying.queued]
  split
  · rename_i counted
    have stillCounted := And.intro counted.1 (And.intro counted.2.1 (mt carrying.ends counted.2.2))
    rw [if_pos stillCounted]
  · split
    · exact abs_nonneg _
    · exact le_rfl

theorem Carrying.exposure_filling (carrying : Carrying payload work step)
    (holds : Held database work) (holdsOne : work.position ≠ none) :
    work.storedJob.exposure price userId =
      if work.order.userId = userId then |work.order.size * price work.order.symbol| else 0 := by
  obtain ⟨user, symbol, size⟩ := holds.keepsJob.columns
  rw [carrying.agrees.userId, carrying.agrees.symbol, carrying.agrees.size, user, symbol, size]
  unfold ExecutionJob.exposure
  by_cases isUser : work.storedJob.userId = userId
  · rw [if_pos isUser, if_pos ⟨isUser, carrying.accepted, carrying.pending holdsOne⟩]
  · rw [if_neg isUser, if_neg fun counted => isUser counted.1]

variable {price userId}

variable (posting : Posting (sizeTest price userId) database work step)
  (priced : Priced price userId database) (usable : work.broken = false) (commits : step.Commits)
  (committed : database.commit work.changes = .ok after)

include posting priced usable commits committed

theorem Carrying.commit_exposure (carrying : Carrying payload work step) :
    after.exposure price userId ≤ database.exposure price userId := by
  have pending := posting.held.commit_pending price userId committed
  unfold Database.exposure
  rw [pending]
  rcases posting.closes usable commits with synced | idle
  · have ended : work.job.exposure price userId = 0 :=
      if_neg fun counted => counted.2.2 (posting.ended synced.state)
    have holdsOne : work.position ≠ none := by
      rw [synced.position]
      exact Option.some_ne_none _
    have isOwn : ∀ position,
        database.findPosition (work.order.userId, work.order.symbol) = some position →
          position.positionId = (work.order.userId, work.order.symbol) ∧
            position.status = "open" := by
      intro position found
      obtain ⟨inside, same⟩ := Database.findPosition_some.mp found
      exact ⟨same, (priced position inside).1⟩
    have added := syncedPosition_exposure synced.fits isOwn
    rw [synced.commit_exposure price userId committed, ended,
      carrying.exposure_filling price userId posting.held holdsOne]
    linarith
  · have none : work.position = none := by
      rcases idle with unfilled | recorded
      · exact unfilled.position
      · exact recorded.position
    have positions : after.positionExposure price userId =
        database.positionExposure price userId := by
      unfold Database.positionExposure
      rw [commit_positions committed none]
    have less := carrying.exposure_le price userId posting.held
    rw [positions]
    linarith

theorem Posting.commit_priced (nonzero : ∀ symbol, price symbol ≠ 0) :
    Priced price userId after := by
  rcases posting.closes usable commits with synced | idle
  · intro position inside
    have found : after.findPosition position.positionId = some position :=
      Database.findPosition_some.mpr ⟨inside, rfl⟩
    rw [synced.commit_position committed] at found
    split at found
    · cases found
      refine ⟨?_, fun isUser => ?_⟩
      · cases database.findPosition (work.order.userId, work.order.symbol) <;> rfl
      · cases known : database.findPosition (work.order.userId, work.order.symbol) with
        | none =>
          rw [known] at isUser
          have fillPrice := (synced.fits isUser).1
          change orOne (work.order.avgFillPrice.getD 0) = price work.order.symbol
          rw [fillPrice]
          exact if_neg (nonzero _)
        | some row =>
          rw [known] at isUser
          obtain ⟨user, symbol⟩ := Prod.mk.inj (Database.findPosition_some.mp known).2
          have fillPrice := (synced.fits (user.symm.trans isUser)).1
          change (if work.order.avgFillPrice.getD 0 = 0 then orOne row.currentPrice
            else work.order.avgFillPrice.getD 0) = price row.symbol
          rw [fillPrice, symbol]
          exact if_neg (nonzero _)
    · exact priced position (Database.findPosition_some.mp found).1
  · have none : work.position = none := by
      rcases idle with unfilled | recorded
      · exact unfilled.position
      · exact recorded.position
    rw [Priced, commit_positions committed none]
    exact priced

end Filling

end Signal
