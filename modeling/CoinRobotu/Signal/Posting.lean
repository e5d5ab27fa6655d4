import CoinRobotu.Signal.Terminal

/-!
# How a session fills an order

Within a delivery an order becomes filled in memory, its position is read, and
the fill is added to it; then both are committed together, or the session is
lost. A test says what the fills of a run are like. It is asked when the adapter
has answered, and holds of the order that is committed.
-/

namespace Signal

open Runtime (upper)

/-- A test of an order as a fill. -/
structure FillTest where
  fits : Database → Order → Prop
  positions : ∀ {before after : Database} {order : Order}, after.positions = before.positions →
    fits before order → fits after order
  columns : ∀ {database : Database} {order other : Order}, fits database order →
    other.userId = order.userId → other.symbol = order.symbol → other.side = order.side →
      other.size = order.size → other.avgFillPrice = order.avgFillPrice →
        other.filledSize = order.filledSize → fits database other

def FilledEnded (database : Database) : Prop :=
  ∀ order ∈ database.orders, order.state = "FILLED" →
    ∃ job, database.findJob order.executionJobId = some job ∧ upper job.state ∈ terminalStates

section Jobs

variable {database after : Database}

def JobsEnd (before after : Database) : Prop :=
  ∀ id job, before.findJob id = some job → upper job.state ∈ terminalStates →
    ∃ now, after.findJob id = some now ∧ upper now.state ∈ terminalStates

/-- Changes that update jobs only to states that ended, or not at all, keep the
jobs that ended. -/
theorem commit_jobs_end {changes : List Change} (committed : database.commit changes = .ok after)
    (ends : ∀ stored current, .updateJob stored current ∈ changes →
      current.state = stored.state ∨ upper current.state ∈ terminalStates) :
        JobsEnd database after := by
  have written : ∀ (tables : Tables) (id : Id) (job : ExecutionJob),
      tables.jobs.find? (·.id = id) = some job → upper job.state ∈ terminalStates →
        ∃ now, (tables.writeAll changes).jobs.find? (·.id = id) = some now ∧
          upper now.state ∈ terminalStates := by
    clear committed
    induction changes with
    | nil => exact fun _ _ job found terminal => ⟨job, found, terminal⟩
    | cons change changes ih =>
      intro tables id job found terminal
      have first : ∃ now, (tables.write change).jobs.find? (·.id = id) = some now ∧
          upper now.state ∈ terminalStates := by
        cases change with
        | insertJob inserted =>
          refine ⟨job, ?_, terminal⟩
          change (tables.jobs ++ [inserted]).find? _ = _
          rw [List.find?_append, found]
          rfl
        | updateJob stored current =>
          have rewritten : (tables.write (.updateJob stored current)).jobs.find? (·.id = id) =
              (tables.jobs.find? (·.id = id)).map fun row =>
                if row.id = stored.id then ExecutionJob.merge stored current row else row :=
            find_rewrite fun _ => rfl
          rw [rewritten, found]
          refine ⟨_, rfl, ?_⟩
          dsimp only
          split
          · have merged : (ExecutionJob.merge stored current job).state =
                pick stored.state current.state job.state := rfl
            rw [merged]
            unfold pick
            split
            · exact terminal
            · rename_i differs
              exact (ends stored current List.mem_cons_self).resolve_left differs
          · exact terminal
        | _ => exact ⟨job, found, terminal⟩
      obtain ⟨now, present, stillTerminal⟩ := first
      exact ih
        (fun stored current inside => ends stored current (List.mem_cons_of_mem _ inside))
        _ id now present stillTerminal
  intro id job found terminal
  unfold Database.findJob
  rw [Database.commit_ok committed]
  exact written _ id job found terminal

theorem saveJob_jobs_end {stored : Option ExecutionJob} {job : ExecutionJob}
    (committed : database.commit (saveJob stored job) = .ok after)
    (fails : ∀ row, stored = some row → job.state = row.state ∨ upper job.state ∈ terminalStates) :
    JobsEnd database after := by
  apply commit_jobs_end committed
  intro before current inside
  cases stored with
  | none => cases List.mem_singleton.mp inside
  | some row =>
    unfold saveJob at inside
    dsimp only at inside
    split at inside
    · cases inside
    · cases List.mem_singleton.mp inside
      exact fails _ rfl

theorem FilledEnded.of_orders (ended : FilledEnded database)
    (orders : after.orders = database.orders)
    (jobs : JobsEnd database after) : FilledEnded after := by
  intro order inside isFilled
  obtain ⟨job, found, terminal⟩ := ended order (orders ▸ inside) isFilled
  exact jobs _ job found terminal

theorem FilledEnded.unfilled (ended : FilledEnded database) {job : ExecutionJob}
    (found : database.findJob job.id = some job) (unfinished : upper job.state ∉ terminalStates) :
    ∀ order ∈ database.orders, order.executionJobId = job.id → order.state ≠ "FILLED" := by
  intro order inside isOwn isFilled
  obtain ⟨row, known, terminal⟩ := ended order inside isFilled
  rw [isOwn, found] at known
  cases known
  exact unfinished terminal

end Jobs

section Sessions

variable (test : FillTest)

/-- The order of the session is not filled, neither stored nor in memory. -/
structure Unfilled (work : Work) : Prop where
  position : work.position = none
  state : work.order.state ≠ "FILLED"
  stored : ∀ stored, work.storedOrder = some stored → stored.state ≠ "FILLED"

/-- The order of the session became filled in memory. -/
structure Filling (database : Database) (work : Work) : Prop where
  state : work.order.state = "FILLED"
  stored : ∀ stored, work.storedOrder = some stored → stored.state ≠ "FILLED"
  fits : test.fits database work.order
  jobFresh : work.jobExpired = false
  orderFresh : work.orderExpired = false

/-- Its fill was added to the position. -/
structure Synced (database : Database) (work : Work) : Prop extends Filling test database work where
  position : work.position = some (database.findPosition (work.order.userId, work.order.symbol),
    syncedPosition work.order (database.findPosition (work.order.userId, work.order.symbol)))

/-- The order is as it is stored. -/
structure Recorded (work : Work) : Prop where
  position : work.position = none
  stored : work.storedOrder = some work.order

/-- What a step says of the session's order. -/
def Step.Posts (database : Database) (work : Work) : Step → Prop
  | .preparing => Unfilled work
  | .replied result => Unfilled work ∧ (∀ state ∈ result.states, state ∈ orderStates) ∧
      ("FILLED" ∈ result.states → test.fits database (work.order.withResult result))
  | .answered result => Unfilled work ∧ (∀ state ∈ result.states, state ∈ orderStates) ∧
      ("FILLED" ∈ result.states → test.fits database (work.order.withResult result))
  | .recording states => Synced test database work ∨
      Unfilled work ∧ work.jobExpired = false ∧ work.orderExpired = false ∧
        (∀ state ∈ states, state ∈ orderStates) ∧
          ("FILLED" ∈ states → test.fits database work.order)
  | .filling _ => Filling test database work ∧ work.position = none
  | .filled row _ => Filling test database work ∧ work.position = none ∧
      row = database.findPosition (work.order.userId, work.order.symbol)
  | _ => work.broken = true ∨ Synced test database work ∨ Unfilled work ∨ Recorded work

/-- What holds of a delivery that works on a session. -/
structure Posting (database : Database) (work : Work) (step : Step) : Prop where
  held : Held database work
  sole : ∀ row ∈ database.orders, row.executionJobId = work.job.id → row.state = "FILLED" →
    row.id = work.order.id
  ended : work.order.state = "FILLED" → upper work.job.state ∈ terminalStates
  reopened : work.orderExpired = true → ∃ stored, work.storedOrder = some stored
  posts : step.Posts test database work

variable {test} {database after : Database} {work held : Work} {step : Step}

section Committing

variable (committed : database.commit work.changes = .ok after)

include committed

theorem Posting.commit_ended (filledEnded : FilledEnded database)
    (posting : Posting test database work step) : FilledEnded after := by
  intro order inside isFilled
  have found : after.findOrder order.id = some order := Database.findOrder_some.mpr ⟨inside, rfl⟩
  rw [posting.held.commit_order committed] at found
  by_cases isOwn : order.id = work.order.id
  · rw [if_pos isOwn] at found
    cases found
    refine ⟨work.job, ?_, posting.ended isFilled⟩
    rw [posting.held.owner]
    exact (posting.held.commit_job committed _).trans (if_pos rfl)
  · rw [if_neg isOwn] at found
    have before : order ∈ database.orders := (Database.findOrder_some.mp found).1
    have foreign : ¬order.executionJobId = work.job.id :=
      fun same => isOwn (posting.sole order before same isFilled)
    obtain ⟨job, known, terminal⟩ := filledEnded order before isFilled
    exact ⟨job, ((posting.held.commit_job committed _).trans (if_neg foreign)).trans
      known, terminal⟩

theorem Posting.commit_sole (posting : Posting test database work step) :
    ∀ row ∈ after.orders, row.executionJobId = work.job.id → row.state = "FILLED" →
      row.id = work.order.id := by
  intro row inside isOwn isFilled
  by_contra different
  have found : after.findOrder row.id = some row := Database.findOrder_some.mpr ⟨inside, rfl⟩
  rw [posting.held.commit_order committed, if_neg different] at found
  exact different (posting.sole row (Database.findOrder_some.mp found).1 isOwn isFilled)

theorem commit_positions (none : work.position = none) :
    after.positions = database.positions := by
  rw [Database.commit_ok committed, work.writeAll_changes]
  change work.writtenPositions database.positions = database.positions
  rw [Work.writtenPositions, none]

/-- The commit of a fill rewrites or inserts the one position. -/
theorem Synced.commit_position (synced : Synced test database work)
    (positionId : String × String) :
    after.findPosition positionId =
      if positionId = (work.order.userId, work.order.symbol) then
        some (syncedPosition work.order
          (database.findPosition (work.order.userId, work.order.symbol)))
      else database.findPosition positionId := by
  have positions : after.positions = work.writtenPositions database.positions := by
    rw [Database.commit_ok committed, work.writeAll_changes]
  rw [Work.writtenPositions, synced.position] at positions
  unfold Database.findPosition at positions ⊢
  cases known : database.positions.find?
      (fun row => decide (row.positionId = (work.order.userId, work.order.symbol))) with
  | none =>
    rw [known] at positions
    have key : (syncedPosition work.order none).positionId =
        (work.order.userId, work.order.symbol) :=
      rfl
    rw [positions, List.find?_append]
    by_cases isOwn : positionId = (work.order.userId, work.order.symbol)
    · rw [if_pos isOwn, isOwn, known]
      simp [key]
    · have different : ¬(work.order.userId, work.order.symbol) = positionId :=
        fun same => isOwn same.symm
      rw [if_neg isOwn]
      simp [key, different]
  | some row =>
    rw [known] at positions
    have isRow : row.positionId = (work.order.userId, work.order.symbol) := by
      simpa using List.find?_some known
    have merged : Position.merge row (syncedPosition work.order (some row)) row =
        syncedPosition work.order (some row) := by
      unfold Position.merge
      simp only [pick_stored]
      rfl
    have rewritten : after.positions.find? (fun row => decide (row.positionId = positionId)) =
        (database.positions.find? fun row => decide (row.positionId = positionId)).map
          fun other => if other.positionId = row.positionId then
            Position.merge row (syncedPosition work.order (some row)) other else other := by
      rw [positions]
      exact find_rewrite fun _ => rfl
    rw [rewritten]
    by_cases isOwn : positionId = (work.order.userId, work.order.symbol)
    · rw [if_pos isOwn, isOwn, known, Option.map_some, if_pos rfl, merged]
    · rw [if_neg isOwn]
      cases found : database.positions.find? (fun row => decide (row.positionId = positionId)) with
      | none => rfl
      | some other =>
        have isOther : other.positionId = positionId := by simpa using List.find?_some found
        have different : ¬other.positionId = row.positionId := by
          rw [isOther, isRow]
          exact isOwn
        rw [Option.map_some, if_neg different]

end Committing

theorem filled_advances_nowhere {order moved : Order} {state : String}
    (filled : order.state = "FILLED")
    (advanced : advanceOrderState order state = .ok moved) : False := by
  have transition := (advanceOrderState_ok advanced).1
  have current : upper (if order.state = "" then "CREATED" else order.state) = "FILLED" := by
    rw [filled]
    decide +kernel
  rw [current] at transition
  cases transition

/-- The assignments of the `try` block. -/
theorem Posting.assigns (posting : Posting test database work step)
    (assigns : step.Assigns work held) : Posting test database held step.assigned := by
  have holds := posting.held.assigns assigns
  have posts := posting.posts
  cases step with
  | replied result =>
    cases assigns
    obtain ⟨unfilled, listed, fits⟩ := posts
    exact
      { held := holds
        sole := posting.sole
        ended := posting.ended
        reopened := posting.reopened
        posts := ⟨⟨unfilled.position, unfilled.state, unfilled.stored⟩, listed, fits⟩ }
  | answered result =>
    obtain ⟨rfl, jobFresh, orderFresh⟩ := assigns
    obtain ⟨unfilled, listed, fits⟩ := posts
    exact
      { held := holds
        sole := posting.sole
        ended := posting.ended
        reopened := posting.reopened
        posts := .inr ⟨⟨unfilled.position, unfilled.state, unfilled.stored⟩, jobFresh, orderFresh,
          listed, fits⟩ }
  | recording states =>
    cases states with
    | nil => exact assigns.elim
    | cons state states =>
      obtain ⟨moved, advanced, rfl⟩ := assigns
      rcases posts with synced | ⟨unfilled, jobFresh, orderFresh, listed, fits⟩
      · exact (filled_advances_nowhere synced.state advanced).elim
      · have known : state ∈ orderStates := listed state List.mem_cons_self
        obtain ⟨_, failReason, rejectReason, rfl⟩ := advanceOrderState_ok advanced
        have reached : upper state = state := upper_listed known
        have movedFits : "FILLED" ∈ state :: states →
            test.fits database { work.order with state := upper state, failReason, rejectReason } :=
          fun inside => test.columns (fits inside) rfl rfl rfl rfl rfl rfl
        by_cases isFill : state = "FILLED"
        · subst isFill
          exact
            { held := holds
              sole := posting.sole
              ended := fun _ => by
                change upper "FILLED" ∈ terminalStates
                decide +kernel
              reopened := posting.reopened
              posts := by
                rw [Step.assigned, if_pos rfl]
                exact ⟨⟨reached, unfilled.stored, movedFits List.mem_cons_self,
                  jobFresh, orderFresh⟩,
                  unfilled.position⟩ }
        · have notFilled : upper state ≠ "FILLED" := by
            rw [reached]
            exact isFill
          exact
            { held := holds
              sole := posting.sole
              ended := fun isFilled => absurd isFilled notFilled
              reopened := posting.reopened
              posts := by
                rw [Step.assigned, if_neg isFill]
                exact .inr ⟨⟨unfilled.position, notFilled, unfilled.stored⟩, jobFresh, orderFresh,
                  fun other inside => listed other (List.mem_cons_of_mem _ inside),
                  fun inside => movedFits (List.mem_cons_of_mem _ inside)⟩ }
  | filled row states =>
    cases assigns
    obtain ⟨filling, _, rfl⟩ := posts
    exact
      { held := holds
        sole := posting.sole
        ended := posting.ended
        reopened := posting.reopened
        posts := .inl ⟨⟨filling.state, filling.stored, filling.fits, filling.jobFresh,
          filling.orderFresh⟩, rfl⟩ }
  | _ => exact assigns.elim

section Closing

variable (posts : step.Posts test database work)

include posts

theorem Step.Posts.closes (pauses : step.Pauses) :
    work.broken = true ∨ Synced test database work ∨ Unfilled work ∨ Recorded work := by
  cases step with
  | preparing => exact .inr (.inr (.inl posts))
  | replied | answered => exact .inr (.inr (.inl posts.1))
  | recording states =>
    rcases posts with synced | ⟨unfilled, _⟩
    · exact .inr (.inl synced)
    · exact .inr (.inr (.inl unfilled))
  | filling | filled => exact pauses.elim
  | _ => exact posts

theorem Step.Posts.idle (usable : work.broken = false)
    (expired : work.jobExpired = true ∨ work.orderExpired = true) : Unfilled work ∨
      Recorded work := by
  have fresh : ¬Filling test database work := by
    intro filling
    rcases expired with expired | expired
    · rw [filling.jobFresh] at expired
      cases expired
    · rw [filling.orderFresh] at expired
      cases expired
  have unsynced : ¬Synced test database work := fun synced => fresh synced.toFilling
  have sound : ¬work.broken = true := by simp [usable]
  have pauses : step.Pauses := by
    cases step with
    | filling | filled => exact fresh posts.1
    | _ => trivial
  exact ((posts.closes pauses).resolve_left sound).resolve_left unsynced

theorem Step.Posts.renew {renewed : Work}
    (usable : work.broken = false) (expired : work.jobExpired = true ∨ work.orderExpired = true)
    (unfilled : Unfilled work → Unfilled renewed)
    (closes : Unfilled work ∨ Recorded work → Unfilled renewed ∨ Recorded renewed)
    (fits : ∀ result, test.fits database (work.order.withResult result) →
      test.fits database (renewed.order.withResult result)) :
    step.Posts test database renewed := by
  have idle := posts.idle usable expired
  have stale : ¬(work.jobExpired = false ∧ work.orderExpired = false) := by
    rintro ⟨jobFresh, orderFresh⟩
    rcases expired with expired | expired
    · rw [jobFresh] at expired
      cases expired
    · rw [orderFresh] at expired
      cases expired
  cases step with
  | preparing => exact unfilled posts
  | replied result | answered result =>
    exact ⟨unfilled posts.1, posts.2.1, fun inside => fits result (posts.2.2 inside)⟩
  | recording states =>
    rcases posts with synced | ⟨_, jobFresh, orderFresh, _⟩
    · exact absurd ⟨synced.jobFresh, synced.orderFresh⟩ stale
    · exact absurd ⟨jobFresh, orderFresh⟩ stale
  | filling | filled => exact absurd ⟨posts.1.jobFresh, posts.1.orderFresh⟩ stale
  | _ => exact .inr (.inr (closes idle))

end Closing

section Raising

variable (posting : Posting test database work step)

include posting

theorem Posting.raises (command : Command) (pauses : command.ofSession = true ∨ step.Pauses) :
    Posting test database (work.hurt command) step.raised := by
  have holds := posting.held.hurt command
  have closes : (work.hurt command).broken = true ∨ Synced test database (work.hurt command) ∨
      Unfilled (work.hurt command) ∨ Recorded (work.hurt command) := by
    unfold Work.hurt
    by_cases ofSession : command.ofSession = true
    · rw [if_pos ofSession]
      exact .inl rfl
    · rw [if_neg ofSession]
      exact posting.posts.closes (pauses.resolve_left ofSession)
  have posts : step.raised.Posts test database (work.hurt command) := by
    cases step <;> exact closes
  have same : (work.hurt command).order = work.order ∧ (work.hurt command).job = work.job ∧
      (work.hurt command).orderExpired = work.orderExpired ∧
      (work.hurt command).storedOrder = work.storedOrder := by
    unfold Work.hurt
    split <;> exact ⟨rfl, rfl, rfl, rfl⟩
  obtain ⟨order, job, expired, stored⟩ := same
  constructor
  · exact holds
  · rw [order, job]
    exact posting.sole
  · rw [order, job]
    exact posting.ended
  · rw [expired, stored]
    exact posting.reopened
  · exact posts

theorem Posting.handles (failure : String) (canFail : work.broken = true ∨ step.MayRaise work) :
    Posting test database (work.failed failure) .failed := by
  have closes : work.broken = true ∨ Synced test database work ∨ Unfilled work ∨ Recorded work := by
    rcases canFail with broken | mayRaise
    · exact .inl broken
    · apply posting.posts.closes
      cases step with
      | filling | filled => exact mayRaise
      | _ => trivial
  constructor
  · exact posting.held.failed failure
  · exact posting.sole
  · intro isFilled
    have terminal := posting.ended isFilled
    change upper (work.job.afterFailure failure).state ∈ terminalStates
    rcases afterFailure_state work.job failure with ⟨failed, _⟩ | ⟨same, _⟩
    · rw [failed]
      decide +kernel
    · rw [same]
      exact terminal
  · exact posting.reopened
  · rcases closes with broken | synced | unfilled | recorded
    · exact .inl broken
    · exact .inr (.inl ⟨⟨synced.state, synced.stored, synced.fits, synced.jobFresh,
        synced.orderFresh⟩, synced.position⟩)
    · exact .inr (.inr (.inl ⟨unfilled.position, unfilled.state, unfilled.stored⟩))
    · exact .inr (.inr (.inr ⟨recorded.position, recorded.stored⟩))

theorem Posting.closes (usable : work.broken = false)
    (commits : step.Commits) : Synced test database work ∨ Unfilled work ∨ Recorded work := by
  have sound : ¬work.broken = true := by simp [usable]
  exact (posting.posts.closes commits.pauses).resolve_left sound

end Raising

theorem Posting.commits (filledEnded : FilledEnded database)
    (posting : Posting test database work step) (commits : step.Commits)
    (committed : database.commit work.changes = .ok after) :
    FilledEnded after ∧ Posting test after work.committed step.committed := by
  have recorded : Recorded work.committed := ⟨rfl, rfl⟩
  have sole := posting.commit_sole committed
  constructor
  · exact posting.commit_ended committed filledEnded
  · constructor
    · exact posting.held.commits committed
    · exact sole
    · exact posting.ended
    · exact fun _ => ⟨work.order, rfl⟩
    · have posts := posting.posts
      cases step with
      | answered result =>
        obtain ⟨unfilled, listed, fits⟩ := posts
        refine ⟨⟨rfl, unfilled.state, fun stored isStored => ?_⟩, listed, fun inside => ?_⟩
        · cases isStored
          exact unfilled.state
        · exact test.positions (commit_positions committed unfilled.position) (fits inside)
      | recording | closed | failed | handled => exact .inr (.inr (.inr recorded))
      | _ => exact commits.elim

theorem Posting.rereads (filledEnded : FilledEnded database)
    (posting : Posting test database work step)
    (usable : work.broken = false) (expired : work.jobExpired = true) {row : ExecutionJob}
    (found : database.findJob work.job.id = some row) :
    Posting test database { work with storedJob := row, job := row, jobExpired := false } step := by
  have id : row.id = work.job.id := (Database.findJob_some.mp found).2
  have renewed : Unfilled work →
      Unfilled { work with storedJob := row, job := row, jobExpired := false } :=
    fun unfilled => ⟨unfilled.position, unfilled.state, unfilled.stored⟩
  constructor
  · exact posting.held.reread found
  · intro order inside isOwn
    exact posting.sole order inside (isOwn.trans id)
  · intro isFilled
    rcases posting.posts.idle usable (.inl expired) with unfilled | recorded
    · exact absurd isFilled unfilled.state
    · have known := posting.held.order _ recorded.stored
      obtain ⟨job, present, terminal⟩ :=
        filledEnded work.order (Database.findOrder_some.mp known).1 isFilled
      rw [posting.held.owner, found] at present
      cases present
      exact terminal
  · exact posting.reopened
  · apply posting.posts.renew usable (.inl expired) renewed
    · rintro (unfilled | recorded)
      · exact .inl (renewed unfilled)
      · exact .inr ⟨recorded.position, recorded.stored⟩
    · exact fun _ fits => fits

theorem Posting.reopens (posting : Posting test database work step)
    (usable : work.broken = false) (expired : work.orderExpired = true) {row : Order}
    (found : database.findOrder work.order.id = some row) :
    Posting test database { work with storedOrder := some row, order := row, orderExpired := false }
      step := by
  obtain ⟨stored, isStored⟩ := posting.reopened expired
  have isRow : stored = row :=
    Option.some.inj ((posting.held.order stored isStored).symm.trans found)
  subst isRow
  have id : stored.id = work.order.id := (Database.findOrder_some.mp found).2
  obtain ⟨userId, symbol, side, size⟩ := (posting.held.keepsOrder stored isStored).columns
  have renewed : Unfilled work →
      Unfilled { work with
        storedOrder := some stored, order := stored, orderExpired := false } := by
    intro unfilled
    have state := unfilled.stored stored isStored
    refine ⟨unfilled.position, state, fun other isOther => ?_⟩
    cases isOther
    exact state
  constructor
  · exact posting.held.reopen (posting.reopened expired) found
  · intro other inside isOwn isFilled
    exact (posting.sole other inside isOwn isFilled).trans id.symm
  · intro isFilled
    rcases posting.posts.idle usable (.inr expired) with unfilled | recorded
    · exact absurd isFilled (unfilled.stored stored isStored)
    · have same : stored = work.order := Option.some.inj (isStored.symm.trans recorded.stored)
      exact posting.ended (same ▸ isFilled)
  · exact nofun
  · apply posting.posts.renew usable (.inr expired) renewed
    · rintro (unfilled | recorded)
      · exact .inl (renewed unfilled)
      · exact .inr ⟨recorded.position, rfl⟩
    · intro result fits
      exact test.columns fits userId.symm symbol.symm side.symm size.symm rfl rfl

theorem Posting.opened (filledEnded : FilledEnded database) {job : ExecutionJob}
    {stored : Option Order} {order : Order} (found : database.findJob job.id = some job)
    (unfinished : upper job.state ∉ terminalStates)
    (known : ∀ row, stored = some row → row = order ∧ order ∈ database.orders)
    (owner : order.executionJobId = job.id) (state : order.state ≠ "FILLED") :
    Posting test database (.opened job stored order) .preparing where
  held := Held.opened found known owner
  sole row inside isOwn isFilled :=
    absurd isFilled (filledEnded.unfilled found unfinished row inside isOwn)
  ended isFilled := absurd isFilled state
  reopened expired := nomatch expired
  posts :=
    { position := rfl
      state
      stored := fun row isStored => (known row isStored).1 ▸ state }

end Sessions

section Moving

variable {test : FillTest} {world after : World} {oracle : Oracle} {payload : QueuePayload}
  {work : Work} {step : Step} {command : Command} {reached : Stage}

theorem Moves.working_writes
    (moves : Moves world oracle (.working payload work step) command after reached) :
    (after.database = world.database ∧ after.filled = world.filled) ∨
      ∃ database, work.broken = false ∧ step.Commits ∧
        world.database.commit work.changes = .ok database ∧
          after = world.wrote database work.changes := by
  cases moves with
  | commits _ _ _ database usable commits committed =>
    exact .inr ⟨database, usable, commits, committed, rfl⟩
  | _ => exact .inl ⟨rfl, rfl⟩

theorem Posting.moves (filledEnded : FilledEnded world.database)
    (posting : Posting test world.database work step)
    (fits : ∀ request, command = .submitOrder request → oracle.fault = none →
      "FILLED" ∈ (oracle.reply.toResult request.markPrice).states →
        test.fits world.database (work.order.withResult (oracle.reply.toResult request.markPrice)))
    (moves : Moves world oracle (.working payload work step) command after reached) :
    ∃ left next, reached = .working payload left next ∧ FilledEnded after.database ∧
      Posting test after.database left next := by
  cases moves with
  | rests | assigns => exact ⟨_, _, rfl, filledEnded, posting⟩
  | ends _ _ outside => exact absurd rfl (outside payload work step)
  | raises _ _ _ _ accepted cause taken pauses =>
    exact ⟨_, _, rfl, filledEnded, posting.raises command pauses⟩
  | holds _ _ held _ assigns => exact ⟨_, _, rfl, filledEnded, posting.assigns assigns⟩
  | handles _ _ _ failure fresh canFail =>
    exact ⟨_, _, rfl, filledEnded, posting.handles failure canFail⟩
  | commits _ _ _ database usable commits committed =>
    exact ⟨_, _, rfl, posting.commits filledEnded commits committed⟩
  | rereads _ _ _ row usable expired found =>
    exact ⟨_, _, rfl, filledEnded, posting.rereads filledEnded usable expired found⟩
  | reopens _ _ _ row usable expired found =>
    exact ⟨_, _, rfl, filledEnded, posting.reopens usable expired found⟩
  | losesJob _ _ _ absent =>
    have found := posting.held.job
    rw [absent] at found
    cases found
  | losesOrder _ _ _ expired absent =>
    obtain ⟨stored, isStored⟩ := posting.reopened expired
    have found := posting.held.order stored isStored
    rw [absent] at found
    cases found
  | locates _ _ states =>
    exact ⟨_, _, rfl, filledEnded,
      { posting with posts := ⟨posting.posts.1, posting.posts.2, rfl⟩ }⟩
  | submits _ _ unfailing =>
    have listed : ∀ state ∈ (oracle.reply.toResult work.job.request.markPrice).states,
        state ∈ orderStates := (mapStatusToStates_ends _).1
    exact ⟨_, _, rfl, filledEnded,
      { posting with posts := ⟨posting.posts, listed, fits _ rfl unfailing⟩ }⟩
  | pushes => exact ⟨_, _, rfl, filledEnded, { posting with }⟩

/-- What holds of the stages of a delivery: its job has not ended when it is found. -/
def Stage.Posts (test : FillTest) (database : Database) : Stage → Prop
  | .found _ job => database.findJob job.id = some job ∧ upper job.state ∉ terminalStates
  | .ordering _ job => database.findJob job.id = some job ∧ upper job.state ∉ terminalStates
  | .inserting _ job order =>
      (database.findJob job.id = some job ∧ upper job.state ∉ terminalStates) ∧
        order = newOrder order.id job
  | .working _ work step => Posting test database work step
  | _ => True

/-- Every move of a task keeps it. -/
theorem Stage.Posts.moves {stage : Stage} (filledEnded : FilledEnded world.database)
    (law : stage.Posts test world.database)
    (fits : ∀ payload work step request, stage = .working payload work step →
      command = .submitOrder request → oracle.fault = none →
        "FILLED" ∈ (oracle.reply.toResult request.markPrice).states →
          test.fits world.database
            (work.order.withResult (oracle.reply.toResult request.markPrice)))
    (moves : Moves world oracle stage command after reached) : reached.Posts test
      after.database := by
  cases stage with
  | looking payload =>
    cases moves with
    | finds _ job named found unfinished => exact ⟨found, unfinished⟩
    | _ => trivial
  | found payload job =>
    obtain ⟨known, unfinished⟩ := law
    cases moves with
    | rests => exact ⟨known, unfinished⟩
    | misses => exact ⟨known, unfinished⟩
    | opens _ _ order found =>
      obtain ⟨inside, owner⟩ := Database.orderOfJob_some found
      have unfilled := filledEnded.unfilled known unfinished order inside owner
      exact Posting.opened filledEnded known unfinished
        (fun row isStored => ⟨(Option.some.inj isStored).symm, inside⟩) owner unfilled
    | _ => trivial
  | ordering payload job =>
    cases moves with
    | rests => exact law
    | names => exact ⟨law, rfl⟩
    | _ => trivial
  | inserting payload job order =>
    obtain ⟨⟨known, unfinished⟩, isNew⟩ := law
    cases moves with
    | rests => exact ⟨⟨known, unfinished⟩, isNew⟩
    | creates _ _ _ database fresh =>
      have owner : order.executionJobId = job.id := isNew ▸ rfl
      have unfilled : order.state ≠ "FILLED" := by
        rw [isNew]
        change "CREATED" ≠ "FILLED"
        decide
      exact Posting.opened filledEnded known unfinished nofun
        owner unfilled
    | _ => trivial
  | working payload work step =>
    have posting : Posting test world.database work step := law
    obtain ⟨left, next, rfl, _, kept⟩ :=
      posting.moves filledEnded (fun request => fits payload work step request rfl) moves
    exact kept
  | _ => cases moves <;> trivial

end Moving

end Signal
