import CoinRobotu.Exchange.Adapter
import CoinRobotu.Signal.AtMostOnce

/-!
# Client order ids

The adapter sends the first 36 characters of a job's key as the client order id. The key of a job
is never written again, so every attempt of the job sends the same id. Two keys give different ids
just where they differ within these characters.
-/

open Interleaving

namespace Signal

open Exchange (OrderPayload)
open Runtime (blank orElse)

/-- The payload of `submit_order` for a job without an order type of its own. -/
def SubmitRequest.payload (request : SubmitRequest) : OrderPayload where
  symbol := some request.symbol
  side := some request.side
  size := some request.size
  orderType := some "MARKET"
  idempotencyKey := some request.idempotencyKey
  executionJobId := some (toString request.executionJobId)
  leverage := none
  markPrice := some request.markPrice
  limitPrice := none

def SubmitRequest.clientOrderId (request : SubmitRequest) : String := request.payload.clientOrderId

def DifferEarly (key other : String) : Prop :=
  ∃ place < 36, key.toList[place]? ≠ other.toList[place]?

theorem clientOrderId_of_key {request : SubmitRequest} (keyed : request.idempotencyKey ≠ "") :
    request.clientOrderId = String.ofList (request.idempotencyKey.toList.take 36) := by
  have filled : orElse (some request.idempotencyKey)
      (orElse (some (toString request.executionJobId)) "runtime-order") =
        request.idempotencyKey := by
    simp [orElse, blank, keyed]
  exact congrArg (fun text : String => String.ofList (text.toList.take 36)) filled

theorem take_eq_take_iff {α : Type} {values others : List α} {count : ℕ} :
    values.take count = others.take count ↔ ∀ place < count, values[place]? = others[place]? := by
  constructor
  · intro same place early
    rw [← List.getElem?_take_of_lt early, same, List.getElem?_take_of_lt early]
  · intro same
    apply List.ext_getElem?
    intro place
    by_cases early : place < count
    · rw [List.getElem?_take_of_lt early, List.getElem?_take_of_lt early, same place early]
    · have late := not_lt.mp early
      rw [List.getElem?_take_eq_none late, List.getElem?_take_eq_none late]

theorem clientOrderId_ne_iff {first second : SubmitRequest} (firstKeyed : first.idempotencyKey ≠ "")
    (secondKeyed : second.idempotencyKey ≠ "") :
    first.clientOrderId ≠ second.clientOrderId ↔
      DifferEarly first.idempotencyKey second.idempotencyKey := by
  rw [clientOrderId_of_key firstKeyed, clientOrderId_of_key secondKeyed, Ne, String.ofList_inj,
    take_eq_take_iff]
  simp [DifferEarly]

theorem buildIdempotencyKey_early {userId : String} (long : 36 ≤ userId.toList.length)
    (symbol side strategyName timestamp : String) {place : ℕ} (early : place < 36) :
    (buildIdempotencyKey userId symbol side strategyName timestamp).toList[place]? =
      userId.toList[place]? := by
  unfold buildIdempotencyKey
  simp only [String.toList_append, List.append_assoc]
  exact List.getElem?_append_left (early.trans_le long)

/-- Keys that the engine builds for user ids of 36 characters differ early just where the users
differ. -/
theorem differEarly_built {userId otherId : String} (long : userId.toList.length = 36)
    (otherLong : otherId.toList.length = 36)
    (symbol side strategyName timestamp otherSymbol otherSide otherName otherTime : String) :
    DifferEarly (buildIdempotencyKey userId symbol side strategyName timestamp)
        (buildIdempotencyKey otherId otherSymbol otherSide otherName otherTime) ↔
      userId ≠ otherId := by
  constructor
  · rintro ⟨place, early, differ⟩ rfl
    rw [buildIdempotencyKey_early long.ge _ _ _ _ early,
      buildIdempotencyKey_early long.ge _ _ _ _ early] at differ
    exact differ rfl
  · intro different
    by_contra never
    apply different
    apply String.toList_inj.mp
    rw [← List.take_of_length_le long.le, ← List.take_of_length_le otherLong.le, take_eq_take_iff]
    intro place early
    by_contra differ
    refine never ⟨place, early, ?_⟩
    rw [buildIdempotencyKey_early long.ge _ _ _ _ early,
      buildIdempotencyKey_early otherLong.ge _ _ _ _ early]
    exact differ

section Keys

variable {database middle after : Database} {world : World} {oracle : Oracle}

def KeysStay (before after : Database) : Prop :=
  ∀ id row, before.findJob id = some row →
    ∃ now, after.findJob id = some now ∧ now.idempotencyKey = row.idempotencyKey

theorem KeysStay.refl (database : Database) : KeysStay database database :=
  fun _ row found => ⟨row, found, rfl⟩

theorem Tables.write_key (tables : Tables) (change : Change) {id : Id} {row : ExecutionJob}
    (found : tables.jobs.find? (fun job => decide (job.id = id)) = some row) :
    ∃ now, (tables.write change).jobs.find? (fun job => decide (job.id = id)) = some now ∧
      now.idempotencyKey = row.idempotencyKey := by
  cases change with
  | insertJob job =>
    refine ⟨row, ?_, rfl⟩
    simp only [Tables.write, List.find?_append, found, Option.some_or]
  | updateJob stored current =>
    have keeps : ∀ row, (ExecutionJob.merge stored current row).id = row.id := fun _ => rfl
    simp only [Tables.write]
    rw [find_rewrite keeps, found]
    refine ⟨_, rfl, ?_⟩
    dsimp only
    split <;> rfl
  | _ => exact ⟨row, found, rfl⟩

theorem Tables.writeAll_key (changes : List Change) {tables : Tables} {id : Id}
    {row : ExecutionJob}
    (found : tables.jobs.find? (fun job => decide (job.id = id)) = some row) :
    ∃ now, (tables.writeAll changes).jobs.find? (fun job => decide (job.id = id)) = some now ∧
      now.idempotencyKey = row.idempotencyKey := by
  induction changes generalizing tables row with
  | nil => exact ⟨row, found, rfl⟩
  | cons change changes ih =>
    obtain ⟨written, isWritten, key⟩ := tables.write_key change found
    obtain ⟨now, isNow, same⟩ := ih isWritten
    exact ⟨now, isNow, same.trans key⟩

theorem keysStay_commit {changes : List Change} (committed : database.commit changes = .ok after) :
    KeysStay database after := by
  intro id row found
  obtain ⟨now, isNow, same⟩ := Tables.writeAll_key changes found
  refine ⟨now, ?_, same⟩
  unfold Database.findJob
  rw [Database.commit_ok committed]
  exact isNow

def Filed (database : Database) (id : Id) (key : String) : Prop :=
  ∃ row, database.findJob id = some row ∧ row.idempotencyKey = key

theorem Filed.stays {id : Id} {key : String} (filed : Filed database id key)
    (stays : KeysStay database after) : Filed after id key := by
  obtain ⟨row, found, rfl⟩ := filed
  exact stays id row found

def Stage.Filed (database : Database) : Stage → Prop
  | .found _ job => Signal.Filed database job.id job.idempotencyKey
  | .ordering _ job => Signal.Filed database job.id job.idempotencyKey
  | .inserting _ job _ => Signal.Filed database job.id job.idempotencyKey
  | .working _ work _ => Signal.Filed database work.job.id work.job.idempotencyKey
  | _ => True

theorem Stage.Filed.stays {stage : Stage} (filed : stage.Filed database)
    (stays : KeysStay database after) : stage.Filed after := by
  cases stage with
  | found | ordering | inserting | working => exact Signal.Filed.stays filed stays
  | _ => trivial

theorem Moves.keysStay {stage reached : Stage} {command : Command} {next : World}
    (moves : Moves world oracle stage command next reached) :
    KeysStay world.database next.database := by
  cases moves with
  | saves request job stored room database committed
  | rejects request job stored room reason database committed | accepts job database committed
  | writes current changes database committed
  | commits payload work step database usable commits committed => exact keysStay_commit committed
  | _ => exact KeysStay.refl _

theorem Moves.filed {stage reached : Stage} {command : Command} {next : World}
    (moves : Moves world oracle stage command next reached) (filed : stage.Filed world.database) :
    reached.Filed next.database := by
  have stays := moves.keysStay
  cases moves with
  | rests | opens | misses | names | creates | assigns | handles | reopens | losesJob
  | losesOrder | locates | submits | pushes => exact filed
  | finds payload job named found unfinished => exact ⟨job, found, rfl⟩
  | raises payload work step command accepted cause taken pauses =>
    unfold Work.hurt
    split <;> exact filed
  | holds payload work held step assigns =>
    have ofHeld : Signal.Filed world.database held.job.id held.job.idempotencyKey := by
      rw [assigns.sameJob.1, assigns.sameJob.2.1]
      exact filed
    exact ofHeld
  | commits payload work step database usable commits committed =>
    exact Signal.Filed.stays filed stays
  | rereads payload work step row usable expired found =>
    obtain ⟨_, isSame⟩ := Database.findJob_some.mp found
    exact ⟨row, isSame ▸ found, rfl⟩
  | _ => trivial

end Keys

def Sent (trace : List (Thread × services.Event)) (request : SubmitRequest) : Prop :=
  ∃ event ∈ trace, event.2.1 = .submitOrder request

/-- Every request that was sent, and the job of every stage, is committed with its key. -/
structure FiledSoFar (view : View services World Task Stage) : Prop where
  sent : ∀ request, Sent view.trace request →
    Filed view.world.database request.executionJobId request.idempotencyKey
  stages : ∀ thread, (view.phases thread).Filed view.world.database

theorem Stage.Filed.submits {stage : Stage} {database : Database} {request : SubmitRequest}
    (filed : stage.Filed database) (allowed : stage.allows (.submitOrder request)) :
    Signal.Filed database request.executionJobId request.idempotencyKey := by
  cases stage with
  | working payload work step =>
    obtain ⟨_, _, rfl⟩ := allowed
    exact filed
  | reconciling current rest changes => cases rest <;> cases current <;> exact allowed.elim
  | _ => exact allowed.elim

theorem FiledSoFar.update {view : View services World Task Stage} (filed : FiledSoFar view)
    {stage : Stage} {world : World} (thread : Thread)
    (stays : KeysStay view.world.database world.database) (own : stage.Filed world.database) :
    ∀ other, (Function.update view.phases thread stage other).Filed world.database := by
  intro other
  by_cases isThread : other = thread
  · rw [isThread, Function.update_self]
    exact own
  · rw [Function.update_of_ne isThread]
    exact (filed.stages other).stays stays

theorem filedSoFar_step {discipline : Discipline services World Oracle Task Stage}
    (view next : View services World Task Stage) (filed : FiledSoFar view)
    (step : View.Step engine stages discipline (fun _ => True) (fun _ _ => True) view next) :
    FiledSoFar next := by
  have idles : ∀ thread other,
      (Function.update view.phases thread .idle other).Filed view.world.database :=
    fun thread => filed.update thread (KeysStay.refl _) trivial
  cases step with
  | started thread task idle permitted =>
    refine ⟨filed.sent, filed.update thread (KeysStay.refl _) ?_⟩
    cases task <;> trivial
  | performed thread oracle command allowed permitted =>
    have moves := view.world.perform_moves oracle _ command allowed
    refine ⟨fun request sent => ?_,
      filed.update thread moves.keysStay (moves.filed (filed.stages thread))⟩
    obtain ⟨event, inside, submits⟩ := sent
    rcases List.mem_append.mp inside with earlier | last
    · exact (filed.sent request ⟨event, earlier, submits⟩).stays moves.keysStay
    · cases List.mem_singleton.mp last
      cases (submits : command = .submitOrder request)
      exact ((filed.stages thread).submits allowed).stays moves.keysStay
  | returned thread | raised thread | crashed thread => exact ⟨filed.sent, idles thread⟩

theorem sent_same_key {permits : SignalMachine → Label Oracle Task → Prop} {world : World}
    {labels : List (Label Oracle Task)} {after : SignalMachine}
    (run : Run engine permits (Machine.atRest world) labels after) {first second : SubmitRequest}
    (firstSent : Sent after.trace first) (secondSent : Sent after.trace second)
    (sameJob : first.executionJobId = second.executionJobId) :
    first.idempotencyKey = second.idempotencyKey := by
  have resting : FiledSoFar ((Machine.atRest world : SignalMachine).view stages) :=
    ⟨fun _ sent => (nomatch sent.choose_spec.1), fun _ => trivial⟩
  have filed : FiledSoFar (after.view stages) :=
    run.unrestricted.invariant (engine_governs Discipline.any) FiledSoFar
      filedSoFar_step (Machine.atRest_conforms _) resting
  obtain ⟨row, found, isFirst⟩ := filed.sent first firstSent
  obtain ⟨other, otherFound, isSecond⟩ := filed.sent second secondSent
  rw [sameJob] at found
  cases found.symm.trans otherFound
  exact isFirst.symm.trans isSecond

/-- In every run, two attempts of a job send the same client order id. Two orders with different
keys are sent under different ids just where their keys differ early, and just where the users
differ if the engine built the keys for user ids of 36 characters. -/
theorem sent_clientOrderIds {permits : SignalMachine → Label Oracle Task → Prop} {world : World}
    {labels : List (Label Oracle Task)} {after : SignalMachine}
    (run : Run engine permits (Machine.atRest world) labels after) {first second : SubmitRequest}
    (firstSent : Sent after.trace first) (secondSent : Sent after.trace second) :
    (first.executionJobId = second.executionJobId →
        first.clientOrderId = second.clientOrderId) ∧
      (first.idempotencyKey ≠ "" → second.idempotencyKey ≠ "" →
        (first.clientOrderId ≠ second.clientOrderId ↔
          DifferEarly first.idempotencyKey second.idempotencyKey)) ∧
      ∀ userId symbol side strategyName timestamp otherId otherSymbol otherSide otherName otherTime,
        first.idempotencyKey = buildIdempotencyKey userId symbol side strategyName timestamp →
          second.idempotencyKey =
              buildIdempotencyKey otherId otherSymbol otherSide otherName otherTime →
            userId.toList.length = 36 → otherId.toList.length = 36 →
              (first.clientOrderId ≠ second.clientOrderId ↔ userId ≠ otherId) := by
  refine ⟨fun sameJob => ?_, clientOrderId_ne_iff, ?_⟩
  · have sameKey := sent_same_key run firstSent secondSent sameJob
    simp [SubmitRequest.clientOrderId, SubmitRequest.payload, OrderPayload.clientOrderId, sameJob,
      sameKey]
  · intro userId symbol side strategyName timestamp otherId otherSymbol otherSide otherName
      otherTime isBuilt otherBuilt long otherLong
    have filled : ∀ userId symbol side strategyName timestamp : String,
        userId.toList.length = 36 →
          buildIdempotencyKey userId symbol side strategyName timestamp ≠ "" := by
      intro userId symbol side strategyName timestamp long empty
      have nothing : userId.toList = [] := by
        have all := congrArg String.toList empty
        simp only [buildIdempotencyKey, String.toList_append] at all
        simp at all
      rw [nothing] at long
      cases long
    rw [clientOrderId_ne_iff (isBuilt ▸ filled _ _ _ _ _ long)
      (otherBuilt ▸ filled _ _ _ _ _ otherLong), isBuilt, otherBuilt]
    exact differEarly_built long otherLong _ _ _ _ _ _ _ _

def Command.submitted : Command → Option SubmitRequest
  | .submitOrder request => some request
  | _ => none

theorem sent_of_submitted {trace : List (Thread × services.Event)} {request : SubmitRequest}
    (inside : request ∈ trace.filterMap fun event => Command.submitted event.2.1) :
    Sent trace request := by
  obtain ⟨event, isEvent, submits⟩ := List.mem_filterMap.mp inside
  refine ⟨event, isEvent, ?_⟩
  obtain ⟨thread, command, answer⟩ := event
  cases command with
  | submitOrder submitted => exact congrArg Command.submitOrder (Option.some.inj submits)
  | _ => cases submits

/-- A signal without a key of its own, at some time. -/
def timedSignal (timestamp : String) : SignalRequest where
  userId := "3f2c8a5e-0d41-4b7a-9c55-1e7d20b8f6a9"
  symbol := some "BTCUSDT"
  side := some "BUY"
  size := some 1
  strategyName := none
  timestamp := some timestamp
  markPrice := some 100
  leverage := some 1
  idempotencyKey := none
  limits := ⟨100, 1, 1000⟩

/-- Two signals of a user are accepted, and each job is delivered until it is submitted. -/
def twoSignals : List (Label Oracle Task) :=
  .start 0 (.signal (timedSignal "1")) :: runs 0 16 steady ++
    .start 0 (.signal (timedSignal "2")) :: runs 0 16 steady ++
      .start 0 .consume :: runs 0 9 steady ++ .start 1 .consume :: runs 1 9 steady

def emptyTables : World := .boot ⟨⟨[], [], []⟩, Tables.consistent_nil⟩

/-- What is sent for the signal of a time. -/
def timedRequest (executionJobId : Id) (timestamp : String) : SubmitRequest where
  executionJobId
  idempotencyKey :=
    "3f2c8a5e-0d41-4b7a-9c55-1e7d20b8f6a9:BTCUSDT:BUY:runtime_strategy:" ++ timestamp
  symbol := "BTCUSDT"
  side := "BUY"
  size := 1
  strategyName := "runtime_strategy"
  markPrice := 100

theorem twoSignals_sent :
    ∃ after : SignalMachine,
      Machine.steps engine twoSignals (Machine.atRest emptyTables) = some after ∧
        Sent after.trace (timedRequest 10 "1") ∧ Sent after.trace (timedRequest 11 "2") := by
  have evaluated : (Machine.steps engine twoSignals (Machine.atRest emptyTables)).map
      (fun machine => machine.trace.filterMap fun event => Command.submitted event.2.1) =
        some [timedRequest 10 "1", timedRequest 11 "2"] := by
    decide +kernel
  obtain ⟨after, stepped, sent⟩ := Option.map_eq_some_iff.mp evaluated
  exact ⟨after, stepped, sent_of_submitted (by rw [sent]; exact List.mem_cons_self),
    sent_of_submitted (by rw [sent]; exact List.mem_cons_of_mem _ List.mem_cons_self)⟩

theorem sent_clientOrderIds_twoSignals :
    ∃ after : SignalMachine,
      Machine.steps engine twoSignals (Machine.atRest emptyTables) = some after ∧
        ((timedRequest 10 "1").clientOrderId ≠ (timedRequest 11 "2").clientOrderId ↔
          DifferEarly (timedRequest 10 "1").idempotencyKey
            (timedRequest 11 "2").idempotencyKey) := by
  obtain ⟨after, stepped, firstSent, secondSent⟩ := twoSignals_sent
  have run : Run engine (fun _ _ => True) (Machine.atRest emptyTables) twoSignals after :=
    Run.of_steps (fun _ _ => trivial) stepped
  exact ⟨after, stepped, (sent_clientOrderIds run firstSent secondSent).2.1
    (by decide) (by decide)⟩

/-- Two accepted signals of one user are sent with different keys, under the same client order
id. -/
theorem signals_share_clientOrderId :
    (∃ after : SignalMachine,
      Machine.steps engine twoSignals (Machine.atRest emptyTables) = some after ∧
        Sent after.trace (timedRequest 10 "1") ∧ Sent after.trace (timedRequest 11 "2")) ∧
      (timedRequest 10 "1").idempotencyKey ≠ (timedRequest 11 "2").idempotencyKey ∧
      (timedRequest 10 "1").clientOrderId = "3f2c8a5e-0d41-4b7a-9c55-1e7d20b8f6a9" ∧
      (timedRequest 11 "2").clientOrderId = "3f2c8a5e-0d41-4b7a-9c55-1e7d20b8f6a9" :=
  ⟨twoSignals_sent, by decide, by decide +kernel⟩

end Signal
