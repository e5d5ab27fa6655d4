import Mathlib.Algebra.Order.BigOperators.Group.List
import CoinRobotu.Interleaving.Calls
import CoinRobotu.Quarantine.Actions
import CoinRobotu.Runtime.Tasks

/-!
# Operator decisions and later snapshots

A row that an operator has dismissed or written off should stay as it is until the intent
has a new event.
-/

namespace Quarantine

open Interleaving
open Runtime (ExecutionIntent ExecutionIntentEvent FailedEvent FailedEventFields Time lower strip
  orElse quarantineActionMap)
open Keyed

/-- What may be called, and what the runtime may write meanwhile. -/
inductive Call where
  | coreSnapshot (limit : ℤ) (autoQuarantineStuck : Bool)
  | safetyIntents (limit : ℤ) (autoQuarantineStuck : Bool)
  | batchRecover (action : String) (limit : ℤ)
  | runtimeAction (eventId action : String)
  | safetyAction (quarantineId action actor note : String)
  | admitted (intent : ExecutionIntent)
  | written (event : ExecutionIntentEvent)

/-- A call and what it finds around it. -/
structure Turn where
  surroundings : Surroundings
  call : Call

/-- The tables after a call; a call that raises keeps what it had committed. -/
def turn (tables : Tables) (next : Turn) : Tables :=
  match next.call with
  | .coreSnapshot limit _ =>
      match getExecutionIntentStateMachineSnapshot tables limit with
      | .ok _ => tables
      | .error _ => tables
  | .safetyIntents limit autoQuarantineStuck =>
      (getExecutionSafetyIntents next.surroundings tables limit autoQuarantineStuck).1
  | .batchRecover action limit =>
      match batchRecoverStuckIntents next.surroundings tables action limit with
      | .ok after => after
      | .error _ => tables
  | .runtimeAction eventId action =>
      match applyRuntimeQuarantineAction next.surroundings tables eventId action with
      | .ok after => after
      | .error _ => tables
  | .safetyAction quarantineId action actor note =>
      (applyExecutionSafetyQuarantineAction next.surroundings tables quarantineId
        action actor note).1
  | .admitted intent => { tables with intents := tables.intents ++ [intent] }
  | .written event => { tables with events := tables.events ++ [event] }

def Call.isSnapshot : Call → Bool
  | .coreSnapshot _ _ | .safetyIntents _ _ => true
  | _ => false

def Call.byOperator : Call → Bool
  | .batchRecover _ _ | .runtimeAction _ _ | .safetyAction _ _ _ _ => true
  | _ => false

def Call.writes (intentId : String) : Call → Prop
  | .written event => event.intentId = intentId
  | _ => False

def Tables.standing (tables : Tables) (id : String) : Option (String × Int) :=
  (tables.failed.find id).map fun row => (row.status, row.retryCount)

/-- By this call an operator dismisses or writes off the quarantined intent of a row. -/
def Decides (tables : Tables) (next : Turn) (id intentId : String) : Prop :=
  next.call.byOperator ∧
  (∃ row, tables.failed.find id = some row ∧ row.entityType = "execution_intent" ∧
    row.entityId = intentId ∧ row.status = "quarantined") ∧
  ∃ row, (turn tables next).failed.find id = some row ∧ row.status ∈ ["resolved", "dead"]

/-- Once a row is decided and no event of its intent has been written since, no snapshot
changes its status or its retry count. -/
def DecisionsFinal (tables : Tables) (turns : List Turn) : Prop :=
  ∀ first decision middle snapshot last id intentId,
    turns = first ++ decision :: (middle ++ snapshot :: last) →
    Decides (afterAll turn tables first) decision id intentId →
    (∀ between ∈ middle, ¬between.call.writes intentId) →
    snapshot.call.isSnapshot →
    (turn (afterAll turn tables (first ++ decision :: middle)) snapshot).standing id =
      (afterAll turn tables (first ++ decision :: middle)).standing id

def Tables.rowOf (tables : Tables) (entityType entityId : String) : Option String :=
  (tables.about entityType entityId).map FailedEvent.id

/-- An automatic namespace snapshot comes across a stuck intent that the row is about. -/
def Reaches (tables : Tables) (next : Turn) (id : String) : Prop :=
  ∃ limit, next.call = .safetyIntents limit true ∧
    ∃ item ∈ itemsOf next.surroundings tables limit, item.isStuck ∧
      tables.rowOf "execution_intent" item.intent.intentId = some id

/-- After a decision, and while no event of the intent is written, no automatic namespace
snapshot comes across the intent while it is stuck. -/
def DecisionsSpared (tables : Tables) (turns : List Turn) : Prop :=
  ∀ first decision middle snapshot last id intentId,
    turns = first ++ decision :: (middle ++ snapshot :: last) →
    Decides (afterAll turn tables first) decision id intentId →
    (∀ between ∈ middle, ¬between.call.writes intentId) →
    ¬Reaches (afterAll turn tables (first ++ decision :: middle)) snapshot id

section Changes

variable {surroundings : Surroundings} {tables : Tables} {id : String}

theorem find_change {name : String} {change : FailedEvent → FailedEvent}
    {keeps : ∀ row, (change row).id = row.id} :
    (tables.change name change keeps).failed.find id =
      if id = name then (tables.failed.find id).map change else tables.failed.find id :=
  @Table.find_modify _ _ _ _ tables.failed change keeps name id

def Harmless (change : FailedEvent → FailedEvent) : Prop :=
  ∀ row, (change row).status = "quarantined" → row.status = "quarantined"

/-- Something that harmless changes of rows keep. -/
def Lasting (Kept : Tables → Prop) : Prop :=
  ∀ (tables : Tables) (name : String) (change : FailedEvent → FailedEvent)
    (keeps : ∀ row, (change row).id = row.id),
    Harmless change → Kept tables → Kept (tables.change name change keeps)

def Tables.Released (tables : Tables) (id : String) : Prop :=
  ∀ row, tables.failed.find id = some row → row.status ≠ "quarantined"

def Tables.Present (tables : Tables) (id : String) : Prop := (tables.failed.find id).isSome

theorem released_lasting : Lasting fun tables => tables.Released id := by
  intro tables name change keeps harmless released row found
  rw [find_change] at found
  split at found
  · obtain ⟨before, there, rfl⟩ := Option.map_eq_some_iff.mp found
    exact fun quarantined => released before there (harmless before quarantined)
  · exact released row found

theorem present_lasting : Lasting fun tables => tables.Present id := by
  intro tables name change keeps _ present
  unfold Tables.Present at present ⊢
  rw [find_change]
  split
  · rwa [Option.isSome_map]
  · exact present

theorem harmless_replayed (now : Time) : Harmless (replayed now) := by
  intro row quarantined
  unfold replayed at quarantined
  split at quarantined <;> exact absurd quarantined (by simp)

theorem harmless_dismissed (now : Time) : Harmless (dismissed now) := by
  intro row quarantined
  exact absurd quarantined (by simp [dismissed])

theorem harmless_markedFailed (now : Time) : Harmless (markedFailed now) := by
  intro row quarantined
  unfold markedFailed at quarantined
  split at quarantined <;> exact absurd quarantined (by simp)

variable {Kept : Tables → Prop}

variable (lasting : Lasting Kept)

include lasting

theorem kept_applyRuntime {eventId action : String} {after : Tables}
    (applied : applyRuntimeQuarantineAction surroundings tables eventId action = .ok after)
    (kept : Kept tables) : Kept after := by
  unfold applyRuntimeQuarantineAction at applied
  split at applied
  · cases applied
  · dsimp only at applied
    split at applied
    · split at applied
      · cases applied
      · obtain rfl := Except.ok.inj applied
        exact lasting _ _ _ _ (harmless_replayed _) kept
    · split at applied
      · obtain rfl := Except.ok.inj applied
        exact lasting _ _ _ _ (harmless_dismissed _) kept
      · split at applied
        · obtain rfl := Except.ok.inj applied
          exact lasting _ _ _ _ (harmless_markedFailed _) kept
        · cases applied

theorem kept_candidates {action : String} (candidates : List FailedEvent) (kept : Kept tables) :
    Kept (candidates.foldl (fun tables row => recoverCandidate surroundings tables action row)
      tables) := by
  induction candidates generalizing tables with
  | nil => exact kept
  | cons row candidates ih =>
    rw [List.foldl_cons]
    apply ih
    unfold recoverCandidate
    split
    · rename_i after done
      exact kept_applyRuntime lasting done kept
    · exact kept

theorem kept_batch {action : String} {limit : ℤ} {after : Tables}
    (applied : batchRecoverStuckIntents surroundings tables action limit = .ok after)
    (kept : Kept tables) : Kept after := by
  unfold batchRecoverStuckIntents at applied
  dsimp only at applied
  split at applied
  · cases applied
  · obtain rfl := Except.ok.inj applied
    exact kept_candidates lasting _ kept

theorem kept_actOnQuarantined {row : FailedEvent}
    {quarantineId mapped note : String} (kept : Kept tables) :
    Kept (actOnQuarantined surroundings tables row quarantineId mapped note).1 := by
  unfold actOnQuarantined
  split
  · have recorrelation : Kept (tables.change row.id (recorrelated surroundings.replayCorrelation)
        fun _ => rfl) :=
      lasting _ _ _ _ (fun _ quarantined => quarantined) kept
    dsimp only
    split
    · rename_i after done
      exact kept_applyRuntime lasting done recorrelation
    · exact recorrelation
  · split
    · split
      · rename_i after done
        exact kept_applyRuntime lasting done kept
      · exact kept
    · split
      · exact lasting _ _ _ _ (fun _ quarantined => absurd quarantined (by simp)) kept
      · split
        · exact lasting _ _ _ _ (fun _ quarantined => absurd quarantined (by simp)) kept
        · exact lasting _ _ _ _ (fun _ quarantined => quarantined) kept

theorem kept_safetyAction {quarantineId action actor note : String} (kept : Kept tables) :
    Kept (applyExecutionSafetyQuarantineAction surroundings tables quarantineId action actor
      note).1 := by
  unfold applyExecutionSafetyQuarantineAction
  split
  · exact kept
  · split
    · exact kept
    · rename_i mapped _ _ row _
      have acted := @kept_actOnQuarantined surroundings tables Kept lasting row quarantineId mapped
        note kept
      split
      · rename_i after failure done
        rw [done] at acted
        exact acted
      · rename_i after done
        rw [done] at acted
        exact lasting _ _ _ _ (fun _ quarantined => quarantined) acted

/-- What harmless changes keep lasts through every call that is not a namespace snapshot and
adds neither intents nor events. -/
theorem kept_turn {next : Turn} (operated : next.call.byOperator)
    (kept : Kept tables) : Kept (turn tables next) := by
  unfold turn
  split
  · rename_i call
    simp [call, Call.byOperator] at operated
  · rename_i call
    simp [call, Call.byOperator] at operated
  · split
    · rename_i applied
      exact kept_batch lasting applied kept
    · exact kept
  · split
    · rename_i applied
      exact kept_applyRuntime lasting applied kept
    · exact kept
  · exact kept_safetyAction lasting kept
  · rename_i call
    simp [call, Call.byOperator] at operated
  · rename_i call
    simp [call, Call.byOperator] at operated

end Changes

section Snapshots

variable {surroundings : Surroundings} {tables : Tables} {id : String}

theorem uuid4_fresh (surroundings : Surroundings) (present : tables.Present id) :
    (surroundings.uuid4 (tables.failed.rows.map FailedEvent.id)).1 ≠ id := by
  intro same
  obtain ⟨row, found⟩ := Option.isSome_iff_exists.mp present
  have named : row.id = id := Table.key_of_find found
  have inside : row ∈ tables.failed.rows := List.mem_of_find?_eq_some found
  have taken : id ∈ tables.failed.rows.map FailedEvent.id :=
    List.mem_map.mpr ⟨row, inside, named⟩
  exact (surroundings.uuid4 (tables.failed.rows.map FailedEvent.id)).2 (same ▸ taken)

theorem rowOf_upsert (fields : FailedEventFields) {entityType entityId : String}
    (present : tables.Present id) :
    (upsertFailedEvent surroundings tables fields).rowOf entityType entityId = some id ↔
      tables.rowOf entityType entityId = some id := by
  unfold upsertFailedEvent
  cases held : tables.about fields.entityType fields.entityId with
  | none =>
    have fresh := uuid4_fresh surroundings present
    unfold Tables.rowOf Tables.about createFailedEvent
    rw [Table.first_insert]
    cases taken : tables.failed.first fun row => row.entityType = entityType ∧
      row.entityId = entityId with
    | some row => simp
    | none =>
      by_cases own : fields.entityType = entityType ∧ fields.entityId = entityId
      · simp [own, fresh]
      · simp [own]
  | some existing =>
    have moved := @Table.first_modify _ _ _ _ tables.failed existing.id
      (fields.assignTo surroundings.now) (assignTo_id fields surroundings.now)
      (fun row => row.entityType = entityType ∧ row.entityId = entityId) (fun _ _ => rfl)
    unfold Tables.rowOf Tables.about Tables.change
    rw [moved, Option.map_map]
    have same : (FailedEvent.id ∘ fun row : FailedEvent =>
        if row.id = existing.id then fields.assignTo surroundings.now row else row) =
        FailedEvent.id := by
      funext row
      by_cases own : row.id = existing.id <;> simp [own, FailedEventFields.assignTo]
    rw [same]

theorem standing_upsert (fields : FailedEventFields) (present : tables.Present id) :
    (upsertFailedEvent surroundings tables fields).standing id =
      if tables.rowOf fields.entityType fields.entityId = some id then
        some (fields.status, fields.retryCount)
      else tables.standing id := by
  unfold upsertFailedEvent Tables.rowOf
  cases held : tables.about fields.entityType fields.entityId with
  | none =>
    have fresh := uuid4_fresh surroundings present
    unfold createFailedEvent Tables.standing
    rw [Table.find_insert]
    simp [fresh]
  | some existing =>
    have found : tables.failed.find existing.id = some existing := Table.find_of_first held
    dsimp only
    unfold Tables.standing
    rw [find_change]
    by_cases own : id = existing.id
    · simp [own, found, FailedEventFields.assignTo]
    · simp [own, Ne.symm own]

theorem present_iff_standing : tables.Present id ↔ (tables.standing id).isSome := by
  unfold Tables.Present Tables.standing
  rw [Option.isSome_map]

theorem present_upsert (fields : FailedEventFields) (present : tables.Present id) :
    (upsertFailedEvent surroundings tables fields).Present id := by
  rw [present_iff_standing, standing_upsert fields present]
  split
  · rfl
  · exact present_iff_standing.mp present

/-- The quarantine of the stuck intents gives the rows that are about one of them a new
standing, and leaves all others as they are. -/
theorem standing_quarantined (items : List IntentItem) (present : tables.Present id) :
    (items.foldl (quarantineStuck surroundings) tables).standing id =
      if ∃ item ∈ items, tables.rowOf "execution_intent" item.intent.intentId = some id then
        some ("quarantined", 0)
      else tables.standing id := by
  induction items generalizing tables with
  | nil => simp
  | cons item items ih =>
    have step := @standing_upsert surroundings tables id (stuckFields surroundings.now item) present
    have moved := fun other : IntentItem =>
      @rowOf_upsert surroundings tables id (stuckFields surroundings.now item) "execution_intent"
        other.intent.intentId present
    rw [List.foldl_cons]
    have rest := @ih (quarantineStuck surroundings tables item)
      (present_upsert _ present)
    rw [rest]
    unfold quarantineStuck
    rw [step]
    simp only [moved, List.exists_mem_cons_iff]
    by_cases later :
      ∃ other ∈ items, tables.rowOf "execution_intent" other.intent.intentId = some id
    · simp only [later, if_true, or_true]
    · simp only [later, if_false, or_false]
      rfl

theorem reaches_iff {next : Turn} {limit : ℤ} (call : next.call = .safetyIntents limit true) :
    Reaches tables next id ↔
      ∃ item ∈ (itemsOf next.surroundings tables limit).filter IntentItem.isStuck,
        tables.rowOf "execution_intent" item.intent.intentId = some id := by
  unfold Reaches
  rw [call]
  constructor
  · rintro ⟨other, same, item, inside, stuck, taken⟩
    obtain ⟨rfl, -⟩ := Call.safetyIntents.inj same
    exact ⟨item, List.mem_filter.mpr ⟨inside, stuck⟩, taken⟩
  · rintro ⟨item, inside, taken⟩
    obtain ⟨inside, stuck⟩ := List.mem_filter.mp inside
    exact ⟨limit, rfl, item, inside, stuck, taken⟩

theorem standing_snapshot {next : Turn} (snapshot : next.call.isSnapshot)
    (present : tables.Present id) :
    (Reaches tables next id → (turn tables next).standing id = some ("quarantined", 0)) ∧
    (¬Reaches tables next id → (turn tables next).standing id = tables.standing id) := by
  have unreached : ∀ {call}, next.call = call → (∀ limit, call ≠ .safetyIntents limit true) →
      ¬Reaches tables next id := by
    rintro call is other ⟨limit, same, -⟩
    exact other limit (is.symm.trans same)
  cases call : next.call with
  | coreSnapshot limit automatic =>
    have unchanged : turn tables next = tables := by
      unfold turn
      rw [call]
      dsimp only
      split <;> rfl
    rw [unchanged]
    exact ⟨fun reached => absurd reached (unreached call (by simp)), fun _ => rfl⟩
  | safetyIntents limit automatic =>
    have changed : turn tables next =
        ((if automatic then (itemsOf next.surroundings tables limit).filter IntentItem.isStuck
          else []).foldl (quarantineStuck next.surroundings) tables) := by
      unfold turn
      rw [call]
      rfl
    rw [changed, standing_quarantined _ present]
    cases automatic with
    | false =>
      exact ⟨fun reached => absurd reached (unreached call (by simp)), fun _ => by simp⟩
    | true =>
      rw [reaches_iff call]
      exact ⟨fun reached => if_pos reached, fun missed => if_neg missed⟩
  | _ => simp [call, Call.isSnapshot] at snapshot

theorem present_snapshot {next : Turn} (snapshot : next.call.isSnapshot)
    (present : tables.Present id) : (turn tables next).Present id := by
  have standing := standing_snapshot snapshot present
  rw [present_iff_standing]
  by_cases reached : Reaches tables next id
  · rw [standing.1 reached]
    rfl
  · rw [standing.2 reached]
    exact present_iff_standing.mp present

theorem present_turn (next : Turn) (present : tables.Present id) :
    (turn tables next).Present id := by
  cases call : next.call with
  | admitted | written =>
    unfold turn
    rw [call]
    exact present
  | coreSnapshot | safetyIntents => exact present_snapshot (by rw [call]; rfl) present
  | batchRecover | runtimeAction | safetyAction =>
    exact kept_turn present_lasting (by rw [call]; rfl) present

theorem released_turn {next : Turn} (unreached : ¬Reaches tables next id)
    (present : tables.Present id) (released : tables.Released id) :
    (turn tables next).Released id := by
  have snapshot : next.call.isSnapshot → (turn tables next).Released id := by
    intro snapshot row found
    have standing := (standing_snapshot snapshot present).2 unreached
    unfold Tables.standing at standing
    rw [found] at standing
    obtain ⟨before, there, same⟩ := Option.map_eq_some_iff.mp standing.symm
    have status : before.status = row.status := congrArg Prod.fst same
    exact status ▸ released before there
  cases call : next.call with
  | admitted | written =>
    unfold turn
    rw [call]
    exact released
  | coreSnapshot | safetyIntents => exact snapshot (by rw [call]; rfl)
  | batchRecover | runtimeAction | safetyAction =>
    exact kept_turn released_lasting (by rw [call]; rfl) released

end Snapshots

section Runs

variable {tables : Tables} {turns : List Turn} {first middle last : List Turn}
  {decision snapshot : Turn} {id intentId : String}

theorem afterAll_append (earlier later : List Turn) :
    afterAll turn tables (earlier ++ later) = afterAll turn (afterAll turn tables earlier) later :=
  List.foldl_append

theorem present_afterAll (calls : List Turn) (present : tables.Present id) :
    (afterAll turn tables calls).Present id := by
  induction calls generalizing tables with
  | nil => exact present
  | cons next calls ih =>
    exact ih (present_turn next present)

theorem present_decided (decides : Decides (afterAll turn tables first) decision id intentId)
    (calls : List Turn) : (afterAll turn tables (first ++ decision :: calls)).Present id := by
  obtain ⟨-, -, row, found, -⟩ := decides
  rw [afterAll_append]
  have present : (turn (afterAll turn tables first) decision).Present id := by
    unfold Tables.Present
    rw [found]
    rfl
  exact present_afterAll calls present

theorem released_decided (decides : Decides (afterAll turn tables first) decision id intentId) :
    (afterAll turn tables (first ++ [decision])).Released id := by
  obtain ⟨-, -, row, found, decided⟩ := decides
  rw [afterAll_append]
  intro other there
  have same : other = row := Option.some.inj (there.symm.trans found)
  subst same
  rcases List.mem_pair.mp decided with status | status
  · rw [status]
    decide
  · rw [status]
    decide

/-- Where decisions are final, a decided row is still out of quarantine when the next call is
made, and that call does not reach it. -/
theorem released_of_final (final : DecisionsFinal tables turns)
    (split : turns = first ++ decision :: (middle ++ snapshot :: last))
    (decides : Decides (afterAll turn tables first) decision id intentId)
    (quiet : ∀ between ∈ middle, ¬between.call.writes intentId) :
    (afterAll turn tables (first ++ decision :: middle)).Released id ∧
      ¬Reaches (afterAll turn tables (first ++ decision :: middle)) snapshot id := by
  have missed : ∀ {middle snapshot last},
      turns = first ++ decision :: (middle ++ snapshot :: last) →
      (∀ between ∈ middle, ¬between.call.writes intentId) →
      (afterAll turn tables (first ++ decision :: middle)).Released id →
      ¬Reaches (afterAll turn tables (first ++ decision :: middle)) snapshot id := by
    intro middle snapshot last split quiet released reached
    have isSnapshot : snapshot.call.isSnapshot := by
      obtain ⟨limit, call, -⟩ := reached
      rw [call]
      rfl
    have unchanged := final first decision middle snapshot last id intentId split decides quiet
      isSnapshot
    have quarantined := (standing_snapshot isSnapshot (present_decided decides middle)).1 reached
    rw [quarantined] at unchanged
    obtain ⟨row, found, standing⟩ := Option.map_eq_some_iff.mp unchanged.symm
    exact released row found (congrArg Prod.fst standing)
  induction middle using List.reverseRecOn generalizing snapshot last with
  | nil => exact ⟨released_decided decides, missed split quiet (released_decided decides)⟩
  | append_singleton middle between ih =>
    have shifted : turns = first ++ decision :: (middle ++ between :: (snapshot :: last)) := by
      rw [split, List.append_assoc, List.singleton_append]
    have earlier : ∀ other ∈ middle, ¬other.call.writes intentId :=
      fun other inside => quiet other (List.mem_append_left _ inside)
    obtain ⟨before, unreached⟩ := ih shifted earlier
    have step : afterAll turn tables (first ++ decision :: (middle ++ [between])) =
        turn (afterAll turn tables (first ++ decision :: middle)) between := by
      rw [← List.cons_append, ← List.append_assoc, afterAll_append]
      rfl
    have released :
        (afterAll turn tables (first ++ decision :: (middle ++ [between]))).Released id := by
      rw [step]
      exact released_turn unreached (present_decided decides middle) before
    exact ⟨released, missed split quiet released⟩

/-- In every run of snapshots, batches, operator actions and new events, decisions on stuck
intents are final exactly when no automatic namespace snapshot comes across a decided intent
while it is stuck. -/
theorem decisions_final_iff (tables : Tables) (turns : List Turn) :
    DecisionsFinal tables turns ↔ DecisionsSpared tables turns := by
  constructor
  · intro final first decision middle snapshot last id intentId split decides quiet
    exact (released_of_final final split decides quiet).2
  · intro spared first decision middle snapshot last id intentId split decides quiet isSnapshot
    have unreached := spared first decision middle snapshot last id intentId split decides quiet
    exact (standing_snapshot isSnapshot (present_decided decides middle)).2 unreached

end Runs

def freshId (taken : List String) : {id : String // id ∉ taken} :=
  ⟨String.ofList (List.replicate ((taken.map String.length).sum + 1) 'x'), by
    intro inside
    have bounded : (String.ofList (List.replicate ((taken.map String.length).sum + 1) 'x')).length ≤
        (taken.map String.length).sum :=
      List.le_sum_of_mem (List.mem_map_of_mem inside)
    simp at bounded⟩

def surroundingsAt (now : Time) : Surroundings :=
  ⟨now, freshId, "replay-0", ⟨60, 120, 300, 300, 180⟩, fun _ => none⟩

def pendingIntent : Tables :=
  ⟨[Runtime.sampleIntent], [], ⟨[], List.nodup_nil⟩⟩

/-- The snapshot quarantines the stuck intent, an operator dismisses it, and the snapshot is
read again a second later. -/
def dismissedAndRead : List Turn :=
  [⟨surroundingsAt 100000000, .safetyIntents 100 true⟩,
    ⟨surroundingsAt 101000000, .runtimeAction "intent-1" "dismiss"⟩,
    ⟨surroundingsAt 102000000, .safetyIntents 100 true⟩]

/-- Reading the intents undoes the dismissal. -/
theorem snapshot_undoes_dismissal : ¬DecisionsFinal pendingIntent dismissedAndRead := by
  intro final
  have unchanged := final [⟨surroundingsAt 100000000, .safetyIntents 100 true⟩]
    ⟨surroundingsAt 101000000, .runtimeAction "intent-1" "dismiss"⟩ []
    ⟨surroundingsAt 102000000, .safetyIntents 100 true⟩ [] "x" "intent-1" rfl
    ⟨rfl, by decide +kernel, by decide +kernel⟩ (fun _ impossible => nomatch impossible) rfl
  exact absurd unchanged (by decide +kernel)

end Quarantine
