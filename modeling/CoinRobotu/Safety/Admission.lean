import CoinRobotu.Safety.Caps
import CoinRobotu.Runtime.Execution

/-!
# Admission at dispatch and at submission

The dispatcher asks the guard before it writes an intent, and the worker asks it again
before it submits the order.
-/

namespace Safety

open Runtime (upper lower strip orderFinalized lifecycleOf lifecycleEventType)
open Paper (PaperPosition)

/-- The keys that admission reads. `intentHash` is the hash of the intent's payload, and
`price` what its `price_reference` holds. -/
structure Decision where
  action : String
  notional : Option ℚ
  size : Option ℚ
  symbol : String
  price : ℚ
  reasonCodes : List String
  intentHash : String

/-- A row of `execution_intent_events`. -/
structure IntentEvent where
  intentId : String
  eventType : String
  eventStatus : String
deriving DecidableEq

deriving instance DecidableEq for Store

/-- The tables of the guard, the hashes of intents and their log. -/
structure Desk where
  store : Store
  hashes : List (String × String)
  events : List IntentEvent
deriving DecidableEq

/-- What the dispatcher makes of a decision. -/
inductive Dispatched where
  | rejected (reasonCodes : List String)
  | existing (intentId : String)
  | failed (error : String)
  | admitted (intent : ExecutionIntent) (desk : Desk)
deriving DecidableEq

namespace Desk

variable (allowedQuotes : List String) (desk : Desk)

/-- `dispatch_decision_result`: `commercial` is the reason of the commercial control if it
refuses, and `intentId` what `uuid4` draws. -/
def dispatchDecisionResult (decision : Decision) (commercial : Option String) (intentId : String) :
    Dispatched :=
  if decision.action = "REJECT" then .rejected decision.reasonCodes
  else if decision.action = "HOLD" then .rejected ["hold_noop"]
  else
    match desk.hashes.find? fun known => known.1 = decision.intentHash with
    | some known => .existing known.2
    | none =>
        let quantity := decision.size.getD 0
        match commercial with
        | some reasonCode => .rejected [reasonCode]
        | none =>
            match assertExecutionOpenAllowed allowedQuotes desk.store
              (dispatchProposal decision.notional quantity) "runtime_execution_dispatch"
                decision.symbol with
            | .error violation => .rejected [violation.reasonCode]
            | .ok _ =>
                if ∃ row ∈ desk.store.runtimeIntents, row.intentId = intentId then
                  .failed "duplicate key value violates unique constraint"
                else
                  let intent : ExecutionIntent :=
                    { intentId, symbol := decision.symbol, quantity, price := decision.price
                      status := "pending" }
                  .admitted intent
                    { desk with
                      store := { desk.store with
                        runtimeIntents := desk.store.runtimeIntents ++ [intent] }
                      hashes := desk.hashes ++ [(decision.intentHash, intentId)] }

/-- The safety check that the worker makes for an intent; it gives no symbol. -/
def submissionCheck (intent : ExecutionIntent) : Except ExecutionSafetyViolation Projection :=
  assertExecutionOpenAllowed allowedQuotes desk.store intent.quantity "runtime_execution_worker" ""

def submissionLog (intentId : String) (seed : ℕ) : List IntentEvent :=
  ⟨intentId, "execution.order.submitted", "submitted"⟩ ::
    (lifecycleOf seed).map fun state => ⟨intentId, lifecycleEventType state, lower state⟩

/-- What `process_submission_event_once` writes for the event of an intent; `seed` decides
the states that the paper exchange reports. -/
def processSubmissionEventOnce (intentId : String) (commercial : Option String) (seed : ℕ) :
    Except String Desk :=
  match desk.store.runtimeIntents.find? fun row => row.intentId = intentId with
  | none => .error "intent_missing"
  | some intent =>
      if ∃ event ∈ desk.events, event.intentId = intentId ∧ event.eventType = orderFinalized then
        .error "duplicate_terminal_event"
      else
        let blocked : Desk :=
          { desk with events := desk.events ++ [⟨intentId, orderFinalized, "rejected"⟩] }
        match commercial with
        | some _ => .ok blocked
        | none =>
            match desk.submissionCheck allowedQuotes intent with
            | .error _ => .ok blocked
            | .ok _ => .ok { desk with events := desk.events ++ submissionLog intentId seed }

def Finalized (intentId : String) : Prop :=
  ∃ event ∈ desk.events, event.intentId = intentId ∧ event.eventType = orderFinalized

end Desk

/-- What may happen later: decisions are dispatched, submission events are processed, and
everything but runtime intents and their log may change. -/
inductive Desk.Later (allowedQuotes : List String) : Desk → Desk → Prop where
  | dispatched {desk next : Desk} {decision : Decision} {commercial : Option String}
      {intentId : String} {intent : ExecutionIntent}
      (admitted : desk.dispatchDecisionResult allowedQuotes decision commercial intentId =
        .admitted intent next) : Desk.Later allowedQuotes desk next
  | processed {desk next : Desk} {intentId : String} {commercial : Option String} {seed : ℕ}
      (done : desk.processSubmissionEventOnce allowedQuotes intentId commercial seed = .ok next) :
      Desk.Later allowedQuotes desk next
  | elsewhere {desk : Desk} (config : LiveActivationConfig) (positions : List PaperPosition)
      (userIntents : List UserExecutionIntent) :
      Desk.Later allowedQuotes desk
        { desk with store := { desk.store with config, positions, userIntents } }

def Store.pendingWithout (store : Store) (intentId : String) : ℚ :=
  ({ store with
      runtimeIntents := store.runtimeIntents.filter fun row => row.intentId ≠ intentId } :
    Store).pendingRuntimeIntentExposure

/-- Once its log is closed, an intent does not count as pending exposure. -/
def Desk.Releases (allowedQuotes : List String) (desk : Desk) (intentId : String) : Prop :=
  ∀ later, Relation.ReflTransGen (Desk.Later allowedQuotes) desk later → later.Finalized intentId →
    later.store.pendingRuntimeIntentExposure = later.store.pendingWithout intentId

/-- Room for a quantity as a pending intent and as an order beside it. -/
def Store.RoomTwice (store : Store) (quantity : ℚ) : Prop :=
  (0 < store.config.maxTotalExposure →
    store.currentOpenPositionsExposure + store.pendingUserIntentExposure +
      store.pendingRuntimeIntentExposure + |quantity| + max quantity 0 ≤
        store.config.maxTotalExposure) ∧
  (0 < store.config.maxActivePositions →
    store.activePositions + 2 ≤ store.config.maxActivePositions) ∧
  (store.config.canaryEnabled = true → 0 < store.config.canaryMaxCapitalUsdt →
    (executionSafetySnapshot store).canaryCapitalUsed +
      max quantity 0 * capitalFactor store.config.maxPositionPct ≤
        store.config.canaryMaxCapitalUsdt)

section Guard

variable {allowedQuotes : List String} {snapshot : Snapshot} {proposed : ℚ} {source symbol : String}

@[simp] theorem isOk_error {α ε : Type} (failure : ε) :
    (Except.error failure : Except ε α).isOk = false := rfl

theorem assertCanary_isOk :
    (assertCanary snapshot proposed source symbol).isOk ↔
      ¬(snapshot.canarySymbols ≠ [] ∧ symbol ≠ "" ∧ symbol ∉ snapshot.canarySymbols) ∧
      ¬(0 < snapshot.canaryMaxCapitalUsdt ∧ snapshot.canaryMaxCapitalUsdt <
        snapshot.canaryCapitalUsed + proposed * capitalFactor snapshot.maxPositionPct) ∧
      ¬(0 ≤ snapshot.canaryMaxPositions ∧
        snapshot.canaryMaxPositions < snapshot.canaryPositionCount + 1) := by
  unfold assertCanary
  dsimp only
  split_ifs with blocked exceeded crowded
  · rw [isOk_error]
    exact iff_of_false Bool.false_ne_true fun passes => passes.1 blocked
  · rw [isOk_error]
    exact iff_of_false Bool.false_ne_true fun passes => passes.2.1 exceeded
  · rw [isOk_error]
    exact iff_of_false Bool.false_ne_true fun passes => passes.2.2 crowded
  · exact iff_of_true rfl ⟨blocked, exceeded, crowded⟩

theorem assertLimits_isOk :
    (assertLimits snapshot proposed source symbol).isOk ↔
      snapshot.tradingEnabled = true ∧
      ¬(0 < snapshot.maxTotalExposure ∧
        snapshot.maxTotalExposure < snapshot.currentTotalExposure + proposed) ∧
      ¬(0 < snapshot.maxActivePositions ∧
        snapshot.maxActivePositions < snapshot.currentActivePositions + 1) := by
  unfold assertLimits
  dsimp only
  by_cases enabled : snapshot.tradingEnabled = true
  · rw [if_neg (not_not.mpr enabled)]
    split_ifs with exceeded crowded
    · rw [isOk_error]
      exact iff_of_false Bool.false_ne_true fun passes => passes.2.1 exceeded
    · rw [isOk_error]
      exact iff_of_false Bool.false_ne_true fun passes => passes.2.2 crowded
    · exact iff_of_true rfl ⟨enabled, exceeded, crowded⟩
  · rw [if_pos enabled, isOk_error]
    exact iff_of_false Bool.false_ne_true fun passes => enabled passes.1

theorem assertExecutionOpenAllowed_isOk {store : Store} {proposedNotional : ℚ} :
    (assertExecutionOpenAllowed allowedQuotes store proposedNotional source symbol).isOk ↔
      ¬(upper (strip symbol) ≠ "" ∧ (extractQuote allowedQuotes (upper (strip symbol))).isNone) ∧
      (store.config.canaryEnabled = true →
        (assertCanary (executionSafetySnapshot store) (max proposedNotional 0) source
          (upper (strip symbol))).isOk) ∧
      (assertLimits (executionSafetySnapshot store) (max proposedNotional 0) source
        (upper (strip symbol))).isOk := by
  have enabled : (executionSafetySnapshot store).canaryEnabled = store.config.canaryEnabled := rfl
  unfold assertExecutionOpenAllowed
  dsimp only
  rw [enabled]
  by_cases unquoted : upper (strip symbol) ≠ "" ∧
      (extractQuote allowedQuotes (upper (strip symbol))).isNone
  · rw [if_pos unquoted, isOk_error]
    exact iff_of_false Bool.false_ne_true fun passes => passes.1 unquoted
  · rw [if_neg unquoted]
    by_cases canary : store.config.canaryEnabled = true
    · rw [if_pos canary]
      cases checked : assertCanary (executionSafetySnapshot store) (max proposedNotional 0) source
          (upper (strip symbol)) with
      | error violation =>
        refine iff_of_false Bool.false_ne_true fun passes => ?_
        exact Bool.false_ne_true (passes.2.1 canary)
      | ok value =>
        constructor
        · exact fun limits => ⟨unquoted, fun _ => rfl, limits⟩
        · exact fun passes => passes.2.2
    · rw [if_neg canary]
      constructor
      · exact fun limits => ⟨unquoted, fun enabled => absurd enabled canary, limits⟩
      · exact fun passes => passes.2.2

end Guard

section Twice

variable {allowedQuotes : List String} {desk next : Desk} {decision : Decision}
  {commercial : Option String} {intentId : String} {intent : ExecutionIntent}

section Admitted

variable (admitted : desk.dispatchDecisionResult allowedQuotes decision commercial intentId =
  .admitted intent next)

include admitted

theorem Desk.admitted_cases :
    (assertExecutionOpenAllowed allowedQuotes desk.store
        (dispatchProposal decision.notional intent.quantity) "runtime_execution_dispatch"
          decision.symbol).isOk ∧
      (∀ row ∈ desk.store.runtimeIntents, row.intentId ≠ intentId) ∧
      intent.intentId = intentId ∧ intent.isPending = true ∧
      next.events = desk.events ∧
      next.store = { desk.store with runtimeIntents := desk.store.runtimeIntents ++ [intent] } := by
  have pending : ∀ row : ExecutionIntent, row.status = "pending" → row.isPending = true := by
    intro row isPending
    simp only [ExecutionIntent.isPending, isPending]
    decide +kernel
  unfold Desk.dispatchDecisionResult at admitted
  dsimp only at admitted
  split at admitted
  · cases admitted
  · split at admitted
    · cases admitted
    · split at admitted
      · cases admitted
      · split at admitted
        · cases admitted
        · split at admitted
          · cases admitted
          · rename_i projection accepted
            split at admitted
            · cases admitted
            · rename_i fresh
              cases admitted
              have isNew := fun row inside same => fresh ⟨row, inside, same⟩
              rw [accepted]
              exact ⟨rfl, isNew, rfl, pending _ rfl, rfl, rfl⟩

/-- The second check passes exactly when there is room for the quantity twice. -/
theorem Desk.submissionCheck_isOk :
    (next.submissionCheck allowedQuotes intent).isOk ↔ desk.store.RoomTwice intent.quantity := by
  obtain ⟨accepted, _, _, isPending, _, store⟩ := Desk.admitted_cases admitted
  obtain ⟨_, canary, limits⟩ := assertExecutionOpenAllowed_isOk.mp accepted
  have trading : desk.store.config.tradingEnabled = true := (assertLimits_isOk.mp limits).1
  have anonymous : upper (strip "") = "" := by decide +kernel
  have exposure : next.store.pendingRuntimeIntentExposure =
      desk.store.pendingRuntimeIntentExposure + |intent.quantity| := by
    rw [store, Store.pendingRuntimeIntentExposure_eq, Store.pendingRuntimeIntentExposure_eq,
      tally_append, tally_cons, tally_nil, if_pos isPending, add_zero]
  have count : next.store.activePositions = desk.store.activePositions + 1 := by
    rw [store]
    simp only [Store.activePositions, Store.openPositions, Store.pendingUser, Store.pendingRuntime,
      List.filter_append, List.filter_singleton, isPending, List.length_append]
    simp
    ring
  have config : next.store.config = desk.store.config := by rw [store]
  have opened : next.store.currentOpenPositionsExposure =
      desk.store.currentOpenPositionsExposure := by
    rw [store]
    rfl
  have users : next.store.pendingUserIntentExposure = desk.store.pendingUserIntentExposure := by
    rw [store]
    rfl
  have canaryUsed : (executionSafetySnapshot next.store).canaryCapitalUsed =
      (executionSafetySnapshot desk.store).canaryCapitalUsed ∧
        (executionSafetySnapshot next.store).canaryPositionCount =
          (executionSafetySnapshot desk.store).canaryPositionCount := by
    rw [store]
    exact ⟨rfl, rfl⟩
  unfold Desk.submissionCheck Store.RoomTwice
  rw [assertExecutionOpenAllowed_isOk, assertLimits_isOk, assertCanary_isOk,
    anonymous, canaryUsed.1,
    canaryUsed.2]
  simp only [executionSafetySnapshot, config, opened, users, exposure, count]
  constructor
  · rintro ⟨_, canaryRoom, _, exposureRoom, positionRoom⟩
    refine ⟨fun positive => ?_, fun positive => ?_, fun enabled positive => ?_⟩
    · have room := not_lt.mp fun larger => exposureRoom ⟨positive, larger⟩
      linarith
    · have room := not_lt.mp fun larger => positionRoom ⟨positive, larger⟩
      omega
    · exact not_lt.mp fun larger => (canaryRoom enabled).2.1 ⟨positive, larger⟩
  · rintro ⟨exposureRoom, positionRoom, canaryRoom⟩
    refine ⟨fun named => named.1 rfl, fun enabled => ⟨fun named => named.2.1 rfl, ?_, ?_⟩, trading,
      ?_, ?_⟩
    · rintro ⟨positive, larger⟩
      exact absurd (canaryRoom enabled positive) (not_le.mpr larger)
    · have count := (assertCanary_isOk.mp (canary enabled)).2.2
      exact count
    · rintro ⟨positive, larger⟩
      have room := exposureRoom positive
      linarith
    · rintro ⟨positive, larger⟩
      have room := positionRoom positive
      omega

end Admitted

/-- An intent is the only row with its identifier, and it is pending. -/
structure Desk.Holds (desk : Desk) (intent : ExecutionIntent) : Prop where
  inside : intent ∈ desk.store.runtimeIntents
  only : ∀ row ∈ desk.store.runtimeIntents, row.intentId = intent.intentId → row = intent

theorem Desk.Later.holds {later : Desk} (step : Desk.Later allowedQuotes desk later)
    (held : desk.Holds intent) : later.Holds intent := by
  cases step with
  | dispatched admitted =>
    obtain ⟨_, fresh, isNew, _, _, store⟩ := Desk.admitted_cases admitted
    constructor
    · rw [store]
      exact List.mem_append_left _ held.inside
    · intro row inside same
      rw [store] at inside
      rcases List.mem_append.mp inside with earlier | new
      · exact held.only row earlier same
      · rw [List.mem_singleton.mp new, isNew] at same
        exact absurd same.symm (fresh intent held.inside)
  | processed done =>
    have unchanged : later.store = desk.store := by
      unfold Desk.processSubmissionEventOnce at done
      split at done
      · cases done
      · split at done
        · cases done
        · dsimp only at done
          split at done
          · cases done
            rfl
          · split at done <;> cases done <;> rfl
    exact ⟨unchanged ▸ held.inside, unchanged ▸ held.only⟩
  | elsewhere config positions userIntents => exact ⟨held.inside, held.only⟩

theorem Desk.Holds.after {later : Desk} (held : desk.Holds intent)
    (run : Relation.ReflTransGen (Desk.Later allowedQuotes) desk later) : later.Holds intent := by
  induction run with
  | refl => exact held
  | tail _ step ih => exact step.holds ih

theorem Desk.Holds.exposure_eq (held : desk.Holds intent) (isPending : intent.isPending = true) :
    desk.store.pendingRuntimeIntentExposure =
      desk.store.pendingWithout intent.intentId +
        ((desk.store.runtimeIntents.filter fun row => row.intentId = intent.intentId).map
          fun row => |row.quantity|).sum := by
  have only := held.only
  unfold Store.pendingWithout
  rw [Store.pendingRuntimeIntentExposure_eq, Store.pendingRuntimeIntentExposure_eq]
  dsimp only
  generalize desk.store.runtimeIntents = rows at only
  induction rows with
  | nil => simp
  | cons row rows ih =>
    have rest := ih fun other inside => only other (List.mem_cons_of_mem _ inside)
    by_cases same : row.intentId = intent.intentId
    · have isRow := only row List.mem_cons_self same
      subst isRow
      simp only [tally_cons, isPending, if_true, ne_eq, not_true, decide_false, decide_true,
        List.filter_cons, Bool.false_eq_true, if_false, List.map_cons, List.sum_cons]
      linarith
    · simp only [tally_cons, same, ne_eq, not_false_eq_true, decide_true, decide_false,
        List.filter_cons, Bool.false_eq_true, if_false, if_true]
      linarith

theorem Desk.Holds.released_iff (held : desk.Holds intent) (isPending : intent.isPending = true) :
    desk.store.pendingRuntimeIntentExposure = desk.store.pendingWithout intent.intentId ↔
      intent.quantity = 0 := by
  have exposure := held.exposure_eq isPending
  have isOwn : intent ∈ desk.store.runtimeIntents.filter fun row => row.intentId =
      intent.intentId :=
    List.mem_filter.mpr ⟨held.inside, decide_eq_true rfl⟩
  have covered : |intent.quantity| ≤ ((desk.store.runtimeIntents.filter fun row =>
      row.intentId = intent.intentId).map fun row => |row.quantity|).sum := by
    apply List.single_le_sum
    · intro weight inside
      obtain ⟨row, _, rfl⟩ := List.mem_map.mp inside
      exact abs_nonneg _
    · exact List.mem_map.mpr ⟨intent, isOwn, rfl⟩
  constructor
  · intro same
    have nothing : |intent.quantity| ≤ 0 := by linarith
    exact abs_nonpos_iff.mp nothing
  · intro zero
    have nothing : ((desk.store.runtimeIntents.filter fun row =>
        row.intentId = intent.intentId).map fun row => |row.quantity|).sum = 0 := by
      apply List.sum_eq_zero
      intro weight inside
      obtain ⟨row, isRow, rfl⟩ := List.mem_map.mp inside
      obtain ⟨among, same⟩ := List.mem_filter.mp isRow
      rw [held.only row among (of_decide_eq_true same), zero, abs_zero]
    rw [exposure, nothing, add_zero]

theorem Desk.Holds.closes (allowedQuotes : List String) (held : desk.Holds intent) :
    ∃ later, Relation.ReflTransGen (Desk.Later allowedQuotes) desk later ∧
      later.Finalized intent.intentId := by
  by_cases finalized : desk.Finalized intent.intentId
  · exact ⟨desk, .refl, finalized⟩
  · cases found : desk.store.runtimeIntents.find? fun row => row.intentId = intent.intentId with
    | none =>
      have absent := List.find?_eq_none.mp found intent held.inside
      exact absurd (decide_eq_true rfl) absent
    | some row =>
      have done : desk.processSubmissionEventOnce allowedQuotes intent.intentId
          (some "COMMERCIAL") 0 =
          .ok { desk with
            events := desk.events ++ [⟨intent.intentId, orderFinalized, "rejected"⟩] } := by
        unfold Desk.processSubmissionEventOnce
        rw [found]
        exact if_neg finalized
      refine ⟨_, .single (.processed done), ?_⟩
      exact ⟨_, List.mem_append_right _ (List.mem_singleton.mpr rfl), rfl, rfl⟩

theorem Desk.releases_iff
    (admitted : desk.dispatchDecisionResult allowedQuotes decision commercial intentId =
      .admitted intent next) :
    next.Releases allowedQuotes intent.intentId ↔ intent.quantity = 0 := by
  obtain ⟨_, fresh, isNew, isPending, _, store⟩ := Desk.admitted_cases admitted
  have held : next.Holds intent := by
    constructor
    · rw [store]
      exact List.mem_append_right _ (List.mem_singleton.mpr rfl)
    · intro row inside same
      rw [store] at inside
      rcases List.mem_append.mp inside with earlier | new
      · exact absurd (same.trans isNew) (fresh row earlier)
      · exact List.mem_singleton.mp new
  constructor
  · intro releases
    obtain ⟨later, run, finalized⟩ := held.closes allowedQuotes
    exact ((held.after run).released_iff isPending).mp (releases later run finalized)
  · intro zero later run _
    exact ((held.after run).released_iff isPending).mpr zero

/-- For every decision that the dispatcher admits, the worker's check of the same intent
passes exactly when there is room for the quantity twice, and the quantity stops counting
once the log is closed exactly when it is zero. -/
theorem admission_agrees_iff
    (admitted : desk.dispatchDecisionResult allowedQuotes decision commercial intentId =
      .admitted intent next) :
    ((next.submissionCheck allowedQuotes intent).isOk ↔ desk.store.RoomTwice intent.quantity) ∧
      (next.Releases allowedQuotes intent.intentId ↔ intent.quantity = 0) :=
  ⟨Desk.submissionCheck_isOk admitted, Desk.releases_iff admitted⟩

def sampleDecision : Decision := ⟨"BUY", none, some 1, "BTCUSDT", 50000, [], "hash-1"⟩

def emptyDesk (config : LiveActivationConfig) : Desk := ⟨Store.empty config, [], []⟩

def sampleDesk (config : LiveActivationConfig) : Desk :=
  ⟨⟨config, [], [], [sampleRuntimeIntent]⟩, [("hash-1", "intent-2")], []⟩

theorem admission_agrees_iff_room :
    ((sampleDesk sampleConfig).submissionCheck ["USDT"] sampleRuntimeIntent).isOk ∧
      ¬(sampleDesk sampleConfig).Releases ["USDT"] sampleRuntimeIntent.intentId := by
  have admitted : (emptyDesk sampleConfig).dispatchDecisionResult ["USDT"] sampleDecision none
      "intent-2" = .admitted sampleRuntimeIntent (sampleDesk sampleConfig) := by
    decide +kernel
  have room : (emptyDesk sampleConfig).store.RoomTwice sampleRuntimeIntent.quantity := by
    refine ⟨fun _ => by decide +kernel, fun _ => by decide +kernel, fun enabled => ?_⟩
    exact absurd enabled Bool.false_ne_true
  have agrees := admission_agrees_iff admitted
  exact ⟨agrees.1.mpr room, fun releases => absurd (agrees.2.mp releases) (by decide +kernel)⟩

def tightConfig : LiveActivationConfig := { sampleConfig with maxTotalExposure := 1 }

/-- The dispatcher admits one coin where the worker then refuses it, and the coin counts
as pending exposure even after its log is closed. -/
theorem worker_refuses_what_dispatcher_admits :
    (emptyDesk tightConfig).dispatchDecisionResult ["USDT"] sampleDecision none "intent-2" =
        .admitted sampleRuntimeIntent (sampleDesk tightConfig) ∧
      ¬((sampleDesk tightConfig).submissionCheck ["USDT"] sampleRuntimeIntent).isOk ∧
      ¬(sampleDesk tightConfig).Releases ["USDT"] sampleRuntimeIntent.intentId := by
  have admitted : (emptyDesk tightConfig).dispatchDecisionResult ["USDT"] sampleDecision none
      "intent-2" = .admitted sampleRuntimeIntent (sampleDesk tightConfig) := by
    decide +kernel
  refine ⟨admitted, by decide +kernel, fun releases => ?_⟩
  exact absurd ((Desk.releases_iff admitted).mp releases) (by decide +kernel)

end Twice

end Safety
