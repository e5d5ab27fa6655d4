import CoinRobotu.Safety.Caps

/-!
# Canary limits over whole runs

While the canary is enabled, the guard compares its limits with the open positions
on canary symbols and the proposed open. The helpers that measure the pending intents
on these symbols exist, but the guard does not add them. So opens that are accepted
before any of them becomes a position can pass the limits together; they do not if
each would be accepted with the pending intents added.

A pending runtime intent counts by its quantity in the helper of the guard. Here it
counts by its quantity times a `rate` of its price: the rate 1 gives that helper, the
price itself the notional.
-/

open Interleaving

namespace Safety

open Runtime (upper lower strip)
open Paper (PaperPosition Happening)

namespace Store

variable (store : Store)

def canarySymbols : List String := normalizeSymbols store.config.canarySymbols

/-- The rows that `_canary_pending_user_intents_state` counts. -/
def canaryPendingUser (symbols : List String) : List UserExecutionIntent :=
  store.pendingUser.filter fun intent => ¬(symbols ≠ [] ∧ ¬isCanarySymbol intent.symbol symbols)

/-- The rows that `_canary_pending_runtime_intents_state` counts. -/
def canaryPendingRuntime (symbols : List String) : List ExecutionIntent :=
  store.pendingRuntime.filter fun intent => ¬(symbols ≠ [] ∧ ¬isCanarySymbol intent.symbol symbols)

def canaryPendingUserIntentsState (symbols : List String) : ℚ × ℤ :=
  (((store.canaryPendingUser symbols).map fun intent => |intent.notional|).sum,
    (store.canaryPendingUser symbols).length)

/-- `_canary_pending_runtime_intents_state` at the rate 1. -/
def canaryPendingRuntimeIntentsState (rate : ℚ → ℚ) (symbols : List String) : ℚ × ℤ :=
  (((store.canaryPendingRuntime symbols).map fun intent =>
      |intent.quantity * rate intent.price|).sum,
    (store.canaryPendingRuntime symbols).length)

def canaryCount : ℤ :=
  (store.canaryPositions store.canarySymbols).length +
    (store.canaryPendingUserIntentsState store.canarySymbols).2 +
      (store.canaryPendingRuntimeIntentsState 1 store.canarySymbols).2

def canaryCapital (rate : ℚ → ℚ) : ℚ :=
  (((store.canaryPositions store.canarySymbols).map positionNotional).sum +
    (store.canaryPendingUserIntentsState store.canarySymbols).1 +
      (store.canaryPendingRuntimeIntentsState rate store.canarySymbols).1) *
        capitalFactor store.config.maxPositionPct

def canarySnapshot (rate : ℚ → ℚ) : Snapshot :=
  { executionSafetySnapshot store with
    canaryCapitalUsed := store.canaryCapital rate
    canaryPositionCount := store.canaryCount }

end Store

/-- A position is opened in the symbol of its intent. -/
def Event.sameSymbol : Event → Prop
  | .userReleased intent position => upper (strip position.symbol) = upper (strip intent.symbol)
  | .runtimeReleased intent position => upper (strip position.symbol) = upper (strip intent.symbol)
  | _ => True

/-- One step of the tables in which positions have the symbols of their intents. -/
def CanaryStep (allowedQuotes : List String) (store : Store) (event : Event)
    (after : Store) : Prop :=
  Step allowedQuotes store event after ∧ event.sameSymbol

/-- An accepted open would also pass the canary checks with the pending intents added,
and no row is worth more than what the guard was told. -/
def Store.CanaryRoomy (rate : ℚ → ℚ) (store : Store) : Event → Prop
  | .userOpen intent =>
      0 ≤ intent.notional ∧
        assertCanary (store.canarySnapshot rate) intent.notional
          "execution_intent_service_submit" (upper (strip intent.symbol)) = .ok ()
  | .runtimeOpen notional intent =>
      |intent.quantity * rate intent.price| ≤ max (dispatchProposal notional intent.quantity) 0 ∧
        assertCanary (store.canarySnapshot rate) (max (dispatchProposal notional intent.quantity) 0)
          "runtime_execution_dispatch" (upper (strip intent.symbol)) = .ok ()
  | .userReleased intent position => positionNotional position ≤ |intent.notional|
  | .runtimeReleased intent position =>
      positionNotional position ≤ |intent.quantity * rate intent.price|
  | _ => True

section Weights

/-- What a row of each table adds; a status does not change it, and nothing that
happens to a position that stays open lets it add more. -/
structure Weights where
  position : PaperPosition → ℚ
  user : UserExecutionIntent → ℚ
  runtime : ExecutionIntent → ℚ
  position_nonneg : ∀ row, 0 ≤ position row
  user_nonneg : ∀ row, 0 ≤ user row
  runtime_nonneg : ∀ row, 0 ≤ runtime row
  user_status : ∀ (row : UserExecutionIntent) status, user { row with status } = user row
  runtime_status : ∀ (row : ExecutionIntent) status, runtime { row with status } = runtime row
  position_shrinks : ∀ (row : PaperPosition) (happening : Happening),
    (∀ exitPrice requested, happening = .partialClose exitPrice requested →
      0 < row.closeQuantity requested) →
        PaperPosition.isActive (happening.apply row) = true →
          position (happening.apply row) ≤ position row

def Weights.one : Weights where
  position _ := 1
  user _ := 1
  runtime _ := 1
  position_nonneg _ := zero_le_one
  user_nonneg _ := zero_le_one
  runtime_nonneg _ := zero_le_one
  user_status _ _ := rfl
  runtime_status _ _ := rfl
  position_shrinks _ _ _ _ := le_rfl

/-- Every row adds its notional. -/
def Weights.notional (rate : ℚ → ℚ) : Weights where
  position := positionNotional
  user intent := |intent.notional|
  runtime intent := |intent.quantity * rate intent.price|
  position_nonneg := positionNotional_nonneg
  user_nonneg _ := abs_nonneg _
  runtime_nonneg _ := abs_nonneg _
  user_status _ _ := rfl
  runtime_status _ _ := rfl
  position_shrinks _ happening applicable active :=
    Happening.apply_notional happening applicable active

variable (symbols : List String)

def PaperPosition.onCanary (row : PaperPosition) : Bool :=
  PaperPosition.isActive row && isCanarySymbol row.symbol symbols

def UserExecutionIntent.onCanary (row : UserExecutionIntent) : Bool :=
  row.isPending && isCanarySymbol row.symbol symbols

def ExecutionIntent.onCanary (row : ExecutionIntent) : Bool :=
  row.isPending && isCanarySymbol row.symbol symbols

def Store.canaryTotal (weights : Weights) (store : Store) : ℚ :=
  tally (PaperPosition.onCanary symbols) weights.position store.positions +
    tally (UserExecutionIntent.onCanary symbols) weights.user store.userIntents +
    tally (ExecutionIntent.onCanary symbols) weights.runtime store.runtimeIntents

def Event.adds (weights : Weights) : Event → ℚ
  | .userOpen intent => weights.user intent
  | .runtimeOpen _ intent => weights.runtime intent
  | _ => 0

/-- A position adds no more than the intent it was released from. -/
def Event.releases (weights : Weights) : Event → Prop
  | .userReleased intent position => weights.position position ≤ weights.user intent
  | .runtimeReleased intent position => weights.position position ≤ weights.runtime intent
  | _ => True

end Weights

section Tables

/-- Rows are filtered by their state and then by their symbol. -/
theorem tally_canary {α : Type} (counts : α → Bool) (symbol : α → String) (weight : α → ℚ)
    (symbols : List String) (rows : List α) :
    (((rows.filter counts).filter fun row =>
        ¬(symbols ≠ [] ∧ ¬isCanarySymbol (symbol row) symbols)).map weight).sum =
      tally (fun row => counts row && isCanarySymbol (symbol row) symbols) weight rows := by
  have same : ∀ row, decide (¬(symbols ≠ [] ∧ ¬isCanarySymbol (symbol row) symbols = true)) =
      isCanarySymbol (symbol row) symbols := by
    intro row
    by_cases everything : symbols = []
    · simp [isCanarySymbol, everything]
    · simp [everything]
  unfold tally
  rw [List.filter_filter]
  congr 2
  apply List.filter_congr
  intro row _
  rw [same row]
  exact Bool.and_comm _ _

theorem length_eq_tally {α : Type} (rows : List α) :
    (rows.length : ℚ) = (rows.map fun _ => (1 : ℚ)).sum := by
  simp

variable (store : Store)

theorem Store.canaryCount_eq :
    (store.canaryCount : ℚ) = store.canaryTotal store.canarySymbols .one := by
  have positions := tally_canary PaperPosition.isActive PaperPosition.symbol (fun _ => 1)
    store.canarySymbols store.positions
  have users := tally_canary UserExecutionIntent.isPending UserExecutionIntent.symbol (fun _ => 1)
    store.canarySymbols store.userIntents
  have runtimes := tally_canary ExecutionIntent.isPending ExecutionIntent.symbol (fun _ => 1)
    store.canarySymbols store.runtimeIntents
  unfold Store.canaryTotal Weights.one PaperPosition.onCanary UserExecutionIntent.onCanary
    ExecutionIntent.onCanary
  rw [← positions, ← users, ← runtimes, ← length_eq_tally, ← length_eq_tally, ← length_eq_tally]
  unfold Store.canaryCount
  push_cast
  rfl

theorem Store.canaryCapital_eq (rate : ℚ → ℚ) :
    store.canaryCapital rate =
      store.canaryTotal store.canarySymbols (.notional rate) *
        capitalFactor store.config.maxPositionPct := by
  have positions := tally_canary PaperPosition.isActive PaperPosition.symbol positionNotional
    store.canarySymbols store.positions
  have users := tally_canary UserExecutionIntent.isPending UserExecutionIntent.symbol
    (fun row => |row.notional|) store.canarySymbols store.userIntents
  have runtimes := tally_canary ExecutionIntent.isPending ExecutionIntent.symbol
    (fun row => |row.quantity * rate row.price|) store.canarySymbols store.runtimeIntents
  unfold Store.canaryTotal Weights.notional PaperPosition.onCanary UserExecutionIntent.onCanary
    ExecutionIntent.onCanary
  rw [← positions, ← users, ← runtimes]
  rfl

end Tables

section Steps

variable {allowedQuotes : List String} {store after : Store} {event : Event} (symbols : List String)

@[simp] theorem Happening.apply_symbol (happening : Happening) (position : PaperPosition) :
    (happening.apply position).symbol = position.symbol := by
  cases happening with
  | partialClose exitPrice requested =>
    simp only [Happening.apply, PaperPosition.partialClose]
    split <;> rfl
  | refresh lastPrice =>
    simp only [Happening.apply, PaperPosition.refresh]
    split <;> rfl
  | _ => rfl

theorem isCanarySymbol_congr {first second : String}
    (same : upper (strip first) = upper (strip second)) :
    isCanarySymbol first symbols = isCanarySymbol second symbols := by
  unfold isCanarySymbol
  rw [same]

theorem released_le {weight bound : ℚ} {position intent : String} {pending : Bool} (active : Bool)
    (same : upper (strip position) = upper (strip intent)) (isPending : pending = true)
    (nonnegative : 0 ≤ bound) (released : weight ≤ bound) :
    (if (active && isCanarySymbol position symbols) = true then weight else 0) ≤
      if (pending && isCanarySymbol intent symbols) = true then bound else 0 := by
  rw [isCanarySymbol_congr symbols same, isPending]
  cases isCanarySymbol intent symbols with
  | false => simp
  | true =>
    cases active with
    | false => simpa using nonnegative
    | true => simpa using released

theorem canary_userStatus_le (weights : Weights) {before rest : List UserExecutionIntent}
    {intent : UserExecutionIntent} {status : String}
      (rows : store.userIntents = before ++ intent :: rest)
    (stays : ({ intent with status } : UserExecutionIntent).isPending = true →
      intent.isPending = true) :
    ({ store with userIntents := before ++ { intent with status } :: rest } :
      Store).canaryTotal symbols
      weights ≤ store.canaryTotal symbols weights := by
  have counted : UserExecutionIntent.onCanary symbols { intent with status } = true →
      UserExecutionIntent.onCanary symbols intent = true := by
    unfold UserExecutionIntent.onCanary
    rw [Bool.and_eq_true, Bool.and_eq_true]
    exact fun ⟨pending, canary⟩ => ⟨stays pending, canary⟩
  have less := tally_status_le weights.user before rest (weights.user_nonneg intent) counted
    (weights.user_status intent status)
  simp only [Store.canaryTotal, rows]
  linarith

/-- What one step lets the total grow by: only opens add to it. -/
theorem CanaryStep.total_le (weights : Weights) (step : CanaryStep allowedQuotes store event after)
    (releases : event.releases weights) :
    after.canaryTotal symbols weights ≤ store.canaryTotal symbols weights + event.adds weights := by
  obtain ⟨step, sameSymbol⟩ := step
  cases step with
  | @userOpen intent =>
    have added := tally_add_le weights.user (UserExecutionIntent.onCanary symbols) store.userIntents
      intent (weights.user_nonneg intent)
    simp only [Store.canaryTotal, Event.adds]
    linarith
  | @runtimeOpen _ intent =>
    have added := tally_add_le weights.runtime (ExecutionIntent.onCanary symbols)
      store.runtimeIntents intent (weights.runtime_nonneg intent)
    simp only [Store.canaryTotal, Event.adds]
    linarith
  | @userApproved before rest intent rows queued =>
    simp only [Event.adds, add_zero]
    apply canary_userStatus_le symbols weights rows
    simp only [UserExecutionIntent.isPending, queued, decide_eq_true_eq]
    rintro ⟨opens, _⟩
    exact ⟨opens, by decide⟩
  | @userReleased before rest intent position rows pending opened =>
    have left :
        UserExecutionIntent.onCanary symbols { intent with status := "RELEASED" } = false := by
      simp [UserExecutionIntent.onCanary, UserExecutionIntent.isPending]
    have covered : (if PaperPosition.onCanary symbols position = true then weights.position position
        else 0) ≤
          if UserExecutionIntent.onCanary symbols intent = true then weights.user intent else 0 :=
      released_le symbols _ sameSymbol pending (weights.user_nonneg intent) releases
    have gone := tally_release weights.user before rest left covered
    simp only [Store.canaryTotal, Event.adds, rows, tally_append _ _ store.positions, tally_cons,
      tally_nil]
    linarith
  | @runtimeReleased before rest intent position status rows pending left =>
    have ended : ExecutionIntent.onCanary symbols { intent with status } = false := by
      rw [ExecutionIntent.onCanary, left, Bool.false_and]
    have covered : (if PaperPosition.onCanary symbols position = true then weights.position position
        else 0) ≤
          if ExecutionIntent.onCanary symbols intent = true then weights.runtime intent else 0 :=
      released_le symbols _ sameSymbol pending (weights.runtime_nonneg intent) releases
    have gone := tally_release weights.runtime before rest ended covered
    simp only [Store.canaryTotal, Event.adds, rows, tally_append _ _ store.positions, tally_cons,
      tally_nil]
    linarith
  | @userEnded before rest intent status rows ended =>
    simp only [Event.adds, add_zero]
    apply canary_userStatus_le symbols weights rows
    intro pending
    rw [ended] at pending
    cases pending
  | @runtimeEnded before rest intent status rows ended =>
    have left : ExecutionIntent.onCanary symbols { intent with status } = false := by
      rw [ExecutionIntent.onCanary, ended, Bool.false_and]
    have nonnegative : 0 ≤ if ExecutionIntent.onCanary symbols intent then weights.runtime intent
        else 0 := by
      split
      · exact weights.runtime_nonneg intent
      · exact le_rfl
    have gone := tally_release weights.runtime before rest left nonnegative
    simp only [Store.canaryTotal, Event.adds, rows]
    linarith
  | @positionChanged before rest position happening rows applicable =>
    have less : tally (PaperPosition.onCanary symbols) weights.position
        (before ++ happening.apply position :: rest) ≤
          tally (PaperPosition.onCanary symbols) weights.position (before ++ position :: rest) := by
      apply tally_replace_le
      have nonnegative := weights.position_nonneg position
      unfold PaperPosition.onCanary
      rw [Happening.apply_symbol]
      by_cases active : PaperPosition.isActive (happening.apply position) = true
      · have shrinks := weights.position_shrinks position happening applicable active
        rw [active, Happening.apply_active happening active, Bool.true_and]
        split
        · exact shrinks
        · exact le_rfl
      · rw [Bool.not_eq_true] at active
        rw [active, Bool.false_and, if_neg Bool.false_ne_true]
        split
        · exact nonnegative
        · exact le_rfl
    simp only [Store.canaryTotal, Event.adds, rows]
    linarith

end Steps

section Runs

variable {allowedQuotes : List String} {config : LiveActivationConfig} {store after : Store}
  {event : Event} {rate : ℚ → ℚ}

theorem assertCanary_ok {snapshot : Snapshot} {proposed : ℚ} {source symbol : String}
    (accepted : assertCanary snapshot proposed source symbol = .ok ()) :
    (0 < snapshot.canaryMaxCapitalUsdt →
      snapshot.canaryCapitalUsed + proposed * capitalFactor snapshot.maxPositionPct ≤
        snapshot.canaryMaxCapitalUsdt) ∧
    (0 ≤ snapshot.canaryMaxPositions → snapshot.canaryPositionCount + 1 ≤
      snapshot.canaryMaxPositions) := by
  unfold assertCanary at accepted
  dsimp only at accepted
  split_ifs at accepted with blocked exceeded crowded
  constructor
  · intro positive
    by_contra larger
    exact exceeded ⟨positive, lt_of_not_ge larger⟩
  · intro nonnegative
    by_contra larger
    exact crowded ⟨nonnegative, lt_of_not_ge larger⟩

theorem capitalFactor_nonneg (maxPositionPct : ℚ) : 0 ≤ capitalFactor maxPositionPct :=
  le_max_of_le_right (by norm_num)

/-- Both canary limits, with the pending intents counted. -/
structure Store.WithinCanary (rate : ℚ → ℚ) (config : LiveActivationConfig)
    (store : Store) : Prop where
  configured : store.config = config
  count_le : store.canaryCount ≤ config.canaryMaxPositions
  capital_le : 0 < config.canaryMaxCapitalUsdt →
    store.canaryCapital rate ≤ config.canaryMaxCapitalUsdt

theorem Step.config_eq (step : Step allowedQuotes store event after) :
    after.config = store.config := by
  cases step <;> rfl

theorem Store.CanaryRoomy.releases_one (event : Event) : event.releases .one := by
  cases event <;> first | exact le_rfl | trivial

theorem Store.CanaryRoomy.releases_notional (roomy : store.CanaryRoomy rate event) :
    event.releases (.notional rate) := by
  cases event <;> first | exact roomy | trivial

theorem Store.CanaryRoomy.room (roomy : store.CanaryRoomy rate event)
    (within : store.WithinCanary rate config) (positions : 0 ≤ config.canaryMaxPositions) :
    (store.canaryCount : ℚ) + event.adds .one ≤ config.canaryMaxPositions ∧
      (0 < config.canaryMaxCapitalUsdt →
        store.canaryCapital rate +
          event.adds (.notional rate) * capitalFactor config.maxPositionPct ≤
          config.canaryMaxCapitalUsdt) := by
  have factor := capitalFactor_nonneg config.maxPositionPct
  have configured := within.configured
  -- an open that passes with a proposal no smaller than what it adds
  have fits : ∀ {adds proposed : ℚ} {source symbol : String}, adds ≤ proposed →
      assertCanary (store.canarySnapshot rate) proposed source symbol = .ok () →
        (store.canaryCount : ℚ) + 1 ≤ config.canaryMaxPositions ∧
          (0 < config.canaryMaxCapitalUsdt →
            store.canaryCapital rate + adds * capitalFactor config.maxPositionPct ≤
              config.canaryMaxCapitalUsdt) := by
    intro adds proposed source symbol covered accepted
    obtain ⟨capital, count⟩ := assertCanary_ok accepted
    simp only [Store.canarySnapshot, executionSafetySnapshot, configured] at capital count
    constructor
    · exact_mod_cast count positions
    · intro positive
      have larger := mul_le_mul_of_nonneg_right covered factor
      have room := capital positive
      linarith
  cases event with
  | userOpen intent =>
    obtain ⟨nonnegative, accepted⟩ := roomy
    exact fits (abs_of_nonneg nonnegative).le accepted
  | runtimeOpen notional intent =>
    obtain ⟨covered, accepted⟩ := roomy
    exact fits covered accepted
  | _ =>
    simp only [Event.adds, add_zero, zero_mul]
    exact ⟨by exact_mod_cast within.count_le, within.capital_le⟩

theorem CanaryStep.within (within : store.WithinCanary rate config)
    (positions : 0 ≤ config.canaryMaxPositions) (roomy : store.CanaryRoomy rate event)
    (step : CanaryStep allowedQuotes store event after) : after.WithinCanary rate config := by
  have same := step.1.config_eq
  have symbols : after.canarySymbols = store.canarySymbols := by
    unfold Store.canarySymbols
    rw [same]
  have configured := within.configured
  have counted := step.total_le store.canarySymbols .one (Store.CanaryRoomy.releases_one event)
  have weighed := step.total_le store.canarySymbols (.notional rate) roomy.releases_notional
  obtain ⟨count, capital⟩ := roomy.room within positions
  rw [← symbols, ← Store.canaryCount_eq, symbols, ← Store.canaryCount_eq] at counted
  constructor
  · exact same.trans configured
  · have fits := counted.trans count
    exact_mod_cast fits
  · intro positive
    have factor := capitalFactor_nonneg config.maxPositionPct
    have larger := mul_le_mul_of_nonneg_right weighed factor
    have room := capital positive
    rw [Store.canaryCapital_eq, configured] at room
    rw [Store.canaryCapital_eq, symbols, same, configured]
    linarith

variable (allowedQuotes)

/-- One position, and 15 of capital. -/
def canaryConfig : LiveActivationConfig :=
  { tradingEnabled := true
    maxTotalExposure := 1000
    maxActivePositions := 10
    maxPositionPct := 1 / 10
    canaryEnabled := true
    canarySymbols := ["BTCUSDT"]
    canaryMaxCapitalUsdt := 15
    canaryMaxPositions := 1 }

/-- A position of one coin at 100. -/
def canaryPosition : PaperPosition :=
  { id := "position-1"
    userId := "user-1"
    symbol := "BTCUSDT"
    marketType := "spot"
    side := "long"
    quantity := 1
    leverage := 1
    entryPrice := 100
    stopLoss := 99
    takeProfit := 102
    status := "open"
    unrealizedPnl := 0
    realizedPnl := 0 }

def otherUserIntent : UserExecutionIntent := { sampleUserIntent with id := "intent-3" }

end Runs

end Safety
