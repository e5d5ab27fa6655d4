import Mathlib.Algebra.Order.BigOperators.Group.List
import CoinRobotu.Interleaving.Calls
import CoinRobotu.Paper.Realized
import CoinRobotu.Safety.Exposure

/-!
# Exposure over whole runs

Opens are accepted by the guard and recorded as pending rows.
-/

open Interleaving

namespace Safety

open Runtime (lower)
open Paper (PaperPosition Happening)
open Numeric

/-- What becomes of `float(notional or size or quantity or 0)` in the
dispatcher; the quantity of an intent is the size of its decision. -/
def dispatchProposal (notional : Option ℚ) (quantity : ℚ) : ℚ :=
  if notional.getD 0 = 0 then quantity else notional.getD 0

/-- `_open_position_from_intent`: the quantity bought at a price. -/
def openQuantity (notional price : ℚ) : ℚ :=
  roundTo 6 (max (notional / max price 1) (1 / 1000))

inductive Event where
  | userOpen (intent : UserExecutionIntent)
  | runtimeOpen (notional : Option ℚ) (intent : ExecutionIntent)
  | userApproved (intent : UserExecutionIntent)
  | userReleased (intent : UserExecutionIntent) (position : PaperPosition)
  | runtimeReleased (intent : ExecutionIntent) (position : PaperPosition)
  | userEnded (intent : UserExecutionIntent) (status : String)
  | runtimeEnded (intent : ExecutionIntent) (status : String)
  | positionChanged (position : PaperPosition) (happening : Happening)

variable (allowedQuotes : List String)

/-- One step of the tables. -/
inductive Step : Store → Event → Store → Prop where
  | userOpen {store : Store} {intent : UserExecutionIntent} {projection : Projection}
      (accepted : assertExecutionOpenAllowed allowedQuotes store intent.notional
        "execution_intent_service_submit" intent.symbol = .ok projection)
      (recorded : intent.intentType = "OPEN_POSITION" ∧ intent.status = "QUEUED") :
      Step store (.userOpen intent) { store with userIntents := store.userIntents ++ [intent] }
  | runtimeOpen {store : Store} {notional : Option ℚ} {intent : ExecutionIntent}
      {projection : Projection}
      (accepted : assertExecutionOpenAllowed allowedQuotes store
        (dispatchProposal notional intent.quantity) "runtime_execution_dispatch" intent.symbol =
          .ok projection)
      (recorded : intent.status = "pending") :
      Step store (.runtimeOpen notional intent)
        { store with runtimeIntents := store.runtimeIntents ++ [intent] }
  | userApproved {store : Store} {before after : List UserExecutionIntent}
      {intent : UserExecutionIntent} (rows : store.userIntents = before ++ intent :: after)
      (queued : intent.status = "QUEUED") :
      Step store (.userApproved intent)
        { store with userIntents := before ++ { intent with status := "APPROVED" } :: after }
  | userReleased {store : Store} {before after : List UserExecutionIntent}
      {intent : UserExecutionIntent} {position : PaperPosition}
      (rows : store.userIntents = before ++ intent :: after) (pending : intent.isPending)
      (opened : position.quantity = openQuantity intent.notional position.entryPrice) :
      Step store (.userReleased intent position)
        { store with
          userIntents := before ++ { intent with status := "RELEASED" } :: after
          positions := store.positions ++ [position] }
  | runtimeReleased {store : Store} {before after : List ExecutionIntent}
      {intent : ExecutionIntent} {position : PaperPosition} {status : String}
      (rows : store.runtimeIntents = before ++ intent :: after) (pending : intent.isPending)
      (left : { intent with status }.isPending = false) :
      Step store (.runtimeReleased intent position)
        { store with
          runtimeIntents := before ++ { intent with status } :: after
          positions := store.positions ++ [position] }
  | userEnded {store : Store} {before after : List UserExecutionIntent}
      {intent : UserExecutionIntent} {status : String}
      (rows : store.userIntents = before ++ intent :: after)
      (ended : { intent with status }.isPending = false) :
      Step store (.userEnded intent status)
        { store with userIntents := before ++ { intent with status } :: after }
  | runtimeEnded {store : Store} {before after : List ExecutionIntent}
      {intent : ExecutionIntent} {status : String}
      (rows : store.runtimeIntents = before ++ intent :: after)
      (ended : { intent with status }.isPending = false) :
      Step store (.runtimeEnded intent status)
        { store with runtimeIntents := before ++ { intent with status } :: after }
  | positionChanged {store : Store} {before after : List PaperPosition}
      {position : PaperPosition} {happening : Happening}
      (rows : store.positions = before ++ position :: after)
      (applicable : ∀ exitPrice requested, happening = .partialClose exitPrice requested →
        0 < position.closeQuantity requested) :
      Step store (.positionChanged position happening)
        { store with positions := before ++ happening.apply position :: after }

namespace Store

variable (store : Store)

def pendingRuntimeNotional : ℚ :=
  (store.pendingRuntime.map fun intent => |intent.quantity * intent.price|).sum

def exposure : ℚ :=
  store.currentOpenPositionsExposure + store.pendingUserIntentExposure +
    store.pendingRuntimeNotional

end Store

/-- The events whose rows are worth no more than what the guard was told. -/
def Event.measured : Event → Prop
  | .userOpen intent => 0 ≤ intent.notional
  | .runtimeOpen notional intent =>
      |intent.quantity * intent.price| ≤ |intent.quantity| ∧
        |intent.quantity * intent.price| ≤ max (dispatchProposal notional intent.quantity) 0
  | .userReleased intent position => positionNotional position ≤ |intent.notional|
  | .runtimeReleased intent position =>
      positionNotional position ≤ |intent.quantity * intent.price|
  | _ => True

def Store.empty (config : LiveActivationConfig) : Store := ⟨config, [], [], []⟩

section Tables

variable {α : Type} (counts : α → Bool) (weight : α → ℚ)

def tally (rows : List α) : ℚ := ((rows.filter counts).map weight).sum

@[simp] theorem tally_nil : tally counts weight [] = 0 := rfl

theorem tally_cons (row : α) (rows : List α) :
    tally counts weight (row :: rows) =
      (if counts row then weight row else 0) + tally counts weight rows := by
  unfold tally
  by_cases counted : counts row <;> simp [counted]

theorem tally_append (first second : List α) :
    tally counts weight (first ++ second) =
      tally counts weight first + tally counts weight second := by
  simp [tally]

variable {counts weight}

theorem tally_replace_le {before after : List α} {row changed : α}
    (smaller : (if counts changed then weight changed else 0) ≤
      if counts row then weight row else 0) :
    tally counts weight (before ++ changed :: after) ≤
      tally counts weight (before ++ row :: after) := by
  rw [tally_append, tally_append, tally_cons, tally_cons]
  linarith

variable (weight)

/-- A row that stops counting is outweighed by what it added. -/
theorem tally_release (before rest : List α) {row changed : α} {bound : ℚ}
    (left : counts changed = false) (covered : bound ≤ if counts row then weight row else 0) :
    tally counts weight (before ++ changed :: rest) + bound ≤
      tally counts weight (before ++ row :: rest) := by
  rw [tally_append, tally_append, tally_cons, tally_cons, left]
  simp only [Bool.false_eq_true, if_false]
  linarith

theorem tally_add_le (counts : α → Bool) (rows : List α) (row : α) (nonnegative : 0 ≤ weight row) :
    tally counts weight (rows ++ [row]) ≤ tally counts weight rows + weight row := by
  rw [tally_append, tally_cons, tally_nil]
  split <;> linarith

end Tables

namespace Store

variable (store : Store)

theorem pendingRuntimeIntentExposure_eq :
    store.pendingRuntimeIntentExposure =
      tally ExecutionIntent.isPending (fun intent => |intent.quantity|) store.runtimeIntents := rfl

theorem activePositions_eq :
    (store.activePositions : ℚ) =
      tally PaperPosition.isActive (fun _ => 1) store.positions +
        tally UserExecutionIntent.isPending (fun _ => 1) store.userIntents +
          tally ExecutionIntent.isPending (fun _ => 1) store.runtimeIntents := by
  simp [activePositions, openPositions, pendingUser, pendingRuntime, tally]

end Store

variable {position : PaperPosition}

theorem PaperPosition.closeReason_inactive {lastPrice : ℚ}
    {reason : String} (reached : position.closeReason lastPrice = some reason) :
    lower reason ≠ "open" := by
  unfold PaperPosition.closeReason at reached
  split_ifs at reached <;> cases reached <;> decide +kernel

theorem Happening.apply_active (happening : Happening)
    (active : PaperPosition.isActive (happening.apply position) = true) :
    PaperPosition.isActive position = true := by
  have shut : lower "closed" ≠ "open" := by decide +kernel
  cases happening with
  | nothing | moveStop | moveTakeProfit => exact active
  | close exitPrice =>
    simp [Happening.apply, PaperPosition.close, PaperPosition.isActive, shut] at active
  | manualClose =>
    simp [Happening.apply, PaperPosition.manualClose, PaperPosition.isActive, shut] at active
  | partialClose exitPrice requested =>
    simp only [Happening.apply, PaperPosition.partialClose] at active
    split at active
    · simp [PaperPosition.isActive, shut] at active
    · exact active
  | refresh lastPrice =>
    simp only [Happening.apply, PaperPosition.refresh] at active
    split at active
    · rename_i reason reached
      have inactive := PaperPosition.closeReason_inactive reached
      simp [PaperPosition.isActive, inactive] at active
    · exact active

theorem positionNotional_partialClose {exitPrice requested : ℚ}
    (positive : 0 < position.closeQuantity requested) :
    positionNotional (position.partialClose exitPrice requested) ≤ positionNotional position := by
  have whole : position.closeQuantity requested ≤ position.quantity := min_le_right _ _
  have remaining : |max (position.quantity - position.closeQuantity requested) 0| ≤
      |position.quantity| := by
    rw [abs_of_nonneg (le_max_right _ _), abs_of_nonneg (by linarith)]
    apply max_le <;> linarith
  have same : positionNotional (position.partialClose exitPrice requested) =
      |position.entryPrice * max (position.quantity - position.closeQuantity requested) 0| := by
    simp only [PaperPosition.partialClose]
    split <;> rfl
  rw [same, positionNotional, abs_mul, abs_mul]
  exact mul_le_mul_of_nonneg_left remaining (abs_nonneg _)

theorem Happening.apply_notional (happening : Happening)
    (applicable : ∀ exitPrice requested, happening = .partialClose exitPrice requested →
      0 < position.closeQuantity requested)
    (active : PaperPosition.isActive (happening.apply position) = true) :
    positionNotional (happening.apply position) ≤ positionNotional position := by
  cases happening with
  | nothing | moveStop | moveTakeProfit | manualClose => exact le_refl _
  | close exitPrice =>
    have shut : lower "closed" ≠ "open" := by decide +kernel
    simp [Happening.apply, PaperPosition.close, PaperPosition.isActive, shut] at active
  | partialClose exitPrice requested =>
    exact positionNotional_partialClose (applicable exitPrice requested rfl)
  | refresh lastPrice =>
    simp only [Happening.apply, PaperPosition.refresh]
    split <;> exact le_refl _

theorem positionNotional_nonneg (position : PaperPosition) : 0 ≤ positionNotional position :=
  abs_nonneg _

/-- The caps, and what makes the guard's sum an upper bound of the exposure:
pending runtime intents are worth no more than their quantities. -/
structure Store.Capped (config : LiveActivationConfig) (store : Store) : Prop where
  configured : store.config = config
  priced : ∀ intent ∈ store.runtimeIntents, intent.isPending = true →
    |intent.quantity * intent.price| ≤ |intent.quantity|
  exposure_le : store.exposure ≤ config.maxTotalExposure
  active_le : store.activePositions ≤ config.maxActivePositions

theorem Store.Capped.of_le {config : LiveActivationConfig} {store after : Store}
    (capped : store.Capped config) (configured : after.config = store.config)
    (priced : ∀ intent ∈ after.runtimeIntents, intent.isPending = true →
      |intent.quantity * intent.price| ≤ |intent.quantity|)
    (exposure : after.exposure ≤ store.exposure)
    (active : (after.activePositions : ℚ) ≤ store.activePositions) : after.Capped config where
  configured := configured.trans capped.configured
  priced := priced
  exposure_le := exposure.trans capped.exposure_le
  active_le := le_trans (by exact_mod_cast active) capped.active_le

theorem Store.Capped.pendingRuntimeNotional_le {config : LiveActivationConfig} {store : Store}
    (capped : store.Capped config) :
    store.pendingRuntimeNotional ≤ store.pendingRuntimeIntentExposure := by
  apply List.sum_le_sum
  intro intent pending
  obtain ⟨inside, counted⟩ := List.mem_filter.mp pending
  exact capped.priced intent inside counted

section Steps

variable {config : LiveActivationConfig} {store after : Store}

theorem Store.exposure_eq (store : Store) :
    store.exposure = tally PaperPosition.isActive positionNotional store.positions +
      tally UserExecutionIntent.isPending (fun intent => |intent.notional|) store.userIntents +
        tally ExecutionIntent.isPending (fun intent => |intent.quantity * intent.price|)
          store.runtimeIntents := rfl

variable {allowedQuotes : List String}

section Opening

variable {projection : Projection} (capped : store.Capped config)
  (exposureLimited : 0 < config.maxTotalExposure) (positionsLimited : 0 < config.maxActivePositions)

include capped exposureLimited positionsLimited

/-- What the guard has accepted fits under the caps. -/
theorem Store.Capped.room {proposed : ℚ} {source symbol : String}
    (accepted : assertExecutionOpenAllowed allowedQuotes store proposed source symbol =
      .ok projection) :
    store.exposure + max proposed 0 ≤ config.maxTotalExposure ∧
      (store.activePositions : ℚ) + 1 ≤ config.maxActivePositions := by
  obtain ⟨exposed, crowded⟩ := assertExecutionOpenAllowed_ok allowedQuotes accepted
  rw [capped.configured] at exposed crowded
  have room := exposed exposureLimited
  have below := capped.pendingRuntimeNotional_le
  constructor
  · unfold Store.exposure
    linarith
  · exact_mod_cast crowded positionsLimited

theorem capped_userOpen {intent : UserExecutionIntent}
    (accepted : assertExecutionOpenAllowed allowedQuotes store intent.notional
      "execution_intent_service_submit" intent.symbol = .ok projection)
    (counted : intent.isPending = true) (nonnegative : 0 ≤ intent.notional) :
    ({ store with userIntents := store.userIntents ++ [intent] } : Store).Capped config := by
  obtain ⟨room, place⟩ := capped.room exposureLimited positionsLimited accepted
  rw [Store.activePositions_eq] at place
  rw [max_eq_left nonnegative] at room
  have worth : |intent.notional| = intent.notional := abs_of_nonneg nonnegative
  constructor
  · exact capped.configured
  · exact capped.priced
  · simp only [Store.exposure_eq, tally_append, tally_cons, tally_nil, counted, if_true, worth]
      at room ⊢
    linarith
  · rw [← @Int.cast_le ℚ, Store.activePositions_eq]
    simp only [tally_append, tally_cons, tally_nil, counted, if_true]
    linarith

variable {intent : ExecutionIntent}

/-- An accepted runtime intent is pending; the guard has counted its quantity
and was told at least its notional. -/
theorem capped_runtimeOpen {proposed : ℚ}
    (accepted : assertExecutionOpenAllowed allowedQuotes store proposed
      "runtime_execution_dispatch" intent.symbol = .ok projection)
    (counted : intent.isPending = true)
    (cheap : |intent.quantity * intent.price| ≤ |intent.quantity|)
    (proposedAll : |intent.quantity * intent.price| ≤ max proposed 0) :
    ({ store with runtimeIntents := store.runtimeIntents ++ [intent] } : Store).Capped config := by
  obtain ⟨room, place⟩ := capped.room exposureLimited positionsLimited accepted
  rw [Store.activePositions_eq] at place
  constructor
  · exact capped.configured
  · intro row inside pending
    rcases List.mem_append.mp inside with earlier | new
    · exact capped.priced row earlier pending
    · rw [List.mem_singleton.mp new]
      exact cheap
  · simp only [Store.exposure_eq, tally_append, tally_cons, tally_nil, counted, if_true] at room ⊢
    linarith
  · rw [← @Int.cast_le ℚ, Store.activePositions_eq]
    simp only [tally_append, tally_cons, tally_nil, counted, if_true]
    linarith

end Opening

variable {intent : ExecutionIntent}

theorem tally_status_le {α : Type} {counts : α → Bool} (weight : α → ℚ) (before after : List α)
    {row changed : α} (nonnegative : 0 ≤ weight row)
    (stays : counts changed = true → counts row = true) (same : weight changed = weight row) :
    tally counts weight (before ++ changed :: after) ≤
      tally counts weight (before ++ row :: after) := by
  apply tally_replace_le
  by_cases changedCounts : counts changed = true
  · rw [if_pos changedCounts, if_pos (stays changedCounts), same]
  · rw [if_neg changedCounts]
    split
    · exact nonnegative
    · exact le_refl _

variable {status : String}

theorem capped_userStatus {before rest : List UserExecutionIntent} {intent : UserExecutionIntent}
    (capped : store.Capped config)
    (rows : store.userIntents = before ++ intent :: rest)
    (stays : ({ intent with status } : UserExecutionIntent).isPending = true →
      intent.isPending = true) :
    ({ store with userIntents := before ++ { intent with status } :: rest } : Store).Capped
      config := by
  apply capped.of_le
  · rfl
  · exact capped.priced
  · have less := tally_status_le (fun row : UserExecutionIntent => |row.notional|) before rest
      (abs_nonneg intent.notional) stays rfl
    simp only [Store.exposure_eq, rows]
    linarith
  · have less := tally_status_le (fun _ : UserExecutionIntent => 1) before rest zero_le_one
      stays rfl
    simp only [Store.activePositions_eq, rows]
    linarith

variable {before rest : List ExecutionIntent}

section Ending

variable (capped : store.Capped config) (rows : store.runtimeIntents = before ++ intent :: rest)
  (ended : ({ intent with status } : ExecutionIntent).isPending = false)

include capped rows ended

theorem Store.Capped.priced_status :
    ∀ row ∈ before ++ { intent with status } :: rest, row.isPending = true →
      |row.quantity * row.price| ≤ |row.quantity| := by
  intro row inside pending
  have among : row ∈ before ++ intent :: rest := by
    rcases List.mem_append.mp inside with earlier | later
    · exact List.mem_append_left _ earlier
    · rcases List.mem_cons.mp later with changed | after
      · rw [changed, ended] at pending
        cases pending
      · exact List.mem_append_right _ (List.mem_cons_of_mem _ after)
  exact capped.priced row (rows ▸ among) pending

theorem capped_runtimeEnded :
    ({ store with runtimeIntents := before ++ { intent with status } :: rest } : Store).Capped
      config := by
  have stays : ({ intent with status } : ExecutionIntent).isPending = true →
      intent.isPending = true := by
    intro pending
    rw [ended] at pending
    cases pending
  apply capped.of_le
  · rfl
  · exact capped.priced_status rows ended
  · have less := tally_status_le (fun row : ExecutionIntent => |row.quantity * row.price|) before
      rest (abs_nonneg (intent.quantity * intent.price)) stays rfl
    simp only [Store.exposure_eq, rows]
    linarith
  · have less := tally_status_le (fun _ : ExecutionIntent => 1) before rest zero_le_one stays rfl
    simp only [Store.activePositions_eq, rows]
    linarith

end Ending

variable {position : PaperPosition}

theorem capped_userReleased {before rest : List UserExecutionIntent}
    {intent : UserExecutionIntent} (capped : store.Capped config)
    (rows : store.userIntents = before ++ intent :: rest) (pending : intent.isPending = true)
    (cheap : positionNotional position ≤ |intent.notional|) :
    ({ store with
        userIntents := before ++ { intent with status := "RELEASED" } :: rest
        positions := store.positions ++ [position] } : Store).Capped config := by
  have left : ({ intent with status := "RELEASED" } : UserExecutionIntent).isPending = false := by
    simp [UserExecutionIntent.isPending]
  apply capped.of_le
  · rfl
  · exact capped.priced
  · have added := tally_add_le positionNotional PaperPosition.isActive store.positions
      position (positionNotional_nonneg position)
    have less := tally_release (fun row => |row.notional|) before rest left (if_pos pending).ge
    simp only [Store.exposure_eq, rows]
    linarith
  · have added := tally_add_le (fun _ => 1) PaperPosition.isActive store.positions position
      zero_le_one
    have less := tally_release (fun _ => 1) before rest left (if_pos pending).ge
    simp only [Store.activePositions_eq, rows]
    linarith

theorem capped_runtimeReleased
    (capped : store.Capped config)
    (rows : store.runtimeIntents = before ++ intent :: rest) (pending : intent.isPending = true)
    (left : ({ intent with status } : ExecutionIntent).isPending = false)
    (cheap : positionNotional position ≤ |intent.quantity * intent.price|) :
    ({ store with
        runtimeIntents := before ++ { intent with status } :: rest
        positions := store.positions ++ [position] } : Store).Capped config := by
  apply capped.of_le
  · rfl
  · exact capped.priced_status rows left
  · have added := tally_add_le positionNotional PaperPosition.isActive store.positions
      position (positionNotional_nonneg position)
    have less := tally_release (fun row => |row.quantity * row.price|) before rest left
      (if_pos pending).ge
    simp only [Store.exposure_eq, rows]
    linarith
  · have added := tally_add_le (fun _ => 1) PaperPosition.isActive store.positions position
      zero_le_one
    have less := tally_release (fun _ => 1) before rest left (if_pos pending).ge
    simp only [Store.activePositions_eq, rows]
    linarith

theorem capped_positionChanged {before rest : List PaperPosition}
    {happening : Happening} (capped : store.Capped config)
    (rows : store.positions = before ++ position :: rest)
    (applicable : ∀ exitPrice requested, happening = .partialClose exitPrice requested →
      0 < position.closeQuantity requested) :
    ({ store with positions := before ++ happening.apply position :: rest } : Store).Capped
      config := by
  apply capped.of_le
  · rfl
  · exact capped.priced
  · have less : tally PaperPosition.isActive positionNotional
        (before ++ happening.apply position :: rest) ≤
          tally PaperPosition.isActive positionNotional (before ++ position :: rest) := by
      apply tally_replace_le
      by_cases active : PaperPosition.isActive (happening.apply position) = true
      · rw [if_pos active, if_pos (Happening.apply_active happening active)]
        exact Happening.apply_notional happening applicable active
      · rw [if_neg active]
        split
        · exact positionNotional_nonneg position
        · exact le_refl _
    simp only [Store.exposure_eq, rows]
    linarith
  · have active : PaperPosition.isActive (happening.apply position) = true →
        PaperPosition.isActive position = true := Happening.apply_active happening
    have less := tally_status_le (fun _ : PaperPosition => 1) before rest zero_le_one active rfl
    simp only [Store.activePositions_eq, rows]
    linarith

/-- One step whose rows are measured as the guard counts them keeps the caps. -/
theorem Step.capped {event : Event} (capped : store.Capped config)
    (exposureLimited : 0 < config.maxTotalExposure)
    (positionsLimited : 0 < config.maxActivePositions) (measured : event.measured)
    (step : Step allowedQuotes store event after) : after.Capped config := by
  cases step with
  | @userOpen intent _ accepted recorded =>
    have counted : intent.isPending = true := by
      simp only [UserExecutionIntent.isPending, recorded]
      decide
    exact capped_userOpen capped exposureLimited positionsLimited accepted counted measured
  | @runtimeOpen _ intent _ accepted recorded =>
    have counted : intent.isPending = true := by
      simp only [ExecutionIntent.isPending, recorded]
      decide +kernel
    exact capped_runtimeOpen capped exposureLimited positionsLimited accepted counted measured.1
      measured.2
  | @userApproved _ _ intent rows queued =>
    apply capped_userStatus capped rows
    intro approved
    have opens : intent.intentType = "OPEN_POSITION" := by
      simp only [UserExecutionIntent.isPending, decide_eq_true_eq] at approved
      exact approved.1
    simp only [UserExecutionIntent.isPending, opens, queued]
    decide
  | userReleased rows pending _ => exact capped_userReleased capped rows pending measured
  | runtimeReleased rows pending left =>
    exact capped_runtimeReleased capped rows pending left measured
  | userEnded rows ended =>
    apply capped_userStatus capped rows
    intro pending
    rw [ended] at pending
    cases pending
  | runtimeEnded rows ended => exact capped_runtimeEnded capped rows ended
  | positionChanged rows applicable => exact capped_positionChanged capped rows applicable

end Steps

section Runs

variable (allowedQuotes : List String)

/-- In every run whose rows are measured as the guard counts them, what is open
or pending stays within both limits. -/
theorem guarded_runs_respect_caps {config : LiveActivationConfig}
    (exposureLimited : 0 < config.maxTotalExposure)
    (positionsLimited : 0 < config.maxActivePositions) {events : List Event} {after : Store}
    (run : Path (Step allowedQuotes) (fun _ event => event.measured) (Store.empty config) events
      after) :
    after.exposure ≤ config.maxTotalExposure ∧
      after.activePositions ≤ config.maxActivePositions := by
  have empty : (Store.empty config).Capped config := by
    constructor
    · rfl
    · intro intent inside
      cases inside
    · have nothing : (Store.empty config).exposure = 0 := by
        simp [Store.empty, Store.exposure_eq]
      rw [nothing]
      exact exposureLimited.le
    · exact positionsLimited.le
  have capped : after.Capped config := by
    apply run.invariant (Store.Capped config) _ empty
    intro store event next capped measured step
    exact step.capped capped exposureLimited positionsLimited measured
  exact ⟨capped.exposure_le, capped.active_le⟩

def sampleConfig : LiveActivationConfig :=
  { tradingEnabled := true
    maxTotalExposure := 150
    maxActivePositions := 10
    maxPositionPct := 1 / 10
    canaryEnabled := false
    canarySymbols := []
    canaryMaxCapitalUsdt := 50
    canaryMaxPositions := 1 }

def sampleUserIntent : UserExecutionIntent :=
  ⟨"intent-1", "user-1", "BTCUSDT", "OPEN_POSITION", "QUEUED", 100⟩

def sampleRuntimeIntent : ExecutionIntent := ⟨"intent-2", "BTCUSDT", 1, 50000, "pending"⟩

theorem guarded_runs_respect_caps_user :
    0 < sampleConfig.maxTotalExposure ∧ 0 < sampleConfig.maxActivePositions ∧
      (⟨sampleConfig, [], [sampleUserIntent], []⟩ : Store).exposure ≤
        sampleConfig.maxTotalExposure ∧
      (⟨sampleConfig, [], [sampleUserIntent], []⟩ : Store).activePositions ≤
        sampleConfig.maxActivePositions := by
  have exposureLimited : 0 < sampleConfig.maxTotalExposure := by decide
  have positionsLimited : 0 < sampleConfig.maxActivePositions := by decide
  have accepted : assertExecutionOpenAllowed ["USDT"] (Store.empty sampleConfig)
      sampleUserIntent.notional "execution_intent_service_submit" sampleUserIntent.symbol =
        .ok ⟨100, 1, 10, 1⟩ := by decide +kernel
  have nonnegative : (Event.userOpen sampleUserIntent).measured := by
    show (0 : ℚ) ≤ 100
    decide
  have opened := Step.userOpen accepted ⟨rfl, rfl⟩
  exact ⟨exposureLimited, positionsLimited, guarded_runs_respect_caps ["USDT"] exposureLimited
    positionsLimited (Path.single nonnegative opened)⟩

/-- One coin at 50000 passes a limit of 150: the dispatcher proposes its quantity
for want of a notional, and the guard compares coins with money. -/
theorem guard_admits_quantity_as_notional :
    ∃ after, Path (Step ["USDT"]) (fun _ _ => True) (Store.empty sampleConfig)
        [.runtimeOpen none sampleRuntimeIntent] after ∧
      after.exposure = 50000 ∧ sampleConfig.maxTotalExposure = 150 := by
  have accepted : assertExecutionOpenAllowed ["USDT"] (Store.empty sampleConfig)
      (dispatchProposal none sampleRuntimeIntent.quantity) "runtime_execution_dispatch"
        sampleRuntimeIntent.symbol = .ok ⟨1, 1, 1 / 10, 1⟩ := by decide +kernel
  exact ⟨_, Path.single trivial (Step.runtimeOpen accepted rfl), by decide +kernel, rfl⟩

end Runs

end Safety
