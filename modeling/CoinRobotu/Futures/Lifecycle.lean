import CoinRobotu.Futures.Decisions

/-!
# The lifecycle of the futures strategies

Each cycle reads the registry that the cycle before it has saved, blocks the decisions of the
strategies that it has as disabled, and builds a new registry of the strategies that are active
in the cycle. A disabled strategy is locked: no health result returns it to another state. The
new registry knows nothing of a strategy that was not active, though, so a strategy that is
absent from one cycle starts anew when it is back.

Times are parameters of a cycle, and a registry is looked up by strategy, as the dictionary in
the cache is.
-/

namespace Futures

open Numeric hiding orNumber
open Risk (orNumber)

/-- An item of `transition_history`. -/
structure HistoryItem where
  source : Option LifecycleState
  target : LifecycleState
  reason : String
  time : ℤ
  deriving DecidableEq

/-- The registry entry of a strategy. -/
structure Entry where
  strategy : String
  lifecycleState : LifecycleState
  lastTransitionAt : ℤ
  lastTransitionReason : String
  transitionHistory : List HistoryItem
  deriving DecidableEq

abbrev Registry := String → Option Entry

/-- What the throttle engine says of a strategy. -/
structure Throttle where
  throttleLevel : Option String
  confidenceClamp : Option ℚ
  maxPositionRatio : Option ℚ
  maxSignalsPerCycle : Option ℤ
  deriving DecidableEq

abbrev Throttles := String → Option Throttle

/-- `throttle_by_strategy.get(strategy) or {}`. -/
def Throttles.throttle (throttles : Throttles) (strategy : String) : Throttle :=
  (throttles strategy).getD ⟨none, none, none, none⟩

/-- `str(throttle.get("throttle_level") or "NONE")`. -/
def Throttle.level (throttle : Throttle) : String := Runtime.orElse throttle.throttleLevel "NONE"

structure HealthRow where
  strategy : Option String
  strategyHealthScore : Option ℚ
  strategyPnlRolling : Option ℚ
  drawdownState : Option String
  deriving DecidableEq

def HealthRow.strategyKey (row : HealthRow) : String := Runtime.orElse row.strategy "unknown"

structure DisableState where
  strategy : String
  disableState : LifecycleState
  shouldDisable : Bool
  reasons : List String
  controlledRecoveryState : String
  healthScore : ℚ
  drawdownState : String
  deriving DecidableEq

/-- The state the registry has a strategy in; one it does not know is active. -/
def Registry.state (registry : Registry) (strategy : String) : LifecycleState :=
  ((registry strategy).map Entry.lifecycleState).getD .active

def healthDisableThreshold : ℚ := 22
def repeatedDecayLimit : ℤ := 3
def pnlDrawdownLimit : ℚ := -4 / 1000

def disableReasons (row : HealthRow) (repeatedDecayCount : ℤ) : List String :=
  (if orNumber row.strategyHealthScore 0 < healthDisableThreshold then
      ["HEALTH_SCORE_UNDER_THRESHOLD"] else []) ++
    (if repeatedDecayLimit ≤ repeatedDecayCount then ["REPEATED_DECAY_LIMIT_REACHED"] else []) ++
    (if orNumber row.strategyPnlRolling 0 ≤ pnlDrawdownLimit ∨
        Runtime.orElse row.drawdownState "NORMAL" = "LIMIT_BREACH" then
      ["PNL_DRAWDOWN_LIMIT_EXCEEDED"] else [])

/-- `evaluate_strategy_auto_disable`, for one row of the health snapshot. -/
def disableStateOf (registry : Registry) (repeatedDecay : String → ℤ) (row : HealthRow) :
    DisableState :=
  let strategy := row.strategyKey
  let healthScore := roundTo 2 (orNumber row.strategyHealthScore 0)
  let drawdownState := Runtime.orElse row.drawdownState "NORMAL"
  if registry.state strategy = .disabled then
    ⟨strategy, .disabled, true, ["ALREADY_DISABLED"], "OBSERVE_ONLY", healthScore, drawdownState⟩
  else
    let reasons := disableReasons row (repeatedDecay strategy)
    if 2 ≤ reasons.length then
      ⟨strategy, .disabled, true, reasons, "LOCKED", healthScore, drawdownState⟩
    else
      ⟨strategy, .active, false, reasons, "NOT_REQUIRED", healthScore, drawdownState⟩

structure AutoDisable where
  strategyDisableState : List DisableState
  disabledCount : ℕ
  disableEvents : List DisableState

/-- `evaluate_strategy_auto_disable`. A strategy that is already disabled raises no event. -/
def evaluateStrategyAutoDisable (healthRows : List HealthRow) (repeatedDecay : String → ℤ)
    (registry : Registry) : AutoDisable :=
  let rows := healthRows.map (disableStateOf registry repeatedDecay)
  { strategyDisableState := rows
    disabledCount := (rows.filter (·.disableState = .disabled)).length
    disableEvents := rows.filter fun row =>
      row.shouldDisable ∧ registry.state row.strategy ≠ .disabled }

/-- `by_strategy`: of two rows for one strategy the later one counts. -/
def AutoDisable.byStrategy (result : AutoDisable) (strategy : String) : Option DisableState :=
  result.strategyDisableState.reverse.find? (·.strategy = strategy)

/-- `get_legacy_shadow_strategy_ids`: the shadowed strategies of the catalog. -/
def legacyShadowStrategyIds : List String :=
  ["momentum_volume_breakout_v3", "volatility_breakout_v2", "adaptive_level_breakout_v2",
    "oscillator_composite_reversion_v2"]

/-- `should_disable` for a strategy of the cycle, the shadowed ones included. -/
def AutoDisable.shouldDisable (result : AutoDisable) (strategy : String) : Bool :=
  if strategy ∈ legacyShadowStrategyIds then true
  else ((result.byStrategy strategy).map DisableState.shouldDisable).getD false

structure Transition where
  strategy : String
  source : LifecycleState
  target : LifecycleState
  reason : String
  time : ℤ
  deriving DecidableEq

/-- `_new_state`. -/
def newState (now : ℤ) (strategy : String) : Entry where
  strategy := strategy
  lifecycleState := .active
  lastTransitionAt := now
  lastTransitionReason := "BOOTSTRAP"
  transitionHistory := [⟨none, .active, "BOOTSTRAP", now⟩]

def wantedState (current : LifecycleState) (shouldDisable : Bool) (level : String) :
    LifecycleState × String :=
  if shouldDisable then (.disabled, "AUTO_DISABLE_POLICY")
  else if current ≠ .disabled ∧ level ≠ "NONE" then (.throttled, "THROTTLE_" ++ level)
  else if current ≠ .disabled ∧ level = "NONE" then (.active, "HEALTH_RECOVERY")
  else if current = .disabled ∧ level = "NONE" then
    (.disabled, "DISABLED_LOCKED_CONTROLLED_RECOVERY")
  else (current, "NO_CHANGE")

def lockedState (current : LifecycleState) (wanted : LifecycleState × String) :
    LifecycleState × String :=
  if current = .disabled ∧ wanted.1 ≠ .disabled then (.disabled, "DISABLED_STATE_LOCK") else wanted

/-- `history[-50:]`. -/
def lastFifty (history : List HistoryItem) : List HistoryItem := history.drop (history.length - 50)

/-- The entry of a strategy after it went to a state for a reason. -/
def Entry.moved (entry : Entry) (strategy : String) (next : LifecycleState × String) (now : ℤ) :
    Entry :=
  if next.1 = entry.lifecycleState then { entry with strategy := strategy }
  else
    { strategy := strategy
      lifecycleState := next.1
      lastTransitionAt := now
      lastTransitionReason := next.2
      transitionHistory := lastFifty
        (entry.transitionHistory ++ [⟨some entry.lifecycleState, next.1, next.2, now⟩]) }

structure Transitions where
  registry : Registry
  entries : List Entry
  transitions : List Transition
  invalidTransitions : List Transition

/-- `existing_registry.get(strategy) or _new_state(strategy)`. -/
def Registry.current (registry : Registry) (now : ℤ) (strategy : String) : Entry :=
  (registry strategy).getD (newState now strategy)

def nextState (current : LifecycleState) (shouldDisable : Bool) (level : String) :
    LifecycleState × String :=
  lockedState current (wantedState current shouldDisable level)

def nextEntry (now : ℤ) (registry : Registry) (throttles : Throttles)
    (shouldDisable : String → Bool) (strategy : String) : Entry :=
  (registry.current now strategy).moved strategy
    (nextState (registry.current now strategy).lifecycleState (shouldDisable strategy)
      (throttles.throttle strategy).level) now

def applyLifecycleTransitions (now : ℤ) (strategyIds : List String) (existing : Registry)
    (throttles : Throttles) (shouldDisable : String → Bool) : Transitions :=
  let entry := nextEntry now existing throttles shouldDisable
  let source strategy := (existing.current now strategy).lifecycleState
  let wanted strategy := wantedState (source strategy) (shouldDisable strategy)
    (throttles.throttle strategy).level
  { registry := fun strategy => if strategy ∈ strategyIds then some (entry strategy) else none
    entries := strategyIds.map entry
    transitions := (strategyIds.filter fun strategy =>
      (entry strategy).lifecycleState ≠ source strategy).map fun strategy =>
        ⟨strategy, source strategy, (entry strategy).lifecycleState,
          (entry strategy).lastTransitionReason, now⟩
    invalidTransitions := (strategyIds.filter fun strategy =>
      source strategy = .disabled ∧ (wanted strategy).1 ≠ .disabled).map fun strategy =>
        ⟨strategy, .disabled, (wanted strategy).1, "DISABLED_STATE_LOCK", now⟩ }

/-- `_seed_legacy_disabled_lifecycle`: the shadowed strategies are entered as disabled. -/
def seedLegacyDisabledLifecycle (now : ℤ) (registry : Registry) : Registry := fun strategy =>
  if strategy ∈ legacyShadowStrategyIds then
    some {
      strategy := strategy
      lifecycleState := .disabled
      lastTransitionAt := now
      lastTransitionReason := "LEGACY_SHADOW_ONLY_LOCK"
      transitionHistory := lastFifty (match registry strategy with
        | none => [⟨none, .disabled, "LEGACY_SHADOW_ONLY_BOOTSTRAP", now⟩]
        | some entry =>
          if entry.lifecycleState = .disabled then entry.transitionHistory
          else entry.transitionHistory ++
            [⟨some entry.lifecycleState, .disabled, "LEGACY_SHADOW_ONLY_LOCK", now⟩]) }
  else registry strategy

/-- What the enforcement counts: the accepted decisions of each throttled strategy, and totals. -/
structure Enforcement where
  acceptedByStrategy : String → ℕ
  disabledBlockedTotal : ℕ
  throttledModifiedTotal : ℕ
  throttledRejectedTotal : ℕ

def Enforcement.initial : Enforcement := ⟨fun _ => 0, 0, 0, 0⟩

def Decision.labelled (row : Decision) (registry : Registry) (throttles : Throttles) : Decision :=
  { row with
    lifecycleState := some (registry.state row.strategyKey)
    throttleLevel := some (throttles.throttle row.strategyKey).level }

def Decision.throttledBy (row : Decision) (throttle : Throttle) : Decision :=
  { row with
    confidence := some (roundTo 4
      (min (orNumber row.confidence 0) (orNumber throttle.confidenceClamp 1)))
    leverageDecision := { row.leverageDecision with
      positionSizeRatio := some (roundTo 4
        (min row.sizeRatio (orNumber throttle.maxPositionRatio 1))) } }

/-- `int(throttle.get("max_signals_per_cycle") or 8)`. -/
def Throttle.signalsPerCycle (throttle : Throttle) : ℤ :=
  if throttle.maxSignalsPerCycle.getD 0 = 0 then 8 else throttle.maxSignalsPerCycle.getD 0

/-- `enforce_strategy_lifecycle_on_decisions`, for one row. -/
def enforceRow (registry : Registry) (throttles : Throttles) (state : Enforcement)
    (row : Decision) : Decision × Enforcement :=
  let strategy := row.strategyKey
  let throttle := throttles.throttle strategy
  let labelled := row.labelled registry throttles
  if row.decision ≠ .allow then (labelled, state)
  else if registry.state strategy = .disabled then
    (labelled.rejectedBy "GOVERNANCE" "STRATEGY_DISABLED_HARD_BLOCK",
      { state with disabledBlockedTotal := state.disabledBlockedTotal + 1 })
  else if throttle.level = "NONE" then (labelled, state)
  else
    let accepted := state.acceptedByStrategy strategy + 1
    let counted := { state with
      acceptedByStrategy := Function.update state.acceptedByStrategy strategy accepted
      throttledModifiedTotal := state.throttledModifiedTotal + 1 }
    if throttle.signalsPerCycle < accepted then
      ((labelled.throttledBy throttle).rejectedBy "GOVERNANCE" "STRATEGY_THROTTLE_FREQUENCY",
        { counted with throttledRejectedTotal := state.throttledRejectedTotal + 1 })
    else (labelled.throttledBy throttle, counted)

def enforceStrategyLifecycleOnDecisions (registry : Registry) (throttles : Throttles)
    (decisions : List Decision) : List Decision × Enforcement :=
  Stateful.traverse (enforceRow registry throttles) Enforcement.initial decisions

/-- What one cycle keeps in the cache for the next one. -/
structure Saved where
  lifecycle : Registry
  throttles : Throttles

/-- What a cycle finds: the strategies that are active in it, their decisions and their health. -/
structure Cycle where
  now : ℤ
  strategyIds : List String
  decisions : List Decision
  healthRows : List HealthRow
  repeatedDecay : String → ℤ
  throttles : Throttles

structure Report where
  decisions : List Decision
  strategyLifecycleState : List Entry

/-- The part of `run_futures_strategy_paper_cycle` that reads and renews the registry. -/
def runCycle (saved : Saved) (cycle : Cycle) : Report × Saved :=
  let registry := seedLegacyDisabledLifecycle cycle.now saved.lifecycle
  let enforced := enforceStrategyLifecycleOnDecisions registry saved.throttles cycle.decisions
  let disabled := evaluateStrategyAutoDisable cycle.healthRows cycle.repeatedDecay registry
  let result := applyLifecycleTransitions cycle.now cycle.strategyIds registry cycle.throttles
    disabled.shouldDisable
  (⟨enforced.1, result.entries⟩, ⟨result.registry, cycle.throttles⟩)

def reports (saved : Saved) (cycles : List Cycle) : List Report :=
  (Stateful.traverse runCycle saved cycles).1

/-- A report that has a strategy as disabled wherever it speaks of it, and lets no decision of
it through. -/
def Report.Shuts (report : Report) (strategy : String) : Prop :=
  (∀ entry ∈ report.strategyLifecycleState,
      entry.strategy = strategy → entry.lifecycleState = .disabled) ∧
    ∀ row ∈ report.decisions, row.strategyKey = strategy →
      row.lifecycleState = some .disabled ∧ row.decision ≠ .allow

instance (report : Report) (strategy : String) : Decidable (report.Shuts strategy) :=
  inferInstanceAs (Decidable (_ ∧ _))

section Locked

variable {registry : Registry} {throttles : Throttles} {strategy : String} {now : ℤ}

theorem lockedState_disabled (wanted : LifecycleState × String) :
    (lockedState .disabled wanted).1 = .disabled := by
  unfold lockedState
  by_cases stays : wanted.1 = .disabled
  · rw [if_neg (fun moves => moves.2 stays)]
    exact stays
  · rw [if_pos ⟨rfl, stays⟩]

theorem Entry.moved_strategy {entry : Entry} {next : LifecycleState × String} :
    (entry.moved strategy next now).strategy = strategy := by
  unfold Entry.moved
  split <;> rfl

theorem Entry.moved_lifecycleState {entry : Entry} {next : LifecycleState × String} :
    (entry.moved strategy next now).lifecycleState = next.1 := by
  unfold Entry.moved
  split
  · rename_i same
    exact same.symm
  · rfl

theorem Registry.entry_of_disabled (disabled : registry.state strategy = .disabled) :
    ∃ entry, registry strategy = some entry ∧ entry.lifecycleState = .disabled := by
  unfold Registry.state at disabled
  cases found : registry strategy with
  | none =>
    rw [found] at disabled
    exact absurd disabled (by decide)
  | some entry =>
    rw [found] at disabled
    exact ⟨entry, rfl, disabled⟩

theorem seed_legacy (legacy : strategy ∈ legacyShadowStrategyIds) :
    (seedLegacyDisabledLifecycle now registry).state strategy = .disabled := by
  unfold Registry.state seedLegacyDisabledLifecycle
  simp only [legacy, if_true, Option.map_some, Option.getD_some]

theorem seed_other (other : strategy ∉ legacyShadowStrategyIds) :
    (seedLegacyDisabledLifecycle now registry) strategy = registry strategy := if_neg other

theorem seed_disabled (disabled : registry.state strategy = .disabled) :
    (seedLegacyDisabledLifecycle now registry).state strategy = .disabled := by
  by_cases legacy : strategy ∈ legacyShadowStrategyIds
  · exact seed_legacy legacy
  · unfold Registry.state at disabled ⊢
    rw [seed_other legacy]
    exact disabled

variable {strategyIds : List String} {shouldDisable : String → Bool}

theorem nextEntry_disabled (disabled : registry.state strategy = .disabled) :
    (nextEntry now registry throttles shouldDisable strategy).lifecycleState = .disabled := by
  obtain ⟨entry, found, isDisabled⟩ := Registry.entry_of_disabled disabled
  have current : (registry.current now strategy).lifecycleState = .disabled := by
    unfold Registry.current
    rw [found]
    exact isDisabled
  unfold nextEntry nextState
  rw [Entry.moved_lifecycleState, current]
  exact lockedState_disabled _

theorem transitions_entries (disabled : registry.state strategy = .disabled) {entry : Entry}
    (inside : entry ∈ (applyLifecycleTransitions now strategyIds registry throttles
      shouldDisable).entries) (named : entry.strategy = strategy) :
    entry.lifecycleState = .disabled := by
  obtain ⟨other, _, rfl⟩ := List.mem_map.mp inside
  have same : other = strategy := by
    rw [← named]
    exact Entry.moved_strategy.symm
  rw [same]
  exact nextEntry_disabled disabled

theorem transitions_present (present : strategy ∈ strategyIds) :
    (applyLifecycleTransitions now strategyIds registry throttles shouldDisable).registry strategy =
      some (nextEntry now registry throttles shouldDisable strategy) := if_pos present

theorem transitions_absent (absent : strategy ∉ strategyIds) :
    (applyLifecycleTransitions now strategyIds registry throttles shouldDisable).registry strategy =
      none := if_neg absent

variable {state : Enforcement} {row : Decision}

theorem enforceRow_strategyKey :
    (enforceRow registry throttles state row).1.strategyKey = row.strategyKey := by
  unfold enforceRow
  dsimp only
  split_ifs <;> rfl

theorem enforceRow_disabled (disabled : registry.state row.strategyKey = .disabled) :
    (enforceRow registry throttles state row).1.lifecycleState = some .disabled ∧
      (enforceRow registry throttles state row).1.decision ≠ .allow := by
  unfold enforceRow
  dsimp only
  by_cases allowed : row.decision = .allow
  · rw [if_neg (not_not_intro allowed), if_pos disabled]
    exact ⟨congrArg some disabled, by simp⟩
  · rw [if_pos allowed]
    exact ⟨congrArg some disabled, allowed⟩

end Locked

section DisabledStays

variable {saved : Saved} {cycle : Cycle} {strategy : String}

theorem shuts_of_seeded
    (seeded : (seedLegacyDisabledLifecycle cycle.now saved.lifecycle).state strategy = .disabled) :
    (runCycle saved cycle).1.Shuts strategy := by
  constructor
  · intro entry inside named
    exact transitions_entries seeded inside named
  · intro row inside named
    obtain ⟨before, decision, _, rfl⟩ := Stateful.mem_traverse inside
    rw [enforceRow_strategyKey] at named
    apply enforceRow_disabled
    rw [named]
    exact seeded

theorem runCycle_saves (disabled : saved.lifecycle.state strategy = .disabled)
    (present : strategy ∈ cycle.strategyIds) :
    (runCycle saved cycle).2.lifecycle.state strategy = .disabled := by
  have written : (runCycle saved cycle).2.lifecycle strategy = some _ :=
    transitions_present present
  unfold Registry.state
  rw [written]
  exact nextEntry_disabled (seed_disabled disabled)

/-- Once a strategy is disabled, every later cycle reports it as disabled and lets none of its
decisions through, as long as no cycle before takes place without it. -/
theorem disabled_strategy_stays_disabled {cycles : List Cycle}
    (disabled : saved.lifecycle.state strategy = .disabled)
    (present : ∀ cycle ∈ cycles.dropLast,
      strategy ∈ cycle.strategyIds ∨ strategy ∈ legacyShadowStrategyIds) :
    ∀ report ∈ reports saved cycles, report.Shuts strategy := by
  -- What a cycle has to find is that seeding leaves the strategy disabled.
  have shut : ∀ {saved : Saved},
      (saved.lifecycle.state strategy = .disabled ∨ strategy ∈ legacyShadowStrategyIds) →
      ∀ cycle, (runCycle saved cycle).1.Shuts strategy := by
    rintro saved (disabled | legacy) cycle
    · exact shuts_of_seeded (seed_disabled disabled)
    · exact shuts_of_seeded (seed_legacy legacy)
  have found := Or.inl (b := strategy ∈ legacyShadowStrategyIds) disabled
  clear disabled
  induction cycles generalizing saved with
  | nil => exact fun report inside => absurd inside List.not_mem_nil
  | cons cycle cycles ih =>
    intro report inside
    rcases List.mem_cons.mp inside with rfl | later
    · exact shut found cycle
    · cases cycles with
      | nil => exact absurd later List.not_mem_nil
      | cons next cycles =>
        have kept : strategy ∈ cycle.strategyIds ∨ strategy ∈ legacyShadowStrategyIds :=
          present cycle List.mem_cons_self
        apply ih _ _ report later
        · exact fun other inside => present other (List.mem_cons_of_mem _ inside)
        · rcases found with disabled | legacy
          · exact kept.imp_left (runCycle_saves disabled)
          · exact .inr legacy

/-- Absence is what makes the difference: the cycle after an absence can report the strategy as
active again. -/
theorem shut_after_iff (disabled : saved.lifecycle.state strategy = .disabled) :
    (∀ next, (runCycle (runCycle saved cycle).2 next).1.Shuts strategy) ↔
      strategy ∈ cycle.strategyIds ∨ strategy ∈ legacyShadowStrategyIds := by
  constructor
  · intro shut
    by_contra neither
    obtain ⟨absent, notLegacy⟩ := not_or.mp neither
    let next : Cycle := ⟨0, [strategy], [], [], fun _ => 0, fun _ => none⟩
    have forgotten : (runCycle saved cycle).2.lifecycle strategy = none :=
      transitions_absent absent
    have reported := (shut next).1 _ (List.mem_singleton_self _) Entry.moved_strategy
    have current : ((seedLegacyDisabledLifecycle 0 (runCycle saved cycle).2.lifecycle).current 0
        strategy).lifecycleState = .active := by
      unfold Registry.current
      rw [seed_other notLegacy, forgotten]
      rfl
    have unasked : ∀ registry, (evaluateStrategyAutoDisable [] (fun _ => 0) registry).shouldDisable
        strategy = false := fun registry => if_neg notLegacy
    have active : (nextEntry 0 (seedLegacyDisabledLifecycle 0 (runCycle saved cycle).2.lifecycle)
        (fun _ => none) (evaluateStrategyAutoDisable [] (fun _ => 0)
          (seedLegacyDisabledLifecycle 0 (runCycle saved cycle).2.lifecycle)).shouldDisable
        strategy).lifecycleState = .active := by
      unfold nextEntry
      rw [Entry.moved_lifecycleState, current, unasked]
      rfl
    rw [active] at reported
    exact LifecycleState.noConfusion reported
  · rintro (present | legacy) next
    · exact shuts_of_seeded (seed_disabled (runCycle_saves disabled present))
    · exact shuts_of_seeded (seed_legacy legacy)

def failingCycle : Cycle where
  now := 0
  strategyIds := ["breakout_v1"]
  decisions := []
  healthRows := [⟨some "breakout_v1", some 10, some 0, some "LIMIT_BREACH"⟩]
  repeatedDecay := fun _ => 0
  throttles := fun _ => none

def cycleWithout : Cycle :=
  { failingCycle with now := 1, strategyIds := ["trend_follow_v1"], healthRows := [] }

def allowedRow : Decision where
  symbol := "BTCUSDT"
  side := "LONG"
  strategy := some "breakout_v1"
  strategyId := some "breakout_v1"
  confidence := some (8 / 10)
  regime := some "TRENDING"
  leverageDecision := ⟨some 3, some 1⟩
  decision := .allow
  decisionLayer := none
  reasonCode := some "ALLOW"
  reasons := []
  lifecycleState := none
  throttleLevel := none

/-- A cycle in which the strategy is active and healthy, with an allowed decision. -/
def healthyCycle : Cycle :=
  { failingCycle with
    now := 2
    decisions := [allowedRow]
    healthRows := [⟨some "breakout_v1", some 80, some 0, none⟩] }

def nothingSaved : Saved := ⟨fun _ => none, fun _ => none⟩

theorem breakout_shut_after : (runCycle (runCycle (runCycle nothingSaved failingCycle).2
    failingCycle).2 cycleWithout).1.Shuts "breakout_v1" :=
  (shut_after_iff (by decide +kernel)).mpr (.inl (by decide)) _

theorem disabled_strategy_stays_disabled_present :
    (reports (runCycle nothingSaved failingCycle).2 [healthyCycle, healthyCycle]).length = 2 ∧
      ∀ report ∈ reports (runCycle nothingSaved failingCycle).2 [healthyCycle, healthyCycle],
        report.Shuts "breakout_v1" :=
  ⟨rfl, disabled_strategy_stays_disabled (by decide +kernel) (by decide +kernel)⟩

/-- After one cycle without it, a disabled strategy is back with its decision. -/
theorem disabled_strategy_returns :
    (runCycle nothingSaved failingCycle).2.lifecycle.state "breakout_v1" = .disabled ∧
      ¬∀ report ∈ reports (runCycle nothingSaved failingCycle).2 [cycleWithout,
        healthyCycle], report.Shuts "breakout_v1" := by
  decide +kernel

end DisabledStays

end Futures
