import CoinRobotu.Budget.Drawdown
import CoinRobotu.Futures.Decisions

/-!
# The capital guard

Each strategy has a capital budget. A row that would take the used capital of its strategy over
the budget is rejected; one that comes near it, or that the portfolio has little capital left
for, is reduced in size. What is booked on the strategy is the notional before the reduction,
rounded to four decimals, and nothing is booked on the portfolio.
-/

namespace Futures

open Numeric hiding orNumber
open Risk (orNumber)

structure CapitalRegistry where
  portfolioEquity : ℚ
  availableCapital : ℚ
  allocatedCapital : ℚ
  usedMargin : ℚ
  riskBudgetTotal : ℚ
  deriving DecidableEq

def buildPortfolioCapitalRegistry
    (portfolioEquity usedMargin allocatedCapital riskBudgetRatio : ℚ) :
    CapitalRegistry :=
  let equity := max portfolioEquity 0
  let used := max usedMargin 0
  let allocated := max allocatedCapital 0
  { portfolioEquity := roundTo 4 equity
    availableCapital := roundTo 4 (max (equity - used - allocated) 0)
    allocatedCapital := roundTo 4 allocated
    usedMargin := roundTo 4 used
    riskBudgetTotal := roundTo 4 (equity * max 0 (min riskBudgetRatio 1)) }

/-- A row of `strategy_capital_budget`; a field that is missing is zero. -/
structure BudgetRow where
  strategyId : String
  strategyCapitalBudget : ℚ
  strategyCapitalUsed : ℚ
  strategyCapitalAvailable : ℚ
  warningThreshold : ℚ
  deriving DecidableEq

/-- What the guard reads of the capital snapshot. -/
structure CapitalSnapshot where
  portfolioCapitalRegistry : CapitalRegistry
  strategyCapitalBudget : List BudgetRow
  clusterRiskState : String

structure CapitalEvent where
  strategyId : String
  budget : ℚ
  capitalUsed : ℚ
  projectedNotional : ℚ
  reason : List String
  deriving DecidableEq

structure CapitalGuard where
  action : GuardAction
  sizeMultiplier : ℚ
  reason : List String
  deriving DecidableEq

/-- The part of `evaluate_capital_order_guard` that is about the budget of the strategy. -/
def budgetGuard (projected : ℚ) (budgetRow : BudgetRow) : CapitalGuard :=
  if budgetRow.strategyCapitalBudget < budgetRow.strategyCapitalUsed + projected then
    ⟨.reject, 0, ["STRATEGY_BUDGET_LIMIT"]⟩
  else if budgetRow.warningThreshold < budgetRow.strategyCapitalUsed + projected then
    ⟨.reduceSize, 6 / 10, ["STRATEGY_BUDGET_WARNING"]⟩
  else ⟨.allow, 1, []⟩

def portfolioGuard (available projected : ℚ) (guard : CapitalGuard) : CapitalGuard :=
  if available < projected * (5 / 10) then
    { action := if guard.action ≠ .reject then .reduceSize else guard.action
      sizeMultiplier := min guard.sizeMultiplier (5 / 10)
      reason := guard.reason ++ ["PORTFOLIO_RISK_LIMIT"] }
  else guard

def clusterAlignment (clusterRiskState : String) (guard : CapitalGuard) : CapitalGuard :=
  if clusterRiskState = "ALERT" then
    if guard.action = .allow then
      ⟨.reduceSize, min guard.sizeMultiplier (7 / 10), guard.reason ++ ["CLUSTER_RISK_ALIGNMENT"]⟩
    else { guard with reason := guard.reason ++ ["CLUSTER_RISK_ALIGNMENT"] }
  else guard

def evaluateCapitalOrderGuard (projectedOrderNotional : ℚ) (budgetRow : BudgetRow)
    (registry : CapitalRegistry) (clusterRiskState : String) : CapitalGuard :=
  let projected := max projectedOrderNotional 0
  let guard := clusterAlignment clusterRiskState
    (portfolioGuard registry.availableCapital projected (budgetGuard projected budgetRow))
  { guard with sizeMultiplier := roundTo 4 guard.sizeMultiplier }

def capitalEvent (strategyId : String) (projectedOrderNotional : ℚ) (budgetRow : BudgetRow)
    (guard : CapitalGuard) : CapitalEvent :=
  ⟨strategyId, roundTo 4 budgetRow.strategyCapitalBudget, roundTo 4 budgetRow.strategyCapitalUsed,
    roundTo 4 (max projectedOrderNotional 0), guard.reason⟩

/-- `apply_position_size_policy`: the adjusted size ratio. -/
def applyPositionSizePolicy (available budget base riskWeight volatilityModifier
    clusterModifier : ℚ) : ℚ :=
  let capitalFactor := max (min (max available 0 / max budget 1) 1) 0
  let riskFactor := max (min (orNumber (some riskWeight) 1) 1) 0
  let volFactor := max (min (orNumber (some volatilityModifier) 1) 1) (2 / 10)
  let clusterFactor := max (min (orNumber (some clusterModifier) 1) 1) (2 / 10)
  let adjusted := max (min base 1) 0 * capitalFactor * riskFactor * volFactor * clusterFactor
  roundTo 4 (max (5 / 100) (min adjusted 1))

/-- What the guard carries from row to row. -/
structure CapitalState where
  budgetMap : String → Option BudgetRow
  orderEvents : List CapitalEvent

/-- `budget_map`: of two rows for one strategy the later one counts. -/
def CapitalSnapshot.initial (snapshot : CapitalSnapshot) : CapitalState where
  budgetMap strategy := snapshot.strategyCapitalBudget.reverse.find? (·.strategyId = strategy)
  orderEvents := []

/-- The budget row of a strategy, or the one that a strategy without a budget is given. -/
def CapitalState.budgetRow (state : CapitalState) (registry : CapitalRegistry)
    (strategy : String) : BudgetRow :=
  (state.budgetMap strategy).getD
    { strategyId := strategy
      strategyCapitalBudget := registry.riskBudgetTotal * (2 / 10)
      strategyCapitalUsed := 0
      strategyCapitalAvailable := registry.availableCapital
      warningThreshold := registry.riskBudgetTotal * (15 / 100) }

/-- The notional a row is booked with: `projected_order_notional`. -/
def CapitalRegistry.projectedNotional (registry : CapitalRegistry) (row : Decision) : ℚ :=
  orderNotional (orNumber (some registry.portfolioEquity) 10000) row.leverage row.sizeRatio

def BudgetRow.book (budgetRow : BudgetRow) (projected : ℚ) : BudgetRow :=
  let used := roundTo 4 (budgetRow.strategyCapitalUsed + projected)
  { budgetRow with
    strategyCapitalUsed := used
    strategyCapitalAvailable := roundTo 4 (max (budgetRow.strategyCapitalBudget - used) 0) }

/-- The size ratio before it is floored and rounded. -/
def adjustedRatio (budgetRow : BudgetRow) (guard : CapitalGuard) (clusterState : String)
    (row : Decision) : ℚ :=
  let policy := applyPositionSizePolicy budgetRow.strategyCapitalAvailable
    budgetRow.strategyCapitalBudget row.sizeRatio
    (if guard.action = .reduceSize then 7 / 10 else 1)
    (if Runtime.upper (Runtime.orElse row.regime "") = "HIGH_VOL" then 8 / 10 else 1)
    (if clusterState = "ALERT" then 8 / 10 else 1)
  let adjusted := min (orNumber (some policy) row.sizeRatio) row.sizeRatio
  if guard.action = .reduceSize then
    min adjusted (row.sizeRatio * orNumber (some guard.sizeMultiplier) 1)
  else adjusted

def Decision.resized (row : Decision) (adjusted : ℚ) : Decision :=
  let resized := row.withRatio (roundTo 4 (max (5 / 100) adjusted))
  if adjusted < row.sizeRatio then resized.withReason "CAPITAL_SIZE_REDUCED" else resized

/-- `apply_capital_order_guard_to_decisions`, for one row. -/
def capitalRow (snapshot : CapitalSnapshot) (state : CapitalState) (row : Decision) :
    Decision × CapitalState :=
  if row.decision ≠ .allow then (row, state)
  else
    let registry := snapshot.portfolioCapitalRegistry
    let strategy := row.strategyKey
    let budgetRow := state.budgetRow registry strategy
    let projected := registry.projectedNotional row
    let guard := evaluateCapitalOrderGuard projected budgetRow registry snapshot.clusterRiskState
    if guard.action = .reject then
      (row.rejectedBy "CAPITAL_RISK" "CAPITAL_TRADE_REJECTED",
        { state with
          orderEvents := state.orderEvents ++ [capitalEvent strategy projected budgetRow guard] })
    else
      (row.resized (adjustedRatio budgetRow guard snapshot.clusterRiskState row),
        { state with
          budgetMap := Function.update state.budgetMap strategy (some (budgetRow.book projected)) })

def applyCapitalOrderGuardToDecisions (snapshot : CapitalSnapshot) (decisions : List Decision) :
    List Decision × CapitalState :=
  Stateful.traverse (capitalRow snapshot) snapshot.initial decisions

section Laws

variable {projected available : ℚ} {budgetRow : BudgetRow} {registry : CapitalRegistry}
  {clusterState : String} {guard : CapitalGuard}

theorem portfolioGuard_reject :
    (portfolioGuard available projected guard).action = .reject ↔ guard.action = .reject := by
  unfold portfolioGuard
  split
  · by_cases rejected : guard.action = .reject <;> simp [rejected]
  · rfl

theorem clusterAlignment_reject :
    (clusterAlignment clusterState guard).action = .reject ↔ guard.action = .reject := by
  unfold clusterAlignment
  split
  · by_cases allowed : guard.action = .allow <;> simp [allowed]
  · rfl

theorem evaluate_reject :
    (evaluateCapitalOrderGuard projected budgetRow registry clusterState).action = .reject ↔
      budgetRow.strategyCapitalBudget < budgetRow.strategyCapitalUsed + max projected 0 := by
  unfold evaluateCapitalOrderGuard
  dsimp only
  rw [clusterAlignment_reject, portfolioGuard_reject]
  unfold budgetGuard
  split_ifs with exceeds warned
  · simp [exceeds]
  · simp [exceeds]
  · simp [exceeds]

theorem budgetGuard_within
    (within : ¬budgetRow.strategyCapitalBudget < budgetRow.strategyCapitalUsed + projected) :
    (budgetGuard projected budgetRow).action ≠ .reject ∧
      1 / 2 ≤ (budgetGuard projected budgetRow).sizeMultiplier := by
  unfold budgetGuard
  rw [if_neg within]
  split
  · exact ⟨by decide, by norm_num⟩
  · exact ⟨by decide, by norm_num⟩

theorem portfolioGuard_short (short : available < projected * (5 / 10))
    (passes : guard.action ≠ .reject) (large : 1 / 2 ≤ guard.sizeMultiplier) :
    (portfolioGuard available projected guard).action = .reduceSize ∧
      (portfolioGuard available projected guard).sizeMultiplier = 1 / 2 := by
  unfold portfolioGuard
  rw [if_pos short]
  constructor
  · exact if_pos passes
  · have half : (5 / 10 : ℚ) = 1 / 2 := by norm_num
    dsimp only
    rw [half]
    exact min_eq_right large

theorem clusterAlignment_reduced (reduced : guard.action = .reduceSize) :
    (clusterAlignment clusterState guard).action = .reduceSize ∧
      (clusterAlignment clusterState guard).sizeMultiplier = guard.sizeMultiplier := by
  have notAllowed : guard.action ≠ .allow := by rw [reduced]; decide
  unfold clusterAlignment
  rw [if_neg notAllowed]
  split
  · exact ⟨reduced, rfl⟩
  · exact ⟨reduced, rfl⟩

theorem evaluate_short
    (passes : (evaluateCapitalOrderGuard projected budgetRow registry clusterState).action ≠ .reject)
    (short : registry.availableCapital < max projected 0 * (5 / 10)) :
    (evaluateCapitalOrderGuard projected budgetRow registry clusterState).action = .reduceSize ∧
      (evaluateCapitalOrderGuard projected budgetRow registry clusterState).sizeMultiplier =
        1 / 2 := by
  obtain ⟨notRejected, large⟩ := budgetGuard_within (mt evaluate_reject.mpr passes)
  obtain ⟨reduced, halved⟩ := portfolioGuard_short short notRejected large
  obtain ⟨still, same⟩ := @clusterAlignment_reduced clusterState _ reduced
  have half : roundTo 4 (1 / 2) = 1 / 2 := HasDecimals.rounded ⟨5000, by norm_num⟩
  constructor
  · exact still
  · show roundTo 4 _ = 1 / 2
    rw [same, halved, half]

variable {snapshot : CapitalSnapshot} {state : CapitalState} {row : Decision} {adjusted : ℚ}

@[simp] theorem Decision.resized_decision : (row.resized adjusted).decision = row.decision := by
  unfold Decision.resized
  dsimp only
  split <;> rfl

@[simp] theorem Decision.resized_ratio :
    (row.resized adjusted).ratio = roundTo 4 (max (5 / 100) adjusted) := by
  unfold Decision.resized
  dsimp only
  split <;> rfl

/-- What the capital guard does with a row. -/
inductive CapitalPassed (snapshot : CapitalSnapshot) (state : CapitalState) (row : Decision) :
    Decision × CapitalState → Prop where
  | skipped (rejected : row.decision ≠ .allow) : CapitalPassed snapshot state row (row, state)
  | rejected {events : List CapitalEvent} :
      CapitalPassed snapshot state row
        (row.rejectedBy "CAPITAL_RISK" "CAPITAL_TRADE_REJECTED", ⟨state.budgetMap, events⟩)
  | through {budgetRow : BudgetRow} {guard : CapitalGuard} {projected : ℚ}
      (allowed : row.decision = .allow)
      (isRow : budgetRow = state.budgetRow snapshot.portfolioCapitalRegistry row.strategyKey)
      (isProjected : projected = snapshot.portfolioCapitalRegistry.projectedNotional row)
      (isGuard : guard = evaluateCapitalOrderGuard projected budgetRow
        snapshot.portfolioCapitalRegistry snapshot.clusterRiskState)
      (passes : guard.action ≠ .reject) :
      CapitalPassed snapshot state row
        (row.resized (adjustedRatio budgetRow guard snapshot.clusterRiskState row),
          ⟨Function.update state.budgetMap row.strategyKey (some (budgetRow.book projected)),
            state.orderEvents⟩)

theorem capitalRow_passed : CapitalPassed snapshot state row (capitalRow snapshot state row) := by
  unfold capitalRow
  by_cases allowed : row.decision = .allow
  · rw [if_neg (not_not_intro allowed)]
    dsimp only
    split
    · exact .rejected
    · rename_i passes
      exact .through allowed rfl rfl rfl passes
  · rw [if_pos allowed]
    exact .skipped allowed

def CapitalState.used (state : CapitalState) (registry : CapitalRegistry) (strategy : String) : ℚ :=
  (state.budgetRow registry strategy).strategyCapitalUsed

def CapitalSnapshot.budget (snapshot : CapitalSnapshot) (strategy : String) : ℚ :=
  (snapshot.initial.budgetRow snapshot.portfolioCapitalRegistry strategy).strategyCapitalBudget

/-- The charge of a row that is let through: its projected notional, on its strategy. -/
def CapitalSnapshot.charge? (snapshot : CapitalSnapshot) (row after : Decision) :
    Option (Budget.Charge String ℚ) :=
  if row.decision = .allow ∧ after.decision = .allow then
    some ⟨row.strategyKey, snapshot.portfolioCapitalRegistry.projectedNotional row⟩
  else none

def KeepsBudgets (snapshot : CapitalSnapshot) (state : CapitalState) : Prop :=
  ∀ strategy, (state.budgetRow snapshot.portfolioCapitalRegistry strategy).strategyCapitalBudget =
    snapshot.budget strategy

theorem budgetRow_update {registry : CapitalRegistry} {strategy other : String}
    {events : List CapitalEvent} :
    (CapitalState.mk (Function.update state.budgetMap strategy (some budgetRow)) events).budgetRow
        registry other =
      if other = strategy then budgetRow else state.budgetRow registry other := by
  unfold CapitalState.budgetRow
  dsimp only
  rw [Function.update_apply]
  split <;> rfl

theorem KeepsBudgets.step (keeps : KeepsBudgets snapshot state) :
    KeepsBudgets snapshot (capitalRow snapshot state row).2 := by
  have passed : CapitalPassed snapshot state row (capitalRow snapshot state row) :=
    capitalRow_passed
  intro strategy
  generalize capitalRow snapshot state row = outcome at passed ⊢
  cases passed with
  | skipped | rejected => exact keeps strategy
  | through allowed isRow =>
    rw [budgetRow_update]
    split
    · rename_i isStrategy
      rw [isRow, isStrategy]
      exact keeps row.strategyKey
    · exact keeps strategy

/-- A row charges its strategy within the budget, or nothing at all. -/
theorem capitalRow_admits (keeps : KeepsBudgets snapshot state) :
    Budget.Admits snapshot.budget (5 / 10 ^ 5) (state.used snapshot.portfolioCapitalRegistry)
      ((capitalRow snapshot state row).2.used snapshot.portfolioCapitalRegistry)
      (snapshot.charge? row (capitalRow snapshot state row).1) := by
  have passed : CapitalPassed snapshot state row (capitalRow snapshot state row) :=
    capitalRow_passed
  unfold CapitalSnapshot.charge?
  generalize capitalRow snapshot state row = outcome at passed ⊢
  cases passed with
  | skipped rejected =>
    rw [if_neg fun both => rejected both.1]
    exact rfl
  | rejected =>
    rw [if_neg fun both => by simp at both]
    exact rfl
  | @through budgetRow guard projected allowed isRow isProjected isGuard passes =>
    rw [if_pos ⟨allowed, by simp [allowed]⟩]
    have room : budgetRow.strategyCapitalUsed + max projected 0 ≤
        budgetRow.strategyCapitalBudget := by
      rw [isGuard] at passes
      exact not_lt.mp (mt evaluate_reject.mpr passes)
    have used : state.used snapshot.portfolioCapitalRegistry row.strategyKey =
        budgetRow.strategyCapitalUsed := by
      rw [isRow]
      rfl
    refine ⟨?_, ?_, ?_⟩
    · rw [used, ← isProjected, ← keeps row.strategyKey, ← isRow]
      have larger := le_max_left projected 0
      linarith
    · have booked : (CapitalState.mk (Function.update state.budgetMap row.strategyKey
          (some (budgetRow.book projected))) state.orderEvents).used
            snapshot.portfolioCapitalRegistry row.strategyKey =
          roundTo 4 (budgetRow.strategyCapitalUsed + projected) := by
        unfold CapitalState.used
        rw [budgetRow_update, if_pos rfl]
        rfl
      have near := abs_roundTo_sub_le 4 (budgetRow.strategyCapitalUsed + projected)
      dsimp only
      rw [booked, used, ← isProjected]
      apply near.trans
      norm_num
    · intro other different
      unfold CapitalState.used
      rw [budgetRow_update, if_neg different]

/-- A row that passes while the portfolio is short of half its notional keeps at most half its
size, or the smallest size there is. -/
def HalvedWhenShort (snapshot : CapitalSnapshot) (row after : Decision) : Prop :=
  row.decision = .allow → after.decision = .allow →
    snapshot.portfolioCapitalRegistry.availableCapital <
      max (snapshot.portfolioCapitalRegistry.projectedNotional row) 0 * (5 / 10) →
    after.ratio ≤ roundTo 4 (max (5 / 100) (row.sizeRatio / 2))

theorem capitalRow_halves :
    HalvedWhenShort snapshot row (capitalRow snapshot state row).1 := by
  have passed : CapitalPassed snapshot state row (capitalRow snapshot state row) :=
    capitalRow_passed
  intro allowed stays short
  generalize capitalRow snapshot state row = outcome at passed stays ⊢
  cases passed with
  | skipped rejected => exact absurd allowed rejected
  | rejected => simp at stays
  | @through budgetRow guard projected _ isRow isProjected isGuard passes =>
    rw [← isProjected] at short
    rw [isGuard] at passes
    obtain ⟨reduced, halved⟩ := evaluate_short passes short
    rw [← isGuard] at reduced halved
    rw [Decision.resized_ratio]
    apply roundTo_mono
    apply max_le_max_left
    unfold adjustedRatio
    dsimp only
    rw [if_pos reduced, halved]
    have multiplier : orNumber (some (1 / 2)) 1 = 1 / 2 := by norm_num [orNumber]
    calc min _ (row.sizeRatio * orNumber (some (1 / 2)) 1)
        ≤ row.sizeRatio * orNumber (some (1 / 2)) 1 := min_le_right _ _
      _ = row.sizeRatio / 2 := by rw [multiplier]; ring

/-- Over a whole cycle, the used capital of a strategy and the projected notionals that are let
through for it stay within its budget, up to the roundings of the bookings before the last one;
where nothing is let through, the used capital is what it was. -/
theorem capital_guard_draws_budgets_down (snapshot : CapitalSnapshot) (decisions : List Decision)
    (strategy : String) :
    let results := (applyCapitalOrderGuardToDecisions snapshot decisions).1
    let charges := Budget.chargesOf snapshot.charge? decisions results
    snapshot.initial.used snapshot.portfolioCapitalRegistry strategy +
          Budget.charged charges strategy ≤
        max (snapshot.initial.used snapshot.portfolioCapitalRegistry strategy)
          (snapshot.budget strategy +
            ((Budget.on charges strategy).length - 1 : ℕ) * (5 / 10 ^ 5)) ∧
      List.Forall₂ (HalvedWhenShort snapshot) decisions results := by
  have initial : KeepsBudgets snapshot snapshot.initial := fun strategy => rfl
  have drawn : Budget.Drawn snapshot.budget (5 / 10 ^ 5) _
      (Budget.chargesOf snapshot.charge? decisions _) _ :=
    Budget.drawn_traverse initial (fun keeps _ => keeps.step)
      (fun keeps _ => capitalRow_admits keeps)
  constructor
  · exact drawn.charged_le_max strategy
  · exact Stateful.traverse_related_always fun _ _ => capitalRow_halves

/-- Every strategy's used capital and what is let through for it stay within its budget. -/
def WithinBudgets (snapshot : CapitalSnapshot) (decisions : List Decision) : Prop :=
  ∀ strategy, snapshot.initial.used snapshot.portfolioCapitalRegistry strategy +
    Budget.charged (Budget.chargesOf snapshot.charge? decisions
      (applyCapitalOrderGuardToDecisions snapshot decisions).1) strategy ≤ snapshot.budget strategy

def reducedNotional (snapshot : CapitalSnapshot) (decisions : List Decision) : ℚ :=
  (((applyCapitalOrderGuardToDecisions snapshot decisions).1.filter (·.decision = .allow)).map
    snapshot.portfolioCapitalRegistry.projectedNotional).sum

def nearBudget : CapitalSnapshot where
  portfolioCapitalRegistry := buildPortfolioCapitalRegistry 10000 0 10000 (8 / 10)
  strategyCapitalBudget := [⟨"trend_follow_v1", 2000, 17047705 / 10000, 2952295 / 10000, 1500⟩]
  clusterRiskState := "NORMAL"

def overBudget : CapitalSnapshot :=
  { nearBudget with strategyCapitalBudget := [⟨"trend_follow_v1", 2000, 2001, 0, 1500⟩] }

def smallRow : Decision where
  symbol := "BTCUSDT"
  side := "LONG"
  strategy := some "trend_follow_v1"
  strategyId := some "trend_follow_v1"
  confidence := some (8 / 10)
  regime := some "TRENDING"
  leverageDecision := ⟨some (10001 / 10000), some (123 / 1000)⟩
  decision := .allow
  decisionLayer := none
  reasonCode := some "ALLOW"
  reasons := []
  lifecycleState := none
  throttleLevel := none

/-- Three bookings that are rounded down let a little more through than the budget, the portfolio
without available capital lets them all through, and a strategy can be over its budget from the
start. -/
theorem capital_guard_exceeds :
    ¬WithinBudgets nearBudget [smallRow, smallRow, smallRow] ∧
      ¬reducedNotional nearBudget [smallRow, smallRow, smallRow] ≤
        nearBudget.portfolioCapitalRegistry.availableCapital ∧
      ¬WithinBudgets overBudget [] := by
  have exceeded : ¬(nearBudget.initial.used nearBudget.portfolioCapitalRegistry "trend_follow_v1" +
      Budget.charged (Budget.chargesOf nearBudget.charge? [smallRow, smallRow, smallRow]
        (applyCapitalOrderGuardToDecisions nearBudget [smallRow, smallRow, smallRow]).1)
        "trend_follow_v1" ≤ nearBudget.budget "trend_follow_v1") := by
    decide +kernel
  have overdrawn : ¬(overBudget.initial.used overBudget.portfolioCapitalRegistry "trend_follow_v1" +
      Budget.charged (Budget.chargesOf overBudget.charge? []
        (applyCapitalOrderGuardToDecisions overBudget []).1) "trend_follow_v1" ≤
      overBudget.budget "trend_follow_v1") := by
    decide +kernel
  exact ⟨fun within => exceeded (within _), by decide +kernel, fun within => overdrawn (within _)⟩

end Laws

end Futures
