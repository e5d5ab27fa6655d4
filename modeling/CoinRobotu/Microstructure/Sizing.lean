import CoinRobotu.Microstructure.Assessment

/-!
# The size of an assessed order

The stages together take the least of the sizes that bound an order. The verdict blocks where one
of the stages does, but a stage of the market that blocks leaves its size as it is, a budget that
reduces brings back a size that the capacity has set to nothing, and the slices of an order without
size are those of the whole request.
-/

namespace Microstructure

open Numeric (roundTo roundTo_mono roundTo_nonneg roundTo_zero HasDecimals mul_roundTo_div_iff)

section Least

variable {K L : Type} [LinearOrder K] [LinearOrder L] {bounds : Set K} {least : K} {map : K → L}
  {limit : L}

theorem map_least_le_iff (mono : Monotone map) (isLeast : IsLeast bounds least) :
    map least ≤ limit ↔ ∃ bound ∈ bounds, map bound ≤ limit := by
  constructor
  · exact fun within => ⟨least, isLeast.1, within⟩
  · rintro ⟨bound, inside, within⟩
    exact (mono (isLeast.2 inside)).trans within

theorem lt_map_least_iff (mono : Monotone map) (isLeast : IsLeast bounds least) :
    limit < map least ↔ ∀ bound ∈ bounds, limit < map bound := by
  rw [← not_le, map_least_le_iff mono isLeast]
  push Not
  rfl

end Least

def reported (size : ℚ) : ℚ := roundTo 8 (max size 0)

theorem reported_mono : Monotone reported := fun _ _ le => roundTo_mono 8 (max_le_max_right 0 le)

theorem reported_nonneg (size : ℚ) : 0 ≤ reported size := roundTo_nonneg 8 (le_max_right size 0)

def verdict (market capacity budget : State) : State :=
  if market = .block ∨ capacity = .block ∨ budget = .block then .block
  else if capacity = .reduceSize ∨ budget = .reduceSize then .reduceSize
  else market

section Stages

variable {market : MarketAssessment} {capacity : CapacityAssessment} {budget : BudgetAssessment}
  {price : ℚ}

def capacityBounds (capacity : State) (marketSize capacitySize : ℚ) : List ℚ :=
  match capacity with
  | .block => [0]
  | .reduceSize => [marketSize, capacitySize]
  | _ => [marketSize]

/-- The sizes that bound an order: where one of them is nothing, the size that a reducing budget
pays for is the only one. -/
def sizeBounds (capacity budget : State) (marketSize capacitySize budgetSize : ℚ) : List ℚ :=
  match budget with
  | .block => [0]
  | .reduceSize =>
    if ∃ bound ∈ capacityBounds capacity marketSize capacitySize, bound ≤ 0 then [budgetSize]
    else budgetSize :: capacityBounds capacity marketSize capacitySize
  | _ => capacityBounds capacity marketSize capacitySize

theorem isLeast_singleton_list (size : ℚ) : IsLeast {bound | bound ∈ [size]} size := by
  simp [IsLeast, lowerBounds]

theorem isLeast_cons {bounds : List ℚ} {least : ℚ} (size : ℚ)
    (isLeast : IsLeast {bound | bound ∈ bounds} least) :
    IsLeast {bound | bound ∈ size :: bounds} (min least size) := by
  have same : {bound | bound ∈ size :: bounds} = insert size {bound | bound ∈ bounds} := by
    ext bound
    exact List.mem_cons
  rw [same, min_comm]
  exact isLeast.insert size

theorem isLeast_capacityBounds :
    IsLeast {bound | bound ∈
        capacityBounds capacity.state market.adjustedSize capacity.adjustedSize}
      (applyCapacity market capacity).2 := by
  unfold capacityBounds applyCapacity
  cases capacity.state with
  | block => exact isLeast_singleton_list 0
  | reduceSize =>
    rw [min_comm]
    exact isLeast_cons _ (isLeast_singleton_list capacity.adjustedSize)
  | allow | switchExecutionMode => exact isLeast_singleton_list _

theorem isLeast_sizeBounds {budgetSize : ℚ} (reduced : budget.state = .reduceSize →
      (if 0 < price then budget.allowedNotional / price else 0) = budgetSize) :
    IsLeast {bound | bound ∈ sizeBounds capacity.state budget.state market.adjustedSize
        capacity.adjustedSize budgetSize}
      (applyBudget price (applyCapacity market capacity) budget).2 := by
  have before : IsLeast {bound | bound ∈ capacityBounds capacity.state market.adjustedSize
      capacity.adjustedSize} (applyCapacity market capacity).2 := isLeast_capacityBounds
  unfold sizeBounds applyBudget
  cases isState : budget.state with
  | block => exact isLeast_singleton_list 0
  | reduceSize =>
    rw [← reduced isState]
    dsimp only
    by_cases nothing : ∃ bound ∈ capacityBounds capacity.state market.adjustedSize
        capacity.adjustedSize, bound ≤ 0
    · have none : (applyCapacity market capacity).2 ≤ 0 :=
        (map_least_le_iff monotone_id before).mpr nothing
      rw [if_pos nothing, if_neg (not_lt.mpr none)]
      exact isLeast_singleton_list _
    · have some : 0 < (applyCapacity market capacity).2 := by
        rw [← not_le]
        exact fun none => nothing ((map_least_le_iff monotone_id before).mp none)
      rw [if_neg nothing, if_pos some]
      exact isLeast_cons _ before
  | allow | switchExecutionMode => exact before

theorem applyBudget_state :
    (applyBudget price (applyCapacity market capacity) budget).1 =
      verdict market.state capacity.state budget.state := by
  unfold applyBudget applyCapacity verdict
  cases market.state <;> cases capacity.state <;> cases budget.state <;> rfl

end Stages

section Law

variable (squareRoot : ℚ → ℚ) (settings : Settings) (order : Order) (account : Account)
  (snapshot : Snapshot) (buffer : List Snapshot)

def requestImpact : ImpactModel :=
  impactAssessment squareRoot settings snapshot buffer (requestedNotional order snapshot)

def requestBudget : BudgetAssessment :=
  executionBudgetAssessment settings order account (requestedNotional order snapshot)
    (requestImpact squareRoot settings order snapshot buffer)

def marketSize : ℚ :=
  if (marketAssessment settings order snapshot).state = .reduceSize then
    roundTo 8 (requestedSize order * settings.depthReduceRatio)
  else requestedSize order

def capacitySize : ℚ :=
  reported (if 0 < requestedPrice order snapshot then
    capacityNotional settings order account snapshot / requestedPrice order snapshot else 0)

def remainingBudget : ℚ :=
  if order.bound then min (remainingSymbolBudget settings order account)
    (remainingStrategyBudget settings order account)
  else min (remainingSymbolBudget settings order account) (requestedNotional order snapshot)

def budgetSize : ℚ :=
  if 0 < requestedPrice order snapshot then
    reported (remainingBudget settings order account snapshot) / requestedPrice order snapshot
  else 0

def orderBounds : List ℚ :=
  sizeBounds (capacityAssessment settings order account snapshot).state
    (requestBudget squareRoot settings order account snapshot buffer).state
    (marketSize settings order snapshot) (capacitySize settings order account snapshot)
    (budgetSize settings order account snapshot)

def orderVerdict : State :=
  verdict (marketAssessment settings order snapshot).state
    (capacityAssessment settings order account snapshot).state
    (requestBudget squareRoot settings order account snapshot buffer).state

def orderSlices : ℕ :=
  sliceCount (requestImpact squareRoot settings order snapshot buffer)
    (marketRegime settings snapshot buffer) (liquidityStress squareRoot snapshot buffer)
    (orderVerdict squareRoot settings order account snapshot buffer)
    (requestBudget squareRoot settings order account snapshot buffer).state

/-- The notionals that an order may not exceed: what the capacity allows, the part of the visible
depth from which on it is too thin, and what remains of the budgets of the day. -/
def notionalLimits : List ℚ :=
  [capacityNotional settings order account snapshot,
    settings.blockDepthRatio * max (visibleDepthNotional order snapshot) (1 / 1000000),
    remainingSymbolBudget settings order account] ++
  if order.bound then [remainingStrategyBudget settings order account] else []

def SlicingPlan.notionals (plan : SlicingPlan) : List ℚ :=
  List.replicate plan.sliceCount plan.sliceNotional

/-- The state, the size and the slices of an assessment agree. -/
structure Agrees (result : Assessment) : Prop where
  blocked : result.state = .block → result.adjustedSize = 0
  sized : result.state ≠ .block → 0 < result.adjustedSize ∧
    result.adjustedSize ≤ requestedSize order ∧
    ∀ limit ∈ notionalLimits settings order account snapshot,
      result.adjustedSize * requestedPrice order snapshot ≤ limit
  sliced : result.slicingPlan.notionals.sum = result.adjustedNotional

/-- A refused order is nothing from the start, and so is a slice of the whole request. -/
def RefusedAsNothing : Prop :=
  (∃ bound ∈ orderBounds squareRoot settings order account snapshot buffer, reported bound = 0) ∧
    roundTo 8 (requestedNotional order snapshot /
      orderSlices squareRoot settings order account snapshot buffer) = 0

/-- Every size that bounds the order is something, each limit is kept by one of them as it is
reported, and the least one is worth a whole number of slices. -/
structure KeptByBounds : Prop where
  something : ∀ bound ∈ orderBounds squareRoot settings order account snapshot buffer,
    0 < reported bound
  request : ∃ bound ∈ orderBounds squareRoot settings order account snapshot buffer,
    reported bound ≤ requestedSize order
  limits : ∀ limit ∈ notionalLimits settings order account snapshot,
    ∃ bound ∈ orderBounds squareRoot settings order account snapshot buffer,
      reported bound * requestedPrice order snapshot ≤ limit
  slices : ∀ bound, IsLeast {bound | bound ∈
      orderBounds squareRoot settings order account snapshot buffer} bound →
    HasDecimals 8 (roundTo 8 (reported bound * requestedPrice order snapshot) /
      orderSlices squareRoot settings order account snapshot buffer)

end Law

section Agreement

variable {squareRoot : ℚ → ℚ} {settings : Settings} {order : Order} {account : Account}
  {snapshot : Snapshot} {buffer : List Snapshot}

theorem one_le_sliceCount {impact : ImpactModel} {regime : Regime} {stress : ℚ}
    {state budget : State} : 0 < sliceCount impact regime stress state budget :=
  lt_of_lt_of_le Nat.one_pos (le_max_left _ _)

theorem requestedPrice_nonneg : 0 ≤ requestedPrice order snapshot := le_max_right _ _

theorem sum_notionals (plan : SlicingPlan) :
    plan.notionals.sum = plan.sliceCount * plan.sliceNotional := by
  rw [SlicingPlan.notionals, List.sum_replicate, nsmul_eq_mul]

theorem marketAssessment_size :
    (marketAssessment settings order snapshot).adjustedSize =
      marketSize settings order snapshot := by
  unfold marketSize marketAssessment
  dsimp only
  split_ifs <;> first | rfl | contradiction

theorem budget_allowedNotional {requested : ℚ} {impact : ImpactModel}
    (isRequested : requested = requestedNotional order snapshot)
    (reduces : (executionBudgetAssessment settings order account requested impact).state =
      .reduceSize) :
    (executionBudgetAssessment settings order account requested impact).allowedNotional =
      reported (remainingBudget settings order account snapshot) := by
  subst isRequested
  unfold executionBudgetAssessment at reduces ⊢
  dsimp only at reduces ⊢
  split_ifs at reduces ⊢
  all_goals
    unfold remainingBudget
    split_ifs
    rfl

variable {result : Assessment} (isResult : result =
  buildOrderMicrostructureAssessment squareRoot settings order account snapshot buffer)

include isResult

theorem assessment_size :
    result.state = orderVerdict squareRoot settings order account snapshot buffer ∧
    ∃ least, IsLeast {bound | bound ∈
        orderBounds squareRoot settings order account snapshot buffer} least ∧
      result.adjustedSize = reported least := by
  subst isResult
  refine ⟨applyBudget_state, _, ?_, rfl⟩
  unfold orderBounds
  rw [← marketAssessment_size]
  apply isLeast_sizeBounds
  intro reduces
  rw [budgetSize, ← budget_allowedNotional rfl reduces]
  rfl

theorem assessment_slices :
    let adjusted := result.adjustedSize * requestedPrice order snapshot
    result.adjustedNotional = roundTo 8 adjusted ∧
    result.slicingPlan.notionals.sum =
      orderSlices squareRoot settings order account snapshot buffer *
        roundTo 8 ((if 0 < adjusted then adjusted else requestedNotional order snapshot) /
          orderSlices squareRoot settings order account snapshot buffer) := by
  have isState := (assessment_size isResult).1
  subst isResult
  refine ⟨rfl, ?_⟩
  have isCount : (buildOrderMicrostructureAssessment squareRoot settings order account snapshot
      buffer).slicingPlan.sliceCount =
        orderSlices squareRoot settings order account snapshot buffer := by
    unfold orderSlices
    rw [← isState]
    rfl
  have divisor : max (orderSlices squareRoot settings order account snapshot buffer) 1 =
      orderSlices squareRoot settings order account snapshot buffer :=
    max_eq_left one_le_sliceCount
  rw [sum_notionals, isCount, ← divisor, ← isCount]
  rfl

theorem agrees_of_block
    (blocks : orderVerdict squareRoot settings order account snapshot buffer = .block) :
    Agrees settings order account snapshot result ↔
      RefusedAsNothing squareRoot settings order account snapshot buffer := by
  obtain ⟨isState, least, isLeast, isSize⟩ := assessment_size isResult
  obtain ⟨isNotional, isSum⟩ := assessment_slices isResult
  have nonzero : (orderSlices squareRoot settings order account snapshot buffer : ℚ) ≠ 0 := by
    exact_mod_cast (one_le_sliceCount).ne'
  have ofNothing (none : result.adjustedSize = 0) :
      result.slicingPlan.notionals.sum = result.adjustedNotional ↔
        roundTo 8 (requestedNotional order snapshot /
          orderSlices squareRoot settings order account snapshot buffer) = 0 := by
    rw [isSum, isNotional, none, zero_mul, if_neg (lt_irrefl _), roundTo_zero]
    exact mul_eq_zero_iff_left nonzero
  constructor
  · intro agrees
    have none := agrees.blocked (isState.trans blocks)
    exact ⟨⟨least, isLeast.1, isSize.symm.trans none⟩, (ofNothing none).mp agrees.sliced⟩
  · rintro ⟨⟨bound, inside, isNothing⟩, sliceOfNothing⟩
    have none : result.adjustedSize = 0 := by
      rw [isSize]
      exact le_antisymm (isNothing ▸ reported_mono (isLeast.2 inside)) (reported_nonneg least)
    exact ⟨fun _ => none, fun other => absurd (isState.trans blocks) other,
      (ofNothing none).mpr sliceOfNothing⟩

/-- An order that is let through agrees with its verdict just when its bounds make it. -/
theorem agrees_of_not_block
    (passes : orderVerdict squareRoot settings order account snapshot buffer ≠ .block) :
    Agrees settings order account snapshot result ↔
      KeptByBounds squareRoot settings order account snapshot buffer := by
  obtain ⟨isState, least, isLeast, isSize⟩ := assessment_size isResult
  obtain ⟨isNotional, isSum⟩ := assessment_slices isResult
  have notBlock : result.state ≠ .block := isState ▸ passes
  have worth : Monotone fun size => reported size * requestedPrice order snapshot :=
    fun _ _ le => mul_le_mul_of_nonneg_right (reported_mono le) requestedPrice_nonneg
  have something : 0 < result.adjustedSize ↔
      ∀ bound ∈ orderBounds squareRoot settings order account snapshot buffer,
        0 < reported bound := by
    rw [isSize]
    exact lt_map_least_iff reported_mono isLeast
  have request : result.adjustedSize ≤ requestedSize order ↔
      ∃ bound ∈ orderBounds squareRoot settings order account snapshot buffer,
        reported bound ≤ requestedSize order := by
    rw [isSize]
    exact map_least_le_iff reported_mono isLeast
  have limited (limit : ℚ) : result.adjustedSize * requestedPrice order snapshot ≤ limit ↔
      ∃ bound ∈ orderBounds squareRoot settings order account snapshot buffer,
        reported bound * requestedPrice order snapshot ≤ limit := by
    rw [isSize]
    exact map_least_le_iff worth isLeast
  have slices (positive : 0 < result.adjustedSize) :
      result.slicingPlan.notionals.sum = result.adjustedNotional ↔
        HasDecimals 8 (roundTo 8 (reported least * requestedPrice order snapshot) /
          orderSlices squareRoot settings order account snapshot buffer) := by
    have working : (if 0 < result.adjustedSize * requestedPrice order snapshot
        then result.adjustedSize * requestedPrice order snapshot
        else requestedNotional order snapshot) =
          reported least * requestedPrice order snapshot := by
      rw [← isSize]
      split
      · rfl
      · next none =>
        -- Without a notional the price is zero, and so is the notional of the request.
        have free : requestedPrice order snapshot = 0 := by
          apply le_antisymm _ requestedPrice_nonneg
          exact not_lt.mp fun paid => none (mul_pos positive paid)
        rw [requestedNotional, free, zero_mul, mul_zero]
    rw [isSum, isNotional, working, isSize]
    exact mul_roundTo_div_iff _ one_le_sliceCount
  constructor
  · intro agrees
    obtain ⟨positive, withinRequest, withinLimits⟩ := agrees.sized notBlock
    refine ⟨something.mp positive, request.mp withinRequest,
      fun limit isLimit => (limited limit).mp (withinLimits limit isLimit), ?_⟩
    intro bound isBound
    rw [isBound.unique isLeast]
    exact (slices positive).mp agrees.sliced
  · intro kept
    have positive := something.mpr kept.something
    exact ⟨fun block => absurd block notBlock, fun _ => ⟨positive, request.mpr kept.request,
      fun limit isLimit => (limited limit).mpr (kept.limits limit isLimit)⟩,
      (slices positive).mpr (kept.slices least isLeast)⟩

omit isResult

end Agreement

end Microstructure
