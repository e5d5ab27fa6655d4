import CoinRobotu.Preview.Sizing

/-!
# What each gate leaves and returns

Every gate returns at most what it was given, up to its rounding. The source continues
with `returned or previous`, so what it leaves is the last adjusted notional other than
0. A request that the risk engine vetoes stays refused until it is stored, because the
override for live signals passes over none of the engine's codes.
-/

namespace Preview

open Numeric hiding orNumber
open Risk (orNumber evaluatePortfolioRisk PortfolioRequest PortfolioItem PortfolioState
  PortfolioLimits RiskCluster RiskAction PortfolioResult RiskResult
  Finding RiskSetting)

def rounding : ℚ := 1 / 2 / 10 ^ 4

theorem hasDecimals_rounding : HasDecimals 6 rounding := ⟨50, by norm_num [rounding]⟩

theorem runMetaStrategyEngine_le (allocation : StrategyAllocation) {requested : ℚ}
    (nonneg : 0 ≤ requested) :
    ∃ kept, 0 ≤ kept ∧ kept ≤ requested ∧
      (runMetaStrategyEngine allocation requested).adjustedNotional = roundTo 4 kept := by
  unfold runMetaStrategyEngine
  rw [max_eq_left nonneg]
  refine ⟨_, le_max_right _ _, ?_, rfl⟩
  apply max_le _ nonneg
  split_ifs
  · exact nonneg
  · exact (min_le_left _ _).trans (by linarith)
  · exact (min_le_left _ _).trans (by linarith)
  · rename_i capped
    exact capped.1.le
  · exact nonneg
  · exact le_rfl

theorem positionAdjustment_eq (request : PortfolioRequest) (items : List PortfolioItem)
    (state : PortfolioState) (limits : PortfolioLimits) (clusters : List RiskCluster) :
    (evaluatePortfolioRisk request items state limits
        clusters).positionAdjustment.adjustedNotional =
      roundTo 4 (max request.notional 0 *
        if (evaluatePortfolioRisk request items state limits clusters).decision = .adjustPosition
        then 65 / 100 else 1) := by
  have byDecision :
      (evaluatePortfolioRisk request items state limits clusters).positionAdjustment =
        if (evaluatePortfolioRisk request items state limits clusters).decision = .adjustPosition
        then ⟨true, roundTo 4 (max request.notional 0),
          roundTo 4 (max request.notional 0 * (65 / 100)), 65 / 100⟩
        else ⟨false, roundTo 4 (max request.notional 0), roundTo 4 (max request.notional 0), 1⟩ :=
    rfl
  rw [byDecision]
  split
  · rfl
  · rw [mul_one]

theorem roundTo_mul_le {bound notional factor : ℚ} (has : HasDecimals 6 bound)
    (nonneg : 0 ≤ notional) (le : notional ≤ bound) (small : factor ≤ 1) :
    roundTo 6 (notional * factor) ≤ bound := by
  apply has.roundTo_le
  exact (mul_le_of_le_one_right nonneg small).trans le

/-- The last of some adjusted notionals that is not 0, or else the previous notional. -/
def lastReturned (previous : ℚ) (returned : List ℚ) : ℚ :=
  returned.foldl (fun last value => orNumber (some value) last) previous

theorem orNumber_zero (previous : ℚ) : orNumber (some 0) previous = previous := by
  simp [orNumber]

theorem orNumber_of_ne {value : ℚ} (nonzero : value ≠ 0) (previous : ℚ) :
    orNumber (some value) previous = value := by
  simp [orNumber, nonzero]

theorem orNumber_le {value previous bound : ℚ} (le : value ≤ bound)
    (previousLe : previous ≤ bound) : orNumber (some value) previous ≤ bound := by
  by_cases zero : value = 0
  · rw [zero, orNumber_zero]
    exact previousLe
  · rw [orNumber_of_ne zero]
    exact le

theorem orNumber_nonneg {value previous : ℚ} (nonneg : 0 ≤ value) (previousNonneg : 0 ≤ previous) :
    0 ≤ orNumber (some value) previous := by
  by_cases zero : value = 0
  · rw [zero, orNumber_zero]
    exact previousNonneg
  · rw [orNumber_of_ne zero]
    exact nonneg

namespace GatedRequest

variable (request : GatedRequest)

def portfolioAdjusts : Bool :=
  request.asksRisk ∧ request.portfolioResult.decision = .adjustPosition

def engineReduces : Bool := request.asksRisk ∧ request.engineResult.riskDecision = .reduceSize

/-- The adjusted notionals that the gates returned for the request to continue with. -/
def applied : List ℚ :=
  request.metaSummary.adjustedNotional ::
    ((if request.portfolioAdjusts then
        [request.portfolioResult.positionAdjustment.adjustedNotional] else []) ++
      if request.engineReduces then [request.engineResult.adjustedNotionalUsdt] else [])

def returned : List ℚ :=
  request.metaSummary.adjustedNotional ::
    if request.asksRisk then
      [request.portfolioResult.positionAdjustment.adjustedNotional,
        request.engineResult.adjustedNotionalUsdt]
    else []

/-- What the gates leave: nothing for a disabled strategy, and else the last adjusted
notional other than 0, or three quarters of it when the rebalance throttles. -/
def left : ℚ :=
  if request.metaSummary.decision = .disabled then 0
  else if request.fastMode = false ∧ request.state.throttles request.binding then
    roundTo 6 (lastReturned request.notional request.applied * (75 / 100))
  else lastReturned request.notional request.applied

end GatedRequest

namespace Sizing

variable (sizing : Sizing) (notional : ℚ) (reducesRisk : Bool)

theorem portfolioGate_adjusted (result : PortfolioResult) :
    (sizing.portfolioGate notional reducesRisk result).adjusted =
      if result.decision = .adjustPosition then
        orNumber (some result.positionAdjustment.adjustedNotional) sizing.adjusted
      else sizing.adjusted := by
  unfold portfolioGate
  cases result.decision with
  | allow | requireApproval | adjustPosition => rfl
  | reject =>
    cases reducesRisk with
    | true => rfl
    | false => rfl

theorem engineGate_adjusted (result : RiskResult) :
    (sizing.engineGate notional reducesRisk result).adjusted =
      if result.riskDecision = .reduceSize then
        orNumber (some result.adjustedNotionalUsdt) sizing.adjusted
      else sizing.adjusted := by
  unfold engineGate
  cases result.riskDecision with
  | allow | reduceSize => rfl
  | pass | block =>
    cases reducesRisk with
    | true => rfl
    | false => rfl

end Sizing

namespace GatedRequest

variable (request : GatedRequest)

theorem afterPortfolio_adjusted :
    request.afterPortfolio.adjusted =
      if request.portfolioAdjusts then
        orNumber (some request.portfolioResult.positionAdjustment.adjustedNotional)
          request.afterAllocation.adjusted
      else request.afterAllocation.adjusted := by
  unfold afterPortfolio portfolioAdjusts
  by_cases asked : request.asksRisk = true
  · simp only [asked, if_true, true_and, decide_eq_true_eq]
    exact Sizing.portfolioGate_adjusted _ _ _ _
  · simp only [asked, if_false, false_and, decide_false, Bool.false_eq_true]

theorem afterEngine_adjusted :
    request.afterEngine.adjusted =
      if request.engineReduces then
        orNumber (some request.engineResult.adjustedNotionalUsdt) request.afterPortfolio.adjusted
      else request.afterPortfolio.adjusted := by
  unfold afterEngine engineReduces
  by_cases asked : request.asksRisk = true
  · simp only [asked, if_true, true_and, decide_eq_true_eq]
    exact Sizing.engineGate_adjusted _ _ _ _
  · simp only [asked, if_false, false_and, decide_false, Bool.false_eq_true]

theorem afterConflict_sized : request.afterConflict.order = request.afterEngine.order ∧
    request.afterConflict.adjusted = request.afterEngine.adjusted := by
  unfold afterConflict
  cases request.state.venueBlock with
  | none =>
    dsimp only
    split <;> exact ⟨rfl, rfl⟩
  | some reasons =>
    dsimp only
    split <;> split <;> exact ⟨rfl, rfl⟩

theorem afterConflict_order : request.afterConflict.order = request.afterEngine.order :=
  request.afterConflict_sized.1

theorem afterConflict_adjusted : request.afterConflict.adjusted = request.afterEngine.adjusted :=
  request.afterConflict_sized.2

theorem sized_sized : request.sized.order = request.afterRebalance.order ∧
    request.sized.adjusted = request.afterRebalance.adjusted := by
  unfold sized
  cases request.state.pipelineBlock with
  | none | some =>
    dsimp only
    split <;> exact ⟨rfl, rfl⟩

theorem sized_order : request.sized.order = request.afterRebalance.order := request.sized_sized.1

theorem sized_adjusted :
    request.sized.adjusted =
      if request.throttled then roundTo 6 (request.afterEngine.adjusted * (75 / 100))
      else request.afterEngine.adjusted := by
  rw [request.sized_sized.2]
  unfold afterRebalance
  rw [← afterConflict_adjusted]
  split
  · rfl
  · rfl

/-- What is taken from the gates was returned by them. -/
theorem applied_subset {value : ℚ} (inside : value ∈ request.applied) :
    value ∈ request.returned := by
  unfold applied at inside
  unfold returned
  rcases List.mem_cons.mp inside with rfl | others
  · exact List.mem_cons_self
  · apply List.mem_cons_of_mem
    rcases List.mem_append.mp others with portfolio | engine
    · split at portfolio
      · rename_i adjusts
        rw [if_pos (of_decide_eq_true adjusts).1, List.mem_singleton.mp portfolio]
        exact List.mem_cons_self
      · cases portfolio
    · split at engine
      · rename_i reduces
        rw [if_pos (of_decide_eq_true reduces).1, List.mem_singleton.mp engine]
        exact List.mem_cons_of_mem _ List.mem_cons_self
      · cases engine

theorem portfolioReturned_eq :
    request.portfolioResult.positionAdjustment.adjustedNotional =
      roundTo 4 (max request.afterAllocation.adjusted 0 *
        if request.portfolioResult.decision = .adjustPosition then 65 / 100 else 1) :=
  positionAdjustment_eq _ _ _ _ _

theorem engineReturned_eq :
    ∃ factor, 0 ≤ factor ∧ factor ≤ 1 ∧ request.engineResult.adjustedNotionalUsdt =
      roundTo 6 (if request.engineResult.riskDecision.Vetoes then 0
        else if request.engineResult.riskDecision = .reduceSize then
          roundTo 6 (max request.afterPortfolio.adjusted 0 * factor)
        else max request.afterPortfolio.adjusted 0) := by
  let multiplier := request.state.risk.sizeMultiplier request.riskRequest
    (request.state.risk.qualityAction (request.state.cache.trend.getD .initial) request.market)
  refine ⟨max 0 (min 1 multiplier), le_max_left _ _, ?_, rfl⟩
  exact max_le zero_le_one (min_le_left _ _)

theorem portfolioReturned_nonneg :
    0 ≤ request.portfolioResult.positionAdjustment.adjustedNotional := by
  rw [portfolioReturned_eq]
  apply roundTo_nonneg
  apply mul_nonneg (le_max_right _ _)
  split <;> norm_num

theorem engineReturned_nonneg : 0 ≤ request.engineResult.adjustedNotionalUsdt := by
  obtain ⟨factor, nonneg, _, isReturned⟩ := request.engineReturned_eq
  rw [isReturned]
  apply roundTo_nonneg
  split
  · exact le_rfl
  · split
    · exact roundTo_nonneg 6 (mul_nonneg (le_max_right _ _) nonneg)
    · exact le_max_right _ _

variable {request}

theorem storedNotional_le_of_engine {bound : ℚ} (has : HasDecimals 6 bound)
    (nonneg : 0 ≤ request.afterEngine.adjusted) (le : request.afterEngine.adjusted ≤ bound) :
    request.storedNotional ≤ bound := by
  unfold storedNotional
  apply max_le _ (nonneg.trans le)
  rw [sized_adjusted]
  split
  · exact roundTo_mul_le has nonneg le (by norm_num)
  · exact le

theorem afterEngine_le {bound : ℚ} (has : HasDecimals 6 bound)
    (nonneg : 0 ≤ request.afterPortfolio.adjusted) (le : request.afterPortfolio.adjusted ≤ bound) :
    request.afterEngine.adjusted ≤ bound := by
  rw [afterEngine_adjusted]
  split
  · rename_i reduces
    apply orNumber_le _ le
    obtain ⟨factor, _, small, isReturned⟩ := request.engineReturned_eq
    have isReduced : request.engineResult.riskDecision = .reduceSize :=
      (of_decide_eq_true reduces).2
    rw [isReturned, isReduced, max_eq_left nonneg, if_neg (by decide), if_pos rfl]
    exact has.roundTo_le (roundTo_mul_le has nonneg le small)
  · exact le

end GatedRequest

/-- A property of orders that the gates preserve: rewriting the notional and scaling the size
are all that they do to an order. -/
structure Preserved (holds : NormalizedOrder → Prop) : Prop where
  withNotional : ∀ order value, holds order → holds (order.withNotional value)
  scaleSize : ∀ order ratio, holds order → holds (order.scaleSize ratio)

namespace Preserved

variable {holds : NormalizedOrder → Prop} (preserved : Preserved holds)

include preserved

variable {sizing : Sizing}

theorem resize (before : holds sizing.order)
    (notional adjusted ratio value : ℚ) :
    holds (sizing.resize notional adjusted ratio value).order := by
  have rewritten := preserved.withNotional sizing.order value before
  unfold Sizing.resize
  dsimp only
  split
  · exact preserved.scaleSize _ _ rewritten
  · exact rewritten

theorem portfolioGate (before : holds sizing.order) (notional : ℚ)
    (reducesRisk : Bool) (result : PortfolioResult) :
    holds (sizing.portfolioGate notional reducesRisk result).order := by
  unfold Sizing.portfolioGate
  cases result.decision with
  | allow | requireApproval => exact before
  | adjustPosition => exact preserved.resize before _ _ _ _
  | reject =>
    cases reducesRisk with
    | true => exact before
    | false => exact before

theorem engineGate (before : holds sizing.order) (notional : ℚ)
    (reducesRisk : Bool) (result : RiskResult) :
    holds (sizing.engineGate notional reducesRisk result).order := by
  unfold Sizing.engineGate
  cases result.riskDecision with
  | allow => exact before
  | reduceSize => exact preserved.resize before _ _ _ _
  | pass | block =>
    cases reducesRisk with
    | true => exact before
    | false => exact before

variable {request : GatedRequest}

variable (before : holds request.previewed.order)

include before

theorem allocation :
    holds request.afterAllocation.order := by
  have funded := fun value => preserved.withNotional request.previewed.order value before
  unfold GatedRequest.afterAllocation
  dsimp only
  split
  · apply preserved.withNotional
    cases request.state.walletFailure with
    | none | some => exact funded _
  · cases request.state.walletFailure with
    | none | some => exact funded _

theorem engine :
    holds request.afterEngine.order := by
  have portfolio : holds request.afterPortfolio.order := by
    unfold GatedRequest.afterPortfolio
    split
    · exact preserved.portfolioGate (preserved.allocation before) _ _ _
    · exact preserved.allocation before
  unfold GatedRequest.afterEngine
  split
  · exact preserved.engineGate portfolio _ _ _
  · exact portfolio

theorem sized :
    holds request.sized.order := by
  have conflict : holds request.afterConflict.order := by
    rw [request.afterConflict_order]
    exact preserved.engine before
  rw [request.sized_order]
  unfold GatedRequest.afterRebalance
  dsimp only
  split
  · exact preserved.resize conflict _ _ _ _
  · exact conflict

end Preserved

/-- An order that differs from another one in the notional and the size only. -/
def Resized (base order : NormalizedOrder) : Prop :=
  order = { base with positionSizeValue := order.positionSizeValue, size := order.size }

theorem resized_preserved (base : NormalizedOrder) : Preserved (Resized base) := by
  constructor
  · intro order value resized
    unfold NormalizedOrder.withNotional
    split
    · unfold Resized at resized ⊢
      rw [resized]
    · exact resized
  · intro order ratio resized
    unfold NormalizedOrder.scaleSize
    unfold Resized at resized ⊢
    rw [resized]

theorem unsized_preserved : Preserved fun order => order.size = none := by
  constructor
  · intro order value unsized
    unfold NormalizedOrder.withNotional
    split
    · exact unsized
    · exact unsized
  · intro order ratio unsized
    unfold NormalizedOrder.scaleSize
    dsimp only
    rw [unsized]
    rfl

theorem value_preserved (value : ℚ) : Preserved fun order =>
    order.positionSizeMode ≠ "fixed_notional" ∧ order.positionSizeValue = value := by
  constructor
  · intro order rewritten holds
    unfold NormalizedOrder.withNotional
    rw [if_neg holds.1]
    exact holds
  · intro order ratio holds
    exact holds

section Notional

def Sizing.Noted (sizing : Sizing) : Prop :=
  sizing.order.positionSizeMode = "fixed_notional" ∧
    sizing.order.positionSizeValue = roundTo 4 sizing.adjusted

variable {sizing : Sizing}

theorem Sizing.resize_value (fixed : sizing.order.positionSizeMode = "fixed_notional")
    (notional adjusted ratio value : ℚ) :
    (sizing.resize notional adjusted ratio value).order.positionSizeMode = "fixed_notional" ∧
      (sizing.resize notional adjusted ratio value).order.positionSizeValue = value := by
  unfold Sizing.resize NormalizedOrder.withNotional NormalizedOrder.scaleSize
  rw [if_pos fixed]
  dsimp only
  split
  · exact ⟨fixed, rfl⟩
  · exact ⟨fixed, rfl⟩

theorem Sizing.Noted.portfolioGate (noted : sizing.Noted) (notional : ℚ) (reducesRisk : Bool)
    (result : PortfolioResult) : (sizing.portfolioGate notional reducesRisk result).Noted := by
  unfold Sizing.portfolioGate
  cases result.decision with
  | allow | requireApproval => exact noted
  | adjustPosition => exact Sizing.resize_value noted.1 _ _ _ _
  | reject =>
    cases reducesRisk with
    | true => exact noted
    | false => exact noted

theorem Sizing.Noted.engineGate (noted : sizing.Noted) (notional : ℚ) (reducesRisk : Bool)
    (result : RiskResult) : (sizing.engineGate notional reducesRisk result).Noted := by
  unfold Sizing.engineGate
  cases result.riskDecision with
  | allow => exact noted
  | reduceSize => exact Sizing.resize_value noted.1 _ _ _ _
  | pass | block =>
    cases reducesRisk with
    | true => exact noted
    | false => exact noted

variable {request : GatedRequest}

variable (fixed : request.previewed.order.positionSizeMode = "fixed_notional")

include fixed

theorem GatedRequest.afterAllocation_noted :
    request.afterAllocation.Noted := by
  have rewritten : ∀ value, (request.previewed.order.withNotional value).positionSizeMode =
      "fixed_notional" ∧
        (request.previewed.order.withNotional value).positionSizeValue = value := by
    intro value
    unfold NormalizedOrder.withNotional
    rw [if_pos fixed]
    exact ⟨fixed, rfl⟩
  have nothing : ∀ order : NormalizedOrder, order.positionSizeMode = "fixed_notional" →
      (order.withNotional 0).positionSizeMode = "fixed_notional" ∧
        (order.withNotional 0).positionSizeValue = roundTo 4 0 := by
    intro order isFixed
    unfold NormalizedOrder.withNotional
    rw [if_pos isFixed, roundTo_zero]
    exact ⟨isFixed, rfl⟩
  unfold GatedRequest.afterAllocation
  dsimp only
  split
  · apply nothing
    cases request.state.walletFailure with
    | none | some => exact (rewritten _).1
  · cases request.state.walletFailure with
    | none | some => exact rewritten _

theorem GatedRequest.sized_value :
    request.sized.order.positionSizeValue =
      if request.throttled then roundTo 6 (request.afterEngine.adjusted * (75 / 100))
      else roundTo 4 request.afterEngine.adjusted := by
  have portfolio : request.afterPortfolio.Noted := by
    unfold GatedRequest.afterPortfolio
    split
    · exact (GatedRequest.afterAllocation_noted fixed).portfolioGate _ _ _
    · exact GatedRequest.afterAllocation_noted fixed
  have engine : request.afterEngine.Noted := by
    unfold GatedRequest.afterEngine
    split
    · exact portfolio.engineGate _ _ _
    · exact portfolio
  have conflict : request.afterConflict.order.positionSizeMode = "fixed_notional" ∧
      request.afterConflict.order.positionSizeValue = roundTo 4 request.afterEngine.adjusted := by
    rw [request.afterConflict_order]
    exact engine
  rw [request.sized_order]
  unfold GatedRequest.afterRebalance
  dsimp only
  split
  · rw [(Sizing.resize_value conflict.1 _ _ _ _).2, request.afterConflict_adjusted]
  · exact conflict.2

end Notional

/-- No finding has a code that the override for live signals passes over. -/
def Hard (findings : List Finding) : Prop :=
  ∀ finding ∈ findings, finding.code ∉ softOverrideCodes

theorem hard_append {findings others : List Finding} (left : Hard findings) (right : Hard others) :
    Hard (findings ++ others) := by
  intro finding inside
  rcases List.mem_append.mp inside with first | second
  · exact left finding first
  · exact right finding second

theorem hard_check (condition : Bool) (action : RiskAction) {code : String}
    (hard : code ∉ softOverrideCodes) : Hard (Risk.check condition action code) := by
  intro finding inside
  unfold Risk.check at inside
  split at inside
  · rw [List.mem_singleton.mp inside]
    exact hard
  · cases inside

theorem hard_threshold (measure threshold : ℚ) {block pass : String}
    (hardBlock : block ∉ softOverrideCodes) (hardPass : pass ∉ softOverrideCodes) :
    Hard (RiskSetting.thresholdFindings measure threshold block pass) := by
  intro finding inside
  unfold RiskSetting.thresholdFindings at inside
  split at inside
  · rw [List.mem_singleton.mp inside]
    exact hardBlock
  · split at inside
    · rw [List.mem_singleton.mp inside]
      exact hardPass
    · cases inside

theorem hard_quality (action : RiskAction) : Hard (RiskSetting.qualityFindings action) := by
  intro finding inside
  cases action with
  | allow => cases inside
  | reduceSize | pass | block =>
    rw [List.mem_singleton.mp inside]
    decide

theorem hard_findings (setting : RiskSetting) (request : Risk.RiskRequest) (cache : Risk.RiskCache)
    (now : ℤ) (market : Risk.MarketQuality) : Hard (setting.findings request cache now market) := by
  unfold RiskSetting.findings RiskSetting.cooldownFindings RiskSetting.standingFindings
    RiskSetting.marketFindings RiskSetting.lossFindings
  repeat' apply hard_append
  all_goals first
    | exact hard_check _ _ (by decide)
    | exact hard_threshold _ _ (by decide) (by decide)
    | exact hard_quality _

namespace Sizing

/-- A request that is refused for a reason that is not passed over. -/
structure Refused (sizing : Sizing) : Prop where
  invalid : sizing.valid = false
  hard : ∃ reason ∈ sizing.reasons, reason ∉ softOverrideCodes

variable {sizing : Sizing}

theorem Refused.reject (refused : sizing.Refused) (reasons : List String) :
    (sizing.reject reasons).Refused := by
  obtain ⟨reason, inside, hard⟩ := refused.hard
  exact ⟨rfl, reason, List.mem_append_left _ inside, hard⟩

theorem Refused.resize (refused : sizing.Refused) (notional adjusted ratio value : ℚ) :
    (sizing.resize notional adjusted ratio value).Refused :=
  ⟨refused.invalid, refused.hard⟩

end Sizing

namespace GatedRequest

variable {request : GatedRequest}

/-- What the engine refuses is stored as rejected. -/
theorem storedStatus_of_refused (refused : request.afterEngine.Refused) :
    request.storedStatus = "REJECTED" := by
  have conflict : request.afterConflict.Refused := by
    unfold afterConflict
    have venue : ∀ reasons, (if request.intentType = "OPEN_POSITION" ∧
        request.environment = "live" then
          request.afterEngine.reject ("venue_access_blocked" :: reasons)
        else request.afterEngine).Refused := by
      intro reasons
      split
      · exact refused.reject _
      · exact refused
    cases request.state.venueBlock with
    | none =>
      dsimp only
      split
      · exact refused.reject _
      · exact refused
    | some reasons =>
      dsimp only
      split
      · exact (venue reasons).reject _
      · exact venue reasons
  have rebalanced : request.afterRebalance.Refused := by
    unfold afterRebalance
    dsimp only
    split
    · exact conflict.resize _ _ _ _
    · exact conflict
  have kept : ¬∀ reason ∈ request.afterRebalance.reasons, reason ∈ softOverrideCodes := by
    intro soft
    obtain ⟨reason, inside, hard⟩ := rebalanced.hard
    exact hard (soft reason inside)
  have invalid : request.sized.valid = false := by
    unfold sized
    simp only [kept, and_false, if_false]
    cases request.state.pipelineBlock with
    | none => exact rebalanced.invalid
    | some reason => rfl
  unfold storedStatus
  rw [invalid]
  rfl

end GatedRequest

end Preview
