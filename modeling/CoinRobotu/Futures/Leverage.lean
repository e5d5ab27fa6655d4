import Mathlib.Tactic.GCongr
import Mathlib.Tactic.Linarith
import Mathlib.Tactic.SplitIfs
import CoinRobotu.Numeric.Limits
import CoinRobotu.Numeric.Rounding
import CoinRobotu.Runtime.Text

/-!
# The leverage engine

The leverage of a trade is a base leverage, scaled by five factors and cut to the range from 1 to
5; the size ratio is a product of two clamps. Every factor falls with the danger that it measures.
Only the size ratio that the market allows does not: an allowed ratio of zero counts as missing,
and a missing one as full size.
-/

namespace Leverage

open Numeric
open Runtime (orElse upper)

/-- The arguments of `LeverageEngine.evaluate` that enter a figure. -/
structure Request where
  side : Option String
  baseLeverage : ℚ
  confidence : ℚ
  microstructureRiskScore : ℚ
  /-- The `severity` of the execution suitability. -/
  severity : Option String
  maxAllowedSizeRatio : Option ℚ
  spreadState : Option String
  depthState : Option String
  distanceToLiquidation : ℚ
  biasDirection : Option String
  fundingPressureState : Option String
  portfolioLeverage : ℚ

def normalWord (word : Option String) (default : String) : String := upper (orElse word default)

/-- `ConfidenceScaler`. -/
def confidenceMultiplier (confidence : ℚ) : ℚ :=
  let value := max 0 (min 1 confidence)
  if value < 4 / 10 then 7 / 10 else if value ≤ 7 / 10 then 1 else 12 / 10

def stateMultiplier (word : String) : ℚ :=
  if word = "BLOCKED" then 2 / 10 else if word = "HIGH" then 55 / 100
  else if word = "MEDIUM" then 8 / 10 else 1

def spreadMultiplier (word : String) : ℚ :=
  if word = "SHOCK" then 5 / 10 else if word = "ELEVATED" then 8 / 10 else 1

def depthMultiplier (word : String) : ℚ :=
  if word = "CRITICAL" then 55 / 100 else if word = "WARNING" then 8 / 10 else 1

/-- The leverage multiplier and the size clamp of `LiquidationScaler`. -/
def liquidationScales (distance : ℚ) : ℚ × ℚ :=
  if distance < 8 then (45 / 100, 35 / 100) else if distance < 12 then (65 / 100, 6 / 10)
  else if distance < 18 then (85 / 100, 8 / 10) else (1, 1)

/-- `FundingScaler`. -/
def fundingFactor (side direction pressure : String) : ℚ :=
  let against := if side = "LONG" then "LONG_BIAS" else "SHORT_BIAS"
  let along := if side = "LONG" then "SHORT_BIAS" else "LONG_BIAS"
  if side = "LONG" ∨ side = "SHORT" then
    if direction = against ∧ pressure ∈ ["MEDIUM", "HIGH"] then
      if pressure = "MEDIUM" then 85 / 100 else 7 / 10
    else if direction = along then 108 / 100 else 1
  else 1

/-- `PortfolioLeverageGuard`. -/
def portfolioFactor (portfolioLeverage : ℚ) : ℚ :=
  if 5 / 2 ≤ portfolioLeverage then 55 / 100 else if 2 ≤ portfolioLeverage then 75 / 100 else 1

/-- `float(max_allowed_size_ratio or 1.0)`, cut to the range from 0 to 1. -/
def allowedSize (ratio : Option ℚ) : ℚ := max 0 (min (orNumber ratio 1) 1)

namespace Request

variable (request : Request)

def base : ℚ := max 1 (min 5 (orNumber (some request.baseLeverage) 1))

def severityWord : String := normalWord request.severity "LOW"

def spreadWord : String := normalWord request.spreadState "NORMAL"

def depthWord : String := normalWord request.depthState "NORMAL"

/-- The `liquidity_adjusted_leverage` of `MicrostructureScaler`. -/
def liquidityAdjusted : ℚ :=
  let riskScore := max 0 (min 1 request.microstructureRiskScore)
  roundTo 4 (max (2 / 10) (stateMultiplier request.severityWord *
    spreadMultiplier request.spreadWord * depthMultiplier request.depthWord *
    (1 - riskScore * (35 / 100))))

/-- Its `size_clamp_ratio`. -/
def sizeClamp : ℚ :=
  let allowed := allowedSize request.maxAllowedSizeRatio
  let shocked := if request.spreadWord = "SHOCK" then min allowed (35 / 100) else allowed
  roundTo 4 (if request.depthWord = "CRITICAL" then min shocked (4 / 10) else shocked)

def funding : ℚ :=
  fundingFactor (normalWord request.side "NONE") (normalWord request.biasDirection "NEUTRAL")
    (normalWord request.fundingPressureState "LOW")

def preliminary : ℚ :=
  request.base * confidenceMultiplier request.confidence * request.liquidityAdjusted *
    (liquidationScales request.distanceToLiquidation).1 * request.funding

def leverage : ℚ :=
  min (max 1 (request.preliminary * portfolioFactor request.portfolioLeverage)) 5

/-- The `final_leverage` of `LeverageEngine.evaluate`. -/
def finalLeverage : ℚ := roundTo 4 request.leverage

/-- Its `position_size_ratio`. -/
def positionSizeRatio : ℚ :=
  let ratio := min 1 (request.sizeClamp * (liquidationScales request.distanceToLiquidation).2)
  roundTo 4 (if request.leverage ≤ 12 / 10 then min ratio (65 / 100) else ratio)

end Request

def grade (worst : List String) (word : String) : ℕ :=
  worst.length - worst.findIdx (· = word)

/-- The second request is nowhere safer than the first, and differs in nothing else. -/
structure Riskier (safe risky : Request) : Prop where
  side : risky.side = safe.side
  base : risky.baseLeverage = safe.baseLeverage
  bias : risky.biasDirection = safe.biasDirection
  pressure : risky.fundingPressureState = safe.fundingPressureState
  confidence : risky.confidence ≤ safe.confidence
  distance : risky.distanceToLiquidation ≤ safe.distanceToLiquidation
  score : safe.microstructureRiskScore ≤ risky.microstructureRiskScore
  portfolio : safe.portfolioLeverage ≤ risky.portfolioLeverage
  severity : grade ["BLOCKED", "HIGH", "MEDIUM"] safe.severityWord ≤
    grade ["BLOCKED", "HIGH", "MEDIUM"] risky.severityWord
  spread : grade ["SHOCK", "ELEVATED"] safe.spreadWord ≤
    grade ["SHOCK", "ELEVATED"] risky.spreadWord
  depth : grade ["CRITICAL", "WARNING"] safe.depthWord ≤
    grade ["CRITICAL", "WARNING"] risky.depthWord
  size : ∀ ratio ∈ safe.maxAllowedSizeRatio, ∃ lower ∈ risky.maxAllowedSizeRatio, lower ≤ ratio

/-- A worse word is multiplied by less. -/
theorem stateMultiplier_anti {safe risky : String}
    (worse : grade ["BLOCKED", "HIGH", "MEDIUM"] safe ≤ grade ["BLOCKED", "HIGH", "MEDIUM"] risky) :
    stateMultiplier risky ≤ stateMultiplier safe := by
  simp only [grade, List.findIdx_cons, List.findIdx_nil, List.length_cons, List.length_nil] at worse
  unfold stateMultiplier
  grind

theorem spreadMultiplier_anti {safe risky : String}
    (worse : grade ["SHOCK", "ELEVATED"] safe ≤ grade ["SHOCK", "ELEVATED"] risky) :
    spreadMultiplier risky ≤ spreadMultiplier safe ∧ (safe = "SHOCK" → risky = "SHOCK") := by
  simp only [grade, List.findIdx_cons, List.findIdx_nil, List.length_cons, List.length_nil] at worse
  unfold spreadMultiplier
  grind

theorem depthMultiplier_anti {safe risky : String}
    (worse : grade ["CRITICAL", "WARNING"] safe ≤ grade ["CRITICAL", "WARNING"] risky) :
    depthMultiplier risky ≤ depthMultiplier safe ∧ (safe = "CRITICAL" → risky = "CRITICAL") := by
  simp only [grade, List.findIdx_cons, List.findIdx_nil, List.length_cons, List.length_nil] at worse
  unfold depthMultiplier
  grind

theorem multipliers_nonneg (word : String) :
    0 ≤ stateMultiplier word ∧ 0 ≤ spreadMultiplier word ∧ 0 ≤ depthMultiplier word := by
  unfold stateMultiplier spreadMultiplier depthMultiplier
  refine ⟨?_, ?_, ?_⟩ <;> split_ifs <;> norm_num

theorem confidenceMultiplier_mono {low high : ℚ} (le : low ≤ high) :
    0 ≤ confidenceMultiplier low ∧ confidenceMultiplier low ≤ confidenceMultiplier high := by
  have values : max 0 (min 1 low) ≤ max 0 (min 1 high) := by gcongr
  unfold confidenceMultiplier
  dsimp only
  split_ifs <;> constructor <;> linarith

theorem liquidationScales_mono {near far : ℚ} (le : near ≤ far) :
    0 ≤ (liquidationScales near).1 ∧ (liquidationScales near).1 ≤ (liquidationScales far).1 ∧
      0 ≤ (liquidationScales near).2 ∧ (liquidationScales near).2 ≤ (liquidationScales far).2 ∧
      (liquidationScales far).2 ≤ 1 := by
  unfold liquidationScales
  split_ifs <;> norm_num <;> linarith

theorem portfolioFactor_anti {low high : ℚ} (le : low ≤ high) :
    0 ≤ portfolioFactor high ∧ portfolioFactor high ≤ portfolioFactor low := by
  unfold portfolioFactor
  split_ifs <;> constructor <;> linarith

theorem fundingFactor_nonneg (side direction pressure : String) :
    0 ≤ fundingFactor side direction pressure := by
  unfold fundingFactor
  dsimp only
  split_ifs <;> norm_num

theorem roundTo_monotone : Monotone (roundTo 4) := fun _ _ => roundTo_mono 4

section Requests

variable {safe risky : Request} (riskier : Riskier safe risky)
include riskier

theorem liquidityAdjusted_anti : 0 ≤ risky.liquidityAdjusted ∧
    risky.liquidityAdjusted ≤ safe.liquidityAdjusted := by
  have score := riskier.score
  have states := stateMultiplier_anti riskier.severity
  have spreads := (spreadMultiplier_anti riskier.spread).1
  have depths := (depthMultiplier_anti riskier.depth).1
  obtain ⟨state_nonneg, -, -⟩ := multipliers_nonneg safe.severityWord
  obtain ⟨-, spread_nonneg, -⟩ := multipliers_nonneg risky.spreadWord
  obtain ⟨-, safe_spread_nonneg, -⟩ := multipliers_nonneg safe.spreadWord
  obtain ⟨-, -, depth_nonneg⟩ := multipliers_nonneg risky.depthWord
  obtain ⟨-, -, safe_depth_nonneg⟩ := multipliers_nonneg safe.depthWord
  have room : 0 ≤ 1 - max 0 (min 1 risky.microstructureRiskScore) * (35 / 100) := by
    have bounded : max 0 (min 1 risky.microstructureRiskScore) ≤ 1 :=
      max_le zero_le_one (min_le_left _ _)
    linarith
  refine ⟨roundTo_nonneg 4 (le_max_of_le_left (by norm_num)), roundTo_mono 4 ?_⟩
  gcongr

theorem preliminary_anti : 0 ≤ risky.preliminary ∧ risky.preliminary ≤ safe.preliminary := by
  have same_base : risky.base = safe.base := by rw [Request.base, riskier.base, Request.base]
  have same_funding : risky.funding = safe.funding := by
    rw [Request.funding, riskier.side, riskier.bias, riskier.pressure, Request.funding]
  obtain ⟨confidence_nonneg, confidence⟩ := confidenceMultiplier_mono riskier.confidence
  obtain ⟨liquidity_nonneg, liquidity⟩ := liquidityAdjusted_anti riskier
  obtain ⟨distance_nonneg, distance, -, -, -⟩ := liquidationScales_mono riskier.distance
  have base_nonneg : 0 ≤ safe.base := zero_le_one.trans (le_max_left _ _)
  have funding_nonneg : 0 ≤ safe.funding := fundingFactor_nonneg _ _ _
  rw [Request.preliminary, Request.preliminary, same_base, same_funding]
  have safe_confidence := confidence_nonneg.trans confidence
  have safe_liquidity := liquidity_nonneg.trans liquidity
  exact ⟨by positivity, by gcongr⟩

theorem leverage_anti : risky.leverage ≤ safe.leverage := by
  obtain ⟨nonneg, preliminary⟩ := preliminary_anti riskier
  obtain ⟨factor_nonneg, factor⟩ := portfolioFactor_anti riskier.portfolio
  have product : risky.preliminary * portfolioFactor risky.portfolioLeverage ≤
      safe.preliminary * portfolioFactor safe.portfolioLeverage :=
    mul_le_mul preliminary factor factor_nonneg (nonneg.trans preliminary)
  exact min_le_min_right _ (max_le_max_left _ product)

end Requests

section Sizes

variable {request safe risky : Request}

theorem sizeClamp_eq : request.sizeClamp =
    min (min (roundTo 4 (allowedSize request.maxAllowedSizeRatio))
        (roundTo 4 (if request.spreadWord = "SHOCK" then 35 / 100 else 1)))
      (roundTo 4 (if request.depthWord = "CRITICAL" then 4 / 10 else 1)) := by
  have allowed : allowedSize request.maxAllowedSizeRatio ≤ 1 :=
    max_le zero_le_one (min_le_right _ _)
  rw [← roundTo_monotone.map_min, ← roundTo_monotone.map_min, Request.sizeClamp]
  congr 1
  split_ifs <;> simp [allowed]

theorem sizeClamp_nonneg : 0 ≤ request.sizeClamp := by
  refine roundTo_nonneg 4 ?_
  have nonneg : 0 ≤ allowedSize request.maxAllowedSizeRatio := le_max_left _ _
  split_ifs <;> norm_num [nonneg]

theorem positionSizeRatio_anti (riskier : Riskier safe risky)
    (allowed : roundTo 4 (allowedSize risky.maxAllowedSizeRatio) ≤
      roundTo 4 (allowedSize safe.maxAllowedSizeRatio)) :
    risky.positionSizeRatio ≤ safe.positionSizeRatio := by
  have shocked := (spreadMultiplier_anti riskier.spread).2
  have critical := (depthMultiplier_anti riskier.depth).2
  have clamp : risky.sizeClamp ≤ safe.sizeClamp := by
    rw [sizeClamp_eq, sizeClamp_eq]
    refine min_le_min (min_le_min allowed (roundTo_mono 4 ?_)) (roundTo_mono 4 ?_)
    · split_ifs with worse calm calm <;> first | exact absurd (shocked calm) worse | norm_num
    · split_ifs with worse calm calm <;> first | exact absurd (critical calm) worse | norm_num
  obtain ⟨-, -, scale_nonneg, scale, -⟩ := liquidationScales_mono riskier.distance
  have product := mul_le_mul clamp scale scale_nonneg (@sizeClamp_nonneg safe)
  have levered := leverage_anti riskier
  refine roundTo_mono 4 ?_
  split_ifs with low high high
  · gcongr
  · exact (min_le_left _ _).trans (min_le_min_left _ product)
  · exact absurd (levered.trans high) low
  · exact min_le_min_left _ product

theorem leverage_bounds : 1 ≤ request.finalLeverage ∧ request.finalLeverage ≤ 5 ∧
    0 ≤ request.positionSizeRatio ∧ request.positionSizeRatio ≤ 1 := by
  have one : roundTo 4 1 = 1 := by decide +kernel
  have five : roundTo 4 5 = 5 := by decide +kernel
  have scale := liquidationScales_mono (le_refl request.distanceToLiquidation)
  have product := mul_nonneg (@sizeClamp_nonneg request) scale.2.2.1
  refine ⟨one ▸ roundTo_mono 4 ?_, five ▸ roundTo_mono 4 (min_le_right _ _), roundTo_nonneg 4 ?_,
    one ▸ roundTo_mono 4 ?_⟩
  · exact le_min (le_max_left _ _) (by norm_num)
  · split_ifs <;> norm_num [product]
  · split_ifs
    · exact (min_le_left _ _).trans (min_le_left _ _)
    · exact min_le_left _ _

theorem allowedSize_cases (ratio : Option ℚ) : allowedSize ratio = 1 ∨
    ∃ value, ratio = some value ∧ value ≠ 0 ∧ allowedSize ratio = max 0 (min value 1) := by
  have full : max (0 : ℚ) (min 1 1) = 1 := by norm_num
  cases ratio with
  | none => exact .inl full
  | some value =>
    by_cases zero : value = 0
    · exact .inl (by rw [zero]; exact full)
    · exact .inr ⟨value, rfl, zero, by rw [allowedSize, orNumber_of_ne zero]⟩

def calm (ratio : Option ℚ) : Request :=
  ⟨none, 5, 1, 0, none, ratio, none, none, 20, none, none, 0⟩

theorem positionSizeRatio_calm (ratio : Option ℚ) :
    (calm ratio).positionSizeRatio = roundTo 4 (allowedSize ratio) := by
  have words : (calm ratio).spreadWord ≠ "SHOCK" ∧ (calm ratio).depthWord ≠ "CRITICAL" := by
    change (calm none).spreadWord ≠ "SHOCK" ∧ (calm none).depthWord ≠ "CRITICAL"
    decide +kernel
  have levered : ¬(calm ratio).leverage ≤ 12 / 10 := by
    change ¬(calm none).leverage ≤ 12 / 10
    decide +kernel
  have scale : (liquidationScales (calm ratio).distanceToLiquidation).2 = 1 := by
    change (liquidationScales 20).2 = 1
    decide +kernel
  have clamp : (calm ratio).sizeClamp = roundTo 4 (allowedSize ratio) := by
    rw [Request.sizeClamp, if_neg words.2, if_neg words.1]
    rfl
  have bounded : roundTo 4 (allowedSize ratio) ≤ 1 := by
    have one : roundTo 4 1 = 1 := by decide +kernel
    exact one ▸ roundTo_mono 4 (max_le zero_le_one (min_le_right _ _))
  rw [Request.positionSizeRatio]
  simp only [if_neg levered, scale, clamp, mul_one, min_eq_right bounded]
  exact (hasDecimals_roundTo 4 _).rounded

theorem riskier_calm {ratio : ℚ} (nonneg : 0 ≤ ratio) :
    Riskier (calm (some ratio)) (calm (some 0)) := by
  constructor <;> first | rfl | exact le_rfl | skip
  exact fun other same => ⟨0, rfl, Option.some.inj same ▸ nonneg⟩

/-- A request that is nowhere safer gets no more leverage and no larger size, whatever else is
asked for, exactly if the allowed size is not lowered to zero from a positive ratio below one. -/
theorem leverage_falls_with_danger_iff (given lowered : Option ℚ) :
    (∀ request : Request, 1 ≤ request.finalLeverage ∧ request.finalLeverage ≤ 5 ∧
      0 ≤ request.positionSizeRatio ∧ request.positionSizeRatio ≤ 1) ∧
    ((∀ safe risky, Riskier safe risky → safe.maxAllowedSizeRatio = given →
        risky.maxAllowedSizeRatio = lowered → risky.finalLeverage ≤ safe.finalLeverage ∧
          risky.positionSizeRatio ≤ safe.positionSizeRatio) ↔
      (lowered = some 0 → ∀ ratio ∈ given, 0 < ratio → 1 ≤ roundTo 4 ratio)) := by
  have one : roundTo 4 1 = 1 := by decide +kernel
  refine ⟨fun request => leverage_bounds, fun falls => ?_, fun kept safe risky riskier asked less =>
    ⟨roundTo_mono 4 (leverage_anti riskier), positionSizeRatio_anti riskier ?_⟩⟩
  · rintro rfl ratio rfl positive
    have sizes := (falls _ _ (riskier_calm positive.le) rfl rfl).2
    have full : allowedSize (some 0) = 1 := by simp [allowedSize, orNumber]
    rw [positionSizeRatio_calm, positionSizeRatio_calm, full, one] at sizes
    refine sizes.trans (roundTo_mono 4 ?_)
    simp [allowedSize, orNumber, positive.ne', positive.le]
  · have sizes := riskier.size
    rw [asked, less] at sizes ⊢
    have bounded : ∀ ratio, allowedSize ratio ≤ 1 := fun _ => max_le zero_le_one (min_le_right _ _)
    rcases allowedSize_cases given with full | ⟨ratio, rfl, nonzero, size⟩
    · exact full ▸ roundTo_mono 4 (bounded lowered)
    · obtain ⟨lower, rfl, le⟩ := sizes ratio rfl
      by_cases zero : lower = 0
      · subst zero
        have enough := kept rfl ratio rfl (lt_of_le_of_ne le (Ne.symm nonzero))
        refine (roundTo_mono 4 (bounded _)).trans ?_
        rw [size, max_eq_right (le_min le zero_le_one), roundTo_monotone.map_min, one]
        exact le_min enough le_rfl
      · refine roundTo_mono 4 ?_
        rw [size, allowedSize, orNumber_of_ne zero]
        gcongr

/-- Half the size is allowed, then none: the size is doubled. -/
theorem no_allowed_size_is_full_size :
    Riskier (calm (some (1 / 2))) (calm (some 0)) ∧
      (calm (some (1 / 2))).positionSizeRatio = 1 / 2 ∧
      (calm (some 0)).positionSizeRatio = 1 := by
  refine ⟨riskier_calm (by norm_num), ?_, ?_⟩ <;> rw [positionSizeRatio_calm] <;> decide +kernel

end Sizes

end Leverage
