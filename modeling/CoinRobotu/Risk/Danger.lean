import CoinRobotu.Risk.Decisions

/-!
# The gate and the danger of the market

The preview reads the measures of the market from its payload. A depth of zero is the
worst there is, but the preview reads it as the best, and so it reads a liquidation
distance of zero as a distance of 999 per cent.
-/

namespace Risk

open Numeric

/-- What the payload of a preview and the ticker say about the market. -/
structure MarketInputs where
  snapshotAgeMs : Option ℚ
  spreadBps : Option ℚ
  slippagePct : Option ℚ
  executionLatencyMs : Option ℚ
  orderbookDepthScore : Option ℚ
  liquidationDistancePct : Option ℚ
deriving DecidableEq

namespace MarketInputs

def market (inputs : MarketInputs) : MarketQuality where
  snapshotAgeMs := inputs.snapshotAgeMs.getD 0
  spreadBps := inputs.spreadBps.getD 0
  executionLatencyMs := inputs.executionLatencyMs.getD 0
  slippagePct := inputs.slippagePct.getD 0
  orderbookDepthScore := orNumber inputs.orderbookDepthScore 1
  liquidationDistancePct := some (orNumber inputs.liquidationDistancePct 999)

/-- At least as bad in every measure; what is absent has its default. -/
structure AtLeastAsBad (worse inputs : MarketInputs) : Prop where
  age : inputs.snapshotAgeMs.getD 0 ≤ worse.snapshotAgeMs.getD 0
  spread : inputs.spreadBps.getD 0 ≤ worse.spreadBps.getD 0
  slippage : inputs.slippagePct.getD 0 ≤ worse.slippagePct.getD 0
  latency : inputs.executionLatencyMs.getD 0 ≤ worse.executionLatencyMs.getD 0
  depth : worse.orderbookDepthScore.getD 1 ≤ inputs.orderbookDepthScore.getD 1
  liquidation : worse.liquidationDistancePct.getD 999 ≤ inputs.liquidationDistancePct.getD 999

def readPenalty (inputs : MarketInputs) : ℚ :=
  clamp (inputs.executionLatencyMs.getD 0 / 3000) 0 3 * (12 / 100) +
    (1 - clamp (orNumber inputs.orderbookDepthScore 1) 0 1) * (10 / 100)

/-- Nothing is read as better. -/
structure ReadNoBetter (worse inputs : MarketInputs) : Prop where
  penalty : inputs.readPenalty ≤ worse.readPenalty
  liquidation : orNumber worse.liquidationDistancePct 999 ≤
    orNumber inputs.liquidationDistancePct 999

/-- The gate is at least as severe, and leaves no larger a notional, whatever the store,
the configuration and the rest of the request. -/
def GateMonotone (inputs worse : MarketInputs) : Prop :=
  ∀ (setting : RiskSetting) (request : RiskRequest) (cache : RiskCache) (now : ℤ),
    (evaluateRiskDecision setting request cache now inputs.market).riskDecision ≤
        (evaluateRiskDecision setting request cache now worse.market).riskDecision ∧
      (evaluateRiskDecision setting request cache now worse.market).adjustedNotionalUsdt ≤
        (evaluateRiskDecision setting request cache now inputs.market).adjustedNotionalUsdt

end MarketInputs

section Readings

variable {inputs worse : MarketInputs}

theorem fixedPenalty_market (trend : QualityTrend) (inputs : MarketInputs) :
    fixedPenalty (RiskSetting.qualityInputs trend inputs.market) = inputs.readPenalty := by
  have inside : clamp (1 - clamp (orNumber inputs.orderbookDepthScore 1) 0 1) 0 1 =
      1 - clamp (orNumber inputs.orderbookDepthScore 1) 0 1 := by
    have low := le_clamp (orNumber inputs.orderbookDepthScore 1) 0 1
    have high : clamp (orNumber inputs.orderbookDepthScore 1) 0 1 ≤ 1 := clamp_le zero_le_one
    have below : 1 - clamp (orNumber inputs.orderbookDepthScore 1) 0 1 ≤ 1 := by linarith
    have above : 0 ≤ 1 - clamp (orNumber inputs.orderbookDepthScore 1) 0 1 := by linarith
    calc clamp (1 - clamp (orNumber inputs.orderbookDepthScore 1) 0 1) 0 1
        = max 0 (1 - clamp (orNumber inputs.orderbookDepthScore 1) 0 1) :=
          congrArg (max 0) (min_eq_right below)
      _ = _ := max_eq_right above
  unfold fixedPenalty MarketInputs.readPenalty
  rw [← inside]
  rfl

theorem MarketInputs.ReadNoBetter.noBetter (read : worse.ReadNoBetter inputs)
    (bad : worse.AtLeastAsBad inputs) (trend : QualityTrend) :
    worse.market.NoBetter trend inputs.market where
  age := bad.age
  spread := bad.spread
  slippage := bad.slippage
  fixed := by
    rw [fixedPenalty_market, fixedPenalty_market]
    exact read.penalty
  liquidation distance inside := by
    cases inside
    exact ⟨_, rfl, read.liquidation⟩

end Readings

section Calm

def calmTables : RiskTables := ⟨fun _ => none, none, [], [], []⟩

/-- A configuration with thresholds of its own for the market, and the defaults. -/
def calmSettings (stale : ℤ) (spread slippage quality liquidation : ℚ) : RiskSettings :=
  { defaultRiskConfig with
    staleDataThresholdMs := stale
    spreadThresholdBps := spread
    maxSlippagePct := slippage
    executionQualityThreshold := quality
    minLiquidationDistancePct := liquidation }

def calmSetting (stale : ℤ) (spread slippage quality liquidation : ℚ) : RiskSetting :=
  ⟨calmTables, normalizedConfig (calmSettings stale spread slippage quality liquidation), false⟩

def calmRequest (marketType : String) : RiskRequest :=
  ⟨"user-1", "BTCUSDT", "LONG", marketType, 0, none, 1⟩

def calmCache (rate : ℚ) : RiskCache :=
  ⟨fun _ => none, some { QualityTrend.initial with partialFillRate := rate }⟩

variable (stale : ℤ) (spread slippage quality liquidation rate : ℚ)

theorem calm_decision {marketType : String} (known : marketType ∈ ["futures", "spot"])
    (market : MarketQuality) :
    decisionOf ((calmSetting stale spread slippage quality liquidation).findings
        (calmRequest marketType) (calmCache rate) 0 market) =
      decisionOf ((calmSetting stale spread slippage quality liquidation).marketFindings
        (calmRequest marketType) { QualityTrend.initial with partialFillRate := rate } market) := by
  have cooldowns : RiskSetting.cooldownFindings (calmRequest marketType)
      (calmCache rate).cooldowns 0 = [] := rfl
  have standing : (calmSetting stale spread slippage quality liquidation).standingFindings
      (calmRequest marketType) = (calmSetting 0 0 0 0 0).standingFindings
        (calmRequest marketType) := rfl
  have losses : (calmSetting stale spread slippage quality liquidation).lossFindings
      (calmRequest marketType) 0 = (calmSetting 0 0 0 0 0).lossFindings
        (calmRequest marketType) 0 := rfl
  have nothing : ∀ known ∈ ["futures", "spot"],
      (calmSetting 0 0 0 0 0).standingFindings (calmRequest known) = [] ∧
        (calmSetting 0 0 0 0 0).lossFindings (calmRequest known) 0 = [] := by
    decide +kernel
  rw [decisionOf_findings, cooldowns, standing, losses, (nothing _ known).1, (nothing _ known).2]
  exact (max_eq_left (RiskAction.allow_le _)).trans (max_eq_right (RiskAction.allow_le _))

/-- Thresholds that are far from what is measured. -/
structure Far (tolerance : ℚ) (thresholds : QualityThresholds) (inputs : QualityInputs) : Prop where
  stale : staleRatio thresholds inputs ≤ tolerance
  spread : spreadRatio thresholds inputs ≤ tolerance
  slippage : slippageRatio thresholds inputs ≤ tolerance

variable {tolerance : ℚ} {inputs worse : QualityInputs} {thresholds : QualityThresholds}

theorem fixedPenalty_le_weightedPenalty (thresholds : QualityThresholds) (inputs : QualityInputs) :
    fixedPenalty inputs ≤ weightedPenalty thresholds inputs := by
  have stale := le_clamp (staleRatio thresholds inputs) 0 3
  have spread := le_clamp (spreadRatio thresholds inputs) 0 3
  have slippage := le_clamp (slippageRatio thresholds inputs) 0 3
  have partialFills := le_clamp inputs.partialFillRate 0 1
  have rejects := le_clamp inputs.rejectRate 0 1
  unfold weightedPenalty
  linarith

theorem Far.penalty (far : Far tolerance thresholds inputs) (nonneg : 0 ≤ tolerance) :
    weightedPenalty thresholds inputs ≤ tolerance * (62 / 100) + fixedPenalty inputs +
      clamp inputs.partialFillRate 0 1 * (8 / 100) + clamp inputs.rejectRate 0 1 * (8 / 100) := by
  have near : ∀ ratio : ℚ, ratio ≤ tolerance → clamp ratio 0 3 ≤ tolerance := fun ratio le =>
    max_le nonneg ((min_le_right _ _).trans le)
  have first := near _ far.stale
  have second := near _ far.spread
  have third := near _ far.slippage
  unfold weightedPenalty
  linarith

theorem fixedPenalty_le (inputs : QualityInputs) : fixedPenalty inputs ≤ 46 / 100 := by
  have latency : clamp (inputs.executionLatencyMs / 3000) 0 3 ≤ 3 := clamp_le (by norm_num)
  have depth : clamp (1 - clamp inputs.orderbookDepthScore 0 1) 0 1 ≤ 1 := clamp_le zero_le_one
  unfold fixedPenalty
  linarith

theorem ratio_le {value threshold least : ℚ} (positive : 0 < tolerance) (leastPositive : 0 < least)
    (far : value / tolerance ≤ threshold) : value / max threshold least ≤ tolerance := by
  have bound : 0 < max threshold least := lt_of_lt_of_le leastPositive (le_max_right _ _)
  rw [div_le_iff₀ bound]
  calc value = tolerance * (value / tolerance) := by field_simp
    _ ≤ tolerance * max threshold least :=
      mul_le_mul_of_nonneg_left (far.trans (le_max_left _ _)) positive.le

theorem Far.score_ge (far : Far tolerance thresholds inputs) (nonneg : 0 ≤ tolerance)
    (small : tolerance ≤ 1) : 1 ≤ qualityScore thresholds inputs := by
  have penalty := far.penalty nonneg
  have fixed := fixedPenalty_le inputs
  have partialFills : clamp inputs.partialFillRate 0 1 ≤ 1 := clamp_le zero_le_one
  have rejects : clamp inputs.rejectRate 0 1 ≤ 1 := clamp_le zero_le_one
  have one : roundTo 4 1 = 1 := by decide +kernel
  calc (1 : ℚ) = roundTo 4 1 := one.symm
    _ ≤ qualityScore thresholds inputs := by
      apply roundTo_mono
      apply le_max_of_le_right
      linarith

def farSetting (tolerance quality liquidation : ℚ) (market : MarketQuality) : RiskSetting :=
  calmSetting ⌈market.snapshotAgeMs / tolerance⌉ (market.spreadBps / tolerance)
    (market.slippagePct / tolerance) quality liquidation

theorem farSetting_far {market : MarketQuality} (positive : 0 < tolerance)
    (quality liquidation : ℚ) (trend : QualityTrend) :
    Far tolerance (farSetting tolerance quality liquidation market).thresholds
      (RiskSetting.qualityInputs trend market) := by
  constructor
  · apply ratio_le positive zero_lt_one
    calc market.snapshotAgeMs / tolerance ≤ ⌈market.snapshotAgeMs / tolerance⌉ := Int.le_ceil _
      _ ≤ ((max 1000 ⌈market.snapshotAgeMs / tolerance⌉ : ℤ) : ℚ) := by
        exact_mod_cast le_max_right _ _
  · exact ratio_le positive (by norm_num) (le_max_right _ _)
  · exact ratio_le positive (by norm_num) (le_max_right _ _)

/-- With thresholds far away only the liquidation distance and the quality are judged. -/
theorem far_decision {market : MarketQuality} (positive : 0 < tolerance) (small : tolerance ≤ 1)
    {marketType : String} (known : marketType ∈ ["futures", "spot"])
    (quality liquidation rate : ℚ) :
    decisionOf ((farSetting tolerance quality liquidation market).findings
        (calmRequest marketType) (calmCache rate) 0 market) =
      max (decisionOf (check ((calmRequest marketType).isFutures ∧
          ∃ distance ∈ market.liquidationDistancePct, distance < max (1 / 10) liquidation) .block
            "liquidation_distance_too_low"))
        ((farSetting tolerance quality liquidation market).qualityAction
          { QualityTrend.initial with partialFillRate := rate } market) := by
  have far : Far tolerance (farSetting tolerance quality liquidation market).thresholds
      (RiskSetting.qualityInputs .initial market) :=
    farSetting_far positive quality liquidation .initial
  have stale : market.snapshotAgeMs ≤
      (farSetting tolerance quality liquidation market).config.staleDataThresholdMs := by
    have least : (1 : ℚ) ≤
        (farSetting tolerance quality liquidation market).config.staleDataThresholdMs := by
      have bound := (farSetting tolerance quality liquidation market).config.stale_ge
      exact_mod_cast (by omega : (1 : ℤ) ≤ _)
    have ratio := far.stale.trans small
    unfold staleRatio at ratio
    rw [div_le_one (by positivity)] at ratio
    exact ratio.trans_eq (max_eq_left least)
  have spread : market.spreadBps ≤
      (farSetting tolerance quality liquidation market).config.spreadThresholdBps := by
    have least := (farSetting tolerance quality liquidation market).config.spread_ge
    have ratio := far.spread.trans small
    unfold spreadRatio at ratio
    rw [div_le_one (by positivity)] at ratio
    exact ratio.trans_eq (max_eq_left least)
  have noFinding : ∀ (measure threshold : ℚ) (block pass : String), 0 ≤ threshold →
      measure ≤ threshold → RiskSetting.thresholdFindings measure threshold block pass = [] := by
    intro measure threshold block pass nonneg le
    unfold RiskSetting.thresholdFindings
    rw [if_neg (by linarith), if_neg (by linarith)]
  have staleNonneg : (0 : ℚ) ≤
      (farSetting tolerance quality liquidation market).config.staleDataThresholdMs := by
    have bound := (farSetting tolerance quality liquidation market).config.stale_ge
    exact_mod_cast (by omega : (0 : ℤ) ≤ _)
  have spreadNonneg : 0 ≤
      (farSetting tolerance quality liquidation market).config.spreadThresholdBps := by
    have bound := (farSetting tolerance quality liquidation market).config.spread_ge
    linarith
  have calm := calm_decision ⌈market.snapshotAgeMs / tolerance⌉ (market.spreadBps / tolerance)
    (market.slippagePct / tolerance) quality liquidation rate known market
  refine calm.trans ?_
  unfold RiskSetting.marketFindings
  have noStale := noFinding _ _ "stale_data_block" "stale_data_pass" staleNonneg stale
  have noSpread := noFinding _ _ "spread_block" "spread_pass" spreadNonneg spread
  unfold farSetting at noStale noSpread
  rw [noStale, noSpread, List.append_nil, List.append_nil, decisionOf_append,
    decisionOf_qualityFindings]
  rfl

end Calm

section Exact

variable {inputs worse : MarketInputs}

theorem orNumber_default {value other : Option ℚ} {default : ℚ} (positive : 0 < default)
    (le : value.getD default ≤ other.getD default)
    (more : orNumber other default < orNumber value default) :
    orNumber value default = default := by
  unfold orNumber at more ⊢
  cases value with
  | none => rfl
  | some given =>
    by_cases zero : given = 0
    · simp [zero]
    · cases other with
      | none =>
        simp only [Option.getD_some, Option.getD_none, zero, if_false, if_true] at le more
        exact absurd le (not_le.mpr more)
      | some present =>
        by_cases otherZero : present = 0
        · simp only [Option.getD_some, zero, otherZero, if_false, if_true] at le more
          exact absurd (more.trans_le le) (not_lt.mpr positive.le)
        · simp only [Option.getD_some, zero, otherZero, if_false] at le more
          exact absurd le (not_le.mpr more)

theorem MarketInputs.GateMonotone.liquidation (monotone : inputs.GateMonotone worse)
    (bad : worse.AtLeastAsBad inputs) :
    orNumber worse.liquidationDistancePct 999 ≤ orNumber inputs.liquidationDistancePct 999 := by
  by_contra notLe
  have more := not_le.mp notLe
  have isDefault := orNumber_default (by norm_num) bad.liquidation more
  let setting := farSetting (1 / 2) 1 999 worse.market
  have blocked : decisionOf (setting.findings (calmRequest "futures") (calmCache 0) 0
      inputs.market) = .block := by
    have near : orNumber inputs.liquidationDistancePct 999 <
        setting.config.minLiquidationDistancePct := by
      rw [isDefault] at more
      exact more.trans_le (le_max_right _ _)
    exact block_of_liquidation setting (calmRequest "futures") (calmCache 0) 0 (by decide +kernel)
      rfl near
  have far : Far (1 / 2) setting.thresholds (RiskSetting.qualityInputs
      { QualityTrend.initial with partialFillRate := 0 } worse.market) :=
    farSetting_far (by norm_num) 1 999 _
  have admitted : decisionOf (setting.findings (calmRequest "futures") (calmCache 0) 0
      worse.market) ≤ .reduceSize := by
    rw [far_decision (by norm_num) (by norm_num) (by simp), decisionOf_check, if_neg]
    · apply max_le (RiskAction.allow_le _)
      apply evaluateExecutionQuality_le_reduceSize
      · exact zero_le_one.trans (le_max_left _ _)
      · exact (max_self _).le.trans (far.score_ge (by norm_num) (by norm_num))
      · exact lt_of_le_of_lt far.stale (by norm_num)
      · exact lt_of_le_of_lt far.spread (by norm_num)
    · rw [decide_eq_true_eq]
      rintro ⟨_, distance, inside, near⟩
      cases inside
      rw [isDefault] at near
      norm_num at near
  have severe : decisionOf (setting.findings (calmRequest "futures") (calmCache 0) 0
        inputs.market) ≤
      decisionOf (setting.findings (calmRequest "futures") (calmCache 0) 0 worse.market) :=
    (monotone setting (calmRequest "futures") (calmCache 0) 0).1
  rw [blocked] at severe
  exact absurd (severe.trans admitted) (by decide)

theorem weightedPenalty_rate (thresholds : QualityThresholds) (market : MarketQuality) {rate : ℚ}
    (nonneg : 0 ≤ rate) (small : rate ≤ 1) :
    weightedPenalty thresholds (RiskSetting.qualityInputs
        { QualityTrend.initial with partialFillRate := rate } market) =
      weightedPenalty thresholds (RiskSetting.qualityInputs .initial market) +
        rate * (8 / 100) := by
  have inside : clamp rate 0 1 = rate := by
    unfold clamp
    rw [min_eq_right small, max_eq_right nonneg]
  have nothing : clamp 0 0 1 = 0 := rfl
  have fixed : fixedPenalty (RiskSetting.qualityInputs
      { QualityTrend.initial with partialFillRate := rate } market) =
        fixedPenalty (RiskSetting.qualityInputs .initial market) := rfl
  unfold weightedPenalty
  rw [fixed]
  simp only [RiskSetting.qualityInputs, QualityTrend.initial, inside, nothing, staleRatio,
    spreadRatio, slippageRatio]
  ring

theorem weightedPenalty_le (thresholds : QualityThresholds) (inputs : QualityInputs) :
    weightedPenalty thresholds inputs ≤ 248 / 100 := by
  have stale : clamp (staleRatio thresholds inputs) 0 3 ≤ 3 := clamp_le (by norm_num)
  have spread : clamp (spreadRatio thresholds inputs) 0 3 ≤ 3 := clamp_le (by norm_num)
  have slippage : clamp (slippageRatio thresholds inputs) 0 3 ≤ 3 := clamp_le (by norm_num)
  have fixed := fixedPenalty_le inputs
  have partialFills : clamp inputs.partialFillRate 0 1 ≤ 1 := clamp_le zero_le_one
  have rejects : clamp inputs.rejectRate 0 1 ≤ 1 := clamp_le zero_le_one
  unfold weightedPenalty
  linarith

theorem qualityScore_rate (thresholds : QualityThresholds) (market : MarketQuality) {rate : ℚ}
    (nonneg : 0 ≤ rate) (small : rate ≤ 1) :
    qualityScore thresholds (RiskSetting.qualityInputs
        { QualityTrend.initial with partialFillRate := rate } market) =
      roundTo 4 (100 - weightedPenalty thresholds
        (RiskSetting.qualityInputs .initial market) * 40 - rate * (32 / 10)) := by
  have bound := weightedPenalty_le thresholds (RiskSetting.qualityInputs
    { QualityTrend.initial with partialFillRate := rate } market)
  unfold qualityScore
  rw [max_eq_right (by linarith), weightedPenalty_rate thresholds market nonneg small]
  congr 1
  ring

/-- A gate that is monotone in every setting penalises the readings at least as much. -/
theorem MarketInputs.GateMonotone.penalty (monotone : inputs.GateMonotone worse) :
    inputs.readPenalty ≤ worse.readPenalty := by
  by_contra notLe
  have less := not_le.mp notLe
  -- The thresholds are so far that the readings decide which score is higher.
  let tolerance := (inputs.readPenalty - worse.readPenalty) / 2
  have isTolerance : tolerance = (inputs.readPenalty - worse.readPenalty) / 2 := rfl
  have positive : 0 < tolerance := by linarith
  have half : tolerance ≤ 1 / 2 := by
    have high := fixedPenalty_le (RiskSetting.qualityInputs .initial inputs.market)
    have low : 0 ≤ worse.readPenalty := by
      have latency := le_clamp (worse.executionLatencyMs.getD 0 / 3000) 0 3
      have depth : clamp (orNumber worse.orderbookDepthScore 1) 0 1 ≤ 1 := clamp_le zero_le_one
      unfold MarketInputs.readPenalty
      linarith
    rw [fixedPenalty_market] at high
    linarith
  have small : tolerance ≤ 1 := by linarith
  let thresholds := (farSetting tolerance 1 1 worse.market).thresholds
  have far : Far tolerance thresholds (RiskSetting.qualityInputs .initial worse.market) :=
    farSetting_far positive 1 1 .initial
  have penalties : weightedPenalty thresholds (RiskSetting.qualityInputs .initial worse.market) <
      weightedPenalty thresholds (RiskSetting.qualityInputs .initial inputs.market) := by
    have atMost := far.penalty positive.le
    have atLeast := fixedPenalty_le_weightedPenalty thresholds
      (RiskSetting.qualityInputs .initial inputs.market)
    have nothing : clamp 0 0 1 = 0 := rfl
    rw [fixedPenalty_market] at atMost atLeast
    simp only [RiskSetting.qualityInputs, QualityTrend.initial, nothing] at atMost atLeast ⊢
    linarith
  have scores : 100 - weightedPenalty thresholds
        (RiskSetting.qualityInputs .initial inputs.market) * 40 <
      100 - weightedPenalty thresholds (RiskSetting.qualityInputs .initial worse.market) * 40 := by
    linarith
  obtain ⟨shift, shiftNonneg, little, apart⟩ := exists_rounded_apart 4 scores
  let rate := shift / (32 / 10)
  have rateNonneg : 0 ≤ rate := div_nonneg shiftNonneg (by norm_num)
  have rateSmall : rate ≤ 1 := by
    rw [div_le_one (by norm_num)]
    linarith
  have isShift : rate * (32 / 10) = shift := div_mul_cancel₀ _ (by norm_num)
  let trend : QualityTrend := { QualityTrend.initial with partialFillRate := rate }
  let score := qualityScore thresholds (RiskSetting.qualityInputs trend worse.market)
  have lower : qualityScore thresholds (RiskSetting.qualityInputs trend inputs.market) < score := by
    simp only [score, trend]
    rw [qualityScore_rate thresholds _ rateNonneg rateSmall,
      qualityScore_rate thresholds _ rateNonneg rateSmall, isShift]
    exact apart
  let setting := farSetting tolerance score 1 worse.market
  have farRate : Far tolerance setting.thresholds (RiskSetting.qualityInputs trend worse.market) :=
    farSetting_far positive score 1 trend
  have scoreGe : 1 ≤ score := farRate.score_ge positive.le small
  have isThreshold : setting.thresholds.executionQualityThreshold = score := max_eq_right scoreGe
  have vetoed : .pass ≤ decisionOf (setting.findings (calmRequest "spot") (calmCache rate) 0
      inputs.market) := by
    apply le_trans _ (quality_le_decision setting (calmRequest "spot") (calmCache rate) 0
      inputs.market)
    apply pass_le_evaluateExecutionQuality
    rw [isThreshold]
    exact lower
  have admitted : decisionOf (setting.findings (calmRequest "spot") (calmCache rate) 0
      worse.market) ≤ .reduceSize := by
    have spot : (calmRequest "spot").isFutures = false := by decide +kernel
    have tiny : tolerance < 1 := by linarith
    rw [far_decision positive small (by simp), decisionOf_check, if_neg]
    · apply max_le (RiskAction.allow_le _)
      apply evaluateExecutionQuality_le_reduceSize
      · exact zero_le_one.trans (le_max_left _ _)
      · exact isThreshold.le
      · exact lt_of_le_of_lt farRate.stale tiny
      · exact lt_of_le_of_lt farRate.spread tiny
    · simp [spot]
  have severe : decisionOf (setting.findings (calmRequest "spot") (calmCache rate) 0
        inputs.market) ≤
      decisionOf (setting.findings (calmRequest "spot") (calmCache rate) 0 worse.market) :=
    (monotone setting (calmRequest "spot") (calmCache rate) 0).1
  exact absurd (vetoed.trans (severe.trans admitted)) (by decide)

/-- For two sets of inputs, the second at least as bad, the gate is monotone in every
setting exactly when nothing is read as better. -/
theorem preview_risk_gate_monotone_iff (bad : worse.AtLeastAsBad inputs) :
    inputs.GateMonotone worse ↔ worse.ReadNoBetter inputs := by
  constructor
  · intro monotone
    exact ⟨monotone.penalty, monotone.liquidation bad⟩
  · intro read setting request cache now
    exact (read.noBetter bad (cache.trend.getD .initial)).gate setting request cache now

/-- A fresh snapshot of a deep market, and one ten minutes old of a shallow one. -/
def freshInputs : MarketInputs := ⟨some 0, some 1, some 0, some 0, some (9 / 10), some 50⟩

def staleInputs : MarketInputs := ⟨some 600000, some 1, some 0, some 0, some (1 / 10), some 5⟩

theorem preview_risk_gate_monotone_iff_stale : freshInputs.GateMonotone staleInputs := by
  have bad : staleInputs.AtLeastAsBad freshInputs := by
    constructor <;> norm_num [staleInputs, freshInputs]
  apply (preview_risk_gate_monotone_iff bad).mpr
  constructor <;> decide +kernel

def defaultSetting : RiskSetting := ⟨calmTables, normalizedConfig defaultRiskConfig, false⟩

def futuresLong : RiskRequest := { calmRequest "futures" with proposedNotionalUsdt := 100 }

def shallowInputs : MarketInputs :=
  ⟨some 0, some 20, some (8 / 10), some 3000, some (1 / 10), some 5⟩

def emptyInputs : MarketInputs := ⟨some 0, some 20, some (8 / 10), some 3000, some 0, some 0⟩

/-- The shallow market at five per cent from liquidation is blocked; without depth, at
the liquidation price, the order is allowed in full. -/
theorem empty_market_is_admitted :
    emptyInputs.AtLeastAsBad shallowInputs ∧
      (evaluateRiskDecision defaultSetting futuresLong (calmCache 0) 0
        shallowInputs.market).riskDecision = .block ∧
      (evaluateRiskDecision defaultSetting futuresLong (calmCache 0) 0
        shallowInputs.market).adjustedNotionalUsdt = 0 ∧
      (evaluateRiskDecision defaultSetting futuresLong (calmCache 0) 0
        emptyInputs.market).riskDecision = .allow ∧
      (evaluateRiskDecision defaultSetting futuresLong (calmCache 0) 0
        emptyInputs.market).adjustedNotionalUsdt = 100 := by
  refine ⟨?_, by decide +kernel⟩
  constructor <;> norm_num [emptyInputs, shallowInputs]

end Exact

end Risk
