import CoinRobotu.Risk.Engine

/-!
# What a decision is made of

The decision of an evaluation is the most severe action of its findings, so that of
several lists of findings is the most severe of theirs. What the market contributes
is monotone in each measure as the engine reads it, and a decision that is more
severe leaves no larger notional.
-/

namespace Risk

open Numeric

theorem foldl_merge (start : RiskAction) (actions : List RiskAction) :
    actions.foldl RiskAction.merge start =
      max start (actions.foldl RiskAction.merge .allow) := by
  induction actions generalizing start with
  | nil => exact (max_eq_left (RiskAction.allow_le start)).symm
  | cons action actions ih =>
    rw [List.foldl_cons, List.foldl_cons, ih (start.merge action),
      ih (RiskAction.allow.merge action), RiskAction.merge_eq_max,
      RiskAction.merge_eq_max, max_eq_right (RiskAction.allow_le action), max_assoc]

theorem decisionOf_append (findings others : List Finding) :
    decisionOf (findings ++ others) = max (decisionOf findings) (decisionOf others) := by
  unfold decisionOf
  rw [List.map_append, List.foldl_append, foldl_merge]

@[simp] theorem decisionOf_nil : decisionOf [] = .allow := rfl

@[simp] theorem decisionOf_single (action : RiskAction) (code : String) :
    decisionOf [⟨action, code⟩] = action := by
  cases action <;> rfl

theorem le_decisionOf {findings : List Finding} {finding : Finding} (inside : finding ∈ findings) :
    finding.action ≤ decisionOf findings := by
  obtain ⟨before, after, rfl⟩ := List.append_of_mem inside
  have single : finding :: after = [finding] ++ after := rfl
  rw [single, decisionOf_append, decisionOf_append, ← decisionOf_single finding.action finding.code]
  exact le_max_of_le_right (le_max_left _ _)

theorem exists_of_decisionOf {findings : List Finding} (asked : decisionOf findings ≠ .allow) :
    ∃ finding ∈ findings, finding.action = decisionOf findings := by
  induction findings with
  | nil => exact absurd rfl asked
  | cons finding findings ih =>
    have single : finding :: findings = [finding] ++ findings := rfl
    have split : decisionOf (finding :: findings) = max finding.action (decisionOf findings) := by
      rw [single, decisionOf_append]
      exact congrArg (max · _) (decisionOf_single finding.action finding.code)
    rcases le_total (decisionOf findings) finding.action with less | more
    · rw [split, max_eq_left less]
      exact ⟨finding, List.mem_cons_self, rfl⟩
    · rw [split, max_eq_right more] at asked ⊢
      obtain ⟨other, inside, same⟩ := ih asked
      exact ⟨other, List.mem_cons_of_mem _ inside, same⟩

theorem decisionOf_check (condition : Bool) (action : RiskAction) (code : String) :
    decisionOf (check condition action code) = if condition then action else .allow := by
  unfold check
  split
  · exact decisionOf_single action code
  · rfl

/-- A check whose condition is implied by another one's asks for no more. -/
theorem decisionOf_check_mono {condition other : Bool} (implies : condition = true → other = true)
    (action : RiskAction) (code : String) :
    decisionOf (check condition action code) ≤ decisionOf (check other action code) := by
  rw [decisionOf_check, decisionOf_check]
  by_cases holds : condition = true
  · rw [if_pos holds, if_pos (implies holds)]
  · rw [if_neg holds]
    exact RiskAction.allow_le _

theorem decisionOf_qualityFindings (action : RiskAction) :
    decisionOf (RiskSetting.qualityFindings action) = action := by
  cases action <;> rfl

theorem decisionOf_thresholdFindings_mono {measure worse : ℚ} (le : measure ≤ worse)
    (threshold : ℚ) (block pass : String) :
    decisionOf (RiskSetting.thresholdFindings measure threshold block pass) ≤
      decisionOf (RiskSetting.thresholdFindings worse threshold block pass) := by
  unfold RiskSetting.thresholdFindings
  by_cases severe : threshold * 2 < worse
  · rw [if_pos severe, decisionOf_single]
    exact RiskAction.le_block _
  · rw [if_neg severe, if_neg fun was => severe (lt_of_lt_of_le was le)]
    by_cases medium : threshold < worse
    · rw [if_pos medium, decisionOf_single]
      split
      · rw [decisionOf_single]
      · exact RiskAction.allow_le _
    · rw [if_neg medium, if_neg fun was => medium (lt_of_lt_of_le was le)]

section Market

variable (setting : RiskSetting) (request : RiskRequest) (trend : QualityTrend)

/-- A market that the engine reads as at least as bad: no measure is better, and the
order book and the latency together are penalised at least as much. -/
structure MarketQuality.NoBetter (worse market : MarketQuality) : Prop where
  age : market.snapshotAgeMs ≤ worse.snapshotAgeMs
  spread : market.spreadBps ≤ worse.spreadBps
  slippage : market.slippagePct ≤ worse.slippagePct
  fixed : fixedPenalty (RiskSetting.qualityInputs trend market) ≤
    fixedPenalty (RiskSetting.qualityInputs trend worse)
  liquidation : ∀ distance ∈ market.liquidationDistancePct,
    ∃ nearer ∈ worse.liquidationDistancePct, nearer ≤ distance

variable {trend} {market worse : MarketQuality}

theorem MarketQuality.NoBetter.quality (noBetter : worse.NoBetter trend market) :
    setting.qualityAction trend market ≤ setting.qualityAction trend worse :=
  evaluateExecutionQuality_worse noBetter.age noBetter.spread noBetter.slippage noBetter.fixed
    rfl rfl

theorem MarketQuality.NoBetter.decision (noBetter : worse.NoBetter trend market) :
    decisionOf (setting.marketFindings request trend market) ≤
      decisionOf (setting.marketFindings request trend worse) := by
  unfold RiskSetting.marketFindings
  rw [decisionOf_append, decisionOf_append, decisionOf_append, decisionOf_append,
    decisionOf_append, decisionOf_append, decisionOf_qualityFindings, decisionOf_qualityFindings]
  apply max_le_max
  · apply max_le_max
    · apply max_le_max
      · apply decisionOf_check_mono
        intro near
        rw [decide_eq_true_eq] at near ⊢
        obtain ⟨futures, distance, inside, below⟩ := near
        obtain ⟨nearer, isInside, le⟩ := noBetter.liquidation distance inside
        exact ⟨futures, nearer, isInside, lt_of_le_of_lt le below⟩
      · exact noBetter.quality setting
    · exact decisionOf_thresholdFindings_mono noBetter.age _ _ _
  · exact decisionOf_thresholdFindings_mono noBetter.spread _ _ _

end Market

section Notional

variable {proposed : ℚ} {decision other : RiskAction} {multiplier lower : ℚ}

theorem adjustedNotional_nonneg (decision : RiskAction) (multiplier proposed : ℚ) :
    0 ≤ adjustedNotional decision multiplier proposed := by
  unfold adjustedNotional
  split
  · exact le_rfl
  · split
    · have zero : roundTo 6 0 = 0 := by decide +kernel
      calc (0 : ℚ) = roundTo 6 0 := zero.symm
        _ ≤ _ := roundTo_mono 6 (mul_nonneg (le_max_right _ _) (le_max_left _ _))
    · exact le_max_right _ _

/-- A more severe decision, with no larger a multiplier where both reduce the size,
leaves no larger a notional. -/
theorem adjustedNotional_anti (severe : decision ≤ other)
    (reduces : decision = .reduceSize → other = .reduceSize → lower ≤ multiplier) :
    roundTo 6 (adjustedNotional other lower proposed) ≤
      roundTo 6 (adjustedNotional decision multiplier proposed) := by
  by_cases vetoed : other.Vetoes
  · have nothing : adjustedNotional other lower proposed = 0 := if_pos vetoed
    rw [nothing]
    exact roundTo_mono 6 (adjustedNotional_nonneg _ _ _)
  · have notVetoed : ¬decision.Vetoes := fun vetoes => vetoed (vetoes.trans severe)
    unfold adjustedNotional
    rw [if_neg vetoed, if_neg notVetoed]
    by_cases otherReduces : other = .reduceSize
    · rw [if_pos otherReduces, (hasDecimals_roundTo 6 _).rounded]
      by_cases thisReduces : decision = .reduceSize
      · rw [if_pos thisReduces, (hasDecimals_roundTo 6 _).rounded]
        apply roundTo_mono
        apply mul_le_mul_of_nonneg_left _ (le_max_right _ _)
        exact max_le_max le_rfl (min_le_min le_rfl (reduces thisReduces otherReduces))
      · rw [if_neg thisReduces]
        apply roundTo_mono
        apply mul_le_of_le_one_right (le_max_right _ _)
        exact max_le zero_le_one (min_le_left _ _)
    · have isAllow : other = .allow := by
        cases other with
        | allow => rfl
        | reduceSize => exact absurd rfl otherReduces
        | pass | block => exact absurd (by decide) vetoed
      have wasAllow : decision = .allow :=
        le_antisymm (isAllow ▸ severe) (RiskAction.allow_le decision)
      rw [if_neg otherReduces, if_neg (by rw [wasAllow]; decide)]

theorem sizeMultiplier_anti (setting : RiskSetting) (request : RiskRequest)
    (reduces : decision = .reduceSize → other = .reduceSize) :
    setting.sizeMultiplier request other ≤ setting.sizeMultiplier request decision := by
  unfold RiskSetting.sizeMultiplier
  dsimp only
  by_cases thisReduces : decision = .reduceSize
  · rw [if_pos thisReduces, if_pos (reduces thisReduces)]
  · rw [if_neg thisReduces]
    split
    · exact min_le_left _ _
    · exact le_rfl

end Notional

section Evaluations

variable (setting : RiskSetting) (request : RiskRequest) (cache : RiskCache) (now : ℤ)
  {market worse : MarketQuality}

/-- The decision is the most severe of the standing findings, the market's and those
of the losses and cooldowns. -/
theorem decisionOf_findings (market : MarketQuality) :
    decisionOf (setting.findings request cache now market) =
      max (max (max (decisionOf (RiskSetting.cooldownFindings request cache.cooldowns now))
          (decisionOf (setting.standingFindings request)))
        (decisionOf (setting.marketFindings request (cache.trend.getD .initial) market)))
        (decisionOf (setting.lossFindings request now)) := by
  unfold RiskSetting.findings
  rw [decisionOf_append, decisionOf_append, decisionOf_append]

theorem quality_le_decision (market : MarketQuality) :
    setting.qualityAction (cache.trend.getD .initial) market ≤
      decisionOf (setting.findings request cache now market) := by
  rw [decisionOf_findings]
  apply le_max_of_le_left
  apply le_max_of_le_right
  unfold RiskSetting.marketFindings
  rw [decisionOf_append, decisionOf_append, decisionOf_append, decisionOf_qualityFindings]
  exact le_max_of_le_left (le_max_of_le_left (le_max_right _ _))

theorem block_of_liquidation {market : MarketQuality} {distance : ℚ}
    (futures : request.isFutures = true) (known : market.liquidationDistancePct = some distance)
    (near : distance < setting.config.minLiquidationDistancePct) :
    decisionOf (setting.findings request cache now market) = .block := by
  have isChecked : decide (request.isFutures = true ∧ ∃ distance ∈ market.liquidationDistancePct,
      distance < setting.config.minLiquidationDistancePct) = true := by
    rw [decide_eq_true_eq]
    exact ⟨futures, distance, known, near⟩
  have inside : (⟨.block, "liquidation_distance_too_low"⟩ : Finding) ∈
      setting.findings request cache now market := by
    unfold RiskSetting.findings RiskSetting.marketFindings
    simp only [List.mem_append]
    refine .inl (.inr (.inl (.inl (.inl ?_))))
    unfold check
    rw [if_pos isChecked]
    exact List.mem_singleton_self _
  exact le_antisymm (RiskAction.le_block _) (le_decisionOf inside)

/-- The gate on a market that the engine reads as no better: the decision is at least
as severe, and the notional it leaves is not larger. -/
theorem MarketQuality.NoBetter.gate (noBetter : worse.NoBetter (cache.trend.getD .initial) market) :
    (evaluateRiskDecision setting request cache now market).riskDecision ≤
        (evaluateRiskDecision setting request cache now worse).riskDecision ∧
      (evaluateRiskDecision setting request cache now worse).adjustedNotionalUsdt ≤
        (evaluateRiskDecision setting request cache now market).adjustedNotionalUsdt := by
  have severe : decisionOf (setting.findings request cache now market) ≤
      decisionOf (setting.findings request cache now worse) := by
    rw [decisionOf_findings, decisionOf_findings]
    exact max_le_max (max_le_max le_rfl (noBetter.decision setting request)) le_rfl
  refine ⟨severe, adjustedNotional_anti severe fun _ isReduce => ?_⟩
  apply sizeMultiplier_anti
  intro wasReduce
  -- The worse recommendation is between the one that reduces and the decision that reduces.
  have atLeast := noBetter.quality setting
  have atMost := quality_le_decision setting request cache now worse
  rw [wasReduce] at atLeast
  rw [isReduce] at atMost
  exact le_antisymm atMost atLeast

end Evaluations

section Size

variable (setting : RiskSetting) (request : RiskRequest)

/-- What one trade may be worth. -/
def RiskSetting.tradeCap : ℚ := setting.config.maxRiskPerTradePct / 100 * setting.wallet request

theorem RiskSetting.wallet_pos : 0 < setting.wallet request := lt_max_of_lt_right (by norm_num)

theorem RiskSetting.tradeTooLarge_iff : setting.tradeTooLarge request = true ↔
    setting.tradeCap request < max request.proposedNotionalUsdt 0 := by
  have positive : 0 < setting.config.maxRiskPerTradePct :=
    lt_of_lt_of_le (by norm_num) setting.config.risk_ge
  have wallet := setting.wallet_pos request
  unfold RiskSetting.tradeTooLarge RiskSetting.tradeRiskPct RiskSetting.tradeCap
  rw [decide_eq_true_eq, and_iff_left positive, div_mul_eq_mul_div, lt_div_iff₀ wallet]
  constructor <;> intro more <;> linarith

theorem not_tradeTooLarge_of_allow {cache : RiskCache} {now : ℤ} {market : MarketQuality}
    (allowed : decisionOf (setting.findings request cache now market) = .allow) :
    ¬setting.tradeTooLarge request = true := by
  intro large
  have inside : (⟨.reduceSize, "trade_size_reduced_by_max_risk_per_trade_pct"⟩ : Finding) ∈
      setting.findings request cache now market := by
    unfold RiskSetting.findings RiskSetting.standingFindings
    simp [check, large]
  have asked := le_decisionOf inside
  rw [allowed] at asked
  exact absurd asked (by decide)

theorem RiskSetting.sizeMultiplier_le_trade (large : setting.tradeTooLarge request = true)
    (quality : RiskAction) :
    setting.sizeMultiplier request quality ≤ max (1 / 20)
      (setting.config.maxRiskPerTradePct / max (setting.tradeRiskPct request) (1 / 10 ^ 6)) := by
  unfold RiskSetting.sizeMultiplier
  simp only [large, if_true]
  set ratio := setting.config.maxRiskPerTradePct / max (setting.tradeRiskPct request) (1 / 10 ^ 6)
  have trade : min 1 (max (5 / 100) (min 1 ratio)) ≤ max (1 / 20) ratio := by
    apply (min_le_right _ _).trans
    exact max_le_max (by norm_num) (min_le_right _ _)
  split <;> split
  · exact (min_le_left _ _).trans ((min_le_left _ _).trans trade)
  · exact (min_le_left _ _).trans trade
  · exact (min_le_left _ _).trans trade
  · exact trade

/-- What is left of a trade is within the cap, or within a twentieth of the trade. -/
theorem RiskSetting.sizeMultiplier_le (quality : RiskAction) :
    max request.proposedNotionalUsdt 0 * max 0 (min 1 (setting.sizeMultiplier request quality)) ≤
      max (setting.tradeCap request) (max request.proposedNotionalUsdt 0 / 20) := by
  have large := setting.tradeTooLarge_iff request
  have multiplied := setting.sizeMultiplier_le_trade request
  have wallet := setting.wallet_pos request
  have risk : setting.tradeRiskPct request =
    max request.proposedNotionalUsdt 0 / setting.wallet request * 100 := rfl
  set proposed := max request.proposedNotionalUsdt 0
  have nonneg : 0 ≤ proposed := le_max_right _ _
  by_cases more : setting.tradeTooLarge request = true
  · have least := setting.config.risk_ge
    have beyond := large.mp more
    have positive : 0 < proposed := by
      apply lt_of_le_of_lt _ beyond
      unfold RiskSetting.tradeCap
      positivity
    have ratio : setting.config.maxRiskPerTradePct / max (setting.tradeRiskPct request)
        (1 / 10 ^ 6) * proposed = setting.tradeCap request := by
      have isRisk : (1 : ℚ) / 10 ^ 6 ≤ setting.tradeRiskPct request := by
        have above := (of_decide_eq_true more).1
        linarith
      rw [max_eq_left isRisk, risk]
      unfold RiskSetting.tradeCap
      field_simp
    calc proposed * max 0 (min 1 (setting.sizeMultiplier request quality))
        ≤ proposed * max (1 / 20) (setting.config.maxRiskPerTradePct /
            max (setting.tradeRiskPct request) (1 / 10 ^ 6)) := by
          apply mul_le_mul_of_nonneg_left _ nonneg
          exact max_le (le_max_of_le_left (by norm_num))
            ((min_le_right _ _).trans (multiplied more quality))
      _ = max (setting.tradeCap request) (proposed / 20) := by
          rw [mul_max_of_nonneg _ _ nonneg, mul_one_div, max_comm, mul_comm, ratio]
  · apply le_max_of_le_left
    apply le_trans _ (not_lt.mp fun beyond => more (large.mpr beyond))
    exact mul_le_of_le_one_right nonneg (max_le zero_le_one (min_le_left _ _))

/-- A trade that is allowed is within its cap; one that is reduced is left within its cap, or with
a twentieth of its size where that is more. -/
theorem reduced_size_capped (cache : RiskCache) (now : ℤ) (market : MarketQuality) :
    let result := evaluateRiskDecision setting request cache now market
    let proposed := max request.proposedNotionalUsdt 0
    (result.riskDecision = .reduceSize → result.adjustedNotionalUsdt ≤
        roundTo 6 (max (setting.tradeCap request) (proposed / 20))) ∧
      (result.riskDecision = .allow → proposed ≤ setting.tradeCap request) := by
  intro result proposed
  constructor
  · intro reduced
    have isReduced : decisionOf (setting.findings request cache now market) = .reduceSize := reduced
    show roundTo 6 (adjustedNotional (decisionOf (setting.findings request cache now market)) _ _) ≤
      _
    unfold adjustedNotional
    rw [isReduced, if_neg (by decide), if_pos rfl, (hasDecimals_roundTo 6 _).rounded]
    exact roundTo_mono 6 (setting.sizeMultiplier_le request _)
  · intro allowed
    exact not_lt.mp fun more => not_tradeTooLarge_of_allow setting request allowed
      ((setting.tradeTooLarge_iff request).mpr more)

def cautiousSetting : RiskSetting where
  tables := ⟨fun _ => none, none, [], [], []⟩
  config := normalizedConfig { defaultRiskConfig with maxRiskPerTradePct := 1 / 10 }
  pipelineKillSwitch := false

def tenthOfWallet : RiskRequest := ⟨"user-1", "BTCUSDT", "LONG", "spot", 1000, none, 1⟩

/-- A tenth of the wallet is reduced to a twentieth of itself, above the cap of a tenth of a
per cent. -/
theorem reduced_size_above_cap :
    let result := evaluateRiskDecision cautiousSetting tenthOfWallet ⟨fun _ => none, none⟩ 0
      ⟨0, 0, 0, 0, 1, none⟩
    result.riskDecision = .reduceSize ∧ result.adjustedNotionalUsdt = 50 ∧
      cautiousSetting.tradeCap tenthOfWallet = 10 := by
  decide +kernel

end Size

end Risk
