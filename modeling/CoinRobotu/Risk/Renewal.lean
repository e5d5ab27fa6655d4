import CoinRobotu.Interleaving.Calls
import CoinRobotu.Risk.Decisions

/-!
# Cooldowns that renew themselves

A veto activates the cooldown of the symbol, and an active cooldown is itself a veto:
so each evaluation during a cooldown activates it anew, whatever it is vetoed for.
-/

open Interleaving

namespace Risk

/-- One call of `evaluate_risk_decision`. -/
structure Evaluation where
  setting : RiskSetting
  request : RiskRequest
  now : ℤ
  market : MarketQuality

namespace Evaluation

variable (evaluation : Evaluation) (cache : RiskCache)

def findings : List Finding :=
  evaluation.setting.findings evaluation.request cache evaluation.now evaluation.market

def decision : RiskAction := decisionOf (evaluation.findings cache)

def minutes : ℤ := evaluation.setting.config.symbolCooldownMinutes

def after : RiskCache :=
  cacheAfter evaluation.setting evaluation.request cache evaluation.now evaluation.market

def VetoedOtherwise : Prop :=
  ∃ finding ∈ evaluation.findings cache,
    finding.action.Vetoes ∧ finding.code ≠ "symbol_cooldown_active"

/-- An evaluation during the cooldown of its symbol has another reason for a veto. -/
def NotByCooldownAlone : Prop :=
  0 < evaluation.minutes →
    cache.cooldowns.activeAt evaluation.request.symbolKey evaluation.now = true →
      evaluation.VetoedOtherwise cache

end Evaluation

section Codes

variable {finding : Finding}

theorem mem_check {condition : Bool} {action : RiskAction} {code : String} :
    finding ∈ check condition action code ↔ condition = true ∧ finding = ⟨action, code⟩ := by
  unfold check
  split
  · rename_i holds
    simp [holds]
  · rename_i fails
    simp [fails]

theorem code_of_thresholdFindings {measure threshold : ℚ} {block pass : String}
    (inside : finding ∈ RiskSetting.thresholdFindings measure threshold block pass) :
    finding.code = block ∨ finding.code = pass := by
  unfold RiskSetting.thresholdFindings at inside
  split at inside
  · exact .inl (congrArg Finding.code (List.mem_singleton.mp inside))
  · split at inside
    · exact .inr (congrArg Finding.code (List.mem_singleton.mp inside))
    · cases inside

/-- The reason of the cooldown of the symbol is given by its check alone. -/
theorem Evaluation.active_of_code {evaluation : Evaluation} {cache : RiskCache}
    (inside : finding ∈ evaluation.findings cache)
    (code : finding.code = "symbol_cooldown_active") :
    cache.cooldowns.activeAt evaluation.request.symbolKey evaluation.now = true := by
  unfold Evaluation.findings RiskSetting.findings at inside
  simp only [List.mem_append] at inside
  rcases inside with ((cooldown | standing) | market) | loss
  · unfold RiskSetting.cooldownFindings at cooldown
    simp only [List.mem_append, mem_check] at cooldown
    rcases cooldown with (⟨_, rfl⟩ | ⟨active, _⟩) | ⟨_, rfl⟩
    · exact absurd code (by decide)
    · exact active
    · exact absurd code (by decide)
  · unfold RiskSetting.standingFindings at standing
    simp only [List.mem_append, mem_check] at standing
    rcases standing with (((((((⟨_, rfl⟩ | ⟨_, rfl⟩) | ⟨_, rfl⟩) | ⟨_, rfl⟩) | ⟨_, rfl⟩) |
      ⟨_, rfl⟩) | ⟨_, rfl⟩) | ⟨_, rfl⟩) | ⟨_, rfl⟩
    all_goals exact absurd code (by decide)
  · unfold RiskSetting.marketFindings at market
    simp only [List.mem_append, mem_check] at market
    rcases market with ((⟨_, rfl⟩ | quality) | stale) | spread
    · exact absurd code (by decide)
    · exfalso
      unfold RiskSetting.qualityFindings at quality
      split at quality
      · cases quality
      all_goals
        cases List.mem_singleton.mp quality
        exact absurd code (by decide)
    · rcases code_of_thresholdFindings stale with isBlock | isPass
      · exact absurd (isBlock.symm.trans code) (by decide)
      · exact absurd (isPass.symm.trans code) (by decide)
    · rcases code_of_thresholdFindings spread with isBlock | isPass
      · exact absurd (isBlock.symm.trans code) (by decide)
      · exact absurd (isPass.symm.trans code) (by decide)
  · unfold RiskSetting.lossFindings at loss
    simp only [List.mem_append, mem_check] at loss
    rcases loss with ⟨_, rfl⟩ | ⟨_, rfl⟩
    all_goals exact absurd code (by decide)

/-- A veto that is not by the cooldown alone has another reason. -/
theorem Evaluation.NotByCooldownAlone.vetoedOtherwise {evaluation : Evaluation} {cache : RiskCache}
    (sober : evaluation.NotByCooldownAlone cache) (positive : 0 < evaluation.minutes)
    (vetoes : (evaluation.decision cache).Vetoes) : evaluation.VetoedOtherwise cache := by
  have asked : evaluation.decision cache ≠ .allow := by
    intro allows
    rw [allows] at vetoes
    exact absurd vetoes (by decide)
  obtain ⟨finding, inside, isDecision⟩ := exists_of_decisionOf asked
  by_cases code : finding.code = "symbol_cooldown_active"
  · exact sober positive (Evaluation.active_of_code inside code)
  · refine ⟨finding, inside, ?_, code⟩
    rw [isDecision]
    exact vetoes

end Codes

section Steps

variable {key : CooldownKey} {time : ℤ}

theorem Cooldowns.settleAll_activeAt (cooldowns : Cooldowns) (request : RiskRequest) {now : ℤ}
    (le : now ≤ time) : (cooldowns.settleAll request now).activeAt key time =
      cooldowns.activeAt key time := by
  unfold Cooldowns.settleAll
  rw [Cooldowns.settle_activeAt _ le, Cooldowns.settle_activeAt _ le,
    Cooldowns.settle_activeAt _ le]

/-- A cooldown of a symbol that is active after an evaluation was active before, or the
evaluation vetoed the symbol within its minutes. -/
theorem Evaluation.active_after {evaluation : Evaluation} {cache : RiskCache}
    (isSymbol : key.scope = .symbol) (le : evaluation.now ≤ time)
    (active : (evaluation.after cache).cooldowns.activeAt key time = true) :
    cache.cooldowns.activeAt key time = true ∨
      key = evaluation.request.symbolKey ∧ (evaluation.decision cache).Vetoes ∧
        0 < evaluation.minutes ∧ time < evaluation.now + evaluation.minutes * minute := by
  have notGlobal : key ≠ evaluation.request.globalKey := by
    rintro rfl
    cases isSymbol
  have notStrategy : key ≠ evaluation.request.strategyKey := by
    rintro rfl
    cases isSymbol
  have losses : ∀ cooldowns : Cooldowns,
      ((if evaluation.setting.dailyLossReached evaluation.request evaluation.now = true then
          cooldowns.activate evaluation.request.globalKey
            evaluation.setting.config.globalCooldownMinutes evaluation.now
        else cooldowns).activeAt key time) = cooldowns.activeAt key time := by
    intro cooldowns
    split
    · exact Cooldowns.activate_other notGlobal _
    · rfl
  have streaks : ∀ cooldowns : Cooldowns,
      ((if evaluation.setting.lossStreakReached evaluation.request = true then
          cooldowns.activate evaluation.request.strategyKey
            evaluation.setting.config.strategyCooldownMinutes evaluation.now
        else cooldowns).activeAt key time) = cooldowns.activeAt key time := by
    intro cooldowns
    split
    · exact Cooldowns.activate_other notStrategy _
    · rfl
  unfold Evaluation.after cacheAfter at active
  dsimp only at active
  rw [Cooldowns.settleAll_activeAt _ _ le] at active
  split at active
  · rename_i vetoed
    by_cases own : key = evaluation.request.symbolKey
    · right
      rw [own, Cooldowns.activate_activeAt _ vetoed.2] at active
      refine ⟨own, vetoed.1, vetoed.2, ?_⟩
      have aSecond : 0 < second := by decide
      unfold Evaluation.minutes
      linarith
    · left
      rw [Cooldowns.activate_other own, streaks, losses,
        Cooldowns.settleAll_activeAt _ _ le] at active
      exact active
  · left
    rw [streaks, losses, Cooldowns.settleAll_activeAt _ _ le] at active
    exact active

end Steps

section Runs

def cacheAfterAll (cache : RiskCache) (evaluations : List Evaluation) : RiskCache :=
  afterAll (fun cache evaluation => evaluation.after cache) cache evaluations

variable {cache : RiskCache} {evaluations : List Evaluation} {key : CooldownKey}

end Runs

/-- An evaluation of a spot order in a quiet market, without positions and with cooldowns
of thirty minutes. -/
def evaluationAt (now : ℤ) (strategyDecision : String) : Evaluation where
  setting := ⟨⟨fun _ => none, none, [], [], []⟩, normalizedConfig defaultRiskConfig, false⟩
  request := ⟨"user-1", "BTCUSDT", strategyDecision, "spot", 10, none, 1⟩
  now
  market := ⟨0, 1, 0, 0, 1, none⟩

def emptyCache : RiskCache := ⟨fun _ => none, none⟩

def bitcoinKey : CooldownKey := ⟨.symbol, "user-1", "BTCUSDT"⟩

def renewingRun : List Evaluation := [evaluationAt 0 "PASS", evaluationAt (20 * minute) "LONG"]

end Risk
