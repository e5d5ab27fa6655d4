import CoinRobotu.Policy.Pipeline

/-!
# What the rollout may soften

A fail-safe finding is enforced in every mode and environment. Any other finding, that of a kill
switch or of safe mode among them, blocks just where the rollout does: in full, or in part in a live
environment, unless a missing or violated strategy binding softens the decision outside of live
environments. A policy that blocks ends the pipeline before its later stages.
-/

namespace Policy

open Runtime (lower)

def PolicyDecision.Produces (decision : PolicyDecision) (reasonCode : String) : Prop :=
  (∃ finding ∈ decision.allFindings, finding.reasonCode = reasonCode) ∨
    ∃ reject ∈ decision.standardizedReject, reject.reasonCode = reasonCode

def killSwitchCodes : List String :=
  ["SAFETY_GLOBAL_KILL_SWITCH", "SAFETY_ENVIRONMENT_KILL_SWITCH", "SAFETY_STRATEGY_KILL_SWITCH",
    "SAFETY_SYMBOL_KILL_SWITCH"]

def safeModeCodes : List String :=
  ["SAFE_MODE_STRATEGY_RESTRICTED", "SAFE_MODE_REDUCE_ONLY_REQUIRED"]

def RolloutBlocks (mode : RolloutMode) (environment : String) (soft : Bool) : Prop :=
  ¬(soft ∧ ¬isLiveEnvironment environment) ∧
    (mode = .full ∨ mode = .partLive ∧ isLiveEnvironment environment)

section Rollout

variable {mode : RolloutMode} {environment : String} {soft : Bool}

theorem resolveRolloutAction_block :
    (resolveRolloutAction mode .block environment soft).1 = .block ↔
      RolloutBlocks mode environment soft := by
  unfold resolveRolloutAction RolloutBlocks
  rw [if_neg (not_not.mpr rfl)]
  by_cases softened : soft ∧ ¬isLiveEnvironment environment
  · rw [if_pos softened]
    exact iff_of_false (by decide) fun blocks => blocks.1 softened
  · rw [if_neg softened, and_iff_right softened]
    cases isLiveEnvironment environment <;> cases mode <;> decide

theorem resolveRolloutAction_allow :
    (resolveRolloutAction mode .allow environment soft).1 = .allow := rfl

end Rollout

section Findings

variable {tables : EngineTables} {context : PipelineContext} {findings : List Reject}
  {mode : RolloutMode} {soft : Bool}

theorem hardened_reasonCode (finding : Reject) :
    (hardened finding).reasonCode = finding.reasonCode := by
  unfold hardened
  split <;> rfl

theorem decideFindings_codes (tables : EngineTables) (context : PipelineContext)
    (findings : List Reject) (mode : RolloutMode) (soft : Bool) :
    (decideFindings tables context findings mode soft).2.2.1.map Reject.reasonCode =
      findings.map Reject.reasonCode := by
  have classified : (findings.map fun finding =>
      { finding with severity := tables.classify finding }).map Reject.reasonCode =
        findings.map Reject.reasonCode := List.map_map
  have hard (rejects : List Reject) :
      (rejects.map hardened).map Reject.reasonCode = rejects.map Reject.reasonCode := by
    rw [List.map_map]
    exact List.map_congr_left fun finding _ => hardened_reasonCode finding
  unfold decideFindings
  dsimp only
  split
  · rw [hard, classified]
  · exact classified

theorem decideFindings_primary {reject : Reject}
    (reported : (decideFindings tables context findings mode soft).2.2.2 = some reject) :
    reject.reasonCode ∈ findings.map Reject.reasonCode := by
  rw [← decideFindings_codes tables context findings mode soft]
  unfold decideFindings at reported ⊢
  dsimp only at reported ⊢
  obtain ⟨finding, isFirst, isReject⟩ := Option.map_eq_some_iff.mp reported
  have same : reject.reasonCode = finding.reasonCode := by
    rw [← isReject]
    split
    · exact hardened_reasonCode finding
    · rfl
  rw [same]
  exact List.mem_map_of_mem (List.mem_of_mem_head? isFirst)

theorem decideFindings_enforced :
    (decideFindings tables context findings mode soft).1 = .block ↔
      (∃ reasonCode ∈ findings.map Reject.reasonCode, isFailsafeReasonCode reasonCode) ∨
        findings ≠ [] ∧ RolloutBlocks mode context.environment soft := by
  have classified : (findings.map fun finding =>
      { finding with severity := tables.classify finding }).any
        (fun finding => isFailsafeReasonCode finding.reasonCode) =
      (findings.map Reject.reasonCode).any isFailsafeReasonCode := by
    rw [List.any_map, List.any_map]
    rfl
  rw [← List.any_eq_true]
  unfold decideFindings
  dsimp only
  rw [classified]
  cases failsafe : (findings.map Reject.reasonCode).any isFailsafeReasonCode with
  | true => simp
  | false =>
    cases findings with
    | nil => simp [resolveRolloutAction_allow]
    | cons finding findings => simp [resolveRolloutAction_block]

end Findings

section Evaluation

variable {tables : EngineTables} {context : PipelineContext} {stage : String} {store : Store}

/-- What has been found is there under its code, and nothing else is; that the policies did not load
is found, too. -/
theorem evaluate_cases (tables : EngineTables) (context : PipelineContext) (stage : String)
    (store : Store) :
    ((∃ message, tables.effectiveRules = .error message) ∧
        (evaluateExecutionPolicyEngine tables context stage store).1.enforcedAction = .block ∧
        ∀ reasonCode,
          (evaluateExecutionPolicyEngine tables context stage store).1.Produces reasonCode ↔
            reasonCode = "FAILSAFE_POLICY_LOAD_ERROR") ∨
      ∃ matched rules risk, tables.effectiveRules = .ok (matched, rules) ∧
        ((evaluateExecutionPolicyEngine tables context stage store).1.enforcedAction = .block ↔
          (∃ reasonCode ∈
              (collectFindings tables context stage matched rules risk).map Reject.reasonCode,
            isFailsafeReasonCode reasonCode) ∨
            collectFindings tables context stage matched rules risk ≠ [] ∧
              RolloutBlocks (rolloutModeOf tables.rolloutMode) context.environment
                (softNonLive tables context
                  (evaluateExecutionPolicyEngine tables context stage store).1.matchedPolicies)) ∧
        ∀ reasonCode,
          (evaluateExecutionPolicyEngine tables context stage store).1.Produces reasonCode ↔
            reasonCode ∈
              (collectFindings tables context stage matched rules risk).map Reject.reasonCode := by
  unfold evaluateExecutionPolicyEngine
  dsimp only
  split
  · next message loaded =>
    refine Or.inl ⟨⟨message, loaded⟩, rfl, fun reasonCode => ?_⟩
    simp [PolicyDecision.Produces, eq_comm]
  · next matched rules loaded =>
    refine Or.inr ⟨matched, rules, _, loaded, decideFindings_enforced, fun reasonCode => ?_⟩
    rw [PolicyDecision.Produces]
    constructor
    · rintro (⟨finding, inside, rfl⟩ | ⟨reject, reported, rfl⟩)
      · rw [← decideFindings_codes tables context _ (rolloutModeOf tables.rolloutMode)
          (softNonLive tables context matched)]
        exact List.mem_map_of_mem inside
      · exact decideFindings_primary reported
    · intro found
      rw [← decideFindings_codes tables context _ (rolloutModeOf tables.rolloutMode)
        (softNonLive tables context matched)] at found
      obtain ⟨finding, inside, same⟩ := List.mem_map.mp found
      exact Or.inl ⟨finding, inside, same⟩

theorem isFailsafe_policyLoad : isFailsafeReasonCode "FAILSAFE_POLICY_LOAD_ERROR" = true := by
  decide +kernel

theorem failsafe_blocks {reasonCode : String} (failsafe : isFailsafeReasonCode reasonCode)
    (produced :
      (evaluateExecutionPolicyEngine tables context stage store).1.Produces reasonCode) :
    (evaluateExecutionPolicyEngine tables context stage store).1.enforcedAction = .block := by
  obtain ⟨_, blocked, _⟩ | ⟨_, _, _, _, enforced, produces⟩ :=
    evaluate_cases tables context stage store
  · exact blocked
  · exact enforced.mpr (Or.inl ⟨reasonCode, (produces reasonCode).mp produced, failsafe⟩)

theorem finding_blocks_iff {reasonCode : String}
    (noFailsafe : ∀ other, isFailsafeReasonCode other →
      ¬(evaluateExecutionPolicyEngine tables context stage store).1.Produces other)
    (produced :
      (evaluateExecutionPolicyEngine tables context stage store).1.Produces reasonCode) :
    (evaluateExecutionPolicyEngine tables context stage store).1.enforcedAction = .block ↔
      RolloutBlocks (rolloutModeOf tables.rolloutMode) context.environment
        (softNonLive tables context
          (evaluateExecutionPolicyEngine tables context stage store).1.matchedPolicies) := by
  obtain ⟨_, _, produces⟩ | ⟨matched, rules, risk, _, enforced, produces⟩ :=
    evaluate_cases tables context stage store
  · exact absurd ((produces _).mpr rfl) (noFailsafe _ isFailsafe_policyLoad)
  · have inside := (produces reasonCode).mp produced
    have nonempty : collectFindings tables context stage matched rules risk ≠ [] := by
      intro empty
      rw [empty] at inside
      exact List.not_mem_nil inside
    rw [enforced, and_iff_right nonempty, or_iff_right]
    rintro ⟨other, found, failsafe⟩
    exact noFailsafe other failsafe ((produces other).mpr found)

end Evaluation

section Pipeline

variable {tables : EngineTables} {context : PipelineContext} {store : Store}

/-- The run has evaluated the policy, and has at most logged its violation. -/
def PipelineRun.OnlyPreTrade (run : PipelineRun) : Prop :=
  (∀ result ∈ run.stages, result.stage ∈ ["PRE_TRADE", "VIOLATION"]) ∧
    ∀ log ∈ run.logs, log.stage ∈ ["PRE_TRADE", "VIOLATION"]

theorem preTrade_only (store : Store) : (preTrade tables context store).OnlyPreTrade := by
  unfold preTrade PipelineRun.OnlyPreTrade
  dsimp only
  split
  · simp [violationStage]
  · simp

theorem blocked_pipeline {lifecycleAction : String}
    (blocked :
      (evaluateExecutionPolicyEngine tables context "PRE_TRADE" store).1.enforcedAction = .block) :
    ∃ run, runExecutionPipeline tables context lifecycleAction store = .ok run ∧
      run.enforcedAction = .block ∧ run.OnlyPreTrade ∧
      run.store = (evaluateExecutionPolicyEngine tables context "PRE_TRADE" store).2 := by
  have enforced : (preTrade tables context store).enforcedAction = .block := blocked
  refine ⟨preTrade tables context store, ?_, enforced, preTrade_only store, rfl⟩
  unfold runExecutionPipeline
  dsimp only
  rw [if_pos enforced]

/-- A fail-safe finding is enforced; a finding of a kill switch or of safe mode, where none is
fail-safe, is enforced just where the rollout blocks; and what is enforced ends the pipeline. -/
theorem failsafe_dominates (tables : EngineTables) (context : PipelineContext) (store : Store)
    (lifecycleAction : String) :
    (∀ reasonCode, isFailsafeReasonCode reasonCode →
      (evaluateExecutionPolicyEngine tables context "PRE_TRADE" store).1.Produces reasonCode →
        (evaluateExecutionPolicyEngine tables context "PRE_TRADE" store).1.enforcedAction =
          .block) ∧
      (∀ reasonCode ∈ killSwitchCodes ++ safeModeCodes,
        (evaluateExecutionPolicyEngine tables context "PRE_TRADE" store).1.Produces reasonCode →
        (∀ other, isFailsafeReasonCode other →
          ¬(evaluateExecutionPolicyEngine tables context "PRE_TRADE" store).1.Produces other) →
        ((evaluateExecutionPolicyEngine tables context "PRE_TRADE" store).1.enforcedAction =
            .block ↔
          RolloutBlocks (rolloutModeOf tables.rolloutMode) context.environment
            (softNonLive tables context
              (evaluateExecutionPolicyEngine tables context "PRE_TRADE"
                store).1.matchedPolicies))) ∧
      ((evaluateExecutionPolicyEngine tables context "PRE_TRADE" store).1.enforcedAction = .block →
        ∃ run, runExecutionPipeline tables context lifecycleAction store = .ok run ∧
          run.enforcedAction = .block ∧ run.OnlyPreTrade ∧
          run.store = (evaluateExecutionPolicyEngine tables context "PRE_TRADE" store).2) :=
  ⟨fun _ failsafe produced => failsafe_blocks failsafe produced,
    fun _ _ produced noFailsafe => finding_blocks_iff noFailsafe produced, blocked_pipeline⟩

/-- An order in a live environment. -/
def liveOrder : PipelineContext where
  userId := "u"
  symbol := "BTCUSDT"
  strategyBinding := "s"
  proposedNotional := 100
  portfolioId := none
  side := "buy"
  environment := "live"
  intentType := none
  reduceOnly := false
  marketDataAvailable := true
  dependencyTimeout := false
  enforceDependencyTimeout := false
  portfolioDrawdownPct := none
  requestedPrice := none
  requestedQty := none
  executionResult := none
  exposureAfterTrade := none
  leverageAfterTrade := none
  portfolioEquity := none
  liquidationDistanceAfterTrade := none

/-- The tables of an engine with a policy for the strategy, while the kill switch is pulled. -/
def killSwitchPulled (mode : String) : EngineTables where
  rolloutMode := some mode
  effectiveRules := .ok ([⟨"p", some "strategy", some "s", "s"⟩],
    ⟨⟨[], []⟩, [], none, none, ⟨[], [], [], none, none, none, none⟩⟩)
  strategyViolations := []
  overrideRules := id
  activeStates := []
  liveActivation := some ⟨true, true⟩
  unrealizedPnl := []
  violationsSince := fun _ => 0
  elapsedMs := 0
  classify := Reject.severity

/-- In shadow mode the kill switch is found and does not block. -/
theorem kill_switch_softened :
    "SAFETY_GLOBAL_KILL_SWITCH" ∈
        (evaluateExecutionPolicyEngine (killSwitchPulled "shadow") liveOrder "PRE_TRADE"
          newStore).1.allFindings.map Reject.reasonCode ∧
      (evaluateExecutionPolicyEngine (killSwitchPulled "shadow") liveOrder "PRE_TRADE"
        newStore).1.enforcedAction = .allow := by
  decide +kernel

end Pipeline

end Policy
