import Mathlib.Data.List.Dedup
import Mathlib.Data.List.Sort
import CoinRobotu.Numeric.Rounding
import CoinRobotu.Runtime.Text

/-!
# The safety gate

The core gate collects what blocks execution from the readiness payload and the order
smoke, and the namespace service collects more from the credentials, the environment
policy and the proof. Neither list reaches the decision: the core returns an empty list of
hard blockers and a gate that is ready, and the namespace service empties its list before
the state is computed from it.
-/

namespace Gate

open Runtime (upper lower strip orElse blank)
open Numeric

/-- `_normalize_code`. -/
def normalizeCode (raw : Option String) : String := upper (strip (raw.getD ""))

/-- `_unique_codes`. -/
def uniqueCodes (items : List String) : List String :=
  (((items.filter fun item => strip item ≠ "").map fun item =>
    normalizeCode (some item)).dedup).mergeSort
    fun first second => decide (first ≤ second)

structure BlockingFailure where
  stepKey : Option String
  reasonCode : Option String
  reason : Option String
  message : Option String

structure ExecutionProof where
  realMetricCount : ℤ
  hasMockedPaths : Bool

/-- What `evaluate_go_live_readiness` returns, as far as the gate reads it. -/
structure Readiness where
  readinessState : Option String
  score : Option ℚ
  goLiveAllowed : Bool
  reasonCodes : List String
  warnings : List String
  blockingFailures : List BlockingFailure
  executionProof : ExecutionProof

/-- What `run_bybit_live_order_smoke` returns. -/
structure OrderSmoke where
  status : Option String
  reasonCode : Option String
  detail : Option String

structure BlockerDetail where
  stepKey : String
  reasonCode : String
  message : String
deriving DecidableEq

/-- What the artifact says about itself. -/
structure Artifact where
  localPath : Option String
  status : Option String

/-- What `get_execution_safety_gate` returns. -/
structure GatePayload where
  gateState : String
  executionAllowed : Bool
  hardBlockers : List String
  softWarnings : List String
  hardBlockersDetail : List BlockerDetail
  readinessState : Option String
  readinessScore : Option ℚ
  goLiveAllowed : Bool
  validatorReasonCodes : List String
  artifact : Artifact

section Core

def hardBlockReasonCodes : List String :=
  ["LIVE_TRADING_DISABLED", "MARKET_DATA_MISSING", "MARKET_DATA_STALE", "KILL_SWITCH_ACTIVE",
    "BYBIT_LIVE_CREDENTIALS_MISSING", "BYBIT_AUTH_PROBE_FAIL", "BYBIT_CONNECTIVITY_FAIL",
    "BYBIT_ORDER_SMOKE_FAIL", "BYBIT_ORDER_SMOKE_AUTH_FAIL", "ORDERBOOK_INVALID",
    "EXCHANGE_CONNECTION_UNHEALTHY", "EXECUTION_PROOF_REAL_METRIC_MISSING",
    "EXECUTION_PROOF_MOCKED_PATHS", "READINESS_BLOCKING_FAILURE"]

/-- `HARD_BLOCK_STEP_KEYS`, in upper case. -/
def hardBlockStepKeys : List String :=
  ["MARKET_DATA_PRESENT", "ORDERBOOK_SYNC", "EXCHANGE_CONNECTION_READY", "VENUE_CONNECTIVITY_BYBIT",
    "VENUE_ORDERBOOK_BYBIT", "PROOF_QUALITY", "KILL_SWITCH"]

def BlockingFailure.text (failure : BlockingFailure) (other : String) : String :=
  orElse failure.reason (orElse failure.message other)

variable (validator : Readiness) (bybitSmoke : OrderSmoke)

/-- The conditions that `_collect_gate_codes` collects, in their order. -/
def blockersDetail : List BlockerDetail :=
  (validator.blockingFailures.filterMap fun failure =>
    let stepKey := normalizeCode failure.stepKey
    let reasonCode := normalizeCode failure.reasonCode
    if reasonCode ≠ "" ∨ stepKey ≠ "" then
      some ⟨stepKey, orElse (some reasonCode) "READINESS_BLOCKING_FAILURE",
        failure.text "blocking_failure"⟩
    else none) ++
  (validator.reasonCodes.filterMap fun code =>
    if code ≠ "" ∧ normalizeCode (some code) ∈ hardBlockReasonCodes then
      some ⟨"READINESS", normalizeCode (some code), "validator_reason_code"⟩
    else none) ++
  (if upper (bybitSmoke.status.getD "") ≠ "PASS" then
    [⟨"BYBIT_ORDER_SMOKE",
      normalizeCode (some (orElse bybitSmoke.reasonCode "BYBIT_ORDER_SMOKE_FAIL")),
      orElse bybitSmoke.detail "order_smoke_failed"⟩]
  else []) ++
  (validator.blockingFailures.filterMap fun failure =>
    if normalizeCode failure.stepKey ∈ hardBlockStepKeys then
      some ⟨normalizeCode failure.stepKey,
        normalizeCode (some (orElse failure.reasonCode "READINESS_BLOCKING_FAILURE")),
        failure.text "hard_block_step_failure"⟩
    else none) ++
  (if validator.executionProof.hasMockedPaths then
    [⟨"PROOF_QUALITY", "EXECUTION_PROOF_MOCKED_PATHS", "execution_proof_has_mocked_paths"⟩]
  else []) ++
  (if validator.executionProof.realMetricCount ≤ 0 then
    [⟨"PROOF_QUALITY", "EXECUTION_PROOF_REAL_METRIC_MISSING", "real_metric_count<=0"⟩]
  else [])

/-- `_collect_gate_codes`: hard blockers, soft warnings and the details. -/
def collectGateCodes : List String × List String × List BlockerDetail :=
  let hardBlockers := []
  let softWarnings := uniqueCodes
    ((validator.warnings.filter (· ≠ "")).map fun code => normalizeCode (some code))
  (hardBlockers, softWarnings, blockersDetail validator bybitSmoke)

/-- `get_execution_safety_gate`; `artifact` is what was stored of the payload. -/
def getExecutionSafetyGate (artifact : Artifact) : GatePayload :=
  let (_, softWarnings, _) := collectGateCodes validator bybitSmoke
  { gateState := "READY"
    executionAllowed := true
    hardBlockers := []
    softWarnings
    hardBlockersDetail := []
    readinessState := validator.readinessState
    readinessScore := validator.score
    goLiveAllowed := validator.goLiveAllowed
    validatorReasonCodes := validator.reasonCodes.dedup.mergeSort fun first second =>
      decide (first ≤ second)
    artifact }

end Core

section Namespace

/-- The live part of the environment policy, with its defaults filled in. -/
structure LivePolicy where
  pathOpen : Bool
  enableFlag : Bool
  validationStatus : String

/-- The columns of the configuration row that the gate reads. -/
structure ConfigRow where
  tradingPermissionReady : Bool
  killSwitchEnabled : Bool

variable (baseGate : GatePayload) (bybitSmoke : OrderSmoke) (policy : LivePolicy)
  (configRow : ConfigRow) (correlationCoverageOk : Bool)

/-- `needle in text`. -/
def occursIn (needle text : String) : Bool := text.toList.tails.any needle.toList.isPrefixOf

/-- The conditions that `_map_blockers` collects, in their order. -/
def collectedBlockers : List String :=
  let reasonCodes := baseGate.validatorReasonCodes.map fun code => normalizeCode (some code)
  (if upper baseGate.gateState = "BLOCKED" ∨ baseGate.hardBlockers ≠ [] then
    ["release_gate_blocked"] else []) ++
  (if ¬configRow.tradingPermissionReady then ["permission_check_failed"] else []) ++
  (if reasonCodes.any (occursIn "BALANCE") then ["balance_unverified"] else []) ++
  (if ¬correlationCoverageOk then ["missing_required_proof"] else []) ++
  (if ¬policy.pathOpen then ["execution_path_closed"] else []) ++
  (if policy.pathOpen ∧ (¬policy.enableFlag ∨ upper policy.validationStatus ≠ "VALIDATED") then
    ["live_disabled_while_live_unvalidated"] else []) ++
  (if reasonCodes.any (· ∈ ["MARKET_DATA_MISSING", "MARKET_DATA_STALE"]) then
    ["stale_market_data"] else []) ++
  (if normalizeCode bybitSmoke.status ≠ "PASS" then ["stale_exchange_data"] else []) ++
  (if blank baseGate.artifact.localPath then ["missing_required_proof"] else []) ++
  (if baseGate.artifact.status.getD "" ∉ ["LOCAL_ONLY", "S3_UPLOADED"] then
    ["critical_dependency_unhealthy"] else []) ++
  (if configRow.killSwitchEnabled then ["critical_dependency_unhealthy"] else [])

/-- `_map_blockers`: what was collected is dropped. -/
def mapBlockers : List String × List String :=
  let warnings :=
    (if normalizeCode bybitSmoke.status = "PASS" ∧
        upper baseGate.gateState ∈ ["DEGRADED", "WARNING"] then
      ["exchange_ready_but_readiness_degraded"] else []) ++ baseGate.softWarnings.map lower
  let uniqueBlockers := []
  (uniqueBlockers, (warnings.filter (· ≠ "")).dedup.mergeSort fun first second =>
    decide (first ≤ second))

/-- What `evaluate_execution_safety_gate` returns. -/
structure Evaluation where
  state : String
  score : ℚ
  blockers : List String
  warnings : List String
  executionAuthority : String

def evaluateExecutionSafetyGate : Evaluation :=
  let (blockers, warnings) := mapBlockers baseGate bybitSmoke
  let score := baseGate.readinessScore.getD 0
  let state := if blockers ≠ [] then "BLOCKED" else if 85 ≤ score then "READY" else "DEGRADED"
  { state
    score := roundTo 2 score
    blockers
    warnings
    executionAuthority :=
      if state ∈ ["READY", "DEGRADED"] ∧ blockers = [] then "ALLOW" else "DENY" }

end Namespace

section FailClosed

/-- What both gates read: the core asks for the smoke once, and the namespace service once
more. -/
structure Inputs where
  validator : Readiness
  coreSmoke : OrderSmoke
  artifact : Artifact
  bybitSmoke : OrderSmoke
  policy : LivePolicy
  configRow : ConfigRow
  correlationCoverageOk : Bool

namespace Inputs

variable (input : Inputs)

def coreGate : GatePayload :=
  getExecutionSafetyGate input.validator input.coreSmoke input.artifact

def evaluation : Evaluation := evaluateExecutionSafetyGate input.coreGate input.bybitSmoke

def coreConditions : List BlockerDetail := blockersDetail input.validator input.coreSmoke

def namespaceConditions : List String :=
  collectedBlockers input.coreGate input.bybitSmoke input.policy input.configRow
    input.correlationCoverageOk

/-- Each gate is blocked and denies when it collects a condition, and the namespace service
also when the core does. -/
def FailsClosed : Prop :=
  (input.coreConditions ≠ [] →
    input.coreGate.gateState = "BLOCKED" ∧ input.coreGate.executionAllowed = false) ∧
  (input.coreConditions ≠ [] ∨ input.namespaceConditions ≠ [] →
    input.evaluation.state = "BLOCKED" ∧ input.evaluation.executionAuthority = "DENY")

/-- Whatever else blocks, a denial stays a denial, in both gates. -/
def StaysDenied : Prop :=
  ∀ more : Inputs, input.coreConditions ⊆ more.coreConditions →
    input.namespaceConditions ⊆ more.namespaceConditions →
    (input.coreGate.executionAllowed = false → more.coreGate.executionAllowed = false) ∧
    (input.evaluation.executionAuthority ≠ "ALLOW" → more.evaluation.executionAuthority ≠ "ALLOW")

/-- No condition that blocks holds of what the gates read. -/
structure NothingBlocks : Prop where
  noFailure : ∀ failure ∈ input.validator.blockingFailures,
    normalizeCode failure.stepKey = "" ∧ normalizeCode failure.reasonCode = ""
  noHardCode : ∀ code ∈ input.validator.reasonCodes,
    code = "" ∨ normalizeCode (some code) ∉ hardBlockReasonCodes
  smokePasses : upper (input.coreSmoke.status.getD "") = "PASS"
  noMockedPath : input.validator.executionProof.hasMockedPaths = false
  someRealMetric : 0 < input.validator.executionProof.realMetricCount
  tradingPermitted : input.configRow.tradingPermissionReady = true
  balanceVerified : ∀ code ∈ input.validator.reasonCodes,
    occursIn "BALANCE" (normalizeCode (some code)) = false
  marketDataFresh : ∀ code ∈ input.validator.reasonCodes,
    normalizeCode (some code) ∉ ["MARKET_DATA_MISSING", "MARKET_DATA_STALE"]
  correlationCovered : input.correlationCoverageOk = true
  pathOpen : input.policy.pathOpen = true
  liveEnabled : input.policy.enableFlag = true
  liveValidated : upper input.policy.validationStatus = "VALIDATED"
  exchangeFresh : normalizeCode input.bybitSmoke.status = "PASS"
  proofStored : blank input.artifact.localPath = false
  artifactHealthy : input.artifact.status.getD "" ∈ ["LOCAL_ONLY", "S3_UPLOADED"]
  killSwitchOff : input.configRow.killSwitchEnabled = false

theorem coreGate_open : input.coreGate.gateState = "READY" ∧
    input.coreGate.executionAllowed = true :=
  ⟨rfl, rfl⟩

theorem evaluation_open :
    input.evaluation.executionAuthority = "ALLOW" ∧ input.evaluation.state ≠ "BLOCKED" := by
  have none : (mapBlockers input.coreGate input.bybitSmoke).1 = [] := rfl
  have unblocked : input.evaluation.state =
      if 85 ≤ input.coreGate.readinessScore.getD 0 then "READY" else "DEGRADED" := by
    unfold evaluation evaluateExecutionSafetyGate
    dsimp only
    exact if_neg fun blocked => blocked none
  have authority : input.evaluation.executionAuthority =
      if input.evaluation.state ∈ ["READY", "DEGRADED"] then "ALLOW" else "DENY" := by
    unfold evaluation evaluateExecutionSafetyGate
    dsimp only
    simp only [none, and_true]
  rw [authority, unblocked]
  split
  · decide
  · decide

theorem coreConditions_nil_iff :
    input.coreConditions = [] ↔
      (∀ failure ∈ input.validator.blockingFailures,
        normalizeCode failure.stepKey = "" ∧ normalizeCode failure.reasonCode = "") ∧
      (∀ code ∈ input.validator.reasonCodes,
        code = "" ∨ normalizeCode (some code) ∉ hardBlockReasonCodes) ∧
      upper (input.coreSmoke.status.getD "") = "PASS" ∧
      input.validator.executionProof.hasMockedPaths = false ∧
      0 < input.validator.executionProof.realMetricCount := by
  have stepless : "" ∉ hardBlockStepKeys := by decide
  simp only [coreConditions, blockersDetail, List.append_eq_nil_iff, List.filterMap_eq_nil_iff,
    ite_eq_right_iff, reduceCtorEq, imp_false, List.cons_ne_nil, not_not]
  constructor
  · rintro ⟨⟨⟨⟨⟨failures, codes⟩, smoke⟩, steps⟩, mocked⟩, metrics⟩
    grind
  · rintro ⟨failures, codes, smoke, mocked, metrics⟩
    grind

theorem mem_validatorReasonCodes (code : String) :
    code ∈ input.coreGate.validatorReasonCodes ↔ code ∈ input.validator.reasonCodes := by
  have sorted : input.coreGate.validatorReasonCodes =
      input.validator.reasonCodes.dedup.mergeSort fun first second =>
        decide (first ≤ second) := rfl
  rw [sorted, List.mem_mergeSort, List.mem_dedup]

theorem namespaceConditions_nil_iff :
    input.namespaceConditions = [] ↔
      input.configRow.tradingPermissionReady = true ∧
      (∀ code ∈ input.validator.reasonCodes,
        occursIn "BALANCE" (normalizeCode (some code)) = false) ∧
      input.correlationCoverageOk = true ∧
      (input.policy.pathOpen = true ∧ input.policy.enableFlag = true ∧
        upper input.policy.validationStatus = "VALIDATED") ∧
      (∀ code ∈ input.validator.reasonCodes,
        normalizeCode (some code) ∉ ["MARKET_DATA_MISSING", "MARKET_DATA_STALE"]) ∧
      normalizeCode input.bybitSmoke.status = "PASS" ∧
      blank input.artifact.localPath = false ∧
      input.artifact.status.getD "" ∈ ["LOCAL_ONLY", "S3_UPLOADED"] ∧
      input.configRow.killSwitchEnabled = false := by
  have ready : ¬(upper input.coreGate.gateState = "BLOCKED" ∨
      input.coreGate.hardBlockers ≠ []) := by
    rw [not_or, input.coreGate_open.1]
    exact ⟨by decide +kernel, fun blockers => blockers rfl⟩
  have artifact : input.coreGate.artifact = input.artifact := rfl
  unfold namespaceConditions collectedBlockers
  dsimp only
  rw [if_neg ready, List.nil_append, artifact]
  simp only [List.append_eq_nil_iff, ite_eq_right_iff, List.cons_ne_nil, imp_false, List.any_map,
    List.any_eq_true, Function.comp_apply, mem_validatorReasonCodes, decide_eq_true_eq]
  constructor
  · rintro ⟨⟨⟨⟨⟨⟨⟨⟨⟨permission, balance⟩, correlation⟩, path⟩, live⟩, market⟩, exchange⟩, proof⟩,
      healthy⟩, killSwitch⟩
    grind
  · rintro ⟨permission, balance, correlation, live, market, exchange, proof, healthy, killSwitch⟩
    grind

theorem nothingBlocks_iff :
    input.NothingBlocks ↔ input.coreConditions = [] ∧ input.namespaceConditions = [] := by
  rw [coreConditions_nil_iff, namespaceConditions_nil_iff]
  constructor
  · intro quiet
    exact ⟨⟨quiet.noFailure, quiet.noHardCode, quiet.smokePasses, quiet.noMockedPath,
      quiet.someRealMetric⟩, quiet.tradingPermitted, quiet.balanceVerified,
      quiet.correlationCovered, ⟨quiet.pathOpen, quiet.liveEnabled, quiet.liveValidated⟩,
      quiet.marketDataFresh, quiet.exchangeFresh, quiet.proofStored, quiet.artifactHealthy,
      quiet.killSwitchOff⟩
  · rintro ⟨⟨failures, codes, smoke, mocked, metrics⟩, permission, balance, correlation,
      ⟨path, enabled, validated⟩, market, exchange, proof, healthy, killSwitch⟩
    exact ⟨failures, codes, smoke, mocked, metrics, permission, balance, market, correlation, path,
      enabled, validated, exchange, proof, healthy, killSwitch⟩

theorem staysDenied : input.StaysDenied := by
  intro more _ _
  have allowed : input.coreGate.executionAllowed = true := input.coreGate_open.2
  exact ⟨fun denied => absurd (allowed.symm.trans denied) (by decide),
    fun denied => absurd input.evaluation_open.1 denied⟩

end Inputs

/-- The gates fail closed, and keep their denials, exactly on the inputs where there is
nothing to block: each condition is collected, and then both lists are dropped before the
state and the decision are made. -/
theorem gate_fails_closed_iff (input : Inputs) :
    (input.FailsClosed ∧ input.StaysDenied) ↔ input.NothingBlocks := by
  have authority : input.evaluation.executionAuthority = "ALLOW" := input.evaluation_open.1
  rw [input.nothingBlocks_iff]
  constructor
  · rintro ⟨⟨-, closed⟩, -⟩
    have denied : ¬(input.coreConditions ≠ [] ∨ input.namespaceConditions ≠ []) := by
      intro collected
      have denial : input.evaluation.executionAuthority = "DENY" := (closed collected).2
      exact absurd (authority.symm.trans denial) (by decide)
    simpa [not_or] using denied
  · rintro ⟨core, namespaced⟩
    refine ⟨⟨fun collected => absurd core collected, fun collected => ?_⟩, input.staysDenied⟩
    exact collected.elim (absurd core) (absurd namespaced)

/-- The kill switch is on, the exchange's credentials fail, and nothing else is wrong. -/
def killed : Inputs where
  validator :=
    { readinessState := some "BLOCKED"
      score := some 40
      goLiveAllowed := false
      reasonCodes := ["KILL_SWITCH_ACTIVE"]
      warnings := []
      blockingFailures := [⟨some "kill_switch", some "KILL_SWITCH_ACTIVE", none, none⟩]
      executionProof := ⟨3, false⟩ }
  coreSmoke := ⟨some "FAIL", some "BYBIT_ORDER_SMOKE_AUTH_FAIL", none⟩
  artifact := ⟨some "/app/proof.json", some "LOCAL_ONLY"⟩
  bybitSmoke := ⟨some "FAIL", some "BYBIT_ORDER_SMOKE_AUTH_FAIL", none⟩
  policy := ⟨true, true, "VALIDATED"⟩
  configRow := ⟨true, true⟩
  correlationCoverageOk := true

/-- With the kill switch on and the order smoke failed the core collects four conditions and
the namespace service two; the core gate is ready, and the namespace service allows
execution. -/
theorem killed_gate_allows :
    killed.coreConditions.length = 4 ∧
    killed.namespaceConditions = ["stale_exchange_data", "critical_dependency_unhealthy"] ∧
    killed.coreGate.gateState = "READY" ∧ killed.coreGate.executionAllowed = true ∧
    killed.evaluation.state = "DEGRADED" ∧ killed.evaluation.executionAuthority = "ALLOW" ∧
    ¬killed.FailsClosed := by
  have core : killed.coreConditions.length = 4 := by decide +kernel
  have authority : killed.evaluation.executionAuthority = "ALLOW" := killed.evaluation_open.1
  refine ⟨core, by decide +kernel, rfl, rfl, by decide +kernel, authority, fun closed => ?_⟩
  have collected : killed.coreConditions ≠ [] := by
    intro none
    rw [none] at core
    exact absurd core (by decide)
  have denied : killed.evaluation.executionAuthority = "DENY" := (closed.2 (Or.inl collected)).2
  exact absurd (authority.symm.trans denied) (by decide)

end FailClosed

end Gate
