import Mathlib.Tactic.NormNum
import CoinRobotu.Unified.Core

/-!
# What an extra danger does to a decision

Each stage by itself takes a danger into account: the candidate state grows with the rows of the
matrix and the verdicts, and the policy with the state. A decision can get less severe in two
places. A row of level `CRITICAL` replaces a state that is `BLOCKED` already, and a paused strategy
replaces the decision to block, or to pull the kill switch, by the decision to pause.
-/

namespace Unified

/-- A danger that an input may have in addition. -/
inductive Danger where
  | row (triggered : KillSwitchRow)
  | verdict (item : StrategyAction)

def Danger.toInput (danger : Danger) (input : Input) : Input :=
  match danger with
  | .row _ => input
  | .verdict item => { input with actions := input.actions ++ [item] }

def Danger.toRows (danger : Danger) (rows : KillSwitchRow → Bool) : KillSwitchRow → Bool :=
  match danger with
  | .row triggered => Function.update rows triggered true
  | .verdict _ => rows

def Decision.restriction : Decision → ℕ
  | .allow => 0
  | .allowWithReduce => 1
  | .reduceRisk => 2
  | .pauseStrategy => 3
  | .blockNewOrders => 4
  | .killSwitch => 5

/-- The second outcome is at least as severe as the first one, and its policy at least as
restrictive. -/
structure Outcome.AtMost (before after : Outcome) : Prop where
  state : before.globalRiskState ≤ after.globalRiskState
  blocks : before.executionPolicy.blockNewOrders → after.executionPolicy.blockNewOrders
  size : after.executionPolicy.reduceSizeMultiplier ≤ before.executionPolicy.reduceSizeMultiplier
  decision : before.executionPolicy.decision.restriction ≤
    after.executionPolicy.decision.restriction

section Stages

variable {measures : Measures} {limits : Thresholds} {actions : List StrategyAction}
  {rows : KillSwitchRow → Bool}

theorem acts_append {item : StrategyAction} {action : Action} :
    acts (actions ++ [item]) action = (acts actions action || decide (item.action = action)) := by
  rw [acts, List.any_append, List.any_cons, List.any_nil, Bool.or_false, acts]

theorem RiskState.le_blocked (state : RiskState) : state ≤ .blocked := by
  cases state <;> decide

theorem RiskState.lt_critical_or (state : RiskState) :
    state ≤ .high ∨ state = .critical ∨ state = .blocked := by
  cases state <;> decide

theorem machine_eq_blocked :
    (riskStateMachine measures limits actions).1 = .blocked ↔
      IsBlocked measures limits actions := by
  unfold riskStateMachine
  dsimp only
  split_ifs <;> simp_all

theorem critical_le_machine :
    .critical ≤ (riskStateMachine measures limits actions).1 ↔
      IsCritical measures limits actions ∨ IsBlocked measures limits actions := by
  unfold riskStateMachine
  dsimp only
  split_ifs <;> simp_all <;> decide

theorem killSwitchMatrix_level : (killSwitchMatrix rows actions).level =
    if acts actions .block ∨ rows .liquidationTail then some .blocked
    else if rows .varStress ∨ rows .marginCluster then some .critical else none := by
  unfold killSwitchMatrix
  dsimp only
  split_ifs <;> simp_all

end Stages

section Hysteresis

variable {measures : Measures} {limits : Thresholds} {previous : Option RiskState}
  {candidate : RiskState}

def Kept (measures : Measures) (limits : Thresholds) (previous : Option RiskState)
    (candidate state : RiskState) : Prop :=
  previous = some state ∧ candidate < state ∧ (state = .blocked → candidate < .critical) ∧
    Holds measures limits state

theorem applyHysteresis_of_kept {state : RiskState}
    (kept : Kept measures limits previous candidate state) :
    applyHysteresis measures limits previous candidate = state := by
  obtain ⟨rfl, less, notCritical, holds⟩ := kept
  have passed : ¬(state = .blocked ∧ .critical ≤ candidate) := fun ⟨isBlocked, critical⟩ =>
    absurd (notCritical isBlocked) (not_lt.mpr critical)
  simp only [applyHysteresis, if_neg (not_le.mpr less), if_neg passed, if_pos holds]

theorem applyHysteresis_of_not_kept
    (released : ∀ state, ¬Kept measures limits previous candidate state) :
    applyHysteresis measures limits previous candidate = candidate := by
  cases previous with
  | none => rfl
  | some state =>
    simp only [applyHysteresis]
    split_ifs with atLeast passed holds
    · rfl
    · rfl
    · refine absurd ⟨rfl, not_le.mp atLeast, fun isBlocked => ?_, holds⟩ (released state)
      exact not_le.mp fun critical => passed ⟨isBlocked, critical⟩
    · rfl

theorem applyHysteresis_cases (measures : Measures) (limits : Thresholds)
    (previous : Option RiskState) (candidate : RiskState) :
    (∃ state, Kept measures limits previous candidate state ∧
      applyHysteresis measures limits previous candidate = state) ∨
    (∀ state, ¬Kept measures limits previous candidate state) ∧
      applyHysteresis measures limits previous candidate = candidate := by
  by_cases kept : ∃ state, Kept measures limits previous candidate state
  · obtain ⟨state, kept⟩ := kept
    exact Or.inl ⟨state, kept, applyHysteresis_of_kept kept⟩
  · have released := not_exists.mp kept
    exact Or.inr ⟨released, applyHysteresis_of_not_kept released⟩

theorem le_applyHysteresis :
    candidate ≤ applyHysteresis measures limits previous candidate := by
  obtain ⟨state, kept, result⟩ | ⟨_, result⟩ :=
    applyHysteresis_cases measures limits previous candidate
  · rw [result]
    exact kept.2.1.le
  · exact result.ge

theorem applyHysteresis_of_critical (critical : .critical ≤ candidate) :
    applyHysteresis measures limits previous candidate = candidate := by
  refine applyHysteresis_of_not_kept fun state kept => ?_
  obtain ⟨_, less, notCritical, _⟩ := kept
  have isBlocked : state = .blocked := by
    have above := critical.trans_lt less
    revert above
    cases state <;> decide
  exact absurd (notCritical isBlocked) (not_lt.mpr critical)

theorem applyHysteresis_eq_blocked :
    applyHysteresis measures limits previous candidate = .blocked ↔
      candidate = .blocked ∨ previous = some .blocked ∧ candidate < .critical ∧
        Holds measures limits .blocked := by
  constructor
  · intro isBlocked
    obtain ⟨state, ⟨known, _, notCritical, holds⟩, result⟩ | ⟨_, result⟩ :=
      applyHysteresis_cases measures limits previous candidate
    · obtain rfl : state = .blocked := result.symm.trans isBlocked
      exact Or.inr ⟨known, notCritical rfl, holds⟩
    · exact Or.inl (result.symm.trans isBlocked)
  · rintro (rfl | ⟨known, notCritical, holds⟩)
    · exact applyHysteresis_of_critical (by decide)
    · exact applyHysteresis_of_kept
        ⟨known, notCritical.trans (by decide), fun _ => notCritical, holds⟩

theorem critical_le_applyHysteresis :
    .critical ≤ applyHysteresis measures limits previous candidate ↔
      .critical ≤ candidate ∨ ∃ state, .critical ≤ state ∧ previous = some state ∧
        Holds measures limits state := by
  constructor
  · intro critical
    obtain ⟨state, ⟨known, _, _, holds⟩, result⟩ | ⟨_, result⟩ :=
      applyHysteresis_cases measures limits previous candidate
    · exact Or.inr ⟨state, critical.trans_eq result, known, holds⟩
    · exact Or.inl (critical.trans_eq result)
  · rintro (critical | ⟨state, critical, known, holds⟩)
    · exact critical.trans le_applyHysteresis
    · by_cases already : RiskState.critical ≤ candidate
      · exact already.trans le_applyHysteresis
      · have below := not_le.mp already
        rw [applyHysteresis_of_kept ⟨known, below.trans_le critical, fun _ => below, holds⟩]
        exact critical

end Hysteresis

section Policies

variable {state other : RiskState}

/-- A policy is at least as restrictive as another one. -/
structure ExecutionPolicy.AtMost (before after : ExecutionPolicy) : Prop where
  blocks : before.blockNewOrders → after.blockNewOrders
  size : after.reduceSizeMultiplier ≤ before.reduceSizeMultiplier
  decision : before.decision.restriction ≤ after.decision.restriction

theorem executionPolicy_mono (atLeast : state ≤ other) :
    (executionPolicyFromState state).AtMost (executionPolicyFromState other) := by
  constructor
  · revert atLeast; cases state <;> cases other <;> decide
  · revert atLeast; cases state <;> cases other <;> decide +kernel
  · revert atLeast; cases state <;> cases other <;> decide

theorem executionPolicy_of_critical (critical : .critical ≤ state) :
    (executionPolicyFromState state).blockNewOrders = true ∧
      (executionPolicyFromState state).reduceSizeMultiplier = 0 ∧
      Decision.pauseStrategy.restriction <
        (executionPolicyFromState state).decision.restriction := by
  revert critical
  cases state <;> decide

theorem executionPolicy_of_not_critical (less : state < .critical) :
    (executionPolicyFromState state).decision.restriction ≤ Decision.reduceRisk.restriction ∧
      0 < (executionPolicyFromState state).reduceSizeMultiplier := by
  revert less
  cases state <;> decide +kernel

theorem throttled_blockNewOrders (policy : ExecutionPolicy) :
    policy.throttled.blockNewOrders = policy.blockNewOrders := by
  unfold ExecutionPolicy.throttled
  split <;> rfl

theorem throttled_size (policy : ExecutionPolicy) :
    policy.throttled.reduceSizeMultiplier = min policy.reduceSizeMultiplier (7 / 10) := by
  unfold ExecutionPolicy.throttled
  split
  · next larger => exact (min_eq_right larger.le).symm
  · next small => exact (min_eq_left (not_lt.mp small)).symm

theorem throttled_restriction :
    (executionPolicyFromState state).throttled.decision.restriction =
      max (executionPolicyFromState state).decision.restriction
        Decision.reduceRisk.restriction := by
  cases state <;> decide +kernel

def overwritten (actions : List StrategyAction) (policy : ExecutionPolicy) : ExecutionPolicy :=
  let policy := if acts actions .throttle then policy.throttled else policy
  let policy := if acts actions .pause then policy.paused else policy
  if acts actions .block then policy.blocked else policy

variable {actions others : List StrategyAction}

theorem overwritten_blockNewOrders {policy : ExecutionPolicy} :
    (overwritten actions policy).blockNewOrders =
      (policy.blockNewOrders || acts actions .block) := by
  have throttle := throttled_blockNewOrders policy
  unfold overwritten ExecutionPolicy.paused ExecutionPolicy.blocked
  cases acts actions .throttle <;> cases acts actions .pause <;> cases acts actions .block <;>
    simp [throttle]

theorem overwritten_size {policy : ExecutionPolicy} :
    (overwritten actions policy).reduceSizeMultiplier =
      if acts actions .throttle then min policy.reduceSizeMultiplier (7 / 10)
      else policy.reduceSizeMultiplier := by
  have throttle := throttled_size policy
  unfold overwritten ExecutionPolicy.paused ExecutionPolicy.blocked
  cases acts actions .throttle <;> cases acts actions .pause <;> cases acts actions .block <;>
    simp [throttle]

theorem overwritten_decision {policy : ExecutionPolicy} :
    (overwritten actions policy).decision =
      if acts actions .block then .killSwitch
      else if acts actions .pause then .pauseStrategy
      else if acts actions .throttle then policy.throttled.decision else policy.decision := by
  unfold overwritten ExecutionPolicy.paused ExecutionPolicy.blocked
  cases acts actions .throttle <;> cases acts actions .pause <;> cases acts actions .block <;>
    rfl

theorem Decision.restriction_le (decision : Decision) :
    decision.restriction ≤ Decision.killSwitch.restriction := by
  cases decision <;> decide

/-- Verdicts that throttle and block wherever others do, and pause alike where they do not block,
keep the order of the policies of two states. -/
theorem overwritten_mono (atLeast : state ≤ other)
    (throttles : acts actions .throttle → acts others .throttle)
    (pauses : ¬acts others .block → acts others .pause = acts actions .pause)
    (blocks : acts actions .block → acts others .block) :
    (overwritten actions (executionPolicyFromState state)).AtMost
      (overwritten others (executionPolicyFromState other)) := by
  obtain ⟨baseBlocks, baseSize, baseDecision⟩ := executionPolicy_mono atLeast
  refine ⟨?_, ?_, ?_⟩
  · rw [overwritten_blockNewOrders, overwritten_blockNewOrders, Bool.or_eq_true, Bool.or_eq_true]
    exact Or.imp baseBlocks blocks
  · rw [overwritten_size, overwritten_size]
    by_cases throttle : acts actions .throttle
    · rw [if_pos throttle, if_pos (throttles throttle)]
      exact min_le_min_right _ baseSize
    · rw [if_neg throttle]
      split
      · exact (min_le_left _ _).trans baseSize
      · exact baseSize
  · rw [overwritten_decision, overwritten_decision]
    by_cases block : acts others .block
    · rw [if_pos block]
      exact Decision.restriction_le _
    · rw [if_neg block, if_neg fun before => block (blocks before), pauses block]
      by_cases pause : acts actions .pause
      · rw [if_pos pause, if_pos pause]
      · rw [if_neg pause, if_neg pause]
        by_cases throttle : acts actions .throttle
        · rw [if_pos throttle, if_pos (throttles throttle), throttled_restriction,
            throttled_restriction]
          exact max_le_max_right _ baseDecision
        · rw [if_neg throttle]
          split
          · rw [throttled_restriction]
            exact baseDecision.trans (le_max_left _ _)
          · exact baseDecision

end Policies

section Decisions

variable {input other : Input} {rows others : KillSwitchRow → Bool}

theorem decideRisk_policy : (decideRisk input rows).executionPolicy =
    overwritten input.actions (executionPolicyFromState (settledState input rows)) := by
  unfold decideRisk overwritten
  cases acts input.actions .block <;> rfl

theorem decideRisk_state : (decideRisk input rows).globalRiskState =
    if acts input.actions .block then .blocked else settledState input rows := by
  unfold decideRisk
  cases acts input.actions .block <;> rfl

theorem decideRisk_mono (atLeast : settledState input rows ≤ settledState other others)
    (throttles : acts input.actions .throttle → acts other.actions .throttle)
    (pauses : ¬acts other.actions .block → acts other.actions .pause = acts input.actions .pause)
    (blocks : acts input.actions .block → acts other.actions .block) :
    (decideRisk input rows).AtMost (decideRisk other others) := by
  obtain ⟨policyBlocks, size, decision⟩ := overwritten_mono atLeast throttles pauses blocks
  rw [← decideRisk_policy, ← decideRisk_policy] at policyBlocks size decision
  refine ⟨?_, policyBlocks, size, decision⟩
  rw [decideRisk_state, decideRisk_state]
  by_cases block : acts other.actions .block
  · rw [if_pos block]
    exact RiskState.le_blocked _
  · rwa [if_neg block, if_neg fun before => block (blocks before)]

/-- The settled state is blocked where a row of level `BLOCKED` is triggered or a strategy is
blocked. -/
theorem settledState_of_blocking (blocking : acts input.actions .block ∨ rows .liquidationTail) :
    settledState input rows = .blocked := by
  have candidate : candidateState input rows = .blocked := by
    rw [candidateState, killSwitchMatrix_level, if_pos blocking, Option.getD_some]
  rw [settledState, candidate]
  exact applyHysteresis_of_critical (by decide)

theorem settledState_of_critical_row
    (notBlocking : ¬(acts input.actions .block ∨ rows .liquidationTail))
    (row : rows .varStress ∨ rows .marginCluster) : settledState input rows = .critical := by
  have candidate : candidateState input rows = .critical := by
    rw [candidateState, killSwitchMatrix_level, if_neg notBlocking, if_pos row, Option.getD_some]
  rw [settledState, candidate]
  exact applyHysteresis_of_critical le_rfl

theorem candidateState_of_no_row
    (notBlocking : ¬(acts input.actions .block ∨ rows .liquidationTail))
    (noRow : ¬(rows .varStress ∨ rows .marginCluster)) : candidateState input rows =
      (riskStateMachine input.measures input.thresholds input.actions).1 := by
  rw [candidateState, killSwitchMatrix_level, if_neg notBlocking, if_neg noRow, Option.getD_none]

/-- The measures and the previous state are blocked without any row of the matrix. -/
def BlockedBefore (input : Input) : Prop :=
  IsBlocked input.measures input.thresholds input.actions ∨
    ¬IsCritical input.measures input.thresholds input.actions ∧
      input.previous = some .blocked ∧ Holds input.measures input.thresholds .blocked

/-- The measures, the previous state or a row of the matrix block new orders. -/
def CriticalBefore (input : Input) (rows : KillSwitchRow → Bool) : Prop :=
  (∃ row, rows row) ∨ IsCritical input.measures input.thresholds input.actions ∨
    IsBlocked input.measures input.thresholds input.actions ∨
      ∃ state, .critical ≤ state ∧ input.previous = some state ∧
        Holds input.measures input.thresholds state

/-- The danger leaves no outcome less severe. -/
def Danger.Harmless (input : Input) (rows : KillSwitchRow → Bool) : Danger → Prop
  | .row .liquidationTail => True
  | .row _ => acts input.actions .block ∨ (∃ row, rows row) ∨ ¬BlockedBefore input
  | .verdict item => item.action = .pause → acts input.actions .block ∨
      acts input.actions .pause ∨ ¬CriticalBefore input rows

theorem settledState_eq_blocked
    (notBlocking : ¬(acts input.actions .block ∨ rows .liquidationTail))
    (noRow : ¬(rows .varStress ∨ rows .marginCluster)) :
    settledState input rows = .blocked ↔ BlockedBefore input := by
  rw [settledState, applyHysteresis_eq_blocked, candidateState_of_no_row notBlocking noRow,
    machine_eq_blocked, ← not_le, critical_le_machine, BlockedBefore, not_or]
  tauto

theorem exists_row : (∃ row, rows row = true) ↔
    rows .marginCluster ∨ rows .varStress ∨ rows .liquidationTail := by
  constructor
  · rintro ⟨row, triggered⟩
    cases row <;> tauto
  · rintro (triggered | triggered | triggered) <;> exact ⟨_, triggered⟩

theorem critical_le_settledState :
    .critical ≤ settledState input rows ↔ CriticalBefore input rows := by
  by_cases blocking : acts input.actions .block ∨ rows .liquidationTail
  · rw [settledState_of_blocking blocking]
    refine ⟨fun _ => ?_, fun _ => by decide⟩
    rcases blocking with block | row
    · exact Or.inr (Or.inr (Or.inl (Or.inr (Or.inr (Or.inr block)))))
    · exact Or.inl ⟨_, row⟩
  · by_cases row : rows .varStress ∨ rows .marginCluster
    · rw [settledState_of_critical_row blocking row]
      refine ⟨fun _ => Or.inl ?_, fun _ => le_rfl⟩
      rcases row with row | row <;> exact ⟨_, row⟩
    · have none : ¬∃ row, rows row = true := by
        rw [exists_row]
        tauto
      rw [settledState, critical_le_applyHysteresis, candidateState_of_no_row blocking row,
        critical_le_machine, CriticalBefore, or_assoc]
      tauto

/-- A row of level `CRITICAL` is harmless unless it replaces a state that is blocked. -/
theorem critical_row_iff {row : KillSwitchRow} (critical : row ≠ .liquidationTail) :
    (decideRisk input rows).AtMost (decideRisk input (Function.update rows row true)) ↔
      acts input.actions .block ∨ (∃ row, rows row) ∨ ¬BlockedBefore input := by
  have tail : Function.update rows row true .liquidationTail = rows .liquidationTail :=
    Function.update_of_ne critical.symm _ _
  have mono (atLeast : settledState input rows ≤
      settledState input (Function.update rows row true)) :
      (decideRisk input rows).AtMost (decideRisk input (Function.update rows row true)) :=
    decideRisk_mono atLeast id (fun _ => rfl) id
  by_cases blocking : acts input.actions .block ∨ rows .liquidationTail
  · have after : settledState input (Function.update rows row true) = .blocked :=
      settledState_of_blocking (by rwa [tail])
    refine ⟨fun _ => ?_, fun _ => mono (by rw [after]; exact RiskState.le_blocked _)⟩
    exact Or.imp_right (fun triggered => Or.inl ⟨_, triggered⟩) blocking
  · have after : settledState input (Function.update rows row true) = .critical := by
      refine settledState_of_critical_row (by rwa [tail]) ?_
      cases row with
      | marginCluster => exact Or.inr (Function.update_self _ _ _)
      | varStress => exact Or.inl (Function.update_self _ _ _)
      | liquidationTail => exact absurd rfl critical
    by_cases already : rows .varStress ∨ rows .marginCluster
    · refine ⟨fun _ => Or.inr (Or.inl ?_), fun _ => mono ?_⟩
      · rcases already with triggered | triggered <;> exact ⟨_, triggered⟩
      · rw [after, settledState_of_critical_row blocking already]
    · have noRow : ¬∃ row, rows row = true := by
        rw [exists_row]
        tauto
      have notBlock : ¬acts input.actions .block = true := fun block => blocking (Or.inl block)
      rw [← settledState_eq_blocked blocking already]
      constructor
      · intro atMost
        have states := atMost.state
        rw [decideRisk_state, decideRisk_state, if_neg notBlock, if_neg notBlock, after] at states
        refine Or.inr (Or.inr fun isBlocked => ?_)
        rw [isBlocked] at states
        exact absurd states (by decide)
      · rintro (block | triggered | released)
        · exact absurd block notBlock
        · exact absurd triggered noRow
        · refine mono ?_
          rw [after]
          obtain isLess | isCritical | isBlocked :=
            RiskState.lt_critical_or (settledState input rows)
          · exact isLess.trans (by decide)
          · exact isCritical.le
          · exact absurd isBlocked released

theorem settledState_congr {actions : List StrategyAction}
    (pause : acts actions .pause = acts input.actions .pause)
    (block : acts actions .block = acts input.actions .block) :
    settledState { input with actions := actions } rows = settledState input rows := by
  have critical : IsCritical input.measures input.thresholds actions =
      IsCritical input.measures input.thresholds input.actions := by
    rw [IsCritical, IsCritical, pause]
  have blocked : IsBlocked input.measures input.thresholds actions =
      IsBlocked input.measures input.thresholds input.actions := by
    rw [IsBlocked, IsBlocked, block]
  have machine : (riskStateMachine input.measures input.thresholds actions).1 =
      (riskStateMachine input.measures input.thresholds input.actions).1 := by
    simp only [riskStateMachine, critical, blocked]
  simp only [settledState, candidateState, killSwitchMatrix_level, block, machine]

variable {item : StrategyAction}

theorem verdict_atMost (notPause : item.action ≠ .pause) :
    (decideRisk input rows).AtMost
      (decideRisk { input with actions := input.actions ++ [item] } rows) := by
  have pause : acts (input.actions ++ [item]) .pause = acts input.actions .pause := by
    rw [acts_append, decide_eq_false notPause, Bool.or_false]
  refine decideRisk_mono ?_ ?_ (fun _ => pause) ?_
  · by_cases block : item.action = .block
    · have after : acts (input.actions ++ [item]) .block := by
        rw [acts_append, decide_eq_true block, Bool.or_true]
      have settled : settledState { input with actions := input.actions ++ [item] } rows =
          .blocked := settledState_of_blocking (Or.inl after)
      exact (RiskState.le_blocked _).trans_eq settled.symm
    · rw [settledState_congr pause (by rw [acts_append, decide_eq_false block, Bool.or_false])]
  · exact fun before => by rw [acts_append, before, Bool.true_or]
  · exact fun before => by rw [acts_append, before, Bool.true_or]

/-- A pause replaces the decision of a state that is critical or blocked. -/
theorem new_pause_iff (pauses : item.action = .pause) (noPause : ¬acts input.actions .pause)
    (noBlock : ¬acts input.actions .block) :
    (decideRisk input rows).AtMost
        (decideRisk { input with actions := input.actions ++ [item] } rows) ↔
      ¬CriticalBefore input rows := by
  set after : Input := { input with actions := input.actions ++ [item] } with isAfter
  have pause : acts after.actions .pause := by
    rw [isAfter, acts_append, decide_eq_true pauses, Bool.or_true]
  have block : ¬acts after.actions .block := by
    rw [isAfter, acts_append, pauses]
    simpa using noBlock
  have critical : .critical ≤ settledState after rows :=
    critical_le_settledState.mpr (Or.inr (Or.inl
      (Or.inr (Or.inr (Or.inr (Or.inr (Or.inr pause)))))))
  obtain ⟨blocks, noSize, _⟩ := executionPolicy_of_critical critical
  have paused : (decideRisk after rows).executionPolicy.decision = .pauseStrategy := by
    rw [decideRisk_policy, overwritten_decision, if_neg block, if_pos pause]
  have decision : (decideRisk input rows).executionPolicy.decision =
      if acts input.actions .throttle then
        (executionPolicyFromState (settledState input rows)).throttled.decision
      else (executionPolicyFromState (settledState input rows)).decision := by
    rw [decideRisk_policy, overwritten_decision, if_neg noBlock, if_neg noPause]
  rw [← critical_le_settledState]
  constructor
  · intro atMost before
    have atLeast := atMost.decision
    obtain ⟨_, _, above⟩ := executionPolicy_of_critical before
    rw [paused, decision] at atLeast
    split at atLeast
    · rw [throttled_restriction] at atLeast
      exact absurd ((le_max_left _ _).trans atLeast) (not_le.mpr above)
    · exact absurd atLeast (not_le.mpr above)
  · intro notBefore
    have below := not_le.mp notBefore
    obtain ⟨small, positive⟩ := executionPolicy_of_not_critical below
    refine ⟨?_, ?_, ?_, ?_⟩
    · rw [decideRisk_state, decideRisk_state, if_neg noBlock, if_neg block]
      exact (below.trans_le critical).le
    · intro _
      rw [decideRisk_policy, overwritten_blockNewOrders, blocks, Bool.true_or]
    · have atMostSeven : (0 : ℚ) ≤ 7 / 10 := by norm_num
      rw [decideRisk_policy, decideRisk_policy, overwritten_size, overwritten_size, noSize,
        min_eq_left atMostSeven, ite_self]
      split
      · exact le_min positive.le atMostSeven
      · exact positive.le
    · rw [paused, decision]
      split
      · rw [throttled_restriction]
        exact max_le (small.trans (by decide)) (by decide)
      · exact small.trans (by decide)

/-- An extra danger leaves the outcome at least as severe just when it is harmless. -/
theorem atMost_iff_harmless (danger : Danger) :
    (decideRisk input rows).AtMost (decideRisk (danger.toInput input) (danger.toRows rows)) ↔
      danger.Harmless input rows := by
  cases danger with
  | row triggered =>
    cases triggered with
    | marginCluster => exact critical_row_iff (by decide)
    | varStress => exact critical_row_iff (by decide)
    | liquidationTail =>
      refine ⟨fun _ => trivial, fun _ => decideRisk_mono ?_ id (fun _ => rfl) id⟩
      have after : settledState input (Function.update rows .liquidationTail true) = .blocked :=
        settledState_of_blocking (Or.inr (Function.update_self _ _ _))
      exact (RiskState.le_blocked _).trans_eq after.symm
  | verdict item =>
    by_cases pauses : item.action = .pause
    · by_cases block : acts input.actions .block
      · have after : acts (input.actions ++ [item]) .block := by
          rw [acts_append, block, Bool.true_or]
        refine ⟨fun _ _ => Or.inl block, fun _ => decideRisk_mono ?_ ?_ ?_ ?_⟩
        · have settled : settledState (Danger.toInput (.verdict item) input) rows = .blocked :=
            settledState_of_blocking (Or.inl after)
          exact (RiskState.le_blocked _).trans_eq settled.symm
        · exact fun before => by
            change acts (input.actions ++ [item]) .throttle = true
            rw [acts_append, before, Bool.true_or]
        · exact fun notBlock => absurd after notBlock
        · exact fun _ => after
      · by_cases pause : acts input.actions .pause
        · refine ⟨fun _ _ => Or.inr (Or.inl pause), fun _ => decideRisk_mono ?_ ?_ ?_ ?_⟩
          · refine le_of_eq (settledState_congr ?_ ?_).symm
            · rw [acts_append, pause, Bool.true_or]
            · rw [acts_append, pauses]
              simp
          · exact fun before => by
              change acts (input.actions ++ [item]) .throttle = true
              rw [acts_append, before, Bool.true_or]
          · intro _
            change acts (input.actions ++ [item]) .pause = _
            rw [acts_append, pause, Bool.true_or]
          · exact fun before => absurd before block
        · refine (new_pause_iff pauses pause block).trans
            ⟨fun released _ => Or.inr (Or.inr released), fun harmless => ?_⟩
          rcases harmless pauses with before | before | released
          · exact absurd before block
          · exact absurd before pause
          · exact released
    · exact ⟨fun _ isPause => absurd isPause pauses, fun _ => verdict_atMost pauses⟩

theorem critical_le_of_pause (pause : acts input.actions .pause) :
    .critical ≤ settledState input rows :=
  critical_le_settledState.mpr (Or.inr (Or.inl
    (Or.inr (Or.inr (Or.inr (Or.inr (Or.inr pause)))))))

theorem stays_blocked_iff :
    ((riskStateMachine input.measures input.thresholds input.actions).1 = .blocked →
        (decideRisk input rows).globalRiskState = .blocked) ↔
      ¬(IsBlocked input.measures input.thresholds input.actions ∧
        (rows .varStress ∨ rows .marginCluster) ∧
          ¬(acts input.actions .block ∨ rows .liquidationTail)) := by
  rw [machine_eq_blocked, decideRisk_state]
  constructor
  · rintro stays ⟨isBlocked, row, notBlocking⟩
    have state := stays isBlocked
    rw [if_neg fun block => notBlocking (Or.inl block),
      settledState_of_critical_row notBlocking row] at state
    exact absurd state (by decide)
  · intro notReplaced isBlocked
    by_cases blocking : acts input.actions .block ∨ rows .liquidationTail
    · rw [settledState_of_blocking blocking, ite_self]
    · have noRow : ¬(rows .varStress ∨ rows .marginCluster) := fun row =>
        notReplaced ⟨isBlocked, row, blocking⟩
      rw [(settledState_eq_blocked blocking noRow).mpr (Or.inl isBlocked), ite_self]

/-- A decision to block or to pull the kill switch is replaced by a pause just when a strategy is
paused and none is blocked. -/
theorem not_paused_iff :
    ¬((executionPolicyFromState (settledState input rows)).decision ∈
          [.blockNewOrders, .killSwitch] ∧
        (decideRisk input rows).executionPolicy.decision = .pauseStrategy) ↔
      (acts input.actions .pause → acts input.actions .block) := by
  rw [decideRisk_policy, overwritten_decision]
  constructor
  · intro notReplaced pause
    by_contra notBlock
    refine notReplaced ⟨?_, by rw [if_neg notBlock, if_pos pause]⟩
    have critical : .critical ≤ settledState input rows := critical_le_of_pause pause
    revert critical
    cases settledState input rows <;> decide
  · rintro blocks ⟨blocking, replaced⟩
    by_cases block : acts input.actions .block
    · rw [if_pos block] at replaced
      cases replaced
    · rw [if_neg block, if_neg fun pause => block (blocks pause)] at replaced
      revert blocking replaced
      cases settledState input rows <;> cases acts input.actions .throttle <;> decide +kernel

/-- An extra danger leaves the outcome at least as severe just when it is harmless; a blocked state
stays blocked and a blocking decision is not replaced by a pause, each just outside the case that
overwrites it. -/
theorem extra_danger_iff (input : Input) (rows : KillSwitchRow → Bool) (danger : Danger) :
    ((decideRisk input rows).AtMost (decideRisk (danger.toInput input) (danger.toRows rows)) ↔
        danger.Harmless input rows) ∧
      (((riskStateMachine input.measures input.thresholds input.actions).1 = .blocked →
          (decideRisk input rows).globalRiskState = .blocked) ↔
        ¬(IsBlocked input.measures input.thresholds input.actions ∧
          (rows .varStress ∨ rows .marginCluster) ∧
            ¬(acts input.actions .block ∨ rows .liquidationTail))) ∧
      (¬((executionPolicyFromState (settledState input rows)).decision ∈
            [.blockNewOrders, .killSwitch] ∧
          (decideRisk input rows).executionPolicy.decision = .pauseStrategy) ↔
        (acts input.actions .pause → acts input.actions .block)) :=
  ⟨atMost_iff_harmless danger, stays_blocked_iff, not_paused_iff⟩

def strained (marginUsagePct : ℚ) : Measures where
  minLiquidationBufferPct := 20
  marginUsagePct := marginUsagePct
  riskBudgetBreaches := 0
  clusterScore := 7 / 10
  tailVar := 0
  tailCvar := 0
  stressLossRatio := 0

/-- The row that is triggered by a blocked portfolio makes it critical, and a paused strategy
replaces the decision to block new orders. -/
theorem extra_danger_lowers :
    (¬(decideRisk ⟨strained 95, defaultThresholds, [], none⟩ fun _ => false).AtMost
        (decideRisk ⟨strained 95, defaultThresholds, [], none⟩
          (triggeredRows (strained 95) defaultThresholds))) ∧
      (runUnifiedRiskOrchestrator (strained 85) defaultThresholds (fun _ => 0) []
          none).executionPolicy.decision = .blockNewOrders ∧
      (runUnifiedRiskOrchestrator (strained 85) defaultThresholds (fun _ => 0)
          [⟨some "s", some 2, some 1⟩] none).executionPolicy.decision = .pauseStrategy := by
  refine ⟨fun atMost => absurd atMost.state ?_, ?_⟩ <;> decide +kernel

end Decisions

end Unified
