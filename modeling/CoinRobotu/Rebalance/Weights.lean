import Mathlib.Algebra.Order.BigOperators.Group.List
import CoinRobotu.Numeric.Moves
import CoinRobotu.Rebalance.Engine

/-!
# What a rebalance leaves of the weights

Up to the rounding of the stored weights a strategy outside of its cadence window moves to its
target as far as the smaller of the two shift limits lets it, and any other stays.
-/

namespace Rebalance

open Numeric

/-- The smaller of the two shift limits; a capital shift of zero limits nothing. -/
def Limits.shiftLimit (limits : Limits) : ℚ :=
  if 0 < limits.maxCapitalShiftPct then
    min limits.maxWeightShiftPerCycle limits.maxCapitalShiftPct
  else limits.maxWeightShiftPerCycle

def Strategy.move (limits : Limits) (now total : ℚ) (strategy : Strategy) : ℚ :=
  if strategy.cadenceBlocked limits now then 0
  else limited limits.shiftLimit (rawTargetWeight total strategy - strategy.currentWeight)

/-- The old weights: none is negative, and they sum to at most one. -/
structure WellWeighted (strategies : List Strategy) : Prop where
  nonneg : ∀ strategy ∈ strategies, 0 ≤ strategy.currentWeight
  sum_le : (strategies.map Strategy.currentWeight).sum ≤ 1

/-- What the strategies gain is covered by what is free and what the others lose, up to a slack. -/
def Affordable (limits : Limits) (now : ℚ) (strategies : List Strategy) (slack : ℚ) : Prop :=
  let total := totalScore strategies
  (strategies.map fun strategy => max (strategy.move limits now total) 0).sum ≤
    1 - (strategies.map Strategy.currentWeight).sum +
      (strategies.map fun strategy => max (-strategy.move limits now total) 0).sum + slack

def Rebalanced.newWeights (rebalanced : Rebalanced) : List ℚ :=
  rebalanced.events.map Event.newStrategyWeight

/-- What a move keeps to, up to the rounding of the stored weights and shifts: both limits, where
the one on the capital is not zero, a shift that is the move of the weight, a cadence window, and
the target. -/
structure Governed (limits : Limits) (now : ℚ) (strategy : Strategy) (event : Event) : Prop where
  weight : |event.newStrategyWeight - event.oldStrategyWeight| ≤
    limits.maxWeightShiftPerCycle + 3 / 2 / 10 ^ 6
  capital : 0 < limits.maxCapitalShiftPct → |event.capitalShift| ≤
    strategy.capitalCeiling * (limits.maxCapitalShiftPct + 1 / 2 / 10 ^ 6) + 1 / 2 / 10 ^ 4
  shifted : |event.capitalShift - (event.newStrategyWeight - event.oldStrategyWeight) *
    strategy.capitalCeiling| ≤ strategy.capitalCeiling / 10 ^ 6 + 1 / 2 / 10 ^ 4
  blocked : strategy.cadenceBlocked limits now = true →
    event.newStrategyWeight = event.oldStrategyWeight
  beyondNone : min event.oldStrategyWeight event.targetStrategyWeight - 3 / 2 / 10 ^ 6 ≤
      event.newStrategyWeight ∧
    event.newStrategyWeight ≤
      max event.oldStrategyWeight event.targetStrategyWeight + 3 / 2 / 10 ^ 6

section Steps

variable {limits : Limits} {now total maxCapital currentWeight target : ℚ} {strategy : Strategy}

/-- Neither of the shift limits is negative. -/
structure Limits.Sound (limits : Limits) : Prop where
  weight : 0 ≤ limits.maxWeightShiftPerCycle
  capital : 0 ≤ limits.maxCapitalShiftPct

theorem Governance.limits_sound (governance : Governance) (driftThreshold : ℚ) :
    (governance.limits driftThreshold).Sound :=
  ⟨le_max_left _ _, le_max_left _ _⟩

theorem Strategy.score_pos : 0 < strategy.score := lt_max_of_lt_right (by norm_num)

theorem totalScore_nonneg (strategies : List Strategy) : 0 ≤ totalScore strategies := by
  apply List.sum_nonneg
  intro score inside
  obtain ⟨strategy, _, rfl⟩ := List.mem_map.mp inside
  exact Strategy.score_pos.le

theorem rawTargetWeight_nonneg (nonneg : 0 ≤ total) : 0 ≤ rawTargetWeight total strategy :=
  roundTo_nonneg 6 (div_nonneg Strategy.score_pos.le nonneg)

theorem abs_stored_sub_le (value : ℚ) : |roundTo 6 value - value| ≤ 1 / 2 / 10 ^ 6 :=
  abs_roundTo_sub_le 6 value

/-- A weight that moves to a target, as it is stored: the target itself, or the rounded weight
where the limit cuts the move off. -/
def moved (limit weight target : ℚ) : ℚ :=
  if limit < |target - weight| then roundTo 6 (weight + limited limit (target - weight)) else target

theorem moved_near {limit weight : ℚ} :
    |moved limit weight target - (weight + limited limit (target - weight))| ≤ 1 / 2 / 10 ^ 6 := by
  unfold moved
  split
  · exact abs_stored_sub_le _
  · rename_i within
    rw [limited_of_abs_le (not_lt.mp within), add_sub_cancel, sub_self, abs_zero]
    norm_num

theorem moved_nonneg {limit weight : ℚ} (limitNonneg : 0 ≤ limit) (weightNonneg : 0 ≤ weight)
    (targetNonneg : 0 ≤ target) : 0 ≤ moved limit weight target := by
  unfold moved
  split
  · apply roundTo_nonneg
    have least : min 0 (target - weight) ≤ limited limit (target - weight) :=
      min_le_limited limitNonneg
    rcases le_total 0 (target - weight) with up | down
    · rw [min_eq_left up] at least
      linarith
    · rw [min_eq_right down] at least
      linarith
  · exact targetNonneg

section Shifting

variable (sound : limits.Sound)

include sound

theorem weightShift_fst :
    (weightShift limits currentWeight target).1 =
      moved limits.maxWeightShiftPerCycle currentWeight target := by
  unfold weightShift moved
  dsimp only
  split
  · rename_i beyond
    rw [limited_of_lt_abs sound.weight beyond]
  · rfl

theorem capitalShift_fst (positive : 0 < maxCapital) :
    (capitalShift limits maxCapital currentWeight target).1 =
      if 0 < limits.maxCapitalShiftPct then moved limits.maxCapitalShiftPct currentWeight target
      else target := by
  set move := target - currentWeight with isMove
  have scaled : |move * maxCapital| = maxCapital * |move| := by
    rw [abs_mul, abs_of_pos positive, mul_comm]
  have limiting : 0 < maxCapital * limits.maxCapitalShiftPct ↔ 0 < limits.maxCapitalShiftPct :=
    mul_pos_iff_of_pos_left positive
  have further : maxCapital * limits.maxCapitalShiftPct < |move * maxCapital| ↔
      limits.maxCapitalShiftPct < |move| := by
    rw [scaled, mul_lt_mul_iff_right₀ positive]
  unfold capitalShift moved
  dsimp only
  rw [← isMove]
  by_cases bounds : 0 < limits.maxCapitalShiftPct
  · rw [if_pos bounds]
    by_cases beyond : limits.maxCapitalShiftPct < |move|
    · have cut : (if 0 < move * maxCapital then maxCapital * limits.maxCapitalShiftPct
          else -(maxCapital * limits.maxCapitalShiftPct)) / maxCapital =
            limited limits.maxCapitalShiftPct move := by
        rw [limited_of_lt_abs sound.capital beyond]
        by_cases up : 0 < move
        · rw [if_pos up, if_pos (mul_pos up positive), mul_div_cancel_left₀ _ positive.ne']
        · rw [if_neg up, if_neg (fun raised => up ((mul_pos_iff_of_pos_right positive).mp raised)),
            neg_div, mul_div_cancel_left₀ _ positive.ne']
      rw [if_pos ⟨limiting.mpr bounds, further.mpr beyond⟩, if_pos beyond, cut]
    · rw [if_neg (fun both => beyond (further.mp both.2)), if_neg beyond]
  · rw [if_neg bounds, if_neg (fun both => bounds (limiting.mp both.1))]

theorem newStrategyWeight_eq :
    (rebalanceOne limits now total strategy).event.newStrategyWeight =
      if strategy.cadenceBlocked limits now then roundTo 6 strategy.currentWeight
      else
        let target := moved limits.maxWeightShiftPerCycle strategy.currentWeight
          (rawTargetWeight total strategy)
        if 0 < limits.maxCapitalShiftPct then
          moved limits.maxCapitalShiftPct strategy.currentWeight target
        else target := by
  have ceiling : 0 < strategy.capitalCeiling := lt_max_of_lt_right (by norm_num)
  unfold rebalanceOne
  dsimp only
  cases strategy.cadenceBlocked limits now with
  | true => rfl
  | false =>
    simp only [Bool.false_eq_true, if_false]
    rw [capitalShift_fst sound ceiling, weightShift_fst sound]

theorem newWeight_near :
    |(rebalanceOne limits now total strategy).event.newStrategyWeight -
      (strategy.currentWeight + strategy.move limits now total)| ≤ 1 / 10 ^ 6 := by
  rw [newStrategyWeight_eq sound]
  unfold Strategy.move
  split
  · rw [add_zero]
    calc |roundTo 6 strategy.currentWeight - strategy.currentWeight| ≤ 1 / 2 / 10 ^ 6 :=
          abs_stored_sub_le _
      _ ≤ 1 / 10 ^ 6 := by norm_num
  · have first := @moved_near (rawTargetWeight total strategy) limits.maxWeightShiftPerCycle
      strategy.currentWeight
    dsimp only
    generalize moved limits.maxWeightShiftPerCycle strategy.currentWeight
      (rawTargetWeight total strategy) = target at first ⊢
    set wanted := rawTargetWeight total strategy - strategy.currentWeight
    unfold Limits.shiftLimit
    split
    · have second := @moved_near target limits.maxCapitalShiftPct strategy.currentWeight
      have apart := @abs_limited_sub_le ℚ _ _ limits.maxCapitalShiftPct
        (target - strategy.currentWeight) (limited limits.maxWeightShiftPerCycle wanted) _
      rw [limited_limited sound.weight sound.capital, sub_sub] at apart
      have both := abs_le.mp (apart.trans first)
      obtain ⟨below, above⟩ := abs_le.mp second
      rw [abs_le]
      constructor <;> linarith [both.1, both.2]
    · calc |target - (strategy.currentWeight + limited limits.maxWeightShiftPerCycle wanted)|
          ≤ 1 / 2 / 10 ^ 6 := first
        _ ≤ 1 / 10 ^ 6 := by norm_num

theorem newWeight_nonneg (totalNonneg : 0 ≤ total) (weightNonneg : 0 ≤ strategy.currentWeight) :
    0 ≤ (rebalanceOne limits now total strategy).event.newStrategyWeight := by
  have target : 0 ≤ moved limits.maxWeightShiftPerCycle strategy.currentWeight
      (rawTargetWeight total strategy) :=
    moved_nonneg sound.weight weightNonneg (rawTargetWeight_nonneg totalNonneg)
  rw [newStrategyWeight_eq sound]
  split
  · exact roundTo_nonneg 6 weightNonneg
  · dsimp only
    split
    · exact moved_nonneg sound.capital weightNonneg target
    · exact target

end Shifting

/-- The stored shift of the capital is that of the stored weight, and within its limit. -/
theorem capitalShift_shift (positive : 0 < maxCapital) :
    let moved := capitalShift limits maxCapital currentWeight target
    |moved.2.1 - (moved.1 - currentWeight) * maxCapital| ≤ maxCapital * (1 / 2 / 10 ^ 6) ∧
      (0 < limits.maxCapitalShiftPct →
        |moved.2.1| ≤ maxCapital * limits.maxCapitalShiftPct) := by
  unfold capitalShift
  dsimp only
  by_cases cut : 0 < maxCapital * limits.maxCapitalShiftPct ∧
      maxCapital * limits.maxCapitalShiftPct < |(target - currentWeight) * maxCapital|
  · rw [if_pos cut]
    dsimp only
    set shift := if 0 < (target - currentWeight) * maxCapital then
      maxCapital * limits.maxCapitalShiftPct else -(maxCapital * limits.maxCapitalShiftPct)
    have size : |shift| = maxCapital * limits.maxCapitalShiftPct := by
      have own := abs_of_pos cut.1
      simp only [shift]
      split
      · exact own
      · rw [abs_neg, own]
    have near := abs_stored_sub_le (currentWeight + shift / maxCapital)
    refine ⟨?_, fun _ => size.le⟩
    have apart : shift - (roundTo 6 (currentWeight + shift / maxCapital) - currentWeight) *
        maxCapital = -(maxCapital * (roundTo 6 (currentWeight + shift / maxCapital) -
          (currentWeight + shift / maxCapital))) := by
      field_simp
      ring
    rw [apart, abs_neg, abs_mul, abs_of_pos positive]
    exact mul_le_mul_of_nonneg_left near positive.le
  · rw [if_neg cut]
    dsimp only
    refine ⟨?_, fun limiting => ?_⟩
    · rw [sub_self, abs_zero]
      positivity
    · exact not_lt.mp fun beyond => cut ⟨mul_pos positive limiting, beyond⟩

theorem Limits.shiftLimit_nonneg (sound : limits.Sound) : 0 ≤ limits.shiftLimit := by
  unfold Limits.shiftLimit
  split
  · exact le_min sound.weight sound.capital
  · exact sound.weight

theorem Limits.shiftLimit_le : limits.shiftLimit ≤ limits.maxWeightShiftPerCycle := by
  unfold Limits.shiftLimit
  split
  · exact min_le_left _ _
  · exact le_refl _

theorem Strategy.move_le (sound : limits.Sound) :
    |strategy.move limits now total| ≤ limits.maxWeightShiftPerCycle := by
  unfold Strategy.move
  split
  · rw [abs_zero]
    exact sound.weight
  · exact (abs_limited_le (Limits.shiftLimit_nonneg sound)).trans Limits.shiftLimit_le

theorem Strategy.move_between (sound : limits.Sound) :
    min 0 (rawTargetWeight total strategy - strategy.currentWeight) ≤
        strategy.move limits now total ∧
      strategy.move limits now total ≤
        max 0 (rawTargetWeight total strategy - strategy.currentWeight) := by
  unfold Strategy.move
  split
  · exact ⟨min_le_left _ _, le_max_left _ _⟩
  · exact ⟨min_le_limited (Limits.shiftLimit_nonneg sound),
      limited_le_max (Limits.shiftLimit_nonneg sound)⟩

theorem rebalanceOne_shift :
    let event := (rebalanceOne limits now total strategy).event
    ∃ shift, event.capitalShift = roundTo 4 shift ∧
      |shift - (event.newStrategyWeight - strategy.currentWeight) * strategy.capitalCeiling| ≤
        strategy.capitalCeiling * (1 / 2 / 10 ^ 6) ∧
      (0 < limits.maxCapitalShiftPct →
        |shift| ≤ strategy.capitalCeiling * (limits.maxCapitalShiftPct + 1 / 2 / 10 ^ 6)) := by
  have ceiling : 0 < strategy.capitalCeiling := lt_max_of_lt_right (by norm_num)
  unfold rebalanceOne
  dsimp only
  cases strategy.cadenceBlocked limits now with
  | true =>
    refine ⟨_, rfl, ?_, fun limiting => ?_⟩
    · simp only [if_true, sub_self, abs_zero]
      positivity
    · have near := abs_stored_sub_le strategy.currentWeight
      simp only [if_true]
      rw [abs_mul, abs_of_pos ceiling, mul_comm]
      exact mul_le_mul_of_nonneg_left (by linarith) ceiling.le
  | false =>
    simp only [Bool.false_eq_true, if_false]
    obtain ⟨same, within⟩ := @capitalShift_shift limits strategy.capitalCeiling
      strategy.currentWeight (weightShift limits strategy.currentWeight
        (rawTargetWeight total strategy)).1 ceiling
    refine ⟨_, rfl, same, fun limiting => (within limiting).trans ?_⟩
    exact mul_le_mul_of_nonneg_left (by linarith) ceiling.le

theorem rebalanceOne_governed (sound : limits.Sound) :
    Governed limits now strategy (rebalanceOne limits now total strategy).event := by
  have ceiling : 0 < strategy.capitalCeiling := lt_max_of_lt_right (by norm_num)
  have old : (rebalanceOne limits now total strategy).event.oldStrategyWeight =
    roundTo 6 strategy.currentWeight := rfl
  have aim : (rebalanceOne limits now total strategy).event.targetStrategyWeight =
    rawTargetWeight total strategy := rfl
  obtain ⟨oldBelow, oldAbove⟩ := abs_le.mp (abs_stored_sub_le strategy.currentWeight)
  obtain ⟨newBelow, newAbove⟩ := abs_le.mp (@newWeight_near limits now total strategy sound)
  obtain ⟨moveBelow, moveAbove⟩ := abs_le.mp (@Strategy.move_le limits now total strategy sound)
  obtain ⟨least, most⟩ := @Strategy.move_between limits now total strategy sound
  obtain ⟨shift, isShift, same, within⟩ := @rebalanceOne_shift limits now total strategy
  obtain ⟨shiftBelow, shiftAbove⟩ := abs_le.mp (abs_roundTo_sub_le 4 shift)
  constructor
  · rw [old, abs_le]
    constructor <;> linarith
  · intro limiting
    obtain ⟨below, above⟩ := abs_le.mp (within limiting)
    rw [isShift, abs_le]
    constructor <;> linarith
  · have stored : |(roundTo 6 strategy.currentWeight - strategy.currentWeight) *
        strategy.capitalCeiling| ≤ strategy.capitalCeiling * (1 / 2 / 10 ^ 6) := by
      rw [abs_mul, abs_of_pos ceiling, mul_comm]
      exact mul_le_mul_of_nonneg_left (abs_stored_sub_le _) ceiling.le
    obtain ⟨storedBelow, storedAbove⟩ := abs_le.mp stored
    obtain ⟨sameBelow, sameAbove⟩ := abs_le.mp same
    rw [isShift, old, abs_le]
    constructor <;> linarith
  · intro blocked
    rw [newStrategyWeight_eq sound, if_pos blocked, old]
  · rw [old, aim]
    rcases le_total strategy.currentWeight (rawTargetWeight total strategy) with up | down
    · rw [min_eq_left (sub_nonneg.mpr up)] at least
      rw [max_eq_right (sub_nonneg.mpr up)] at most
      constructor
      · linarith [min_le_left (roundTo 6 strategy.currentWeight) (rawTargetWeight total strategy)]
      · linarith [le_max_right (roundTo 6 strategy.currentWeight) (rawTargetWeight total strategy)]
    · rw [min_eq_right (sub_nonpos.mpr down)] at least
      rw [max_eq_left (sub_nonpos.mpr down)] at most
      constructor
      · linarith [min_le_right (roundTo 6 strategy.currentWeight) (rawTargetWeight total strategy)]
      · linarith [le_max_left (roundTo 6 strategy.currentWeight) (rawTargetWeight total strategy)]

end Steps

section Runs

variable {strategies : List Strategy} {governance : Governance} {driftThreshold now : ℚ}

def movedWeights (limits : Limits) (now : ℚ) (strategies : List Strategy) : List ℚ :=
  strategies.map fun strategy =>
    strategy.currentWeight + strategy.move limits now (totalScore strategies)

theorem affordable_iff {limits : Limits} {slack : ℚ} :
    Affordable limits now strategies slack ↔
      (movedWeights limits now strategies).sum ≤ 1 + slack := by
  unfold Affordable movedWeights
  dsimp only
  rw [sum_add_moves]
  constructor <;> intro le <;> linarith

/-- The sum of the new weights is that of the moved weights, up to one unit of the last stored
decimal for each strategy. -/
theorem newWeights_sum_near :
    |(runDynamicCapitalRebalance strategies driftThreshold governance now).newWeights.sum -
      (movedWeights (governance.limits driftThreshold) now strategies).sum| ≤
        strategies.length * (1 / 10 ^ 6) := by
  have weights : (runDynamicCapitalRebalance strategies driftThreshold governance now).newWeights =
      strategies.map fun strategy => (rebalanceOne (governance.limits driftThreshold) now
        (totalScore strategies) strategy).event.newStrategyWeight := by
    unfold Rebalanced.newWeights runDynamicCapitalRebalance
    dsimp only
    rw [List.map_map, List.map_map]
    rfl
  rw [weights]
  exact abs_sum_sub_sum_le fun strategy _ =>
    newWeight_near (governance.limits_sound driftThreshold)

/-- Every move of a run is governed. -/
theorem rebalance_moves_governed :
    List.Forall₂ (Governed (governance.limits driftThreshold) now) strategies
      (runDynamicCapitalRebalance strategies driftThreshold governance now).events := by
  unfold runDynamicCapitalRebalance
  dsimp only
  rw [List.map_map, List.forall₂_map_right_iff, List.forall₂_same]
  exact fun strategy _ => rebalanceOne_governed (governance.limits_sound driftThreshold)

end Runs

/-- A strategy of half the capital with a performance score, rebalanced at a time. -/
def half (name : String) (performanceScore : ℚ) (lastRebalancedAt : Option ℚ) : Strategy where
  strategyId := some name
  performanceScore := some performanceScore
  executionQualityScore := none
  signalDecay := none
  riskScore := none
  confidenceScore := none
  realizedReturn := none
  capitalWeight := some (1 / 2)
  currentCapital := none
  maxCapital := none
  lastRebalancedAt

def unconfigured : Governance := ⟨none, none, none, none⟩

theorem half_wellWeighted {lastRebalancedAt : Option ℚ} :
    WellWeighted [half "slow" 0 lastRebalancedAt, half "fast" 100 none] where
  nonneg := by
    intro strategy inside
    simp only [List.mem_cons, List.not_mem_nil, or_false] at inside
    rcases inside with rfl | rfl <;> simp [half, Strategy.currentWeight]
  sum_le := by norm_num [half, Strategy.currentWeight]

/-- A limit of zero on the capital limits nothing. -/
theorem zero_capital_limit_moves : ¬∀ (strategies : List Strategy) (driftThreshold : ℚ)
    (governance : Governance) (now : ℚ),
      let limits := governance.limits driftThreshold
      List.Forall₂ (fun strategy event => |event.capitalShift| ≤
          strategy.capitalCeiling * (limits.maxCapitalShiftPct + 1 / 2 / 10 ^ 6) + 1 / 2 / 10 ^ 4)
        strategies
        (runDynamicCapitalRebalance strategies driftThreshold governance now).events := by
  intro within
  have moves := within [half "slow" 0 none, half "fast" 100 none] (8 / 100)
    ⟨none, none, some (some 0), none⟩ 60
  revert moves
  unfold runDynamicCapitalRebalance
  simp only [List.map_cons, List.map_nil, List.forall₂_cons]
  decide +kernel

end Rebalance
