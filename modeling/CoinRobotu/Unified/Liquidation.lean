import CoinRobotu.Numeric.Limits
import CoinRobotu.Numeric.Rounding
import CoinRobotu.Runtime.Text

/-!
# The liquidation buffer of the unified risk orchestrator

The buffer of a position is the distance of its mark price from its liquidation price. It is an
absolute distance: where the effective margin is below the maintenance margin, it grows with
what is missing. A buffer of zero counts as 999.
-/

namespace Unified

open Numeric (orNumber roundTo)
open Runtime (lower orElse upper)

structure MarginTier where
  maxNotional : Option ℚ
  maintenanceMarginRate : Option ℚ

/-- An entry of `symbol_rules` or the default rule. -/
structure SymbolRule where
  maxLeverage : Option ℤ
  collateralHaircut : Option ℚ
  marginTiers : List MarginTier

/-- A ruleset; a rule with no entries counts as none. -/
structure Ruleset where
  maintenanceMarginBase : Option ℚ
  feeBufferPct : Option ℚ
  safetyHaircutPct : Option ℚ
  maxLeverage : Option ℤ
  symbolRules : String → Option SymbolRule

structure ResolvedRule where
  maxLeverage : ℤ
  collateralHaircut : ℚ
  maintenanceMarginRate : ℚ

/-- A position; a number that cannot be read is none. -/
structure Position where
  symbol : Option String
  side : Option String
  quantity : Option ℚ
  markPrice : Option ℚ
  entryPrice : Option ℚ
  leverage : Option ℤ
  marginMode : Option String
  isolatedMargin : Option ℚ

structure LiquidationRow where
  symbol : Option String
  side : String
  marginMode : String
  leverage : ℤ
  effectiveLeverage : ℤ
  entryPrice : ℚ
  markPrice : ℚ
  quantity : ℚ
  notional : ℚ
  initialMargin : ℚ
  maintenanceMargin : ℚ
  maintenanceMarginRate : ℚ
  collateralHaircut : ℚ
  unrealizedPnl : ℚ
  marginRatio : ℚ
  liquidationPrice : ℚ
  liquidationBufferPct : ℚ

section Rule

variable (ruleset : Ruleset)

def Ruleset.base : ℚ := orNumber ruleset.maintenanceMarginBase (5 / 1000)

def Ruleset.leverage : ℤ :=
  if ruleset.maxLeverage.getD 0 = 0 then 50 else ruleset.maxLeverage.getD 0

def defaultRule : SymbolRule where
  maxLeverage := some ruleset.leverage
  collateralHaircut := some (1 - orNumber ruleset.safetyHaircutPct (2 / 100))
  marginTiers :=
    [⟨some 50000, some ruleset.base⟩, ⟨some 999999999, some (ruleset.base * (14 / 10))⟩]

/-- The rate of the first tier that reaches the notional; without one it is the base rate. -/
def selectedRate (tiers : List MarginTier) (notional : ℚ) : ℚ :=
  match tiers.find? fun tier => notional ≤ tier.maxNotional.getD 0 with
  | some tier => orNumber tier.maintenanceMarginRate ruleset.base
  | none => ruleset.base

/-- `_resolve_symbol_rule`. -/
def resolveSymbolRule (symbol : String) (notional : ℚ) : ResolvedRule :=
  let rule := (ruleset.symbolRules (upper symbol)).getD (defaultRule ruleset)
  let tiers := if rule.marginTiers = [] then (defaultRule ruleset).marginTiers else rule.marginTiers
  { maxLeverage := max (rule.maxLeverage.getD ruleset.leverage) 1
    collateralHaircut := max (min (rule.collateralHaircut.getD (98 / 100)) 1) (8 / 10)
    maintenanceMarginRate := max (selectedRate ruleset tiers notional) (1 / 1000) }

end Rule

section Compute

variable (ruleset : Ruleset) (position : Position) (crossCollateralShare : ℚ)

namespace Position

def size : ℚ := max (position.quantity.getD 0) 0

def mark : ℚ := max (position.markPrice.getD (1 / 10000)) (1 / 10000)

def entry : ℚ := max (position.entryPrice.getD position.mark) (1 / 10000)

def sideText : String := upper (orElse position.side "LONG")

def mode : String := lower (orElse position.marginMode "cross")

def notional : ℚ := max |position.size * position.mark| (1 / 10000)

def rule : ResolvedRule :=
  resolveSymbolRule ruleset (position.symbol.getD "") position.notional

-- The bounds of the rule are at least 1, 0.8 and 0.001, so no default replaces them.
def cappedLeverage : ℤ :=
  min (max (position.leverage.getD 1) 1) (position.rule ruleset).maxLeverage

def maintenanceMargin : ℚ := position.notional * (position.rule ruleset).maintenanceMarginRate

def initialMargin : ℚ := position.notional / max (position.cappedLeverage ruleset) 1

def unrealizedPnl : ℚ :=
  (position.mark - position.entry) * position.size * if position.sideText = "LONG" then 1 else -1

def collateral : ℚ :=
  let isolated := max (position.isolatedMargin.getD 0) 0
  max (if position.mode = "isolated" ∧ 0 < isolated then isolated else crossCollateralShare)
    (position.initialMargin ruleset)

def effectiveMargin : ℚ :=
  position.collateral ruleset crossCollateralShare * (position.rule ruleset).collateralHaircut +
    position.unrealizedPnl - position.notional * ruleset.feeBufferPct.getD (6 / 10000) -
      position.initialMargin ruleset * ruleset.safetyHaircutPct.getD (2 / 100)

def liquidationPrice : ℚ :=
  let distance := (position.effectiveMargin ruleset crossCollateralShare -
    position.maintenanceMargin ruleset) / max position.size (1 / 10000)
  max (if position.sideText = "LONG" then position.mark - distance else position.mark + distance)
    (1 / 10000)

end Position

/-- `_compute_liquidation`. -/
def computeLiquidation : LiquidationRow where
  symbol := position.symbol
  side := position.sideText
  marginMode := position.mode
  leverage := max (position.leverage.getD 1) 1
  effectiveLeverage := position.cappedLeverage ruleset
  entryPrice := roundTo 6 position.entry
  markPrice := roundTo 6 position.mark
  quantity := roundTo 6 position.size
  notional := roundTo 6 position.notional
  initialMargin := roundTo 6 (position.initialMargin ruleset)
  maintenanceMargin := roundTo 6 (position.maintenanceMargin ruleset)
  maintenanceMarginRate := roundTo 6 (position.rule ruleset).maintenanceMarginRate
  collateralHaircut := roundTo 6 (position.rule ruleset).collateralHaircut
  unrealizedPnl := roundTo 6 position.unrealizedPnl
  marginRatio := roundTo 6 (position.effectiveMargin ruleset crossCollateralShare /
    position.maintenanceMargin ruleset)
  liquidationPrice := roundTo 6 (position.liquidationPrice ruleset crossCollateralShare)
  liquidationBufferPct := roundTo 6
    (|(position.mark - position.liquidationPrice ruleset crossCollateralShare) /
      position.mark| * 100)

/-- `min_liq_buffer` of the orchestrator. -/
def minLiqBuffer (rows : List LiquidationRow) : ℚ :=
  (rows.map fun row => orNumber (some row.liquidationBufferPct) 999).min?.getD 999

end Compute

abbrev Holding := Position × ℚ

section Health

variable (ruleset : Ruleset) (holding other : Holding)

def Holding.row : LiquidationRow := computeLiquidation ruleset holding.1 holding.2

def Holding.effectiveMargin : ℚ := holding.1.effectiveMargin ruleset holding.2

def Holding.Healthy : Prop :=
  holding.1.maintenanceMargin ruleset < holding.effectiveMargin ruleset

/-- Less effective margin: by less collateral, by a mark price that is worse for the side, or by a
larger quantity. -/
structure Worse : Prop where
  less : other.effectiveMargin ruleset ≤ holding.effectiveMargin ruleset
  cause : other.1 = holding.1 ∧ other.2 ≤ holding.2 ∨
    (∃ price, other = ({ holding.1 with markPrice := some price }, holding.2) ∧
      if holding.1.sideText = "LONG" then price ≤ holding.1.mark else holding.1.mark ≤ price) ∨
    ∃ quantity, other = ({ holding.1 with quantity := some quantity }, holding.2) ∧
      holding.1.size ≤ quantity

/-- Less effective margin never gives a larger buffer, reported or used. -/
def BufferMonotone : Prop :=
  ∀ holding other, Worse ruleset holding other →
    (other.row ruleset).liquidationBufferPct ≤ (holding.row ruleset).liquidationBufferPct ∧
      minLiqBuffer [other.row ruleset] ≤ minLiqBuffer [holding.row ruleset]

/-- A position that is not healthy is blocked, and has no larger buffer than a healthy one. -/
def UnhealthyBlocked (blockedLimit : ℚ) : Prop :=
  ∀ holding : Holding, ¬holding.Healthy ruleset →
    minLiqBuffer [holding.row ruleset] < blockedLimit ∧
      ∀ healthy : Holding, healthy.Healthy ruleset →
        minLiqBuffer [holding.row ruleset] ≤ minLiqBuffer [healthy.row ruleset]

end Health

section Underwater

variable (ruleset : Ruleset) (limit : ℚ)

def unitRule : ResolvedRule := resolveSymbolRule ruleset "" 1

def unitCosts : ℚ :=
  ruleset.feeBufferPct.getD (6 / 10000) + ruleset.safetyHaircutPct.getD (2 / 100) +
    (unitRule ruleset).maintenanceMarginRate

def unitLoss : ℚ := 3 + |limit| + |unitCosts ruleset|

/-- A unit position that was entered far above its mark price. -/
def underwater : Position where
  symbol := none
  side := some "LONG"
  quantity := some 1
  markPrice := some 1
  entryPrice := some (1 - unitCosts ruleset + unitLoss ruleset limit)
  leverage := some 1
  marginMode := none
  isolatedMargin := none

theorem haircut_bounds : 8 / 10 ≤ (unitRule ruleset).collateralHaircut ∧
    (unitRule ruleset).collateralHaircut ≤ 1 :=
  ⟨le_max_right _ _, max_le (min_le_right _ _) (by norm_num)⟩

theorem unitLoss_bounds : 3 ≤ unitLoss ruleset limit ∧ 3 + limit ≤ unitLoss ruleset limit ∧
    unitCosts ruleset + 3 ≤ unitLoss ruleset limit := by
  have first := abs_nonneg limit
  have second := abs_nonneg (unitCosts ruleset)
  have third := le_abs_self limit
  have fourth := le_abs_self (unitCosts ruleset)
  unfold unitLoss
  refine ⟨?_, ?_, ?_⟩ <;> linarith

theorem underwater_notional : (underwater ruleset limit).notional = 1 := by
  norm_num [Position.notional, Position.size, Position.mark, underwater]

theorem underwater_rule : (underwater ruleset limit).rule ruleset = unitRule ruleset := by
  rw [Position.rule, underwater_notional]
  rfl

theorem underwater_initialMargin : (underwater ruleset limit).initialMargin ruleset = 1 := by
  have capped : (underwater ruleset limit).cappedLeverage ruleset = 1 := by
    rw [Position.cappedLeverage, underwater_rule]
    exact min_eq_left (le_max_right _ _)
  rw [Position.initialMargin, underwater_notional, capped]
  norm_num

theorem underwater_side : (underwater ruleset limit).sideText = "LONG" := by
  change upper (orElse (some "LONG") "LONG") = "LONG"
  decide +kernel

theorem underwater_mode : (underwater ruleset limit).mode ≠ "isolated" := by
  change lower (orElse none "cross") ≠ "isolated"
  decide +kernel

variable {share : ℚ} (atLeast : 1 ≤ share) (atMost : share ≤ 2)
include atLeast

theorem underwater_margin : (underwater ruleset limit).effectiveMargin ruleset share =
    (underwater ruleset limit).maintenanceMargin ruleset +
      (share * (unitRule ruleset).collateralHaircut - unitLoss ruleset limit) := by
  have entry : (underwater ruleset limit).entry =
      1 - unitCosts ruleset + unitLoss ruleset limit := by
    have bound := (unitLoss_bounds ruleset limit).2.2
    exact max_eq_left (by simp only [underwater, Option.getD_some]; linarith)
  have collateral : (underwater ruleset limit).collateral ruleset share = share := by
    rw [Position.collateral, if_neg fun both => underwater_mode ruleset limit both.1,
      underwater_initialMargin, max_eq_left atLeast]
  have mark : (underwater ruleset limit).mark = 1 := by norm_num [Position.mark, underwater]
  have size : (underwater ruleset limit).size = 1 := by norm_num [Position.size, underwater]
  rw [Position.effectiveMargin, collateral, Position.unrealizedPnl, entry, mark, size,
    if_pos (underwater_side ruleset limit), Position.maintenanceMargin, underwater_rule,
    underwater_notional, underwater_initialMargin, unitCosts]
  ring

include atMost

theorem underwater_buffer :
    (Holding.row ruleset (underwater ruleset limit, share)).liquidationBufferPct = roundTo 6
      ((unitLoss ruleset limit - share * (unitRule ruleset).collateralHaircut) * 100) := by
  have mark : (underwater ruleset limit).mark = 1 := by norm_num [Position.mark, underwater]
  have size : (underwater ruleset limit).size = 1 := by norm_num [Position.size, underwater]
  have haircut := haircut_bounds ruleset
  have loss := (unitLoss_bounds ruleset limit).1
  have used : share * (unitRule ruleset).collateralHaircut ≤ 2 := by nlinarith
  have price : (underwater ruleset limit).liquidationPrice ruleset share =
      1 + (unitLoss ruleset limit - share * (unitRule ruleset).collateralHaircut) := by
    rw [Position.liquidationPrice, if_pos (underwater_side ruleset limit), size, mark,
      underwater_margin ruleset limit atLeast, max_eq_left (by norm_num : (1 / 10000 : ℚ) ≤ 1),
      max_eq_left]
    · ring
    · linarith
  have distance : (1 - (1 + (unitLoss ruleset limit -
      share * (unitRule ruleset).collateralHaircut))) / 1 =
        -(unitLoss ruleset limit - share * (unitRule ruleset).collateralHaircut) := by ring
  rw [Holding.row, computeLiquidation, mark, price, distance, abs_neg, abs_of_nonneg (by linarith)]

end Underwater

theorem minLiqBuffer_single (row : LiquidationRow) :
    minLiqBuffer [row] = orNumber (some row.liquidationBufferPct) 999 := rfl

end Unified
