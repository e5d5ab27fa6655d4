import CoinRobotu.Preview.GateLaws

/-!
# What the gates leave of a new position's notional

The stored notional never exceeds the requested one by more than half a unit of the
fourth decimal. A gate that returns 0 is treated like one that returned nothing: the
source continues with the previous notional. The size of a new position is stored as it
was requested, whatever the gates leave of the notional.
-/

namespace Preview

open Numeric hiding orNumber
open Risk (orNumber)

namespace GatedRequest

variable (request : GatedRequest)

/-- The stored intent is not enlarged: its notional exceeds neither the requested one nor
what a gate returned by more than the rounding, a gate that returned 0 apart whose request is
rejected, and its size is scaled as its notional is, up to the roundings of both. -/
structure NotEnlarged : Prop where
  requested : request.storedNotional ≤ request.notional + rounding
  returned : ∀ value ∈ request.returned, request.storedNotional ≤ value + rounding ∨
    value = 0 ∧ request.storedStatus = "REJECTED"
  scaled : ∀ size ∈ request.payload.size,
    |request.storedSize * request.notional - size * request.storedNotional| ≤
      size * rounding + request.notional * (1 / 2 / 10 ^ 6)

end GatedRequest

section Open

variable {config : PreviewConfig} {fastMode : Bool} {state : PreviewState} {userId : String}
  {payload : PreviewPayload} {request : GatedRequest}

/-- A request for a new position as the gates find it. -/
structure GatedRequest.Opens (request : GatedRequest) : Prop where
  isOpen : request.intentType = "OPEN_POSITION"
  nonneg : 0 ≤ request.notional
  unsized : request.previewed.order.size = none
  actionSize : request.previewed.actionSize = request.payload.size.getD 0

theorem reachGates_opens (isOpen : payload.requestedType = "OPEN_POSITION")
    (reached : reachGates config fastMode state userId payload = .ok request) :
    request.Opens ∧ request.payload = payload := by
  obtain ⟨previewed, normalized, returned⟩ := bind_eq_ok.mp reached
  cases returned
  obtain ⟨symbol, _, isPreviewed⟩ := normalizeRequest_open isOpen normalized
  refine ⟨⟨isOpen, ?_, ?_, ?_⟩, rfl⟩
  · unfold GatedRequest.notional
    rw [isPreviewed]
    unfold extractNotional
    dsimp only
    split
    · exact le_max_right _ _
    · exact le_max_right _ _
  · rw [isPreviewed]
    rfl
  · rw [isPreviewed]

variable (opens : request.Opens)

include opens

theorem GatedRequest.Opens.increasesRisk : request.reducesRisk = false := by
  unfold GatedRequest.reducesRisk
  rw [opens.isOpen]
  decide

theorem GatedRequest.Opens.afterAllocation_adjusted :
    request.afterAllocation.adjusted =
      if request.metaSummary.decision = .disabled then 0
      else orNumber (some request.metaSummary.adjustedNotional) request.notional := by
  unfold GatedRequest.afterAllocation
  simp only [opens.increasesRisk, and_true]
  split
  · rfl
  · cases request.state.walletFailure with
    | none | some => rfl

theorem GatedRequest.Opens.enabled (asked : request.asksRisk = true) :
    request.metaSummary.decision ≠ .disabled := by
  intro disabled
  have valid : request.afterAllocation.valid = true := (of_decide_eq_true asked).1
  unfold GatedRequest.afterAllocation at valid
  simp only [opens.increasesRisk, disabled, and_self, if_true] at valid
  exact absurd valid Bool.false_ne_true

theorem GatedRequest.Opens.allocated_nonneg :
    0 ≤ request.metaSummary.adjustedNotional ∧ 0 ≤ request.afterAllocation.adjusted := by
  have returned : 0 ≤ request.metaSummary.adjustedNotional := by
    unfold GatedRequest.metaSummary
    split
    · exact opens.nonneg
    · obtain ⟨kept, nonneg, _, isReturned⟩ := runMetaStrategyEngine_le
        (request.state.allocation request.binding) opens.nonneg
      rw [isReturned]
      exact roundTo_nonneg 4 nonneg
  refine ⟨returned, ?_⟩
  rw [opens.afterAllocation_adjusted]
  split
  · exact le_rfl
  · exact orNumber_nonneg returned opens.nonneg

theorem GatedRequest.Opens.afterPortfolio_nonneg : 0 ≤ request.afterPortfolio.adjusted := by
  rw [GatedRequest.afterPortfolio_adjusted]
  split
  · exact orNumber_nonneg request.portfolioReturned_nonneg opens.allocated_nonneg.2
  · exact opens.allocated_nonneg.2

theorem GatedRequest.Opens.afterEngine_nonneg : 0 ≤ request.afterEngine.adjusted := by
  rw [GatedRequest.afterEngine_adjusted]
  split
  · exact orNumber_nonneg request.engineReturned_nonneg opens.afterPortfolio_nonneg
  · exact opens.afterPortfolio_nonneg

theorem GatedRequest.Opens.storedNotional_eq : request.storedNotional = request.left := by
  have nonneg := opens.afterEngine_nonneg
  unfold GatedRequest.storedNotional GatedRequest.left
  rw [GatedRequest.sized_adjusted]
  by_cases disabled : request.metaSummary.decision = .disabled
  · have unasked : request.asksRisk = false := by
      by_contra asked
      exact opens.enabled (by simpa using asked) disabled
    have nothing : request.afterEngine.adjusted = 0 := by
      rw [GatedRequest.afterEngine_adjusted, GatedRequest.afterPortfolio_adjusted,
        opens.afterAllocation_adjusted]
      simp [GatedRequest.engineReduces, GatedRequest.portfolioAdjusts, unasked, disabled]
    rw [if_pos disabled, nothing]
    simp [roundTo_zero]
  · have last : request.afterEngine.adjusted =
        lastReturned request.notional request.applied := by
      rw [GatedRequest.afterEngine_adjusted, GatedRequest.afterPortfolio_adjusted,
        opens.afterAllocation_adjusted, if_neg disabled]
      unfold GatedRequest.applied
      cases request.portfolioAdjusts <;> cases request.engineReduces <;> rfl
    rw [if_neg disabled, ← last]
    unfold GatedRequest.throttled
    by_cases calls : request.fastMode = false ∧ request.state.throttles request.binding = true
    · rw [if_pos calls]
      rcases nonneg.eq_or_lt with zero | positive
      · rw [← zero]
        simp [roundTo_zero]
      · simp only [calls, positive, true_and, decide_true, if_true]
        exact max_eq_left (roundTo_nonneg 6 (mul_nonneg nonneg (by norm_num)))
    · have calm : ¬(request.fastMode = false ∧ request.state.throttles request.binding = true ∧
          0 < request.afterEngine.adjusted) := fun all => calls ⟨all.1, all.2.1⟩
      rw [if_neg calls]
      simp only [calm, decide_false, if_false, Bool.false_eq_true]
      exact max_eq_left nonneg

theorem GatedRequest.Opens.rejected_of_veto (asked : request.asksRisk = true)
    (vetoes : request.engineResult.riskDecision.Vetoes) : request.storedStatus = "REJECTED" := by
  apply GatedRequest.storedStatus_of_refused
  have reasons : ∀ reason ∈ (if request.engineResult.reasonCodes = [] then ["risk_engine_veto"]
      else request.engineResult.reasonCodes), reason ∉ softOverrideCodes := by
    intro reason inside
    split at inside
    · rw [List.mem_singleton.mp inside]
      decide
    · have code := (List.mem_insertionSort _).mp inside
      obtain ⟨finding, isFinding, rfl⟩ := List.mem_map.mp (List.mem_dedup.mp code)
      exact hard_findings _ _ _ _ _ finding (List.mem_of_mem_filter isFinding)
  have given : (if request.engineResult.reasonCodes = [] then ["risk_engine_veto"]
      else request.engineResult.reasonCodes) ≠ [] := by
    split
    · exact List.cons_ne_nil _ _
    · assumption
  obtain ⟨reason, inside⟩ := List.exists_mem_of_ne_nil _ given
  have rejects : request.afterEngine = request.afterPortfolio.reject
      (if request.engineResult.reasonCodes = [] then ["risk_engine_veto"]
        else request.engineResult.reasonCodes) := by
    unfold GatedRequest.afterEngine Sizing.engineGate
    rw [if_pos asked, opens.increasesRisk]
    cases decision : request.engineResult.riskDecision with
    | allow | reduceSize =>
      rw [decision] at vetoes
      exact absurd vetoes (by decide)
    | pass | block => rfl
  rw [rejects]
  exact ⟨rfl, reason, List.mem_append_right _ inside, reasons reason inside⟩

/-- What the allocation leaves is the requested notional, or has four decimals and is not
above the rounded one. -/
theorem GatedRequest.Opens.allocated_cases :
    request.afterAllocation.adjusted = request.notional ∨
      HasDecimals 4 request.afterAllocation.adjusted ∧
        request.afterAllocation.adjusted ≤ roundTo 4 request.notional := by
  rw [opens.afterAllocation_adjusted]
  split
  · exact .inr ⟨⟨0, by simp⟩, roundTo_nonneg 4 opens.nonneg⟩
  · by_cases zero : request.metaSummary.adjustedNotional = 0
    · rw [zero, orNumber_zero]
      exact .inl rfl
    · rw [orNumber_of_ne zero]
      unfold GatedRequest.metaSummary
      split
      · exact .inl rfl
      · obtain ⟨kept, _, le, isReturned⟩ := runMetaStrategyEngine_le
          (request.state.allocation request.binding) opens.nonneg
        rw [isReturned]
        exact .inr ⟨hasDecimals_roundTo 4 kept, roundTo_mono 4 le⟩

theorem GatedRequest.Opens.portfolioReturned_le :
    request.portfolioResult.positionAdjustment.adjustedNotional ≤
      roundTo 4 request.afterAllocation.adjusted := by
  rw [request.portfolioReturned_eq, max_eq_left opens.allocated_nonneg.2]
  apply roundTo_mono
  apply mul_le_of_le_one_right opens.allocated_nonneg.2
  split <;> norm_num

theorem GatedRequest.Opens.storedNotional_le {bound : ℚ} (has : HasDecimals 6 bound)
    (le : request.afterPortfolio.adjusted ≤ bound) : request.storedNotional ≤ bound :=
  GatedRequest.storedNotional_le_of_engine has opens.afterEngine_nonneg
    (GatedRequest.afterEngine_le has opens.afterPortfolio_nonneg le)

/-- The gates never enlarge the requested notional by more than the rounding. -/
theorem GatedRequest.Opens.storedNotional_le_requested :
    request.storedNotional ≤ request.notional + rounding := by
  obtain ⟨bound, has, below, near, greatest⟩ :=
    exists_floor_decimal 6 (request.notional + rounding)
  have itself : request.notional ≤ bound := by
    have margin : (1 : ℚ) / 10 ^ 6 ≤ rounding := by norm_num [rounding]
    linarith
  have rounded : roundTo 4 request.notional ≤ bound := by
    apply greatest _ ((hasDecimals_roundTo 4 _).more (by norm_num))
    have moved := (abs_le.mp (abs_roundTo_sub_le 4 request.notional)).2
    unfold rounding
    linarith
  have portfolio : request.afterPortfolio.adjusted ≤ bound := by
    have returned := opens.portfolioReturned_le
    rw [GatedRequest.afterPortfolio_adjusted]
    rcases opens.allocated_cases with same | ⟨decimals, le⟩
    · rw [same] at returned ⊢
      split
      · exact orNumber_le (returned.trans rounded) itself
      · exact itself
    · rw [decimals.rounded] at returned
      split
      · exact orNumber_le ((returned.trans le).trans rounded) (le.trans rounded)
      · exact le.trans rounded
  exact (opens.storedNotional_le has portfolio).trans below

theorem GatedRequest.Opens.storedNotional_le_allocation
    (nonzero : request.metaSummary.adjustedNotional ≠ 0) :
    request.storedNotional ≤ request.metaSummary.adjustedNotional + rounding := by
  by_cases fast : request.fastMode = true
  · have same : request.metaSummary.adjustedNotional = request.notional := by
      unfold GatedRequest.metaSummary
      rw [if_pos fast]
    rw [same]
    exact opens.storedNotional_le_requested
  · obtain ⟨kept, _, _, isReturned⟩ := runMetaStrategyEngine_le
      (request.state.allocation request.binding) opens.nonneg
    have decimals : HasDecimals 4 request.metaSummary.adjustedNotional := by
      unfold GatedRequest.metaSummary
      rw [if_neg fast, isReturned]
      exact hasDecimals_roundTo 4 kept
    have allocated : request.afterAllocation.adjusted ≤ request.metaSummary.adjustedNotional := by
      rw [opens.afterAllocation_adjusted]
      split
      · exact opens.allocated_nonneg.1
      · rw [orNumber_of_ne nonzero]
    have portfolio : request.afterPortfolio.adjusted ≤ request.metaSummary.adjustedNotional := by
      rw [GatedRequest.afterPortfolio_adjusted]
      split
      · exact orNumber_le (opens.portfolioReturned_le.trans (decimals.roundTo_le allocated))
          allocated
      · exact allocated
    have stored := opens.storedNotional_le (decimals.more (by norm_num)) portfolio
    have margin : 0 ≤ rounding := by norm_num [rounding]
    linarith

theorem GatedRequest.Opens.storedNotional_le_portfolio
    (nonzero : request.portfolioAdjusts = true →
      request.portfolioResult.positionAdjustment.adjustedNotional ≠ 0)
    (asked : request.asksRisk = true) :
    request.storedNotional ≤
      request.portfolioResult.positionAdjustment.adjustedNotional + rounding := by
  have decimals : HasDecimals 6 request.portfolioResult.positionAdjustment.adjustedNotional := by
    rw [request.portfolioReturned_eq]
    exact (hasDecimals_roundTo 4 _).more (by norm_num)
  apply opens.storedNotional_le (decimals.add hasDecimals_rounding)
  have margin : 0 ≤ rounding := by norm_num [rounding]
  rw [GatedRequest.afterPortfolio_adjusted]
  split
  · rename_i adjusts
    rw [orNumber_of_ne (nonzero adjusts)]
    linarith
  · rename_i keeps
    have decision : request.portfolioResult.decision ≠ .adjustPosition := by
      intro adjusts
      exact keeps (decide_eq_true ⟨asked, adjusts⟩)
    rw [request.portfolioReturned_eq, if_neg decision, mul_one,
      max_eq_left opens.allocated_nonneg.2]
    have moved := (abs_le.mp (abs_roundTo_sub_le 4 request.afterAllocation.adjusted)).1
    unfold rounding
    linarith

/-- What is stored is at most what the risk engine returned, unless it reduced to 0; a veto
returns 0 and rejects. -/
theorem GatedRequest.Opens.storedNotional_le_engine
    (nonzero : request.engineReduces = true → request.engineResult.adjustedNotionalUsdt ≠ 0)
    (asked : request.asksRisk = true) :
    request.storedNotional ≤ request.engineResult.adjustedNotionalUsdt + rounding ∨
      request.engineResult.adjustedNotionalUsdt = 0 ∧ request.storedStatus = "REJECTED" := by
  obtain ⟨factor, _, _, isReturned⟩ := request.engineReturned_eq
  by_cases vetoes : request.engineResult.riskDecision.Vetoes
  · right
    rw [isReturned, if_pos vetoes]
    exact ⟨roundTo_zero 6, opens.rejected_of_veto asked vetoes⟩
  · left
    have decimals : HasDecimals 6 request.engineResult.adjustedNotionalUsdt := by
      rw [isReturned]
      exact hasDecimals_roundTo 6 _
    apply GatedRequest.storedNotional_le_of_engine (decimals.add hasDecimals_rounding)
      opens.afterEngine_nonneg
    have margin : (1 : ℚ) / 2 / 10 ^ 6 ≤ rounding := by norm_num [rounding]
    rw [GatedRequest.afterEngine_adjusted]
    split
    · rename_i reduces
      rw [orNumber_of_ne (nonzero reduces)]
      linarith
    · rename_i keeps
      have decision : request.engineResult.riskDecision ≠ .reduceSize := by
        intro reduces
        exact keeps (decide_eq_true ⟨asked, reduces⟩)
      rw [isReturned, if_neg vetoes, if_neg decision, max_eq_left opens.afterPortfolio_nonneg]
      have moved := (abs_le.mp (abs_roundTo_sub_le 6 request.afterPortfolio.adjusted)).1
      linarith

theorem GatedRequest.Opens.returned_nonneg {value : ℚ} (inside : value ∈ request.returned) :
    0 ≤ value := by
  unfold GatedRequest.returned at inside
  rcases List.mem_cons.mp inside with rfl | others
  · exact opens.allocated_nonneg.1
  · split at others
    · rcases List.mem_pair.mp others with rfl | rfl
      · exact request.portfolioReturned_nonneg
      · exact request.engineReturned_nonneg
    · cases others

theorem GatedRequest.Opens.storedNotional_le_returned {value : ℚ}
    (inside : value ∈ request.returned) (nonzero : value = 0 → 0 ∉ request.applied) :
    request.storedNotional ≤ value + rounding ∨ value = 0 ∧ request.storedStatus = "REJECTED" := by
  unfold GatedRequest.returned at inside
  rcases List.mem_cons.mp inside with rfl | others
  · left
    apply opens.storedNotional_le_allocation
    intro zero
    apply nonzero zero
    rw [← zero]
    exact List.mem_cons_self
  · split at others
    · rename_i asked
      rcases List.mem_pair.mp others with rfl | rfl
      · left
        apply opens.storedNotional_le_portfolio _ asked
        intro adjusts zero
        apply nonzero zero
        rw [← zero]
        simp [GatedRequest.applied, adjusts]
      · apply opens.storedNotional_le_engine _ asked
        intro reduces zero
        apply nonzero zero
        rw [← zero]
        simp [GatedRequest.applied, reduces]
    · cases others

theorem GatedRequest.Opens.storedSize_eq {size : ℚ} (sized : size ∈ request.payload.size) :
    request.storedSize = size := by
  have unsized : request.sized.order.size = none := unsized_preserved.sized opens.unsized
  have positive := request.payload.size_pos size sized
  unfold GatedRequest.storedSize
  rw [unsized, Option.getD_none, opens.actionSize, Option.mem_def.mp sized, Option.getD_some]
  exact max_eq_left positive.le

end Open

/-- The stored intent of a new position is not enlarged exactly when what the gates leave is
what they returned, and is all that was requested where the payload carries a size: no gate
whose result is taken returned 0, or else the intent is rejected or nothing but the rounding
is left. -/
theorem stored_not_enlarged_iff {config : PreviewConfig} {fastMode : Bool} {state : PreviewState}
    {userId : String} {payload : PreviewPayload} {request : GatedRequest}
    (isOpen : payload.requestedType = "OPEN_POSITION")
    (reached : reachGates config fastMode state userId payload = .ok request) :
    request.NotEnlarged ↔
      (0 ∉ request.applied ∨ request.left ≤ rounding ∨ request.storedStatus = "REJECTED") ∧
        ∀ size ∈ payload.size, size * |request.notional - request.left| ≤
          size * rounding + request.notional * (1 / 2 / 10 ^ 6) := by
  obtain ⟨opens, rfl⟩ := reachGates_opens isOpen reached
  have stored := opens.storedNotional_eq
  have gap : ∀ size ∈ request.payload.size,
      |request.storedSize * request.notional - size * request.storedNotional| =
        size * |request.notional - request.left| := by
    intro size sized
    rw [opens.storedSize_eq sized, stored, ← mul_sub, abs_mul,
      abs_of_pos (request.payload.size_pos size sized)]
  constructor
  · rintro ⟨_, returned, scaled⟩
    constructor
    · by_cases zero : 0 ∈ request.applied
      · right
        rcases returned 0 (request.applied_subset zero) with small | ⟨_, rejected⟩
        · rw [stored, zero_add] at small
          exact .inl small
        · exact .inr rejected
      · exact .inl zero
    · intro size sized
      rw [← gap size sized]
      exact scaled size sized
  · rintro ⟨nonzero, scaled⟩
    refine ⟨opens.storedNotional_le_requested, ?_, ?_⟩
    · intro value inside
      rcases nonzero with nonzero | small | rejected
      · exact opens.storedNotional_le_returned inside fun _ => nonzero
      · left
        have nonneg := opens.returned_nonneg inside
        rw [stored]
        linarith
      · by_cases zero : value = 0
        · exact .inr ⟨zero, rejected⟩
        · exact opens.storedNotional_le_returned inside fun isZero => absurd isZero zero
    · intro size sized
      rw [gap size sized]
      exact scaled size sized

def spotConfig : PreviewConfig := ⟨["USDT"], ["spot", "futures"]⟩

/-- A request to buy a fixed notional of BTCUSDT on a market, with a size or without. -/
def buyPayload (marketType : String) (notional : ℚ) (leverage : Option ℤ)
    (size : Option {size : ℚ // 0 < size}) : PreviewPayload where
  intentType := none
  positionId := none
  sourceType := none
  sourceRefId := none
  sourceEventId := none
  scannerSignalSnapshot := none
  signalBridgeContext := none
  timestampWindow := none
  normalizedTimestampWindow := none
  timestamp := none
  symbol := some "BTCUSDT"
  side := some "buy"
  orderType := some "market"
  marketType := some marketType
  environment := none
  positionSizeMode := some "fixed_notional"
  positionSizeValue := some notional
  size := size.map Subtype.val
  leverage
  strategyBinding := some "trend"
  strategy := none
  reduceOnly := none
  price := none
  stopPrice := none
  takeProfitPrice := none
  volatilityPct := none
  liquidationDistancePct := none
  size_pos := by
    intro value inside
    obtain ⟨positive, _, rfl⟩ := Option.map_eq_some_iff.mp inside
    exact positive.2

/-- Nothing is open, every gate but the allocation of the strategy lets everything pass. -/
def calmState (allocation : StrategyAllocation) (throttles : Bool) : PreviewState where
  tables := ⟨[], [], fun _ => 100⟩
  allocation := fun _ => allocation
  portfolio := ⟨[], [], [], by simp, by simp⟩
  portfolioState := ⟨10000, 0, 0⟩
  limits := Risk.defaultLimits
  risk := ⟨⟨fun _ => some 10000, none, [], [], []⟩, Risk.normalizedConfig Risk.defaultRiskConfig,
    false⟩
  cache := ⟨fun _ => none, none⟩
  now := 0
  spreadBps := fun _ => 1
  throttles := fun _ => throttles
  walletFailure := none
  venueBlock := none
  conflictLost := false
  pipelineBlock := none

def allocationUsing (used : ℚ) : StrategyAllocation :=
  ⟨some (1 / 10), some 10000, some used, "ACTIVE"⟩

/-- The order of a request to buy a hundred. -/
def hundredOrder : PreviewedOrder where
  order :=
    { sourceType := "manual"
      sourceRefId := ""
      intentType := none
      positionId := none
      marketType := "spot"
      symbol := "BTCUSDT"
      side := "buy"
      orderType := "market"
      leverage := some 1
      positionSizeMode := "fixed_notional"
      positionSizeValue := 100
      strategyBinding := "trend"
      size := none
      reduceOnly := none
      price := none
      stopPrice := none
      takeProfitPrice := none }
  notional := 100
  actionSize := 1 / 2
  reasons := []

def hundredPayload : PreviewPayload := buyPayload "spot" 100 none (some ⟨1 / 2, by norm_num⟩)

def hundredRequest (allocation : StrategyAllocation) (throttles : Bool) : GatedRequest :=
  ⟨false, calmState allocation throttles, "user-1", hundredPayload, hundredOrder⟩

theorem hundredRequest_reached (allocation : StrategyAllocation) (throttles : Bool) :
    reachGates spotConfig false (calmState allocation throttles) "user-1" hundredPayload =
      .ok (hundredRequest allocation throttles) := by
  have normalized : normalizeRequest spotConfig ⟨[], [], fun _ => 100⟩ "user-1" hundredPayload =
      .ok hundredOrder := by
    decide +kernel
  exact bind_eq_ok.mpr ⟨hundredOrder, normalized, rfl⟩

theorem stored_not_enlarged_iff_hundred :
    (hundredRequest (allocationUsing 0) false).NotEnlarged := by
  apply (stored_not_enlarged_iff (by decide +kernel)
    (hundredRequest_reached (allocationUsing 0) false)).mpr
  constructor
  · left
    decide +kernel
  · intro size sized
    cases sized
    decide +kernel

/-- A strategy without remaining capital is allotted 0, and the hundred is stored and
accepted in full; a throttled hundred is stored as 75 with the size of a hundred. -/
theorem allotted_zero_is_stored_in_full :
    (hundredRequest (allocationUsing 1000) false).metaSummary = ⟨.throttled, 0⟩ ∧
      (hundredRequest (allocationUsing 1000) false).storedNotional = 100 ∧
      (hundredRequest (allocationUsing 1000) false).storedStatus = "PREVIEWED" ∧
      (hundredRequest (allocationUsing 0) true).storedNotional = 75 ∧
      (hundredRequest (allocationUsing 0) true).storedSize = 1 / 2 := by
  refine ⟨?_, ?_, ?_, ?_, ?_⟩ <;> decide +kernel

end Preview
