import CoinRobotu.Interleaving.Calls
import CoinRobotu.Spot.Execution

/-!
# The caps of the spot pipeline

At most three positions are open, whatever happens.
-/

namespace Spot

open Interleaving
open Numeric
open Paper (PaperPosition)

section Marking

variable {change : PaperPosition → PaperPosition}

/-- A change leaves what is open of a position that stays open. -/
def Marks (change : PaperPosition → PaperPosition) : Prop :=
  ∀ position, (change position).status = "open" → position.status = "open" ∧
    (change position).entryPrice = position.entryPrice ∧
      (change position).quantity = position.quantity ∧
        (change position).stopLoss = position.stopLoss

theorem refreshRow_marks {latestPrices : String → Option ℚ} :
    Marks (Paper.refreshRow latestPrices) := by
  intro position stays
  unfold Paper.refreshRow at stays ⊢
  split
  · rename_i isOpen
    rw [if_pos isOpen] at stays
    refine ⟨isOpen, ?_⟩
    cases latestPrices position.symbol with
    | none => exact ⟨rfl, rfl, rfl⟩
    | some lastPrice =>
      unfold PaperPosition.refresh
      dsimp only
      split <;> exact ⟨rfl, rfl, rfl⟩
  · rename_i notOpen
    rw [if_neg notOpen] at stays
    exact absurd stays notOpen

theorem liquidateRow_marks : Marks Paper.liquidateRow := by
  intro position stays
  unfold Paper.liquidateRow at stays ⊢
  split
  · rename_i isOpen
    rw [if_pos isOpen] at stays
    have closed : position.manualClose.status = "closed" := rfl
    rw [closed] at stays
    exact absurd stays (by decide)
  · rename_i notOpen
    rw [if_neg notOpen] at stays
    exact absurd stays notOpen

theorem Marks.only (marks : Marks change) {positionId : String} :
    Marks fun position => if position.id = positionId then change position else position := by
  intro position stays
  dsimp only at stays ⊢
  split
  · rename_i same
    rw [if_pos same] at stays
    exact marks position stays
  · rename_i different
    rw [if_neg different] at stays
    exact ⟨stays, rfl, rfl, rfl⟩

theorem sum_filter_map_le {Item : Type} {items : List Item} {change : Item → Item}
    {inside : Item → Bool} {value : Item → ℚ}
    (stays : ∀ item, inside (change item) = true → inside item = true ∧
      value (change item) = value item)
    (nonneg : ∀ item ∈ items, inside item = true → 0 ≤ value item) :
    (((items.map change).filter inside).map value).sum ≤ ((items.filter inside).map value).sum := by
  induction items with
  | nil => exact le_rfl
  | cons item items ih =>
    have later := ih fun other isLater =>
      nonneg other (List.mem_cons_of_mem _ isLater)
    have first := nonneg item List.mem_cons_self
    rw [List.map_cons, List.filter_cons, List.filter_cons]
    by_cases stillInside : inside (change item) = true
    · obtain ⟨wasInside, same⟩ := stays item stillInside
      rw [if_pos stillInside, if_pos wasInside, List.map_cons, List.map_cons, List.sum_cons,
        List.sum_cons, same]
      linarith
    · rw [if_neg stillInside]
      by_cases wasInside : inside item = true
      · rw [if_pos wasInside, List.map_cons, List.sum_cons]
        linarith [first wasInside]
      · rw [if_neg wasInside]
        exact later

end Marking

section Invariant

variable {pipeline : Pipeline}

/-- The caps, with the equity and the limits that the openings were approved with: the risk of each
opening, what a strategy has open since its last one, and the risk and the number of everything
that is open since the last one. -/
structure Capped (pipeline : Pipeline) : Prop where
  each : ∀ note ∈ pipeline.notes, note.risk ≤ 1 / 100 * note.equity
  strategies : ∀ strategyId note, pipeline.notes.find? (·.strategyId = strategyId) = some note →
    openNotional (pipeline.store.openOf strategyId) ≤ note.limit
  total : ∀ note, pipeline.notes.head? = some note →
    openRisk pipeline.store.openRows ≤ 3 / 100 * note.equity
  count : pipeline.store.openRows.length ≤ 3

/-- The caps hold, and nothing that is open is negative. -/
structure Sound (pipeline : Pipeline) : Prop extends Capped pipeline where
  nonneg : ∀ row ∈ pipeline.store.openRows,
    0 ≤ row.position.quantity ∧ 0 ≤ row.position.entryPrice

theorem openRisk_append {rows : List Row} {row : Row} :
    openRisk (rows ++ [row]) = openRisk rows + row.risk := by
  unfold openRisk
  rw [List.map_append, List.sum_append, List.map_singleton, List.sum_singleton]

theorem openNotional_append {rows : List Row} {row : Row} :
    openNotional (rows ++ [row]) = openNotional rows + row.notional := by
  unfold openNotional
  rw [List.map_append, List.sum_append, List.map_singleton, List.sum_singleton]

theorem Row.risk_nonneg {row : Row} (quantity : 0 ≤ row.position.quantity) : 0 ≤ row.risk :=
  mul_nonneg (abs_nonneg _) quantity

theorem Row.notional_nonneg {row : Row} (quantity : 0 ≤ row.position.quantity)
    (entryPrice : 0 ≤ row.position.entryPrice) : 0 ≤ row.notional := mul_nonneg entryPrice quantity

section Marked

variable {change : PaperPosition → PaperPosition} {now : ℤ}

theorem Marks.row (marks : Marks change) {row : Row}
    (stays : (row.becomes (change row.position) now).isOpen = true) :
    row.isOpen = true ∧ (row.becomes (change row.position) now).notional = row.notional ∧
      (row.becomes (change row.position) now).risk = row.risk ∧
        (row.becomes (change row.position) now).strategyId = row.strategyId := by
  obtain ⟨isOpen, entryPrice, quantity, stopLoss⟩ := marks row.position (of_decide_eq_true stays)
  refine ⟨decide_eq_true isOpen, ?_, ?_, rfl⟩
  · show (change row.position).entryPrice * (change row.position).quantity = row.notional
    rw [entryPrice, quantity]
    rfl
  · show |(change row.position).entryPrice - (change row.position).stopLoss| *
        (change row.position).quantity = row.risk
    rw [entryPrice, quantity, stopLoss]
    rfl

theorem Marks.openRows_length_le (marks : Marks change) :
    (pipeline.mark change now).store.openRows.length ≤ pipeline.store.openRows.length := by
  unfold Store.openRows Pipeline.mark
  rw [← List.countP_eq_length_filter, ← List.countP_eq_length_filter, List.countP_map]
  apply List.countP_mono_left
  exact fun row _ stays => (marks.row stays).1

theorem Sound.mark (sound : Sound pipeline) (marks : Marks change) :
    Sound (pipeline.mark change now) := by
  have wasOpen : ∀ row ∈ pipeline.store.rows, row.isOpen = true →
      0 ≤ row.position.quantity ∧ 0 ≤ row.position.entryPrice :=
    fun row inside isOpen => sound.nonneg row (List.mem_filter.mpr ⟨inside, isOpen⟩)
  have lessRisk : openRisk (pipeline.mark change now).store.openRows ≤
      openRisk pipeline.store.openRows := by
    apply sum_filter_map_le
    · intro row stays
      obtain ⟨isOpen, _, risk, _⟩ := marks.row stays
      exact ⟨isOpen, risk⟩
    · exact fun row inside isOpen => Row.risk_nonneg (wasOpen row inside isOpen).1
  have lessNotional : ∀ strategyId,
      openNotional ((pipeline.mark change now).store.openOf strategyId) ≤
        openNotional (pipeline.store.openOf strategyId) := by
    intro strategyId
    unfold Store.openOf Store.openRows
    rw [List.filter_filter, List.filter_filter]
    apply sum_filter_map_le
    · intro row stays
      obtain ⟨isOf, stillOpen⟩ := Bool.and_eq_true_iff.mp stays
      obtain ⟨isOpen, notional, _, strategy⟩ := marks.row stillOpen
      refine ⟨Bool.and_eq_true_iff.mpr ⟨?_, isOpen⟩, notional⟩
      rw [← strategy]
      exact isOf
    · intro row inside isOf
      obtain ⟨quantity, entryPrice⟩ := wasOpen row inside (Bool.and_eq_true_iff.mp isOf).2
      exact Row.notional_nonneg quantity entryPrice
  refine { each := sound.each, strategies := ?_, total := ?_, count := ?_, nonneg := ?_ }
  · exact fun strategyId note isLast =>
      (lessNotional strategyId).trans (sound.strategies strategyId note isLast)
  · exact fun note isLast => lessRisk.trans (sound.total note isLast)
  · exact (marks.openRows_length_le).trans sound.count
  · intro row inside
    obtain ⟨isRow, stays⟩ := List.mem_filter.mp inside
    obtain ⟨old, isOld, rfl⟩ := List.mem_map.mp isRow
    obtain ⟨isOpen, entryPrice, quantity, _⟩ := marks old.position (of_decide_eq_true stays)
    have nonneg := wasOpen old isOld (decide_eq_true isOpen)
    rw [← quantity, ← entryPrice] at nonneg
    exact nonneg

end Marked

section Approval

variable {store : Store} {signal : SignalDecision} {market : Market} {price : ℚ}

theorem equity_ge : 1 / 100 ≤ store.equity := by
  have decimals : HasDecimals 4 (1 / 100) := ⟨100, by norm_num⟩
  calc (1 / 100 : ℚ) = roundTo 4 (1 / 100) := decimals.rounded.symm
    _ ≤ store.equity := roundTo_mono 4 (le_max_right _ _)

theorem equity_pos : 0 < store.equity := lt_of_lt_of_le (by norm_num) equity_ge

theorem approved_decision (approved : (evaluateRisk store signal market).approved = true) :
    riskTagsOf store signal market = [] ∧
      (evaluateRisk store signal market).size = quantityOf store signal market.price ∧
        (evaluateRisk store signal market).stop = stopOf signal market.price ∧
          (evaluateRisk store signal market).equity = store.equity := by
  unfold evaluateRisk at approved ⊢
  split
  · rename_i hasControl
    rw [if_pos hasControl] at approved
    have noTags : riskTagsOf store signal market = [] := of_decide_eq_true approved
    exact ⟨noTags, if_pos noTags, rfl, rfl⟩
  · rename_i noControl
    rw [if_neg noControl] at approved
    cases approved

theorem approved_checks (approved : (evaluateRisk store signal market).approved = true) :
    store.openRows.length < 3 ∧ 0 < remainingStrategyCapacity store signal.strategyId ∧
      openRisk store.openRows ≤ 2 / 100 * store.equity := by
  have each := List.filterMap_eq_nil_iff.mp (approved_decision approved).1
  have few := each ("max_open_positions_reached", decide (3 ≤ store.openRows.length)) (by simp)
  have some_left := each ("strategy_capital_limit_reached",
    decide (remainingStrategyCapacity store signal.strategyId ≤ 0)) (by simp)
  have low := each ("max_open_risk_exceeded", decide (maxOpenRiskPct <
    computeOpenRiskPct store.equity store.openRows +
      riskAmountUsdt store / max store.equity (1 / 100) * 100)) (by simp)
  simp only [ite_eq_right_iff, decide_eq_true_eq, reduceCtorEq, imp_false, not_le, not_lt]
    at few some_left low
  refine ⟨few, some_left, ?_⟩
  have positive := @equity_pos store
  unfold maxOpenRiskPct computeOpenRiskPct riskAmountUsdt at low
  rw [if_neg (not_le.mpr positive), max_eq_left equity_ge] at low
  have proposed : store.equity * (1 / 100) / store.equity = 1 / 100 := by
    field_simp
  rw [proposed] at low
  have ratio : openRisk store.openRows / store.equity ≤ 2 / 100 := by linarith
  exact (div_le_iff₀ positive).mp ratio

/-- The sizing takes the price into account: the price is no further from the stop than the risk
allows for what is bought, and no higher than what is left of the capital allows for it; the least
quantity is affordable, and the quantity is not rounded up. -/
structure Fits (store : Store) (signal : SignalDecision) (price : ℚ) : Prop where
  nonneg : 0 ≤ price
  stop : |price - stopOf signal price| ≤ max (stopDistance signal price)
    (riskAmountUsdt store / capacityOf store signal * max (entryOf signal price) (1 / 10000))
  entry : price ≤ max
    (remainingStrategyCapacity store signal.strategyId / riskAmountUsdt store *
      stopDistance signal price)
    (remainingStrategyCapacity store signal.strategyId / capacityOf store signal *
      max (entryOf signal price) (1 / 10000))
  leastRisk : 1 / 10000 * stopDistance signal price ≤ riskAmountUsdt store
  leastNotional : 1 / 10000 * max (entryOf signal price) (1 / 10000) ≤ capacityOf store signal
  rounding : roundTo 6 (min (riskAmountUsdt store / stopDistance signal price)
      (capacityOf store signal / max (entryOf signal price) (1 / 10000))) ≤
    min (riskAmountUsdt store / stopDistance signal price)
      (capacityOf store signal / max (entryOf signal price) (1 / 10000))

theorem remaining_eq {strategyId : String}
    (some_left : 0 < remainingStrategyCapacity store strategyId) :
    remainingStrategyCapacity store strategyId =
      strategyLimitNotional store strategyId - openNotional (store.openOf strategyId) := by
  rcases max_choice (strategyLimitNotional store strategyId -
    openNotional (store.openOf strategyId)) 0 with isLeft | isZero
  · exact isLeft
  · exact absurd isZero some_left.ne'

theorem stopDistance_pos : 0 < stopDistance signal price :=
  lt_of_lt_of_le (by norm_num) (le_max_right _ _)

theorem entry_pos : 0 < max (entryOf signal price) (1 / 10000) :=
  lt_of_lt_of_le (by norm_num) (le_max_right _ _)

theorem quantityOf_nonneg : 0 ≤ quantityOf store signal price := by
  apply roundTo_nonneg
  have least : (0 : ℚ) ≤ 1 / 10000 := by norm_num
  exact le_min (least.trans (le_max_right _ _)) (least.trans (le_max_right _ _))

theorem Fits.quantity_le (fits : Fits store signal price) :
    quantityOf store signal price * stopDistance signal price ≤ riskAmountUsdt store ∧
      quantityOf store signal price * max (entryOf signal price) (1 / 10000) ≤
        capacityOf store signal := by
  have fromRisk : quantityFromRisk store signal price =
      riskAmountUsdt store / stopDistance signal price :=
    max_eq_left ((le_div_iff₀ stopDistance_pos).mpr fits.leastRisk)
  have fromAllocation : quantityFromAllocation store signal price =
      capacityOf store signal / max (entryOf signal price) (1 / 10000) :=
    max_eq_left ((le_div_iff₀ entry_pos).mpr fits.leastNotional)
  have notLarger : quantityOf store signal price ≤
      min (riskAmountUsdt store / stopDistance signal price)
        (capacityOf store signal / max (entryOf signal price) (1 / 10000)) := by
    unfold quantityOf
    rw [fromRisk, fromAllocation]
    exact fits.rounding
  constructor
  · exact (le_div_iff₀ stopDistance_pos).mp (notLarger.trans (min_le_left _ _))
  · exact (le_div_iff₀ entry_pos).mp (notLarger.trans (min_le_right _ _))

theorem riskAmountUsdt_pos : 0 < riskAmountUsdt store := mul_pos equity_pos (by norm_num)

theorem Fits.capacity_pos (fits : Fits store signal price) : 0 < capacityOf store signal :=
  lt_of_lt_of_le (mul_pos (by norm_num) entry_pos) fits.leastNotional

/-- A price that is at most a share of what one unit is worth makes a quantity cost at most that
share. -/
theorem cost_le {price unit quantity allowed budget : ℚ} (positive : 0 < budget)
    (allowedNonneg : 0 ≤ allowed) (nonneg : 0 ≤ quantity) (share : price ≤ allowed / budget * unit)
    (affordable : quantity * unit ≤ budget) : price * quantity ≤ allowed := by
  calc price * quantity ≤ allowed / budget * unit * quantity :=
        mul_le_mul_of_nonneg_right share nonneg
    _ = allowed / budget * (quantity * unit) := by ring
    _ ≤ allowed / budget * budget :=
        mul_le_mul_of_nonneg_left affordable (div_nonneg allowedNonneg positive.le)
    _ = allowed := div_mul_cancel₀ allowed positive.ne'

theorem Fits.caps (fits : Fits store signal price) :
    |price - stopOf signal price| * quantityOf store signal price ≤ 1 / 100 * store.equity ∧
      price * quantityOf store signal price ≤
        remainingStrategyCapacity store signal.strategyId := by
  obtain ⟨risk, notional⟩ := fits.quantity_le
  have nonneg := @quantityOf_nonneg store signal price
  have riskPositive := @riskAmountUsdt_pos store
  have remainingNonneg : 0 ≤ remainingStrategyCapacity store signal.strategyId := le_max_right _ _
  constructor
  · have percent : riskAmountUsdt store = 1 / 100 * store.equity := mul_comm _ _
    rw [← percent]
    rcases le_max_iff.mp fits.stop with near | affordable
    · calc |price - stopOf signal price| * quantityOf store signal price
          ≤ stopDistance signal price * quantityOf store signal price :=
            mul_le_mul_of_nonneg_right near nonneg
        _ ≤ riskAmountUsdt store := by rw [mul_comm]; exact risk
    · exact cost_le fits.capacity_pos riskPositive.le nonneg affordable notional
  · rcases le_max_iff.mp fits.entry with byRisk | byCapacity
    · exact cost_le riskPositive remainingNonneg nonneg byRisk risk
    · exact cost_le fits.capacity_pos remainingNonneg nonneg byCapacity notional

end Approval

section Opening

variable {signal : SignalDecision} {market : Market} {opening : Opening}

def Opens (pipeline : Pipeline) (signal : SignalDecision) (market : Market) (opening : Opening) :
    Prop :=
  (evaluateRisk pipeline.store signal market).approved = true ∧
    fills opening.policy opening.context = true

instance : Decidable (Opens pipeline signal market opening) := inferInstanceAs (Decidable (_ ∧ _))

def addedRow (store : Store) (signal : SignalDecision) (market : Market) (opening : Opening) :
    Row :=
  let decision := evaluateRisk store signal market
  openedRow opening signal.symbol signal.direction signal.strategyId market.price decision.size
    decision.leverage decision.stop decision.takeProfit

theorem processSignal_opens (opens : Opens pipeline signal market opening) :
    (processSignal pipeline signal market opening).store.rows =
        pipeline.store.rows ++ [addedRow pipeline.store signal market opening] ∧
      (processSignal pipeline signal market opening).notes =
        ⟨signal.strategyId, pipeline.store.equity,
          strategyLimitNotional pipeline.store signal.strategyId,
          (addedRow pipeline.store signal market opening).risk⟩ :: pipeline.notes := by
  have taken : ((evaluateRisk pipeline.store signal market).approved &&
      fills opening.policy opening.context) = true := Bool.and_eq_true_iff.mpr opens
  unfold processSignal
  dsimp only
  rw [if_pos taken, (approved_decision opens.1).2.2.2]
  constructor
  · split <;> rfl
  · rfl

theorem processSignal_passes (passes : ¬Opens pipeline signal market opening) :
    (processSignal pipeline signal market opening).store.rows = pipeline.store.rows ∧
      (processSignal pipeline signal market opening).notes = pipeline.notes := by
  have notTaken : ¬((evaluateRisk pipeline.store signal market).approved &&
      fills opening.policy opening.context) = true :=
    fun taken => passes (Bool.and_eq_true_iff.mp taken)
  unfold processSignal
  dsimp only
  rw [if_neg notTaken]
  constructor
  · split <;> rfl
  · rfl

theorem addedRow_caps (approved : (evaluateRisk pipeline.store signal market).approved = true)
    (fits : Fits pipeline.store signal market.price) :
    (addedRow pipeline.store signal market opening).risk ≤ 1 / 100 * pipeline.store.equity ∧
      (addedRow pipeline.store signal market opening).notional ≤
        remainingStrategyCapacity pipeline.store signal.strategyId ∧
      0 ≤ (addedRow pipeline.store signal market opening).position.quantity := by
  obtain ⟨_, size, stop, _⟩ := approved_decision approved
  obtain ⟨risk, notional⟩ := fits.caps
  unfold addedRow openedRow Row.risk Row.notional
  dsimp only
  rw [size, stop]
  exact ⟨risk, notional, quantityOf_nonneg⟩

theorem openRows_processSignal_of_opens (opens : Opens pipeline signal market opening) :
    (processSignal pipeline signal market opening).store.openRows =
      pipeline.store.openRows ++ [addedRow pipeline.store signal market opening] := by
  have isOpen : (addedRow pipeline.store signal market opening).isOpen = true := rfl
  unfold Store.openRows
  rw [(processSignal_opens opens).1, List.filter_append, List.filter_singleton, isOpen]
  rfl

theorem openRows_processSignal_of_passes (passes : ¬Opens pipeline signal market opening) :
    (processSignal pipeline signal market opening).store.openRows = pipeline.store.openRows := by
  unfold Store.openRows
  rw [(processSignal_passes passes).1]

theorem addedRow_strategyId (isSpot : signal.strategyId ∈ spotStrategies) :
    (addedRow pipeline.store signal market opening).strategyId = signal.strategyId := by
  have named : signal.strategyId ≠ "" := by
    intro empty
    rw [empty] at isSpot
    exact absurd isSpot (by decide)
  exact if_neg named

theorem openOf_processSignal (isSpot : signal.strategyId ∈ spotStrategies)
    (opens : Opens pipeline signal market opening) (strategyId : String) :
    (processSignal pipeline signal market opening).store.openOf strategyId =
      if signal.strategyId = strategyId then
        pipeline.store.openOf strategyId ++ [addedRow pipeline.store signal market opening]
      else pipeline.store.openOf strategyId := by
  unfold Store.openOf
  rw [openRows_processSignal_of_opens opens, List.filter_append, List.filter_singleton,
    addedRow_strategyId isSpot]
  by_cases own : signal.strategyId = strategyId
  · rw [if_pos own, decide_eq_true own, cond_true]
  · rw [if_neg own, decide_eq_false own, cond_false, List.append_nil]

theorem openRows_length_processSignal_le (few : pipeline.store.openRows.length ≤ 3) :
    (processSignal pipeline signal market opening).store.openRows.length ≤ 3 := by
  by_cases opens : Opens pipeline signal market opening
  · have fewer := (approved_checks opens.1).1
    rw [openRows_processSignal_of_opens opens, List.length_append, List.length_singleton]
    omega
  · rw [openRows_processSignal_of_passes opens]
    exact few

theorem Sound.opened (sound : Sound pipeline) (isSpot : signal.strategyId ∈ spotStrategies)
    (opens : Opens pipeline signal market opening)
    (fits : Fits pipeline.store signal market.price) :
    Sound (Spot.processSignal pipeline signal market opening) := by
  obtain ⟨_, notes⟩ := processSignal_opens opens
  obtain ⟨_, some_left, low⟩ := approved_checks opens.1
  obtain ⟨risk, notional, nonneg⟩ := @addedRow_caps pipeline signal market opening opens.1 fits
  have openRows := openRows_processSignal_of_opens opens
  constructor
  · constructor
    · intro note inside
      rw [notes] at inside
      rcases List.mem_cons.mp inside with rfl | isOld
      · exact risk
      · exact sound.each note isOld
    · intro strategyId note isLast
      rw [notes, List.find?_cons] at isLast
      rw [openOf_processSignal isSpot opens]
      by_cases own : signal.strategyId = strategyId
      · rw [decide_eq_true own] at isLast
        cases isLast
        rw [if_pos own, openNotional_append, ← own]
        rw [remaining_eq some_left] at notional
        exact le_sub_iff_add_le'.mp notional
      · rw [decide_eq_false own] at isLast
        rw [if_neg own]
        exact sound.strategies strategyId note isLast
    · intro note isLast
      rw [notes] at isLast
      cases isLast
      rw [openRows, openRisk_append]
      linarith
    · exact openRows_length_processSignal_le sound.count
  · intro row inside
    rw [openRows] at inside
    rcases List.mem_append.mp inside with isOld | isNew
    · exact sound.nonneg row isOld
    · rw [List.mem_singleton.mp isNew]
      exact ⟨nonneg, fits.nonneg⟩

theorem Sound.passed (sound : Sound pipeline) (passes : ¬Opens pipeline signal market opening) :
    Sound (Spot.processSignal pipeline signal market opening) := by
  obtain ⟨_, notes⟩ := processSignal_passes passes
  have openRows := openRows_processSignal_of_passes passes
  constructor
  · constructor
    · rw [notes]
      exact sound.each
    · intro strategyId note
      unfold Store.openOf
      rw [notes, openRows]
      exact sound.strategies strategyId note
    · rw [notes, openRows]
      exact sound.total
    · rw [openRows]
      exact sound.count
  · rw [openRows]
    exact sound.nonneg

end Opening

/-- A signal fits where it is opened. -/
def FitsAtOpening (pipeline : Pipeline) : Step → Prop
  | .signal signal _ market opening =>
      Opens pipeline signal market opening → Fits pipeline.store signal market.price
  | .refresh _ _ => True
  | .manualClose _ _ => True
  | .killSwitch _ => True

theorem Sound.initially {store : Store} (nothing : store.openRows = []) : Sound ⟨store, []⟩ := by
  constructor
  · constructor
    · exact fun note inside => absurd inside List.not_mem_nil
    · exact fun _ _ found => absurd found (Option.some_ne_none _).symm
    · exact fun _ found => absurd found (Option.some_ne_none _).symm
    · rw [nothing]
      exact Nat.zero_le 3
  · rw [nothing]
    exact fun row inside => absurd inside List.not_mem_nil

theorem Sound.next (sound : Sound pipeline) {step : Step} (fits : FitsAtOpening pipeline step) :
    Sound (Spot.next pipeline step) := by
  cases step with
  | signal signal isSpot market opening =>
    by_cases opens : Opens pipeline signal market opening
    · exact sound.opened isSpot opens (fits opens)
    · exact sound.passed opens
  | refresh latestPrices now => exact sound.mark refreshRow_marks
  | manualClose positionId now => exact sound.mark liquidateRow_marks.only
  | killSwitch now => exact sound.mark liquidateRow_marks

/-- In a run that starts with nothing open and whose openings all fit, the caps hold in every state
that is reached. -/
theorem fitting_runs_stay_capped {store : Store} {steps : List Step} (nothing : store.openRows = [])
    (fits : EachMeets next FitsAtOpening ⟨store, []⟩ steps) :
    Throughout next Capped ⟨store, []⟩ steps := by
  have sound : ∀ pipeline, Sound pipeline → Capped pipeline := fun _ sound => sound.toCapped
  have kept : ∀ pipeline step, Sound pipeline → FitsAtOpening pipeline step →
      Sound (next pipeline step) := fun _ _ sound => sound.next
  exact throughout_of_each (Sound.initially nothing) sound kept fits

def sampleStore : Store := ⟨none, [], []⟩

/-- A pullback signal to buy at 100 with the stop at 98. -/
def sampleSignal : SignalDecision where
  signal := "buy"
  symbol := "BTCUSDT"
  direction := "long"
  strategyId := "spot_pullback_v1"
  proposedEntry := 100
  proposedStop := 98
  proposedTakeProfit := 104
  selectionRank := some 1

def sampleMarket (price : ℚ) : Market := ⟨price, true, false, [], fun _ => 0, 0⟩

def sampleOpening : Opening where
  positionId := "position"
  userId := "user"
  marketType := "spot"
  policy := ⟨"aggressive", "market_first", 10, "market_fallback", 100, 1⟩
  context := ⟨0, 0, none⟩

def sampleStep (price : ℚ) : Step :=
  .signal sampleSignal (by decide) (sampleMarket price) sampleOpening

theorem sampleSignal_fits : Fits sampleStore sampleSignal 99 where
  nonneg := by decide +kernel
  stop := by decide +kernel
  entry := by decide +kernel
  leastRisk := by decide +kernel
  leastNotional := by decide +kernel
  rounding := by decide +kernel

/-- A signal that is filled a little below its entry, and its position closed by hand. -/
theorem fitting_runs_stay_capped_example :
    (afterAll next ⟨sampleStore, []⟩ [sampleStep 99]).store.openRows.length = 1 ∧
      Throughout next Capped ⟨sampleStore, []⟩ [sampleStep 99, .manualClose "position" 1] := by
  have opened : (afterAll next ⟨sampleStore, []⟩ [sampleStep 99]).store.openRows.length = 1 := by
    decide +kernel
  refine ⟨opened, fitting_runs_stay_capped (by decide +kernel) ?_⟩
  rw [eachMeets_cons, eachMeets_cons]
  exact ⟨fun _ => sampleSignal_fits, trivial, eachMeets_nil⟩

/-- The signal that was sized for an entry at 100 and is opened at 120 risks 8.8 percent of the
equity, and it has more open than its strategy may have. -/
theorem opening_price_breaks_caps :
    ∃ note row, (next ⟨sampleStore, []⟩ (sampleStep 120)).notes = [note] ∧
      (next ⟨sampleStore, []⟩ (sampleStep 120)).store.openRows = [row] ∧
        note.equity = 10000 ∧ note.limit = 4500 ∧ row.risk = 880 ∧ row.notional = 4800 ∧
          ¬Throughout next Capped ⟨sampleStore, []⟩ [sampleStep 120] := by
  have noted : (next ⟨sampleStore, []⟩ (sampleStep 120)).notes =
      [⟨"spot_pullback_v1", 10000, 4500, 880⟩] := by
    decide +kernel
  have opened : (next ⟨sampleStore, []⟩ (sampleStep 120)).store.openRows =
      [addedRow sampleStore sampleSignal (sampleMarket 120) sampleOpening] := by
    decide +kernel
  refine ⟨_, _, noted, opened, rfl, rfl, by decide +kernel, by decide +kernel, ?_⟩
  intro throughout
  have capped : Capped (next ⟨sampleStore, []⟩ (sampleStep 120)) := throughout [_] [] rfl
  have risk : (880 : ℚ) ≤ 1 / 100 * 10000 :=
    capped.each ⟨"spot_pullback_v1", 10000, 4500, 880⟩ (noted ▸ List.mem_singleton_self _)
  norm_num at risk

end Invariant

end Spot
