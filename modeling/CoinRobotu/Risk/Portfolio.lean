import CoinRobotu.Paper.Opening
import CoinRobotu.Risk.Engine
import Mathlib.Algebra.Order.BigOperators.Group.List

/-!
# Portfolio risk

`evaluate_portfolio_risk` adds the notional of a request to what the positions of the
user are worth in total, in the symbol, in its cluster and under its strategy, and
compares the sums with limits.
-/

namespace Risk

open Numeric
open Runtime (upper orElse)
open Paper (BotProfile PaperPosition)

structure RiskCluster where
  clusterId : String
  symbols : List String
  riskWeight : ℚ
deriving DecidableEq

/-- The tables that portfolio risk reads, with their primary keys; the clusters are in
the order of theirs. -/
structure PortfolioStore where
  bots : List BotProfile
  rows : List PositionRow
  clusters : List RiskCluster
  bots_nodup : (bots.map BotProfile.id).Nodup
  clusters_nodup : (clusters.map RiskCluster.clusterId).Nodup

/-- An item of `build_current_positions`. -/
structure PortfolioItem where
  symbol : String
  notional : ℚ
  strategyId : String
deriving DecidableEq

def RiskCluster.Holds (cluster : RiskCluster) (symbol : String) : Prop :=
  symbol ∈ cluster.symbols.map upper

instance (cluster : RiskCluster) (symbol : String) : Decidable (cluster.Holds symbol) :=
  inferInstanceAs (Decidable (_ ∈ _))

def clusterOf (clusters : List RiskCluster) (symbol : String) : Option RiskCluster :=
  clusters.find? fun cluster => cluster.Holds (upper symbol)

/-- `_resolve_cluster_id`. -/
def resolveClusterId (clusters : List RiskCluster) (symbol : String) : String :=
  ((clusterOf clusters symbol).map RiskCluster.clusterId).getD "UNCLUSTERED"

/-- The strategy that a bot stands for: `bot_map.get(..) or "unknown_strategy"`. -/
def strategyOfBot (bots : List BotProfile) (userId botProfileId : String) : String :=
  orElse ((bots.find? fun bot =>
    bot.userId = userId ∧ bot.isDeleted = false ∧ bot.id = botProfileId).map
      BotProfile.strategyType) "unknown_strategy"

def leveragedNotional (position : PaperPosition) : ℚ :=
  |position.quantity * position.entryPrice * (max position.leverage 1 : ℤ)|

def itemOf (bots : List BotProfile) (userId : String) (row : PositionRow) : PortfolioItem where
  symbol := upper row.position.symbol
  notional := leveragedNotional row.position
  strategyId := strategyOfBot bots userId row.botProfileId

/-- `build_current_positions`. -/
def buildCurrentPositions (bots : List BotProfile) (rows : List PositionRow) (userId : String) :
    List PortfolioItem :=
  (rows.filter fun row => row.position.userId = userId ∧ row.position.status = "open").map
    (itemOf bots userId)

/-- What is asked of an evaluation. -/
structure PortfolioRequest where
  symbol : String
  notional : ℚ
  strategyId : Option String
  volatilityPct : ℚ
deriving DecidableEq

structure PortfolioState where
  currentCapital : ℚ
  intradayDrawdownPct : ℚ
  totalDrawdownPct : ℚ
deriving DecidableEq

structure PortfolioLimits where
  maxPortfolioLeverage : ℚ
  maxSymbolExposure : ℚ
  maxClusterExposure : ℚ
  maxStrategyExposure : ℚ
  maxSingleTradeRisk : ℚ
  maxIntradayDrawdown : ℚ
  maxTotalDrawdown : ℚ
deriving DecidableEq

/-- `DEFAULT_LIMITS`. -/
def defaultLimits : PortfolioLimits := ⟨3, 35, 50, 40, 10, 5, 15⟩

/-- The four sums of notionals. -/
structure Exposures where
  total : ℚ
  symbol : ℚ
  cluster : ℚ
  strategy : ℚ
deriving DecidableEq

section Exposure

variable (items : List PortfolioItem)

def notionalOf (counts : PortfolioItem → Bool) : ℚ :=
  ((items.filter counts).map fun item => max item.notional 0).sum

/-- The cluster whose symbols and weight are used: the first with the resolved name. -/
def weighedCluster (clusters : List RiskCluster) (symbol : String) : Option RiskCluster :=
  clusters.find? fun cluster => cluster.clusterId = resolveClusterId clusters symbol

def currentExposures (clusters : List RiskCluster) (request : PortfolioRequest) : Exposures where
  total := notionalOf items fun _ => true
  symbol := notionalOf items fun item => upper item.symbol = upper request.symbol
  cluster := notionalOf items fun item =>
    ∃ cluster ∈ weighedCluster clusters request.symbol, cluster.Holds (upper item.symbol)
  strategy := notionalOf items fun item =>
    item.strategyId = orElse request.strategyId "unknown_strategy"

def projectedExposures (clusters : List RiskCluster) (request : PortfolioRequest) : Exposures :=
  let current := currentExposures items clusters request
  let requested := max request.notional 0
  { total := current.total + requested
    symbol := current.symbol + requested
    cluster := current.cluster + requested
    strategy := current.strategy + requested }

end Exposure

inductive PortfolioDecision where
  | allow
  | reject
  | adjustPosition
  | requireApproval
deriving DecidableEq, Repr

structure PositionAdjustment where
  applied : Bool
  requestedNotional : ℚ
  adjustedNotional : ℚ
  adjustmentFactor : ℚ
deriving DecidableEq

structure PortfolioResult where
  riskScore : ℚ
  riskFlags : List String
  approvalRequired : Bool
  positionAdjustment : PositionAdjustment
  decision : PortfolioDecision
  clusterId : String
  currentPortfolioLeverage : ℚ
  symbolExposurePct : ℚ
  clusterExposurePct : ℚ
  strategyExposurePct : ℚ
  singleTradeRiskPct : ℚ
deriving DecidableEq

/-- `_check_ratio`: a value over its limit, and the flag when it is above one. -/
def checkRatio (value limit : ℚ) : ℚ := max (value / max limit (1 / 10000)) 0

def hardRejectFlags : List String :=
  ["max_intraday_drawdown_breach", "max_total_drawdown_breach"]

/-- `evaluate_portfolio_risk`. -/
def evaluatePortfolioRisk (request : PortfolioRequest) (items : List PortfolioItem)
    (state : PortfolioState) (limits : PortfolioLimits) (clusters : List RiskCluster) :
    PortfolioResult :=
  let requested := max request.notional 0
  let equity := max state.currentCapital 1
  let projected := projectedExposures items clusters request
  let weight := ((weighedCluster clusters request.symbol).map RiskCluster.riskWeight).getD 1
  let leverage := roundTo 6 (projected.total / equity)
  let symbolPct := roundTo 4 (projected.symbol / equity * 100)
  let strategyPct := roundTo 4 (projected.strategy / equity * 100)
  let clusterPct := roundTo 4 (projected.cluster / equity * 100 * max weight (1 / 10))
  let tradePct := roundTo 4 (requested / equity * 100)
  let ratios : List (ℚ × String) :=
    [(checkRatio leverage limits.maxPortfolioLeverage, "max_portfolio_leverage_breach"),
      (checkRatio symbolPct limits.maxSymbolExposure, "max_symbol_exposure_breach"),
      (checkRatio clusterPct limits.maxClusterExposure, "max_cluster_exposure_breach"),
      (checkRatio strategyPct limits.maxStrategyExposure, "max_strategy_exposure_breach"),
      (checkRatio tradePct limits.maxSingleTradeRisk, "max_single_trade_risk_breach"),
      (checkRatio state.intradayDrawdownPct limits.maxIntradayDrawdown,
        "max_intraday_drawdown_breach"),
      (checkRatio state.totalDrawdownPct limits.maxTotalDrawdown, "max_total_drawdown_breach")]
  let breaches := (ratios.filter fun ratio => 1 < ratio.1).map Prod.snd
  let volatile : Bool := 7 ≤ request.volatilityPct
  let normalized := ratios.map Prod.fst ++ if volatile then [12 / 10] else []
  let riskScore := roundTo 4 (min 1 (normalized.sum / normalized.length / (15 / 10)))
  let decision : PortfolioDecision :=
    if ∃ flag ∈ breaches, flag ∈ hardRejectFlags then .reject
    else if breaches ≠ [] then if 85 / 100 ≤ riskScore then .reject else .requireApproval
    else if 65 / 100 ≤ riskScore then .adjustPosition
    else if 45 / 100 ≤ riskScore then .requireApproval
    else .allow
  { riskScore
    riskFlags := sortedCodes (breaches ++ if volatile then ["high_market_volatility"] else [])
    approvalRequired := decision = .requireApproval
    positionAdjustment :=
      if decision = .adjustPosition then
        ⟨true, roundTo 4 requested, roundTo 4 (requested * (65 / 100)), 65 / 100⟩
      else ⟨false, roundTo 4 requested, roundTo 4 requested, 1⟩
    decision
    clusterId := resolveClusterId clusters request.symbol
    currentPortfolioLeverage := leverage
    symbolExposurePct := symbolPct
    clusterExposurePct := clusterPct
    strategyExposurePct := strategyPct
    singleTradeRiskPct := tradePct }

section Verdicts

/-- What an evaluation is about, next to the limits and the clusters. -/
structure Scene where
  request : PortfolioRequest
  items : List PortfolioItem
  state : PortfolioState

/-- Nothing is safer: the request is as large, the market as volatile and the drawdowns as deep,
and the positions are all there. -/
structure Scene.Worse (scene worse : Scene) : Prop where
  symbol : worse.request.symbol = scene.request.symbol
  strategy : worse.request.strategyId = scene.request.strategyId
  capital : worse.state.currentCapital = scene.state.currentCapital
  notional : scene.request.notional ≤ worse.request.notional
  volatility : scene.request.volatilityPct ≤ worse.request.volatilityPct
  intraday : scene.state.intradayDrawdownPct ≤ worse.state.intradayDrawdownPct
  total : scene.state.totalDrawdownPct ≤ worse.state.totalDrawdownPct
  items : scene.items.Sublist worse.items

def Scene.volatile (scene : Scene) : Bool := 7 ≤ scene.request.volatilityPct

section Rules

variable (ratios : List (ℚ × String)) (volatile : Bool)

def breachesOf : List String := (ratios.filter fun ratio => 1 < ratio.1).map Prod.snd

def riskScoreOf : ℚ :=
  let normalized := ratios.map Prod.fst ++ if volatile then [12 / 10] else []
  roundTo 4 (min 1 (normalized.sum / normalized.length / (15 / 10)))

def verdictOn : PortfolioDecision :=
  if ∃ flag ∈ breachesOf ratios, flag ∈ hardRejectFlags then .reject
  else if breachesOf ratios ≠ [] then
    if 85 / 100 ≤ riskScoreOf ratios volatile then .reject else .requireApproval
  else if 65 / 100 ≤ riskScoreOf ratios volatile then .adjustPosition
  else if 45 / 100 ≤ riskScoreOf ratios volatile then .requireApproval
  else .allow

end Rules

variable (limits : PortfolioLimits) (clusters : List RiskCluster) (scene : Scene)

/-- The ratios that are averaged, but for that of a volatile market. -/
def Scene.ratios : List (ℚ × String) :=
  let equity := max scene.state.currentCapital 1
  let projected := projectedExposures scene.items clusters scene.request
  let weight := ((weighedCluster clusters scene.request.symbol).map RiskCluster.riskWeight).getD 1
  [(checkRatio (roundTo 6 (projected.total / equity)) limits.maxPortfolioLeverage,
      "max_portfolio_leverage_breach"),
    (checkRatio (roundTo 4 (projected.symbol / equity * 100)) limits.maxSymbolExposure,
      "max_symbol_exposure_breach"),
    (checkRatio (roundTo 4 (projected.cluster / equity * 100 * max weight (1 / 10)))
      limits.maxClusterExposure, "max_cluster_exposure_breach"),
    (checkRatio (roundTo 4 (projected.strategy / equity * 100)) limits.maxStrategyExposure,
      "max_strategy_exposure_breach"),
    (checkRatio (roundTo 4 (max scene.request.notional 0 / equity * 100))
      limits.maxSingleTradeRisk, "max_single_trade_risk_breach"),
    (checkRatio scene.state.intradayDrawdownPct limits.maxIntradayDrawdown,
      "max_intraday_drawdown_breach"),
    (checkRatio scene.state.totalDrawdownPct limits.maxTotalDrawdown, "max_total_drawdown_breach")]

def Scene.decision : PortfolioDecision :=
  (evaluatePortfolioRisk scene.request scene.items scene.state limits clusters).decision

theorem Scene.decision_eq :
    scene.decision limits clusters = verdictOn (scene.ratios limits clusters) scene.volatile := rfl

def Scene.ratioSum : ℚ := ((scene.ratios limits clusters).map Prod.fst).sum

/-- Neither of the drawdowns is above its limit. -/
def Scene.WithinDrawdowns : Prop :=
  checkRatio scene.state.intradayDrawdownPct limits.maxIntradayDrawdown ≤ 1 ∧
    checkRatio scene.state.totalDrawdownPct limits.maxTotalDrawdown ≤ 1

/-- A rejection stands where nothing is safer, and so does an admission where nothing is worse. -/
def Scene.Monotone : Prop :=
  (scene.decision limits clusters = .reject →
      ∀ worse : Scene, scene.Worse worse → worse.decision limits clusters = .reject) ∧
    (scene.decision limits clusters = .allow →
      ∀ better : Scene, better.Worse scene → better.decision limits clusters = .allow)

/-- A rejection in a calm market that is not for a drawdown, with a sum of ratios that a volatile
market brings below the average of a rejection. -/
def Scene.Diluted : Prop :=
  scene.request.volatilityPct < 7 ∧ scene.WithinDrawdowns limits ∧
    8924475 / 10 ^ 6 ≤ scene.ratioSum limits clusters ∧
    scene.ratioSum limits clusters < 89994 / 10 ^ 4

theorem Scene.hard_iff :
    (∃ flag ∈ breachesOf (scene.ratios limits clusters), flag ∈ hardRejectFlags) ↔
      ¬scene.WithinDrawdowns limits := by
  have among : (∃ flag ∈ breachesOf (scene.ratios limits clusters), flag ∈ hardRejectFlags) ↔
      ∃ ratio ∈ scene.ratios limits clusters, 1 < ratio.1 ∧ ratio.2 ∈ hardRejectFlags := by
    simp only [breachesOf, List.mem_map, List.mem_filter, decide_eq_true_eq]
    grind
  rw [among]
  simp [Scene.ratios, hardRejectFlags, Scene.WithinDrawdowns]
  grind

end Verdicts

section Scores

variable {ratios others : List (ℚ × String)} {volatile : Bool}

/-- The same measures, none of them smaller. -/
def Exceeded (ratios others : List (ℚ × String)) : Prop :=
  List.Forall₂ (fun ratio other => ratio.1 ≤ other.1 ∧ ratio.2 = other.2) ratios others

theorem Exceeded.breaches (exceeded : Exceeded ratios others) :
    breachesOf ratios ⊆ breachesOf others := by
  unfold breachesOf
  induction exceeded with
  | nil => exact List.Subset.refl _
  | @cons ratio other ratios others first _ ih =>
    simp only [List.filter_cons, decide_eq_true_eq]
    split <;> split <;> grind

theorem Exceeded.sum_le (exceeded : Exceeded ratios others) :
    (ratios.map Prod.fst).sum ≤ (others.map Prod.fst).sum := by
  apply List.Forall₂.sum_le_sum
  rw [List.forall₂_map_left_iff, List.forall₂_map_right_iff]
  exact exceeded.imp fun _ _ both => both.1

theorem verdictOn_reject : verdictOn ratios volatile = .reject ↔
    (∃ flag ∈ breachesOf ratios, flag ∈ hardRejectFlags) ∨
      breachesOf ratios ≠ [] ∧ 85 / 100 ≤ riskScoreOf ratios volatile := by
  unfold verdictOn
  split_ifs <;> simp_all

theorem verdictOn_allow : verdictOn ratios volatile = .allow ↔
    breachesOf ratios = [] ∧ riskScoreOf ratios volatile < 45 / 100 := by
  unfold verdictOn
  split_ifs with hard breached high adjusted approved <;> grind

variable (seven : ratios.length = 7)

include seven

theorem riskScoreOf_eq : riskScoreOf ratios volatile = roundTo 4 (min 1
    (if volatile then ((ratios.map Prod.fst).sum + 12 / 10) / 12
      else (ratios.map Prod.fst).sum / (105 / 10))) := by
  unfold riskScoreOf
  cases volatile <;> simp [seven, div_div] <;> norm_num

/-- The score is high from a sum of the ratios on, and in a volatile market from a larger one. -/
theorem riskScoreOf_high :
    85 / 100 ≤ riskScoreOf ratios volatile ↔
      (if volatile then 89994 / 10 ^ 4 else 8924475 / 10 ^ 6) ≤ (ratios.map Prod.fst).sum := by
  have edge : roundTo 4 (84995 / 10 ^ 5) = 85 / 100 := by decide +kernel
  have high_iff : ∀ value, 85 / 100 ≤ roundTo 4 (min 1 value) ↔ 84995 / 10 ^ 5 ≤ value := by
    intro value
    constructor
    · intro high
      have near := (abs_le.mp (abs_roundTo_sub_le 4 (min 1 value))).2
      have least := min_le_right 1 value
      linarith
    · intro high
      rw [← edge]
      exact roundTo_mono 4 (le_min (by norm_num) high)
  rw [riskScoreOf_eq seven, high_iff]
  split <;> constructor <;> intro high <;> linarith

theorem riskScoreOf_le {volatileOther : Bool} (sevenOthers : others.length = 7)
    (less : (ratios.map Prod.fst).sum ≤ (others.map Prod.fst).sum)
    (calm : (ratios.map Prod.fst).sum ≤ 7) (implies : volatile = true → volatileOther = true) :
    riskScoreOf ratios volatile ≤ riskScoreOf others volatileOther := by
  rw [riskScoreOf_eq seven, riskScoreOf_eq sevenOthers]
  apply roundTo_mono
  apply min_le_min_left
  split_ifs with isVolatile otherVolatile
  · linarith
  · exact absurd (implies isVolatile) otherVolatile
  · linarith
  · linarith

end Scores

section Laws

variable (limits : PortfolioLimits) (clusters : List RiskCluster) {scene worse : Scene}

theorem sum_le_of_no_breach {ratios : List (ℚ × String)} (none : breachesOf ratios = []) :
    (ratios.map Prod.fst).sum ≤ ratios.length := by
  have within : ∀ value ∈ ratios.map Prod.fst, value ≤ 1 := by
    intro value inside
    obtain ⟨ratio, isRatio, rfl⟩ := List.mem_map.mp inside
    have passed := List.filter_eq_nil_iff.mp (List.map_eq_nil_iff.mp none) ratio isRatio
    simpa using passed
  simpa using List.sum_le_card_nsmul _ 1 within

theorem checkRatio_mono {value other : ℚ} (less : value ≤ other) (limit : ℚ) :
    checkRatio value limit ≤ checkRatio other limit :=
  max_le_max_right 0 (div_le_div_of_nonneg_right less
    (le_trans (by norm_num) (le_max_right limit (1 / 10000))))

theorem notionalOf_mono {items more : List PortfolioItem} (sublist : items.Sublist more)
    (counts : PortfolioItem → Bool) : notionalOf items counts ≤ notionalOf more counts := by
  apply ((sublist.filter counts).map fun item => max item.notional 0).sum_le_sum
  intro value inside
  obtain ⟨item, _, rfl⟩ := List.mem_map.mp inside
  exact le_max_right _ _

section Worsening

variable (isWorse : scene.Worse worse)

include isWorse

theorem Scene.Worse.exceeded :
    Exceeded (scene.ratios limits clusters) (worse.ratios limits clusters) := by
  have requested : max scene.request.notional 0 ≤ max worse.request.notional 0 :=
    max_le_max_right 0 isWorse.notional
  have sums : ∀ counts, notionalOf scene.items counts + max scene.request.notional 0 ≤
      notionalOf worse.items counts + max worse.request.notional 0 := fun counts =>
    add_le_add (notionalOf_mono isWorse.items counts) requested
  have share : ∀ {value other : ℚ}, value ≤ other →
      value / max scene.state.currentCapital 1 ≤ other / max scene.state.currentCapital 1 :=
    fun less => div_le_div_of_nonneg_right less (lt_max_of_lt_right one_pos).le
  have percent : ∀ {value other : ℚ}, value ≤ other →
      value / max scene.state.currentCapital 1 * 100 ≤
        other / max scene.state.currentCapital 1 * 100 :=
    fun less => mul_le_mul_of_nonneg_right (share less) (by norm_num)
  unfold Exceeded Scene.ratios projectedExposures currentExposures
  simp only [isWorse.symbol, isWorse.strategy, isWorse.capital]
  refine .cons ⟨?_, rfl⟩ (.cons ⟨?_, rfl⟩ (.cons ⟨?_, rfl⟩ (.cons ⟨?_, rfl⟩ (.cons ⟨?_, rfl⟩
    (.cons ⟨?_, rfl⟩ (.cons ⟨?_, rfl⟩ .nil))))))
  · exact checkRatio_mono (roundTo_mono 6 (share (sums _))) _
  · exact checkRatio_mono (roundTo_mono 4 (percent (sums _))) _
  · apply checkRatio_mono (roundTo_mono 4 _) _
    exact mul_le_mul_of_nonneg_right (percent (sums _)) (le_max_of_le_right (by norm_num))
  · exact checkRatio_mono (roundTo_mono 4 (percent (sums _))) _
  · exact checkRatio_mono (roundTo_mono 4 (percent requested)) _
  · exact checkRatio_mono isWorse.intraday _
  · exact checkRatio_mono isWorse.total _

theorem Scene.Worse.rejected (clear : ¬scene.Diluted limits clusters)
    (rejected : scene.decision limits clusters = .reject) :
    worse.decision limits clusters = .reject := by
  have exceeded := isWorse.exceeded limits clusters
  have sum := exceeded.sum_le
  rw [Scene.decision_eq, verdictOn_reject] at rejected ⊢
  rcases rejected with ⟨flag, inside, hard⟩ | ⟨breached, high⟩
  · exact .inl ⟨flag, exceeded.breaches inside, hard⟩
  by_cases within : scene.WithinDrawdowns limits
  · refine .inr ⟨fun none => breached (List.subset_nil.mp (none ▸ exceeded.breaches)), ?_⟩
    rw [riskScoreOf_high rfl] at high ⊢
    have beyond : 89994 / 10 ^ 4 ≤ scene.ratioSum limits clusters := by
      cases calm : scene.volatile with
      | true => simpa [calm, Scene.ratioSum] using high
      | false =>
        refine not_lt.mp fun below => clear ⟨not_le.mp (of_decide_eq_false calm), within, ?_, below⟩
        simpa [calm, Scene.ratioSum] using high
    have enough := beyond.trans sum
    split
    · exact enough
    · linarith
  · obtain ⟨flag, inside, hard⟩ := (Scene.hard_iff limits clusters scene).mpr within
    exact .inl ⟨flag, exceeded.breaches inside, hard⟩

theorem Scene.Worse.allowed (allowed : worse.decision limits clusters = .allow) :
    scene.decision limits clusters = .allow := by
  have exceeded := isWorse.exceeded limits clusters
  rw [Scene.decision_eq, verdictOn_allow] at allowed ⊢
  have none : breachesOf (scene.ratios limits clusters) = [] :=
    List.subset_nil.mp (allowed.1 ▸ exceeded.breaches)
  refine ⟨none, lt_of_le_of_lt ?_ allowed.2⟩
  apply riskScoreOf_le rfl rfl exceeded.sum_le (sum_le_of_no_breach none)
  intro volatile
  exact decide_eq_true ((of_decide_eq_true volatile).trans isWorse.volatility)

end Worsening

/-- Rejections and admissions are monotone from a scene exactly if its rejection is not one that a
volatile market dilutes. -/
theorem portfolio_risk_monotone_iff (scene : Scene) :
    scene.Monotone limits clusters ↔ ¬scene.Diluted limits clusters := by
  constructor
  · rintro ⟨rejects, -⟩ ⟨calm, within, high, low⟩
    have notVolatile : scene.volatile = false := decide_eq_false (not_le.mpr calm)
    have breached : breachesOf (scene.ratios limits clusters) ≠ [] := by
      intro none
      have few : scene.ratioSum limits clusters ≤ (7 : ℕ) := sum_le_of_no_breach none
      norm_num at few
      linarith
    let worse : Scene := { scene with request := { scene.request with volatilityPct := 7 } }
    have isWorse : scene.Worse worse :=
      ⟨rfl, rfl, rfl, le_rfl, calm.le, le_rfl, le_rfl, .refl _⟩
    have rejected : scene.decision limits clusters = .reject := by
      rw [Scene.decision_eq, verdictOn_reject, notVolatile]
      exact .inr ⟨breached, (riskScoreOf_high rfl).mpr high⟩
    have stays := rejects rejected worse isWorse
    rw [Scene.decision_eq, verdictOn_reject] at stays
    rcases stays with hard | ⟨_, stillHigh⟩
    · exact (Scene.hard_iff limits clusters worse).mp hard within
    · have enough := (riskScoreOf_high rfl).mp stillHigh
      have volatile : worse.volatile = true := decide_eq_true le_rfl
      rw [volatile, if_pos rfl] at enough
      exact absurd low (not_lt.mpr enough)
  · intro clear
    exact ⟨fun rejected _ isWorse => isWorse.rejected limits clusters clear rejected,
      fun allowed _ isWorse => isWorse.allowed limits clusters allowed⟩

/-- A position of 39.3 per cent of the capital, with both drawdowns at their limits. -/
def crowdedScene (volatilityPct : ℚ) : Scene :=
  ⟨⟨"BTCUSDT", 3930, none, volatilityPct⟩, [], ⟨10000, 5, 15⟩⟩

theorem volatile_market_not_rejected :
    (crowdedScene 6).Worse (crowdedScene 7) ∧
      (crowdedScene 6).decision defaultLimits [] = .reject ∧
      (crowdedScene 7).decision defaultLimits [] = .requireApproval :=
  ⟨⟨rfl, rfl, rfl, le_rfl, by norm_num [crowdedScene], le_rfl, le_rfl, .refl _⟩,
    by decide +kernel, by decide +kernel⟩

end Laws

end Risk
