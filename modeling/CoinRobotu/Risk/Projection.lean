import CoinRobotu.Risk.Portfolio

/-!
# The projection and what execution creates

An evaluation projects the exposures with the notional of the request. Execution
creates a position whose worth is its quantity at the entry price times its leverage,
under the strategy of the user's oldest bot.
-/

namespace Risk

open Numeric
open Runtime (upper lower strip orElse upper_upper)
open Paper

/-- The exposures that the next evaluation computes for no additional notional. -/
def exposuresNow (bots : List BotProfile) (rows : List PositionRow) (clusters : List RiskCluster)
    (userId : String) (request : PortfolioRequest) : Exposures :=
  projectedExposures (buildCurrentPositions bots rows userId) clusters
    { request with notional := 0 }

def PortfolioStore.projected (store : PortfolioStore) (userId : String)
    (request : PortfolioRequest) : Exposures :=
  projectedExposures (buildCurrentPositions store.bots store.rows userId) store.clusters request

def openedRow (opening : Opening) : PositionRow := ⟨opening.position, opening.botProfileId, none⟩

def PortfolioStore.afterOpening (store : PortfolioStore) (userId : String) (opening : Opening)
    (request : PortfolioRequest) : Exposures :=
  exposuresNow opening.bots (store.rows ++ [openedRow opening]) store.clusters userId request

/-- All four exposures agree up to a tolerance. -/
structure Exposures.Near (tolerance : ℚ) (exposures others : Exposures) : Prop where
  total : |exposures.total - others.total| ≤ tolerance
  symbol : |exposures.symbol - others.symbol| ≤ tolerance
  cluster : |exposures.cluster - others.cluster| ≤ tolerance
  strategy : |exposures.strategy - others.strategy| ≤ tolerance

def appliedLeverage (position : PaperPosition) : ℤ := max position.leverage 1

def worthOfRounding (position : PaperPosition) : ℚ :=
  |position.entryPrice| * appliedLeverage position * (1 / 2 / 10 ^ 6)

/-- The leverage that the executor applies: that of the payload, or else the default of the
market. -/
def executedLeverage (futuresSymbols : List String) (normalized : OpeningPayload)
    (symbol : String) : ℤ :=
  let requested := lower (strip (orElse normalized.marketType ""))
  let marketType := if requested ∈ ["spot", "futures"] then requested
    else resolveSymbolMarketType futuresSymbols symbol
  orNonzero normalized.leverage (if marketType = "futures" then 3 else 1)

/-- What the executor buys for a notional is worth the evaluated one at the price and with
the leverage. -/
def WorthEvaluated (notional price : ℚ) (leverage : ℤ) (evaluated : ℚ) : Prop :=
  if 1 ≤ price ∧ notional = evaluated then
    leverage ≤ 1 ∧ price * (9995 / 10 ^ 7) ≤ evaluated
  else
    |openedQuantity notional price * |price| * (max leverage 1 : ℤ) - max evaluated 0| ≤
      |price| * (max leverage 1 : ℤ) * (1 / 2 / 10 ^ 6)

section Sums

variable {items : List PortfolioItem} {item : PortfolioItem}

theorem notionalOf_append (counts : PortfolioItem → Bool) :
    notionalOf (items ++ [item]) counts =
      notionalOf items counts + if counts item then max item.notional 0 else 0 := by
  unfold notionalOf
  rw [List.filter_append, List.map_append, List.sum_append]
  congr 1
  by_cases counted : counts item = true
  · simp [counted]
  · simp [counted]

theorem leveragedNotional_eq (position : PaperPosition) (nonneg : 0 ≤ position.quantity) :
    leveragedNotional position =
      position.quantity * |position.entryPrice| * appliedLeverage position := by
  have positive : (0 : ℚ) ≤ ((max position.leverage 1 : ℤ) : ℚ) := by
    have least : (1 : ℤ) ≤ max position.leverage 1 := le_max_right _ _
    exact_mod_cast zero_le_one.trans least
  unfold leveragedNotional appliedLeverage
  rw [abs_mul, abs_mul, abs_of_nonneg nonneg, abs_of_nonneg positive]

end Sums

section Lookups

theorem find_of_nodup {Row Key : Type} {key : Row → Key} {rows : List Row}
    (nodup : (rows.map key).Nodup) {matching : Row → Bool} {row : Row} (inside : row ∈ rows)
    (holds : matching row = true) (only : ∀ other, matching other = true → key other = key row) :
    rows.find? matching = some row := by
  cases found : rows.find? matching with
  | none => exact absurd holds (List.find?_eq_none.mp found row inside)
  | some other =>
    have same := only other (List.find?_some found)
    rw [List.inj_on_of_nodup_map nodup (List.mem_of_find?_eq_some found) inside same]

variable {store : PortfolioStore} {userId newBotId symbol : String}

theorem weighedCluster_holds_iff :
    (∃ cluster ∈ weighedCluster store.clusters symbol, cluster.Holds (upper symbol)) ↔
      (clusterOf store.clusters symbol).isSome := by
  unfold weighedCluster resolveClusterId
  cases found : clusterOf store.clusters symbol with
  | none =>
    constructor
    · rintro ⟨cluster, isCluster, holds⟩
      have inside := List.mem_of_find?_eq_some isCluster
      unfold clusterOf at found
      have without := List.find?_eq_none.mp found cluster inside
      exact absurd holds (by simpa using without)
    · intro impossible
      cases impossible
  | some cluster =>
    have inside := List.mem_of_find?_eq_some found
    have holds : cluster.Holds (upper symbol) := by simpa using List.find?_some found
    refine iff_of_true ⟨cluster, ?_, holds⟩ rfl
    exact find_of_nodup store.clusters_nodup inside (by simp) (by simp)

theorem strategyOfBot_defaultBot {botProfileId : String} (other : botProfileId ≠ newBotId) :
    strategyOfBot (defaultBot store.bots userId newBotId).2 userId botProfileId =
      strategyOfBot store.bots userId botProfileId := by
  unfold defaultBot
  split
  · rfl
  · have unlike : ¬newBotId = botProfileId := fun same => other same.symm
    simp [strategyOfBot, List.find?_append, unlike]

theorem strategyOfBot_own (fresh : ∀ bot ∈ store.bots, bot.id ≠ newBotId) :
    strategyOfBot (defaultBot store.bots userId newBotId).2 userId
        (defaultBot store.bots userId newBotId).1.id =
      orElse (some (defaultBot store.bots userId newBotId).1.strategyType)
        "unknown_strategy" := by
  unfold defaultBot
  split
  · rename_i bot found
    have inside := List.mem_of_find?_eq_some found
    have own : bot.userId = userId ∧ bot.isDeleted = false := by simpa using List.find?_some found
    have named : (store.bots.find? fun other =>
        other.userId = userId ∧ other.isDeleted = false ∧ other.id = bot.id) = some bot := by
      apply find_of_nodup store.bots_nodup inside
      · simp [own]
      · intro other matching
        exact (of_decide_eq_true matching).2.2
    unfold strategyOfBot
    rw [named]
    rfl
  · have unknown : (store.bots.find? fun other =>
        other.userId = userId ∧ other.isDeleted = false ∧ other.id = newBotId) = none := by
      rw [List.find?_eq_none]
      intro bot inside
      simp [fresh bot inside]
    unfold strategyOfBot
    rw [List.find?_append, unknown]
    simp

end Lookups

section Execution

variable {allowedQuotes futuresSymbols : List String} {safePrice : String → ℚ}
  {store : PortfolioStore} {intent : OpeningIntent} {normalized : OpeningPayload}
  {newId newBotId : String} {opening : Opening} {request : PortfolioRequest}

def openedStrategy (store : PortfolioStore) (userId newBotId : String) : String :=
  orElse (some (defaultBot store.bots userId newBotId).1.strategyType) "unknown_strategy"

variable (opened : openPositionFromIntent allowedQuotes futuresSymbols safePrice store.bots intent
  normalized newId newBotId = .ok opening)
  (freshBot : ∀ bot ∈ store.bots, bot.id ≠ newBotId)

include opened freshBot

theorem buildCurrentPositions_opened
    (freshRow : ∀ row ∈ store.rows, row.botProfileId ≠ newBotId) :
    buildCurrentPositions opening.bots (store.rows ++ [openedRow opening]) intent.userId =
      buildCurrentPositions store.bots store.rows intent.userId ++
        [⟨upper opening.position.symbol, leveragedNotional opening.position,
          openedStrategy store intent.userId newBotId⟩] := by
  obtain ⟨_, _, _, own, isOpen, _, _, isBot⟩ := openPositionFromIntent_ok opened
  obtain ⟨botId, bots⟩ := Prod.mk.inj isBot
  have same : ∀ row ∈ store.rows,
      itemOf opening.bots intent.userId row = itemOf store.bots intent.userId row := by
    intro row inside
    unfold itemOf
    rw [bots, strategyOfBot_defaultBot (freshRow row inside)]
  have added : itemOf opening.bots intent.userId (openedRow opening) =
      ⟨upper opening.position.symbol, leveragedNotional opening.position,
        openedStrategy store intent.userId newBotId⟩ := by
    unfold itemOf openedRow
    dsimp only
    rw [bots, botId, strategyOfBot_own freshBot]
    rfl
  unfold buildCurrentPositions
  rw [List.filter_append, List.map_append]
  congr 1
  · apply List.map_congr_left
    intro row inside
    exact same row (List.mem_of_mem_filter inside)
  · have counted : [openedRow opening].filter (fun row =>
        row.position.userId = intent.userId ∧ row.position.status = "open") =
          [openedRow opening] := by
      simp [openedRow, own, isOpen]
    rw [counted, List.map_singleton, added]

/-- The exposures after an opening exceed what was projected by the worth of the position,
where it counts, less the notional of the request. -/
theorem afterOpening_sub
    (freshRow : ∀ row ∈ store.rows, row.botProfileId ≠ newBotId)
    (sameSymbol : request.symbol = opening.position.symbol) (tolerance : ℚ) :
    Exposures.Near tolerance (store.afterOpening intent.userId opening request)
        (store.projected intent.userId request) ↔
      |leveragedNotional opening.position - max request.notional 0| ≤ tolerance ∧
        |(if (clusterOf store.clusters request.symbol).isSome then
            leveragedNotional opening.position else 0) - max request.notional 0| ≤ tolerance ∧
        |(if openedStrategy store intent.userId newBotId =
              orElse request.strategyId "unknown_strategy" then
            leveragedNotional opening.position else 0) - max request.notional 0| ≤ tolerance := by
  have positions := buildCurrentPositions_opened opened freshBot freshRow
  have worth : max (leveragedNotional opening.position) 0 = leveragedNotional opening.position :=
    max_eq_left (abs_nonneg _)
  have nothing : max (0 : ℚ) 0 = 0 := max_self 0
  have clustered : decide (∃ cluster ∈ weighedCluster store.clusters request.symbol,
      cluster.Holds (upper (upper opening.position.symbol))) =
        (clusterOf store.clusters request.symbol).isSome := by
    rw [upper_upper, ← sameSymbol, Bool.eq_iff_iff, decide_eq_true_eq]
    exact weighedCluster_holds_iff
  have sameUpper : upper (upper opening.position.symbol) = upper request.symbol := by
    rw [upper_upper, sameSymbol]
  have gap : ∀ current worthHere : ℚ, current + worthHere + 0 - (current + max request.notional 0) =
      worthHere - max request.notional 0 := by
    intro current worthHere
    ring
  constructor
  · rintro ⟨total, symbol, cluster, strategy⟩
    simp only [PortfolioStore.afterOpening, exposuresNow, PortfolioStore.projected,
      projectedExposures, currentExposures, positions, notionalOf_append, worth, nothing,
      clustered, gap, decide_eq_true_eq] at total cluster strategy
    exact ⟨total, cluster, strategy⟩
  · rintro ⟨total, cluster, strategy⟩
    constructor <;>
      simp only [PortfolioStore.afterOpening, exposuresNow, PortfolioStore.projected,
        projectedExposures, currentExposures, positions, notionalOf_append, worth, nothing, gap,
        sameUpper, decide_true, decide_eq_true_eq, if_true]
    · exact total
    · exact total
    · simpa only [weighedCluster_holds_iff] using cluster
    · exact strategy

end Execution

section Worth

variable {notional price : ℚ} {leverage : ℤ}

/-- With a leverage of two or more, what is bought for a notional at a price of one or
more is worth too much. -/
theorem openedQuantity_leveraged (priced : 1 ≤ price) (leveraged : 2 ≤ leverage) :
    price * leverage * (1 / 2 / 10 ^ 6) <
      openedQuantity notional price * price * leverage - max notional 0 := by
  have positive : 0 < price := by linarith
  have twice : (2 : ℚ) ≤ leverage := by exact_mod_cast leveraged
  by_cases enough : price / 1000 ≤ notional
  · have worth := (abs_le.mp (openedQuantity_worth priced enough)).1
    have nonneg : 0 ≤ notional := (div_nonneg positive.le (by norm_num)).trans enough
    rw [max_eq_left nonneg]
    -- The notional is counted at least twice, less the rounding.
    have scaled := mul_le_mul_of_nonneg_right worth (by linarith : (0 : ℚ) ≤ leverage)
    have more : price / 1000 * (leverage - 1) ≤ notional * (leverage - 1) :=
      mul_le_mul_of_nonneg_right enough (by linarith)
    have gap : price * leverage ≤ 2 * (price * (leverage - 1)) := by nlinarith
    nlinarith
  · have little := not_le.mp enough
    rw [openedQuantity_least priced little]
    have below : max notional 0 ≤ price / 1000 := max_le little.le (by positivity)
    have gap : price * leverage ≤ 2 * (price * (leverage - 1)) := by nlinarith
    have product : 0 < price * leverage := mul_pos positive (by linarith)
    nlinarith

/-- What is bought for the evaluated notional at a price of one or more is worth it
exactly with a leverage of one, when it buys the least quantity. -/
theorem openedQuantity_worth_iff (priced : 1 ≤ price) (least : 1 ≤ leverage) :
    |openedQuantity notional price * price * leverage - max notional 0| ≤
        price * leverage * (1 / 2 / 10 ^ 6) ↔
      leverage = 1 ∧ price * (9995 / 10 ^ 7) ≤ notional := by
  have positive : 0 < price := by linarith
  constructor
  · intro near
    have single : leverage = 1 := by
      by_contra other
      have leveraged : 2 ≤ leverage := by omega
      have tooMuch := @openedQuantity_leveraged notional price leverage priced leveraged
      exact absurd ((le_abs_self _).trans near) (not_le.mpr tooMuch)
    refine ⟨single, ?_⟩
    by_cases enough : price / 1000 ≤ notional
    · linarith
    · rw [openedQuantity_least priced (not_le.mp enough), single] at near
      have above := (abs_le.mp near).2
      push_cast at above
      rcases le_total notional 0 with negative | nonneg
      · rw [max_eq_right negative] at above
        linarith
      · rw [max_eq_left nonneg] at above
        linarith
  · rintro ⟨single, bought⟩
    have nonneg : 0 ≤ notional := (by positivity : (0 : ℚ) ≤ price * (9995 / 10 ^ 7)).trans bought
    rw [single, max_eq_left nonneg]
    push_cast
    rw [mul_one, mul_one]
    by_cases enough : price / 1000 ≤ notional
    · exact openedQuantity_worth priced enough
    · rw [openedQuantity_least priced (not_le.mp enough), abs_le]
      have little := not_le.mp enough
      constructor <;> linarith

theorem worthEvaluated_iff {intent : OpeningIntent} {position : PaperPosition} {evaluated : ℚ}
    (bought : position.quantity = openedQuantity intent.notional position.entryPrice) :
    WorthEvaluated intent.notional position.entryPrice position.leverage evaluated ↔
      |leveragedNotional position - max evaluated 0| ≤ worthOfRounding position := by
  have nonneg : 0 ≤ position.quantity := by
    rw [bought]
    exact (by norm_num : (0 : ℚ) ≤ 1 / 1000).trans (openedQuantity_ge _ _)
  rw [leveragedNotional_eq position nonneg, bought]
  unfold WorthEvaluated
  split
  · rename_i usual
    have least : 1 ≤ appliedLeverage position := le_max_right _ _
    have single : appliedLeverage position = 1 ↔ position.leverage ≤ 1 := by
      unfold appliedLeverage
      omega
    have exactly := @openedQuantity_worth_iff evaluated position.entryPrice
      (appliedLeverage position) usual.1 least
    unfold worthOfRounding
    rw [abs_of_pos (by linarith [usual.1] : 0 < position.entryPrice), usual.2, exactly, single]
  · exact Iff.rfl

theorem openPositionFromIntent_leverage {allowedQuotes futuresSymbols : List String}
    {safePrice : String → ℚ} {bots : List BotProfile} {intent : OpeningIntent}
    {normalized : OpeningPayload} {newId newBotId : String} {opening : Opening}
    (opened : openPositionFromIntent allowedQuotes futuresSymbols safePrice bots intent normalized
      newId newBotId = .ok opening) :
    opening.position.leverage =
      executedLeverage futuresSymbols normalized opening.position.symbol := by
  unfold openPositionFromIntent at opened
  cases isSymbol : normalizeSymbol allowedQuotes (orElse normalized.symbol intent.symbol)
      "symbol_required_for_execution_order" "invalid_quote_asset" with
  | error message =>
    rw [isSymbol] at opened
    cases opened
  | ok symbol =>
    rw [isSymbol] at opened
    cases opened
    rfl

end Worth

section Agreement

variable {allowedQuotes futuresSymbols : List String} {safePrice : String → ℚ}
  {store : PortfolioStore} {intent : OpeningIntent} {normalized : OpeningPayload}
  {newId newBotId : String} {opening : Opening} {request : PortfolioRequest}

theorem counted_iff {worth notional tolerance : ℚ} {counts : Prop} [Decidable counts]
    (near : |worth - notional| ≤ tolerance) (large : 2 * tolerance < worth) :
    |(if counts then worth else 0) - notional| ≤ tolerance ↔ counts := by
  constructor
  · intro agrees
    by_contra missed
    rw [if_neg missed] at agrees
    have above := (abs_le.mp agrees).1
    have below := (abs_le.mp near).2
    linarith
  · intro holds
    rw [if_pos holds]
    exact near

/-- The next evaluation finds the exposures that were projected, up to the rounding of the
quantity, exactly when the position is worth the evaluated notional, its symbol is in a
cluster, and the bot it is attached to stands for the strategy of the request. -/
theorem projection_matches_execution_iff
    (opened : openPositionFromIntent allowedQuotes futuresSymbols safePrice store.bots intent
      normalized newId newBotId = .ok opening)
    (freshBot : ∀ bot ∈ store.bots, bot.id ≠ newBotId)
    (freshRow : ∀ row ∈ store.rows, row.botProfileId ≠ newBotId)
    (sameSymbol : request.symbol = opening.position.symbol) :
    Exposures.Near (worthOfRounding opening.position)
        (store.afterOpening intent.userId opening request)
        (store.projected intent.userId request) ↔
      WorthEvaluated intent.notional (safePrice request.symbol)
          (executedLeverage futuresSymbols normalized request.symbol) request.notional ∧
        (safePrice request.symbol = 0 ∨
          (clusterOf store.clusters request.symbol).isSome = true ∧
            openedStrategy store intent.userId newBotId =
              orElse request.strategyId "unknown_strategy") := by
  obtain ⟨_, isPrice, isQuantity, _⟩ := openPositionFromIntent_ok opened
  have bought : opening.position.quantity =
      openedQuantity intent.notional opening.position.entryPrice := by
    rw [isPrice]
    exact isQuantity
  have price : safePrice request.symbol = opening.position.entryPrice := by
    rw [sameSymbol, isPrice]
  have leverage : executedLeverage futuresSymbols normalized request.symbol =
      opening.position.leverage := by
    rw [sameSymbol, openPositionFromIntent_leverage opened]
  rw [afterOpening_sub opened freshBot freshRow sameSymbol, price, leverage,
    worthEvaluated_iff bought]
  apply and_congr_right
  intro near
  by_cases priceless : opening.position.entryPrice = 0
  · have worthless : leveragedNotional opening.position = 0 := by
      simp [leveragedNotional, priceless]
    rw [worthless] at near ⊢
    simp only [ite_self]
    exact iff_of_true ⟨near, near⟩ (.inl priceless)
  · have large : 2 * worthOfRounding opening.position < leveragedNotional opening.position := by
      have least := openedQuantity_ge intent.notional opening.position.entryPrice
      have nonneg : 0 ≤ opening.position.quantity := by
        rw [bought]
        linarith
      have leverage : (1 : ℚ) ≤ appliedLeverage opening.position := by
        have one : 1 ≤ appliedLeverage opening.position := le_max_right _ _
        exact_mod_cast one
      have positive : 0 < |opening.position.entryPrice| * appliedLeverage opening.position :=
        mul_pos (abs_pos.mpr priceless) (by linarith)
      rw [leveragedNotional_eq _ nonneg, bought]
      unfold worthOfRounding
      nlinarith
    rw [counted_iff near large, counted_iff near large]
    simp only [priceless, false_or]

end Agreement

/-- A store with one bot, which trades a trend, and one cluster, with one symbol. -/
def trendStore : PortfolioStore where
  bots := [⟨"bot-1", "user-1", "trend", false⟩]
  rows := []
  clusters := [⟨"majors", ["BTCUSDT"], 1⟩]
  bots_nodup := by decide
  clusters_nodup := by decide

def fiftyRequested (symbol : String) : PortfolioRequest := ⟨symbol, 50, some "trend", 0⟩

/-- What is opened for fifty of a symbol on a market, at a price of one hundred. -/
def fiftyOpened (symbol marketType : String) : Except String Opening :=
  openPositionFromIntent ["USDT"] [] (fun _ => 100) trendStore.bots
    ⟨"user-1", symbol, 50, none, none⟩ ⟨none, some marketType, none, none⟩ "position-1" "bot-2"

theorem projection_matches_execution_iff_spot :
    ∃ opening, fiftyOpened "BTCUSDT" "spot" = .ok opening ∧
      Exposures.Near (worthOfRounding opening.position)
        (trendStore.afterOpening "user-1" opening (fiftyRequested "BTCUSDT"))
        (trendStore.projected "user-1" (fiftyRequested "BTCUSDT")) := by
  have symbol : (fiftyOpened "BTCUSDT" "spot").toOption.map (fun opening =>
      opening.position.symbol) = some "BTCUSDT" := by
    decide +kernel
  cases opened : fiftyOpened "BTCUSDT" "spot" with
  | error message =>
    rw [opened] at symbol
    cases symbol
  | ok opening =>
    rw [opened] at symbol
    have sameSymbol := (Option.some.inj symbol).symm
    have leverage : executedLeverage [] ⟨none, some "spot", none, none⟩ "BTCUSDT" = 1 := by
      decide +kernel
    refine ⟨opening, rfl, ?_⟩
    apply (projection_matches_execution_iff opened (by decide +kernel) (by decide +kernel)
      sameSymbol).mpr
    constructor
    · change WorthEvaluated 50 100 (executedLeverage [] _ "BTCUSDT") 50
      rw [leverage]
      norm_num [WorthEvaluated]
    · decide +kernel

/-- Fifty that are opened on the futures market are worth three times as much, a symbol of no
cluster adds nothing to the cluster that was projected for it, and without a bot of that name
nothing is added to the strategy. -/
theorem projection_unlike_execution :
    ((fiftyOpened "BTCUSDT" "futures").toOption.map fun opening =>
        ((trendStore.afterOpening "user-1" opening (fiftyRequested "BTCUSDT")).total,
          (trendStore.projected "user-1" (fiftyRequested "BTCUSDT")).total)) = some (150, 50) ∧
      ((fiftyOpened "ETHUSDT" "spot").toOption.map fun opening =>
        ((trendStore.afterOpening "user-1" opening (fiftyRequested "ETHUSDT")).cluster,
          (trendStore.projected "user-1" (fiftyRequested "ETHUSDT")).cluster)) = some (0, 50) ∧
      ((fiftyOpened "BTCUSDT" "spot").toOption.map fun opening =>
        let request := { fiftyRequested "BTCUSDT" with strategyId := some "breakout" }
        ((trendStore.afterOpening "user-1" opening request).strategy,
          (trendStore.projected "user-1" request).strategy)) = some (0, 50) := by
  decide +kernel

end Risk
