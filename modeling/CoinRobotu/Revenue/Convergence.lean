import CoinRobotu.Keyed.Upsert
import CoinRobotu.Revenue.Ledger

/-!
# Synchronisations of the revenue ledger converge

The rows of a trade depend on the trade and the rate alone, and a row is only added under a key
that the ledger does not have. So the ledger that any synchronisations leave has the rows of the
trades of all their scopes, each once, and a summary adds up what these trades have brought. Each
row is rounded to ten decimals, and the sum to eight.
-/

namespace Revenue

open Keyed
open Numeric

section Rows

variable {rate : ℚ} {trade : CommercialTrade} {trades : List CommercialTrade}

def feeRevenue (trade : CommercialTrade) : ℚ := max trade.commissionUsd 0

def pnlShareRevenue (rate : ℚ) (trade : CommercialTrade) : ℚ := max trade.realizedPnlUsd 0 * rate

theorem keys_rowsOf : (rowsOf rate trade).map RevenueLedger.key =
    [(trade.id, "fee"), (trade.id, "pnl_share")] := rfl

theorem total_rowsOf : total (rowsOf rate trade) =
    roundTo 10 (feeRevenue trade) + roundTo 10 (pnlShareRevenue rate trade) := by
  show _ + (_ + (0 : ℚ)) = _
  rw [add_zero]
  rfl

theorem tradeId_of_mem_rowsOf {row : RevenueLedger} (inside : row ∈ rowsOf rate trade) :
    row.tradeId = trade.id := by
  obtain ⟨component, _, rfl⟩ := List.mem_map.mp inside
  rfl

theorem eq_of_key {row other : RevenueLedger} (isRow : row ∈ rowsOf rate trade)
    (isOther : other ∈ rowsOf rate trade) (same : row.key = other.key) : row = other := by
  have nodup : ((rowsOf rate trade).map RevenueLedger.key).Nodup := by
    rw [keys_rowsOf]
    simp
  exact List.inj_on_of_nodup_map nodup isRow isOther same

theorem determined_rows {trades : Trades} :
    Determined RevenueLedger.key fun row => ∃ trade ∈ trades.rows, row ∈ rowsOf rate trade := by
  rintro row other ⟨trade, inside, isRow⟩ ⟨origin, isOrigin, isOther⟩ same
  have sameId : trade.id = origin.id := by
    rw [← tradeId_of_mem_rowsOf isRow, ← tradeId_of_mem_rowsOf isOther]
    exact congrArg Prod.fst same
  obtain rfl := List.inj_on_of_nodup_map trades.keys_nodup inside isOrigin sameId
  exact eq_of_key isRow isOther same

theorem nodup_rows (nodup : (trades.map CommercialTrade.id).Nodup) :
    ((trades.flatMap (rowsOf rate)).map RevenueLedger.key).Nodup := by
  induction trades with
  | nil => exact List.nodup_nil
  | cons trade trades ih =>
    obtain ⟨fresh, later⟩ := List.nodup_cons.mp nodup
    rw [List.flatMap_cons, List.map_append, keys_rowsOf]
    apply List.Nodup.append _ (ih later)
    · intro key own isLater
      obtain ⟨row, inside, rfl⟩ := List.mem_map.mp isLater
      obtain ⟨other, isOther, isRow⟩ := List.mem_flatMap.mp inside
      have sameId : row.tradeId = trade.id := by
        simp only [RevenueLedger.key, List.mem_cons, Prod.mk.injEq, List.not_mem_nil,
          or_false] at own
        exact own.elim And.left And.left
      apply fresh
      rw [← sameId, tradeId_of_mem_rowsOf isRow]
      exact List.mem_map_of_mem isOther
    · simp

end Rows

section Upserts

variable {text : Text} {shareRate : Option String} {rate : ℚ} {ledger : List RevenueLedger}
  {trades : List CommercialTrade}

theorem foldl_add_ledger {upsert : Upsert} {rows : List RevenueLedger}
    (knows : ∀ row ∈ rows,
      row.key ∈ upsert.existingKeys ↔ row.key ∈ upsert.ledger.map RevenueLedger.key) :
    (rows.foldl Upsert.add upsert).ledger = addNew RevenueLedger.key upsert.ledger rows := by
  induction rows generalizing upsert with
  | nil => rfl
  | cons row rows ih =>
    have first := knows row List.mem_cons_self
    rw [List.foldl_cons, addNew_cons]
    by_cases known : row.key ∈ upsert.existingKeys
    · rw [Upsert.add, if_pos known, addRow, if_pos (first.mp known)]
      apply ih
      exact fun other later => knows other (List.mem_cons_of_mem _ later)
    · rw [Upsert.add, if_neg known, addRow, if_neg fun present => known (first.mpr present)]
      apply ih
      intro other later
      rw [List.mem_cons, List.map_append, List.mem_append, List.map_singleton,
        List.mem_singleton, knows other (List.mem_cons_of_mem _ later), or_comm]

theorem mem_existingKeys {row : RevenueLedger} (inside : row ∈ trades.flatMap (rowsOf rate)) :
    row.key ∈ existingKeys ledger trades ↔ row.key ∈ ledger.map RevenueLedger.key := by
  obtain ⟨trade, isTrade, isRow⟩ := List.mem_flatMap.mp inside
  have listed : row.tradeId ∈ (trades.map CommercialTrade.id).filter (· ≠ "") := by
    rw [tradeId_of_mem_rowsOf isRow]
    exact List.mem_filter.mpr ⟨List.mem_map_of_mem isTrade, decide_eq_true trade.id_ne⟩
  unfold existingKeys
  constructor
  · intro present
    obtain ⟨other, found, same⟩ := List.mem_map.mp present
    exact List.mem_map.mpr ⟨other, (List.mem_filter.mp found).1, same⟩
  · intro present
    obtain ⟨other, found, same⟩ := List.mem_map.mp present
    have sameId : other.tradeId = row.tradeId := congrArg Prod.fst same
    apply List.mem_map.mpr
    exact ⟨other, List.mem_filter.mpr ⟨found, decide_eq_true (sameId ▸ listed)⟩, same⟩

theorem upsertRevenueForTrades_eq (valid : mustShareRate text shareRate = .ok rate) :
    ∃ processed, upsertRevenueForTrades text shareRate ledger trades =
      .ok (addNew RevenueLedger.key ledger (trades.flatMap (rowsOf rate)), processed) := by
  unfold upsertRevenueForTrades
  split
  · rename_i nothing
    subst nothing
    exact ⟨_, rfl⟩
  · let started : Upsert := ⟨ledger, existingKeys ledger trades, 0, 0⟩
    let done := (trades.flatMap (rowsOf rate)).foldl Upsert.add started
    have added : done.ledger =
        addNew RevenueLedger.key ledger (trades.flatMap (rowsOf rate)) :=
      foldl_add_ledger fun row => mem_existingKeys
    refine ⟨⟨trades.length, done.inserted, done.duplicate⟩, ?_⟩
    rw [valid, ← added]
    rfl

end Upserts

section Synchronisations

variable (text : Text) (shareRate : Option String) (trades : Trades)

/-- One synchronisation after the other, from an empty ledger. One that raises is rolled back. -/
def ledgerAfter (scopes : List Scope) : List RevenueLedger :=
  scopes.foldl (fun ledger scope =>
    match syncRevenueLedgerForScope text shareRate trades ledger scope with
    | .ok synchronised => synchronised.1
    | .error _ => ledger) []

def tradesIn (scope : Scope) : List CommercialTrade :=
  match tradesOf text trades scope with
  | .ok found => found
  | .error _ => []

/-- The trades in the union of some scopes, in the order of a synchronisation. -/
def covered (scopes : List Scope) : List CommercialTrade :=
  (trades.rows.filter fun trade =>
    scopes.any fun scope => trade ∈ tradesIn text trades scope).insertionSort (inOrder · ·)

variable {text shareRate trades} {rate : ℚ} {scopes : List Scope}

theorem mem_tradesIn {scope : Scope} {trade : CommercialTrade}
    (inside : trade ∈ tradesIn text trades scope) : trade ∈ trades.rows := by
  unfold tradesIn at inside
  split at inside
  · rename_i found isFound
    unfold tradesOf at isFound
    cases isStart : parseDatetime text scope.startTs with
    | error _ =>
      rw [isStart] at isFound
      cases isFound
    | ok start =>
      cases isFinish : parseDatetime text scope.endTs with
      | error _ =>
        rw [isStart, isFinish] at isFound
        cases isFound
      | ok finish =>
        rw [isStart, isFinish] at isFound
        cases isFound
        exact (List.mem_filter.mp ((List.mem_insertionSort _).mp inside)).1
  · exact absurd inside List.not_mem_nil

theorem mem_covered {trade : CommercialTrade} :
    trade ∈ covered text trades scopes ↔ ∃ scope ∈ scopes, trade ∈ tradesIn text trades scope := by
  unfold covered
  rw [List.mem_insertionSort, List.mem_filter, List.any_eq_true]
  simp only [decide_eq_true_eq]
  constructor
  · exact And.right
  · rintro ⟨scope, isScope, inside⟩
    exact ⟨mem_tradesIn inside, scope, isScope, inside⟩

theorem nodup_covered : ((covered text trades scopes).map CommercialTrade.id).Nodup := by
  unfold covered
  apply ((List.perm_insertionSort _ _).map _).nodup_iff.mpr
  exact trades.keys_nodup.sublist (List.filter_sublist.map _)

variable (valid : mustShareRate text shareRate = .ok rate)

include valid

theorem ledgerAfter_eq :
    ledgerAfter text shareRate trades scopes =
      (scopes.map fun scope => (tradesIn text trades scope).flatMap (rowsOf rate)).foldl
        (addNew RevenueLedger.key) [] := by
  unfold ledgerAfter
  rw [List.foldl_map]
  congr 1
  funext ledger scope
  unfold syncRevenueLedgerForScope tradesIn
  cases tradesOf text trades scope with
  | error _ => rfl
  | ok found =>
    obtain ⟨processed, upserted⟩ :=
      @upsertRevenueForTrades_eq text shareRate rate ledger found valid
    show (match upsertRevenueForTrades text shareRate ledger found with
      | .ok synchronised => synchronised.1
      | .error _ => ledger) = _
    rw [upserted]

theorem ledgerAfter_perm :
    (ledgerAfter text shareRate trades scopes).Perm
      ((covered text trades scopes).flatMap (rowsOf rate)) := by
  have distinct := @nodup_rows rate _ (@nodup_covered text trades scopes)
  rw [ledgerAfter_eq valid, ← addNew_nil_of_nodup distinct]
  apply foldl_addNew_perm (@determined_rows rate trades)
  · intro batch isBatch row inside
    obtain ⟨scope, _, rfl⟩ := List.mem_map.mp isBatch
    obtain ⟨trade, isTrade, isRow⟩ := List.mem_flatMap.mp inside
    exact ⟨trade, mem_tradesIn isTrade, isRow⟩
  · intro row
    simp only [List.mem_flatMap, mem_covered, List.mem_map]
    constructor
    · rintro ⟨trade, ⟨scope, isScope, isTrade⟩, isRow⟩
      exact ⟨_, ⟨scope, isScope, rfl⟩, List.mem_flatMap.mpr ⟨trade, isTrade, isRow⟩⟩
    · rintro ⟨_, ⟨scope, isScope, rfl⟩, inside⟩
      obtain ⟨trade, isTrade, isRow⟩ := List.mem_flatMap.mp inside
      exact ⟨trade, ⟨scope, isScope, isTrade⟩, isRow⟩

end Synchronisations

section Totals

variable {text : Text} {shareRate : Option String} {trades : Trades} {rate : ℚ}
  {scopes : List Scope} {users : List (String × String)} {query : SummaryQuery}

def SummaryQuery.coversTrade (query : SummaryQuery) (user : Option String)
    (start finish : Option ℤ) (trade : CommercialTrade) : Bool :=
  trade.environment = query.environment ∧ (∀ userId ∈ user, trade.userId = userId) ∧
    (query.symbol.getD "" = "" ∨
        trade.symbol = Runtime.upper (Runtime.strip (query.symbol.getD ""))) ∧
      (∀ first ∈ start, first ≤ trade.tradeTime) ∧ ∀ last ∈ finish, trade.tradeTime ≤ last

theorem covers_of_mem_rowsOf {user : Option String} {start finish : Option ℤ}
    {trade : CommercialTrade} {row : RevenueLedger} (inside : row ∈ rowsOf rate trade) :
    query.covers user start finish row = query.coversTrade user start finish trade := by
  obtain ⟨component, _, rfl⟩ := List.mem_map.mp inside
  rfl

theorem total_append {rows others : List RevenueLedger} :
    total (rows ++ others) = total rows + total others := by
  unfold total
  rw [List.map_append, List.sum_append]

theorem total_filter_rows {user : Option String} {start finish : Option ℤ}
    {found : List CommercialTrade} :
    total ((found.flatMap (rowsOf rate)).filter (query.covers user start finish)) =
      ((found.filter (query.coversTrade user start finish)).map fun trade =>
        roundTo 10 (feeRevenue trade) + roundTo 10 (pnlShareRevenue rate trade)).sum := by
  induction found with
  | nil => rfl
  | cons trade found ih =>
    have same : ∀ row ∈ rowsOf rate trade, query.covers user start finish row =
        query.coversTrade user start finish trade := fun row => covers_of_mem_rowsOf
    rw [List.flatMap_cons, List.filter_append, total_append, ih,
      List.filter_cons]
    by_cases taken : query.coversTrade user start finish trade = true
    · have allRows : (rowsOf rate trade).filter (query.covers user start finish) =
          rowsOf rate trade :=
        List.filter_eq_self.mpr fun row inside => (same row inside).trans taken
      rw [allRows, total_rowsOf, if_pos taken, List.map_cons, List.sum_cons]
    · have noRow : (rowsOf rate trade).filter (query.covers user start finish) = [] := by
        apply List.filter_eq_nil_iff.mpr
        intro row inside
        rw [same row inside]
        exact taken
      rw [noRow, if_neg taken]
      exact zero_add _

theorem getRevenueSummary_eq {ledger : List RevenueLedger} {today : ℤ} {summary : RevenueSummary}
    (returned : getRevenueSummary text users ledger query today = .ok summary) :
    ∃ user start finish, query.user users = .ok user ∧
      parseDatetime text query.startDate = .ok start ∧
        parseDatetime text query.endDate = .ok finish ∧
          summary.totalRevenueUsd =
            roundTo 8 (total (ledger.filter (query.covers user start finish))) := by
  unfold getRevenueSummary at returned
  cases isUser : query.user users with
  | error _ =>
    rw [isUser] at returned
    cases returned
  | ok user =>
    cases isStart : parseDatetime text query.startDate with
    | error _ =>
      rw [isUser, isStart] at returned
      cases returned
    | ok start =>
      cases isFinish : parseDatetime text query.endDate with
      | error _ =>
        rw [isUser, isStart, isFinish] at returned
        cases returned
      | ok finish =>
        rw [isUser, isStart, isFinish] at returned
        cases returned
        exact ⟨user, start, finish, rfl, rfl, rfl, rfl⟩

def SummaryQuery.Selects (query : SummaryQuery) (text : Text) (users : List (String × String))
    (found selected : List CommercialTrade) : Prop :=
  ∃ user start finish, query.user users = .ok user ∧
    parseDatetime text query.startDate = .ok start ∧
      parseDatetime text query.endDate = .ok finish ∧
        selected = found.filter (query.coversTrade user start finish)

/-- Whatever the scopes of the synchronisations and their order, the ledger has the rows of one
synchronisation of all their trades, none twice, and the total of a summary is the rounded sum of
the rounded fees and profit shares of the trades that it covers. -/
theorem revenue_ledger_converges (valid : mustShareRate text shareRate = .ok rate) :
    (∃ ledger processed,
        upsertRevenueForTrades text shareRate [] (covered text trades scopes) =
            .ok (ledger, processed) ∧
          (ledgerAfter text shareRate trades scopes).Perm ledger) ∧
      ((ledgerAfter text shareRate trades scopes).map RevenueLedger.key).Nodup ∧
      ∀ users query today summary,
        getRevenueSummary text users (ledgerAfter text shareRate trades scopes) query today =
            .ok summary →
          ∃ selected, query.Selects text users (covered text trades scopes) selected ∧
            summary.totalRevenueUsd = roundTo 8 (selected.map fun trade =>
              roundTo 10 (feeRevenue trade) + roundTo 10 (pnlShareRevenue rate trade)).sum := by
  have same := @ledgerAfter_perm text shareRate trades rate scopes valid
  have distinct := @nodup_rows rate _ (@nodup_covered text trades scopes)
  refine ⟨?_, (same.map _).nodup_iff.mpr distinct, ?_⟩
  · obtain ⟨processed, upserted⟩ :=
      @upsertRevenueForTrades_eq text shareRate rate [] (covered text trades scopes) valid
    refine ⟨_, processed, upserted, ?_⟩
    rw [addNew_nil_of_nodup distinct]
    exact same
  · intro users query today summary returned
    obtain ⟨user, start, finish, isUser, isStart, isFinish, isTotal⟩ :=
      getRevenueSummary_eq returned
    refine ⟨_, ⟨user, start, finish, isUser, isStart, isFinish, rfl⟩, ?_⟩
    rw [isTotal, ← total_filter_rows]
    congr 1
    exact ((same.filter _).map RevenueLedger.revenueAmountUsd).sum_eq

end Totals

def sampleText : Text where
  float raw := if raw = "20" then .ok 20 else .error "could not convert string to float"
  fromIsoFormat _ := .error "Invalid isoformat string"

/-- A trade with a commission and a profit. -/
def sampleTrade (id marketType : String) (named : id ≠ "") (commissionUsd realizedPnlUsd : ℚ) :
    CommercialTrade where
  id := id
  userId := "u-1"
  exchange := "binance"
  marketType := marketType
  environment := "live"
  symbol := "BTCUSDT"
  exchangeTradeId := "e-" ++ id
  orderId := none
  tradeTime := 1700000000000000
  commissionAsset := "USDT"
  commissionUsd := commissionUsd
  realizedPnlUsd := realizedPnlUsd
  id_ne := named

def sampleTrades : Trades where
  rows := [sampleTrade "t-1" "spot" (by decide) 2 10,
    sampleTrade "t-2" "futures" (by decide) 1 (-5)]
  keys_nodup := by decide

def sampleScope (marketTypes : List String) : Scope := ⟨"u-1", "live", marketTypes, [], none, none⟩

/-- Three synchronisations of two trades leave four rows. -/
theorem revenue_ledger_converges_example :
    (ledgerAfter sampleText (some "20") sampleTrades
        [sampleScope ["spot"], sampleScope [], sampleScope ["futures"]]).length = 4 ∧
      ((ledgerAfter sampleText (some "20") sampleTrades
        [sampleScope ["spot"], sampleScope [], sampleScope ["futures"]]).map
          RevenueLedger.key).Nodup :=
  ⟨by decide +kernel, (revenue_ledger_converges (by decide +kernel : mustShareRate sampleText
    (some "20") = .ok (1 / 5))).2.1⟩

def dustTrades : Trades where
  rows := [sampleTrade "t-1" "spot" (by decide) (1 / 1000000000) 0]
  keys_nodup := by decide

def allOf : SummaryQuery := ⟨"live", none, none, none, none, none, 5⟩

/-- The revenue of a trade is rounded away in the total. -/
theorem total_drops_dust :
    (getRevenueSummary sampleText [] (ledgerAfter sampleText (some "20") dustTrades
        [sampleScope []]) allOf 0).map RevenueSummary.totalRevenueUsd = .ok 0 ∧
      ((covered sampleText dustTrades [sampleScope []]).map fun trade =>
        feeRevenue trade + pnlShareRevenue (1 / 5) trade).sum = 1 / 1000000000 := by
  constructor
  · decide +kernel
  · decide +kernel

end Revenue
