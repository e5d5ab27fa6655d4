import CoinRobotu.Live.Reconciliation

/-!
# What a live reconciliation misses

The loops walk through the local entries.
-/

namespace Live

open Keyed

section Traversal

variable {Item Result : Type} {visit : Item → Option Result} {items : List Item}
  {results : List Result}

theorem mem_mapM (visited : items.mapM visit = some results) {result : Result} :
    result ∈ results ↔ ∃ item ∈ items, visit item = some result := by
  induction items generalizing results with
  | nil =>
    rw [List.mapM_nil] at visited
    cases visited
    simp
  | cons item items ih =>
    rw [List.mapM_cons] at visited
    obtain ⟨first, isFirst, visited⟩ := Option.bind_eq_some_iff.mp visited
    obtain ⟨rest, isRest, visited⟩ := Option.bind_eq_some_iff.mp visited
    cases visited
    rw [List.mem_cons, ih isRest]
    simp [isFirst, eq_comm]

theorem mapM_isSome : (items.mapM visit).isSome ↔ ∀ item ∈ items, (visit item).isSome := by
  induction items with
  | nil => simp
  | cons item items ih =>
    rw [List.mapM_cons, List.forall_mem_cons, ← ih]
    cases visit item with
    | none => simp
    | some first =>
      cases items.mapM visit with
      | none => simp
      | some rest => simp

end Traversal

section Orders

variable {engine : Entry} {matched engineOrders exchangeOrders : List Entry} {name : String}

theorem orderId_of_mem_orderFindings {issue : OrderIssue}
    (inside : issue ∈ (orderFindings engine matched).1) : issue.orderId = orderId engine := by
  cases matched with
  | nil =>
    rw [List.mem_singleton.mp inside]
  | cons exchange others =>
    unfold orderFindings at inside
    dsimp only at inside
    split_ifs at inside <;> grind

theorem orderFindings_eq_nil : (orderFindings engine matched).1 = [] ↔
    ∃ exchange, matched = [exchange] ∧ mismatchFields engine exchange = [] := by
  cases matched with
  | nil => simp [orderFindings]
  | cons exchange others =>
    unfold orderFindings
    dsimp only
    split_ifs with single same <;> simp_all

theorem order_reported_iff :
    (∃ issue ∈ (reconcileOrderState engineOrders exchangeOrders).orderReconciliationIssues,
        issue.orderId = name) ↔
      ∃ engine ∈ engineOrders, orderId engine = name ∧
        (orderFindings engine (groups orderId exchangeOrders name)).1 ≠ [] := by
  unfold reconcileOrderState
  simp only [List.mem_flatMap, List.mem_map]
  constructor
  · rintro ⟨issue, ⟨_, ⟨engine, inside, rfl⟩, found⟩, rfl⟩
    have named := orderId_of_mem_orderFindings found
    exact ⟨engine, inside, named.symm, named ▸ List.ne_nil_of_mem found⟩
  · rintro ⟨engine, inside, rfl, found⟩
    obtain ⟨issue, isIssue⟩ := List.exists_mem_of_ne_nil _ found
    exact ⟨issue, ⟨_, ⟨engine, inside, rfl⟩, isIssue⟩, orderId_of_mem_orderFindings isIssue⟩

theorem not_reconciled_of_reported {issue : OrderIssue} (some_order : exchangeOrders ≠ [])
    (reported : issue ∈
      (reconcileOrderState engineOrders exchangeOrders).orderReconciliationIssues) :
    (reconcileOrderState engineOrders exchangeOrders).orderReconciliationState ≠ "RECONCILED" := by
  have some_issue := List.ne_nil_of_mem reported
  unfold reconcileOrderState at some_issue ⊢
  dsimp only at some_issue ⊢
  rw [if_neg some_order, if_neg some_issue]
  decide

/-- The verdict is only given to orders that match one to one and agree, and an order that only the
exchange has, or that two others match, is reported and prevents it. -/
structure OrdersSound (engineOrders exchangeOrders : List Entry) : Prop where
  verdict : (reconcileOrderState engineOrders exchangeOrders).orderReconciliationState =
      "RECONCILED" →
    Matched orderId orderId engineOrders exchangeOrders fun engine exchange =>
      mismatchFields engine exchange = []
  reported : ∀ name, Stray orderId orderId engineOrders exchangeOrders name ∨
      Crowded orderId orderId engineOrders exchangeOrders name →
    (∃ issue ∈ (reconcileOrderState engineOrders exchangeOrders).orderReconciliationIssues,
        issue.orderId = name) ∧
      (reconcileOrderState engineOrders exchangeOrders).orderReconciliationState ≠ "RECONCILED"

/-- The exchange has no order of its own, and where local orders share the identifier of one at the
exchange, the exchange has it twice as well or one of them differs. -/
structure OrdersNoticed (engineOrders exchangeOrders : List Entry) : Prop where
  noStray : ∀ name, ¬Stray orderId orderId engineOrders exchangeOrders name
  shared : ∀ name, 1 < (engineOrders.map orderId).count name →
    name ∈ exchangeOrders.map orderId → 1 < (exchangeOrders.map orderId).count name ∨
      ∃ engine ∈ engineOrders, orderId engine = name ∧
        ∃ exchange ∈ exchangeOrders, orderId exchange = name ∧ mismatchFields engine exchange ≠ []

theorem partner_of_nil
    (nothing : (orderFindings engine (groups orderId exchangeOrders (orderId engine))).1 = []) :
    (exchangeOrders.map orderId).count (orderId engine) = 1 ∧
      ∀ exchange ∈ exchangeOrders, orderId exchange = orderId engine →
        mismatchFields engine exchange = [] := by
  obtain ⟨partner, only, same⟩ := orderFindings_eq_nil.mp nothing
  constructor
  · rw [← length_groups, only, List.length_singleton]
  · intro exchange inside named
    have grouped : exchange ∈ groups orderId exchangeOrders (orderId engine) := by
      rw [groups_eq_filter]
      exact List.mem_filter.mpr ⟨inside, decide_eq_true named⟩
    rw [only] at grouped
    rw [List.mem_singleton.mp grouped]
    exact same

theorem nil_of_reconciled
    (verdict : (reconcileOrderState engineOrders exchangeOrders).orderReconciliationState =
      "RECONCILED") (inside : engine ∈ engineOrders) :
    (orderFindings engine (groups orderId exchangeOrders (orderId engine))).1 = [] := by
  by_contra found
  obtain ⟨issue, isIssue, _⟩ := order_reported_iff.mpr ⟨engine, inside, rfl, found⟩
  by_cases some_order : exchangeOrders = []
  · unfold reconcileOrderState at verdict
    dsimp only at verdict
    rw [if_pos some_order, if_neg (List.ne_nil_of_mem inside)] at verdict
    exact absurd verdict (by decide)
  · exact not_reconciled_of_reported some_order isIssue verdict

theorem OrdersNoticed.verdict (noticed : OrdersNoticed engineOrders exchangeOrders)
    (verdict : (reconcileOrderState engineOrders exchangeOrders).orderReconciliationState =
      "RECONCILED") :
    Matched orderId orderId engineOrders exchangeOrders fun engine exchange =>
      mismatchFields engine exchange = [] := by
  have partner := fun {engine} (inside : engine ∈ engineOrders) =>
    partner_of_nil (nil_of_reconciled verdict inside)
  apply Matched.of_partners noticed.noStray
  · rintro name ⟨isEngine, isExchange, several⟩
    obtain ⟨engine, inside, rfl⟩ := List.mem_map.mp isEngine
    have once := (partner inside).1
    rcases several with twice | twice
    · rcases noticed.shared _ twice isExchange with twice | ⟨other, isOther, named, differs⟩
      · omega
      · obtain ⟨exchange, isPartner, shares, differs⟩ := differs
        exact differs ((partner isOther).2 exchange isPartner (shares.trans named.symm))
    · omega
  · intro engine inside
    apply List.count_pos_iff.mp
    rw [(partner inside).1]
    exact one_pos
  · exact fun engine inside exchange isPartner named =>
      (partner inside).2 exchange isPartner named.symm

theorem OrdersNoticed.reported (noticed : OrdersNoticed engineOrders exchangeOrders)
    (spoils : Stray orderId orderId engineOrders exchangeOrders name ∨
      Crowded orderId orderId engineOrders exchangeOrders name) :
    ∃ issue ∈ (reconcileOrderState engineOrders exchangeOrders).orderReconciliationIssues,
      issue.orderId = name := by
  rw [order_reported_iff]
  rcases spoils with stray | ⟨isEngine, isExchange, several⟩
  · exact absurd stray (noticed.noStray name)
  · obtain ⟨engine, inside, rfl⟩ := List.mem_map.mp isEngine
    have doubled : 1 < (exchangeOrders.map orderId).count (orderId engine) ∨
        ∃ other ∈ engineOrders, orderId other = orderId engine ∧
          ∃ exchange ∈ exchangeOrders, orderId exchange = orderId engine ∧
            mismatchFields other exchange ≠ [] := by
      rcases several with twice | twice
      · exact noticed.shared _ twice isExchange
      · exact Or.inl twice
    rcases doubled with twice | ⟨other, isOther, named, exchange, isPartner, shares, differs⟩
    · refine ⟨engine, inside, rfl, fun nothing => ?_⟩
      have once := (partner_of_nil nothing).1
      omega
    · refine ⟨other, isOther, named, fun nothing => ?_⟩
      rw [← named] at nothing shares
      exact differs ((partner_of_nil nothing).2 exchange isPartner shares)

theorem ordersSound_iff :
    OrdersSound engineOrders exchangeOrders ↔ OrdersNoticed engineOrders exchangeOrders := by
  constructor
  · intro sound
    have reported := fun {name} (spoils : Stray orderId orderId engineOrders exchangeOrders name ∨
        Crowded orderId orderId engineOrders exchangeOrders name) =>
      order_reported_iff.mp (sound.reported name spoils).1
    constructor
    · intro name stray
      obtain ⟨engine, inside, rfl, _⟩ := reported (Or.inl stray)
      exact stray.2 (List.mem_map_of_mem inside)
    · intro name twice isExchange
      by_contra unnoticed
      push Not at unnoticed
      have isEngine : name ∈ engineOrders.map orderId := List.count_pos_iff.mp (by omega)
      obtain ⟨engine, inside, rfl, found⟩ :=
        reported (Or.inr ⟨isEngine, isExchange, Or.inl twice⟩)
      apply found
      rw [orderFindings_eq_nil]
      have present := List.count_pos_iff.mpr isExchange
      have once : (groups orderId exchangeOrders (orderId engine)).length = 1 := by
        rw [length_groups]
        omega
      obtain ⟨partner, only⟩ := List.length_eq_one_iff.mp once
      have isPartner : partner ∈ groups orderId exchangeOrders (orderId engine) := by
        rw [only]
        exact List.mem_singleton_self _
      rw [groups_eq_filter] at isPartner
      obtain ⟨isOrder, shares⟩ := List.mem_filter.mp isPartner
      have same := unnoticed.2 engine inside rfl partner isOrder (of_decide_eq_true shares)
      exact ⟨partner, only, same⟩
  · intro noticed
    refine ⟨noticed.verdict, fun name spoils => ?_⟩
    obtain ⟨issue, isIssue, named⟩ := noticed.reported spoils
    refine ⟨⟨issue, isIssue, named⟩, not_reconciled_of_reported ?_ isIssue⟩
    rintro rfl
    rcases spoils with stray | crowded
    · exact List.not_mem_nil stray.1
    · exact List.not_mem_nil crowded.2.1

end Orders

section Positions

variable {text : Text} {engine : Entry} {enginePositions exchangePositions : List Entry}
  {name : String} {report : PositionReport}

theorem delta_isSome {exchange : Entry} {field : String} :
    (delta text engine exchange field).isSome ↔
      ((Entry.get engine field).toFloat text).isSome ∧
        ((Entry.get exchange field).toFloat text).isSome := by
  unfold delta
  cases (Entry.get engine field).toFloat text with
  | none => simp
  | some own =>
    cases (Entry.get exchange field).toFloat text with
    | none => simp
    | some other => simp

theorem mismatches_isSome {exchange : Entry} : (mismatches text engine exchange).isSome ↔
    ∀ field ∈ positionFields, ((Entry.get engine field).toFloat text).isSome ∧
      ((Entry.get exchange field).toFloat text).isSome := by
  have visited : (mismatches text engine exchange).isSome =
      (positionFields.mapM fun field =>
        (delta text engine exchange field).map (field, ·)).isSome := by
    unfold mismatches
    cases positionFields.mapM fun field => (delta text engine exchange field).map (field, ·) with
    | none | some => rfl
  rw [visited, mapM_isSome]
  apply forall₂_congr
  intro field _
  rw [Option.isSome_map, delta_isSome]

def Compared (partner : Option Entry) (exchange : Entry) : Prop :=
  partner = some exchange ∧ exchange ≠ []

variable {partner : Option Entry}

variable {found : List Drift × List (String × Entry)}

theorem symbol_of_mem_positionFindings {drift : Drift}
    (finds : positionFindings text engine partner = some found) (inside : drift ∈ found.1) :
    drift.symbol = positionSymbol text engine := by
  match partner with
  | none | some [] =>
    cases finds
    rw [List.mem_singleton.mp inside]
  | some (field :: fields) =>
    obtain ⟨differing, _, rfl⟩ := Option.map_eq_some_iff.mp finds
    split_ifs at inside with same
    · exact absurd inside List.not_mem_nil
    · rw [List.mem_singleton.mp inside]

theorem positionFindings_eq_nil
    (finds : positionFindings text engine partner = some found) : found.1 = [] ↔
      ∃ exchange, Compared partner exchange ∧ mismatches text engine exchange = some [] := by
  match partner with
  | none | some [] =>
    cases finds
    simp [Compared]
  | some (field :: fields) =>
    obtain ⟨differing, isDiffering, rfl⟩ := Option.map_eq_some_iff.mp finds
    have compared : ∀ exchange, Compared (some (field :: fields)) exchange ↔
        field :: fields = exchange := by
      intro exchange
      simp only [Compared, Option.some.injEq, and_iff_left_iff_imp]
      rintro rfl
      exact List.cons_ne_nil _ _
    simp only [compared, exists_eq_left', isDiffering, Option.some.injEq]
    split_ifs with same <;> simp [same]

theorem positionFindings_isSome :
    (positionFindings text engine partner).isSome ↔
      ∀ exchange, Compared partner exchange → (mismatches text engine exchange).isSome := by
  match partner with
  | none | some [] => simp [positionFindings, Compared]
  | some (field :: fields) => simp [positionFindings, Compared]

/-- Every number that is compared is one. -/
def Numeric (text : Text) (enginePositions exchangePositions : List Entry) : Prop :=
  ∀ engine ∈ enginePositions, ∀ exchange,
    Compared (latest (positionSymbol text) exchangePositions (positionSymbol text engine))
        exchange →
      ∀ field ∈ positionFields, ((Entry.get engine field).toFloat text).isSome ∧
        ((Entry.get exchange field).toFloat text).isSome

theorem report_eq (reconciled : reconcilePositionState text enginePositions exchangePositions =
      some report) : ∃ findings,
    (enginePositions.mapM fun engine => positionFindings text engine
        (latest (positionSymbol text) exchangePositions (positionSymbol text engine))) =
        some findings ∧
      report.positionDrifts = findings.flatMap Prod.fst ∧
      report.positionSyncState =
        (if exchangePositions = [] then if enginePositions = [] then "SYNCED" else "UNVERIFIED"
        else if report.positionDrifts = [] then "SYNCED" else "DRIFT") := by
  obtain ⟨findings, visited, returned⟩ := Option.bind_eq_some_iff.mp reconciled
  cases returned
  exact ⟨findings, visited, rfl, rfl⟩

theorem reconcilePositionState_isSome :
    (reconcilePositionState text enginePositions exchangePositions).isSome ↔
      Numeric text enginePositions exchangePositions := by
  have visited : (reconcilePositionState text enginePositions exchangePositions).isSome ↔
      (enginePositions.mapM fun engine => positionFindings text engine
        (latest (positionSymbol text) exchangePositions (positionSymbol text engine))).isSome := by
    rw [Option.isSome_iff_exists, Option.isSome_iff_exists]
    constructor
    · rintro ⟨report, reconciled⟩
      obtain ⟨findings, visited, _⟩ := report_eq reconciled
      exact ⟨findings, visited⟩
    · rintro ⟨findings, visited⟩
      exact ⟨_, Option.bind_eq_some_iff.mpr ⟨findings, visited, rfl⟩⟩
  rw [visited, mapM_isSome]
  apply forall₂_congr
  intro engine _
  rw [positionFindings_isSome]
  apply forall₂_congr
  intro exchange _
  exact mismatches_isSome

/-- A local position agrees with the last one of its symbol at the exchange. -/
def Agrees (text : Text) (exchangePositions : List Entry) (engine : Entry) : Prop :=
  ∃ exchange, Compared
      (latest (positionSymbol text) exchangePositions (positionSymbol text engine)) exchange ∧
    mismatches text engine exchange = some []

section Reconciled

variable
  (reconciled : reconcilePositionState text enginePositions exchangePositions = some report)

include reconciled

theorem position_reported_iff :
    (∃ drift ∈ report.positionDrifts, drift.symbol = name) ↔
      ∃ engine ∈ enginePositions, positionSymbol text engine = name ∧
        ¬Agrees text exchangePositions engine := by
  obtain ⟨findings, visited, drifts, _⟩ := report_eq reconciled
  rw [drifts]
  simp only [List.mem_flatMap]
  constructor
  · rintro ⟨drift, ⟨found, isFound, isDrift⟩, rfl⟩
    obtain ⟨engine, inside, finds⟩ := (mem_mapM visited).mp isFound
    refine ⟨engine, inside, (symbol_of_mem_positionFindings finds isDrift).symm, ?_⟩
    exact fun agrees => List.ne_nil_of_mem isDrift ((positionFindings_eq_nil finds).mpr agrees)
  · rintro ⟨engine, inside, rfl, disagrees⟩
    have each := mapM_isSome.mp (Option.isSome_of_eq_some visited)
    obtain ⟨found, finds⟩ := Option.isSome_iff_exists.mp (each engine inside)
    have some_drift : found.1 ≠ [] :=
      fun nothing => disagrees ((positionFindings_eq_nil finds).mp nothing)
    obtain ⟨drift, isDrift⟩ := List.exists_mem_of_ne_nil _ some_drift
    have isFound := (mem_mapM visited).mpr ⟨engine, inside, finds⟩
    exact ⟨drift, ⟨found, isFound, isDrift⟩, symbol_of_mem_positionFindings finds isDrift⟩

theorem not_synced_of_reported {drift : Drift} (some_position : exchangePositions ≠ [])
    (reported : drift ∈ report.positionDrifts) : report.positionSyncState ≠ "SYNCED" := by
  obtain ⟨_, _, _, state⟩ := report_eq reconciled
  rw [state, if_neg some_position, if_neg (List.ne_nil_of_mem reported)]
  decide

/-- The verdict is only given to positions that match one to one and agree, and a position that
only the exchange has, or that two others match, is reported and prevents it. -/
def PositionsSound (text : Text) (enginePositions exchangePositions : List Entry) : Prop :=
  ∀ report, reconcilePositionState text enginePositions exchangePositions = some report →
    (report.positionSyncState = "SYNCED" →
      Matched (positionSymbol text) (positionSymbol text) enginePositions exchangePositions
        fun engine exchange => mismatches text engine exchange = some []) ∧
    ∀ name, Stray (positionSymbol text) (positionSymbol text) enginePositions exchangePositions
          name ∨
        Crowded (positionSymbol text) (positionSymbol text) enginePositions exchangePositions
          name →
      (∃ drift ∈ report.positionDrifts, drift.symbol = name) ∧ report.positionSyncState ≠ "SYNCED"

/-- The exchange has no position of its own, and where positions of one side share the symbol of
one of the other, a local one does not agree with the last one at the exchange. -/
structure PositionsNoticed (text : Text) (enginePositions exchangePositions : List Entry) :
    Prop where
  noStray : ∀ name,
    ¬Stray (positionSymbol text) (positionSymbol text) enginePositions exchangePositions name
  shared : ∀ name,
    Crowded (positionSymbol text) (positionSymbol text) enginePositions exchangePositions name →
      ∃ engine ∈ enginePositions, positionSymbol text engine = name ∧
        ¬Agrees text exchangePositions engine

theorem PositionsNoticed.reported
    (noticed : PositionsNoticed text enginePositions exchangePositions)
    (spoils :
      Stray (positionSymbol text) (positionSymbol text) enginePositions exchangePositions name ∨
        Crowded (positionSymbol text) (positionSymbol text) enginePositions exchangePositions
          name) :
    ∃ drift ∈ report.positionDrifts, drift.symbol = name := by
  rcases spoils with stray | crowded
  · exact absurd stray (noticed.noStray name)
  · exact (position_reported_iff reconciled).mpr (noticed.shared name crowded)

theorem agrees_of_synced
    (verdict : report.positionSyncState = "SYNCED") (inside : engine ∈ enginePositions) :
    Agrees text exchangePositions engine := by
  by_contra disagrees
  obtain ⟨drift, isDrift, _⟩ :=
    (position_reported_iff reconciled).mpr ⟨engine, inside, rfl, disagrees⟩
  by_cases some_position : exchangePositions = []
  · obtain ⟨_, _, _, state⟩ := report_eq reconciled
    rw [state, if_pos some_position, if_neg (List.ne_nil_of_mem inside)] at verdict
    exact absurd verdict (by decide)
  · exact not_synced_of_reported reconciled some_position isDrift verdict

theorem PositionsNoticed.verdict
    (noticed : PositionsNoticed text enginePositions exchangePositions)
    (verdict : report.positionSyncState = "SYNCED") :
    Matched (positionSymbol text) (positionSymbol text) enginePositions exchangePositions
      fun engine exchange => mismatches text engine exchange = some [] := by
  have agrees := fun {engine} (inside : engine ∈ enginePositions) =>
    agrees_of_synced reconciled verdict inside
  have notCrowded : ∀ name, ¬Crowded (positionSymbol text) (positionSymbol text) enginePositions
      exchangePositions name := by
    intro name crowded
    obtain ⟨engine, inside, _, disagrees⟩ := noticed.shared name crowded
    exact disagrees (agrees inside)
  have partners : ∀ engine ∈ enginePositions,
      positionSymbol text engine ∈ exchangePositions.map (positionSymbol text) := by
    intro engine inside
    obtain ⟨exchange, ⟨isLast, _⟩, _⟩ := agrees inside
    obtain ⟨isPosition, named⟩ := mem_of_latest isLast
    exact List.mem_map.mpr ⟨exchange, isPosition, named⟩
  apply Matched.of_partners noticed.noStray notCrowded partners
  intro engine inside exchange isPosition shares
  obtain ⟨last, ⟨isLast, _⟩, same⟩ := agrees inside
  have only : ¬1 < (exchangePositions.map (positionSymbol text)).count
      (positionSymbol text engine) := fun twice =>
    notCrowded _ ⟨List.mem_map_of_mem inside, partners engine inside, Or.inr twice⟩
  have grouped : exchange ∈ groups (positionSymbol text) exchangePositions
      (positionSymbol text engine) := by
    rw [groups_eq_filter]
    exact List.mem_filter.mpr ⟨isPosition, decide_eq_true shares.symm⟩
  have once : (groups (positionSymbol text) exchangePositions
      (positionSymbol text engine)).length = 1 := by
    have present := List.length_pos_of_mem grouped
    rw [← length_groups] at only
    omega
  obtain ⟨partner, single⟩ := List.length_eq_one_iff.mp once
  rw [latest_eq_getLast?, single] at isLast
  cases isLast
  rw [single] at grouped
  rw [List.mem_singleton.mp grouped]
  exact same

end Reconciled

/-- The reconciliation of positions is sound exactly when it raises or notices the positions that it
can miss. -/
theorem positionsSound_iff : PositionsSound text enginePositions exchangePositions ↔
    (Numeric text enginePositions exchangePositions →
      PositionsNoticed text enginePositions exchangePositions) := by
  rw [← reconcilePositionState_isSome]
  constructor
  · intro sound returns
    obtain ⟨report, reconciled⟩ := Option.isSome_iff_exists.mp returns
    have reported := fun {name} spoils =>
      (position_reported_iff reconciled).mp ((sound report reconciled).2 name spoils).1
    constructor
    · intro name stray
      obtain ⟨engine, inside, rfl, _⟩ := reported (Or.inl stray)
      exact stray.2 (List.mem_map_of_mem inside)
    · exact fun name crowded => reported (Or.inr crowded)
  · intro returns report reconciled
    have noticed := returns (reconciled ▸ rfl)
    refine ⟨noticed.verdict reconciled, fun name spoils => ?_⟩
    obtain ⟨drift, isDrift, named⟩ := noticed.reported reconciled spoils
    refine ⟨⟨drift, isDrift, named⟩, not_synced_of_reported reconciled ?_ isDrift⟩
    rintro rfl
    rcases spoils with stray | crowded
    · exact List.not_mem_nil stray.1
    · exact List.not_mem_nil crowded.2.1

end Positions

section Both

variable {text : Text} {engineOrders exchangeOrders enginePositions exchangePositions : List Entry}

/-- Both reconciliations are sound exactly when they notice what they can miss. -/
theorem reconciliation_sound_iff :
    (OrdersSound engineOrders exchangeOrders ↔ OrdersNoticed engineOrders exchangeOrders) ∧
      (PositionsSound text enginePositions exchangePositions ↔
        (Numeric text enginePositions exchangePositions →
          PositionsNoticed text enginePositions exchangePositions)) :=
  ⟨ordersSound_iff, positionsSound_iff⟩

def sampleOrder (orderId : String) : Entry :=
  [("order_id", .text orderId), ("symbol", .text "BTCUSDT"), ("side", .text "BUY"),
    ("price", .int 100), ("quantity", .int 1), ("status", .text "FILLED")]

def samplePosition (symbol : String) (size : ℤ) : Entry :=
  [("symbol", .text symbol), ("position_size", .int size), ("entry_price", .int 100),
    ("leverage", .int 3), ("unrealized_pnl", .int 10)]

def sampleText : Text := ⟨fun _ => none, id⟩

/-- One order and one position that only the exchange has are not noticed, nor are two local orders
with one identifier, nor two positions of one symbol at the exchange. -/
theorem reconciliation_misses :
    (reconcileOrderState [sampleOrder "1"] [sampleOrder "1", sampleOrder "2"]) =
        ⟨"RECONCILED", [], [], none⟩ ∧
      ¬OrdersSound [sampleOrder "1"] [sampleOrder "1", sampleOrder "2"] ∧
      (reconcileOrderState [sampleOrder "1", sampleOrder "1"] [sampleOrder "1"]) =
        ⟨"RECONCILED", [], [], none⟩ ∧
      ¬OrdersSound [sampleOrder "1", sampleOrder "1"] [sampleOrder "1"] ∧
      reconcilePositionState sampleText [samplePosition "BTCUSDT" 1]
          [samplePosition "BTCUSDT" 5, samplePosition "BTCUSDT" 1, samplePosition "ETHUSDT" 2] =
        some ⟨"SYNCED", [], [], none⟩ ∧
      ¬PositionsSound sampleText [samplePosition "BTCUSDT" 1]
          [samplePosition "BTCUSDT" 5, samplePosition "BTCUSDT" 1,
            samplePosition "ETHUSDT" 2] := by
  have ordersBeyond : reconcileOrderState [sampleOrder "1"] [sampleOrder "1", sampleOrder "2"] =
      ⟨"RECONCILED", [], [], none⟩ := by
    decide +kernel
  have ordersShared : reconcileOrderState [sampleOrder "1", sampleOrder "1"] [sampleOrder "1"] =
      ⟨"RECONCILED", [], [], none⟩ := by
    decide +kernel
  have positionsMissed : reconcilePositionState sampleText [samplePosition "BTCUSDT" 1]
      [samplePosition "BTCUSDT" 5, samplePosition "BTCUSDT" 1, samplePosition "ETHUSDT" 2] =
        some ⟨"SYNCED", [], [], none⟩ := by
    decide +kernel
  refine ⟨ordersBeyond, fun sound => ?_, ordersShared, fun sound => ?_, positionsMissed,
    fun sound => ?_⟩
  · have matching := sound.verdict (by rw [ordersBeyond])
    exact absurd (matching.sameKeys "2") (by decide +kernel)
  · have matching := sound.verdict (by rw [ordersShared])
    exact absurd matching.leftOnce (by decide +kernel)
  · have matching := (sound _ positionsMissed).1 rfl
    exact absurd matching.rightOnce (by decide +kernel)

end Both

end Live
