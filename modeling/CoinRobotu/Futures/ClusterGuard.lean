import CoinRobotu.Budget.Drawdown
import CoinRobotu.Futures.Decisions

/-!
# The cluster guard

Symbols that move together form clusters, and the exposure of a cluster is capped at a fraction of
the equity. A row that would take its cluster over the cap is rejected, and one that comes near it
is reduced in size, to a ratio of at least 0.2. What a row adds to the exposure of its cluster is
its notional before the reduction, rounded to four decimals. The clusters are numbered, so no two
of them have the same identifier.
-/

namespace Futures

open Numeric hiding orNumber
open Risk (orNumber)

/-- `_symbol_label`. -/
def symbolLabel (symbol : String) : String :=
  let value := (Runtime.upper symbol).toList
  if "USDT".toList <:+ value then String.ofList (value.take (value.length - 4))
  else String.ofList value

structure Cluster where
  clusterId : String
  symbols : List String
  deriving DecidableEq

/-- The clusters that `build_correlation_clusters` numbers. -/
structure Clusters where
  clusters : List Cluster
  numbered : (clusters.map Cluster.clusterId).Nodup

structure Position where
  symbol : String
  side : String
  positionNotional : ℚ
  leverage : ℚ
  deriving DecidableEq

inductive Direction where
  | neutral
  | long
  | short
  | mixed
  deriving DecidableEq

structure ClusterExposure where
  clusterId : String
  symbols : List String
  clusterExposure : ℚ
  clusterExposureNotional : ℚ
  clusterDirection : Direction
  clusterLeverage : ℚ
  clusterPositionCount : ℕ
  positions : List Position
  deriving DecidableEq

def Cluster.positions (cluster : Cluster) (positions : List Position) : List Position :=
  positions.filter fun position => symbolLabel position.symbol ∈ cluster.symbols

def notionalSum (positions : List Position) : ℚ := (positions.map fun position =>
  |position.positionNotional|).sum

/-- `calculate_cluster_exposure`, for one cluster. -/
def Cluster.exposure (cluster : Cluster) (positions : List Position) (equity : ℚ) :
    ClusterExposure :=
  let inside := cluster.positions positions
  let notional := notionalSum inside
  let long := notionalSum (inside.filter fun position => Runtime.upper position.side = "LONG")
  let short := notionalSum (inside.filter fun position => Runtime.upper position.side = "SHORT")
  let leverageSum := (inside.map fun position =>
    position.leverage * |position.positionNotional|).sum
  { clusterId := cluster.clusterId
    symbols := cluster.symbols
    clusterExposure := roundTo 6 (notional / max equity 1)
    clusterExposureNotional := roundTo 4 notional
    clusterDirection :=
      if short < long then .long
      else if long < short then .short
      else if 0 < long ∧ 0 < short then .mixed
      else .neutral
    clusterLeverage := roundTo 4 (if 0 < notional then leverageSum / notional else 0)
    clusterPositionCount := inside.length
    positions := inside }

def calculateClusterExposure (clusters : List Cluster) (positions : List Position) (equity : ℚ) :
    List ClusterExposure :=
  clusters.map fun cluster => cluster.exposure positions equity

def clusterExposureLimit : ℚ := 35 / 100

structure ClusterEvent where
  clusterId : String
  symbols : List String
  exposure : ℚ
  direction : String
  deriving DecidableEq

structure ClusterGuard where
  action : GuardAction
  adjustedPositionSizeRatio : ℚ
  event : Option ClusterEvent
  deriving DecidableEq

def targetCluster (clusters : List Cluster) (symbol : String) : Option Cluster :=
  clusters.find? fun cluster => symbolLabel symbol ∈ cluster.symbols

def notionalOf (exposures : List ClusterExposure) (clusterId : String) : ℚ :=
  ((exposures.find? (·.clusterId = clusterId)).map ClusterExposure.clusterExposureNotional).getD 0

/-- `max(0.2, round(ratio * 0.65, 4))`. -/
def reducedRatio (ratio : ℚ) : ℚ := max (2 / 10) (roundTo 4 (ratio * (65 / 100)))

/-- The part of `evaluate_cluster_order_guard` about an order in a cluster. -/
def guardInCluster (side : String) (orderNotional sizeRatio equity : ℚ)
    (exposures : List ClusterExposure) (cluster : Cluster) : ClusterGuard :=
  let projected := (notionalOf exposures cluster.clusterId + orderNotional) / max equity 1
  if clusterExposureLimit < projected then
    ⟨.reject, 0, some ⟨cluster.clusterId, cluster.symbols, roundTo 6 projected, side⟩⟩
  else if clusterExposureLimit * (9 / 10) < projected then
    ⟨.reduceSize, reducedRatio sizeRatio, none⟩
  else ⟨.allow, sizeRatio, none⟩

/-- `str(order.get("side") or "NONE").upper()`. -/
def orderSide (side : String) : String := Runtime.upper (if side = "" then "NONE" else side)

def evaluateClusterOrderGuard (symbol side : String) (positionNotional sizeRatio equity : ℚ)
    (clusters : List Cluster) (exposures : List ClusterExposure) : ClusterGuard :=
  if |positionNotional| ≤ 0 then ⟨.allow, sizeRatio, none⟩
  else match targetCluster clusters symbol with
    | none => ⟨.allow, sizeRatio, none⟩
    | some cluster =>
      guardInCluster (orderSide side) |positionNotional| sizeRatio equity exposures cluster

/-- What the guard reads: the clusters, the open positions and the equity of the portfolio, which
the sizing keeps positive. -/
structure ClusterSnapshot extends Clusters where
  positions : List Position
  equity : ℚ
  equity_pos : 0 < equity

/-- What the guard carries from row to row. -/
structure ClusterState where
  runningExposures : List ClusterExposure
  events : List ClusterEvent

def ClusterSnapshot.initial (snapshot : ClusterSnapshot) : ClusterState :=
  ⟨calculateClusterExposure snapshot.clusters snapshot.positions snapshot.equity, []⟩

def ClusterExposure.add (exposure : ClusterExposure) (orderNotional equity : ℚ) :
    ClusterExposure :=
  let notional := roundTo 4 (exposure.clusterExposureNotional + orderNotional)
  { exposure with
    clusterExposureNotional := notional
    clusterExposure := roundTo 6 (notional / max equity 1)
    clusterPositionCount := exposure.clusterPositionCount + 1 }

def addOrder (symbol : String) (orderNotional equity : ℚ) :
    List ClusterExposure → List ClusterExposure
  | [] => []
  | exposure :: exposures =>
    if symbolLabel symbol ∈ exposure.symbols then exposure.add orderNotional equity :: exposures
    else exposure :: addOrder symbol orderNotional equity exposures

def ClusterSnapshot.orderNotional (snapshot : ClusterSnapshot) (row : Decision) : ℚ :=
  Futures.orderNotional snapshot.equity row.leverage row.sizeRatio

def Decision.guardedBy (row : Decision) (guard : ClusterGuard) : Decision :=
  match guard.action with
  | .reject => row.rejectedBy "CORRELATION_RISK" "CLUSTER_TRADE_REJECTED"
  | .reduceSize => (row.withRatio (orNumber (some guard.adjustedPositionSizeRatio)
      row.sizeRatio)).withReason "CLUSTER_POSITION_SIZE_REDUCED"
  | .allow => row

/-- `apply_cluster_order_guard_to_decisions`, for one row. -/
def clusterRow (snapshot : ClusterSnapshot) (state : ClusterState) (row : Decision) :
    Decision × ClusterState :=
  if row.decision ≠ .allow then (row, state)
  else
    let notional := snapshot.orderNotional row
    let guard := evaluateClusterOrderGuard row.symbol row.side notional row.sizeRatio
      snapshot.equity snapshot.clusters state.runningExposures
    (row.guardedBy guard,
      if guard.action = .reject then
        { state with events := state.events ++ guard.event.toList }
      else
        { state with
          runningExposures := addOrder row.symbol notional snapshot.equity
            state.runningExposures })

def applyClusterOrderGuardToDecisions (snapshot : ClusterSnapshot) (decisions : List Decision) :
    List Decision × ClusterState :=
  Stateful.traverse (clusterRow snapshot) snapshot.initial decisions

section Laws

variable {clusters : List Cluster} {exposures : List ClusterExposure} {symbol : String}
  {orderNotional equity : ℚ}

def Aligned (clusters : List Cluster) (exposures : List ClusterExposure) : Prop :=
  List.Forall₂ (fun cluster exposure =>
    exposure.clusterId = cluster.clusterId ∧ exposure.symbols = cluster.symbols) clusters exposures

theorem Aligned.initial (clusters : List Cluster) (positions : List Position) (equity : ℚ) :
    Aligned clusters (calculateClusterExposure clusters positions equity) := by
  unfold Aligned calculateClusterExposure
  rw [List.forall₂_map_right_iff, List.forall₂_same]
  exact fun cluster _ => ⟨rfl, rfl⟩

theorem Aligned.addOrder (aligned : Aligned clusters exposures) :
    Aligned clusters (addOrder symbol orderNotional equity exposures) := by
  induction aligned with
  | nil => exact .nil
  | cons same rest ih =>
    unfold Futures.addOrder
    split
    · exact .cons same rest
    · exact .cons same ih

theorem notionalOf_cons {exposure : ClusterExposure} {clusterId : String} :
    notionalOf (exposure :: exposures) clusterId =
      if exposure.clusterId = clusterId then exposure.clusterExposureNotional
      else notionalOf exposures clusterId := by
  unfold notionalOf
  by_cases named : exposure.clusterId = clusterId <;> simp [named]

theorem targetCluster_cons {cluster : Cluster} :
    targetCluster (cluster :: clusters) symbol =
      if symbolLabel symbol ∈ cluster.symbols then some cluster
      else targetCluster clusters symbol := by
  unfold targetCluster
  by_cases inside : symbolLabel symbol ∈ cluster.symbols <;> simp [inside]

theorem targetCluster_mem {cluster : Cluster}
    (target : targetCluster clusters symbol = some cluster) :
    cluster ∈ clusters := List.mem_of_find?_eq_some target

theorem Aligned.notionalOf_addOrder (aligned : Aligned clusters exposures)
    (numbered : (clusters.map Cluster.clusterId).Nodup) (clusterId : String) :
    notionalOf (Futures.addOrder symbol orderNotional equity exposures) clusterId =
      if (targetCluster clusters symbol).map Cluster.clusterId = some clusterId then
        roundTo 4 (notionalOf exposures clusterId + orderNotional)
      else notionalOf exposures clusterId := by
  induction aligned with
  | nil => rfl
  | @cons cluster exposure clusters exposures same rest ih =>
    obtain ⟨sameId, sameSymbols⟩ := same
    obtain ⟨fresh, numbered⟩ := List.nodup_cons.mp numbered
    rw [Futures.addOrder, sameSymbols, targetCluster_cons, notionalOf_cons, sameId]
    by_cases inside : symbolLabel symbol ∈ cluster.symbols
    · rw [if_pos inside, if_pos inside, notionalOf_cons, Option.map_some]
      have addedId : (exposure.add orderNotional equity).clusterId = cluster.clusterId := sameId
      by_cases named : cluster.clusterId = clusterId
      · rw [addedId, if_pos named, if_pos (congrArg some named), if_pos named]
        rfl
      · have notNamed : ¬some cluster.clusterId = some clusterId := by simpa using named
        rw [addedId, if_neg named, if_neg notNamed, if_neg named]
    · rw [if_neg inside, if_neg inside, notionalOf_cons, sameId, ih numbered]
      by_cases named : cluster.clusterId = clusterId
      · -- The cluster of the symbol comes later, so it has another identifier.
        have elsewhere : (targetCluster clusters symbol).map Cluster.clusterId ≠ some clusterId := by
          intro found
          obtain ⟨other, isOther, otherId⟩ := Option.map_eq_some_iff.mp found
          apply fresh
          rw [named, ← otherId]
          exact List.mem_map_of_mem (targetCluster_mem isOther)
        rw [if_pos named, if_neg elsewhere, if_pos named]
      · rw [if_neg named, if_neg named]

variable {snapshot : ClusterSnapshot} {state : ClusterState} {row after : Decision}

theorem ClusterSnapshot.orderNotional_pos (snapshot : ClusterSnapshot) (row : Decision) :
    0 < snapshot.orderNotional row := by
  have leverage := row.leverage_pos
  have size : (0 : ℚ) < max (1 / 10) (min row.sizeRatio 1) := lt_max_of_lt_left (by norm_num)
  have equity := snapshot.equity_pos
  unfold ClusterSnapshot.orderNotional Futures.orderNotional
  positivity

theorem evaluate_inCluster {cluster : Cluster}
    (target : targetCluster snapshot.clusters row.symbol = some cluster) :
    evaluateClusterOrderGuard row.symbol row.side (snapshot.orderNotional row) row.sizeRatio
        snapshot.equity snapshot.clusters exposures =
      guardInCluster (orderSide row.side) (snapshot.orderNotional row) row.sizeRatio
        snapshot.equity exposures cluster := by
  have positive := snapshot.orderNotional_pos row
  unfold evaluateClusterOrderGuard
  rw [abs_of_pos positive, if_neg (not_le.mpr positive), target]

theorem guardInCluster_within {side : String} {sizeRatio : ℚ} {cluster : Cluster}
    (passes : (guardInCluster side orderNotional sizeRatio equity exposures cluster).action ≠
      .reject) :
    notionalOf exposures cluster.clusterId + orderNotional ≤
      clusterExposureLimit * max equity 1 := by
  have positive : 0 < max equity 1 := lt_max_of_lt_right one_pos
  by_contra exceeds
  apply passes
  have exceeded : clusterExposureLimit <
      (notionalOf exposures cluster.clusterId + orderNotional) / max equity 1 := by
    rw [lt_div_iff₀ positive]
    exact not_le.mp exceeds
  unfold guardInCluster
  dsimp only
  rw [if_pos exceeded]

theorem Decision.guardedBy_decision {guard : ClusterGuard} (allowed : row.decision = .allow) :
    (row.guardedBy guard).decision = .allow ↔ guard.action ≠ .reject := by
  unfold Decision.guardedBy
  cases guard.action <;> simp [allowed]

theorem reducedRatio_ne_zero (ratio : ℚ) : reducedRatio ratio ≠ 0 := by
  have floor : 2 / 10 ≤ reducedRatio ratio := le_max_left _ _
  intro zero
  rw [zero] at floor
  norm_num at floor

theorem reducedRatio_le {ratio : ℚ} (floored : 2 / 10 ≤ ratio) : reducedRatio ratio ≤ ratio := by
  apply max_le floored
  have rounded := (abs_le.mp (abs_roundTo_sub_le 4 (ratio * (65 / 100)))).2
  norm_num at rounded
  linarith

theorem guardInCluster_ratio {side : String} {cluster : Cluster} :
    (row.guardedBy (guardInCluster side orderNotional row.sizeRatio equity exposures
        cluster)).leverageDecision = row.leverageDecision ∨
      (row.guardedBy (guardInCluster side orderNotional row.sizeRatio equity exposures
        cluster)).ratio = reducedRatio row.sizeRatio := by
  unfold guardInCluster
  dsimp only
  split_ifs
  · exact .inl rfl
  · exact .inr (if_neg (reducedRatio_ne_zero _))
  · exact .inl rfl

theorem guardInCluster_sizeRatio {side : String} {cluster : Cluster}
    (floored : 2 / 10 ≤ row.sizeRatio) :
    (row.guardedBy (guardInCluster side orderNotional row.sizeRatio equity exposures
      cluster)).sizeRatio ≤ row.sizeRatio := by
  rcases @guardInCluster_ratio exposures orderNotional equity row side cluster with same | written
  · exact (Decision.sizeRatio_congr same).le
  · rw [Decision.sizeRatio_eq (by rw [written]; exact reducedRatio_ne_zero _), written]
    exact reducedRatio_le floored

theorem Decision.guardedBy_leverage {guard : ClusterGuard} :
    (row.guardedBy guard).leverage = row.leverage := by
  unfold Decision.guardedBy
  cases guard.action <;> rfl

/-- What the cluster guard does with a row that is in a cluster. -/
inductive ClusterPassed (snapshot : ClusterSnapshot) (state : ClusterState) (row : Decision)
    (cluster : Cluster) : Decision × ClusterState → Prop where
  | rejected {after : Decision} {events : List ClusterEvent} (stopped : after.decision ≠ .allow) :
      ClusterPassed snapshot state row cluster (after, ⟨state.runningExposures, events⟩)
  | through (allowed : row.decision = .allow)
      (passes : (guardInCluster (orderSide row.side) (snapshot.orderNotional row) row.sizeRatio
        snapshot.equity
        state.runningExposures cluster).action ≠ .reject) :
      ClusterPassed snapshot state row cluster
        (row.guardedBy (guardInCluster (orderSide row.side) (snapshot.orderNotional row)
            row.sizeRatio snapshot.equity state.runningExposures cluster),
          ⟨addOrder row.symbol (snapshot.orderNotional row) snapshot.equity
            state.runningExposures, state.events⟩)

theorem clusterRow_passed {cluster : Cluster}
    (target : targetCluster snapshot.clusters row.symbol = some cluster) :
    ClusterPassed snapshot state row cluster (clusterRow snapshot state row) := by
  unfold clusterRow
  by_cases allowed : row.decision = .allow
  · rw [if_neg (not_not_intro allowed)]
    dsimp only
    rw [evaluate_inCluster target]
    split
    · rename_i rejects
      apply ClusterPassed.rejected
      exact fun stays => (Decision.guardedBy_decision allowed).mp stays rejects
    · rename_i passes
      exact .through allowed passes
  · rw [if_pos allowed]
    exact .rejected allowed

theorem clusterRow_exposures :
    (clusterRow snapshot state row).2.runningExposures = state.runningExposures ∨
      (clusterRow snapshot state row).2.runningExposures =
        addOrder row.symbol (snapshot.orderNotional row) snapshot.equity
          state.runningExposures := by
  unfold clusterRow
  split
  · exact .inl rfl
  · dsimp only
    split
    · exact .inl rfl
    · exact .inr rfl

/-- The charge of a row that is let through: its notional before the reduction, on its cluster. -/
def ClusterSnapshot.charge? (snapshot : ClusterSnapshot) (row after : Decision) :
    Option (Budget.Charge String ℚ) :=
  if row.decision = .allow ∧ after.decision = .allow then
    (targetCluster snapshot.clusters row.symbol).map fun cluster =>
      ⟨cluster.clusterId, snapshot.orderNotional row⟩
  else none

def ClusterSnapshot.limit (snapshot : ClusterSnapshot) (_clusterId : String) : ℚ :=
  clusterExposureLimit * max snapshot.equity 1

theorem clusterRow_aligned (aligned : Aligned snapshot.clusters state.runningExposures) :
    Aligned snapshot.clusters (clusterRow snapshot state row).2.runningExposures := by
  rcases @clusterRow_exposures snapshot state row with same | added
  · rw [same]
    exact aligned
  · rw [added]
    exact aligned.addOrder

/-- A row charges its cluster within the limit, or no cluster at all. -/
theorem clusterRow_admits (aligned : Aligned snapshot.clusters state.runningExposures) :
    Budget.Admits snapshot.limit (5 / 10 ^ 5) (notionalOf state.runningExposures)
      (notionalOf (clusterRow snapshot state row).2.runningExposures)
      (snapshot.charge? row (clusterRow snapshot state row).1) := by
  unfold ClusterSnapshot.charge?
  cases target : targetCluster snapshot.clusters row.symbol with
  | none =>
    have uncharged : (if row.decision = .allow ∧
        (clusterRow snapshot state row).1.decision = .allow then
          (Option.none : Option Cluster).map fun cluster =>
            (⟨cluster.clusterId, snapshot.orderNotional row⟩ : Budget.Charge String ℚ)
        else none) = none := ite_self _
    rw [uncharged]
    funext clusterId
    rcases @clusterRow_exposures snapshot state row with same | added
    · rw [same]
    · rw [added, aligned.notionalOf_addOrder snapshot.numbered, target]
      exact if_neg (by simp)
  | some cluster =>
    have passed : ClusterPassed snapshot state row cluster (clusterRow snapshot state row) :=
      clusterRow_passed target
    generalize clusterRow snapshot state row = outcome at passed ⊢
    cases passed with
    | rejected stopped =>
      rw [if_neg fun both => stopped both.2]
      exact rfl
    | through allowed passes =>
      rw [if_pos ⟨allowed, (Decision.guardedBy_decision allowed).mpr passes⟩]
      have added : ∀ clusterId, notionalOf (addOrder row.symbol (snapshot.orderNotional row)
          snapshot.equity state.runningExposures) clusterId = _ :=
        aligned.notionalOf_addOrder snapshot.numbered
      rw [target] at added
      refine ⟨guardInCluster_within passes, ?_, ?_⟩
      · have near := abs_roundTo_sub_le 4
          (notionalOf state.runningExposures cluster.clusterId + snapshot.orderNotional row)
        have isCluster : (some cluster).map Cluster.clusterId = some cluster.clusterId := rfl
        dsimp only
        rw [added, if_pos isCluster]
        apply near.trans
        norm_num
      · intro other different
        dsimp only
        rw [added, if_neg]
        simpa using different.symm

/-- The rows of a cluster that the guard lets through, each with what it makes of them. -/
def ClusterSnapshot.letThrough (snapshot : ClusterSnapshot) (cluster : Cluster)
    (decisions results : List Decision) : List (Decision × Decision) :=
  (decisions.zip results).filter fun pair => pair.1.decision = .allow ∧
    pair.2.decision = .allow ∧ targetCluster snapshot.clusters pair.1.symbol = some cluster

def ClusterSnapshot.openExposure (snapshot : ClusterSnapshot) (cluster : Cluster) : ℚ :=
  notionalSum (cluster.positions snapshot.positions)

theorem Clusters.eq_of_clusterId (numbered : Clusters) {cluster other : Cluster}
    (inside : cluster ∈ numbered.clusters) (otherInside : other ∈ numbered.clusters)
    (same : other.clusterId = cluster.clusterId) : other = cluster :=
  List.inj_on_of_nodup_map numbered.numbered otherInside inside same

theorem on_charge? {cluster : Cluster} (inside : cluster ∈ snapshot.clusters)
    {decisions results : List Decision} :
    Budget.on (Budget.chargesOf snapshot.charge? decisions results) cluster.clusterId =
      (snapshot.letThrough cluster decisions results).map fun pair =>
        ⟨cluster.clusterId, snapshot.orderNotional pair.1⟩ := by
  apply Budget.on_chargesOf
  intro pair
  unfold ClusterSnapshot.charge?
  by_cases both : pair.1.decision = .allow ∧ pair.2.decision = .allow
  · rw [if_pos both]
    cases target : targetCluster snapshot.clusters pair.1.symbol with
    | none => simp
    | some other =>
      by_cases same : other = cluster
      · simp [both, same]
      · have apart : other.clusterId ≠ cluster.clusterId := fun sameId =>
          same (snapshot.eq_of_clusterId inside (targetCluster_mem target) sameId)
        simp [same, apart]
  · rw [if_neg both, if_neg]
    · rfl
    · simp only [decide_eq_true_eq]
      exact fun all => both ⟨all.1, all.2.1⟩

theorem notionalOf_initial {cluster : Cluster} (inside : cluster ∈ snapshot.clusters) :
    notionalOf snapshot.initial.runningExposures cluster.clusterId =
      roundTo 4 (snapshot.openExposure cluster) := by
  have numbered := snapshot.numbered
  unfold ClusterSnapshot.initial calculateClusterExposure
  generalize snapshot.clusters = clusters at inside numbered
  induction clusters with
  | nil => exact absurd inside List.not_mem_nil
  | cons first clusters ih =>
    obtain ⟨fresh, rest⟩ := List.nodup_cons.mp numbered
    rw [List.map_cons, notionalOf_cons]
    rcases List.mem_cons.mp inside with rfl | later
    · exact if_pos rfl
    · have apart : (first.exposure snapshot.positions snapshot.equity).clusterId ≠
          cluster.clusterId := by
        intro same
        apply fresh
        have named : first.clusterId = cluster.clusterId := same
        rw [named]
        exact List.mem_map_of_mem later
      rw [if_neg apart]
      exact ih later rest

/-- A row that is let through in a cluster is no larger than what it was booked with, unless its
ratio is below the smallest one. -/
theorem clusterRow_notional {cluster : Cluster}
    (target : targetCluster snapshot.clusters row.symbol = some cluster)
    (stays : (clusterRow snapshot state row).1.decision = .allow)
    (floored : 2 / 10 ≤ row.sizeRatio) :
    snapshot.orderNotional (clusterRow snapshot state row).1 ≤ snapshot.orderNotional row := by
  have passed : ClusterPassed snapshot state row cluster (clusterRow snapshot state row) :=
    clusterRow_passed target
  generalize clusterRow snapshot state row = outcome at passed stays ⊢
  cases passed with
  | rejected stopped => exact absurd stays stopped
  | through =>
    unfold ClusterSnapshot.orderNotional
    rw [Decision.guardedBy_leverage]
    apply orderNotional_mono snapshot.equity_pos.le row.leverage_pos.le
    exact guardInCluster_sizeRatio floored

/-- Over a whole cycle, the open exposure of a cluster and the rows that are let through for it
stay within its limit up to a rounding for each of them, as long as none of these rows has a ratio
below the smallest one a reduction leaves. -/
theorem cluster_guard_keeps_cap {decisions : List Decision} {cluster : Cluster}
    (inside : cluster ∈ snapshot.clusters)
    (within : snapshot.openExposure cluster ≤ clusterExposureLimit * max snapshot.equity 1)
    (floored : ∀ pair ∈ snapshot.letThrough cluster decisions
      (applyClusterOrderGuardToDecisions snapshot decisions).1, 2 / 10 ≤ pair.1.sizeRatio) :
    snapshot.openExposure cluster +
        ((snapshot.letThrough cluster decisions
          (applyClusterOrderGuardToDecisions snapshot decisions).1).map fun pair =>
            snapshot.orderNotional pair.2).sum ≤
      clusterExposureLimit * max snapshot.equity 1 +
        (snapshot.letThrough cluster decisions
          (applyClusterOrderGuardToDecisions snapshot decisions).1).length * (5 / 10 ^ 5) := by
  have aligned : Aligned snapshot.clusters snapshot.initial.runningExposures :=
    Aligned.initial _ _ _
  have drawn : Budget.Drawn snapshot.limit (5 / 10 ^ 5)
      (notionalOf snapshot.initial.runningExposures)
      (Budget.chargesOf snapshot.charge? decisions
        (applyClusterOrderGuardToDecisions snapshot decisions).1) _ :=
    @Budget.drawn_traverse _ _ _ _ _ _ _ _ _ (clusterRow snapshot) _ _ _
      (fun state => Aligned snapshot.clusters state.runningExposures)
      (fun state => notionalOf state.runningExposures) aligned
      (fun aligned _ => clusterRow_aligned aligned) (fun aligned _ => clusterRow_admits aligned)
  have related : List.Forall₂ (fun row after =>
      ∀ cluster, targetCluster snapshot.clusters row.symbol = some cluster →
        after.decision = .allow → 2 / 10 ≤ row.sizeRatio →
        snapshot.orderNotional after ≤ snapshot.orderNotional row) decisions
      (applyClusterOrderGuardToDecisions snapshot decisions).1 :=
    Stateful.traverse_related_always fun _ _ _ target stays floored =>
      clusterRow_notional target stays floored
  generalize (applyClusterOrderGuardToDecisions snapshot decisions).1 = results at *
  -- The rows are no larger than what was booked for them.
  have smaller : ((snapshot.letThrough cluster decisions results).map fun pair =>
      snapshot.orderNotional pair.2).sum ≤
      ((snapshot.letThrough cluster decisions results).map fun pair =>
        snapshot.orderNotional pair.1).sum := by
    apply List.sum_le_sum
    intro pair member
    obtain ⟨paired, passes⟩ := List.mem_filter.mp member
    simp only [decide_eq_true_eq] at passes
    exact (List.forall₂_iff_zip.mp related).2 paired cluster passes.2.2 passes.2.1
      (floored pair member)
  have start := (abs_le.mp (abs_roundTo_sub_le 4 (snapshot.openExposure cluster))).1
  norm_num at start
  by_cases none : snapshot.letThrough cluster decisions results = []
  · rw [none]
    simpa using within
  · have charged := @Budget.Drawn.charged_le _ _ _ _ _ _ _ _ _ _ _ drawn cluster.clusterId (by
      rw [on_charge? inside]
      simpa using none)
    rw [Budget.charged, on_charge? inside, List.map_map, List.length_map,
      notionalOf_initial inside] at charged
    have booked : ((snapshot.letThrough cluster decisions results).map
        (Budget.Charge.amount ∘ fun pair =>
          ⟨cluster.clusterId, snapshot.orderNotional pair.1⟩)).sum =
        ((snapshot.letThrough cluster decisions results).map fun pair =>
          snapshot.orderNotional pair.1).sum := rfl
    rw [booked] at charged
    unfold ClusterSnapshot.limit at charged
    norm_num at charged ⊢
    linarith

def ClusterSnapshot.Capped (snapshot : ClusterSnapshot) (cluster : Cluster)
    (decisions : List Decision) : Prop :=
  snapshot.openExposure cluster ≤ clusterExposureLimit * snapshot.equity →
    snapshot.openExposure cluster +
        ((snapshot.letThrough cluster decisions
          (applyClusterOrderGuardToDecisions snapshot decisions).1).map fun pair =>
            snapshot.orderNotional pair.2).sum ≤
      clusterExposureLimit * snapshot.equity

instance (cluster : Cluster) (decisions : List Decision) :
    Decidable (snapshot.Capped cluster decisions) := inferInstanceAs (Decidable (_ → _))

def majors : Cluster := ⟨"CLUSTER_1", ["BTC", "ETH"]⟩

/-- One open position of the given notional in a portfolio of the given equity. -/
def holding (notional equity : ℚ) (equity_pos : 0 < equity) : ClusterSnapshot where
  clusters := [majors]
  numbered := List.nodup_singleton _
  positions := [⟨"BTCUSDT", "LONG", notional, 3⟩]
  equity := equity
  equity_pos := equity_pos

def clusterDecision (leverage : ℚ≥0) (ratio : ℚ) : Decision where
  symbol := "ETHUSDT"
  side := "LONG"
  strategy := some "trend_follow_v1"
  strategyId := some "trend_follow_v1"
  confidence := some (8 / 10)
  regime := some "TRENDING"
  leverageDecision := ⟨some leverage, some ratio⟩
  decision := .allow
  decisionLayer := none
  reasonCode := some "ALLOW"
  reasons := []
  lifecycleState := none
  throttleLevel := none

theorem cluster_guard_keeps_cap_near :
    let snapshot := holding 2900 10000 (by decide +kernel)
    let decisions := [clusterDecision 2 (2 / 10), clusterDecision 2 (2 / 10)]
    snapshot.openExposure majors +
        ((snapshot.letThrough majors decisions
          (applyClusterOrderGuardToDecisions snapshot decisions).1).map fun pair =>
            snapshot.orderNotional pair.2).sum ≤
      clusterExposureLimit * max snapshot.equity 1 +
        (snapshot.letThrough majors decisions
          (applyClusterOrderGuardToDecisions snapshot decisions).1).length * (5 / 10 ^ 5) :=
  cluster_guard_keeps_cap (List.mem_singleton_self _) (by decide +kernel) (by decide +kernel)

/-- Bookings that are rounded down let a cluster pass its limit by a little, the limit of a very
small portfolio is that of an equity of 1, and a row of a smaller ratio than 0.2 is let through
with a larger one than it was booked with. -/
theorem cluster_guard_exceeds :
    ¬(holding (31800001 / 10000) (100000003 / 10000) (by decide +kernel)).Capped majors
        [clusterDecision 1 (2 / 10), clusterDecision 1 (2 / 10)] ∧
      ¬(holding 0 (1 / 2) (by decide +kernel)).Capped majors [clusterDecision 5 1] ∧
      ¬(holding 2900 10000 (by decide +kernel)).Capped majors [clusterDecision 5 (1 / 10)] := by
  decide +kernel

end Laws

end Futures
