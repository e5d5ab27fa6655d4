import Mathlib.Data.List.Dedup
import CoinRobotu.Graph.Components
import CoinRobotu.Numeric.Rounding
import CoinRobotu.Runtime.Text

/-!
# Correlation clusters and their exposures

Symbols are neighbours if their correlation reaches the threshold, and the clusters are the
components of that graph.
-/

namespace Correlation

open Graph (Network Reaches componentsFrom)
open Numeric (roundTo)
open Runtime (upper)

/-- `correlation_matrix`, by its two keys. -/
abbrev Matrix := String → Option (String → Option ℚ)

structure MatrixPayload where
  symbols : List String
  correlationMatrix : Matrix

structure Cluster where
  clusterId : String
  symbols : List String
  avgCorrelation : ℚ
  size : ℕ

structure Position where
  symbol : Option String
  side : Option String
  positionNotional : Option ℚ
  leverage : Option ℚ

structure ClusterExposure where
  clusterId : String
  symbols : List String
  clusterExposure : ℚ
  clusterExposureNotional : ℚ
  clusterDirection : String
  clusterLeverage : ℚ
  clusterPositionCount : ℕ
  positions : List Position

section Builder

variable (payload : MatrixPayload) (threshold : ℚ)

/-- `float((matrix.get(base) or {}).get(compare) or 0.0)`. -/
def MatrixPayload.corr (base compare : String) : ℚ :=
  ((payload.correlationMatrix base).bind fun row => row compare).getD 0

/-- `sorted(neighbors.get(base, set()))`. -/
def neighbors (base : String) : List String :=
  if base ∈ payload.symbols then
    (payload.symbols.filter fun compare =>
      base ≠ compare ∧ threshold ≤ payload.corr base compare).dedup.mergeSort
  else []

theorem mem_neighbors {base compare : String} : compare ∈ neighbors payload threshold base ↔
    (base ∈ payload.symbols ∧ compare ∈ payload.symbols) ∧
      base ≠ compare ∧ threshold ≤ payload.corr base compare := by
  unfold neighbors
  split
  case isTrue listed => simp [(List.mergeSort_perm _ _).mem_iff, List.mem_dedup, listed]
  case isFalse missing => simp [missing]

def network : Network String where
  nodes := payload.symbols
  next := neighbors payload threshold
  inside := fun _ _ among => ((mem_neighbors payload threshold).mp among).1.2
  outside := fun _ missing => if_neg missing

def components : List (List String) :=
  componentsFrom (network payload threshold) List.mergeSort payload.symbols []

def pairs : List String → List ℚ
  | [] => []
  | base :: symbols => symbols.map (payload.corr base) ++ pairs symbols

def avgCorrelation (symbols : List String) : ℚ :=
  if pairs payload symbols = [] then 1
  else roundTo 4 ((pairs payload symbols).sum / (pairs payload symbols).length)

def buildCorrelationClusters : List Cluster :=
  (components payload threshold).zipIdx.map fun item =>
    { clusterId := "CLUSTER_" ++ toString (item.2 + 1)
      symbols := item.1
      avgCorrelation := avgCorrelation payload item.1
      size := item.1.length }

end Builder

/-- `_symbol_label`. -/
def symbolLabel (symbol : Option String) : String :=
  let value := (upper (symbol.getD "")).toList
  String.ofList (if "USDT".toList <:+ value then value.take (value.length - 4) else value)

def Position.size (position : Position) : ℚ := |position.positionNotional.getD 0|

def notional (positions : List Position) : ℚ := (positions.map Position.size).sum

def sided (positions : List Position) (side : String) : ℚ :=
  notional (positions.filter fun position => upper (position.side.getD "") = side)

def direction (long short : ℚ) : String :=
  if short < long then "LONG" else if long < short then "SHORT"
  else if 0 < long ∧ 0 < short then "MIXED" else "NEUTRAL"

def inCluster (symbols : List String) (position : Position) : Bool :=
  symbolLabel position.symbol ∈ symbols

def calculateClusterExposure (clusters : List Cluster) (positions : List Position)
    (portfolioEquity : ℚ) : List ClusterExposure :=
  clusters.map fun cluster =>
    let held := positions.filter (inCluster cluster.symbols)
    let leverageSum := (held.map fun position =>
      position.leverage.getD 1 * position.size).sum
    { clusterId := cluster.clusterId
      symbols := cluster.symbols
      clusterExposure := roundTo 6 (notional held / max portfolioEquity 1)
      clusterExposureNotional := roundTo 4 (notional held)
      clusterDirection := direction (sided held "LONG") (sided held "SHORT")
      clusterLeverage := roundTo 4 (if 0 < notional held then leverageSum / notional held else 0)
      clusterPositionCount := held.length
      positions := held }

/-- Different listed symbols whose correlation reaches the threshold. -/
def Correlated (payload : MatrixPayload) (threshold : ℚ) (base compare : String) : Prop :=
  (base ∈ payload.symbols ∧ compare ∈ payload.symbols) ∧
    base ≠ compare ∧ threshold ≤ payload.corr base compare

/-- The clusters divide the symbols into the classes of chains. -/
structure Partition (payload : MatrixPayload) (threshold : ℚ) (clusters : List Cluster) : Prop where
  whole : (clusters.flatMap Cluster.symbols).Perm payload.symbols
  filled : ∀ cluster ∈ clusters, cluster.symbols ≠ []
  linked : ∀ base ∈ payload.symbols, ∀ compare ∈ payload.symbols,
    (∃ cluster ∈ clusters, base ∈ cluster.symbols ∧ compare ∈ cluster.symbols) ↔
      Relation.ReflTransGen (Correlated payload threshold) base compare

/-- The positions of the clustered symbols are those of the clusters, each once. -/
structure Accounted (payload : MatrixPayload) (positions : List Position)
    (exposures : List ClusterExposure) : Prop where
  once : (exposures.flatMap ClusterExposure.positions).Perm
    (positions.filter (inCluster payload.symbols))
  near : |(exposures.map ClusterExposure.clusterExposureNotional).sum -
    notional (positions.filter (inCluster payload.symbols))| ≤ exposures.length / 20000
  rounded : ∀ exposure ∈ exposures,
    exposure.clusterExposureNotional = roundTo 4 (notional exposure.positions)

section Laws

variable {payload : MatrixPayload} {threshold : ℚ} {positions : List Position} {equity : ℚ}

theorem next_iff {base compare : String} :
    Graph.Next (network payload threshold) base compare ↔
      Correlated payload threshold base compare :=
  mem_neighbors payload threshold

theorem reaches_iff {base compare : String} : Reaches (network payload threshold) base compare ↔
    Relation.ReflTransGen (Correlated payload threshold) base compare := by
  have same : Graph.Next (network payload threshold) = Correlated payload threshold :=
    funext fun _ => funext fun _ => propext next_iff
  rw [Reaches, same]

theorem symbols_clusters : (buildCorrelationClusters payload threshold).map Cluster.symbols =
    components payload threshold := by
  rw [buildCorrelationClusters, List.map_map]
  exact List.zipIdx_map_fst 0 _

theorem sorted_perm (symbols : List String) : (List.mergeSort symbols).Perm symbols :=
  List.mergeSort_perm _ _

section Symmetric

variable (symmetric : ∀ base compare, payload.corr base compare = payload.corr compare base)
include symmetric

theorem next_symm (base compare : String)
    (next : Graph.Next (network payload threshold) base compare) :
    Graph.Next (network payload threshold) compare base := by
  obtain ⟨listed, differs, reached⟩ := next_iff.mp next
  exact next_iff.mpr ⟨listed.symm, differs.symm, symmetric base compare ▸ reached⟩

theorem nodup_flatten : (components payload threshold).flatten.Nodup :=
  (Graph.nodup_components sorted_perm (next_symm symmetric) (fun _ none => by simp at none)).1

omit symmetric in
theorem mem_flatten {symbol : String} :
    symbol ∈ (components payload threshold).flatten ↔ symbol ∈ payload.symbols := by
  rw [List.mem_flatten]
  constructor
  · rintro ⟨component, among, inside⟩
    obtain ⟨seed, listed, reached⟩ := Graph.component_class sorted_perm among
    rcases (reached symbol).mp inside with _ | ⟨_, last⟩
    · exact listed
    · exact (next_iff.mp last).1.2
  · exact fun listed => (Graph.mem_components sorted_perm listed).resolve_left List.not_mem_nil

theorem clusters_partition (distinct : payload.symbols.Nodup) :
    Partition payload threshold (buildCorrelationClusters payload threshold) where
  whole := by
    rw [List.flatMap_def, symbols_clusters]
    exact (List.perm_ext_iff_of_nodup (nodup_flatten symmetric) distinct).mpr fun _ => mem_flatten
  filled := by
    intro cluster inside none
    have among : cluster.symbols ∈ components payload threshold :=
      symbols_clusters ▸ List.mem_map_of_mem inside
    obtain ⟨seed, -, reached⟩ := Graph.component_class sorted_perm among
    rw [none] at reached
    exact List.not_mem_nil ((reached seed).mpr .refl)
  linked := by
    intro base listed compare _
    have clusters : (∃ cluster ∈ buildCorrelationClusters payload threshold,
        base ∈ cluster.symbols ∧ compare ∈ cluster.symbols) ↔
          ∃ component ∈ components payload threshold, base ∈ component ∧ compare ∈ component := by
      rw [← symbols_clusters]
      simp
    rw [clusters, ← reaches_iff]
    constructor
    · rintro ⟨component, among, first, second⟩
      obtain ⟨seed, -, reached⟩ := Graph.component_class sorted_perm among
      exact (Graph.reaches_symm (next_symm symmetric) ((reached base).mp first)).trans
        ((reached compare).mp second)
    · intro path
      obtain ⟨component, among, first⟩ := List.mem_flatten.mp (mem_flatten.mpr listed)
      obtain ⟨seed, -, reached⟩ := Graph.component_class sorted_perm among
      exact ⟨component, among, first, (reached compare).mpr (((reached base).mp first).trans path)⟩

end Symmetric

theorem filter_clusters_perm {clusters : List (List String)} (distinct : clusters.flatten.Nodup) :
    (clusters.flatMap fun symbols => positions.filter (inCluster symbols)).Perm
      (positions.filter (inCluster clusters.flatten)) := by
  induction clusters with
  | nil => simp [inCluster]
  | cons symbols clusters ih =>
    obtain ⟨-, rest, apart⟩ := List.nodup_append.mp distinct
    have split := List.filter_append_perm (inCluster symbols)
      (positions.filter (inCluster (symbols :: clusters).flatten))
    rw [List.filter_filter, List.filter_filter] at split
    have first : positions.filter (fun position => inCluster symbols position &&
        inCluster (symbols :: clusters).flatten position) =
          positions.filter (inCluster symbols) := by
      refine List.filter_congr fun position _ => ?_
      simp +contextual [inCluster]
    have second : positions.filter (fun position => !inCluster symbols position &&
        inCluster (symbols :: clusters).flatten position) =
          positions.filter (inCluster clusters.flatten) := by
      refine List.filter_congr fun position _ => ?_
      have never := apart (symbolLabel position.symbol)
      by_cases held : symbolLabel position.symbol ∈ symbols
      · simpa [inCluster, held] using fun cluster inside among =>
          never held _ (List.mem_flatten_of_mem inside among) rfl
      · simp [inCluster, held]
    rw [first, second] at split
    exact ((ih rest).append_left _).trans split

theorem notional_flatten (held : List (List Position)) :
    notional held.flatten = (held.map notional).sum := by
  rw [notional, List.map_flatten, List.sum_flatten, List.map_map]
  rfl

theorem abs_sum_roundTo_sub_le (values : List ℚ) :
    |(values.map (roundTo 4)).sum - values.sum| ≤ values.length / 20000 := by
  induction values with
  | nil => simp
  | cons value values ih =>
    have first := abs_le.mp (Numeric.abs_roundTo_sub_le 4 value)
    have rest := abs_le.mp ih
    rw [abs_le, List.map_cons, List.sum_cons, List.sum_cons, List.length_cons, Nat.cast_succ]
    constructor <;> linarith

theorem clusters_accounted
    (symmetric : ∀ base compare, payload.corr base compare = payload.corr compare base) :
    Accounted payload positions (calculateClusterExposure
      (buildCorrelationClusters payload threshold) positions equity) := by
  have once : ((components payload threshold).flatMap fun symbols =>
      positions.filter (inCluster symbols)).Perm
        (positions.filter (inCluster payload.symbols)) := by
    refine (filter_clusters_perm (nodup_flatten symmetric)).trans (.of_eq ?_)
    exact List.filter_congr fun position _ => by simp only [inCluster, mem_flatten]
  rw [← symbols_clusters, List.flatMap_map] at once
  refine ⟨by simpa [calculateClusterExposure, List.flatMap_map] using once, ?_,
    fun exposure inside => ?_⟩
  · let held := fun cluster : Cluster => positions.filter (inCluster cluster.symbols)
    have total : notional (positions.filter (inCluster payload.symbols)) =
        ((buildCorrelationClusters payload threshold).map (notional ∘ held)).sum := by
      have sums := notional_flatten ((buildCorrelationClusters payload threshold).map held)
      rw [List.map_map, ← List.flatMap_def] at sums
      exact (once.map Position.size).sum_eq.symm.trans sums
    have near := abs_sum_roundTo_sub_le
      ((buildCorrelationClusters payload threshold).map (notional ∘ held))
    rw [total]
    simpa [calculateClusterExposure, Function.comp_def] using near
  · obtain ⟨cluster, -, rfl⟩ := List.mem_map.mp inside
    rfl

/-- The notional of one position vanishes in the rounding. -/
theorem small_notional_vanishes :
    let payload : MatrixPayload := ⟨["BTC"], fun _ => none⟩
    let positions : List Position := [⟨some "BTCUSDT", some "LONG", some (4 / 100000), none⟩]
    ((calculateClusterExposure (buildCorrelationClusters payload (3 / 4)) positions 1).map
      ClusterExposure.clusterExposureNotional).sum ≠
        notional (positions.filter (inCluster payload.symbols)) := by
  intro payload positions
  have one : components payload (3 / 4) = [["BTC"]] := by
    simp [components, componentsFrom, Graph.visit, Graph.pushed, network, neighbors, payload]
  have clustered : positions.filter (inCluster ["BTC"]) = positions :=
    List.filter_eq_self.mpr (by decide +kernel)
  have rounded : roundTo 4 (notional positions) = 0 := by decide +kernel
  rw [show payload.symbols = ["BTC"] from rfl, clustered]
  simp only [calculateClusterExposure, buildCorrelationClusters, one, List.zipIdx_singleton,
    List.map_cons, List.map_nil, clustered, rounded, List.sum_singleton]
  decide +kernel

/-- The clusters are the classes of the chains, and their exposures count each position once and
round each notional once. -/
theorem clusters_and_exposures (distinct : payload.symbols.Nodup)
    (symmetric : ∀ base compare, payload.corr base compare = payload.corr compare base)
    (positions : List Position) (equity : ℚ) :
    Partition payload threshold (buildCorrelationClusters payload threshold) ∧
      Accounted payload positions (calculateClusterExposure
        (buildCorrelationClusters payload threshold) positions equity) :=
  ⟨clusters_partition symmetric distinct, clusters_accounted symmetric⟩

/-- Two correlated symbols. -/
theorem clusters_and_exposures_of_two :
    let payload : MatrixPayload := ⟨["BTC", "ETH"], fun _ => some fun _ => some (9 / 10)⟩
    Partition payload (3 / 4) (buildCorrelationClusters payload (3 / 4)) ∧
      Accounted payload [⟨some "BTCUSDT", some "LONG", some 100, none⟩]
        (calculateClusterExposure (buildCorrelationClusters payload (3 / 4))
          [⟨some "BTCUSDT", some "LONG", some 100, none⟩] 1000) :=
  clusters_and_exposures (by decide) (fun _ _ => rfl) _ _

end Laws

end Correlation
