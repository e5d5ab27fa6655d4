import Mathlib.Algebra.Order.BigOperators.Group.List
import CoinRobotu.Futures.Guards
import CoinRobotu.Portfolio.InteractionGuard
import CoinRobotu.Selection.Greedy

/-!
# The exposure tracker of the strategies

The allowed decisions are taken greedily, the most confident first, as long as the exposures of
their symbol, of their strategy and of their cluster stay within their limits. Sizes have six
decimals, so the running sums are exact although each is rounded.
-/

namespace Portfolio

open Futures (Decision Verdict)
open Numeric
open Runtime (upper)
open Selection (select)

inductive Family where
  | symbol
  | strategy
  | cluster
  deriving DecidableEq

structure ExposureLimits where
  maxSymbolExposure : ℚ
  maxStrategyExposure : ℚ
  maxClusterExposure : ℚ

def ExposureLimits.of (limits : ExposureLimits) : Family → ℚ
  | .symbol => limits.maxSymbolExposure
  | .strategy => limits.maxStrategyExposure
  | .cluster => limits.maxClusterExposure

/-- `_cluster`. -/
def cluster (symbol : String) : String :=
  let holds := fun token : String => decide (token.toList <:+: (upper symbol).toList)
  if ["BTC", "ETH", "SOL", "BNB"].any holds then "MAJOR_CLUSTER"
  else if ["AVAX", "LINK", "ADA", "XRP", "DOGE"].any holds then "HIGH_BETA_CLUSTER"
  else "ALT_CLUSTER"

def accountKey (row : Decision) : Family → String
  | .symbol => symbolKey row
  | .strategy => row.strategyKey
  | .cluster => cluster (symbolKey row)

/-- `_exposure_size`. -/
def exposureSize (row : Decision) : ℚ :=
  max (5 / 100) (roundTo 6 (row.leverage * max (5 / 100) (min 1 row.sizeRatio) *
    (55 / 100 + confidence row * (45 / 100))))

abbrev Books := Family → String → ℚ

def Books.add (digits : ℕ) (books : Books) (row : Decision) : Books := fun family =>
  Function.update (books family) (accountKey row family)
    (roundTo digits (books family (accountKey row family) + exposureSize row))

/-- `compute`, for the sums. -/
def compute (rows : List Decision) : Books :=
  (rows.filter (·.decision = .allow)).foldl (Books.add 4) fun _ _ => 0

section Pass

variable (limits : ExposureLimits)

def exceeds (books : Books) (row : Decision) : Bool :=
  limits.maxSymbolExposure < books .symbol (accountKey row .symbol) + exposureSize row ∨
    limits.maxStrategyExposure < books .strategy (accountKey row .strategy) + exposureSize row ∨
    limits.maxClusterExposure < books .cluster (accountKey row .cluster) + exposureSize row

/-- The loop of `apply`: the accepted and the blocked of the ranked rows, with their indices. -/
def admitRows : Books → List (Decision × ℕ) → List (Decision × ℕ) × List (Decision × ℕ)
  | _, [] => ([], [])
  | books, item :: items =>
      if exceeds limits books item.1 then
        ((admitRows books items).1, item :: (admitRows books items).2)
      else
        (item :: (admitRows (books.add 6 item.1) items).1, (admitRows (books.add 6 item.1) items).2)

def ranked (rows : List Decision) : List (Decision × ℕ) := byConfidence (allowed rows)

def blockedItems (rows : List Decision) : List (Decision × ℕ) :=
  (admitRows limits (fun _ _ => 0) (ranked rows)).2

def blockedRow (row : Decision) : Decision :=
  row.rejectedBy "PORTFOLIO" "STRATEGY_EXPOSURE_LIMIT"

structure Tracked where
  output : List Decision
  blocked : List Decision
  exposures : Books

/-- `StrategyExposureTracker.apply`. -/
def StrategyExposureTracker.apply (rows : List Decision) : Tracked :=
  let isBlocked := fun item : Decision × ℕ => (blockedItems limits rows).any (·.2 = item.2)
  let output := rows.zipIdx.map fun item => if isBlocked item then blockedRow item.1 else item.1
  { output
    blocked := (rows.zipIdx.filter isBlocked).map fun item => blockedRow item.1
    exposures := compute output }

open StrategyExposureTracker (apply)

def exposed (rows : List Decision) (family : Family) (name : String) : ℚ :=
  ((rows.filter fun row => accountKey row family = name).map exposureSize).sum

/-- The rows keep their places and only change from allowed to rejected; what stays allowed is
within the limits; what is rejected would exceed one beside the allowed rows that are no less
confident; and a second pass changes nothing. -/
structure Selected (rows : List Decision) : Prop where
  kept : List.Forall₂ (fun row result => result = row ∨
    row.decision = .allow ∧ result = blockedRow row) rows (apply limits rows).output
  within : ∀ family name,
    exposed (stillAllowed (apply limits rows).output) family name ≤ limits.of family
  maximal : ∀ (index : ℕ) (row : Decision), rows[index]? = some row → row.decision = .allow →
    (apply limits rows).output[index]? = some (blockedRow row) →
    ∃ family, limits.of family <
      exposed ((stillAllowed (apply limits rows).output).filter fun other =>
        confidence row ≤ confidence other) family (accountKey row family) + exposureSize row
  stable : (apply limits (apply limits rows).output).output = (apply limits rows).output

end Pass

section Sums

variable {limits : ExposureLimits} {rows others : List Decision} {row : Decision}
  {family : Family} {name : String}

theorem exposureSize_pos : 0 < exposureSize row := lt_max_of_lt_left (by norm_num)

theorem exposed_decimals : HasDecimals 6 (exposed rows family name) := by
  refine HasDecimals.sum fun value inside => ?_
  obtain ⟨row, -, rfl⟩ := List.mem_map.mp inside
  unfold exposureSize
  rcases max_choice (5 / 100 : ℚ) (roundTo 6 (row.leverage * max (5 / 100) (min 1 row.sizeRatio) *
    (55 / 100 + confidence row * (45 / 100)))) with side | side <;> rw [side]
  · exact ⟨50000, by norm_num⟩
  · exact hasDecimals_roundTo 6 _

theorem exposed_concat : exposed (rows ++ [row]) family name =
    exposed rows family name + if accountKey row family = name then exposureSize row else 0 := by
  by_cases same : accountKey row family = name <;> simp [exposed, same]

theorem exposed_perm (same : rows.Perm others) :
    exposed rows family name = exposed others family name :=
  ((same.filter _).map _).sum_eq

theorem exposed_le (part : rows.Sublist others) :
    exposed rows family name ≤ exposed others family name := by
  refine ((part.filter _).map _).sum_le_sum fun value inside => ?_
  obtain ⟨row, -, rfl⟩ := List.mem_map.mp inside
  exact exposureSize_pos.le

theorem add_exposed : Books.add 6 (exposed rows) row = exposed (rows ++ [row]) := by
  funext family name
  by_cases same : accountKey row family = name
  · subst same
    rw [Books.add, Function.update_self]
    have decimals := @exposed_decimals (rows ++ [row]) family (accountKey row family)
    rw [exposed_concat, if_pos rfl] at decimals ⊢
    exact decimals.rounded
  · rw [Books.add, Function.update_of_ne (Ne.symm same), exposed_concat, if_neg same, add_zero]

def fits (limits : ExposureLimits) (taken : List (Decision × ℕ)) (item : Decision × ℕ) : Bool :=
  !exceeds limits (exposed (taken.map Prod.fst)) item.1

theorem admit_eq {taken items : List (Decision × ℕ)} :
    admitRows limits (exposed (taken.map Prod.fst)) items = select (fits limits) taken items := by
  induction items generalizing taken with
  | nil => rfl
  | cons item items ih =>
    have next : Books.add 6 (exposed (taken.map Prod.fst)) item.1 =
        exposed ((taken ++ [item]).map Prod.fst) := by
      rw [add_exposed, List.map_append, List.map_singleton]
    rw [admitRows, next, ih, ih, select, fits]
    cases exceeds limits (exposed (taken.map Prod.fst)) item.1 <;> rfl

theorem fits_iff {taken : List (Decision × ℕ)} {item : Decision × ℕ} :
    fits limits taken item = true ↔ ∀ family,
      exposed (taken.map Prod.fst) family (accountKey item.1 family) + exposureSize item.1 ≤
        limits.of family := by
  have families : (∀ family, exposed (taken.map Prod.fst) family (accountKey item.1 family) +
      exposureSize item.1 ≤ limits.of family) ↔ _ ∧ _ ∧ _ :=
    ⟨fun each => ⟨each .symbol, each .strategy, each .cluster⟩,
      fun ⟨symbol, strategy, group⟩ family => by cases family <;> assumption⟩
  rw [families]
  simp [fits, exceeds, ExposureLimits.of]

end Sums

section Passes

open StrategyExposureTracker (apply)

variable {limits : ExposureLimits} {rows : List Decision} {item : Decision × ℕ}

def accepted (limits : ExposureLimits) (rows : List Decision) : List (Decision × ℕ) :=
  (select (fits limits) [] (ranked rows)).1

theorem blockedItems_eq : blockedItems limits rows = (select (fits limits) [] (ranked rows)).2 := by
  rw [blockedItems, ← admit_eq]
  rfl

theorem split_perm : (accepted limits rows ++ blockedItems limits rows).Perm (allowed rows) := by
  rw [blockedItems_eq]
  exact Selection.select_perm.trans (List.mergeSort_perm _ _)

theorem nodup_split : (accepted limits rows ++ blockedItems limits rows).Nodup :=
  split_perm.nodup_iff.mpr nodup_allowed

theorem allowed_of_blocked (blocked : item ∈ blockedItems limits rows) : item ∈ allowed rows :=
  split_perm.subset (List.mem_append_right _ blocked)

theorem isBlocked_iff (inside : rows[item.2]? = some item.1) :
    (blockedItems limits rows).any (·.2 = item.2) = true ↔ item ∈ blockedItems limits rows := by
  simp only [List.any_eq_true, decide_eq_true_eq]
  refine ⟨fun ⟨other, blocked, same⟩ => ?_, fun blocked => ⟨item, blocked, rfl⟩⟩
  have row := (mem_allowed.mp (allowed_of_blocked blocked)).1
  rw [same, inside, Option.some.injEq] at row
  have equal : other = item := Prod.ext row.symm same
  exact equal ▸ blocked

theorem getElem?_output (index : ℕ) : (apply limits rows).output[index]? =
    rows[index]?.map fun row =>
      if (row, index) ∈ blockedItems limits rows then blockedRow row else row := by
  simp only [apply, List.getElem?_map, List.getElem?_zipIdx, Option.map_map, Nat.zero_add]
  refine Option.map_congr fun row inside => ?_
  have blocked := @isBlocked_iff limits rows (row, index) inside
  simp only [Function.comp, blocked]

theorem allowed_output_perm :
    (allowed (apply limits rows).output).Perm (accepted limits rows) := by
  obtain ⟨distinct, -, apart⟩ := List.nodup_append.mp (@nodup_split limits rows)
  have among : ∀ item ∈ accepted limits rows, item ∈ allowed rows :=
    fun item member => split_perm.subset (List.mem_append_left _ member)
  have rejects : ∀ row, (blockedRow row).decision = .reject := fun _ => rfl
  refine allowed_perm distinct among rejects fun index => ?_
  rw [getElem?_output]
  refine Option.map_congr fun row present => if_congr ⟨fun blocked => ?_, fun refused => ?_⟩ rfl rfl
  · exact ⟨(mem_allowed.mp (allowed_of_blocked blocked)).2,
      fun member => apart _ member _ blocked rfl⟩
  · have member : (row, index) ∈ accepted limits rows ++ blockedItems limits rows :=
      split_perm.symm.subset (mem_allowed.mpr ⟨present, refused.1⟩)
    exact (List.mem_append.mp member).resolve_left refused.2

theorem exposed_output {family : Family} {name : String} :
    exposed (stillAllowed (apply limits rows).output) family name =
      exposed ((accepted limits rows).map Prod.fst) family name := by
  rw [stillAllowed_eq]
  exact exposed_perm (allowed_output_perm.map _)

theorem accepted_within (positive : ∀ family, 0 < limits.of family) (family : Family)
    (name : String) : exposed ((accepted limits rows).map Prod.fst) family name ≤
      limits.of family := by
  let Within := fun chosen : List (Decision × ℕ) => ∀ family name,
    exposed (chosen.map Prod.fst) family name ≤ limits.of family
  have initial : Within [] := fun family name => by simpa [exposed] using (positive family).le
  have kept : ∀ chosen, ∀ item ∈ ranked rows, Within chosen → fits limits chosen item = true →
      Within (chosen ++ [item]) := by
    intro chosen item _ within fit family name
    rw [List.map_append, List.map_singleton, exposed_concat]
    split
    case isTrue same => exact same ▸ fits_iff.mp fit family
    case isFalse => simpa using within family name
  exact Selection.select_keeps initial kept family name

theorem apply_kept : List.Forall₂ (fun row result => result = row ∨
    row.decision = .allow ∧ result = blockedRow row) rows (apply limits rows).output := by
  refine List.forall₂_iff_get.mpr ⟨by simp [apply], fun index inside present => ?_⟩
  have changed := @getElem?_output limits rows index
  rw [List.getElem?_eq_getElem present, List.getElem?_eq_getElem inside, Option.map_some,
    Option.some.injEq] at changed
  simp only [List.get_eq_getElem, changed]
  split
  case isTrue blocked => exact .inr ⟨(mem_allowed.mp (allowed_of_blocked blocked)).2, rfl⟩
  case isFalse => exact .inl rfl

theorem apply_maximal (index : ℕ) (row : Decision) (inside : rows[index]? = some row)
    (allows : row.decision = .allow)
    (rejected : (apply limits rows).output[index]? = some (blockedRow row)) :
    ∃ family, limits.of family <
      exposed ((stillAllowed (apply limits rows).output).filter fun other =>
        confidence row ≤ confidence other) family (accountKey row family) + exposureSize row := by
  have blocked : (row, index) ∈ (select (fits limits) [] (ranked rows)).2 := by
    rw [← blockedItems_eq]
    by_contra free
    rw [getElem?_output, inside, Option.map_some, if_neg free, Option.some.injEq] at rejected
    have verdict := congrArg Decision.decision rejected
    rw [allows] at verdict
    cases verdict
  obtain ⟨before, later, chosen, split, part, start, refused⟩ := Selection.exists_of_left blocked
  have sorted := byConfidence_sorted (allowed rows)
  have confident : ∀ item ∈ chosen, confidence row ≤ confidence item.1 := by
    intro item member
    rw [← ranked, split, List.pairwise_append] at sorted
    exact sorted.2.2 item (part.subset member) _ List.mem_cons_self
  have exceeded : ¬∀ family, exposed (chosen.map Prod.fst) family (accountKey row family) +
      exposureSize row ≤ limits.of family := fun each => by
    rw [List.nil_append, Bool.eq_false_iff] at refused
    exact refused (fits_iff.mpr each)
  push Not at exceeded
  obtain ⟨family, above⟩ := exceeded
  refine ⟨family, above.trans_le (add_le_add_left ?_ _)⟩
  have among : (chosen.map Prod.fst).Sublist
      (((accepted limits rows).map Prod.fst).filter fun other =>
        confidence row ≤ confidence other) := by
    have all := (start.sublist.map Prod.fst).filter fun other =>
      decide (confidence row ≤ confidence other)
    have same : (chosen.map Prod.fst).filter (fun other =>
        decide (confidence row ≤ confidence other)) = chosen.map Prod.fst := by
      refine List.filter_eq_self.mpr fun other member => ?_
      obtain ⟨item, inside, rfl⟩ := List.mem_map.mp member
      exact decide_eq_true (confident item inside)
    rwa [same] at all
  refine (exposed_le among).trans (le_of_eq (exposed_perm ?_))
  rw [stillAllowed_eq]
  exact ((allowed_output_perm.map _).filter _).symm

theorem apply_stable (positive : ∀ family, 0 < limits.of family) :
    (apply limits (apply limits rows).output).output = (apply limits rows).output := by
  have nothing : blockedItems limits (apply limits rows).output = [] := by
    rw [blockedItems_eq, Selection.select_all]
    intro before item later split
    refine fits_iff.mpr fun family => ?_
    have part : ((before ++ [item]).map Prod.fst).Sublist
        ((ranked (apply limits rows).output).map Prod.fst) := by
      rw [split]
      exact (List.sublist_append_left (before ++ [item]) later).map _ |>.trans (by simp)
    have fitted := @exposed_le _ _ family (accountKey item.1 family) part
    rw [List.map_append, List.map_singleton, exposed_concat, if_pos rfl] at fitted
    have same : (ranked (apply limits rows).output).Perm (accepted limits rows) :=
      (List.mergeSort_perm _ _).trans allowed_output_perm
    rw [exposed_perm (same.map Prod.fst)] at fitted
    exact fitted.trans (accepted_within positive family _)
  refine List.ext_getElem? fun index => ?_
  rw [getElem?_output, nothing]
  simp

/-- The pass is a selection in the sense above, for positive limits. -/
theorem exposure_selection (positive : ∀ family, 0 < limits.of family) (rows : List Decision) :
    Selected limits rows :=
  ⟨apply_kept, fun _ _ => exposed_output.trans_le (accepted_within positive _ _), apply_maximal,
    apply_stable positive⟩

/-- Two strategies are confident of one symbol, and there is room for one. -/
theorem exposure_selection_twice :
    let row : Decision := ⟨"BTCUSDT", "LONG", some "trend", none, some (9 / 10), none,
      ⟨some 4, some 1⟩, .allow, none, none, [], none, none⟩
    Selected ⟨6, 8, 12⟩ [row, { row with strategy := some "breakout" }] :=
  exposure_selection (fun family => by cases family <;> norm_num [ExposureLimits.of]) _

end Passes

section Cycle

open Futures (GuardInputs)
open Runtime (orElse)

/-- The `readiness_guard` of the live readiness; its event is known by its text. -/
structure ReadinessGuard where
  action : Option String
  event : Option String

def ReadinessGuard.blocks (guard : ReadinessGuard) : Bool := orElse guard.action "ALLOW" = "BLOCK"

/-- `apply_live_readiness_guard_to_decisions`: the decisions and the events. -/
def applyLiveReadinessGuardToDecisions (guard : ReadinessGuard) (decisions : List Decision) :
    List Decision × List String :=
  let isBlocked := fun row : Decision => row.decision = .allow ∧ guard.blocks
  (decisions.map fun row =>
      if isBlocked row then row.rejectedBy "LIVE_READINESS" "LIVE_READINESS_BLOCK" else row,
    (decisions.filter isBlocked).flatMap fun _ => (guard.event.filter (· ≠ "")).toList)

/-- The limits that the constructor of the tracker has by default. -/
def defaultExposureLimits : ExposureLimits := ⟨6, 8, 12⟩

/-- The decisions that `run_futures_strategy_paper_cycle` executes, once all guards have passed
over them. -/
def decisionsOfCycle (inputs : GuardInputs) (guard : ReadinessGuard) (decisions : List Decision) :
    List Decision :=
  let ready := (applyLiveReadinessGuardToDecisions guard (inputs.pass decisions).final).1
  (StrategyExposureTracker.apply defaultExposureLimits
    (StrategyInteractionGuard.apply ready 2).output).output

variable {limits : ExposureLimits} {rows : List Decision} {row : Decision}

theorem stillAllowed_tracked :
    (stillAllowed (StrategyExposureTracker.apply limits rows).output).Sublist
      (stillAllowed rows) := by
  have kept := @apply_kept limits rows
  generalize (StrategyExposureTracker.apply limits rows).output = results at kept ⊢
  induction kept with
  | nil => exact .slnil
  | @cons row result rows results first _ ih =>
    rcases first with rfl | ⟨allows, rfl⟩
    · by_cases allows : result.decision = .allow
      · simpa [stillAllowed, allows] using ih
      · simpa [stillAllowed, allows] using ih
    · simpa [stillAllowed, allows, blockedRow] using ih.cons row

theorem stillAllowed_guarded {stack : ℤ}
    (allows : row ∈ stillAllowed (StrategyInteractionGuard.apply rows stack).output) :
    row ∈ stillAllowed rows := by
  obtain ⟨group, listed, item, kept, rfl⟩ := mem_stillAllowed_output.mp allows
  obtain ⟨present, isAllowed⟩ := mem_allowed.mp (keepRefs_allowed kept)
  have among : item.1 ∈ (bySymbol rows).flatMap Prod.snd :=
    List.mem_flatMap.mpr ⟨group, listed, List.mem_of_getElem? present⟩
  exact List.mem_filter.mpr ⟨Selection.groupBy_perm.subset among, decide_eq_true isAllowed⟩

theorem stillAllowed_ready {guard : ReadinessGuard}
    (allows : row ∈ stillAllowed (applyLiveReadinessGuardToDecisions guard rows).1) :
    row ∈ stillAllowed rows ∧ guard.blocks = false := by
  obtain ⟨inside, isAllowed⟩ := List.mem_filter.mp allows
  obtain ⟨source, among, rfl⟩ := List.mem_map.mp inside
  by_cases blocked : source.decision = .allow ∧ guard.blocks
  · simp [blocked] at isAllowed
  · rw [if_neg blocked] at isAllowed ⊢
    refine ⟨List.mem_filter.mpr ⟨among, isAllowed⟩, ?_⟩
    simpa [of_decide_eq_true isAllowed] using blocked

/-- Whatever the guards read, a cycle executes only rows that each of its guards has left allowed,
none while the live readiness blocks, at most two of a symbol and side and none of both sides, and
within the limits of every symbol, strategy and cluster. -/
theorem cycle_executes_within_limits (inputs : GuardInputs) (guard : ReadinessGuard)
    (decisions : List Decision) :
    let executed := stillAllowed (decisionsOfCycle inputs guard decisions)
    (∀ row ∈ executed, row ∈ stillAllowed (inputs.pass decisions).final ∧ guard.blocks = false) ∧
      (∀ row ∈ executed, ∀ other ∈ executed, symbolKey row = symbolKey other →
        row.side = "LONG" → other.side ≠ "SHORT") ∧
      (∀ symbol side, (executed.countP fun row => symbolKey row = symbol ∧ row.side = side) ≤ 2) ∧
      ∀ family name, exposed executed family name ≤ defaultExposureLimits.of family := by
  set ready := (applyLiveReadinessGuardToDecisions guard (inputs.pass decisions).final).1
    with isReady
  have kept : (stillAllowed (decisionsOfCycle inputs guard decisions)).Sublist
      (stillAllowed (StrategyInteractionGuard.apply ready 2).output) := stillAllowed_tracked
  refine ⟨fun row inside => ?_, fun row inside other among => ?_, fun symbol side => ?_, ?_⟩
  · exact stillAllowed_ready (stillAllowed_guarded (kept.subset inside))
  · exact apply_sides row (kept.subset inside) other (kept.subset among)
  · have few := @apply_stacked 2 ready symbol side
    exact kept.countP_le.trans (by omega)
  · intro family name
    refine exposed_output.trans_le (accepted_within (fun family => ?_) family name)
    cases family <;> norm_num [ExposureLimits.of, defaultExposureLimits]

end Cycle

end Portfolio
