import CoinRobotu.Allocation.Traces
import CoinRobotu.Automata.History

/-!
# The weights and the capital of the allocation table

Every row keeps a weight between zero and one and a current capital within its maximum, whatever
calls succeed and whatever rows are seeded in between. The sum of the weights is checked for the
rows in scope only, after rounding it to six decimals, and not when rows are seeded: after each
commit of a call that checks, the weights in scope sum to one within the tolerance and half a unit
of the sixth decimal, or there is no row left.
-/

namespace Allocation

open Numeric
open Runtime (strip)
open Stateful

/-- A weight between zero and one, and a current capital within its maximum. -/
structure StrategyAllocation.Sound (row : StrategyAllocation) : Prop where
  nonneg : 0 ≤ row.capitalWeight
  leOne : row.capitalWeight ≤ 1
  within : row.currentCapital ≤ row.maxCapital

def Sound (rows : List StrategyAllocation) : Prop := ∀ row ∈ rows, row.Sound

def weightsOf (rows : List StrategyAllocation) : List ℚ := rows.map (·.capitalWeight)

/-- The weights in scope sum to one, up to the tolerance and the rounding of their sum. -/
def Balanced (rows : List StrategyAllocation) : Prop :=
  |(weightsOf (workingRows rows)).sum - 1| ≤ 1 / 10000 + 5 / 10000000

section Rows

variable {rows : List StrategyAllocation} {row : StrategyAllocation}

variable {change : StrategyAllocation → StrategyAllocation}

theorem Sound.map (sound : Sound rows)
    (changed : ∀ row ∈ rows, row.Sound → (change row).Sound) : Sound (rows.map change) := by
  intro other inside
  obtain ⟨row, isRow, rfl⟩ := List.mem_map.mp inside
  exact changed row isRow (sound row isRow)

theorem Sound.replaced (sound : Sound rows) (ofRow : row.Sound) : Sound (replaced row rows) := by
  apply sound.map
  intro other _ ofOther
  split
  · exact ofRow
  · exact ofOther

theorem Sound.added (sound : Sound rows) (ofRow : row.Sound)
    {before : StrategyAllocation → StrategyAllocation → Prop} [DecidableRel before] :
    Sound (rows.orderedInsert before row) := by
  intro other inside
  rcases (List.mem_orderedInsert _).mp inside with rfl | isOld
  · exact ofRow
  · exact sound other isOld

theorem reducedByDrawdown_sound (sound : row.Sound) : (reducedByDrawdown row).Sound := by
  unfold reducedByDrawdown
  split
  · exact sound
  · split
    · exact sound
    · rename_i above
      refine ⟨sound.nonneg, sound.leOne, ?_⟩
      have suggested : 0 ≤ computeSuggestedReducedCapital row :=
        roundTo_nonneg 4 (le_max_right _ _)
      have lower : computeSuggestedReducedCapital row < row.currentCapital := by
        rcases lt_max_iff.mp (not_le.mp above) with below | belowZero
        · exact below
        · exact absurd suggested (not_le.mpr belowZero)
      exact lower.le.trans sound.within

variable {scope : StrategyAllocation → Bool}

theorem mem_assignWeights {weights : List ℚ}
    (inside : row ∈ assignWeights scope rows weights) :
    ∃ old ∈ rows, row = old ∨ ∃ weight ∈ weights, row = { old with capitalWeight := weight } := by
  induction rows generalizing weights with
  | nil => cases inside
  | cons first rows ih =>
    have later : ∀ {rest : List ℚ}, (∀ weight ∈ rest, weight ∈ weights) →
        row ∈ assignWeights scope rows rest → ∃ old ∈ first :: rows, row = old ∨
          ∃ weight ∈ weights, row = { old with capitalWeight := weight } := by
      intro rest among isLater
      obtain ⟨old, isOld, same | ⟨weight, isWeight, same⟩⟩ := ih isLater
      · exact ⟨old, List.mem_cons_of_mem _ isOld, .inl same⟩
      · exact ⟨old, List.mem_cons_of_mem _ isOld, .inr ⟨weight, among weight isWeight, same⟩⟩
    unfold assignWeights at inside
    split at inside
    · rename_i weight rest _
      rcases List.mem_cons.mp inside with isFirst | isLater
      · exact ⟨first, List.mem_cons_self, .inr ⟨weight, List.mem_cons_self, isFirst⟩⟩
      · exact later (fun other isOther => List.mem_cons_of_mem _ isOther) isLater
    · rcases List.mem_cons.mp inside with isFirst | isLater
      · exact ⟨first, List.mem_cons_self, .inl isFirst⟩
      · exact later (fun other isOther => isOther) isLater

/-- So many rows that an equal split can round all but the last share up and leave something of
one for the last. -/
def equalSplitLimit : ℕ := 14142

theorem applyNormalize_sound (sound : Sound rows) (few : rows.length ≤ equalSplitLimit) :
    Sound (applyNormalize rows) := by
  have short : (weightsOf (workingRows rows)).length ≤ 14142 := by
    unfold weightsOf workingRows
    rw [List.length_map]
    exact (List.length_filter_le _ _).trans few
  have fewWeights : (weightsOf (workingRows rows)).length *
      ((weightsOf (workingRows rows)).length - 1) ≤ 2 * 10 ^ 8 := by
    calc _ ≤ 14142 * 14141 := Nat.mul_le_mul short (by omega)
      _ ≤ 2 * 10 ^ 8 := by norm_num
  intro row inside
  obtain ⟨old, isOld, rfl | ⟨weight, isWeight, rfl⟩⟩ := mem_assignWeights inside
  · exact sound _ isOld
  · obtain ⟨nonneg, leOne⟩ := mem_sharesOf fewWeights isWeight
    exact ⟨nonneg, leOne, (sound old isOld).within⟩

theorem weightsOf_assignWeights {weights : List ℚ}
    (all : ∀ row ∈ rows, scope row = true) (size : weights.length = rows.length) :
    weightsOf (assignWeights scope rows weights) = weights := by
  induction rows generalizing weights with
  | nil => exact (List.eq_nil_of_length_eq_zero size).symm
  | cons first rows ih =>
    cases weights with
    | nil => cases size
    | cons weight weights =>
      have later : weightsOf (assignWeights scope rows weights) = weights := by
        apply ih
        · exact fun row inside => all row (List.mem_cons_of_mem _ inside)
        · exact Nat.succ.inj size
      rw [assignWeights]
      · exact congrArg (weight :: ·) later
      · exact all first List.mem_cons_self

/-- The limit is not far from the first failure: an equal split among 14340 rows leaves the last
one a negative weight, which nothing cuts off. -/
theorem equal_split_below_zero (size : rows.length = 14340)
    (own : ∀ row ∈ rows, row.isCanonical = false)
    (weightless : ∀ row ∈ rows, row.capitalWeight = 0) :
    ¬Sound (applyNormalize rows) := by
  have noneCanonical : rows.any (·.isCanonical) = false := by
    rw [List.any_eq_false]
    exact fun row inside => by rw [own row inside]; exact Bool.false_ne_true
  have all : ∀ row, inScope rows row = true := by
    intro row
    unfold inScope
    rw [noneCanonical]
    exact Bool.or_true _
  have working : workingRows rows = rows := List.filter_eq_self.mpr fun row _ => all row
  have zeros : rows.map (·.capitalWeight) = List.replicate 14340 0 := by
    rw [List.eq_replicate_iff]
    refine ⟨(List.length_map _).trans size, fun weight inside => ?_⟩
    obtain ⟨row, isRow, rfl⟩ := List.mem_map.mp inside
    exact weightless row isRow
  have shares : weightsOf (applyNormalize rows) = equalShares 8 14340 := by
    unfold applyNormalize
    rw [working, zeros]
    have split : sharesOf 8 (List.replicate 14340 0) = equalShares 8 14340 := by
      unfold sharesOf positivePart
      rw [List.map_replicate, List.sum_replicate, max_self, nsmul_zero, if_pos le_rfl,
        List.length_replicate]
    rw [split]
    apply weightsOf_assignWeights fun row _ => all row
    rw [← split, length_sharesOf, List.length_replicate, size]
  have isLeft := @left_mem_equalShares 8 14340 (by norm_num)
  rw [← shares] at isLeft
  obtain ⟨row, inside, same⟩ := List.mem_map.mp isLeft
  intro sound
  have nonneg := (sound row inside).nonneg
  rw [same] at nonneg
  exact absurd nonneg (by decide +kernel)

theorem weightsOf_workingRows_map
    (same : ∀ row, (change row).strategyId = row.strategyId ∧
      (change row).capitalWeight = row.capitalWeight) :
    weightsOf (workingRows (rows.map change)) = weightsOf (workingRows rows) := by
  have canonical : ∀ row, (change row).isCanonical = row.isCanonical := by
    intro row
    unfold StrategyAllocation.isCanonical
    rw [(same row).1]
  have scope : ∀ row, inScope (rows.map change) (change row) = inScope rows row := by
    intro row
    unfold inScope
    rw [canonical, List.any_map]
    congr 3
    funext other
    exact canonical other
  have weight : ∀ row, (change row).capitalWeight = row.capitalWeight := fun row => (same row).2
  unfold weightsOf workingRows
  rw [List.filter_map, List.map_map]
  have filtered : (inScope (rows.map change) ∘ change) = inScope rows := funext scope
  rw [filtered]
  exact List.map_congr_left fun row _ => weight row

end Rows

section Checks

variable {before : Session → Prop}

theorem balanced_of_check {rows : List StrategyAllocation}
    (passed : ¬weightSumTolerance < |(collectSummary rows).weightBalanceDelta|) :
    Balanced rows := by
  have near := not_lt.mp passed
  have decimals : HasDecimals 6 (totalWeight rows - 1) := by
    have minusOne : HasDecimals 6 (-1) := ⟨-10 ^ 6, by norm_num⟩
    rw [sub_eq_add_neg]
    exact (hasDecimals_roundTo 6 _).add minusOne
  have delta : (collectSummary rows).weightBalanceDelta = totalWeight rows - 1 := decimals.rounded
  rw [delta] at near
  have rounded := abs_roundTo_sub_le 6 (weightsOf (workingRows rows)).sum
  obtain ⟨above, below⟩ := abs_le.mp near
  obtain ⟨roundedAbove, roundedBelow⟩ := abs_le.mp rounded
  have isTotal : totalWeight rows = roundTo 6 (weightsOf (workingRows rows)).sum := rfl
  rw [isTotal] at above below
  unfold weightSumTolerance at above below
  unfold Balanced
  rw [abs_le]
  constructor <;> linarith

theorem ensureTable_triple : Triple before ensureTable
    fun _ session => before session ∧ Balanced session.rows := by
  apply triple_get.bind
  intro seen
  apply Triple.bind ensureCapitalLimit_keeps.triple
  intro _
  apply triple_get.bind
  intro again
  apply triple_refuseIf.weaken
  rintro _ session ⟨⟨⟨held, _⟩, isSession⟩, passed⟩
  rw [isSession] at passed
  exact ⟨held, balanced_of_check passed⟩

end Checks

section Steps

variable {count : ℕ} {actorId changeReason : Option String}

abbrev SoundRows (session : Session) : Prop := Sound session.rows

abbrev SoundCount (count : ℕ) (session : Session) : Prop :=
  Sound session.rows ∧ session.rows.length ≤ count

abbrev SoundBalanced (session : Session) : Prop := Sound session.rows ∧ Balanced session.rows

theorem assertNonNegativeNumeric_triple {State : Type} {before : State → Prop}
    {fieldName : String} {field : Field} :
    Triple before (assertNonNegativeNumeric fieldName field)
      fun value state => before state ∧ 0 ≤ value := by
  cases field with
  | number value =>
    apply triple_refuseIf.bind
    intro _
    apply triple_pure
    rintro state ⟨held, nonneg⟩
    exact ⟨held, not_lt.mp nonneg⟩
  | absent | null | notNumeric => exact triple_throw

theorem newAllocation_triple {payload : CreatePayload} :
    Triple SoundRows (newAllocation actorId changeReason payload)
      fun row session => SoundRows session ∧ row.Sound := by
  apply Triple.bind validateNonEmptyStrategyId_keeps.triple
  intro strategyId
  apply triple_get.bind
  intro seen
  apply triple_refuseIf.bind
  intro _
  apply assertNonNegativeNumeric_triple.bind
  intro capitalWeight
  apply triple_refuseIf.bind
  intro _
  apply assertNonNegativeNumeric_triple.bind
  intro maxCapital
  apply assertNonNegativeNumeric_triple.bind
  intro currentCapital
  apply triple_refuseIf.bind
  intro _
  apply triple_pure
  rintro session ⟨⟨⟨⟨⟨⟨⟨sound, _⟩, _⟩, nonneg⟩, leOne⟩, _⟩, _⟩, within⟩
  exact ⟨sound, nonneg, not_lt.mp leOne, not_lt.mp within⟩

theorem assignNumber_triple {first second : StrategyAllocation → Prop} {fieldName : String}
    {field : Field} {write : ℚ → StrategyAllocation → StrategyAllocation}
    (kept : field = .absent → ∀ row, first row → second row)
    (written : field ≠ .absent → ∀ value row, 0 ≤ value → first row → second (write value row)) :
    Triple first (assignNumber fieldName field write) fun _ => second := by
  unfold assignNumber
  split
  · exact kept ‹_›
  · apply assertNonNegativeNumeric_triple.bind
    intro value
    apply triple_modify
    exact fun row held => written ‹_› value row held.2 held.1

def WeightSound (row : StrategyAllocation) : Prop := 0 ≤ row.capitalWeight ∧ row.capitalWeight ≤ 1

/-- The assignments of an update leave a sound row, whatever its capitals were. -/
theorem assignFields_triple {payload : RowPayload} {label : String} :
    Triple WeightSound (assignFields payload label)
      fun _ row => row.Sound := by
  have weighed : Triple WeightSound
      (assignNumber "capital_weight" payload.capitalWeight fun value row =>
        { row with capitalWeight := value })
      fun _ row => 0 ≤ row.capitalWeight ∧
        (payload.capitalWeight = .absent → row.capitalWeight ≤ 1) := by
    apply assignNumber_triple
    · exact fun _ row held => ⟨held.1, fun _ => held.2⟩
    · exact fun given value row nonneg _ => ⟨nonneg, fun absent => absurd absent given⟩
  have capitals : ∀ {fieldName : String} {field : Field}
      {write : ℚ → StrategyAllocation → StrategyAllocation},
      (∀ value row, (write value row).capitalWeight = row.capitalWeight) →
      Triple WeightSound
        (assignNumber fieldName field write)
        fun _ => WeightSound := by
    intro fieldName field write same
    apply assignNumber_triple
    · exact fun _ row held => held
    · intro _ value row _ held
      unfold WeightSound
      rw [same]
      exact held
  have stated : ∀ {change : StrategyAllocation → StrategyAllocation},
      (∀ row, WeightSound row → WeightSound (change row)) →
      Triple WeightSound (modify change : Refusing StrategyAllocation ValueError PUnit)
        fun _ => WeightSound := triple_modify
  apply triple_get.bind
  intro seen
  apply Triple.bind (weighed.strengthen fun held => held.1)
  intro _
  apply triple_get.bind
  intro assigned
  apply triple_refuseIf.bind
  intro _
  refine Triple.strengthen (?_ : Triple WeightSound _ _) ?_
  · refine Triple.bind (capitals ?_) fun _ => Triple.bind (capitals ?_) fun _ =>
      Triple.bind (stated ?_) fun _ => ?_
    · exact fun _ _ => rfl
    · exact fun _ _ => rfl
    · exact fun _ held => held
    apply triple_get.bind
    intro left
    apply triple_get.bind
    intro again
    apply triple_refuseIf.weaken
    rintro _ row ⟨⟨⟨held, isLeft⟩, isAgain⟩, within⟩
    rw [isLeft, isAgain] at within
    exact ⟨held.1, held.2, not_lt.mp within⟩
  · rintro row ⟨⟨⟨nonneg, absentLeOne⟩, isAssigned⟩, passed⟩
    rw [isAssigned] at passed
    refine ⟨nonneg, ?_⟩
    by_cases absent : payload.capitalWeight = .absent
    · exact absentLeOne absent
    · exact not_lt.mp fun above => passed ⟨absent, above⟩

theorem existingRow_triple {before : Session → Prop} {key : String} :
    Triple before (existingRow key) fun row session => before session ∧ row ∈ session.rows := by
  apply triple_get.bind
  intro seen
  split
  · exact triple_throw
  · rename_i row found
    apply triple_pure
    rintro session ⟨held, rfl⟩
    exact ⟨held, List.mem_of_find?_eq_some found⟩

variable {strategyId : String}

theorem getExistingStrategyAllocation_triple {before : Session → Prop} :
    Triple before (getExistingStrategyAllocation strategyId)
      fun row session => before session ∧ row ∈ session.rows :=
  Triple.bind validateNonEmptyStrategyId_keeps.triple fun _ => existingRow_triple

variable {row : StrategyAllocation}

theorem onRow_triple {Result : Type}
    {work : Refusing StrategyAllocation ValueError Result}
    (triple : Triple StrategyAllocation.Sound work fun _ row => row.Sound) :
    Triple (fun session => SoundCount count session ∧ row ∈ session.rows) (onRow row work)
      fun _ => SoundCount count := by
  intro session ⟨⟨sound, size⟩, inside⟩
  unfold onRow
  rw [ends_within]
  apply (triple row (sound row inside)).mono
  · intro result changed ofRow
    exact ⟨sound.replaced ofRow, (List.length_map _).trans_le size⟩
  · exact fun _ => trivial

theorem onRow_assignFields_triple {payload : RowPayload}
    {label : String} :
    Triple (fun session => SoundCount count session ∧ row ∈ session.rows)
      (onRow row (assignFields payload label)) fun _ => SoundCount count :=
  onRow_triple (assignFields_triple.strengthen fun ofRow => ⟨ofRow.nonneg, ofRow.leOne⟩)

theorem updateItems_triple {items : List BulkItem} :
    Triple (SoundCount count) (updateItems items) fun _ => SoundCount count := by
  induction items with
  | nil => exact triple_pure fun _ held => held
  | cons item items ih =>
    apply Triple.bind validateNonEmptyStrategyId_keeps.triple
    intro strategyId
    apply existingRow_triple.bind
    intro row
    apply onRow_assignFields_triple.bind
    intro _
    exact ih.bind fun _ => triple_pure fun _ held => held

theorem reduceAndCheck_triple : Triple SoundRows reduceAndCheck fun _ => SoundBalanced := by
  have reduced : Triple SoundRows (writeRows fun rows => rows.map reducedByDrawdown)
      fun _ => SoundRows :=
    triple_modify fun _ sound => Sound.map sound fun _ _ => reducedByDrawdown_sound
  exact reduced.bind fun _ => ensureTable_triple

theorem applyRevisionMetadata_sound {reason : Option String}
    (sound : row.Sound) : (applyRevisionMetadata row actorId reason).Sound :=
  ⟨sound.nonneg, sound.leOne, sound.within⟩

variable {reason : String}

theorem stampRevisions_triple {strategyIds : List String} :
    Triple SoundBalanced (stampRevisions actorId changeReason strategyIds reason)
      fun _ => SoundBalanced := by
  apply triple_modify
  rintro session ⟨sound, balanced⟩
  constructor
  · apply sound.map
    intro row _ ofRow
    split
    · exact applyRevisionMetadata_sound ofRow
    · exact ofRow
  · unfold Balanced
    rw [weightsOf_workingRows_map]
    · exact balanced
    · intro row
      split <;> exact ⟨rfl, rfl⟩

theorem defaultStartupCapitalWeight_bounds :
    0 ≤ defaultStartupCapitalWeight ∧ defaultStartupCapitalWeight ≤ 1 := by
  unfold defaultStartupCapitalWeight
  constructor <;> norm_num

theorem autoCreated_sound : (autoCreated strategyId).Sound :=
  ⟨defaultStartupCapitalWeight_bounds.1, defaultStartupCapitalWeight_bounds.2,
    (by norm_num : (0 : ℚ) ≤ 10000)⟩

theorem autoSeeded_sound : (autoSeeded strategyId).Sound :=
  ⟨defaultStartupCapitalWeight_bounds.1, defaultStartupCapitalWeight_bounds.2,
    (by norm_num : (0 : ℚ) ≤ 100000)⟩

theorem seed_triple :
    Triple SoundRows (seed strategyId) fun _ => SoundRows := by
  apply triple_get.bind
  intro seen
  split
  · apply triple_modify
    rintro session ⟨sound, _⟩
    exact sound.added autoSeeded_sound
  · rename_i row found
    apply triple_modify
    rintro session ⟨sound, rfl⟩
    have ofRow := sound row (List.mem_of_find?_eq_some found)
    exact sound.replaced ⟨ofRow.nonneg, ofRow.leOne, ofRow.within⟩

theorem normalizeAll_triple (few : count ≤ equalSplitLimit) :
    Triple (SoundCount count) (normalizeAll actorId changeReason reason) fun _ => SoundRows := by
  have normalized : Triple (SoundCount count) (writeRows applyNormalize) fun _ => SoundRows :=
    triple_modify fun _ held => applyNormalize_sound held.1 (held.2.trans few)
  apply normalized.bind
  intro _
  apply triple_modify
  exact fun session sound => sound.map fun _ _ => applyRevisionMetadata_sound

variable {remaining : List StrategyAllocation}

theorem normalizeRemaining_triple {autoNormalized : Bool}
    (few : autoNormalized = true → count ≤ equalSplitLimit) :
    Triple (fun session => SoundCount count session ∧ remaining = session.rows)
      (onlyIf (autoNormalized = true ∧ remaining ≠ []) (normalizeAll actorId changeReason reason))
      fun _ session => SoundRows session ∧ (remaining = [] → session.rows = []) := by
  apply Triple.onlyIf
  · rintro ⟨isAuto, someLeft⟩
    apply Triple.weaken ((normalizeAll_triple (few isAuto)).strengthen And.left)
    exact fun sound => ⟨sound, fun noneLeft => absurd noneLeft someLeft⟩
  · rintro _ session ⟨held, rfl⟩
    exact ⟨held.1, fun noneLeft => noneLeft⟩

theorem checkRemaining_triple :
    Triple (fun session => SoundRows session ∧ (remaining = [] → session.rows = []))
      (onlyIf (remaining ≠ []) ensureTable)
      fun _ session => SoundRows session ∧ (session.rows = [] ∨ Balanced session.rows) := by
  apply Triple.onlyIf
  · intro _
    exact ensureTable_triple.weaken fun held => ⟨held.1.1, .inr held.2⟩
  · intro noneLeft session held
    exact ⟨held.1, .inl (held.2 (not_not.mp noneLeft))⟩

end Steps

section Calls

def Call.checks : Call → Bool
  | .create _ _ _ | .update _ _ _ _ | .toggle _ _ _ _ | .bulk _ _ _ _ | .delete _ _ _ _
  | .normalize _ _ => true
  | _ => false

def Call.commits : Call → Bool
  | .getOrCreate _ => false
  | _ => true

def Call.normalizes : Call → Bool
  | .bulk _ autoNormalized _ _ | .delete _ autoNormalized _ _ => autoNormalized
  | .normalize _ _ => true
  | _ => false

/-- The rows of a session are sound; after a commit they are the committed ones, and after a check
they are balanced or none is left. -/
structure Consistent (call : Call) (session : Session) : Prop where
  sound : Sound session.rows
  committed : call.commits = true → session.committed = session.rows
  balanced : call.checks = true → session.rows = [] ∨ Balanced session.rows

variable {call : Call}

theorem Consistent.of_checked {session : Session}
    (held : SoundBalanced session ∧ session.committed = session.rows) : Consistent call session :=
  ⟨held.1.1, fun _ => held.2, fun _ => .inr held.1.2⟩

theorem commit_consistent :
    Triple SoundBalanced commit fun _ => Consistent call :=
  triple_modify fun _ held => Consistent.of_checked ⟨held, rfl⟩

variable {actorId changeReason : Option String}

theorem reduceStampCommit_consistent {strategyIds : List String} {reason : String}
    : Triple SoundRows (do
      reduceAndCheck
      stampRevisions actorId changeReason strategyIds reason
      commit) fun _ => Consistent call := by
  apply reduceAndCheck_triple.bind
  exact fun _ => stampRevisions_triple.bind fun _ => commit_consistent

theorem recalculateListed_triple {activity : String → Activity}
    {before : List StrategyAllocation} {limit : ℕ} :
    Triple SoundRows (recalculateListed activity before limit) fun _ => SoundRows := by
  apply triple_modify
  intro session sound
  apply sound.map
  intro row _ ofRow
  split
  · exact ⟨ofRow.nonneg, ofRow.leOne, ofRow.within⟩
  · exact ofRow

theorem seeds_triple {strategyIds : List String} :
    Triple SoundRows (strategyIds.forM seed) fun _ => SoundRows := by
  induction strategyIds with
  | nil => exact triple_pure fun _ held => held
  | cons strategyId strategyIds ih =>
    exact Triple.bind seed_triple fun _ => ih

theorem assignedRow_triple {strategyId : String} {payload : RowPayload} :
    Triple (SoundCount count) (assignedRow strategyId payload) fun _ => SoundRows := by
  apply Triple.bind getExistingStrategyAllocation_triple
  intro row
  apply onRow_assignFields_triple.bind
  intro _
  exact triple_pure fun _ held => held.1

theorem toggledRow_triple {strategyId : String} {payload : Confirmation} :
    Triple (SoundCount count) (toggledRow strategyId payload) fun _ => SoundRows := by
  apply Triple.bind getExistingStrategyAllocation_triple
  intro row
  apply triple_refuseIf.bind
  intro _
  have changed : Triple (fun session => SoundCount count session ∧ row ∈ session.rows)
      (onRow row (modify fun row => { row with
        state := if normalizedState (some row.state) "ACTIVE" = "DISABLED" then "ACTIVE"
          else "DISABLED" })) fun _ => SoundCount count :=
    onRow_triple (triple_modify fun _ ofRow => ⟨ofRow.nonneg, ofRow.leOne, ofRow.within⟩)
  apply Triple.bind (changed.strengthen And.left)
  intro _
  exact triple_pure fun _ held => held.1

theorem updatedItems_triple {updates : List BulkItem} {autoNormalized : Bool}
    (few : autoNormalized = true → count ≤ equalSplitLimit) :
    Triple (SoundCount count) (updatedItems updates autoNormalized) fun _ => SoundRows := by
  apply triple_refuseIf.bind
  intro _
  apply Triple.bind (updateItems_triple.strengthen fun held => held.1)
  intro updatedIds
  have written : Triple (SoundCount count)
      (writeRows fun rows => if autoNormalized then applyNormalize rows else rows)
      fun _ => SoundRows := by
    apply triple_modify
    rintro session ⟨sound, size⟩
    cases autoNormalized with
    | true => exact applyNormalize_sound sound (size.trans (few rfl))
    | false => exact sound
  exact written.bind fun _ => triple_pure fun _ held => held

theorem delete_consistent {count : ℕ} {strategyId : String} {autoNormalized : Bool}
    (few : autoNormalized = true → count ≤ equalSplitLimit) :
    Triple (SoundCount count)
      (perform (.delete strategyId autoNormalized actorId changeReason))
      fun _ => Consistent (.delete strategyId autoNormalized actorId changeReason) := by
  apply Triple.map
  apply Triple.bind getExistingStrategyAllocation_triple
  intro row
  apply Triple.orUndo
  have removed : Triple (fun session => SoundCount count session ∧ row ∈ session.rows)
      (writeRows fun rows => rows.filter (·.strategyId ≠ row.strategyId))
      fun _ => SoundCount count := by
    apply triple_modify
    rintro session ⟨⟨sound, size⟩, _⟩
    constructor
    · exact fun other inside => sound other (List.mem_of_mem_filter inside)
    · exact (List.length_filter_le _ _).trans size
  have committed : Triple
      (fun session => SoundRows session ∧ (session.rows = [] ∨ Balanced session.rows)) commit
      fun _ => Consistent (.delete strategyId autoNormalized actorId changeReason) :=
    triple_modify fun _ held => ⟨held.1, fun _ => rfl, fun _ => held.2⟩
  apply removed.bind
  intro _
  apply triple_get.bind
  intro remaining
  apply Triple.bind ((normalizeRemaining_triple few).strengthen fun held =>
    ⟨held.1, congrArg Session.rows held.2⟩)
  intro _
  apply checkRemaining_triple.bind
  intro _
  apply committed.bind
  intro _
  apply triple_get.bind
  intro seen
  exact triple_pure fun _ held => held.1

/-- Every call that succeeds leaves a consistent session. -/
theorem perform_consistent {count : ℕ}
    (few : call.normalizes = true → count ≤ equalSplitLimit) :
    Triple (SoundCount count) (perform call) fun _ => Consistent call := by
  have toSound : ∀ {session : Session}, SoundCount count session → SoundRows session := And.left
  cases call with
  | create payload actorId changeReason =>
    apply Triple.map
    apply Triple.bind (newAllocation_triple.strengthen toSound)
    intro row
    apply Triple.orUndo
    have added : Triple (fun session => SoundRows session ∧ row.Sound) (addRow row)
        fun _ => SoundRows := triple_modify fun _ held => held.1.added held.2
    apply added.bind
    intro _
    exact reduceAndCheck_triple.bind fun _ => commit_consistent
  | update strategyId payload actorId changeReason =>
    apply Triple.map
    apply assignedRow_triple.bind
    intro row
    exact reduceStampCommit_consistent.orUndo
  | toggle strategyId payload actorId changeReason =>
    apply Triple.map
    apply toggledRow_triple.bind
    intro row
    exact reduceStampCommit_consistent.orUndo
  | bulk updates autoNormalized actorId changeReason =>
    apply Triple.map
    apply (updatedItems_triple few).bind
    intro updatedIds
    apply Triple.orUndo
    apply triple_get.bind
    intro before
    apply Triple.bind (reduceAndCheck_triple.strengthen And.left)
    intro _
    apply stampRevisions_triple.bind
    intro _
    apply Triple.bind commit_consistent
    intro _
    apply triple_get.bind
    intro seen
    exact triple_pure fun _ held => held.1
  | delete strategyId autoNormalized actorId changeReason =>
    exact delete_consistent few
  | normalize actorId changeReason =>
    apply Triple.map
    apply Triple.bind ensureRows_keeps.triple
    intro _
    apply Triple.orUndo
    apply (normalizeAll_triple (few rfl)).bind
    intro _
    apply ensureTable_triple.bind
    intro _
    apply Triple.bind commit_consistent
    intro _
    apply triple_get.bind
    intro seen
    exact triple_pure fun session held => held.1
  | getOrCreate strategyId =>
    have unchecked : ∀ {session : Session}, SoundRows session →
        Consistent (.getOrCreate strategyId) session := by
      intro session sound
      exact ⟨sound, nofun, nofun⟩
    apply Triple.map
    apply Triple.bind (validateNonEmptyStrategyId_keeps.triple.strengthen toSound)
    intro key
    apply triple_get.bind
    intro seen
    split
    · exact triple_pure fun _ held => unchecked held.1
    · have added : Triple (fun session => SoundRows session ∧ seen = session)
          (addRow (autoCreated key)) fun _ => Consistent (.getOrCreate strategyId) :=
        triple_modify fun _ held => unchecked (held.1.added autoCreated_sound)
      exact added.bind fun _ => triple_pure fun _ held => held
  | list activity limit =>
    apply Triple.map
    apply triple_get.bind
    intro seen
    apply Triple.bind (seeds_triple.strengthen fun held => toSound held.1)
    intro _
    apply recalculateListed_triple.bind
    intro _
    have committed : Triple SoundRows commit fun _ => Consistent (.list activity limit) :=
      triple_modify fun _ sound => ⟨sound, fun _ => rfl, nofun⟩
    apply committed.bind
    intro _
    apply triple_get.bind
    intro again
    exact triple_pure fun _ held => held.1
  | commit =>
    apply Triple.map
    exact triple_modify fun _ held => ⟨held.1, fun _ => rfl, nofun⟩

end Calls

section Runs

def sessionAfter (session : Session) (calls : List Call) : Session :=
  calls.foldl (fun session call => (outcome session call).2) session

/-- Every call succeeds, and a call that normalizes finds rows that are not too many. -/
def Succeed (session : Session) (calls : List Call) : Prop :=
  ∀ before call after, calls = before ++ call :: after →
    (∃ reply, (outcome (sessionAfter session before) call).1 = .ok reply) ∧
      (call.normalizes = true → (sessionAfter session before).rows.length ≤ equalSplitLimit)

variable {session : Session} {calls : List Call} {call : Call}

@[simp] theorem sessionAfter_concat : sessionAfter session (calls ++ [call]) =
    (outcome (sessionAfter session calls) call).2 := List.foldl_concat _ _ _ _

/-- The payload of a row of so much weight, without capital. -/
def weightOnly (strategyId : String) (capitalWeight : ℚ) : CreatePayload where
  strategyId := strategyId
  capitalWeight := .number capitalWeight
  maxCapital := .absent
  currentCapital := .absent
  confidenceScore := .absent
  performanceScore := .absent
  state := none
  expectedReturn := .absent
  realizedReturn := .absent
  signalDecay := .absent
  executionQualityScore := .absent

theorem outcome_consistent {reply : Reply} (sound : Sound session.rows)
    (few : call.normalizes = true → session.rows.length ≤ equalSplitLimit)
    (succeeded : (outcome session call).1 = .ok reply) :
    Consistent call (outcome session call).2 := by
  have ends := perform_consistent few session ⟨sound, le_rfl⟩
  unfold Ends at ends
  unfold outcome at succeeded ⊢
  cases result : perform call session with
  | ok reply after =>
    rw [result] at ends
    exact ends
  | error refusal after =>
    rw [result] at succeeded
    cases succeeded

/-- Every call of a run that succeeds leaves sound rows. After the commit of a call that checks
the table, the weights in scope are balanced or no row is left. -/
theorem allocations_stay_consistent (session : Session) (sound : Sound session.rows)
    (calls : List Call) (succeed : Succeed session calls) :
    ∀ before call after, calls = before ++ call :: after →
      Consistent call (sessionAfter session (before ++ [call])) := by
  have both : Sound (sessionAfter session calls).rows ∧
      ∀ before call after, calls = before ++ call :: after →
        Consistent call (sessionAfter session (before ++ [call])) := by
    induction calls using List.reverseRecOn with
    | nil =>
      refine ⟨sound, fun before call after same => ?_⟩
      cases before <;> cases same
    | append_singleton calls last ih =>
      unfold Succeed at succeed
      rw [Automata.forall_splits_concat] at succeed ⊢
      obtain ⟨earlier, ⟨reply, succeeded⟩, few⟩ := succeed
      obtain ⟨soundBefore, consistent⟩ := ih earlier
      have ofLast := outcome_consistent soundBefore few succeeded
      rw [← sessionAfter_concat] at ofLast
      exact ⟨ofLast.sound, consistent, ofLast⟩
  exact both.2

def firstRow : List Call :=
  [.create (weightOnly "macd_impulse" 1) none none,
    .update "macd_impulse" ⟨.absent, .number 100, .number 50, none⟩ none none]

theorem allocations_stay_consistent_example :
    (sessionAfter (exampleSession []) firstRow).rows.length = 1 ∧
      ∀ before call after, firstRow = before ++ call :: after →
        Consistent call (sessionAfter (exampleSession []) (before ++ [call])) := by
  refine ⟨by decide +kernel, ?_⟩
  apply allocations_stay_consistent (exampleSession []) (fun row never => by cases never)
  unfold Succeed firstRow
  rw [← List.singleton_append, Automata.forall_splits_concat, ← List.nil_append [_],
    Automata.forall_splits_concat]
  refine ⟨⟨?_, ?_⟩, ?_⟩
  · intro before call after same
    cases before <;> cases same
  · exact ⟨⟨.done, by decide +kernel⟩, nofun⟩
  · exact ⟨⟨.done, by decide +kernel⟩, nofun⟩

/-- The sum of all weights that are committed after some calls that all succeed. -/
def committedSum (session : Session) : List Call → Option ℚ
  | [] => some (weightsOf session.committed).sum
  | call :: calls =>
    match outcome session call with
    | (.ok _, after) => committedSum after calls
    | (.error _, _) => none

/-- A row out of scope comes on top of the sum, so do the rows that a listing seeds, the rounding
lets a little more than the tolerance pass, and the last row may be deleted. -/
theorem committed_weights_unbalanced :
    committedSum (exampleSession []) [.create (weightOnly "macd_impulse" 1) none none,
        .create (weightOnly "own" (1 / 2)) none none] = some (3 / 2) ∧
      committedSum (exampleSession []) [.create (weightOnly "macd_impulse" 1) none none,
        .list (fun _ => ⟨[], []⟩) 12] = some (1 + 11 * defaultStartupCapitalWeight) ∧
      committedSum (exampleSession []) [.create (weightOnly "macd_impulse" 1) none none,
        .create (weightOnly "fisher_reversal" (1004 / 10000000)) none none] =
          some (1 + 1004 / 10000000) ∧
      committedSum (exampleSession []) [.create (weightOnly "macd_impulse" 1) none none,
        .delete "macd_impulse" false none none] = some 0 := by
  decide +kernel

end Runs

end Allocation
