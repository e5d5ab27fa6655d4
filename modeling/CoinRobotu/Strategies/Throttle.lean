import Mathlib.Tactic.Linarith
import Mathlib.Tactic.SplitIfs
import CoinRobotu.Keyed.Matching
import CoinRobotu.Runtime.Text

/-!
# The throttle of a strategy

In every cycle each strategy gets a throttle level from its health score, from the decay event that
names it, or, when it has recovered, from its level of the cycle before.
-/

namespace Throttle

open Runtime (orElse upper)

inductive Level where
  | none
  | l1
  | l2
  | l3
  deriving DecidableEq, Repr

namespace Level

/-- The place in `LEVEL_ORDER`. -/
def rank : Level → ℕ
  | none => 0
  | l1 => 1
  | l2 => 2
  | l3 => 3

/-- `_max_level`. -/
def max (level other : Level) : Level := if level.rank < other.rank then other else level

/-- `_step_down`. -/
def stepDown : Level → Level
  | none => none
  | l1 => none
  | l2 => l1
  | l3 => l2

@[simp] theorem rank_max (level other : Level) :
    (level.max other).rank = Max.max level.rank other.rank := by
  cases level <;> cases other <;> rfl

end Level

structure LevelConfig where
  confidenceCap : ℚ
  maxSignalsPerCycle : ℕ
  maxPositionRatio : ℚ

/-- `LEVEL_CONFIG`. -/
def levelConfig : Level → LevelConfig
  | .none => ⟨1, 8, 1⟩
  | .l1 => ⟨86 / 100, 5, 78 / 100⟩
  | .l2 => ⟨74 / 100, 3, 58 / 100⟩
  | .l3 => ⟨62 / 100, 1, 35 / 100⟩

structure HealthRow where
  strategy : Option String
  strategyHealthScore : Option ℚ

structure DecayEvent where
  strategy : String
  severity : Option String

structure ThrottleState where
  strategy : String
  throttleLevel : Level
  confidenceClamp : ℚ
  maxSignalsPerCycle : ℕ
  maxPositionRatio : ℚ
  recoveryCondition : String

/-- `_level_from_health`. -/
def levelFromHealth (score : ℚ) : Level :=
  if score < 28 then .l3 else if score < 45 then .l2 else if score < 62 then .l1 else .none

def DecayEvent.level (event : DecayEvent) : Level :=
  if upper (orElse event.severity "MEDIUM") = "HIGH" then .l3 else .l2

def nextLevel (previous : Level) (score : ℚ) : Option DecayEvent → Level
  | some event => (levelFromHealth score).max event.level
  | none =>
      if 72 ≤ score ∧ previous ≠ .none then previous.stepDown else levelFromHealth score

def HealthRow.name (row : HealthRow) : String := orElse row.strategy "unknown"

def HealthRow.score (row : HealthRow) : ℚ := row.strategyHealthScore.getD 0

structure Cycle where
  healthRows : List HealthRow
  decayEvents : List DecayEvent

def Cycle.event (cycle : Cycle) (strategy : String) : Option DecayEvent :=
  Keyed.latest DecayEvent.strategy cycle.decayEvents strategy

def previousLevel (previous : String → Option ThrottleState) (strategy : String) : Level :=
  ((previous strategy).map ThrottleState.throttleLevel).getD .none

def throttleRow (cycle : Cycle) (previous : String → Option ThrottleState) (row : HealthRow) :
    ThrottleState :=
  let level := nextLevel (previousLevel previous row.name) row.score (cycle.event row.name)
  let config := levelConfig level
  { strategy := row.name
    throttleLevel := level
    confidenceClamp := config.confidenceCap
    maxSignalsPerCycle := config.maxSignalsPerCycle
    maxPositionRatio := config.maxPositionRatio
    recoveryCondition := if level = .none then "n/a" else "health_score>=72_and_no_decay" }

/-- `build_strategy_throttle_state`: the rows, the states by strategy, the number of throttles. -/
def buildStrategyThrottleState (cycle : Cycle) (previous : String → Option ThrottleState) :
    List ThrottleState × (String → Option ThrottleState) × ℕ :=
  let rows := cycle.healthRows.map (throttleRow cycle previous)
  (rows, Keyed.latest ThrottleState.strategy rows, rows.countP (·.throttleLevel ≠ .none))

def afterCycles (start : String → Option ThrottleState) (cycles : List Cycle) :
    String → Option ThrottleState :=
  cycles.foldl (fun previous cycle => (buildStrategyThrottleState cycle previous).2.1) start

section Laws

variable {cycle : Cycle} {previous : String → Option ThrottleState} {strategy : String}

def Cycle.row (cycle : Cycle) (strategy : String) : Option HealthRow :=
  Keyed.latest HealthRow.name cycle.healthRows strategy

theorem next_state : (buildStrategyThrottleState cycle previous).2.1 strategy =
    (cycle.row strategy).map (throttleRow cycle previous) := by
  have mapped : ∀ rows : List HealthRow,
      Keyed.latest ThrottleState.strategy (rows.map (throttleRow cycle previous)) strategy =
        (Keyed.latest HealthRow.name rows strategy).map (throttleRow cycle previous) := by
    intro rows
    induction rows using List.reverseRecOn with
    | nil => rfl
    | append_singleton rows row ih =>
      rw [List.map_append, List.map_singleton, Keyed.latest_concat, Keyed.latest_concat]
      by_cases same : row.name = strategy
      · subst same
        simp [throttleRow]
      · rw [Function.update_of_ne (Ne.symm same), ← ih]
        exact Function.update_of_ne (Ne.symm same) _ _
  exact mapped _

def Recovered (cycle : Cycle) (row : HealthRow) (strategy : String) : Prop :=
  72 ≤ row.score ∧ cycle.event strategy = none

/-- A level is left by one step, with a recovery, and no lower score would have left it further. -/
structure Gradual (before after : Level) (cycle : Cycle) (strategy : String) : Prop where
  recovered : after.rank < before.rank →
    before.rank = after.rank + 1 ∧ ∃ row ∈ cycle.row strategy, Recovered cycle row strategy
  ordered : ∀ row ∈ cycle.row strategy, ∀ lower ≤ row.score,
    (nextLevel before row.score (cycle.event strategy)).rank ≤
      (nextLevel before lower (cycle.event strategy)).rank

/-- The level before the cycle is one that the branches of the code cannot drop: with a recovery at
most the first, without one no more than the score and the event ask for, and no level at all if
the cycle passes over the strategy. -/
def Kept (before : Level) (cycle : Cycle) (strategy : String) : Prop :=
  match cycle.row strategy with
  | none => before = .none
  | some row =>
      if 72 ≤ row.score ∧ cycle.event strategy = none then before.rank ≤ 1
      else before.rank ≤ ((cycle.event strategy).elim (levelFromHealth row.score) fun event =>
        (levelFromHealth row.score).max event.level).rank

theorem levelFromHealth_anti {lower score : ℚ} (le : lower ≤ score) :
    (levelFromHealth score).rank ≤ (levelFromHealth lower).rank := by
  unfold levelFromHealth
  split_ifs <;> simp [Level.rank] <;> linarith

def Cycle.levelAfter (cycle : Cycle) (before : Level) (strategy : String) : Level :=
  (cycle.row strategy).elim .none fun row =>
    nextLevel before row.score (cycle.event strategy)

theorem previousLevel_next :
    previousLevel (buildStrategyThrottleState cycle previous).2.1 strategy =
      cycle.levelAfter (previousLevel previous strategy) strategy := by
  rw [previousLevel, next_state, Cycle.levelAfter]
  cases found : cycle.row strategy with
  | none => rfl
  | some row =>
    have named : row.name = strategy := (Keyed.mem_of_latest found).2
    subst named
    rfl

theorem levelFromHealth_of_recovered {score : ℚ} (recovered : 72 ≤ score) :
    levelFromHealth score = .none := by
  unfold levelFromHealth
  split_ifs <;> first | rfl | linarith

/-- With a recovery a level is left by one step. -/
theorem rank_nextLevel_recovered {before : Level} {score : ℚ} (recovered : 72 ≤ score) :
    (nextLevel before score none).rank = before.rank - 1 := by
  rw [nextLevel, levelFromHealth_of_recovered recovered]
  cases before <;> simp [recovered, Level.rank, Level.stepDown]

theorem nextLevel_unrecovered {before : Level} {score : ℚ} {event : Option DecayEvent}
    (still : ¬(72 ≤ score ∧ event = none)) : nextLevel before score event =
      event.elim (levelFromHealth score) fun event => (levelFromHealth score).max event.level := by
  cases event with
  | none => exact if_neg fun stepped => still ⟨stepped.1, rfl⟩
  | some event => rfl

theorem nextLevel_anti {before : Level} {lower score : ℚ} {event : Option DecayEvent}
    (le : lower ≤ score) (still : ¬(72 ≤ score ∧ event = none)) :
    (nextLevel before score event).rank ≤ (nextLevel before lower event).rank := by
  have below : ¬(72 ≤ lower ∧ event = none) := fun recovered =>
    still ⟨recovered.1.trans le, recovered.2⟩
  have fewer := levelFromHealth_anti le
  rw [nextLevel_unrecovered still, nextLevel_unrecovered below]
  cases event with
  | none => exact fewer
  | some event =>
    simp only [Option.elim, Level.rank_max]
    omega

/-- A cycle is gradual exactly if it starts from a level that the branches keep. -/
theorem gradual_iff_kept {before : Level} :
    Gradual before (cycle.levelAfter before strategy) cycle strategy ↔
      Kept before cycle strategy := by
  unfold Kept Cycle.levelAfter
  cases found : cycle.row strategy with
  | none =>
    constructor
    · intro gradual
      by_contra throttled
      have dropped : Level.none.rank < before.rank := by cases before <;> simp_all [Level.rank]
      obtain ⟨-, row, inside, -⟩ := gradual.recovered dropped
      simp [found] at inside
    · rintro rfl
      exact ⟨fun dropped => absurd dropped (lt_irrefl _), by simp [found]⟩
  | some row =>
    simp only [Option.elim_some]
    split
    case isTrue recovered =>
      rw [recovered.2]
      constructor
      · intro gradual
        have lowered := gradual.ordered row found 71 (by linarith [recovered.1])
        rw [recovered.2, rank_nextLevel_recovered recovered.1] at lowered
        have lifted : nextLevel before 71 none = .none := by
          simp [nextLevel, levelFromHealth]; norm_num
        rw [lifted] at lowered
        change before.rank - 1 ≤ 0 at lowered
        omega
      · intro low
        refine ⟨fun dropped => ⟨?_, row, found, recovered⟩, fun other inside lower _ => ?_⟩
        · rw [rank_nextLevel_recovered recovered.1] at dropped ⊢
          omega
        · rw [found, Option.mem_some_iff] at inside
          subst inside
          rw [recovered.2, rank_nextLevel_recovered recovered.1]
          omega
    case isFalse still =>
      rw [nextLevel_unrecovered still]
      constructor
      · intro gradual
        by_contra dropped
        obtain ⟨-, other, inside, recovered⟩ := gradual.recovered (not_le.mp dropped)
        rw [found, Option.mem_some_iff] at inside
        exact still (inside ▸ recovered)
      · intro kept
        refine ⟨fun dropped => absurd dropped (not_lt.mpr kept), fun other inside lower le => ?_⟩
        rw [found, Option.mem_some_iff] at inside
        subst inside
        exact nextLevel_anti le still

end Laws

end Throttle
