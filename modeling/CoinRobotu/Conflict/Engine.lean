import Mathlib.Algebra.Order.Ring.Rat
import Mathlib.Data.List.Perm.Basic
import CoinRobotu.Runtime.Text

/-!
# Conflicts between the signals of strategies

Two signals in opposite directions are compared by the rules of a policy, one after another, and
the first rule that prefers one of them decides.
-/

namespace Conflict

open Runtime (upper lower orElse)

structure Signal where
  strategyId : Option String
  symbol : Option String
  signalDirection : Option String
  confidenceScore : Option ℚ

structure Stats where
  performanceScore : Option ℚ
  signalDecay : Option ℚ
  state : Option String

/-- The rules that are in force, with their order. -/
structure ConflictRules where
  policyOrder : List String

def defaultPolicyOrder : List String :=
  ["meta_override", "confidence_priority", "performance_priority", "risk_priority"]

/-- `rules.get("policy_order") or [..]`. -/
def ConflictRules.order (rules : ConflictRules) : List String :=
  if rules.policyOrder = [] then defaultPolicyOrder else rules.policyOrder

/-- `STATE_PRIORITY`. -/
def statePriority (state : String) : ℕ :=
  if state = "ACTIVE" then 3 else if state = "THROTTLED" then 2 else if state = "DISABLED" then 1
  else 0

structure Bundle where
  strategyId : String
  confidence : ℚ
  performanceScore : ℚ
  signalDecay : ℚ
  state : String

def Signal.named (signal : Signal) : String := orElse signal.strategyId "unknown_strategy"

section Resolving

variable (strategyStats : String → Option Stats) (rules : ConflictRules)

/-- `_metric_bundle`. -/
def metricBundle (signal : Signal) : Bundle :=
  let stats := (strategyStats signal.named).getD ⟨none, none, none⟩
  { strategyId := signal.named
    confidence := signal.confidenceScore.getD 0
    performanceScore := stats.performanceScore.getD 0
    signalDecay := stats.signalDecay.getD 0
    state := upper (orElse stats.state "ACTIVE") }

inductive Side where
  | focus
  | opposing
  deriving DecidableEq

def Side.other : Side → Side
  | .focus => .opposing
  | .opposing => .focus

def larger {α : Type} [LinearOrder α] (focus opposing : α) : Option Side :=
  if opposing < focus then some .focus else if focus < opposing then some .opposing else none

/-- `_compare_by_rule`; of two risks the smaller one is preferred. -/
def compareByRule (ruleName : String) (a b : Bundle) : Option Side :=
  if ruleName = "meta_override" then larger (statePriority a.state) (statePriority b.state)
  else if ruleName = "confidence_priority" then larger a.confidence b.confidence
  else if ruleName = "performance_priority" then larger a.performanceScore b.performanceScore
  else if ruleName = "risk_priority" then larger b.signalDecay a.signalDecay
  else none

def decision (focusSignal opposingSignal : Signal) : Option (Side × String) :=
  rules.order.findSome? fun ruleName =>
    (compareByRule ruleName (metricBundle strategyStats focusSignal)
      (metricBundle strategyStats opposingSignal)).map (·, ruleName)

structure Resolution where
  winningStrategy : String
  losingStrategy : String
  resolutionReason : String
  winningSignalDirection : Option String
  deriving DecidableEq

/-- `resolve_signal_conflict`. -/
def resolveSignalConflict (focusSignal opposingSignal : Signal) : Resolution :=
  let (side, reason) :=
    (decision strategyStats rules focusSignal opposingSignal).getD
      (.focus, "default_focus_priority")
  let (winning, losing) := match side with
    | .focus => (focusSignal.named, opposingSignal.named)
    | .opposing => (opposingSignal.named, focusSignal.named)
  { winningStrategy := winning
    losingStrategy := losing
    resolutionReason := reason
    winningSignalDirection :=
      if some winning = focusSignal.strategyId then focusSignal.signalDirection
      else opposingSignal.signalDirection }

end Resolving

section Detecting

/-- What `detect_conflicts_for_signal` is asked about. -/
structure Focus where
  strategyId : String
  symbol : String
  signalDirection : String
  confidenceScore : ℚ

def oppositeDirections (signalDirection : String) : List String :=
  if lower signalDirection ∈ ["buy", "long"] then ["sell", "short"] else ["buy", "long"]

def Focus.opposedBy (focus : Focus) (signal : Signal) : Bool :=
  upper (signal.symbol.getD "") = upper focus.symbol ∧
    signal.strategyId.getD "" ≠ focus.strategyId ∧
    lower (signal.signalDirection.getD "") ∈ oppositeDirections focus.signalDirection

def Focus.signal (focus : Focus) : Signal :=
  ⟨some focus.strategyId, some focus.symbol, some focus.signalDirection,
    some focus.confidenceScore⟩

variable (strategyStats : String → Option Stats) (rules : ConflictRules)

/-- `resolved_list`: one resolution for each opposing signal. -/
def resolvedList (activeSignals : List Signal) (focus : Focus) : List Resolution :=
  (activeSignals.filter focus.opposedBy).map
    (resolveSignalConflict strategyStats rules focus.signal)

structure Detection where
  conflictDetected : Bool
  winningStrategy : String
  losingStrategy : Option String
  resolutionReason : String
  conflictCount : ℕ
  details : List Resolution
  deriving DecidableEq

def detectConflictsForSignal (activeSignals : List Signal) (focus : Focus) : Detection :=
  match resolvedList strategyStats rules activeSignals focus with
  | [] =>
    { conflictDetected := false
      winningStrategy := focus.strategyId
      losingStrategy := none
      resolutionReason := "no_conflict"
      conflictCount := 0
      details := [] }
  | first :: resolved =>
    let details := first :: resolved
    let focusWins := details.countP (·.winningStrategy = focus.strategyId)
    let (winningStrategy, losingStrategy, reason) :=
      if details.length ≤ 2 * focusWins then
        (focus.strategyId, first.losingStrategy,
          "focus_strategy_wins_" ++ toString focusWins ++ "_of_" ++ toString details.length)
      else (first.winningStrategy, focus.strategyId, "opposing_strategy_priority")
    { conflictDetected := true
      winningStrategy
      losingStrategy := some losingStrategy
      resolutionReason := reason
      conflictCount := details.length
      details }

end Detecting

/-!
## What the resolution of conflicts does not depend on

A pair of signals has one winner and one loser, and the pair taken the other way round has the same
winner whenever a rule prefers one of them.
-/

section Pairs

variable {strategyStats : String → Option Stats} {rules : ConflictRules} {a b : Signal}

def Distinguished (strategyStats : String → Option Stats) (rules : ConflictRules) (a b : Signal) :
    Prop :=
  ∃ ruleName ∈ rules.order,
    compareByRule ruleName (metricBundle strategyStats a) (metricBundle strategyStats b) ≠ none

theorem larger_swap {α : Type} [LinearOrder α] (first second : α) :
    larger second first = (larger first second).map Side.other := by
  unfold larger
  rcases lt_trichotomy first second with less | rfl | more
  · rw [if_pos less, if_neg less.asymm, if_pos less]
    rfl
  · simp only [lt_irrefl, if_false, Option.map_none]
  · rw [if_neg more.asymm, if_pos more, if_pos more]
    rfl

theorem compareByRule_swap (ruleName : String) (first second : Bundle) :
    compareByRule ruleName second first =
      (compareByRule ruleName first second).map Side.other := by
  unfold compareByRule
  split_ifs
  · exact larger_swap _ _
  · exact larger_swap _ _
  · exact larger_swap _ _
  · exact larger_swap _ _
  · rfl

theorem decision_swap : decision strategyStats rules b a =
    (decision strategyStats rules a b).map fun decided => (decided.1.other, decided.2) := by
  unfold decision
  rw [List.map_findSome?]
  congr 1
  funext ruleName
  rw [compareByRule_swap, Function.comp_apply, Option.map_map, Option.map_map]
  rfl

theorem decision_eq_none_iff :
    decision strategyStats rules a b = none ↔ ¬Distinguished strategyStats rules a b := by
  unfold decision Distinguished
  rw [List.findSome?_eq_none_iff]
  simp only [Option.map_eq_none_iff, ne_eq, not_exists, not_and, not_not]

theorem resolve_names :
    let resolution := resolveSignalConflict strategyStats rules a b
    resolution.winningStrategy = a.named ∧ resolution.losingStrategy = b.named ∨
      resolution.winningStrategy = b.named ∧ resolution.losingStrategy = a.named := by
  unfold resolveSignalConflict
  dsimp only
  cases ((decision strategyStats rules a b).getD (.focus, "default_focus_priority")).1 with
  | focus => exact .inl ⟨rfl, rfl⟩
  | opposing => exact .inr ⟨rfl, rfl⟩

theorem resolve_swap (distinguished : Distinguished strategyStats rules a b) :
    (resolveSignalConflict strategyStats rules b a).winningStrategy =
      (resolveSignalConflict strategyStats rules a b).winningStrategy := by
  cases decided : decision strategyStats rules a b with
  | none => exact absurd distinguished (decision_eq_none_iff.mp decided)
  | some found =>
    obtain ⟨side, ruleName⟩ := found
    unfold resolveSignalConflict
    rw [@decision_swap strategyStats rules a b, decided]
    cases side <;> rfl

theorem resolve_undistinguished (equal : ¬Distinguished strategyStats rules a b) :
    (resolveSignalConflict strategyStats rules a b).winningStrategy = a.named := by
  unfold resolveSignalConflict
  rw [decision_eq_none_iff.mpr equal]
  rfl

end Pairs

section Lists

variable {strategyStats : String → Option Stats} {rules : ConflictRules} {focus : Focus}
  {activeSignals others : List Signal}

def Ahead (resolved : List Resolution) (focus : Focus) : Prop :=
  resolved.length ≤ 2 * resolved.countP (·.winningStrategy = focus.strategyId)

/-- The first resolution goes with the majority: it names an opponent on the other side. -/
def FirstAgrees (resolved : List Resolution) (focus : Focus) : Prop :=
  ∀ first ∈ resolved.head?,
    (Ahead resolved focus → first.losingStrategy ≠ focus.strategyId) ∧
      (¬Ahead resolved focus → first.winningStrategy ≠ focus.strategyId)

/-- All resolutions have the same winner and the same loser. -/
def Uniform (resolved : List Resolution) : Prop :=
  ∀ first ∈ resolved, ∀ second ∈ resolved,
    first.winningStrategy = second.winningStrategy ∧
      first.losingStrategy = second.losingStrategy

theorem detect_cons {first : Resolution} {resolved : List Resolution}
    (isList : resolvedList strategyStats rules activeSignals focus = first :: resolved) :
    let detection := detectConflictsForSignal strategyStats rules activeSignals focus
    detection.conflictDetected = true ∧ detection.conflictCount = resolved.length + 1 ∧
      detection.details = first :: resolved ∧
      (Ahead (first :: resolved) focus ∧ detection.winningStrategy = focus.strategyId ∧
          detection.losingStrategy = some first.losingStrategy ∧
          detection.resolutionReason = "focus_strategy_wins_" ++
            toString ((first :: resolved).countP (·.winningStrategy = focus.strategyId)) ++
              "_of_" ++ toString (resolved.length + 1) ∨
        ¬Ahead (first :: resolved) focus ∧
          detection.winningStrategy = first.winningStrategy ∧
          detection.losingStrategy = some focus.strategyId ∧
          detection.resolutionReason = "opposing_strategy_priority") := by
  unfold detectConflictsForSignal
  rw [isList]
  dsimp only
  refine ⟨rfl, rfl, rfl, ?_⟩
  by_cases ahead : Ahead (first :: resolved) focus
  · left
    unfold Ahead at ahead
    rw [if_pos ahead]
    exact ⟨ahead, rfl, rfl, rfl⟩
  · right
    refine ⟨ahead, ?_⟩
    unfold Ahead at ahead
    rw [if_neg ahead]
    exact ⟨rfl, rfl, rfl⟩

theorem detect_nil (isList : resolvedList strategyStats rules activeSignals focus = []) :
    detectConflictsForSignal strategyStats rules activeSignals focus =
      ⟨false, focus.strategyId, none, "no_conflict", 0, []⟩ := by
  unfold detectConflictsForSignal
  rw [isList]

theorem detect_apart
    (agrees : FirstAgrees (resolvedList strategyStats rules activeSignals focus) focus) :
    let detection := detectConflictsForSignal strategyStats rules activeSignals focus
    detection.losingStrategy ≠ some detection.winningStrategy := by
  intro detection
  cases isList : resolvedList strategyStats rules activeSignals focus with
  | nil =>
    show (detectConflictsForSignal strategyStats rules activeSignals focus).losingStrategy ≠ _
    rw [detect_nil isList]
    exact nofun
  | cons first resolved =>
    rw [isList] at agrees
    obtain ⟨ahead, behind⟩ := agrees first rfl
    obtain ⟨_, _, _, ⟨isAhead, winner, loser, _⟩ | ⟨isBehind, winner, loser, _⟩⟩ :=
      detect_cons isList
    · rw [loser, winner]
      exact fun same => ahead isAhead (Option.some.inj same)
    · rw [loser, winner]
      exact fun same => behind isBehind (Option.some.inj same).symm

section Orders

variable (permuted : activeSignals.Perm others)
include permuted

theorem resolvedList_perm : (resolvedList strategyStats rules activeSignals focus).Perm
    (resolvedList strategyStats rules others focus) :=
  (permuted.filter _).map _

theorem ahead_perm : Ahead (resolvedList strategyStats rules activeSignals focus) focus ↔
    Ahead (resolvedList strategyStats rules others focus) focus := by
  have resolved := @resolvedList_perm strategyStats rules focus _ _ permuted
  unfold Ahead
  rw [resolved.length_eq, resolved.countP_eq]

theorem detect_perm :
    let detection := detectConflictsForSignal strategyStats rules activeSignals focus
    let other := detectConflictsForSignal strategyStats rules others focus
    (detection.conflictDetected = other.conflictDetected ∧
      detection.conflictCount = other.conflictCount ∧
      detection.resolutionReason = other.resolutionReason) ∧
    (Uniform (resolvedList strategyStats rules activeSignals focus) →
      detection.winningStrategy = other.winningStrategy ∧
        detection.losingStrategy = other.losingStrategy) := by
  have resolved := @resolvedList_perm strategyStats rules focus _ _ permuted
  have ahead := @ahead_perm strategyStats rules focus _ _ permuted
  have wins := resolved.countP_eq (·.winningStrategy = focus.strategyId)
  intro detection other
  cases isList : resolvedList strategyStats rules activeSignals focus with
  | nil =>
    rw [isList] at resolved
    have isOther := resolved.nil_eq.symm
    have same : detection = other := (detect_nil isList).trans (detect_nil isOther).symm
    rw [same]
    exact ⟨⟨rfl, rfl, rfl⟩, fun _ => ⟨rfl, rfl⟩⟩
  | cons first rest =>
    cases isOther : resolvedList strategyStats rules others focus with
    | nil =>
      rw [isList, isOther] at resolved
      exact absurd resolved.eq_nil (by simp)
    | cons otherFirst otherRest =>
      rw [isList, isOther] at resolved ahead wins
      have lengths : rest.length = otherRest.length := Nat.succ.inj resolved.length_eq
      have inside : otherFirst ∈ first :: rest := resolved.mem_iff.mpr List.mem_cons_self
      obtain ⟨flag, count, _, verdict⟩ := detect_cons isList
      obtain ⟨otherFlag, otherCount, _, otherVerdict⟩ := detect_cons isOther
      have counts := count.trans ((congrArg (· + 1) lengths).trans otherCount.symm)
      rcases verdict with ⟨isAhead, winner, loser, reason⟩ | ⟨isBehind, winner, loser, reason⟩
      · rcases otherVerdict with ⟨_, otherWinner, otherLoser, otherReason⟩ | ⟨otherBehind, _⟩
        · refine ⟨⟨flag.trans otherFlag.symm, counts, ?_⟩, fun uniform => ?_⟩
          · rw [reason, otherReason, wins, lengths]
          · obtain ⟨_, losers⟩ := uniform first List.mem_cons_self otherFirst inside
            exact ⟨winner.trans otherWinner.symm,
              loser.trans ((congrArg some losers).trans otherLoser.symm)⟩
        · exact absurd (ahead.mp isAhead) otherBehind
      · rcases otherVerdict with ⟨otherAhead, _⟩ | ⟨_, otherWinner, otherLoser, otherReason⟩
        · exact absurd (ahead.mpr otherAhead) isBehind
        · refine ⟨⟨flag.trans otherFlag.symm, counts, ?_⟩, fun uniform => ?_⟩
          · rw [reason, otherReason]
          · obtain ⟨winners, _⟩ := uniform first List.mem_cons_self otherFirst inside
            exact ⟨winner.trans (winners.trans otherWinner.symm), loser.trans otherLoser.symm⟩

end Orders

end Lists

def exampleSignal (strategy direction : String) (confidence : ℚ) : Signal :=
  ⟨some strategy, some "BTCUSDT", some direction, some confidence⟩

def exampleFocus : Focus := ⟨"breakout", "BTCUSDT", "buy", 5 / 10⟩

/-- The example's rules are the default ones, and nothing is known of the strategies. -/
def exampleRules : ConflictRules := ⟨[]⟩

def exampleStats : String → Option Stats := fun _ => none

end Conflict
