import CoinRobotu.Paper.Positions

/-!
# The state path of a paper order

The path of an order follows from its execution policy and its context.
-/

namespace Paper

open Numeric

inductive OrderState where
  | created
  | submitted
  | acknowledged
  | partiallyFilled
  | timeout
  | retrySubmitted (number : ℕ)
  | fallbackSubmitted
  | filled
  | cancelRequested
  | cancelled
  | failed
  | rejected
  deriving DecidableEq

/-- The keys of `execution_policy` that the path reads; a missing one has a default. -/
structure ExecutionPolicy where
  orderPreference : Option String
  fallbackBehavior : Option String
  partialFillTolerancePct : Option ℚ
  timeoutSeconds : Option ℤ
  style : Option String
  executionStyle : Option String
  retryLimit : Option ℤ

structure ExecutionContext where
  spreadBps : Option ℚ
  latencyMs : Option ℚ
  forcedOutcome : Option String
  partialFillRatio : Option ℚ

structure StatePath where
  path : List OrderState
  retryBudgetUsed : ℕ
  partialFillRatio : ℚ
  deriving DecidableEq

/-- `path.append(f"retry_{retry_index + 1}_submitted")` for each retry. -/
def retryStates (count : ℕ) : List OrderState :=
  (List.range count).map fun index => .retrySubmitted (index + 1)

section Paths

variable (policy : ExecutionPolicy) (context : ExecutionContext)

def ExecutionPolicy.retries : ℤ := policy.retryLimit.getD 1

def ExecutionPolicy.fallback : String := policy.fallbackBehavior.getD "market_fallback"

def ExecutionPolicy.marketFallback : Bool :=
  policy.fallback ∈ ["market_fallback", "limit_retry_then_market"]

/-- The states after a timeout: the retries, then a fallback or a cancellation. -/
def timedOut (states : List OrderState) (ratio : ℚ) : StatePath :=
  let retried := states ++ [.timeout] ++ retryStates policy.retries.toNat
  let ending := if policy.marketFallback ∧ 0 < policy.retries then
    [OrderState.fallbackSubmitted, .filled] else [.cancelRequested, .cancelled, .failed]
  ⟨retried ++ ending, policy.retries.toNat, ratio⟩

/-- The states after the market has been met or the order has been partly filled. -/
def settled (states : List OrderState) (ratio : ℚ) : StatePath :=
  if policy.timeoutSeconds.getD 8 ≤ 3 then timedOut policy states ratio
  else if policy.fallback = "cancel_no_fill" then
    ⟨states ++ [.cancelRequested, .cancelled, .failed], 0, ratio⟩
  else if policy.marketFallback then
    let count := (min policy.retries 1).toNat
    ⟨states ++ retryStates count ++ [.fallbackSubmitted, .filled], count, ratio⟩
  else ⟨states ++ [.filled], 0, ratio⟩

/-- `_build_state_path`; the ratio is rounded where it is returned. -/
def buildStatePath : StatePath :=
  let started : List OrderState := [.created, .submitted, .acknowledged]
  if context.forcedOutcome = some "rejected" then ⟨started ++ [.rejected], 0, 0⟩
  else if context.forcedOutcome = some "failed" then ⟨started ++ [.failed], 0, 0⟩
  else if context.forcedOutcome = some "timeout" then timedOut policy started 0
  else if context.forcedOutcome = some "partial" then
    let count := (min policy.retries 2).toNat
    ⟨started ++ [.partiallyFilled] ++ retryStates count ++ [.fallbackSubmitted, .filled], count,
      roundTo 2 (context.partialFillRatio.getD (45 / 100))⟩
  else if policy.style.getD (policy.executionStyle.getD "balanced") = "aggressive" ∧
      70 < context.spreadBps.getD 0 then ⟨started ++ [.rejected], 0, 0⟩
  else if 1200 < context.latencyMs.getD 0 then timedOut policy started 0
  else if policy.orderPreference.getD "limit_first" = "market_first" then
    ⟨started ++ [.filled], 0, 0⟩
  else if policy.partialFillTolerancePct.getD 50 < 95 then
    settled policy (started ++ [.partiallyFilled]) (6 / 10)
  else settled policy started 0

/-- The columns of a transition that come from the path. -/
structure StateTransition where
  fromState : Option OrderState
  toState : OrderState
  sequence : ℕ
  latencyMs : ℚ
  deriving DecidableEq

def transitions (path : List OrderState) : List StateTransition :=
  path.zipIdx.map fun (state, index) =>
    ⟨if index = 0 then none else path[index - 1]?, state, index, (index + 1) * 120⟩

/-- The answer of `open_paper_position`, and the transitions that it writes. -/
structure PaperOrder where
  position : Option PaperPosition
  finalState : Option OrderState
  statePath : StatePath
  transitions : List StateTransition

/-- `open_paper_position`, for the position as it was asked for. -/
def openPaperPosition (asked : PaperPosition) : PaperOrder :=
  let stateMachine := buildStatePath policy context
  let finalState := stateMachine.path.getLast?
  { position := if finalState ∈ [some .cancelled, some .failed, some .rejected] then none
      else some { asked with status := "open", unrealizedPnl := 0, realizedPnl := 0 }
    finalState
    statePath := stateMachine
    transitions := transitions stateMachine.path }

end Paths

def OrderState.isRetry : OrderState → Bool
  | .retrySubmitted _ => true
  | _ => false

def OrderState.IsTerminal (state : OrderState) : Prop :=
  state ∈ [OrderState.filled, .cancelled, .failed, .rejected]

def StatePath.filledQuantity (path : StatePath) (quantity : ℚ) : ℚ :=
  if path.path.getLast? = some .filled then quantity
  else if .partiallyFilled ∈ path.path then path.partialFillRatio * quantity else 0

/-- Retries within the limit, a terminal end, and a position of the filled quantity. -/
structure PaperOrder.Agrees (order : PaperOrder) (retryLimit : ℤ) (quantity : ℚ) : Prop where
  retries : (order.statePath.path.countP OrderState.isRetry : ℤ) ≤ retryLimit
  ends : ∃ state, order.statePath.path.getLast? = some state ∧ state.IsTerminal
  opened : ∀ position, order.position = some position →
    position.quantity = order.statePath.filledQuantity quantity
  none_filled : order.position = none → order.statePath.filledQuantity quantity = 0

/-- The order is partly filled and then cancelled. -/
def LosesPartialFill (policy : ExecutionPolicy) (context : ExecutionContext) : Prop :=
  context.forcedOutcome ∉ [some "rejected", some "failed", some "timeout", some "partial"] ∧
    ¬(policy.style.getD (policy.executionStyle.getD "balanced") = "aggressive" ∧
      70 < context.spreadBps.getD 0) ∧
    context.latencyMs.getD 0 ≤ 1200 ∧
    policy.orderPreference.getD "limit_first" ≠ "market_first" ∧
    policy.partialFillTolerancePct.getD 50 < 95 ∧
    if policy.timeoutSeconds.getD 8 ≤ 3 then ¬(policy.marketFallback ∧ 0 < policy.retries)
    else policy.fallback = "cancel_no_fill"

section Laws

variable {policy : ExecutionPolicy} {context : ExecutionContext} {states : List OrderState}
  {ratio : ℚ}

@[simp] theorem countP_retryStates (count : ℕ) :
    (retryStates count).countP OrderState.isRetry = count := by
  simp [retryStates, List.countP_map, Function.comp_def, OrderState.isRetry]

@[simp] theorem partiallyFilled_notMem_retryStates (count : ℕ) :
    .partiallyFilled ∉ retryStates count := by
  simp [retryStates]

/-- How a path ends: filled or not, after so many retries, and whether a partial fill is lost. -/
structure Ends (policy : ExecutionPolicy) (misses : Prop) (path : StatePath) : Prop where
  retries : path.path.countP OrderState.isRetry ≤ policy.retries.toNat
  last : path.path.getLast? ∈ [some .filled, some .failed, some .rejected]
  lost : path.path.getLast? ≠ some .filled ∧ .partiallyFilled ∈ path.path ↔ misses
  ratio : misses → path.partialFillRatio = 6 / 10

theorem timedOut_ends (plain : states.countP OrderState.isRetry = 0)
    (partly : .partiallyFilled ∈ states → ratio = 6 / 10) :
    Ends policy (.partiallyFilled ∈ states ∧ ¬(policy.marketFallback ∧ 0 < policy.retries))
      (timedOut policy states ratio) := by
  unfold timedOut
  by_cases falls : policy.marketFallback = true ∧ 0 < policy.retries
  · exact ⟨by simp [plain, falls, OrderState.isRetry], by simp [falls, List.getLast?_cons],
      by simp [falls, List.getLast?_cons], fun lost => partly lost.1⟩
  · exact ⟨by simp [plain, falls, OrderState.isRetry], by simp [falls, List.getLast?_cons],
      by simp [falls, List.getLast?_cons], fun lost => partly lost.1⟩

theorem settled_ends (plain : states.countP OrderState.isRetry = 0)
    (partly : .partiallyFilled ∈ states → ratio = 6 / 10) :
    Ends policy (.partiallyFilled ∈ states ∧
        if policy.timeoutSeconds.getD 8 ≤ 3 then ¬(policy.marketFallback ∧ 0 < policy.retries)
        else policy.fallback = "cancel_no_fill")
      (settled policy states ratio) := by
  unfold settled
  split
  · exact timedOut_ends plain partly
  split
  case isTrue cancels =>
    exact ⟨by simp [plain, OrderState.isRetry], by simp, by simp [cancels],
      fun lost => partly lost.1⟩
  case isFalse continues =>
    have within : (min policy.retries 1).toNat ≤ policy.retries.toNat := by omega
    split
    · exact ⟨by simp [plain, OrderState.isRetry, within], by simp, by simp [continues],
        fun lost => partly lost.1⟩
    · exact ⟨by simp [plain, OrderState.isRetry], by simp, by simp [continues],
        fun lost => partly lost.1⟩

theorem buildStatePath_ends :
    Ends policy (LosesPartialFill policy context) (buildStatePath policy context) := by
  have refused : ∀ {last : OrderState}, last ∈ [OrderState.rejected, .failed, .filled] →
      ¬LosesPartialFill policy context →
      Ends policy (LosesPartialFill policy context)
        ⟨[.created, .submitted, .acknowledged] ++ [last], 0, 0⟩ := by
    intro last among keeps
    simp only [List.mem_cons, List.not_mem_nil, or_false] at among
    rcases among with rfl | rfl | rfl <;>
      exact ⟨by simp [OrderState.isRetry], by simp, by simp [keeps], fun lost => absurd lost keeps⟩
  have waited : ¬LosesPartialFill policy context → Ends policy (LosesPartialFill policy context)
      (timedOut policy [.created, .submitted, .acknowledged] 0) := fun keeps => by
    have ends := @timedOut_ends policy [.created, .submitted, .acknowledged] 0 rfl (by simp)
    simpa [keeps] using ends
  unfold buildStatePath
  by_cases rejected : context.forcedOutcome = some "rejected"
  · rw [if_pos rejected]
    exact refused (by simp) (by simp [LosesPartialFill, rejected])
  rw [if_neg rejected]
  by_cases failed : context.forcedOutcome = some "failed"
  · rw [if_pos failed]
    exact refused (by simp) (by simp [LosesPartialFill, failed])
  rw [if_neg failed]
  by_cases timeout : context.forcedOutcome = some "timeout"
  · rw [if_pos timeout]
    exact waited (by simp [LosesPartialFill, timeout])
  rw [if_neg timeout]
  by_cases partly : context.forcedOutcome = some "partial"
  · rw [if_pos partly]
    have keeps : ¬LosesPartialFill policy context := by simp [LosesPartialFill, partly]
    exact ⟨by simp [OrderState.isRetry], by simp [List.getLast?_cons],
      by simp [keeps, List.getLast?_cons], fun lost => absurd lost keeps⟩
  rw [if_neg partly]
  by_cases wide : policy.style.getD (policy.executionStyle.getD "balanced") = "aggressive" ∧
      70 < context.spreadBps.getD 0
  · rw [if_pos wide]
    exact refused (by simp) fun lost => lost.2.1 wide
  rw [if_neg wide]
  by_cases slow : 1200 < context.latencyMs.getD 0
  · rw [if_pos slow]
    exact waited fun lost => absurd slow (not_lt.mpr lost.2.2.1)
  rw [if_neg slow]
  by_cases market : policy.orderPreference.getD "limit_first" = "market_first"
  · rw [if_pos market]
    exact refused (by simp) fun lost => lost.2.2.2.1 market
  rw [if_neg market]
  have loses_iff : LosesPartialFill policy context ↔
      policy.partialFillTolerancePct.getD 50 < 95 ∧
        if policy.timeoutSeconds.getD 8 ≤ 3 then ¬(policy.marketFallback ∧ 0 < policy.retries)
        else policy.fallback = "cancel_no_fill" := by
    simp [LosesPartialFill, rejected, failed, timeout, partly, wide, not_lt.mp slow, market]
  rw [loses_iff]
  by_cases tolerant : policy.partialFillTolerancePct.getD 50 < 95
  · rw [if_pos tolerant]
    have ends := @settled_ends policy
      [.created, .submitted, .acknowledged, .partiallyFilled] (6 / 10) rfl (by simp)
    simpa [tolerant] using ends
  · rw [if_neg tolerant]
    have ends := @settled_ends policy [.created, .submitted, .acknowledged] 0 rfl (by simp)
    simpa [tolerant] using ends

/-- The order agrees with its path exactly if the retry limit is not negative and no partial fill
is lost. -/
theorem paper_order_agrees_iff (policy : ExecutionPolicy) (context : ExecutionContext)
    (asked : PaperPosition) :
    (openPaperPosition policy context asked).Agrees policy.retries asked.quantity ↔
      0 ≤ policy.retries ∧ (LosesPartialFill policy context → asked.quantity = 0) := by
  have ends : Ends policy (LosesPartialFill policy context) (buildStatePath policy context) :=
    buildStatePath_ends
  generalize path_eq : buildStatePath policy context = path at ends
  have refused_iff : (openPaperPosition policy context asked).position = none ↔
      path.path.getLast? ≠ some .filled := by
    have last := ends.last
    simp only [openPaperPosition, path_eq]
    revert last
    generalize path.path.getLast? = state
    intro last
    simp only [List.mem_cons, List.not_mem_nil, or_false] at last
    rcases last with rfl | rfl | rfl <;> simp
  have opened : ∀ position, (openPaperPosition policy context asked).position = some position →
      position.quantity = asked.quantity := by
    intro position given
    simp only [openPaperPosition] at given
    split at given
    · cases given
    · cases given
      rfl
  have same : (openPaperPosition policy context asked).statePath = path := path_eq
  have count := ends.retries
  constructor
  · intro agrees
    have limited := agrees.retries
    rw [same] at limited
    refine ⟨by omega, fun lost => ?_⟩
    have nothing := agrees.none_filled (refused_iff.mpr (ends.lost.mpr lost).1)
    rw [same, StatePath.filledQuantity, if_neg (ends.lost.mpr lost).1,
      if_pos (ends.lost.mpr lost).2, ends.ratio lost] at nothing
    linarith
  · rintro ⟨nonneg, keeps⟩
    refine ⟨same ▸ by omega, same ▸ ?_, fun position given => ?_, fun none => ?_⟩
    · have last := ends.last
      simp only [List.mem_cons, List.not_mem_nil, or_false] at last
      rcases last with last | last | last <;> exact ⟨_, last, by simp [OrderState.IsTerminal]⟩
    · rw [opened position given, same, StatePath.filledQuantity, if_pos]
      by_contra unfilled
      rw [refused_iff.mpr unfilled] at given
      cases given
    · have unfilled := refused_iff.mp none
      rw [same, StatePath.filledQuantity, if_neg unfilled]
      split
      case isTrue partly => rw [keeps (ends.lost.mp ⟨unfilled, partly⟩), mul_zero]
      case isFalse => rfl

/-- With the default policy, but for a fallback that cancels, an order is filled to six tenths
and opens no position. -/
theorem partial_fill_opens_no_position :
    let order := openPaperPosition ⟨none, some "cancel_no_fill", none, none, none, none, none⟩
      ⟨none, none, none, none⟩ ⟨"position-1", "user-1", "BTCUSDT", "spot", "long", 10, 1, 100, 90,
        120, "open", 0, 0⟩
    order.statePath = ⟨[.created, .submitted, .acknowledged, .partiallyFilled, .cancelRequested,
        .cancelled, .failed], 0, 6 / 10⟩ ∧
      order.position = none ∧ order.statePath.filledQuantity 10 = 6 := by
  decide +kernel

end Laws

end Paper
