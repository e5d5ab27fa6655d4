import Mathlib.Tactic.GCongr
import Mathlib.Tactic.Linarith
import CoinRobotu.Numeric.Rounding

/-!
# The exposure policy of the readiness check

The global exposure chooses a state, and a breach of a symbol or of a strategy turns a pass into a
failure.
-/

namespace Readiness

open Numeric

inductive PolicyState where
  | pass
  | warn
  | fail
  | unknown
  deriving DecidableEq, Repr

/-- The limits that `load_exposure_policy` returns; one that is not a number is missing. -/
structure ExposureLimits where
  maxTotalExposurePct : Option ℚ
  maxSymbolExposurePct : Option ℚ
  maxStrategyExposurePct : Option ℚ

structure Exposures where
  totalExposure : ℚ
  globalNotional : ℚ
  bySymbol : List (String × ℚ)
  byStrategy : List (String × ℚ)

structure Breaker where
  name : String
  exposurePct : ℚ
  thresholdPct : ℚ

structure PolicyVerdict where
  state : PolicyState
  reasonCode : String
  globalExposurePct : Option ℚ
  globalThresholdPct : Option ℚ
  symbolThresholdPct : Option ℚ
  strategyThresholdPct : Option ℚ
  symbolBreakers : List Breaker
  strategyBreakers : List Breaker
  globalNotional : ℚ

section Evaluation

variable (walletBalance : Option ℚ) (limits : ExposureLimits) (exposures : Exposures)

def equity : Option ℚ := walletBalance.filter (0 < ·)

def ExposureLimits.symbolPct : Option ℚ := limits.maxSymbolExposurePct.or limits.maxTotalExposurePct

def ExposureLimits.strategyPct : Option ℚ :=
  limits.maxStrategyExposurePct.or limits.maxTotalExposurePct

def Exposures.notional : ℚ := max exposures.totalExposure exposures.globalNotional

def breakers (threshold : Option ℚ) (entries : List (String × ℚ)) : List Breaker :=
  match equity walletBalance, threshold with
  | some wallet, some limit =>
      (entries.filter fun entry => limit < entry.2 / wallet * 100).map fun entry =>
        ⟨entry.1, roundTo 6 (entry.2 / wallet * 100), limit⟩
  | _, _ => []

/-- The state and the reason that the global exposure alone gives. -/
def globalState : PolicyState × String :=
  match equity walletBalance, limits.maxTotalExposurePct with
  | none, _ => (.fail, "EXPOSURE_NO_EQUITY")
  | some _, none => (.unknown, "EXPOSURE_LIMIT_MISSING")
  | some wallet, some limit =>
      let pct := exposures.notional / wallet * 100
      if limit < pct then (.fail, "EXPOSURE_LIMIT_BREACH")
      else if limit * (8 / 10) < pct then (.warn, "EXPOSURE_LIMIT_NEAR")
      else (.pass, "PASS")

/-- `if breakers:` with its two conditions. -/
def breached (found : List Breaker) (reason : String) (chosen : PolicyState × String) :
    PolicyState × String :=
  if found = [] then chosen
  else
    (if chosen.1 = .pass then .fail else chosen.1, if chosen.2 = "PASS" then reason else chosen.2)

/-- `evaluate_exposure_policy`, for the limits of the policy. -/
def evaluateExposurePolicy : PolicyVerdict :=
  let symbolBreakers := breakers walletBalance limits.symbolPct exposures.bySymbol
  let strategyBreakers := breakers walletBalance limits.strategyPct exposures.byStrategy
  let (state, reasonCode) := breached strategyBreakers "EXPOSURE_STRATEGY_BREACH"
    (breached symbolBreakers "EXPOSURE_SYMBOL_BREACH" (globalState walletBalance limits exposures))
  { state
    reasonCode
    globalExposurePct := (equity walletBalance).map fun wallet =>
      roundTo 6 (exposures.notional / wallet * 100)
    globalThresholdPct := limits.maxTotalExposurePct
    symbolThresholdPct := limits.symbolPct
    strategyThresholdPct := limits.strategyPct
    symbolBreakers
    strategyBreakers
    globalNotional := roundTo 6 exposures.notional }

def AnyAbove (threshold : Option ℚ) (entries : List (String × ℚ)) : Prop :=
  ∃ wallet ∈ equity walletBalance, ∃ limit ∈ threshold, ∃ entry ∈ entries,
    limit < entry.2 / wallet * 100

def PartAbove : Prop :=
  AnyAbove walletBalance limits.symbolPct exposures.bySymbol ∨
    AnyAbove walletBalance limits.strategyPct exposures.byStrategy

def GlobalAbove : Prop :=
  ∃ wallet ∈ equity walletBalance, ∃ limit ∈ limits.maxTotalExposurePct,
    limit < exposures.notional / wallet * 100

/-- The global exposure is near its limit, or that limit is missing. -/
def GlobalUndecided : Prop :=
  ∃ wallet ∈ equity walletBalance, ∀ limit ∈ limits.maxTotalExposurePct,
    limit * (8 / 10) < exposures.notional / wallet * 100 ∧
      exposures.notional / wallet * 100 ≤ limit

end Evaluation

/-- Some exposures of one are raised in the other, and none is lowered. -/
structure Exposures.Raised (exposures raised : Exposures) : Prop where
  total : exposures.totalExposure ≤ raised.totalExposure
  global : exposures.globalNotional ≤ raised.globalNotional
  symbols : ∀ entry ∈ exposures.bySymbol, ∃ more ∈ raised.bySymbol,
    more.1 = entry.1 ∧ entry.2 ≤ more.2
  strategies : ∀ entry ∈ exposures.byStrategy, ∃ more ∈ raised.byStrategy,
    more.1 = entry.1 ∧ entry.2 ≤ more.2

section Laws

variable {walletBalance : Option ℚ} {limits : ExposureLimits} {exposures raised : Exposures}

theorem breakers_ne_nil (walletBalance threshold : Option ℚ) (entries : List (String × ℚ)) :
    breakers walletBalance threshold entries ≠ [] ↔ AnyAbove walletBalance threshold entries := by
  unfold breakers AnyAbove
  cases equity walletBalance <;> cases threshold <;> simp

theorem state_eq : (evaluateExposurePolicy walletBalance limits exposures).state =
    open Classical in
    if PartAbove walletBalance limits exposures ∧
        (globalState walletBalance limits exposures).1 = .pass then .fail
    else (globalState walletBalance limits exposures).1 := by
  have symbols := breakers_ne_nil walletBalance limits.symbolPct exposures.bySymbol
  have strategies := breakers_ne_nil walletBalance limits.strategyPct exposures.byStrategy
  simp only [evaluateExposurePolicy, breached, PartAbove, ← symbols, ← strategies]
  split_ifs <;> simp_all

theorem global_fail_iff : (globalState walletBalance limits exposures).1 = .fail ↔
    equity walletBalance = none ∨ GlobalAbove walletBalance limits exposures := by
  unfold globalState GlobalAbove
  cases equity walletBalance <;> cases limits.maxTotalExposurePct <;> simp
  split_ifs <;> simp_all

theorem global_undecided_iff :
    (globalState walletBalance limits exposures).1 = .warn ∨
        (globalState walletBalance limits exposures).1 = .unknown ↔
      GlobalUndecided walletBalance limits exposures := by
  unfold globalState GlobalUndecided
  cases equity walletBalance <;> cases limits.maxTotalExposurePct <;> simp
  split_ifs <;> simp_all

theorem equity_pos {wallet : ℚ} (found : equity walletBalance = some wallet) : 0 < wallet := by
  simpa using (Option.filter_eq_some_iff.mp found).2

theorem AnyAbove.mono {threshold : Option ℚ} {entries more : List (String × ℚ)}
    (above : AnyAbove walletBalance threshold entries)
    (raised : ∀ entry ∈ entries, ∃ other ∈ more, other.1 = entry.1 ∧ entry.2 ≤ other.2) :
    AnyAbove walletBalance threshold more := by
  obtain ⟨wallet, found, limit, given, entry, inside, above⟩ := above
  obtain ⟨other, present, -, le⟩ := raised entry inside
  have positive := equity_pos found
  refine ⟨wallet, found, limit, given, other, present, above.trans_le ?_⟩
  gcongr

theorem Exposures.Raised.notional_le (raises : exposures.Raised raised) :
    exposures.notional ≤ raised.notional := max_le_max raises.total raises.global

theorem GlobalAbove.mono (raises : exposures.Raised raised)
    (above : GlobalAbove walletBalance limits exposures) :
    GlobalAbove walletBalance limits raised := by
  obtain ⟨wallet, found, limit, given, above⟩ := above
  have positive := equity_pos found
  have le := raises.notional_le
  refine ⟨wallet, found, limit, given, above.trans_le ?_⟩
  gcongr

theorem global_pass_of_raised (raises : exposures.Raised raised)
    (passes : (globalState walletBalance limits raised).1 = .pass) :
    (globalState walletBalance limits exposures).1 = .pass := by
  have le := raises.notional_le
  unfold globalState at passes ⊢
  cases found : equity walletBalance with
  | none => simp [found] at passes
  | some wallet =>
    cases limited : limits.maxTotalExposurePct with
    | none => simp [found, limited] at passes
    | some limit =>
      have pct : exposures.notional / wallet * 100 ≤ raised.notional / wallet * 100 := by
        have positive := equity_pos found
        gcongr
      simp only [found, limited] at passes ⊢
      split_ifs at passes ⊢ <;> first | rfl | linarith

/-- No breach is hidden and no state is improved by more exposure, exactly if no part is above its
limit while the global exposure is undecided. -/
theorem exposure_policy_severe_iff (walletBalance : Option ℚ) (limits : ExposureLimits)
    (raised : Exposures) :
    ((PartAbove walletBalance limits raised ∨ GlobalAbove walletBalance limits raised →
        (evaluateExposurePolicy walletBalance limits raised).state = .fail) ∧
      ∀ exposures : Exposures, exposures.Raised raised →
        ((evaluateExposurePolicy walletBalance limits exposures).state = .fail →
          (evaluateExposurePolicy walletBalance limits raised).state ∉
            [PolicyState.warn, .pass]) ∧
        ((evaluateExposurePolicy walletBalance limits exposures).state = .warn →
          (evaluateExposurePolicy walletBalance limits raised).state ≠ .pass)) ↔
      ¬(GlobalUndecided walletBalance limits raised ∧ PartAbove walletBalance limits raised) := by
  constructor
  · rintro ⟨fails, -⟩ ⟨undecided, above⟩
    have failed := fails (.inl above)
    rw [state_eq] at failed
    rcases global_undecided_iff.mpr undecided with chosen | chosen <;> simp [chosen] at failed
  · intro shown
    have fails : PartAbove walletBalance limits raised ∨ GlobalAbove walletBalance limits raised →
        (evaluateExposurePolicy walletBalance limits raised).state = .fail := by
      rintro (part | above)
      · rw [state_eq]
        cases chosen : (globalState walletBalance limits raised).1 with
        | pass => simp [part]
        | fail => simp
        | warn => exact absurd ⟨global_undecided_iff.mp (.inl chosen), part⟩ shown
        | unknown => exact absurd ⟨global_undecided_iff.mp (.inr chosen), part⟩ shown
      · simp [state_eq, global_fail_iff.mpr (.inr above)]
    refine ⟨fails, fun exposures raises => ⟨fun failed => ?_, fun warned passed => ?_⟩⟩
    · have still : (evaluateExposurePolicy walletBalance limits raised).state = .fail := by
        rw [state_eq] at failed
        split_ifs at failed with hidden
        · exact fails (.inl (hidden.1.imp (AnyAbove.mono · raises.symbols)
          (AnyAbove.mono · raises.strategies)))
        · rcases global_fail_iff.mp failed with broke | above
          · simp [state_eq, global_fail_iff.mpr (.inl broke)]
          · exact fails (.inr (GlobalAbove.mono raises above))
      simp [still]
    · have global_warns : (globalState walletBalance limits exposures).1 = .warn := by
        rw [state_eq] at warned
        split_ifs at warned
        exact warned
      have global_passes : (globalState walletBalance limits raised).1 = .pass := by
        rw [state_eq] at passed
        split_ifs at passed
        exact passed
      have less := global_pass_of_raised raises global_passes
      rw [global_warns] at less
      cases less

/-- A symbol above its limit is only a warning near the global limit, and fails below it. -/
theorem near_limit_hides_breach :
    let limits : ExposureLimits := ⟨some 100, some 50, none⟩
    (evaluateExposurePolicy (some 100) limits ⟨70, 0, [("BTCUSDT", 60)], []⟩).state = .fail ∧
      (evaluateExposurePolicy (some 100) limits ⟨90, 0, [("BTCUSDT", 60)], []⟩).state = .warn := by
  decide +kernel

end Laws

end Readiness
