import CoinRobotu.Policy.SafeMode

/-!
# When safe mode does not loosen a limit

A state that is active in addition lowers the multiplier and the caps, in whatever place it stands.
Lower values are not stricter limits where a limit that is not positive is none: a negative
multiplier, and a cap that is not positive, switch a limit off. And a cap takes the place of a rule
that is absent or zero, which the check reads as its default, or, for the leverage, as zero.
-/

namespace Policy

open Numeric

/-- The second override asks for no more than the first one. -/
structure SafeModeOverride.Lowers (first second : SafeModeOverride) : Prop where
  multiplier : second.riskMultiplier ≤ first.riskMultiplier
  first_ne : first.riskMultiplier ≠ 0
  second_ne : second.riskMultiplier ≠ 0
  orderCap : ∀ cap ∈ first.maxOrderCap, ∃ lower ∈ second.maxOrderCap, lower ≤ cap
  leverageCap : ∀ cap ∈ first.leverageCap, ∃ lower ∈ second.leverageCap, lower ≤ cap

theorem and_right_comm (override : SafeModeOverride) (first second : ExecutionSafeModeState) :
    (override.and first).and second = (override.and second).and first := by
  simp only [SafeModeOverride.and, SafeModeOverride.mk.injEq]
  exact ⟨min_right_comm _ _ _, lowerCap_right_comm _ _ _, lowerCap_right_comm _ _ _,
    Bool.or_right_comm _ _ _, Bool.or_right_comm _ _ _⟩

instance : RightCommutative SafeModeOverride.and := ⟨and_right_comm⟩

theorem overrideOf_insert (before after : List ExecutionSafeModeState)
    (state : ExecutionSafeModeState) :
    overrideOf (before ++ state :: after) = (overrideOf (before ++ after)).and state := by
  have moved : (before ++ state :: after).Perm ((before ++ after) ++ [state]) :=
    List.perm_middle.trans (List.perm_append_singleton _ _).symm
  rw [overrideOf, moved.foldl_eq, List.foldl_append]
  rfl

theorem orNumber_one_ne (value : Option ℚ) : orNumber value 1 ≠ 0 := by
  unfold orNumber
  split
  · exact one_ne_zero
  · assumption

theorem and_multiplier_ne {override : SafeModeOverride} {state : ExecutionSafeModeState}
    (nonzero : override.riskMultiplier ≠ 0) : (override.and state).riskMultiplier ≠ 0 := by
  rcases min_choice override.riskMultiplier
    (orNumber state.overridePayload.riskMultiplier 1) with same | same
  · exact fun isZero => nonzero (same.symm.trans isZero)
  · exact fun isZero => orNumber_one_ne _ (same.symm.trans isZero)

theorem overrideOf_multiplier_ne (states : List ExecutionSafeModeState) :
    (overrideOf states).riskMultiplier ≠ 0 := by
  induction states using List.reverseRecOn with
  | nil => exact one_ne_zero
  | append_singleton states state ih =>
    rw [overrideOf, List.foldl_append]
    exact and_multiplier_ne ih

theorem and_lowers {override : SafeModeOverride} (state : ExecutionSafeModeState)
    (nonzero : override.riskMultiplier ≠ 0) : override.Lowers (override.and state) :=
  ⟨min_le_left _ _, nonzero, and_multiplier_ne nonzero, fun _ => exists_lowerCap,
    fun _ => exists_lowerCap⟩

theorem overrideOf_lowers (states : List ExecutionSafeModeState) :
    SafeModeOverride.neutral.Lowers (overrideOf states) := by
  have nonzero := overrideOf_multiplier_ne states
  refine ⟨?_, one_ne_zero, nonzero, nofun,
    nofun⟩
  clear nonzero
  induction states using List.reverseRecOn with
  | nil => exact le_rfl
  | append_singleton states state ih =>
    rw [overrideOf, List.foldl_append]
    exact (min_le_left _ _).trans ih

section Rules

def ruleNumber (rules : Numbers) (key : String) : Option ℚ := (rules.lookup key).join

variable {rules : Numbers}

theorem ruleNumber_cons_self {key : String} {value : Option ℚ} :
    ruleNumber ((key, value) :: rules) key = value := by
  rw [ruleNumber, List.lookup_cons_self]
  rfl

theorem ruleNumber_cons_of_ne {key other : String} {value : Option ℚ}
    (different : other ≠ key) :
    ruleNumber ((key, value) :: rules) other = ruleNumber rules other := by
  rw [ruleNumber, List.lookup_cons, beq_false_of_ne different, ruleNumber]

theorem ruleNumber_scaled {multiplier : ℚ} {key : String}
    (isScaled : key ∈ scaledKeys) :
    ruleNumber (scaled multiplier rules) key = (ruleNumber rules key).map (· * multiplier) := by
  induction rules with
  | nil => rfl
  | cons entry rules ih =>
    obtain ⟨other, value⟩ := entry
    have mapped : scaled multiplier ((other, value) :: rules) =
        (if other ∈ scaledKeys then (other, value.map (· * multiplier)) else (other, value)) ::
          scaled multiplier rules := rfl
    rw [mapped]
    by_cases same : key = other
    · rw [← same, if_pos isScaled, ruleNumber_cons_self, ruleNumber_cons_self]
    · rw [ruleNumber_cons_of_ne same, ← ih]
      split <;> exact ruleNumber_cons_of_ne same

theorem ruleNumber_capped_of_ne {key other : String} {cap : Option ℚ}
    (different : other ≠ key) :
    ruleNumber (capped key cap rules) other = ruleNumber rules other := by
  cases cap with
  | none => rfl
  | some cap => exact ruleNumber_cons_of_ne different

def cappedLimit (rule : Option ℚ) (default : ℚ) : Option ℚ → ℚ
  | none => rule.getD default
  | some cap => min (orNumber rule cap) cap

theorem ruleNumber_capped {key : String} {cap : Option ℚ} {default : ℚ} :
    (ruleNumber (capped key cap rules) key).getD default =
      cappedLimit (ruleNumber rules key) default cap := by
  cases cap with
  | none => rfl
  | some cap =>
    rw [capped, ruleNumber_cons_self]
    rfl

end Rules

section Scaling

/-- A scaled rule is read as no looser: where it was a limit, the multiplier is kept, or the rule
and the multiplier are positive. -/
def KeepsScaled (rule : Option ℚ) (first second : ℚ) : Prop :=
  ∀ limit ∈ rule, 0 < limit * first → second = first ∨ 0 < limit ∧ 0 < second

variable {limit first second : ℚ}

/-- A scaled limit is not raised by a lower multiplier just when the limit is positive or the
multiplier the same. -/
theorem scaled_le_iff (lower : second ≤ first) (limits : 0 < limit * first) :
    limit * second ≤ limit * first ↔ second = first ∨ 0 < limit := by
  constructor
  · intro atMost
    by_cases positive : 0 < limit
    · exact Or.inr positive
    · have negative : limit < 0 := lt_of_le_of_ne (not_lt.mp positive) fun isZero => by
        rw [isZero, zero_mul] at limits
        exact lt_irrefl _ limits
      exact Or.inl (le_antisymm lower ((mul_le_mul_left_of_neg negative).mp atMost))
  · rintro (rfl | positive)
    · exact le_rfl
    · exact mul_le_mul_of_nonneg_left lower positive.le

theorem reading_scaled_iff (rule : Option ℚ) (default : ℚ) (lower : second ≤ first) :
    reading ((rule.map (· * second)).getD default) ≤ reading ((rule.map (· * first)).getD default) ↔
      KeepsScaled rule first second := by
  cases rule with
  | none => exact iff_of_true le_rfl nofun
  | some limit =>
    change reading (limit * second) ≤ reading (limit * first) ↔ _
    rw [reading_le_reading]
    constructor
    · rintro kept _ ⟨⟩ limits
      obtain ⟨positive, atMost⟩ := kept limits
      refine ((scaled_le_iff lower limits).mp atMost).imp_right fun isPositive => ?_
      exact ⟨isPositive, (mul_pos_iff_of_pos_left isPositive).mp positive⟩
    · intro kept limits
      rcases kept limit rfl limits with rfl | ⟨isPositive, positive⟩
      · exact ⟨limits, le_rfl⟩
      · exact ⟨mul_pos isPositive positive,
          (scaled_le_iff lower limits).mpr (Or.inr isPositive)⟩

end Scaling

section Capping

def PositiveCap (cap : Option ℚ) : Prop := ∀ value ∈ cap, 0 < value

/-- The order limit is read as no looser. A cap that takes the place of an absent rule is within
what the default lets through; a cap is positive where another one was; and a scaled rule is as
`KeepsScaled` says, unless the cap is below it. -/
def KeepsOrder (rule : Option ℚ) (default : ℚ) (first second : SafeModeOverride) : Prop :=
  match rule with
  | none => (first.maxOrderCap = none → ∀ cap ∈ second.maxOrderCap, 0 < cap ∧ cap ≤ default) ∧
      ∀ cap ∈ first.maxOrderCap, 0 < cap → PositiveCap second.maxOrderCap
  | some limit =>
    if limit = 0 then ∀ cap ∈ first.maxOrderCap, 0 < cap → PositiveCap second.maxOrderCap
    else 0 < limit * first.riskMultiplier → PositiveCap first.maxOrderCap →
      PositiveCap second.maxOrderCap ∧
        (second.riskMultiplier = first.riskMultiplier ∨
          (0 < limit ∧ 0 < second.riskMultiplier) ∨
          (0 < limit * second.riskMultiplier ∧
            ∃ cap ∈ second.maxOrderCap, cap ≤ limit * first.riskMultiplier))

/-- The leverage limit is no higher: a cap that takes the place of an absent rule is at most the
default, and one that takes the place of zero is not positive. -/
def KeepsLeverage (rule : Option ℚ) (default : ℚ) (first second : SafeModeOverride) : Prop :=
  first.leverageCap = none → ∀ cap ∈ second.leverageCap,
    (rule = none → cap ≤ default) ∧ (rule = some 0 → cap ≤ 0)

variable {first second : SafeModeOverride} {rule : Option ℚ} {default : ℚ}

theorem cappedLimit_none {cap : ℚ} : cappedLimit none default (some cap) = cap := by
  rw [cappedLimit, orNumber_none, min_self]

theorem cappedLimit_zero {cap : ℚ} : cappedLimit (some 0) default (some cap) = cap := by
  rw [cappedLimit, orNumber_zero, min_self]

theorem cappedLimit_of_ne {limit cap : ℚ} (nonzero : limit ≠ 0) :
    cappedLimit (some limit) default (some cap) = min limit cap := by
  rw [cappedLimit, orNumber_of_ne nonzero]

theorem leverage_iff (lowers : first.Lowers second) :
    cappedLimit rule default second.leverageCap ≤ cappedLimit rule default first.leverageCap ↔
      KeepsLeverage rule default first second := by
  unfold KeepsLeverage
  cases before : first.leverageCap with
  | some cap =>
    obtain ⟨lower, after, atMost⟩ := lowers.leverageCap cap before
    rw [Option.mem_def.mp after]
    refine iff_of_true ?_ nofun
    rcases rule with _ | limit
    · rwa [cappedLimit_none, cappedLimit_none]
    · by_cases zero : limit = 0
      · rwa [zero, cappedLimit_zero, cappedLimit_zero]
      · rw [cappedLimit_of_ne zero, cappedLimit_of_ne zero]
        exact min_le_min_left _ atMost
  | none =>
    cases after : second.leverageCap with
    | none => exact iff_of_true le_rfl nofun
    | some cap =>
      rcases rule with _ | limit
      · rw [cappedLimit_none]
        constructor
        · rintro atMost _ _ ⟨⟩
          exact ⟨fun _ => atMost, nofun⟩
        · intro kept
          exact (kept rfl cap rfl).1 rfl
      · by_cases zero : limit = 0
        · rw [zero, cappedLimit_zero]
          constructor
          · rintro atMost _ _ ⟨⟩
            exact ⟨nofun, fun _ => atMost⟩
          · intro kept
            exact (kept rfl cap rfl).2 rfl
        · rw [cappedLimit_of_ne zero]
          refine iff_of_true (min_le_left _ _) ?_
          rintro _ _ ⟨⟩
          refine ⟨nofun, fun isZero => ?_⟩
          exact absurd (Option.some_inj.mp isZero) zero

theorem reading_cap_iff {cap lower : ℚ} (atMost : lower ≤ cap) :
    reading lower ≤ reading cap ↔ (0 < cap → 0 < lower) := by
  rw [reading_le_reading]
  exact forall_congr' fun _ => and_iff_left atMost

theorem forall_mem_some {value : ℚ} {asked : ℚ → Prop} :
    (∀ other ∈ some value, asked other) ↔ asked value := by
  simp only [Option.mem_some, forall_eq']

theorem exists_mem_some {value : ℚ} {asked : ℚ → Prop} :
    (∃ other ∈ some value, asked other) ↔ asked value := by
  simp only [Option.mem_some, exists_eq_left']

variable {cap : Option ℚ}

theorem le_cappedLimit_iff {limit value : ℚ} (nonzero : limit ≠ 0) :
    value ≤ cappedLimit (some limit) default cap ↔
      value ≤ limit ∧ ∀ other ∈ cap, value ≤ other := by
  cases cap with
  | none => exact (and_iff_left nofun).symm
  | some cap => rw [cappedLimit_of_ne nonzero, le_min_iff, forall_mem_some]

theorem cappedLimit_le_iff {limit value : ℚ} (nonzero : limit ≠ 0) :
    cappedLimit (some limit) default cap ≤ value ↔
      limit ≤ value ∨ ∃ other ∈ cap, other ≤ value := by
  cases cap with
  | none => exact (or_iff_left fun ⟨_, given, _⟩ => nomatch given).symm
  | some cap => rw [cappedLimit_of_ne nonzero, min_le_iff, exists_mem_some]

theorem cappedLimit_pos_iff {limit : ℚ} (nonzero : limit ≠ 0) :
    0 < cappedLimit (some limit) default cap ↔ 0 < limit ∧ PositiveCap cap := by
  cases cap with
  | none => exact (and_iff_left nofun).symm
  | some cap => rw [cappedLimit_of_ne nonzero, lt_min_iff, PositiveCap, forall_mem_some]

variable (lowers : first.Lowers second)

include lowers

theorem order_given_iff {limit : ℚ} (nonzero : limit ≠ 0) :
    reading (cappedLimit (some (limit * second.riskMultiplier)) default second.maxOrderCap) ≤
        reading (cappedLimit (some (limit * first.riskMultiplier)) default first.maxOrderCap) ↔
      (0 < limit * first.riskMultiplier → PositiveCap first.maxOrderCap →
        PositiveCap second.maxOrderCap ∧
          (second.riskMultiplier = first.riskMultiplier ∨
            (0 < limit ∧ 0 < second.riskMultiplier) ∨
            (0 < limit * second.riskMultiplier ∧
              ∃ cap ∈ second.maxOrderCap, cap ≤ limit * first.riskMultiplier))) := by
  have before := mul_ne_zero nonzero lowers.first_ne
  have after := mul_ne_zero nonzero lowers.second_ne
  have belowCaps : ∀ cap ∈ first.maxOrderCap,
      cappedLimit (some (limit * second.riskMultiplier)) default second.maxOrderCap ≤ cap := by
    intro cap given
    obtain ⟨lower, inSecond, atMost⟩ := lowers.orderCap cap given
    exact (cappedLimit_le_iff after).mpr (Or.inr ⟨lower, inSecond, atMost⟩)
  rw [reading_le_reading, cappedLimit_pos_iff before, cappedLimit_pos_iff after,
    le_cappedLimit_iff before, and_iff_left belowCaps, cappedLimit_le_iff after, and_imp]
  refine forall_congr' fun limits => forall_congr' fun _ => ?_
  rw [scaled_le_iff lowers.multiplier limits]
  constructor
  · rintro ⟨⟨positive, caps⟩, (same | isPositive) | capped⟩
    · exact ⟨caps, Or.inl same⟩
    · exact ⟨caps, Or.inr (Or.inl ⟨isPositive, (mul_pos_iff_of_pos_left isPositive).mp positive⟩)⟩
    · exact ⟨caps, Or.inr (Or.inr ⟨positive, capped⟩)⟩
  · rintro ⟨caps, same | ⟨isPositive, positive⟩ | ⟨positive, capped⟩⟩
    · exact ⟨⟨same ▸ limits, caps⟩, Or.inl (Or.inl same)⟩
    · exact ⟨⟨mul_pos isPositive positive, caps⟩, Or.inl (Or.inr isPositive)⟩
    · exact ⟨⟨positive, caps⟩, Or.inr capped⟩

theorem caps_iff {cap : ℚ} (given : first.maxOrderCap = some cap) :
    ∃ lower, second.maxOrderCap = some lower ∧ (reading lower ≤ reading cap ↔
      ∀ value ∈ first.maxOrderCap, 0 < value → PositiveCap second.maxOrderCap) := by
  obtain ⟨lower, after, atMost⟩ := lowers.orderCap cap given
  refine ⟨lower, after, ?_⟩
  rw [reading_cap_iff atMost, given, forall_mem_some, PositiveCap,
    Option.mem_def.mp after, forall_mem_some]

theorem order_iff (positive : 0 < default) :
    reading (cappedLimit (rule.map (· * second.riskMultiplier)) default second.maxOrderCap) ≤
        reading (cappedLimit (rule.map (· * first.riskMultiplier)) default first.maxOrderCap) ↔
      KeepsOrder rule default first second := by
  rcases rule with _ | limit
  · change reading (cappedLimit none default second.maxOrderCap) ≤
      reading (cappedLimit none default first.maxOrderCap) ↔ _ ∧ _
    cases before : first.maxOrderCap with
    | some cap =>
      obtain ⟨lower, after, iff⟩ := caps_iff lowers before
      rw [after, cappedLimit_none, cappedLimit_none, iff, before, after]
      exact (and_iff_right nofun).symm
    | none =>
      rw [and_iff_left nofun]
      cases after : second.maxOrderCap with
      | none => exact iff_of_true le_rfl nofun
      | some cap =>
        rw [cappedLimit_none, cappedLimit, Option.getD_none, reading_le_reading,
          forall_mem_some]
        exact ⟨fun kept _ => kept positive, fun kept _ => kept rfl⟩
  · change reading (cappedLimit (some (limit * _)) default second.maxOrderCap) ≤
      reading (cappedLimit (some (limit * _)) default first.maxOrderCap) ↔ _
    by_cases zero : limit = 0
    · rw [KeepsOrder, if_pos zero, zero, zero_mul, zero_mul]
      cases before : first.maxOrderCap with
      | some cap =>
        obtain ⟨lower, after, iff⟩ := caps_iff lowers before
        rw [after, cappedLimit_zero, cappedLimit_zero, iff, before, after]
      | none =>
        refine iff_of_true ?_ nofun
        rw [cappedLimit, Option.getD_some, reading_of_nonpos le_rfl]
        exact le_top
    · rw [KeepsOrder, if_neg zero]
      exact order_given_iff lowers zero

end Capping

section Limits

variable {portfolio : ExecutionPortfolio} {limits : Numbers} {rules : EffectiveRules}
  {first second : SafeModeOverride}

def domainLimit (portfolio : ExecutionPortfolio) : ℚ :=
  safeFloat ((portfolioLimits portfolio).lookup "max_portfolio_exposure") 300000

def leverageDefault (limits : Numbers) : ℚ := safeFloat (limits.lookup "max_leverage") 4

def DomainStricter (portfolio : ExecutionPortfolio) (rule : Option ℚ) (multiplier : ℚ) : Prop :=
  ∀ limit ∈ rule, 0 < limit * multiplier →
    0 < domainLimit portfolio ∧ domainLimit portfolio ≤ limit * multiplier

/-- The condition on each limit under which the second override does not loosen it. -/
def Keeps (portfolio : ExecutionPortfolio) (limits : Numbers) (rules : EffectiveRules)
    (first second : SafeModeOverride) : SafetyLimit → Prop
  | .exposure .order =>
    KeepsOrder (ruleNumber rules.risk "max_order_notional") 50000 first second
  | .exposure .symbol =>
    KeepsScaled (ruleNumber rules.risk "max_symbol_exposure") first.riskMultiplier
      second.riskMultiplier
  | .exposure .strategy =>
    KeepsScaled (ruleNumber rules.risk "max_strategy_exposure") first.riskMultiplier
      second.riskMultiplier
  | .exposure .user =>
    KeepsScaled (ruleNumber rules.risk "max_user_exposure") first.riskMultiplier
      second.riskMultiplier
  | .exposure .portfolio =>
    KeepsScaled (ruleNumber rules.risk "max_portfolio_exposure") first.riskMultiplier
        second.riskMultiplier ∨
      DomainStricter portfolio (ruleNumber rules.risk "max_portfolio_exposure")
        first.riskMultiplier
  | .leverage =>
    KeepsLeverage (ruleNumber rules.postTrade "max_leverage_after_trade") (leverageDefault limits)
      first second

variable {override : SafeModeOverride}

theorem ruleNumber_apply {key : String}
    (isScaled : key ∈ scaledKeys) (notOrder : key ≠ "max_order_notional") :
    ruleNumber (override.apply rules).risk key =
      (ruleNumber rules.risk key).map (· * override.riskMultiplier) := by
  rw [SafeModeOverride.apply, ruleNumber_capped_of_ne notOrder, ruleNumber_scaled isScaled]

theorem threshold_order :
    threshold portfolio (override.apply rules).risk .order =
      cappedLimit ((ruleNumber rules.risk "max_order_notional").map (· * override.riskMultiplier))
        50000 override.maxOrderCap := by
  rw [← ruleNumber_scaled (by decide), ← ruleNumber_capped]
  rfl

variable {riskRules : Numbers}

theorem threshold_symbol : threshold portfolio riskRules .symbol =
    (ruleNumber riskRules "max_symbol_exposure").getD 120000 := rfl

theorem threshold_strategy : threshold portfolio riskRules .strategy =
    (ruleNumber riskRules "max_strategy_exposure").getD 180000 := rfl

theorem threshold_user : threshold portfolio riskRules .user =
    (ruleNumber riskRules "max_user_exposure").getD 250000 := rfl

theorem maxLeverageAfter_apply :
    maxLeverageAfter limits (override.apply rules).postTrade =
      cappedLimit (ruleNumber rules.postTrade "max_leverage_after_trade") (leverageDefault limits)
        override.leverageCap := by
  rw [← ruleNumber_capped]
  rfl

theorem reading_portfolio :
    reading (threshold portfolio riskRules .portfolio) =
      min (reading ((ruleNumber riskRules "max_portfolio_exposure").getD 0))
        (reading (domainLimit portfolio)) := by
  change reading (effectivePortfolioLimit portfolio riskRules) = _
  have unfolded : effectivePortfolioLimit portfolio riskRules =
      if 0 < (ruleNumber riskRules "max_portfolio_exposure").getD 0 ∧ 0 < domainLimit portfolio then
        min ((ruleNumber riskRules "max_portfolio_exposure").getD 0) (domainLimit portfolio)
      else if 0 < (ruleNumber riskRules "max_portfolio_exposure").getD 0 then
        (ruleNumber riskRules "max_portfolio_exposure").getD 0
      else domainLimit portfolio := rfl
  rw [unfolded]
  split_ifs with both rule
  · exact reading_min both.1 both.2
  · have noDomain := not_lt.mp fun domain => both ⟨rule, domain⟩
    rw [reading_of_nonpos noDomain, min_eq_left le_top]
  · rw [reading_of_nonpos (not_lt.mp rule), min_eq_right le_top]

theorem portfolio_iff (lowers : first.Lowers second) (rule : Option ℚ) :
    min (reading ((rule.map (· * second.riskMultiplier)).getD 0))
          (reading (domainLimit portfolio)) ≤
        min (reading ((rule.map (· * first.riskMultiplier)).getD 0))
          (reading (domainLimit portfolio)) ↔
      KeepsScaled rule first.riskMultiplier second.riskMultiplier ∨
        DomainStricter portfolio rule first.riskMultiplier := by
  have domain : reading (domainLimit portfolio) ≤
      reading ((rule.map (· * first.riskMultiplier)).getD 0) ↔
        DomainStricter portfolio rule first.riskMultiplier := by
    rw [reading_le_reading, DomainStricter]
    cases rule with
    | none =>
      exact iff_of_true (fun positive => absurd positive (lt_irrefl 0))
        nofun
    | some limit =>
      constructor
      · rintro stricter _ ⟨⟩
        exact stricter
      · intro stricter
        exact stricter limit rfl
  rw [le_min_iff, and_iff_left (min_le_right _ _), min_le_iff, domain,
    reading_scaled_iff rule 0 lowers.multiplier]

theorem inForce_apply_iff (lowers : first.Lowers second) (limit : SafetyLimit) :
    inForce portfolio limits (second.apply rules) limit ≤
        inForce portfolio limits (first.apply rules) limit ↔
      Keeps portfolio limits rules first second limit := by
  cases limit with
  | leverage =>
    rw [inForce, inForce, maxLeverageAfter_apply, maxLeverageAfter_apply, WithTop.coe_le_coe]
    exact leverage_iff lowers
  | exposure layer =>
    cases layer with
    | order =>
      rw [inForce, inForce, threshold_order, threshold_order]
      exact order_iff lowers (by decide)
    | symbol =>
      rw [inForce, inForce, threshold_symbol, threshold_symbol,
        ruleNumber_apply (by decide) (by decide), ruleNumber_apply (by decide) (by decide)]
      exact reading_scaled_iff _ _ lowers.multiplier
    | strategy =>
      rw [inForce, inForce, threshold_strategy, threshold_strategy,
        ruleNumber_apply (by decide) (by decide), ruleNumber_apply (by decide) (by decide)]
      exact reading_scaled_iff _ _ lowers.multiplier
    | user =>
      rw [inForce, inForce, threshold_user, threshold_user,
        ruleNumber_apply (by decide) (by decide), ruleNumber_apply (by decide) (by decide)]
      exact reading_scaled_iff _ _ lowers.multiplier
    | portfolio =>
      rw [inForce, inForce, reading_portfolio, reading_portfolio,
        ruleNumber_apply (by decide) (by decide), ruleNumber_apply (by decide) (by decide)]
      exact portfolio_iff lowers _

theorem inForce_neutral (limit : SafetyLimit) :
    inForce portfolio limits (SafeModeOverride.neutral.apply rules) limit =
      inForce portfolio limits rules limit := by
  have unscaled : scaled 1 rules.risk = rules.risk := by
    have each (entry : String × Option ℚ) :
        (if entry.1 ∈ scaledKeys then (entry.1, entry.2.map (· * 1)) else entry) = entry := by
      split
      · simp only [mul_one, Option.map_id']
      · rfl
    rw [scaled]
    exact (List.map_congr_left fun entry _ => each entry).trans (List.map_id _)
  have same : SafeModeOverride.neutral.apply rules = rules := by
    rw [SafeModeOverride.apply, SafeModeOverride.neutral, unscaled]
    rfl
  rw [same]

theorem inForce_applySafeModeOverrides (states : List ExecutionSafeModeState)
    (intentType : Option String) (reduceOnly : Bool) (limit : SafetyLimit) :
    inForce portfolio limits
        (applySafeModeOverrides states rules intentType reduceOnly).rules limit =
      inForce portfolio limits ((overrideOf states).apply rules) limit := by
  unfold applySafeModeOverrides
  split
  · next none => rw [none]; exact (inForce_neutral limit).symm
  · rfl

/-- Safe mode does not loosen a limit, and one more active state does not, just where the condition
on the limit holds. -/
theorem safe_mode_strict_iff (portfolio : ExecutionPortfolio) (limits : Numbers)
    (rules : EffectiveRules) (before after : List ExecutionSafeModeState)
    (state : ExecutionSafeModeState) (intentType : Option String) (reduceOnly : Bool)
    (limit : SafetyLimit) :
    (inForce portfolio limits
          (applySafeModeOverrides (before ++ after) rules intentType reduceOnly).rules limit ≤
        inForce portfolio limits rules limit ↔
      Keeps portfolio limits rules .neutral (overrideOf (before ++ after)) limit) ∧
      (inForce portfolio limits
            (applySafeModeOverrides (before ++ state :: after) rules intentType reduceOnly).rules
            limit ≤
          inForce portfolio limits
            (applySafeModeOverrides (before ++ after) rules intentType reduceOnly).rules limit ↔
        Keeps portfolio limits rules (overrideOf (before ++ after))
          (overrideOf (before ++ state :: after)) limit) := by
  constructor
  · have unchanged : inForce portfolio limits rules limit =
        inForce portfolio limits (SafeModeOverride.neutral.apply rules) limit :=
      (inForce_neutral limit).symm
    rw [inForce_applySafeModeOverrides, unchanged]
    exact inForce_apply_iff (overrideOf_lowers _) limit
  · rw [inForce_applySafeModeOverrides, inForce_applySafeModeOverrides, overrideOf_insert]
    exact inForce_apply_iff (and_lowers state (overrideOf_multiplier_ne _)) limit

def cappingState (cap : ℚ) : ExecutionSafeModeState :=
  ⟨"s", "GLOBAL", "*", none, 0, ⟨none, some cap, none, false, false⟩⟩

/-- A cap of zero switches the order limit off, and a cap above the default raises an absent one. -/
theorem safe_mode_loosens :
    (¬inForce (newPortfolio "u" "p" true) []
          (applySafeModeOverrides [cappingState 0] ⟨[("max_order_notional", some 50000)], []⟩ none
            false).rules (.exposure .order) ≤
        inForce (newPortfolio "u" "p" true) [] ⟨[("max_order_notional", some 50000)], []⟩
          (.exposure .order)) ∧
      ¬inForce (newPortfolio "u" "p" true) []
          (applySafeModeOverrides [cappingState 60000] ⟨[], []⟩ none false).rules
          (.exposure .order) ≤
        inForce (newPortfolio "u" "p" true) [] ⟨[], []⟩ (.exposure .order) := by
  constructor
  · rw [inForce, inForce, reading_le_reading]
    decide +kernel
  · rw [inForce, inForce, reading_le_reading]
    decide +kernel

end Limits

end Policy
