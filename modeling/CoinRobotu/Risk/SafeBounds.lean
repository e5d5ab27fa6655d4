import CoinRobotu.Risk.Configs

/-!
# Configurations within the safe bounds

A patch and a profile are held against the safe bounds, and the copies of the configuration stay
within them through every operation.
-/

namespace Risk

open Keyed Numeric

variable {readFloat : String → Option ℚ} {readInt : String → Option ℤ}

/-- Every setting with a safe bound that a record gives is read as at most its bound. -/
def Fits (readFloat : String → Option ℚ) (readInt : String → Option ℤ) (payload : Payload) : Prop :=
  Each (fun name value => ∀ limit : Limit, limit.name = name →
    ∀ figure, limit.read readFloat readInt value = some figure → figure ≤ limit.bound) payload

def WithinSafeBounds (config : Payload) : Prop :=
  ∀ limit : Limit, ∃ figure, config limit.name = some (.number figure) ∧ figure ≤ limit.bound

theorem Limit.mem_all (limit : Limit) : limit ∈ Limit.all := by cases limit <;> decide

theorem Limit.least_le_bound (limit : Limit) : limit.least ≤ limit.bound := by
  cases limit <;> decide +kernel

theorem Limit.fallback_le_bound (limit : Limit) : limit.fallback ≤ limit.bound := by
  cases limit <;> decide +kernel

theorem Limit.bound_nonneg (limit : Limit) : 0 ≤ limit.bound := by cases limit <;> decide +kernel

theorem fits_iff {payload : Payload} : Fits readFloat readInt payload ↔
    ∀ limit : Limit, ∀ figure,
      (payload limit.name).bind (limit.read readFloat readInt) = some figure →
        figure ≤ limit.bound := by
  constructor
  · intro fits limit figure reading
    obtain ⟨value, given, read⟩ := Option.bind_eq_some_iff.mp reading
    exact fits _ value given limit rfl figure read
  · rintro each name value given limit rfl figure read
    exact each limit figure (Option.bind_eq_some_iff.mpr ⟨value, given, read⟩)

theorem fits_iff_getD {payload : Payload} (default : Limit → ℚ)
    (small : ∀ limit, default limit ≤ limit.bound) : Fits readFloat readInt payload ↔
    ∀ limit : Limit, ((payload limit.name).bind (limit.read readFloat readInt)).getD
      (default limit) ≤ limit.bound := by
  rw [fits_iff]
  refine forall_congr' fun limit => ?_
  cases (payload limit.name).bind (limit.read readFloat readInt) with
  | none => simp [small limit]
  | some figure => simp

theorem validateSafeBounds_eq_nil {patch : Payload} :
    validateSafeBounds readFloat readInt patch = [] ↔ Fits readFloat readInt patch := by
  rw [fits_iff_getD (fun _ => 0) Limit.bound_nonneg, validateSafeBounds,
    List.filterMap_eq_nil_iff]
  constructor
  · intro none limit
    by_contra above
    have reported := none limit limit.mem_all
    rw [if_pos (not_le.mp above)] at reported
    exact Option.some_ne_none _ reported
  · intro fits limit _
    rw [if_neg (not_lt.mpr (fits limit))]

theorem normalizedPayload_limit (raw : Payload) (limit : Limit) :
    normalizedPayload readFloat readInt raw limit.name = some (.number (max limit.least
      (((overlay raw defaultPayload limit.name).bind (limit.read readFloat readInt)).getD
        limit.fallback))) := by
  cases limit with
  | maxRiskPerTradePct | maxTotalExposurePct => rfl
  | maxLeverage =>
    have whole (reading : Option ℤ) : ((max 1 (reading.getD 5) : ℤ) : ℚ) =
        max 1 ((reading.map (Int.cast : ℤ → ℚ)).getD 5) := by
      cases reading <;> simp
    have mapped := whole ((overlay raw defaultPayload "max_leverage").bind (asInt readInt))
    rw [Option.map_bind] at mapped
    exact overlay_of_some (congrArg (fun figure => some (Setting.number figure)) mapped)

theorem read_normalizedPayload (raw : Payload) (limit : Limit) :
    (normalizedPayload readFloat readInt raw limit.name).bind (limit.read readFloat readInt) =
      some (max limit.least (((overlay raw defaultPayload limit.name).bind
        (limit.read readFloat readInt)).getD limit.fallback)) := by
  cases limit with
  | maxRiskPerTradePct | maxTotalExposurePct => rfl
  | maxLeverage =>
    have written : normalizedPayload readFloat readInt raw Limit.maxLeverage.name = some (.number
      (max 1 (toInt readInt (overlay raw defaultPayload "max_leverage") 5) : ℤ)) := rfl
    have same := written.symm.trans (normalizedPayload_limit raw .maxLeverage)
    rw [Option.some_inj, Setting.number.injEq] at same
    rw [written, ← same, Option.bind_some, Limit.read, asInt, wholePart_intCast,
      Option.map_some]

theorem fits_default : Fits readFloat readInt defaultPayload := by
  rw [fits_iff]
  intro limit figure reading
  cases limit <;> cases reading <;> decide +kernel

theorem withinSafeBounds_normalizedPayload {raw : Payload} :
    WithinSafeBounds (normalizedPayload readFloat readInt raw) ↔ Fits readFloat readInt raw := by
  have layered : Fits readFloat readInt (overlay raw defaultPayload) ↔
      Fits readFloat readInt raw := each_overlay_iff fits_default
  rw [← layered, fits_iff_getD Limit.fallback Limit.fallback_le_bound]
  refine forall_congr' fun limit => ?_
  rw [normalizedPayload_limit]
  constructor
  · rintro ⟨figure, written, atMost⟩
    cases written
    exact le_trans (le_max_right _ _) atMost
  · intro atMost
    exact ⟨_, rfl, max_le limit.least_le_bound atMost⟩

theorem fits_normalizedPayload {raw : Payload}
    (fits : Fits readFloat readInt raw) :
    Fits readFloat readInt (normalizedPayload readFloat readInt raw) := by
  rw [fits_iff]
  intro limit figure reading
  rw [read_normalizedPayload, Option.some_inj] at reading
  rw [← reading]
  refine max_le limit.least_le_bound ?_
  have layered := each_overlay fits fits_default
  exact (fits_iff_getD Limit.fallback Limit.fallback_le_bound).mp layered limit

theorem fits_nextVersion (current : Payload) {payload : Payload}
    (fits : Fits readFloat readInt payload) :
    Fits readFloat readInt (nextVersion readInt current payload) := by
  refine each_overlay (fun name value found limit named => ?_) fits
  subst named
  cases limit <;> cases found

section Copies

def Stored.All {Content : Type} (asked : Content → Prop) : Stored Content → Prop
  | .holding content => asked content
  | .missing | .unreadable => True

/-- Every copy of the configuration is within the safe bounds. -/
structure Bounded (readFloat : String → Option ℚ) (readInt : String → Option ℤ)
    (store : RiskStore) : Prop where
  cached : ∀ payload ∈ store.cached, Fits readFloat readInt payload
  file : store.file.All (Fits readFloat readInt)
  backup : store.backup.All (Fits readFloat readInt)

variable {store next : RiskStore}

section Bounding

variable (bounded : Bounded readFloat readInt store)

include bounded

theorem readFileConfig_bounded :
    Fits readFloat readInt (readFileConfig readFloat readInt store).1 ∧
      Bounded readFloat readInt (readFileConfig readFloat readInt store).2 := by
  obtain ⟨cachedFits, fileFits, backupFits⟩ := bounded
  have defaults : Fits readFloat readInt (normalizedPayload readFloat readInt defaultPayload) :=
    fits_normalizedPayload fits_default
  unfold readFileConfig
  split
  · next raw held =>
    rw [held] at fileFits
    have written := fits_normalizedPayload fileFits
    refine ⟨written, cachedFits, written, ?_⟩
    cases kept : store.backup with
    | missing => exact written
    | unreadable => trivial
    | holding payload => rwa [kept] at backupFits
  · exact ⟨defaults, cachedFits, defaults, defaults⟩
  · exact ⟨defaults, cachedFits, defaults, defaults⟩

theorem loadRiskConfig_bounded :
    Fits readFloat readInt (loadRiskConfig readFloat readInt store).1 ∧
      Bounded readFloat readInt (loadRiskConfig readFloat readInt store).2 := by
  unfold loadRiskConfig
  split
  · next cached held =>
    exact ⟨fits_normalizedPayload (bounded.cached cached held), bounded⟩
  · obtain ⟨payloadFits, after⟩ := readFileConfig_bounded bounded
    exact ⟨payloadFits, fun payload held => by cases held; exact payloadFits, after.file,
      after.backup⟩

theorem patchRiskConfig_bounded {patch : Payload}
    (accepted : patchRiskConfig readFloat readInt patch store = .ok next) :
    Bounded readFloat readInt next := by
  unfold patchRiskConfig at accepted
  by_cases violated : validateSafeBounds readFloat readInt patch ≠ []
  · rw [if_pos violated] at accepted
    cases accepted
  · rw [if_neg violated] at accepted
    have patchFits := validateSafeBounds_eq_nil.mp (not_not.mp violated)
    obtain ⟨currentFits, _⟩ := loadRiskConfig_bounded bounded
    have merged := fits_nextVersion (loadRiskConfig readFloat readInt store).1
      (fits_normalizedPayload (each_overlay patchFits currentFits))
    cases accepted
    exact ⟨fun payload held => by cases held; exact merged, merged,
      fits_normalizedPayload currentFits⟩

theorem rollbackRiskConfig_bounded
    (accepted : rollbackRiskConfig readFloat readInt store = .ok next) :
    Bounded readFloat readInt next := by
  unfold rollbackRiskConfig at accepted
  split at accepted
  · cases accepted
  · cases accepted
  · next raw held =>
    have backupFits := bounded.backup
    rw [held] at backupFits
    obtain ⟨_, after⟩ := loadRiskConfig_bounded bounded
    have restored := fits_nextVersion (loadRiskConfig readFloat readInt store).1
      (fits_normalizedPayload backupFits)
    cases accepted
    exact ⟨fun payload held => by cases held; exact restored, restored, after.backup⟩

theorem applyPolicyProfile_bounded {profile : String}
    (accepted : applyPolicyProfile readFloat readInt profile store = .ok next) :
    Bounded readFloat readInt next := by
  unfold applyPolicyProfile at accepted
  dsimp only at accepted
  split at accepted
  · cases accepted
  · exact patchRiskConfig_bounded bounded accepted

theorem getPolicyOverrides_bounded :
    Bounded readFloat readInt (getPolicyOverrides store).2 := by
  unfold getPolicyOverrides
  split <;> exact ⟨bounded.cached, bounded.file, bounded.backup⟩

theorem upsertPolicyOverrides_bounded {scope key : String} {values : Payload}
    (accepted : upsertPolicyOverrides scope key values store = .ok next) :
    Bounded readFloat readInt next := by
  have after := getPolicyOverrides_bounded bounded
  unfold upsertPolicyOverrides at accepted
  dsimp only at accepted
  split_ifs at accepted <;> cases accepted <;> exact ⟨after.cached, after.file, after.backup⟩

theorem apply_bounded {op : ConfigOp} (accepted : op.apply readFloat readInt store = .ok next) :
    Bounded readFloat readInt next := by
  cases op with
  | patch values => exact patchRiskConfig_bounded bounded accepted
  | applyProfile profile => exact applyPolicyProfile_bounded bounded accepted
  | upsert scope key values => exact upsertPolicyOverrides_bounded bounded accepted
  | rollback => exact rollbackRiskConfig_bounded bounded accepted
  | reload =>
    obtain ⟨payloadFits, after⟩ := readFileConfig_bounded bounded
    cases accepted
    exact ⟨fun payload held => by cases held; exact payloadFits, after.file, after.backup⟩
  | resolve userId tenantId =>
    cases accepted
    exact getPolicyOverrides_bounded (loadRiskConfig_bounded bounded).2

end Bounding

end Copies

section Overrides

variable {store next : RiskStore} {userId : String} {tenantId : Option String}

def RiskStore.policyOverrides (store : RiskStore) : PolicyOverrides := (getPolicyOverrides store).1

/-- All overrides fit. -/
structure PolicyOverrides.Fit (readFloat : String → Option ℚ) (readInt : String → Option ℤ)
    (overrides : PolicyOverrides) : Prop where
  global : Fits readFloat readInt overrides.global
  tenants : ∀ tenantId values, overrides.tenants tenantId = some values →
    Fits readFloat readInt values
  users : ∀ userId values, overrides.users userId = some values → Fits readFloat readInt values

def ConfigOp.UpsertFits (readFloat : String → Option ℚ) (readInt : String → Option ℤ) :
    ConfigOp → Prop
  | .upsert _ _ values => validateSafeBounds readFloat readInt values = []
  | _ => True

theorem fits_getD {values : Option Payload}
    (each : ∀ payload, values = some payload → Fits readFloat readInt payload) :
    Fits readFloat readInt (values.getD fun _ => none) := by
  cases values with
  | none => exact each_empty
  | some payload => exact each payload rfl

theorem fits_inForce {overrides : PolicyOverrides} (fit : overrides.Fit readFloat readInt) :
    Fits readFloat readInt (overrides.inForce userId tenantId) := by
  refine each_overlay (fits_getD (fit.users userId)) (each_overlay ?_ fit.global)
  split
  · exact each_empty
  · exact fits_getD (fit.tenants _)

theorem policyOverrides_of_overrides_eq (same : next.overrides = store.overrides) :
    next.policyOverrides = store.policyOverrides := by
  unfold RiskStore.policyOverrides getPolicyOverrides
  rw [same]
  cases store.overrides <;> rfl

theorem readFileConfig_overrides :
    (readFileConfig readFloat readInt store).2.overrides = store.overrides := by
  unfold readFileConfig
  split <;> rfl

theorem loadRiskConfig_overrides :
    (loadRiskConfig readFloat readInt store).2.overrides = store.overrides := by
  unfold loadRiskConfig
  split
  · rfl
  · exact readFileConfig_overrides

theorem getPolicyOverrides_after : (getPolicyOverrides store).2.policyOverrides =
    store.policyOverrides := by
  obtain ⟨_, _, _, overrides⟩ := store
  cases overrides <;> rfl

theorem patchRiskConfig_overrides {patch : Payload}
    (accepted : patchRiskConfig readFloat readInt patch store = .ok next) :
    next.overrides = store.overrides := by
  unfold patchRiskConfig at accepted
  by_cases violated : validateSafeBounds readFloat readInt patch ≠ []
  · rw [if_pos violated] at accepted
    cases accepted
  · rw [if_neg violated] at accepted
    cases accepted
    exact loadRiskConfig_overrides

section Fitting

variable (fit : store.policyOverrides.Fit readFloat readInt)

include fit

theorem upsertPolicyOverrides_fit {scope key : String} {values : Payload}
    (valuesFit : Fits readFloat readInt values)
    (accepted : upsertPolicyOverrides scope key values store = .ok next) :
    next.policyOverrides.Fit readFloat readInt := by
  have updated {table : String → Option Payload} {named : String}
      (each : ∀ id payload, table id = some payload → Fits readFloat readInt payload) :
      ∀ id payload, Function.update table named (some values) id = some payload →
        Fits readFloat readInt payload := by
    intro id payload found
    by_cases same : id = named
    · rw [same, Function.update_self] at found
      cases found
      exact valuesFit
    · rw [Function.update_of_ne same] at found
      exact each id payload found
  unfold upsertPolicyOverrides at accepted
  dsimp only at accepted
  generalize (if key = "" then "default" else key) = named at accepted
  split_ifs at accepted <;> cases accepted
  · exact ⟨valuesFit, fit.tenants, fit.users⟩
  · exact ⟨fit.global, updated fit.tenants, fit.users⟩
  · exact ⟨fit.global, fit.tenants, updated fit.users⟩

theorem fit_of_overrides_eq
    (same : next.overrides = store.overrides) : next.policyOverrides.Fit readFloat readInt := by
  rwa [policyOverrides_of_overrides_eq same]

theorem apply_fit {op : ConfigOp} (upsertFits : op.UpsertFits readFloat readInt)
    (accepted : op.apply readFloat readInt store = .ok next) :
    next.policyOverrides.Fit readFloat readInt := by
  cases op with
  | patch values => exact fit_of_overrides_eq fit (patchRiskConfig_overrides accepted)
  | applyProfile profile =>
    simp only [ConfigOp.apply, applyPolicyProfile] at accepted
    split at accepted
    · cases accepted
    · exact fit_of_overrides_eq fit (patchRiskConfig_overrides accepted)
  | upsert scope key values =>
    exact upsertPolicyOverrides_fit fit (validateSafeBounds_eq_nil.mp upsertFits) accepted
  | rollback =>
    simp only [ConfigOp.apply, rollbackRiskConfig] at accepted
    split at accepted <;> cases accepted
    exact fit_of_overrides_eq fit loadRiskConfig_overrides
  | reload =>
    cases accepted
    exact fit_of_overrides_eq fit readFileConfig_overrides
  | resolve userId tenantId =>
    cases accepted
    change ((getPolicyOverrides (loadRiskConfig readFloat readInt store).2).2.policyOverrides).Fit
      readFloat readInt
    rw [getPolicyOverrides_after]
    exact fit_of_overrides_eq fit loadRiskConfig_overrides

end Fitting

/-- The configuration of a user is within the bounds just when what the overrides set for the user
fits. -/
theorem effective_within_iff (bounded : Bounded readFloat readInt store) :
    WithinSafeBounds (resolveEffectiveConfigForUser readFloat readInt userId tenantId store).1 ↔
      Fits readFloat readInt (store.policyOverrides.inForce userId tenantId) := by
  have base := (loadRiskConfig_bounded bounded).1
  have read : (getPolicyOverrides (loadRiskConfig readFloat readInt store).2).1 =
      store.policyOverrides := policyOverrides_of_overrides_eq loadRiskConfig_overrides
  change WithinSafeBounds (normalizedPayload readFloat readInt (overlay
    ((getPolicyOverrides (loadRiskConfig readFloat readInt store).2).1.inForce userId tenantId)
    (loadRiskConfig readFloat readInt store).1)) ↔ _
  rw [withinSafeBounds_normalizedPayload, read]
  exact each_overlay_iff base

end Overrides

section Runs

variable {start final : RiskStore} {ops : List ConfigOp}

theorem runOps_cons {op : ConfigOp} : runOps readFloat readInt (op :: ops) start = .ok final ↔
    ∃ next, op.apply readFloat readInt start = .ok next ∧
      runOps readFloat readInt ops next = .ok final := by
  rw [runOps, List.foldlM_cons]
  cases op.apply readFloat readInt start with
  | error refusal => exact ⟨nofun, fun ⟨_, step, _⟩ => nomatch step⟩
  | ok next =>
    constructor
    · intro run
      exact ⟨next, rfl, run⟩
    · rintro ⟨_, ⟨⟩, run⟩
      exact run

theorem runOps_bounded (bounded : Bounded readFloat readInt start)
    (run : runOps readFloat readInt ops start = .ok final) : Bounded readFloat readInt final := by
  induction ops generalizing start with
  | nil =>
    cases run
    exact bounded
  | cons op ops ih =>
    obtain ⟨next, step, rest⟩ := runOps_cons.mp run
    exact ih (apply_bounded bounded step) rest

theorem runOps_fit (fit : start.policyOverrides.Fit readFloat readInt)
    (upsertsFit : ∀ op ∈ ops, op.UpsertFits readFloat readInt)
    (run : runOps readFloat readInt ops start = .ok final) :
    final.policyOverrides.Fit readFloat readInt := by
  induction ops generalizing start with
  | nil =>
    cases run
    exact fit
  | cons op ops ih =>
    obtain ⟨next, step, rest⟩ := runOps_cons.mp run
    exact ih (apply_fit fit (upsertsFit op List.mem_cons_self) step)
      (fun other later => upsertsFit other (List.mem_cons_of_mem _ later)) rest

/-- After operations that are accepted, the configuration of a user is within the safe bounds just
when what the overrides set for the user is read within them; and it is so for every user when every
override that is upserted passes the check of a patch. -/
theorem configuration_stays_within (bounded : Bounded readFloat readInt start)
    (run : runOps readFloat readInt ops start = .ok final) :
    (∀ userId tenantId,
      WithinSafeBounds (resolveEffectiveConfigForUser readFloat readInt userId tenantId final).1 ↔
        Fits readFloat readInt (final.policyOverrides.inForce userId tenantId)) ∧
      (start.policyOverrides.Fit readFloat readInt →
        (∀ op ∈ ops, op.UpsertFits readFloat readInt) → ∀ userId tenantId,
          WithinSafeBounds
            (resolveEffectiveConfigForUser readFloat readInt userId tenantId final).1) := by
  have reached := runOps_bounded bounded run
  refine ⟨fun userId tenantId => effective_within_iff reached, ?_⟩
  intro fit upsertsFit userId tenantId
  exact (effective_within_iff reached).mpr (fits_inForce (runOps_fit fit upsertsFit run))

def RiskStore.fresh : RiskStore := ⟨none, .missing, .missing, .missing⟩

theorem fresh_bounded : Bounded readFloat readInt RiskStore.fresh :=
  ⟨nofun, trivial, trivial⟩

theorem fresh_fit : RiskStore.fresh.policyOverrides.Fit readFloat readInt :=
  ⟨each_empty, nofun, nofun⟩

def overridden (leverage : ℚ) : ConfigOp :=
  .upsert "global" "default" (record [("max_leverage", .number leverage)])

def leveraged (leverage : ℚ) : RiskStore :=
  { RiskStore.fresh with
    overrides := .holding { PolicyOverrides.none with
      global := record [("max_leverage", .number leverage)] } }

theorem runOps_overridden (leverage : ℚ) :
    runOps readFloat readInt [overridden leverage] RiskStore.fresh = .ok (leveraged leverage) := by
  have scope : Runtime.strip (Runtime.lower "global") = "global" := by decide +kernel
  rw [runOps_cons]
  refine ⟨_, ?_, rfl⟩
  simp only [overridden, ConfigOp.apply, upsertPolicyOverrides, scope, if_true]
  rfl

/-- A lower leverage for all users is within the bounds. -/
theorem configuration_stays_within_lowered :
    WithinSafeBounds (resolveEffectiveConfigForUser (fun _ => none) (fun _ => none) "user-1" none
      (leveraged 4)).1 :=
  (configuration_stays_within fresh_bounded (runOps_overridden 4)).2 fresh_fit
    (fun op listed => by
      rw [List.mem_singleton.mp listed]
      change validateSafeBounds _ _ _ = []
      decide +kernel) "user-1" none

/-- An override of the leverage for all users is accepted, and is in force above the bound. -/
theorem configuration_exceeds :
    ¬∀ ops final, runOps (fun _ => none) (fun _ => none) ops RiskStore.fresh = .ok final →
      WithinSafeBounds (resolveEffectiveConfigForUser (fun _ => none) (fun _ => none) "user-1" none
        final).1 := by
  intro within
  obtain ⟨figure, inForce, atMost⟩ := within _ _ (runOps_overridden 50) .maxLeverage
  have fifty : figure = 50 := by
    cases inForce
    decide +kernel
  rw [fifty] at atMost
  exact absurd atMost (by decide +kernel)

end Runs

end Risk
