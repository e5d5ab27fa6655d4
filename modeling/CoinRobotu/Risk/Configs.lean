import CoinRobotu.Keyed.Layers
import CoinRobotu.Numeric.Limits
import CoinRobotu.Risk.Engine

/-!
# The stored configuration and its overrides

A configuration is a record of settings, kept in the cache, in a file and in a backup file. It is
read with a default for whatever cannot be read, and written back within its lower bounds. A patch
is held against the safe bounds before it is merged, a profile is such a patch.
-/

namespace Risk

open Keyed Numeric
open Runtime (lower strip blank)

/-- A value of a configuration as it is given; of a list or a dictionary it matters only whether
it holds something. -/
inductive Setting where
  | null
  | number (value : ℚ)
  | text (content : String)
  | flag (truth : Bool)
  | nested (filled : Bool)
  deriving DecidableEq

abbrev Payload := String → Option Setting

def record (entries : List (String × Setting)) : Payload := fun key => entries.lookup key

def Setting.truthy : Setting → Bool
  | .null => false
  | .number value => value ≠ 0
  | .text content => content ≠ ""
  | .flag truth => truth
  | .nested filled => filled

/-- The settings of a configuration under their names. -/
def configEntries (config : RiskSettings) : List (String × Setting) :=
  [("max_risk_per_trade_pct", .number config.maxRiskPerTradePct),
    ("max_total_exposure_pct", .number config.maxTotalExposurePct),
    ("max_symbol_exposure_pct", .number config.maxSymbolExposurePct),
    ("max_cluster_exposure_pct", .number config.maxClusterExposurePct),
    ("max_leverage", .number config.maxLeverage),
    ("min_liquidation_distance_pct", .number config.minLiquidationDistancePct),
    ("max_margin_usage_pct", .number config.maxMarginUsagePct),
    ("stale_data_threshold_ms", .number config.staleDataThresholdMs),
    ("spread_threshold_bps", .number config.spreadThresholdBps),
    ("max_slippage_pct", .number config.maxSlippagePct),
    ("execution_quality_threshold", .number config.executionQualityThreshold),
    ("max_daily_loss_pct", .number config.maxDailyLossPct),
    ("max_consecutive_losses", .number config.maxConsecutiveLosses),
    ("symbol_cooldown_minutes", .number config.symbolCooldownMinutes),
    ("strategy_cooldown_minutes", .number config.strategyCooldownMinutes),
    ("global_cooldown_minutes", .number config.globalCooldownMinutes),
    ("kill_switch_enabled", .flag config.killSwitchEnabled)]

/-- `DEFAULT_RISK_CONFIG` with its version. -/
def defaultPayload : Payload :=
  record (configEntries defaultRiskConfig ++ [("config_version", .number 1)])

/-- `RISK_POLICY_PROFILES`. -/
def riskPolicyProfiles : List (String × List (String × Setting)) :=
  [("conservative",
      [("max_risk_per_trade_pct", .number 1), ("max_total_exposure_pct", .number 35),
        ("max_symbol_exposure_pct", .number 15), ("max_cluster_exposure_pct", .number 20),
        ("max_leverage", .number 3), ("execution_quality_threshold", .number 72),
        ("spread_threshold_bps", .number 20), ("stale_data_threshold_ms", .number 90000)]),
    ("balanced",
      [("max_risk_per_trade_pct", .number 2), ("max_total_exposure_pct", .number 50),
        ("max_symbol_exposure_pct", .number 25), ("max_cluster_exposure_pct", .number 35),
        ("max_leverage", .number 5), ("execution_quality_threshold", .number 65),
        ("spread_threshold_bps", .number 30), ("stale_data_threshold_ms", .number 120000)]),
    ("aggressive",
      [("max_risk_per_trade_pct", .number (35 / 10)), ("max_total_exposure_pct", .number 50),
        ("max_symbol_exposure_pct", .number 35), ("max_cluster_exposure_pct", .number 45),
        ("max_leverage", .number 8), ("execution_quality_threshold", .number 58),
        ("spread_threshold_bps", .number 40), ("stale_data_threshold_ms", .number 150000)])]

/-- The settings with a safe bound. -/
inductive Limit where
  | maxRiskPerTradePct
  | maxTotalExposurePct
  | maxLeverage
  deriving DecidableEq

namespace Limit

def all : List Limit := [.maxRiskPerTradePct, .maxTotalExposurePct, .maxLeverage]

def name : Limit → String
  | .maxRiskPerTradePct => "max_risk_per_trade_pct"
  | .maxTotalExposurePct => "max_total_exposure_pct"
  | .maxLeverage => "max_leverage"

/-- `SAFE_BOUNDS_MAX`. -/
def bound : Limit → ℚ
  | .maxRiskPerTradePct => 5
  | .maxTotalExposurePct => 50
  | .maxLeverage => 10

def least : Limit → ℚ
  | .maxRiskPerTradePct => 1 / 10
  | .maxTotalExposurePct => 1
  | .maxLeverage => 1

def fallback : Limit → ℚ
  | .maxRiskPerTradePct => 2
  | .maxTotalExposurePct => 50
  | .maxLeverage => 5

end Limit

section Reading

variable (readFloat : String → Option ℚ) (readInt : String → Option ℤ)

/-- What `float` makes of a setting, if it does not raise. -/
def asFloat : Setting → Option ℚ
  | .number value => some value
  | .text content => readFloat content
  | .flag truth => some (if truth then 1 else 0)
  | .null | .nested _ => none

/-- What `int` makes of a setting, if it does not raise. -/
def asInt : Setting → Option ℤ
  | .number value => some (wholePart value)
  | .text content => readInt content
  | .flag truth => some (if truth then 1 else 0)
  | .null | .nested _ => none

/-- `_to_float`. -/
def toFloat (value : Option Setting) (default : ℚ) : ℚ :=
  (value.bind (asFloat readFloat)).getD default

/-- `_to_int`. -/
def toInt (value : Option Setting) (default : ℤ) : ℤ :=
  (value.bind (asInt readInt)).getD default

/-- The settings of a record, with the defaults of `_normalized_config`. -/
def settingsOf (payload : Payload) : RiskSettings where
  maxRiskPerTradePct := toFloat readFloat (payload "max_risk_per_trade_pct") 2
  maxTotalExposurePct := toFloat readFloat (payload "max_total_exposure_pct") 50
  maxSymbolExposurePct := toFloat readFloat (payload "max_symbol_exposure_pct") 25
  maxClusterExposurePct := toFloat readFloat (payload "max_cluster_exposure_pct") 35
  maxLeverage := toInt readInt (payload "max_leverage") 5
  minLiquidationDistancePct := toFloat readFloat (payload "min_liquidation_distance_pct") 6
  maxMarginUsagePct := toFloat readFloat (payload "max_margin_usage_pct") 70
  staleDataThresholdMs := toInt readInt (payload "stale_data_threshold_ms") 120000
  spreadThresholdBps := toFloat readFloat (payload "spread_threshold_bps") 30
  maxSlippagePct := toFloat readFloat (payload "max_slippage_pct") (8 / 10)
  executionQualityThreshold := toFloat readFloat (payload "execution_quality_threshold") 65
  maxDailyLossPct := toFloat readFloat (payload "max_daily_loss_pct") 4
  maxConsecutiveLosses := toInt readInt (payload "max_consecutive_losses") 4
  symbolCooldownMinutes := toInt readInt (payload "symbol_cooldown_minutes") 30
  strategyCooldownMinutes := toInt readInt (payload "strategy_cooldown_minutes") 30
  globalCooldownMinutes := toInt readInt (payload "global_cooldown_minutes") 60
  killSwitchEnabled := ((payload "kill_switch_enabled").getD (.flag false)).truthy

/-- `_normalized_config`, from the record that is given to the record that is written. -/
def normalizedPayload (raw : Payload) : Payload :=
  let payload := overlay raw defaultPayload
  let config := normalizedConfig (settingsOf readFloat readInt payload)
  let version := max 1 (toInt readInt (payload "config_version") 1)
  overlay (record (configEntries config.toRiskSettings ++ [("config_version", .number version)]))
    payload

def Limit.read : Limit → Setting → Option ℚ
  | .maxLeverage, value => (asInt readInt value).map Int.cast
  | _, value => asFloat readFloat value

/-- `_validate_safe_bounds`. -/
def validateSafeBounds (patch : Payload) : List String :=
  Limit.all.filterMap fun limit =>
    if limit.bound < ((patch limit.name).bind (limit.read readFloat readInt)).getD 0
    then some (limit.name ++ "_exceeds_safe_bound") else none

end Reading

/-- A file as it is found. -/
inductive Stored (Content : Type) where
  | missing
  | unreadable
  | holding (content : Content)

structure PolicyOverrides where
  global : Payload
  tenants : String → Option Payload
  users : String → Option Payload

def PolicyOverrides.none : PolicyOverrides := ⟨fun _ => .none, fun _ => .none, fun _ => .none⟩

/-- What is kept of the configuration and the overrides. -/
structure RiskStore where
  cached : Option Payload
  file : Stored Payload
  backup : Stored Payload
  overrides : Stored PolicyOverrides

section Operations

variable (readFloat : String → Option ℚ) (readInt : String → Option ℤ)

/-- `_read_file_config`. -/
def readFileConfig (store : RiskStore) : Payload × RiskStore :=
  match store.file with
  | .holding raw =>
    let normalized := normalizedPayload readFloat readInt raw
    let backup := match store.backup with
      | .missing => .holding normalized
      | present => present
    (normalized, { store with file := .holding normalized, backup := backup })
  | .missing | .unreadable =>
    let normalized := normalizedPayload readFloat readInt defaultPayload
    (normalized, { store with file := .holding normalized, backup := .holding normalized })

/-- `load_risk_config`. -/
def loadRiskConfig (store : RiskStore) : Payload × RiskStore :=
  match store.cached with
  | some cached => (normalizedPayload readFloat readInt cached, store)
  | none =>
    let (payload, after) := readFileConfig readFloat readInt store
    (payload, { after with cached := some payload })

def nextVersion (current payload : Payload) : Payload :=
  overlay (record [("config_version", .number (toInt readInt (current "config_version") 1 + 1))])
    payload

/-- `patch_risk_config`. -/
def patchRiskConfig (patch : Payload) (store : RiskStore) : Except String RiskStore :=
  let violations := validateSafeBounds readFloat readInt patch
  if violations ≠ [] then
    .error ("safe_bounds_violation: " ++ ",".intercalate violations)
  else
    let (current, after) := loadRiskConfig readFloat readInt store
    let merged := nextVersion readInt current
      (normalizedPayload readFloat readInt (overlay patch current))
    .ok { after with
      backup := .holding (normalizedPayload readFloat readInt current)
      file := .holding merged
      cached := some merged }

/-- `reload_risk_config`. -/
def reloadRiskConfig (store : RiskStore) : RiskStore :=
  let (payload, after) := readFileConfig readFloat readInt store
  { after with cached := some payload }

/-- `rollback_risk_config`. -/
def rollbackRiskConfig (store : RiskStore) : Except String RiskStore :=
  match store.backup with
  | .missing => .error "backup_config_missing"
  | .unreadable => .error "JSONDecodeError"
  | .holding raw =>
    let (current, after) := loadRiskConfig readFloat readInt store
    let restored := nextVersion readInt current (normalizedPayload readFloat readInt raw)
    .ok { after with file := .holding restored, cached := some restored }

/-- `apply_policy_profile`. -/
def applyPolicyProfile (profile : String) (store : RiskStore) : Except String RiskStore :=
  let profileKey := strip (lower profile)
  match riskPolicyProfiles.lookup profileKey with
  | none => .error "unknown_policy_profile"
  | some entries =>
    patchRiskConfig readFloat readInt
      (record (entries ++ [("active_profile", .text profileKey)])) store

/-- `get_policy_overrides`. -/
def getPolicyOverrides (store : RiskStore) : PolicyOverrides × RiskStore :=
  match store.overrides with
  | .holding overrides => (overrides, store)
  | .missing | .unreadable => (.none, { store with overrides := .holding .none })

/-- `upsert_policy_overrides`. -/
def upsertPolicyOverrides (scope key : String) (values : Payload) (store : RiskStore) :
    Except String RiskStore :=
  let (overrides, after) := getPolicyOverrides store
  let scopeKey := strip (lower scope)
  let named := if key = "" then "default" else key
  if scopeKey = "global" then
    .ok { after with overrides := .holding { overrides with global := values } }
  else if scopeKey = "tenants" then
    .ok { after with overrides := .holding { overrides with
      tenants := Function.update overrides.tenants named (some values) } }
  else if scopeKey = "users" then
    .ok { after with overrides := .holding { overrides with
      users := Function.update overrides.users named (some values) } }
  else .error "invalid_scope"

/-- What the overrides set for a user: those of the user over those of the tenant over those of
all. -/
def PolicyOverrides.inForce (overrides : PolicyOverrides) (userId : String)
    (tenantId : Option String) : Payload :=
  let ofTenant := if blank tenantId then fun _ => .none
    else (overrides.tenants (tenantId.getD "")).getD fun _ => .none
  overlay ((overrides.users userId).getD fun _ => .none) (overlay ofTenant overrides.global)

def resolveEffectiveConfigForUser (userId : String) (tenantId : Option String)
    (store : RiskStore) : Payload × RiskStore :=
  let (baseConfig, loaded) := loadRiskConfig readFloat readInt store
  let (overrides, after) := getPolicyOverrides loaded
  (normalizedPayload readFloat readInt (overlay (overrides.inForce userId tenantId) baseConfig),
    after)

/-- What the service is asked to do. -/
inductive ConfigOp where
  | patch (values : Payload)
  | applyProfile (profile : String)
  | upsert (scope key : String) (values : Payload)
  | rollback
  | reload
  | resolve (userId : String) (tenantId : Option String)

def ConfigOp.apply : ConfigOp → RiskStore → Except String RiskStore
  | .patch values => patchRiskConfig readFloat readInt values
  | .applyProfile profile => applyPolicyProfile readFloat readInt profile
  | .upsert scope key values => upsertPolicyOverrides scope key values
  | .rollback => rollbackRiskConfig readFloat readInt
  | .reload => fun store => .ok (reloadRiskConfig readFloat readInt store)
  | .resolve userId tenantId => fun store =>
    .ok (resolveEffectiveConfigForUser readFloat readInt userId tenantId store).2

def runOps (ops : List ConfigOp) (store : RiskStore) : Except String RiskStore :=
  ops.foldlM (fun store op => op.apply readFloat readInt store) store

end Operations

end Risk
