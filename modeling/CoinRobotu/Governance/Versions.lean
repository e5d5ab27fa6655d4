import Mathlib.Data.Rat.Floor
import Mathlib.Data.List.Nodup
import Mathlib.Data.List.Lex
import CoinRobotu.Runtime.Text

/-!
# Policy versions

A policy has numbered versions, and its row in the policy table holds the rules
and conditions that govern without an override. Creating a version, activating
it, approving it and rolling back to it rewrite states of versions and that row;
each call runs in a session of its own and is committed at its end, and one that
raises leaves everything as it was. Rules and conditions are opaque here, and
version identifiers that `uuid4` draws are numbers.
-/

namespace Governance

open Runtime (upper lower strip orElse)

abbrev Id := Nat

/-- `rollout_strategy`; a missing list is empty. -/
structure RolloutStrategy where
  environments : List String
  strategyIds : List String
  symbols : List String
  trafficPercentage : Option ℚ
deriving DecidableEq

def RolloutStrategy.everywhere : RolloutStrategy := ⟨[], [], [], none⟩

variable {Payload : Type}

structure ExecutionPolicyVersion (Payload : Type) where
  versionId : Id
  policyCode : String
  versionNumber : ℕ
  state : String
  approvalStatus : String
  createdBy : String
  approvedBy : Option String
  changeSummary : Option String
  rollbackTargetVersion : Option Id
  rolloutStrategy : RolloutStrategy
  conditionsPayload : Payload
  rulesPayload : Payload
deriving DecidableEq

structure ExecutionPolicy (Payload : Type) where
  policyCode : String
  conditionsPayload : Payload
  rulesPayload : Payload
deriving DecidableEq

/-- The two tables, with their unique constraints. -/
structure Store (Payload : Type) where
  versions : List (ExecutionPolicyVersion Payload)
  policies : List (ExecutionPolicy Payload)
  nextId : Id
  ids_nodup : (versions.map ExecutionPolicyVersion.versionId).Nodup
  ids_below : ∀ version ∈ versions, version.versionId < nextId
  policies_nodup : (policies.map ExecutionPolicy.policyCode).Nodup

def newest : List (ExecutionPolicyVersion Payload) → Option (ExecutionPolicyVersion Payload)
  | [] => none
  | version :: versions =>
      match newest versions with
      | none => some version
      | some other =>
        if other.versionNumber ≤ version.versionNumber then some version else some other

namespace Store

variable (store : Store Payload)

def findVersion (versionId : Id) : Option (ExecutionPolicyVersion Payload) :=
  store.versions.find? (·.versionId = versionId)

/-- Rewrite versions, keeping their identifiers. -/
def mapVersions (change : ExecutionPolicyVersion Payload → ExecutionPolicyVersion Payload)
    (keeps : ∀ version, (change version).versionId = version.versionId) : Store Payload :=
  { store with
    versions := store.versions.map change
    ids_nodup := by
      have same : (store.versions.map change).map ExecutionPolicyVersion.versionId =
          store.versions.map ExecutionPolicyVersion.versionId := by
        rw [List.map_map]
        exact List.map_congr_left fun version _ => keeps version
      rw [same]
      exact store.ids_nodup
    ids_below := by
      intro version inside
      obtain ⟨earlier, isEarlier, rfl⟩ := List.mem_map.mp inside
      rw [keeps]
      exact store.ids_below earlier isEarlier }

/-- The policy row takes over the rules and conditions of a version, if there is one. -/
def publish (version : ExecutionPolicyVersion Payload) : Store Payload :=
  { store with
    policies := store.policies.map fun policy =>
      if policy.policyCode = version.policyCode then
        { policy with
          rulesPayload := version.rulesPayload
          conditionsPayload := version.conditionsPayload }
      else policy
    policies_nodup := by
      have same : (store.policies.map fun policy =>
          if policy.policyCode = version.policyCode then
            { policy with
              rulesPayload := version.rulesPayload
              conditionsPayload := version.conditionsPayload }
          else policy).map ExecutionPolicy.policyCode =
            store.policies.map ExecutionPolicy.policyCode := by
        rw [List.map_map]
        apply List.map_congr_left
        intro policy _
        simp only [Function.comp_apply]
        split <;> rfl
      rw [same]
      exact store.policies_nodup }

end Store

/-- The state that `create_policy_version` writes. -/
def createdState (state : String) : String := upper (orElse (some state) "DRAFT")

/-- The row that `create_policy_version` adds. -/
def newVersion (store : Store Payload) (policyCode : String)
    (conditionsPayload rulesPayload : Payload)
    (changeSummary createdBy state : String) : ExecutionPolicyVersion Payload :=
  { versionId := store.nextId
    policyCode
    versionNumber :=
      ((newest (store.versions.filter (·.policyCode = policyCode))).elim 0
        ExecutionPolicyVersion.versionNumber) + 1
    state := createdState state
    approvalStatus := "pending"
    createdBy
    approvedBy := none
    changeSummary := some changeSummary
    rollbackTargetVersion := none
    rolloutStrategy := .everywhere
    conditionsPayload
    rulesPayload }

/-- `create_policy_version`; the column of the state holds 20 characters. -/
def createPolicyVersion (store : Store Payload) (policyCode : String)
    (conditionsPayload rulesPayload : Payload) (changeSummary createdBy state : String) :
    Except String (Store Payload) :=
  if 20 < (createdState state).length then .error "value too long for type character varying(20)"
  else
    let row := newVersion store policyCode conditionsPayload rulesPayload changeSummary
      createdBy state
    .ok { store with
      versions := store.versions ++ [row]
      nextId := store.nextId + 1
      ids_nodup := by
        rw [List.map_append, List.nodup_append]
        refine ⟨store.ids_nodup, List.nodup_singleton _, ?_⟩
        rintro id inside _ isNew rfl
        obtain ⟨version, isVersion, rfl⟩ := List.mem_map.mp inside
        have same : version.versionId = store.nextId := List.mem_singleton.mp isNew
        have below := store.ids_below version isVersion
        rw [same] at below
        exact Nat.lt_irrefl _ below
      ids_below := by
        intro version inside
        rcases List.mem_append.mp inside with earlier | new
        · exact Nat.lt_succ_of_lt (store.ids_below version earlier)
        · cases List.mem_singleton.mp new
          exact Nat.lt_succ_self _ }

def liveEnvironments : List String := ["live", "prod", "production"]

def superseded (row : ExecutionPolicyVersion Payload) (states : List String)
    (version : ExecutionPolicyVersion Payload) : ExecutionPolicyVersion Payload :=
  if version.policyCode = row.policyCode ∧ version.state ∈ states ∧
      version.versionId ≠ row.versionId then
    { version with state := "DEPRECATED" }
  else version

def changeOf (versionId : Id)
    (change : ExecutionPolicyVersion Payload → ExecutionPolicyVersion Payload)
    (version : ExecutionPolicyVersion Payload) : ExecutionPolicyVersion Payload :=
  if version.versionId = versionId then change version else version

/-- What `activate_policy_version` does to a version. -/
def activated (row : ExecutionPolicyVersion Payload) (mode actorUserId : String)
    (version : ExecutionPolicyVersion Payload) : ExecutionPolicyVersion Payload :=
  if mode = "CANARY" then
    changeOf row.versionId (fun version => { version with state := "CANARY" })
      (superseded row ["CANARY"] version)
  else
    changeOf row.versionId
      (fun version =>
        { version with
          state := "ACTIVE"
          approvedBy :=
            if lower row.approvalStatus = "approved" then some actorUserId else row.approvedBy })
      (superseded row ["ACTIVE", "CANARY"] version)

theorem activated_versionId (row : ExecutionPolicyVersion Payload) (mode actorUserId : String)
    (version : ExecutionPolicyVersion Payload) :
    (activated row mode actorUserId version).versionId = version.versionId := by
  unfold activated changeOf superseded
  split <;> split <;> split <;> rfl

/-- `activate_policy_version`. -/
def activatePolicyVersion (store : Store Payload) (versionId : Id)
    (actorUserId environment activationMode : String) : Except String (Store Payload) :=
  match store.findVersion versionId with
  | none => .error "policy_version_not_found"
  | some row =>
      let env := lower (orElse (some environment) "live")
      let mode := upper (orElse (some activationMode) "ACTIVE")
      if mode ∉ ["ACTIVE", "CANARY"] then .error "invalid_activation_mode"
      else if env ∈ liveEnvironments ∧ lower (orElse (some row.approvalStatus) "pending") ≠
        "approved" then
        .error "approval_required_for_prod_activation"
      else
        let next := store.mapVersions (activated row mode actorUserId)
          (activated_versionId row mode actorUserId)
        .ok (if mode = "CANARY" then next else next.publish row)

/-- What `approve_policy_version` does to a version. -/
def approved (versionId : Id) (actorUserId : String) (version : ExecutionPolicyVersion Payload) :
    ExecutionPolicyVersion Payload :=
  changeOf versionId
    (fun version =>
      { version with approvalStatus := "approved", approvedBy := some actorUserId }) version

theorem approved_versionId (versionId : Id) (actorUserId : String)
    (version : ExecutionPolicyVersion Payload) :
    (approved versionId actorUserId version).versionId = version.versionId := by
  unfold approved changeOf
  split <;> rfl

/-- `approve_policy_version`. -/
def approvePolicyVersion (store : Store Payload) (versionId : Id) (actorUserId : String) :
    Except String (Store Payload) :=
  match store.findVersion versionId with
  | none => .error "policy_version_not_found"
  | some _ =>
      .ok (store.mapVersions (approved versionId actorUserId)
        (approved_versionId versionId actorUserId))

/-- The update of the active versions when one is rolled back to; it may be among them. -/
def retire (target : ExecutionPolicyVersion Payload) (version : ExecutionPolicyVersion Payload) :
    ExecutionPolicyVersion Payload :=
  if version.policyCode = target.policyCode ∧ version.state = "ACTIVE" then
    { version with state := "ROLLED_BACK", rollbackTargetVersion := some target.versionId }
  else version

/-- What `rollback_policy_version` does to a version. An attribute that is assigned
the value it was loaded with is not written. -/
def rolledBack (target : ExecutionPolicyVersion Payload) (actorUserId reason : String)
    (version : ExecutionPolicyVersion Payload) : ExecutionPolicyVersion Payload :=
  changeOf target.versionId
    (fun version =>
      { version with
        state := if target.state = "ACTIVE" then version.state else "ACTIVE"
        approvedBy := some actorUserId
        approvalStatus := "approved"
        changeSummary := some
          (strip (target.changeSummary.getD "" ++ "\nROLLBACK_REASON:" ++ reason)) })
    (retire target version)

theorem rolledBack_versionId (target : ExecutionPolicyVersion Payload) (actorUserId reason : String)
    (version : ExecutionPolicyVersion Payload) :
    (rolledBack target actorUserId reason version).versionId = version.versionId := by
  unfold rolledBack changeOf retire
  split <;> split <;> rfl

/-- `rollback_policy_version`. -/
def rollbackPolicyVersion (store : Store Payload) (policyCode : String) (targetVersionId : Id)
    (actorUserId reason : String) : Except String (Store Payload) :=
  match store.findVersion targetVersionId with
  | none => .error "rollback_target_not_found"
  | some target =>
      if target.policyCode ≠ policyCode then .error "rollback_target_not_found"
      else .ok ((store.mapVersions (rolledBack target actorUserId reason)
        (rolledBack_versionId target actorUserId reason)).publish target)

/-- What `resolve_policy_version_override` reads of a context. -/
structure Context where
  environment : String
  strategyBinding : String
  symbol : String
  userId : String
  traceId : String
  intentToken : String

/-- `int(float(raw))`. -/
def truncated (value : ℚ) : ℤ := if 0 ≤ value then ⌊value⌋ else ⌈value⌉

def listed (items : List String) : List String := items.filter fun item => strip item ≠ ""

/-- `_rollout_matches`; `digest` is the number in the first eight digits of `sha1`. -/
def rolloutMatches (digest : String → ℕ) (strategy : RolloutStrategy) (context : Context) : Bool :=
  let envs := (listed strategy.environments).map lower
  let strategies := listed strategy.strategyIds
  let symbols := (listed strategy.symbols).map upper
  if envs ≠ [] ∧ lower context.environment ∉ envs then false
  else if strategies ≠ [] ∧ context.strategyBinding ∉ strategies then false
  else if symbols ≠ [] ∧ upper context.symbol ∉ symbols then false
  else
    let pct := max (min (truncated (strategy.trafficPercentage.getD 100)) 100) 0
    if 100 ≤ pct then true
    else if pct ≤ 0 then false
    else
      let seed := orElse (some context.userId)
        (orElse (some context.traceId) (orElse (some context.intentToken) "fallback"))
      decide ((digest seed % 100 : ℕ) < pct)

/-- What `resolve_policy_version_override` returns. -/
structure Override (Payload : Type) where
  versionId : Id
  versionNumber : ℕ
  state : String
  mode : String
  rulesPayload : Payload
  conditionsPayload : Payload

def Store.newestIn (store : Store Payload) (policyCode state : String) :
    Option (ExecutionPolicyVersion Payload) :=
  newest (store.versions.filter fun version =>
    version.policyCode = policyCode ∧ version.state = state)

def chosenVersion (digest : String → ℕ) (store : Store Payload) (policyCode : String)
    (context : Context) : Option (ExecutionPolicyVersion Payload × String) :=
  let active := (store.newestIn policyCode "ACTIVE").map fun version => (version, "ACTIVE")
  match store.newestIn policyCode "CANARY" with
  | none => active
  | some canary =>
      if rolloutMatches digest canary.rolloutStrategy context then some (canary, "CANARY")
      else active

def resolvePolicyVersionOverride (digest : String → ℕ) (store : Store Payload) (policyCode : String)
    (context : Context) : Option (Override Payload) :=
  (chosenVersion digest store policyCode context).map fun (version, mode) =>
    { versionId := version.versionId
      versionNumber := version.versionNumber
      state := version.state
      mode
      rulesPayload := version.rulesPayload
      conditionsPayload := version.conditionsPayload }

end Governance
