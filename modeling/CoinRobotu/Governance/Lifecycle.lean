import CoinRobotu.Governance.Versions
import CoinRobotu.Interleaving.Calls

/-!
# One active version, and the live policy row

Activating a version and rolling back to one retire the versions that were active
before, and write the policy row.
-/

open Interleaving

namespace Governance

open Runtime (upper lower strip orElse)

variable {Payload : Type}

/-- The calls of the four operations. -/
inductive Call (Payload : Type) where
  | create (policyCode : String) (conditionsPayload rulesPayload : Payload)
      (changeSummary createdBy state : String)
  | activate (versionId : Id) (actorUserId environment activationMode : String)
  | approve (versionId : Id) (actorUserId : String)
  | rollback (policyCode : String) (targetVersionId : Id) (actorUserId reason : String)

def Store.perform (store : Store Payload) : Call Payload → Except String (Store Payload)
  | .create policyCode conditions rules summary createdBy state =>
      createPolicyVersion store policyCode conditions rules summary createdBy state
  | .activate versionId actor environment mode =>
      activatePolicyVersion store versionId actor environment mode
  | .approve versionId actor => approvePolicyVersion store versionId actor
  | .rollback policyCode target actor reason =>
    rollbackPolicyVersion store policyCode target actor reason

def Store.after (store : Store Payload) (call : Call Payload) : Store Payload :=
  match store.perform call with
  | .ok next => next
  | .error _ => store

/-- A version of a policy in a state. -/
structure Store.HasIn (store : Store Payload) (policyCode state : String)
    (version : ExecutionPolicyVersion Payload) : Prop where
  inside : version ∈ store.versions
  code : version.policyCode = policyCode
  state : version.state = state

def ExecutionPolicy.Publishes (policy : ExecutionPolicy Payload)
    (version : ExecutionPolicyVersion Payload) : Prop :=
  policy.rulesPayload = version.rulesPayload ∧ policy.conditionsPayload = version.conditionsPayload

/-- At most one version of a policy is active and at most one is canary, and the
policy row is that of an active version. -/
structure Store.Lawful (policyCode : String) (store : Store Payload) : Prop where
  active : ∀ version other, store.HasIn policyCode "ACTIVE" version →
    store.HasIn policyCode "ACTIVE" other → version = other
  canary : ∀ version other, store.HasIn policyCode "CANARY" version →
    store.HasIn policyCode "CANARY" other → version = other
  live : ∀ version, store.HasIn policyCode "ACTIVE" version →
    ∀ policy ∈ store.policies, policy.policyCode = policyCode → policy.Publishes version

/-- A version created as active or as canary is the only one, and an active one is
what the policy row has already. -/
def Store.Careful (policyCode : String) (store : Store Payload) : Call Payload → Prop
  | .create code conditions rules _ _ state => code = policyCode →
      (createdState state = "ACTIVE" →
        (∀ version, ¬store.HasIn policyCode "ACTIVE" version) ∧
          ∀ policy ∈ store.policies, policy.policyCode = policyCode →
            policy.rulesPayload = rules ∧ policy.conditionsPayload = conditions) ∧
      (createdState state = "CANARY" → ∀ version, ¬store.HasIn policyCode "CANARY" version)
  | _ => True

section Lookup

variable {store : Store Payload}

/-- Versions are known by their identifier. -/
theorem Store.same_version {version other : ExecutionPolicyVersion Payload}
    (first : version ∈ store.versions) (second : other ∈ store.versions)
    (same : version.versionId = other.versionId) : version = other :=
  List.inj_on_of_nodup_map store.ids_nodup first second same

theorem Store.findVersion_some {versionId : Id} {version : ExecutionPolicyVersion Payload}
    (found : store.findVersion versionId = some version) :
    version ∈ store.versions ∧ version.versionId = versionId :=
  ⟨List.mem_of_find?_eq_some found, by simpa using List.find?_some found⟩

end Lookup

section Outcomes

variable {store next : Store Payload}

theorem Store.after_ok {call : Call Payload} (done : store.perform call = .ok next) :
    store.after call = next := by
  unfold Store.after
  rw [done]

theorem Store.after_error {call : Call Payload} {failure : String}
    (failed : store.perform call = .error failure) : store.after call = store := by
  unfold Store.after
  rw [failed]

theorem createPolicyVersion_ok {policyCode : String} {conditions rules : Payload}
    {summary createdBy state : String}
    (done : createPolicyVersion store policyCode conditions rules summary createdBy
      state = .ok next) :
    next.versions =
        store.versions ++ [newVersion store policyCode conditions rules summary createdBy state] ∧
      next.policies = store.policies := by
  unfold createPolicyVersion at done
  split at done
  · cases done
  · cases done
    exact ⟨rfl, rfl⟩

/-- A version was activated: approved in a live environment, as active or as canary. -/
theorem activatePolicyVersion_ok {versionId : Id} {actorUserId environment activationMode : String}
    (done : activatePolicyVersion store versionId actorUserId environment
      activationMode = .ok next) :
    ∃ row, store.findVersion versionId = some row ∧
      upper (orElse (some activationMode) "ACTIVE") ∈ ["ACTIVE", "CANARY"] ∧
      (lower (orElse (some environment) "live") ∈ liveEnvironments →
        lower (orElse (some row.approvalStatus) "pending") = "approved") ∧
      (next = store.mapVersions (activated row "CANARY" actorUserId)
          (activated_versionId row "CANARY" actorUserId) ∨
        next = (store.mapVersions (activated row "ACTIVE" actorUserId)
          (activated_versionId row "ACTIVE" actorUserId)).publish row) := by
  unfold activatePolicyVersion at done
  cases found : store.findVersion versionId with
  | none =>
    rw [found] at done
    cases done
  | some row =>
    rw [found] at done
    dsimp only at done
    split at done
    · cases done
    · rename_i isMode
      split at done
      · cases done
      · rename_i allowed
        have approved : lower (orElse (some environment) "live") ∈ liveEnvironments →
            lower (orElse (some row.approvalStatus) "pending") = "approved" := by
          intro isLive
          by_contra unapproved
          exact allowed ⟨isLive, unapproved⟩
        have mode : upper (orElse (some activationMode) "ACTIVE") ∈ ["ACTIVE", "CANARY"] :=
          not_not.mp isMode
        refine ⟨row, rfl, mode, approved, ?_⟩
        rw [List.mem_cons, List.mem_singleton] at mode
        rcases mode with isActive | isCanary
        · rw [isActive] at done
          right
          cases done
          rfl
        · rw [isCanary] at done
          left
          cases done
          rfl

theorem approvePolicyVersion_ok {versionId : Id} {actorUserId : String}
    (done : approvePolicyVersion store versionId actorUserId = .ok next) :
    next = store.mapVersions (approved versionId actorUserId)
      (approved_versionId versionId actorUserId) := by
  unfold approvePolicyVersion at done
  split at done
  · cases done
  · cases done
    rfl

theorem rollbackPolicyVersion_ok {policyCode : String} {targetVersionId : Id}
    {actorUserId reason : String}
    (done : rollbackPolicyVersion store policyCode targetVersionId actorUserId reason = .ok next) :
    ∃ target, store.findVersion targetVersionId = some target ∧ target.policyCode = policyCode ∧
      next = (store.mapVersions (rolledBack target actorUserId reason)
        (rolledBack_versionId target actorUserId reason)).publish target := by
  unfold rollbackPolicyVersion at done
  split at done
  · cases done
  · rename_i target found
    split at done
    · cases done
    · rename_i own
      cases done
      exact ⟨target, found, not_not.mp own, rfl⟩

end Outcomes

section Rewriting

variable {policyCode : String} {store next : Store Payload}
  {change : ExecutionPolicyVersion Payload → ExecutionPolicyVersion Payload}

/-- What a version is about, which no operation rewrites. -/
structure Keeps
    (change : ExecutionPolicyVersion Payload → ExecutionPolicyVersion Payload) : Prop where
  code : ∀ version, (change version).policyCode = version.policyCode
  rules : ∀ version, (change version).rulesPayload = version.rulesPayload
  conditions : ∀ version, (change version).conditionsPayload = version.conditionsPayload

/-- At most one version is in a state after a rewrite that puts one version there,
or none that was not there. -/
theorem Store.only_after (mapped : next.versions = store.versions.map change)
    (columns : Keeps change) {state : String}
    (only : (∃ versionId, ∀ version ∈ store.versions, version.policyCode = policyCode →
        (change version).state = state → version.versionId = versionId) ∨
      ((∀ version ∈ store.versions, version.policyCode = policyCode →
          (change version).state = state → version.state = state) ∧
        ∀ version other, store.HasIn policyCode state version → store.HasIn policyCode state other →
          version = other)) :
    ∀ version other, next.HasIn policyCode state version → next.HasIn policyCode state other →
      version = other := by
  intro version other first second
  obtain ⟨before, isBefore, rfl⟩ := List.mem_map.mp (mapped ▸ first.inside)
  obtain ⟨earlier, isEarlier, rfl⟩ := List.mem_map.mp (mapped ▸ second.inside)
  have code := (columns.code before).symm.trans first.code
  have otherCode := (columns.code earlier).symm.trans second.code
  rcases only with ⟨versionId, only⟩ | ⟨none, only⟩
  · have same := store.same_version isBefore isEarlier
      ((only before isBefore code first.state).trans
        (only earlier isEarlier otherCode second.state).symm)
    rw [same]
  · rw [only before earlier ⟨isBefore, code, none before isBefore code first.state⟩
      ⟨isEarlier, otherCode, none earlier isEarlier otherCode second.state⟩]

theorem activated_keeps (row : ExecutionPolicyVersion Payload) (mode actorUserId : String) :
    Keeps (activated row mode actorUserId) := by
  constructor
  all_goals
    intro version
    unfold activated changeOf superseded
    split <;> split <;> split <;> rfl

theorem rolledBack_keeps (target : ExecutionPolicyVersion Payload) (actorUserId reason : String) :
    Keeps (rolledBack target actorUserId reason) := by
  constructor
  all_goals
    intro version
    unfold rolledBack changeOf retire
    split <;> split <;> rfl

theorem approved_keeps (versionId : Id) (actorUserId : String) :
    Keeps (@approved Payload versionId actorUserId) := by
  constructor
  all_goals
    intro version
    unfold approved changeOf
    split <;> rfl

theorem Store.Lawful.live_map (lawful : store.Lawful policyCode)
    (mapped : next.versions = store.versions.map change) (columns : Keeps change)
    (none : ∀ version ∈ store.versions, version.policyCode = policyCode →
      (change version).state = "ACTIVE" → version.state = "ACTIVE") :
    ∀ version, next.HasIn policyCode "ACTIVE" version →
      ∀ policy ∈ store.policies, policy.policyCode = policyCode → policy.Publishes version := by
  intro version active policy inside isCode
  obtain ⟨before, isBefore, rfl⟩ := List.mem_map.mp (mapped ▸ active.inside)
  have code := (columns.code before).symm.trans active.code
  have earlier := lawful.live before ⟨isBefore, code, none before isBefore code active.state⟩ policy
    inside isCode
  exact ⟨earlier.1.trans (columns.rules before).symm,
    earlier.2.trans (columns.conditions before).symm⟩

theorem Store.publish_policies {row : ExecutionPolicyVersion Payload}
    {policy : ExecutionPolicy Payload}
    (inside : policy ∈ (store.publish row).policies) :
    (policy.policyCode = row.policyCode ∧ policy.Publishes row) ∨
      policy.policyCode ≠ row.policyCode ∧ policy ∈ store.policies := by
  obtain ⟨before, isBefore, rfl⟩ := List.mem_map.mp inside
  by_cases isOwn : before.policyCode = row.policyCode
  · rw [if_pos isOwn]
    exact .inl ⟨isOwn, rfl, rfl⟩
  · rw [if_neg isOwn]
    exact .inr ⟨isOwn, isBefore⟩

/-- The law holds after a version of the policy was made the active one, and
published, while no version became canary. -/
theorem Store.Lawful.promotes (lawful : store.Lawful policyCode)
    {row : ExecutionPolicyVersion Payload} (isRow : row ∈ store.versions)
    (keeps : ∀ version, (change version).versionId = version.versionId) (columns : Keeps change)
    (active : ∀ version ∈ store.versions, version.policyCode = row.policyCode →
      (change version).state = "ACTIVE" → version.versionId = row.versionId)
    (canary : ∀ version ∈ store.versions, (change version).state = "CANARY" →
      version.state = "CANARY")
    (others : ∀ version ∈ store.versions, version.policyCode ≠ row.policyCode →
      change version = version) :
    ((store.mapVersions change keeps).publish row).Lawful policyCode := by
  by_cases isCode : row.policyCode = policyCode
  · constructor
    · apply Store.only_after rfl columns
      exact .inl ⟨row.versionId, fun version inside code =>
        active version inside (code.trans isCode.symm)⟩
    · apply Store.only_after rfl columns
      exact .inr ⟨fun version inside _ => canary version inside, lawful.canary⟩
    · intro version isActive policy inside code
      obtain ⟨before, isBefore, rfl⟩ := List.mem_map.mp isActive.inside
      have beforeCode := (columns.code before).symm.trans isActive.code
      have same := active before isBefore (beforeCode.trans isCode.symm) isActive.state
      have isRow : before = row := store.same_version isBefore isRow same
      subst isRow
      rcases Store.publish_policies inside with ⟨_, published⟩ | ⟨foreign, _⟩
      · exact ⟨published.1.trans (columns.rules before).symm,
          published.2.trans (columns.conditions before).symm⟩
      · exact absurd (code.trans isCode.symm) foreign
  · have same : ∀ version ∈ store.versions, version.policyCode = policyCode →
        change version = version :=
      fun version inside code => others version inside fun isRow => isCode (isRow.symm.trans code)
    have unmoved : ∀ state, ∀ version ∈ store.versions, version.policyCode = policyCode →
        (change version).state = state → version.state = state := by
      intro state version inside code moved
      rw [same version inside code] at moved
      exact moved
    constructor
    · exact Store.only_after rfl columns (.inr ⟨unmoved _, lawful.active⟩)
    · exact Store.only_after rfl columns (.inr ⟨unmoved _, lawful.canary⟩)
    · intro version isActive policy inside code
      rcases Store.publish_policies inside with ⟨own, _⟩ | ⟨_, before⟩
      · exact absurd (own.symm.trans code) isCode
      · exact lawful.live_map rfl columns (unmoved _) version isActive policy before code

end Rewriting

section Steps

variable {policyCode : String} {store : Store Payload}

def retiredStates (mode : String) : List String :=
  if mode = "CANARY" then ["CANARY"] else ["ACTIVE", "CANARY"]

theorem activated_cases (row version : ExecutionPolicyVersion Payload) (mode actorUserId : String) :
    (version.versionId = row.versionId ∧
      (activated row mode actorUserId version).state =
        if mode = "CANARY" then "CANARY" else "ACTIVE") ∨
    (version.versionId ≠ row.versionId ∧ version.policyCode = row.policyCode ∧
      version.state ∈ retiredStates mode ∧
      (activated row mode actorUserId version).state = "DEPRECATED") ∨
    version.versionId ≠ row.versionId ∧
      (version.policyCode = row.policyCode → version.state ∉ retiredStates mode) ∧
      (activated row mode actorUserId version).state = version.state := by
  unfold activated changeOf superseded retiredStates
  by_cases isRow : version.versionId = row.versionId
  · left
    by_cases isCanary : mode = "CANARY" <;> simp [isRow, isCanary]
  · right
    by_cases isCanary : mode = "CANARY"
    · by_cases isRetired : version.policyCode = row.policyCode ∧ version.state = "CANARY"
      · simp [isRow, isCanary, isRetired]
      · have unretired := not_and.mp isRetired
        right
        simpa [isRow, isCanary, isRetired] using unretired
    · by_cases isRetired : version.policyCode = row.policyCode ∧
          (version.state = "ACTIVE" ∨ version.state = "CANARY")
      · simp [isRow, isCanary, isRetired]
      · have unretired := not_and.mp isRetired
        simp only [not_or] at unretired
        right
        simpa [isRow, isCanary, isRetired] using unretired

theorem activated_foreign {row version : ExecutionPolicyVersion Payload} (mode actorUserId : String)
    (isRow : row ∈ store.versions) (inside : version ∈ store.versions)
    (foreign : version.policyCode ≠ row.policyCode) :
    activated row mode actorUserId version = version := by
  have other : version.versionId ≠ row.versionId := by
    intro same
    exact foreign (congrArg _ (store.same_version inside isRow same))
  unfold activated changeOf superseded
  simp [foreign, other]

theorem rolledBack_state (target version : ExecutionPolicyVersion Payload)
    (actorUserId reason : String)
    (same : version.versionId = target.versionId → version = target) :
    (rolledBack target actorUserId reason version).state =
      if version.policyCode = target.policyCode ∧ version.state = "ACTIVE" then "ROLLED_BACK"
      else if version.versionId = target.versionId then "ACTIVE"
      else version.state := by
  unfold rolledBack changeOf retire
  by_cases isTarget : version.versionId = target.versionId
  · rw [same isTarget]
    by_cases isActive : target.state = "ACTIVE" <;> simp [isActive]
  · split <;> simp_all

theorem rolledBack_foreign {target version : ExecutionPolicyVersion Payload}
    (actorUserId reason : String)
    (isTarget : target ∈ store.versions) (inside : version ∈ store.versions)
    (foreign : version.policyCode ≠ target.policyCode) :
    rolledBack target actorUserId reason version = version := by
  have other : version.versionId ≠ target.versionId := by
    intro same
    exact foreign (congrArg _ (store.same_version inside isTarget same))
  unfold rolledBack changeOf retire
  simp [foreign, other]

variable {row : ExecutionPolicyVersion Payload}

section Lawful

variable (lawful : store.Lawful policyCode)

include lawful

/-- An activation as canary keeps the law. -/
theorem Store.Lawful.activates_canary (isRow : row ∈ store.versions) (actorUserId : String) :
    (store.mapVersions (activated row "CANARY" actorUserId)
      (activated_versionId row "CANARY" actorUserId)).Lawful policyCode := by
  have columns := activated_keeps row "CANARY" actorUserId
  have active : ∀ version ∈ store.versions, version.policyCode = policyCode →
      (activated row "CANARY" actorUserId version).state = "ACTIVE" → version.state = "ACTIVE" := by
    intro version _ _ moved
    rcases activated_cases row version "CANARY" actorUserId with ⟨_, state⟩ | ⟨_, _, _, state⟩ |
      ⟨_, _, state⟩
    · rw [state] at moved
      simp at moved
    · rw [state] at moved
      simp at moved
    · exact state.symm.trans moved
  have canary : ∀ version ∈ store.versions,
      (activated row "CANARY" actorUserId version).state = "CANARY" →
        version.versionId = row.versionId ∨
          version.state = "CANARY" ∧ version.policyCode ≠ row.policyCode := by
    intro version _ moved
    rcases activated_cases row version "CANARY" actorUserId with ⟨same, _⟩ | ⟨_, _, _, state⟩ |
      ⟨_, unretired, state⟩
    · exact .inl same
    · rw [state] at moved
      simp at moved
    · have isCanary : version.state = "CANARY" := state.symm.trans moved
      exact .inr ⟨isCanary, fun code => unretired code (by simp [retiredStates, isCanary])⟩
  constructor
  · exact Store.only_after rfl columns (.inr ⟨active, lawful.active⟩)
  · apply Store.only_after rfl columns
    by_cases isCode : row.policyCode = policyCode
    · refine .inl ⟨row.versionId, fun version inside code moved => ?_⟩
      rcases canary version inside moved with same | ⟨_, foreign⟩
      · exact same
      · exact absurd (code.trans isCode.symm) foreign
    · refine .inr ⟨fun version inside code moved => ?_, lawful.canary⟩
      have foreign : version.policyCode ≠ row.policyCode :=
        fun same => isCode (same.symm.trans code)
      rw [activated_foreign "CANARY" actorUserId isRow inside foreign] at moved
      exact moved
  · exact lawful.live_map rfl columns active

theorem Store.Lawful.activates (isRow : row ∈ store.versions) {mode : String}
    (isActive : mode ≠ "CANARY") (actorUserId : String) :
    ((store.mapVersions (activated row mode actorUserId)
      (activated_versionId row mode actorUserId)).publish row).Lawful policyCode := by
  apply lawful.promotes isRow _ (activated_keeps row mode actorUserId)
  · intro version _ code moved
    rcases activated_cases row version mode actorUserId with ⟨same, _⟩ | ⟨_, _, _, state⟩ |
      ⟨_, unretired, state⟩
    · exact same
    · rw [state] at moved
      simp at moved
    · have wasActive : version.state = "ACTIVE" := state.symm.trans moved
      exact absurd (by simp [retiredStates, isActive, wasActive]) (unretired code)
  · intro version _ moved
    rcases activated_cases row version mode actorUserId with ⟨_, state⟩ | ⟨_, _, _, state⟩ |
      ⟨_, _, state⟩
    · rw [state, if_neg isActive] at moved
      simp at moved
    · rw [state] at moved
      simp at moved
    · exact state.symm.trans moved
  · exact fun version inside => activated_foreign mode actorUserId isRow inside

theorem Store.Lawful.rollsBack
    {target : ExecutionPolicyVersion Payload} (isTarget : target ∈ store.versions)
    (actorUserId reason : String) :
    ((store.mapVersions (rolledBack target actorUserId reason)
      (rolledBack_versionId target actorUserId reason)).publish target).Lawful policyCode := by
  have state :=
    fun (version : ExecutionPolicyVersion Payload) (inside : version ∈ store.versions) =>
    rolledBack_state target version actorUserId reason (store.same_version inside isTarget)
  apply lawful.promotes isTarget _ (rolledBack_keeps target actorUserId reason)
  · intro version inside code moved
    rw [state version inside] at moved
    split at moved
    · simp at moved
    · rename_i wasInactive
      split at moved
      · assumption
      · exact absurd ⟨code, moved⟩ wasInactive
  · intro version inside moved
    rw [state version inside] at moved
    split at moved
    · simp at moved
    · split at moved
      · simp at moved
      · exact moved
  · exact fun version inside => rolledBack_foreign actorUserId reason isTarget inside

theorem Store.Lawful.approves (versionId : Id) (actorUserId : String) :
    (store.mapVersions (approved versionId actorUserId)
      (approved_versionId versionId actorUserId)).Lawful policyCode := by
  have columns := @approved_keeps Payload versionId actorUserId
  have unmoved : ∀ state, ∀ version ∈ store.versions, version.policyCode = policyCode →
      (approved versionId actorUserId version).state = state → version.state = state := by
    intro state version _ _ moved
    unfold approved changeOf at moved
    split at moved <;> exact moved
  constructor
  · exact Store.only_after rfl columns (.inr ⟨unmoved _, lawful.active⟩)
  · exact Store.only_after rfl columns (.inr ⟨unmoved _, lawful.canary⟩)
  · exact lawful.live_map rfl columns (unmoved _)

end Lawful

variable {next : Store Payload}

theorem Store.hasIn_added
    (added : next.versions = store.versions ++ [row]) {state : String}
    {version : ExecutionPolicyVersion Payload} :
    next.HasIn policyCode state version ↔
      store.HasIn policyCode state version ∨
        version = row ∧ row.policyCode = policyCode ∧ row.state = state := by
  constructor
  · rintro ⟨inside, code, isState⟩
    rw [added] at inside
    rcases List.mem_append.mp inside with earlier | new
    · exact .inl ⟨earlier, code, isState⟩
    · cases List.mem_singleton.mp new
      exact .inr ⟨rfl, code, isState⟩
  · rintro (⟨inside, code, isState⟩ | ⟨rfl, code, isState⟩)
    · exact ⟨added ▸ List.mem_append_left _ inside, code, isState⟩
    · exact ⟨added ▸ List.mem_append_right _ (List.mem_singleton.mpr rfl), code, isState⟩

theorem Store.only_added
    (added : next.versions = store.versions ++ [row]) {state : String}
    (only : ∀ version other, store.HasIn policyCode state version →
      store.HasIn policyCode state other → version = other)
    (fresh : row ∉ store.versions) :
    (∀ version other, next.HasIn policyCode state version → next.HasIn policyCode state other →
      version = other) ↔
      (row.policyCode = policyCode → row.state = state →
        ∀ version, ¬store.HasIn policyCode state version) := by
  constructor
  · intro unique code isState version before
    have same := unique version row ((Store.hasIn_added added).mpr (.inl before))
      ((Store.hasIn_added added).mpr (.inr ⟨rfl, code, isState⟩))
    subst same
    exact fresh before.inside
  · intro none version other first second
    rcases (Store.hasIn_added added).mp first with before | ⟨rfl, code, isState⟩
    · rcases (Store.hasIn_added added).mp second with earlier | ⟨rfl, code, isState⟩
      · exact only version other before earlier
      · exact absurd before (none code isState version)
    · rcases (Store.hasIn_added added).mp second with earlier | ⟨rfl, _, _⟩
      · exact absurd earlier (none code isState other)
      · rfl

theorem Store.Lawful.creates_iff
    (lawful : store.Lawful policyCode) (added : next.versions = store.versions ++ [row])
    (policies : next.policies = store.policies) (fresh : row ∉ store.versions) :
    next.Lawful policyCode ↔
      (row.policyCode = policyCode →
        (row.state = "ACTIVE" → (∀ version, ¬store.HasIn policyCode "ACTIVE" version) ∧
          ∀ policy ∈ store.policies, policy.policyCode = policyCode → policy.Publishes row) ∧
        (row.state = "CANARY" → ∀ version, ¬store.HasIn policyCode "CANARY" version)) := by
  constructor
  · intro kept code
    refine ⟨fun isActive => ⟨?_, ?_⟩, fun isCanary => ?_⟩
    · exact (Store.only_added added lawful.active fresh).mp kept.active code isActive
    · rw [← policies]
      exact kept.live row ((Store.hasIn_added added).mpr (.inr ⟨rfl, code, isActive⟩))
    · exact (Store.only_added added lawful.canary fresh).mp kept.canary code isCanary
  · intro careful
    constructor
    · exact (Store.only_added added lawful.active fresh).mpr fun code isActive =>
        ((careful code).1 isActive).1
    · exact (Store.only_added added lawful.canary fresh).mpr fun code isCanary =>
        (careful code).2 isCanary
    · intro version isActive
      rw [policies]
      rcases (Store.hasIn_added added).mp isActive with before | ⟨rfl, code, active⟩
      · exact lawful.live version before
      · exact ((careful code).1 active).2

theorem Store.created_of_error {code summary createdBy state failure : String}
    {conditions rules : Payload}
    (failed : store.perform (.create code conditions rules summary createdBy state) =
      .error failure) : createdState state ≠ "ACTIVE" ∧ createdState state ≠ "CANARY" := by
  have long : 20 < (createdState state).length := by
    by_contra short
    have done : store.perform (.create code conditions rules summary createdBy state) = .ok _ :=
      if_neg short
    rw [done] at failed
    cases failed
  constructor
  · intro isActive
    rw [isActive] at long
    exact absurd long (by decide)
  · intro isCanary
    rw [isCanary] at long
    exact absurd long (by decide)

theorem Store.careful_of_error {call : Call Payload} {failure : String}
    (failed : store.perform call = .error failure) : store.Careful policyCode call := by
  cases call with
  | create code conditions rules summary createdBy state =>
    obtain ⟨inactive, uncanaried⟩ := Store.created_of_error failed
    exact fun _ => ⟨fun isActive => absurd isActive inactive,
      fun isCanary => absurd isCanary uncanaried⟩
  | _ => trivial

theorem Store.Lawful.after_iff (lawful : store.Lawful policyCode) (call : Call Payload) :
    (store.after call).Lawful policyCode ↔ store.Careful policyCode call := by
  cases done : store.perform call with
  | error failure =>
    rw [Store.after_error done]
    exact iff_of_true lawful (Store.careful_of_error done)
  | ok next =>
    rw [Store.after_ok done]
    cases call with
    | create code conditions rules summary createdBy state =>
      have fresh : newVersion store code conditions rules summary createdBy state ∉
          store.versions :=
        fun inside => absurd (store.ids_below _ inside) (Nat.lt_irrefl _)
      obtain ⟨added, policies⟩ := createPolicyVersion_ok done
      exact lawful.creates_iff added policies fresh
    | activate versionId actor environment mode =>
      obtain ⟨row, found, _, _, activated⟩ := activatePolicyVersion_ok done
      have isRow := (Store.findVersion_some found).1
      refine iff_of_true ?_ trivial
      rcases activated with rfl | rfl
      · exact lawful.activates_canary isRow actor
      · apply lawful.activates isRow _ actor
        decide
    | approve versionId actor =>
      cases approvePolicyVersion_ok done
      exact iff_of_true (lawful.approves versionId actor) trivial
    | rollback code targetVersionId actor reason =>
      obtain ⟨target, found, _, rfl⟩ := rollbackPolicyVersion_ok done
      have isTarget := (Store.findVersion_some found).1
      exact iff_of_true (lawful.rollsBack isTarget actor reason) trivial

end Steps

section Histories

variable {policyCode : String} {store : Store Payload} {calls : List (Call Payload)}

/-- Along every history of calls the law holds in each state that is reached exactly
when every version that is created is created carefully. -/
theorem version_law_kept_iff (lawful : store.Lawful policyCode) :
    Throughout Store.after (Store.Lawful policyCode) store calls ↔
      EachMeets Store.after (Store.Careful policyCode) store calls :=
  throughout_iff lawful fun _ call kept => kept.after_iff call

theorem Store.lawful_unversioned
    (none : ∀ version ∈ store.versions, version.policyCode ≠ policyCode) :
    store.Lawful policyCode where
  active version _ first := absurd first.code (none version first.inside)
  canary version _ first := absurd first.code (none version first.inside)
  live version active := absurd active.code (none version active.inside)

/-- Rolling back to the active version leaves no active version: the update retires
it, and the state it is assigned is the one it was loaded with. -/
theorem rollback_to_active_retires {target : ExecutionPolicyVersion Payload} {next : Store Payload}
    (isActive : store.HasIn policyCode "ACTIVE" target) {actorUserId reason : String}
    (done : rollbackPolicyVersion store policyCode target.versionId actorUserId reason = .ok next) :
    ∀ version, ¬next.HasIn policyCode "ACTIVE" version := by
  obtain ⟨loaded, found, _, rfl⟩ := rollbackPolicyVersion_ok done
  obtain ⟨isLoaded, sameId⟩ := Store.findVersion_some found
  have isTarget : loaded = target := store.same_version isLoaded isActive.inside sameId
  subst isTarget
  rintro version ⟨inside, code, state⟩
  obtain ⟨before, isBefore, rfl⟩ := List.mem_map.mp inside
  have beforeCode : before.policyCode = loaded.policyCode :=
    ((rolledBack_keeps loaded actorUserId reason).code before).symm.trans
      (code.trans isActive.code.symm)
  have same := store.same_version isBefore isLoaded
  rw [rolledBack_state loaded before actorUserId reason same] at state
  split at state
  · simp at state
  · rename_i wasInactive
    split at state
    · rename_i isLoadedId
      have wasActive : before.state = "ACTIVE" := by
        rw [same isLoadedId]
        exact isActive.state
      exact wasInactive ⟨beforeCode, wasActive⟩
    · exact wasInactive ⟨beforeCode, state⟩

def activeStore : Store ℕ :=
  ⟨[⟨0, "policy", 1, "ACTIVE", "approved", "", none, none, none, .everywhere, 1, 2⟩], [], 1,
    by simp, by simp, by simp⟩

theorem activeStore_retires : ∃ next, rollbackPolicyVersion activeStore "policy" 0 "admin" "" =
    .ok next ∧ ∀ version, ¬next.HasIn "policy" "ACTIVE" version := by
  have isActive : activeStore.HasIn "policy" "ACTIVE" _ := ⟨.head _, rfl, rfl⟩
  exact ⟨_, rfl, rollback_to_active_retires isActive rfl⟩

def unversioned : Store ℕ := ⟨[], [⟨"policy", 0, 0⟩], 0, by simp, by simp, by simp⟩

def release : List (Call ℕ) :=
  [.create "policy" 1 2 "first" "admin" "draft", .approve 0 "admin",
    .activate 0 "admin" "live" "ACTIVE"]

theorem version_law_kept_iff_release :
    Throughout Store.after (Store.Lawful "policy") unversioned release ∧
      (afterAll Store.after unversioned release).versions.map ExecutionPolicyVersion.state =
        ["ACTIVE"] := by
  have careful : EachMeets Store.after (Store.Careful "policy") unversioned release := by
    refine eachMeets_cons.mpr ⟨fun _ => ⟨fun isActive => ?_, fun isCanary => ?_⟩,
      eachMeets_cons.mpr ⟨trivial, eachMeets_cons.mpr ⟨trivial, eachMeets_nil⟩⟩⟩
    · exact absurd isActive (by decide +kernel)
    · exact absurd isCanary (by decide +kernel)
  have lawful : unversioned.Lawful "policy" := by
    apply Store.lawful_unversioned
    intro version inside
    cases inside
  exact ⟨(version_law_kept_iff lawful).mpr careful, by decide +kernel⟩

/-- Two versions are created as active, and the policy row is that of neither. -/
def twoActive : List (Call ℕ) :=
  [.create "policy" 1 1 "first" "admin" "ACTIVE", .create "policy" 2 2 "second" "admin" "ACTIVE"]

theorem created_versions_are_both_active :
    unversioned.Lawful "policy" ∧
      (afterAll Store.after unversioned twoActive).versions.map ExecutionPolicyVersion.state =
        ["ACTIVE", "ACTIVE"] ∧
      ¬Throughout Store.after (Store.Lawful "policy") unversioned twoActive := by
  refine ⟨?_, by decide +kernel, fun kept => ?_⟩
  · apply Store.lawful_unversioned
    intro version inside
    cases inside
  · have lawful := kept twoActive [] rfl
    let first := newVersion unversioned "policy" 1 1 "first" "admin" "ACTIVE"
    let second : ExecutionPolicyVersion ℕ := { first with
      versionId := 1
      versionNumber := 2
      changeSummary := some "second"
      conditionsPayload := 2
      rulesPayload := 2 }
    have versions : (afterAll Store.after unversioned twoActive).versions = [first, second] := by
      decide +kernel
    have state : first.state = "ACTIVE" := by decide +kernel
    have same := lawful.active first second ⟨by simp [versions], rfl, state⟩
      ⟨by simp [versions], rfl, state⟩
    have differ := congrArg ExecutionPolicyVersion.versionId same
    exact absurd differ (by decide)

end Histories

end Governance
