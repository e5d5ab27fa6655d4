import CoinRobotu.Governance.Approval

/-!
# What governs after a rollback

A rollback retires the active versions of its policy and makes the target active.
-/

open Interleaving

namespace Governance

variable {Payload : Type}

def Store.Governs (digest : String → ℕ) (policyCode : String) (store : Store Payload)
    (version : ExecutionPolicyVersion Payload) : Prop :=
  ∀ context : Context, ∃ override,
    resolvePolicyVersionOverride digest store policyCode context = some override ∧
      override.versionId = version.versionId ∧ override.rulesPayload = version.rulesPayload

/-- The stores that calls reach while a policy gets its versions. -/
def Store.Reached (policyCode : String) (store : Store Payload) : Prop :=
  ∃ (first : Store Payload) (calls : List (Call Payload)),
    (∀ version ∈ first.versions, version.policyCode ≠ policyCode) ∧
      store = afterAll Store.after first calls

def Store.RollsOut (policyCode : String) (store : Store Payload) : Prop :=
  ∀ version ∈ store.versions, version.policyCode = policyCode →
    version.rolloutStrategy = .everywhere

section RollingOut

variable {policyCode : String} {store next : Store Payload}

theorem Store.RollsOut.rewrites {change : ExecutionPolicyVersion Payload →
      ExecutionPolicyVersion Payload}
    (rollsOut : store.RollsOut policyCode) (columns : Keeps change)
    (strategies : ∀ version, (change version).rolloutStrategy = version.rolloutStrategy)
    (mapped : next.versions = store.versions.map change) : next.RollsOut policyCode := by
  intro version inside code
  obtain ⟨before, isBefore, rfl⟩ := List.mem_map.mp (mapped ▸ inside)
  have beforeCode := (columns.code before).symm.trans code
  exact (strategies before).trans (rollsOut before isBefore beforeCode)

theorem approved_strategy (versionId : Id) (actorUserId : String)
    (version : ExecutionPolicyVersion Payload) :
    (approved versionId actorUserId version).rolloutStrategy = version.rolloutStrategy := by
  unfold approved changeOf
  split <;> rfl

theorem rolledBack_strategy (target : ExecutionPolicyVersion Payload) (actorUserId reason : String)
    (version : ExecutionPolicyVersion Payload) :
    (rolledBack target actorUserId reason version).rolloutStrategy = version.rolloutStrategy := by
  unfold rolledBack changeOf retire
  split <;> split <;> rfl

theorem Store.RollsOut.after (rollsOut : store.RollsOut policyCode) (call : Call Payload) :
    (store.after call).RollsOut policyCode := by
  cases done : store.perform call with
  | error failure =>
    rw [Store.after_error done]
    exact rollsOut
  | ok next =>
    rw [Store.after_ok done]
    cases call with
    | create code conditions rules summary createdBy state =>
      intro version inside isCode
      rw [(createPolicyVersion_ok done).1] at inside
      rcases List.mem_append.mp inside with earlier | new
      · exact rollsOut version earlier isCode
      · cases List.mem_singleton.mp new
        rfl
    | activate versionId actor environment mode =>
      obtain ⟨row, _, _, _, activated⟩ := activatePolicyVersion_ok done
      rcases activated with rfl | rfl
      · exact rollsOut.rewrites (activated_keeps row "CANARY" actor)
          (fun version => (activated_strategy row version "CANARY" actor).1) rfl
      · exact rollsOut.rewrites (activated_keeps row "ACTIVE" actor)
          (fun version => (activated_strategy row version "ACTIVE" actor).1) rfl
    | approve versionId actor =>
      cases approvePolicyVersion_ok done
      exact rollsOut.rewrites (approved_keeps versionId actor)
        (approved_strategy versionId actor) rfl
    | rollback code targetVersionId actor reason =>
      obtain ⟨target, _, _, rfl⟩ := rollbackPolicyVersion_ok done
      exact rollsOut.rewrites (rolledBack_keeps target actor reason)
        (rolledBack_strategy target actor reason) rfl

theorem Store.Reached.rollsOut (reached : store.Reached policyCode) :
    store.RollsOut policyCode := by
  obtain ⟨first, calls, unversioned, rfl⟩ := reached
  apply afterAll_keeps
  · intro version inside code
    exact absurd code (unversioned version inside)
  · intro state call rollsOut
    exact rollsOut.after call

end RollingOut

section Choosing

variable {policyCode : String} {store : Store Payload} {digest : String → ℕ}
  {version : ExecutionPolicyVersion Payload}

theorem Store.governs_of_only_active (has : store.HasIn policyCode "ACTIVE" version)
    (only : ∀ other, store.HasIn policyCode "ACTIVE" other → other = version)
    (uncanaried : ∀ other, ¬store.HasIn policyCode "CANARY" other) :
    store.Governs digest policyCode version := by
  intro context
  have absent : store.newestIn policyCode "CANARY" = none := Store.newestIn_eq_none uncanaried
  cases found : store.newestIn policyCode "ACTIVE" with
  | none => exact absurd has (Store.newestIn_none found version)
  | some active =>
    have same : active = version := only active (Store.newestIn_some found).1
    subst same
    have chosen : chosenVersion digest store policyCode context = some (active, "ACTIVE") := by
      rw [chosenVersion_active context absent, found]
      rfl
    exact ⟨_, resolvePolicyVersionOverride_some chosen, rfl, rfl⟩

theorem Store.Governs.inForce (governs : store.Governs digest policyCode version)
    (inside : version ∈ store.versions) (rollsOut : store.RollsOut policyCode) :
    store.HasIn policyCode "CANARY" version ∨
      (∀ other, ¬store.HasIn policyCode "CANARY" other) ∧
        store.HasIn policyCode "ACTIVE" version := by
  obtain ⟨override, resolved, same, _⟩ := governs liveContext
  exact Store.governing_cases inside rollsOut resolved same.symm

end Choosing

section RollingBack

variable {policyCode : String} {store next : Store Payload} {digest : String → ℕ}
  {target : ExecutionPolicyVersion Payload} {targetVersionId : Id} {actorUserId reason : String}

theorem rolledBack_has_iff (isTarget : target ∈ store.versions)
    (own : target.policyCode = policyCode)
    (mapped : next.versions = store.versions.map (rolledBack target actorUserId reason))
    {state : String} {version : ExecutionPolicyVersion Payload} (inside : version ∈ store.versions) :
    next.HasIn policyCode state (rolledBack target actorUserId reason version) ↔
      version.policyCode = policyCode ∧
        (if version.state = "ACTIVE" then "ROLLED_BACK"
          else if version.versionId = target.versionId then "ACTIVE" else version.state) =
            state := by
  have columns := rolledBack_keeps target actorUserId reason
  have stateAfter := rolledBack_state target version actorUserId reason
    (store.same_version inside isTarget)
  constructor
  · intro has
    have code := (columns.code version).symm.trans has.code
    have moved := has.state
    rw [stateAfter] at moved
    simp only [code, own, true_and] at moved
    exact ⟨code, moved⟩
  · rintro ⟨code, moved⟩
    constructor
    · rw [mapped]
      exact List.mem_map_of_mem inside
    · exact (columns.code version).trans code
    · rw [stateAfter]
      simp only [code, own, true_and]
      exact moved

theorem rolledBack_governs_iff (version : ExecutionPolicyVersion Payload) :
    next.Governs digest policyCode (rolledBack target actorUserId reason version) ↔
      next.Governs digest policyCode version := by
  unfold Store.Governs
  rw [rolledBack_versionId target actorUserId reason version,
    (rolledBack_keeps target actorUserId reason).rules version]

/-- After a rollback the target governs exactly when it was not active before, and no
other version of the policy is a canary. -/
theorem rollback_takes_effect_iff (digest : String → ℕ) (reached : store.Reached policyCode)
    (found : store.findVersion targetVersionId = some target)
    (done : rollbackPolicyVersion store policyCode targetVersionId actorUserId reason = .ok next) :
    next.Governs digest policyCode target ↔
      target.state ≠ "ACTIVE" ∧
        ∀ version, store.HasIn policyCode "CANARY" version → version = target := by
  have rollsOut : next.RollsOut policyCode := by
    have after : store.after (.rollback policyCode targetVersionId actorUserId reason) = next :=
      Store.after_ok done
    rw [← after]
    exact reached.rollsOut.after _
  obtain ⟨loaded, isLoaded, own, isNext⟩ := rollbackPolicyVersion_ok done
  rw [found] at isLoaded
  cases isLoaded
  have isTarget := (Store.findVersion_some found).1
  have mapped : next.versions = store.versions.map (rolledBack target actorUserId reason) := by
    rw [isNext]
    rfl
  have moved : next.Governs digest policyCode (rolledBack target actorUserId reason target) ↔
      next.Governs digest policyCode target := rolledBack_governs_iff target
  rw [← moved]
  constructor
  · intro governs
    have inside : rolledBack target actorUserId reason target ∈ next.versions := by
      rw [mapped]
      exact List.mem_map_of_mem isTarget
    rcases governs.inForce inside rollsOut with isCanary | ⟨uncanaried, isActive⟩
    · have state := ((rolledBack_has_iff isTarget own mapped isTarget).mp isCanary).2
      split at state <;> simp at state
    · have state := ((rolledBack_has_iff isTarget own mapped isTarget).mp isActive).2
      constructor
      · intro wasActive
        rw [if_pos wasActive] at state
        simp at state
      · intro version has
        by_contra other
        have otherId : version.versionId ≠ target.versionId := fun same =>
          other (store.same_version has.inside isTarget same)
        apply uncanaried (rolledBack target actorUserId reason version)
        apply (rolledBack_has_iff isTarget own mapped has.inside).mpr
        refine ⟨has.code, ?_⟩
        rw [has.state, if_neg (by simp), if_neg otherId]
  · rintro ⟨wasInactive, onlyCanary⟩
    have becomes : next.HasIn policyCode "ACTIVE" (rolledBack target actorUserId reason target) := by
      apply (rolledBack_has_iff isTarget own mapped isTarget).mpr
      exact ⟨own, by rw [if_neg wasInactive, if_pos rfl]⟩
    apply Store.governs_of_only_active becomes
    · intro other has
      obtain ⟨before, isBefore, rfl⟩ := List.mem_map.mp (mapped ▸ has.inside)
      obtain ⟨code, state⟩ := (rolledBack_has_iff isTarget own mapped isBefore).mp has
      have same : before = target := by
        split at state
        · simp at state
        · rename_i inactive
          split at state
          · rename_i sameId
            exact store.same_version isBefore isTarget sameId
          · exact absurd state inactive
      rw [same]
    · intro other has
      obtain ⟨before, isBefore, rfl⟩ := List.mem_map.mp (mapped ▸ has.inside)
      obtain ⟨code, state⟩ := (rolledBack_has_iff isTarget own mapped isBefore).mp has
      split at state
      · simp at state
      · split at state
        · simp at state
        · rename_i otherId
          exact otherId (congrArg _ (onlyCanary before ⟨isBefore, code, state⟩))

theorem Store.reached_unversioned (calls : List (Call ℕ)) :
    (afterAll Store.after unversioned calls).Reached "policy" := by
  refine ⟨unversioned, calls, ?_, rfl⟩
  intro version inside
  cases inside

def secondRelease (mode : String) : List (Call ℕ) :=
  release ++ [.create "policy" 3 4 "second" "admin" "draft", .approve 1 "admin",
    .activate 1 "admin" "live" mode]

theorem rollbackPolicyVersion_accepts (found : store.findVersion targetVersionId = some target)
    (own : target.policyCode = policyCode) (actorUserId reason : String) :
    ∃ next, rollbackPolicyVersion store policyCode targetVersionId actorUserId reason =
      .ok next := by
  unfold rollbackPolicyVersion
  simp only [found, own, ne_eq, not_true_eq_false, if_false]
  exact ⟨_, rfl⟩

/-- The first version governs again after the second was active. -/
theorem rollback_takes_effect_iff_second :
    ∃ next target, rollbackPolicyVersion
        (afterAll Store.after unversioned (secondRelease "ACTIVE")) "policy" 0 "admin" "worse" =
          .ok next ∧
      target.rulesPayload = 2 ∧ next.Governs (fun _ => 0) "policy" target := by
  have found : ∃ target, (afterAll Store.after unversioned (secondRelease "ACTIVE")).findVersion 0 =
      some target ∧ target.policyCode = "policy" ∧ target.state = "DEPRECATED" ∧
        target.rulesPayload = 2 := by
    decide +kernel
  obtain ⟨target, isFound, own, state, rules⟩ := found
  have states : ∀ version ∈ (afterAll Store.after unversioned (secondRelease "ACTIVE")).versions,
      version.state ≠ "CANARY" := by
    decide +kernel
  obtain ⟨next, done⟩ := rollbackPolicyVersion_accepts isFound own "admin" "worse"
  refine ⟨next, target, done, rules, ?_⟩
  apply (rollback_takes_effect_iff _ (Store.reached_unversioned _) isFound done).mpr
  constructor
  · rw [state]
    decide
  · intro version has
    exact absurd has.state (states version has.inside)

def liveRulesAfter (store : Store ℕ) (targetVersionId : Id) : Option (Option ℕ) :=
  (rollbackPolicyVersion store "policy" targetVersionId "admin" "worse").toOption.map fun next =>
    (resolvePolicyVersionOverride (fun _ => 0) next "policy" liveContext).map Override.rulesPayload

/-- Rolling back to the active version, with rules 2, leaves none that governs; and a
canary with rules 4 goes on to govern after a rollback to a third version, with rules 6. -/
theorem rollback_without_effect :
    liveRulesAfter (afterAll Store.after unversioned release) 0 = some none ∧
      liveRulesAfter (afterAll Store.after unversioned (secondRelease "CANARY" ++
        [.create "policy" 5 6 "third" "admin" "draft"])) 2 = some (some 4) := by
  decide +kernel

end RollingBack

end Governance
