import CoinRobotu.Governance.Lifecycle

/-!
# Approved versions and live trading

The approval of a version is checked when it is activated in a live environment,
and nowhere else; but a version that was activated, or created, as active or as
canary governs every environment.
-/

open Interleaving

namespace Governance

open Runtime (upper lower strip orElse)

variable {Payload : Type}

def ExecutionPolicyVersion.Approved (version : ExecutionPolicyVersion Payload) : Prop :=
  lower version.approvalStatus = "approved"

/-- In a live environment only approved versions of a policy govern. -/
def Store.GovernedLive (digest : String → ℕ) (policyCode : String) (store : Store Payload) : Prop :=
  ∀ context : Context, lower context.environment ∈ liveEnvironments →
    ∀ override, resolvePolicyVersionOverride digest store policyCode context = some override →
      ∀ version ∈ store.versions, version.versionId = override.versionId → version.Approved

/-- What a call must observe so that no unapproved version starts to govern. -/
def Store.Vetted (policyCode : String) (store : Store Payload) : Call Payload → Prop
  | .create code _ _ _ _ state => code = policyCode →
      createdState state ≠ "CANARY" ∧
        (createdState state = "ACTIVE" → ∃ version, store.HasIn policyCode "CANARY" version)
  | .activate versionId _ environment activationMode =>
      ∀ version, store.findVersion versionId = some version → version.policyCode = policyCode →
        upper (orElse (some activationMode) "ACTIVE") ∈ ["ACTIVE", "CANARY"] →
          lower (orElse (some environment) "live") ∉ liveEnvironments → version.Approved
  | _ => True

/-- Canaries are approved, and without a canary the active versions are; versions
roll out everywhere. -/
structure Store.Sound (policyCode : String) (store : Store Payload) : Prop where
  canary : ∀ version, store.HasIn policyCode "CANARY" version → version.Approved
  active : (∀ version, ¬store.HasIn policyCode "CANARY" version) →
    ∀ version, store.HasIn policyCode "ACTIVE" version → version.Approved
  everywhere : ∀ version ∈ store.versions, version.policyCode = policyCode →
    version.rolloutStrategy = .everywhere

section Choosing

variable {policyCode : String} {store : Store Payload} {digest : String → ℕ}

variable {version : ExecutionPolicyVersion Payload}

variable {versions : List (ExecutionPolicyVersion Payload)}

/-- The newest version is one of them, and none has a higher number. -/
theorem newest_some
    (found : newest versions = some version) :
    version ∈ versions ∧ ∀ other ∈ versions, other.versionNumber ≤ version.versionNumber := by
  induction versions generalizing version with
  | nil => cases found
  | cons first versions ih =>
    unfold newest at found
    cases rest : newest versions with
    | none =>
      rw [rest] at found
      cases found
      have empty : versions = [] := by
        cases versions with
        | nil => rfl
        | cons second versions =>
          exfalso
          unfold newest at rest
          split at rest
          · cases rest
          · split at rest <;> cases rest
      subst empty
      refine ⟨List.mem_cons_self, fun other inside => ?_⟩
      cases List.mem_singleton.mp inside
      exact le_rfl
    | some later =>
      rw [rest] at found
      obtain ⟨inside, greatest⟩ := ih rest
      dsimp only at found
      split at found
      · rename_i below
        cases found
        refine ⟨List.mem_cons_self, fun other isOther => ?_⟩
        rcases List.mem_cons.mp isOther with rfl | isLater
        · exact le_rfl
        · exact (greatest other isLater).trans below
      · rename_i above
        cases found
        refine ⟨List.mem_cons_of_mem _ inside, fun other isOther => ?_⟩
        rcases List.mem_cons.mp isOther with rfl | isLater
        · exact (Nat.lt_of_not_le above).le
        · exact greatest other isLater

theorem newest_none
    (absent : newest versions = none) :
    versions = [] := by
  cases versions with
  | nil => rfl
  | cons first versions =>
    exfalso
    unfold newest at absent
    split at absent
    · cases absent
    · split at absent <;> cases absent

theorem Store.newestIn_some {state : String}
    (found : store.newestIn policyCode state = some version) :
    store.HasIn policyCode state version ∧
      ∀ other, store.HasIn policyCode state other →
        other.versionNumber ≤ version.versionNumber := by
  obtain ⟨inside, greatest⟩ := newest_some found
  obtain ⟨isVersion, matching⟩ := List.mem_filter.mp inside
  obtain ⟨code, isState⟩ := of_decide_eq_true matching
  refine ⟨⟨isVersion, code, isState⟩, fun other has => ?_⟩
  exact greatest other (List.mem_filter.mpr ⟨has.inside, decide_eq_true ⟨has.code, has.state⟩⟩)

theorem Store.newestIn_none {state : String} (absent : store.newestIn policyCode state = none) :
    ∀ version, ¬store.HasIn policyCode state version := by
  intro version has
  have empty := newest_none absent
  have inside : version ∈ store.versions.filter fun version =>
      version.policyCode = policyCode ∧ version.state = state :=
    List.mem_filter.mpr ⟨has.inside, decide_eq_true ⟨has.code, has.state⟩⟩
  rw [empty] at inside
  cases inside

theorem Store.newestIn_eq_none {state : String}
    (without : ∀ version, ¬store.HasIn policyCode state version) :
    store.newestIn policyCode state = none := by
  cases found : store.newestIn policyCode state with
  | none => rfl
  | some version => exact absurd (Store.newestIn_some found).1 (without version)

theorem rolloutMatches_everywhere (context : Context) :
    rolloutMatches digest .everywhere context = true := by
  have full : max (min (truncated 100) 100) 0 = 100 := by norm_num [truncated]
  simp [rolloutMatches, RolloutStrategy.everywhere, listed, full]

theorem chosenVersion_canary (digest : String → ℕ) {canary : ExecutionPolicyVersion Payload}
    (context : Context)
    (found : store.newestIn policyCode "CANARY" = some canary)
    (everywhere : canary.rolloutStrategy = .everywhere) :
    chosenVersion digest store policyCode context = some (canary, "CANARY") := by
  have matching : rolloutMatches digest canary.rolloutStrategy context = true := by
    rw [everywhere]
    exact rolloutMatches_everywhere context
  unfold chosenVersion
  simp only [found, matching, if_true]

theorem chosenVersion_active (context : Context)
    (absent : store.newestIn policyCode "CANARY" = none) :
    chosenVersion digest store policyCode context =
      (store.newestIn policyCode "ACTIVE").map fun version => (version, "ACTIVE") := by
  unfold chosenVersion
  rw [absent]

theorem resolvePolicyVersionOverride_some {context : Context}
    {mode : String}
    (chosen : chosenVersion digest store policyCode context = some (version, mode)) :
    resolvePolicyVersionOverride digest store policyCode context =
      some ⟨version.versionId, version.versionNumber, version.state, mode, version.rulesPayload,
        version.conditionsPayload⟩ := by
  unfold resolvePolicyVersionOverride
  rw [chosen]
  rfl

/-- Where the versions of a policy roll out everywhere, what is returned is of a canary, or of
an active version if there is none. -/
theorem Store.governing_cases {context : Context} {override : Override Payload}
    (inside : version ∈ store.versions)
    (everywhere : ∀ canary ∈ store.versions, canary.policyCode = policyCode →
      canary.rolloutStrategy = .everywhere)
    (resolved : resolvePolicyVersionOverride digest store policyCode context = some override)
    (same : version.versionId = override.versionId) :
    store.HasIn policyCode "CANARY" version ∨
      (∀ other, ¬store.HasIn policyCode "CANARY" other) ∧
        store.HasIn policyCode "ACTIVE" version := by
  unfold resolvePolicyVersionOverride at resolved
  cases canary : store.newestIn policyCode "CANARY" with
  | some found =>
    have has := (Store.newestIn_some canary).1
    rw [chosenVersion_canary digest context canary (everywhere found has.inside has.code)]
      at resolved
    cases resolved
    left
    rw [store.same_version inside has.inside same]
    exact has
  | none =>
    right
    refine ⟨Store.newestIn_none canary, ?_⟩
    rw [chosenVersion_active context canary] at resolved
    cases active : store.newestIn policyCode "ACTIVE" with
    | none =>
      rw [active] at resolved
      cases resolved
    | some found =>
      have has := (Store.newestIn_some active).1
      rw [active] at resolved
      cases resolved
      rw [store.same_version inside has.inside same]
      exact has

/-- In a sound store live trading is governed by approved versions. -/
theorem Store.Sound.governed (sound : store.Sound policyCode) :
    store.GovernedLive digest policyCode := by
  intro context _ override resolved version inside same
  rcases Store.governing_cases inside sound.everywhere resolved same with
    canary | ⟨uncanaried, active⟩
  · exact sound.canary version canary
  · exact sound.active uncanaried version active

def liveContext : Context := ⟨"live", "", "", "", "", ""⟩

theorem liveContext_live : lower liveContext.environment ∈ liveEnvironments := by
  unfold lower
  decide

theorem Store.GovernedLive.canary (governed : store.GovernedLive digest policyCode)
    (has : store.HasIn policyCode "CANARY" version)
    (newestOne : ∀ other, store.HasIn policyCode "CANARY" other →
      version.versionNumber ≤ other.versionNumber → other = version)
    (everywhere : version.rolloutStrategy = .everywhere) : version.Approved := by
  cases found : store.newestIn policyCode "CANARY" with
  | none => exact absurd has (Store.newestIn_none found version)
  | some canary =>
    obtain ⟨hasCanary, greatest⟩ := Store.newestIn_some found
    have same : canary = version := newestOne canary hasCanary (greatest version has)
    subst same
    have resolved := resolvePolicyVersionOverride_some
      (chosenVersion_canary digest liveContext found everywhere)
    exact governed liveContext liveContext_live _ resolved canary has.inside rfl

theorem Store.GovernedLive.active (governed : store.GovernedLive digest policyCode)
    (uncanaried : ∀ other, ¬store.HasIn policyCode "CANARY" other)
    (has : store.HasIn policyCode "ACTIVE" version)
    (newestOne : ∀ other, store.HasIn policyCode "ACTIVE" other →
      version.versionNumber ≤ other.versionNumber → other = version) : version.Approved := by
  have absent : store.newestIn policyCode "CANARY" = none := Store.newestIn_eq_none uncanaried
  cases found : store.newestIn policyCode "ACTIVE" with
  | none => exact absurd has (Store.newestIn_none found version)
  | some active =>
    obtain ⟨hasActive, greatest⟩ := Store.newestIn_some found
    have same : active = version := newestOne active hasActive (greatest version has)
    subst same
    have chosen : chosenVersion digest store policyCode liveContext = some (active, "ACTIVE") := by
      rw [chosenVersion_active liveContext absent, found]
      rfl
    exact governed liveContext liveContext_live _ (resolvePolicyVersionOverride_some chosen) active
      has.inside rfl

end Choosing

section Rewriting

variable {policyCode : String} {store next : Store Payload}
  {change : ExecutionPolicyVersion Payload → ExecutionPolicyVersion Payload}

theorem approved_literal : lower "approved" = "approved" := by
  unfold lower
  rfl

theorem pending_unapproved {version : ExecutionPolicyVersion Payload}
    (pending : version.approvalStatus = "pending") : ¬version.Approved := by
  unfold ExecutionPolicyVersion.Approved lower
  rw [pending]
  decide

theorem approved_of_default {version : ExecutionPolicyVersion Payload}
    (isApproved : lower (orElse (some version.approvalStatus) "pending") = "approved") :
    version.Approved := by
  unfold orElse at isApproved
  split at isApproved
  · unfold lower at isApproved
    exact absurd isApproved (by decide)
  · exact isApproved

section Rewriting

variable (sound : store.Sound policyCode) (mapped : next.versions = store.versions.map change)
  (columns : Keeps change)
  (strategies : ∀ version, (change version).rolloutStrategy = version.rolloutStrategy)

include sound mapped columns strategies

/-- A store is sound after a rewrite if the canaries are then approved, and the
active versions are too unless there is a canary. -/
theorem Store.Sound.rewrites (canary : ∀ version ∈ store.versions, version.policyCode = policyCode →
      (change version).state = "CANARY" → (change version).Approved)
    (active : ∀ version ∈ store.versions, version.policyCode = policyCode →
      (change version).state = "ACTIVE" →
        (change version).Approved ∨ ∃ other ∈ store.versions, other.policyCode = policyCode ∧
          (change other).state = "CANARY") : next.Sound policyCode := by
  constructor
  · intro version has
    obtain ⟨before, isBefore, rfl⟩ := List.mem_map.mp (mapped ▸ has.inside)
    have code := (columns.code before).symm.trans has.code
    exact canary before isBefore code has.state
  · intro uncanaried version has
    obtain ⟨before, isBefore, rfl⟩ := List.mem_map.mp (mapped ▸ has.inside)
    have code := (columns.code before).symm.trans has.code
    rcases active before isBefore code has.state with
        isApproved | ⟨other, isOther, otherCode, isCanary⟩
    · exact isApproved
    · have inside : change other ∈ next.versions := mapped ▸ List.mem_map_of_mem isOther
      exact absurd ⟨inside, (columns.code other).trans otherCode, isCanary⟩
        (uncanaried (change other))
  · intro version inside code
    obtain ⟨before, isBefore, rfl⟩ := List.mem_map.mp (mapped ▸ inside)
    have beforeCode := (columns.code before).symm.trans code
    exact (strategies before).trans (sound.everywhere before isBefore beforeCode)

theorem Store.Sound.rewrites_other
    (same : ∀ version ∈ store.versions, version.policyCode = policyCode →
      change version = version) :
    next.Sound policyCode := by
  apply sound.rewrites mapped columns strategies
  · intro version inside code isCanary
    rw [same version inside code] at isCanary ⊢
    exact sound.canary version ⟨inside, code, isCanary⟩
  · intro version inside code isActive
    by_cases canaried : ∃ other, store.HasIn policyCode "CANARY" other
    · obtain ⟨other, has⟩ := canaried
      have unchanged := same other has.inside has.code
      exact .inr ⟨other, has.inside, has.code, by rw [unchanged]; exact has.state⟩
    · rw [same version inside code] at isActive ⊢
      exact .inl (sound.active (not_exists.mp canaried) version ⟨inside, code, isActive⟩)

end Rewriting

theorem activated_strategy (row version : ExecutionPolicyVersion Payload)
    (mode actorUserId : String) :
    (activated row mode actorUserId version).rolloutStrategy = version.rolloutStrategy ∧
      (activated row mode actorUserId version).approvalStatus = version.approvalStatus := by
  unfold activated changeOf superseded
  split <;> split <;> split <;> exact ⟨rfl, rfl⟩

theorem activated_approved {row version : ExecutionPolicyVersion Payload}
    {mode actorUserId : String} :
    (activated row mode actorUserId version).Approved ↔ version.Approved := by
  unfold ExecutionPolicyVersion.Approved
  rw [(activated_strategy row version mode actorUserId).2]

variable {row : ExecutionPolicyVersion Payload}

section Activating

variable (sound : store.Sound policyCode) (isRow : row ∈ store.versions)
  (isApproved : row.policyCode = policyCode → row.Approved) (actorUserId : String)

include sound isRow isApproved

theorem Store.Sound.activates_canary
    (mapped : next.versions = store.versions.map (activated row "CANARY" actorUserId)) :
    next.Sound policyCode := by
  have columns := activated_keeps row "CANARY" actorUserId
  have strategies := fun version => (activated_strategy row version "CANARY" actorUserId).1
  by_cases isCode : row.policyCode = policyCode
  · have canaried : (activated row "CANARY" actorUserId row).state = "CANARY" := by
      rcases activated_cases row row "CANARY" actorUserId with ⟨_, state⟩ | ⟨other, _⟩ | ⟨other, _⟩
      · exact state
      · exact absurd rfl other
      · exact absurd rfl other
    apply sound.rewrites mapped columns strategies
    · intro version inside code isCanary
      apply activated_approved.mpr
      rcases activated_cases row version "CANARY" actorUserId with ⟨same, _⟩ | ⟨_, _, _, state⟩ |
        ⟨_, unretired, state⟩
      · rw [store.same_version inside isRow same]
        exact isApproved isCode
      · rw [state] at isCanary
        simp at isCanary
      · have wasCanary : version.state = "CANARY" := state.symm.trans isCanary
        exact absurd (by simp [retiredStates, wasCanary]) (unretired (code.trans isCode.symm))
    · exact fun _ _ _ _ => .inr ⟨row, isRow, isCode, canaried⟩
  · apply sound.rewrites_other mapped columns strategies
    intro version inside code
    exact activated_foreign "CANARY" actorUserId isRow inside fun same =>
      isCode (same.symm.trans code)

theorem Store.Sound.activates
    (mapped : next.versions = store.versions.map (activated row "ACTIVE" actorUserId)) :
    next.Sound policyCode := by
  have columns := activated_keeps row "ACTIVE" actorUserId
  have strategies := fun version => (activated_strategy row version "ACTIVE" actorUserId).1
  by_cases isCode : row.policyCode = policyCode
  · have only : ∀ version ∈ store.versions, version.policyCode = policyCode →
        (activated row "ACTIVE" actorUserId version).state ∈ ["ACTIVE", "CANARY"] →
          (activated row "ACTIVE" actorUserId version).Approved := by
      intro version inside code governs
      apply activated_approved.mpr
      rcases activated_cases row version "ACTIVE" actorUserId with ⟨same, _⟩ | ⟨_, _, _, state⟩ |
        ⟨_, unretired, state⟩
      · rw [store.same_version inside isRow same]
        exact isApproved isCode
      · rw [state] at governs
        simp at governs
      · rw [state] at governs
        exact absurd governs (unretired (code.trans isCode.symm))
    apply sound.rewrites mapped columns strategies
    · intro version inside code isCanary
      exact only version inside code (by simp [isCanary])
    · intro version inside code isActive
      exact .inl (only version inside code (by simp [isActive]))
  · apply sound.rewrites_other mapped columns strategies
    intro version inside code
    exact activated_foreign "ACTIVE" actorUserId isRow inside fun same =>
      isCode (same.symm.trans code)

end Activating

theorem rolledBack_approvalStatus (target version : ExecutionPolicyVersion Payload)
    (actorUserId reason : String) :
    (rolledBack target actorUserId reason version).approvalStatus =
      if version.versionId = target.versionId then "approved" else version.approvalStatus := by
  have retired : (retire target version).versionId = version.versionId ∧
      (retire target version).approvalStatus = version.approvalStatus := by
    unfold retire
    split <;> exact ⟨rfl, rfl⟩
  unfold rolledBack changeOf
  rw [retired.1]
  split
  · rfl
  · exact retired.2

/-- A rollback leaves a store sound: it approves the version that becomes active. -/
theorem Store.Sound.rollsBack (sound : store.Sound policyCode)
    {target : ExecutionPolicyVersion Payload} (isTarget : target ∈ store.versions)
    (actorUserId reason : String)
    (mapped : next.versions = store.versions.map (rolledBack target actorUserId reason)) :
    next.Sound policyCode := by
  have columns := rolledBack_keeps target actorUserId reason
  have strategies : ∀ version : ExecutionPolicyVersion Payload,
      (rolledBack target actorUserId reason version).rolloutStrategy = version.rolloutStrategy := by
    intro version
    unfold rolledBack changeOf retire
    split <;> split <;> rfl
  have state :=
    fun (version : ExecutionPolicyVersion Payload) (inside : version ∈ store.versions) =>
    rolledBack_state target version actorUserId reason (store.same_version inside isTarget)
  have approves : ∀ version : ExecutionPolicyVersion Payload,
      version.versionId = target.versionId ∨ version.Approved →
        (rolledBack target actorUserId reason version).Approved := by
    intro version given
    unfold ExecutionPolicyVersion.Approved
    rw [rolledBack_approvalStatus]
    split
    · exact approved_literal
    · rename_i other
      exact given.resolve_left other
  by_cases isCode : target.policyCode = policyCode
  · apply sound.rewrites mapped columns strategies
    · intro version inside code isCanary
      rw [state version inside] at isCanary
      split at isCanary
      · simp at isCanary
      · split at isCanary
        · simp at isCanary
        · exact approves version (.inr (sound.canary version ⟨inside, code, isCanary⟩))
    · intro version inside code isActive
      rw [state version inside] at isActive
      split at isActive
      · simp at isActive
      · rename_i wasInactive
        split at isActive
        · rename_i own
          exact .inl (approves version (.inl own))
        · exact absurd ⟨code.trans isCode.symm, isActive⟩ wasInactive
  · apply sound.rewrites_other mapped columns strategies
    intro version inside code
    exact rolledBack_foreign actorUserId reason isTarget inside fun same =>
      isCode (same.symm.trans code)

theorem Store.Sound.approves (sound : store.Sound policyCode) (versionId : Id)
    (actorUserId : String)
    (mapped : next.versions = store.versions.map (approved versionId actorUserId)) :
    next.Sound policyCode := by
  have unmoved : ∀ version : ExecutionPolicyVersion Payload,
      (approved versionId actorUserId version).state = version.state ∧
        (approved versionId actorUserId version).rolloutStrategy = version.rolloutStrategy := by
    intro version
    unfold approved changeOf
    split <;> exact ⟨rfl, rfl⟩
  have approves : ∀ version : ExecutionPolicyVersion Payload, version.Approved →
      (approved versionId actorUserId version).Approved := by
    intro version isApproved
    unfold approved changeOf
    split
    · exact approved_literal
    · exact isApproved
  apply sound.rewrites mapped (approved_keeps versionId actorUserId) fun version =>
    (unmoved version).2
  · intro version inside code isCanary
    rw [(unmoved version).1] at isCanary
    exact approves version (sound.canary version ⟨inside, code, isCanary⟩)
  · intro version inside code isActive
    rw [(unmoved version).1] at isActive
    by_cases canaried : ∃ other, store.HasIn policyCode "CANARY" other
    · obtain ⟨other, has⟩ := canaried
      exact .inr ⟨other, has.inside, has.code, (unmoved other).1.trans has.state⟩
    · exact .inl (approves version
        (sound.active (not_exists.mp canaried) version ⟨inside, code, isActive⟩))

end Rewriting

section Steps

variable {policyCode : String} {store next : Store Payload} {digest : String → ℕ}

variable {summary createdBy state : String}

variable {conditions rules : Payload}

theorem newVersion_newest
    {version : ExecutionPolicyVersion Payload} (inside : version ∈ store.versions)
    (code : version.policyCode = policyCode) :
    version.versionNumber <
      (newVersion store policyCode conditions rules summary createdBy state).versionNumber := by
  have isOwn : version ∈ store.versions.filter (·.policyCode = policyCode) :=
    List.mem_filter.mpr ⟨inside, decide_eq_true code⟩
  unfold newVersion
  dsimp only
  cases found : newest (store.versions.filter (·.policyCode = policyCode)) with
  | none =>
    rw [newest_none found] at isOwn
    cases isOwn
  | some latest => exact Nat.lt_succ_of_le ((newest_some found).2 version isOwn)

/-- A version that is added does not govern live trading, as it is pending: it is no
canary, and it is active only beside one. -/
theorem Store.GovernedLive.vetted_create
    (added : next.versions =
      store.versions ++ [newVersion store policyCode conditions rules summary createdBy state])
    (governed : next.GovernedLive digest policyCode) :
    createdState state ≠ "CANARY" ∧
      (createdState state = "ACTIVE" → ∃ version, store.HasIn policyCode "CANARY" version) := by
  have pending : ¬(newVersion store policyCode conditions rules summary createdBy state).Approved :=
    pending_unapproved rfl
  have newestOne : ∀ {among : String} (other : ExecutionPolicyVersion Payload),
      next.HasIn policyCode among other →
        (newVersion store policyCode conditions rules summary createdBy state).versionNumber ≤
          other.versionNumber →
            other = newVersion store policyCode conditions rules summary createdBy state := by
    intro among other has above
    rcases (Store.hasIn_added added).mp has with before | ⟨same, _⟩
    · have below : other.versionNumber <
          (newVersion store policyCode conditions rules summary createdBy state).versionNumber :=
        newVersion_newest before.inside before.code
      omega
    · exact same
  constructor
  · intro isCanary
    have has := (Store.hasIn_added added).mpr (.inr ⟨rfl, rfl, isCanary⟩)
    exact pending (governed.canary has newestOne rfl)
  · intro isActive
    by_contra uncanaried
    have has := (Store.hasIn_added added).mpr (.inr ⟨rfl, rfl, isActive⟩)
    apply pending
    apply governed.active _ has newestOne
    intro other isCanary
    rcases (Store.hasIn_added added).mp isCanary with before | ⟨_, _, state⟩
    · exact uncanaried ⟨other, before⟩
    · exact absurd (isActive.symm.trans state) (by decide)

theorem Store.Sound.creates (sound : store.Sound policyCode) {code : String}
    (added : next.versions =
      store.versions ++ [newVersion store code conditions rules summary createdBy state])
    (vetted : code = policyCode → createdState state ≠ "CANARY" ∧
      (createdState state = "ACTIVE" → ∃ version, store.HasIn policyCode "CANARY" version)) :
    next.Sound policyCode := by
  constructor
  · intro version has
    rcases (Store.hasIn_added added).mp has with before | ⟨_, isCode, isCanary⟩
    · exact sound.canary version before
    · exact absurd isCanary (vetted isCode).1
  · intro uncanaried version has
    have before : ∀ other, ¬store.HasIn policyCode "CANARY" other :=
      fun other earlier => uncanaried other ((Store.hasIn_added added).mpr (.inl earlier))
    rcases (Store.hasIn_added added).mp has with earlier | ⟨_, isCode, isActive⟩
    · exact sound.active before version earlier
    · obtain ⟨other, earlier⟩ := (vetted isCode).2 isActive
      exact absurd earlier (before other)
  · intro version inside isCode
    rw [added] at inside
    rcases List.mem_append.mp inside with earlier | new
    · exact sound.everywhere version earlier isCode
    · cases List.mem_singleton.mp new
      rfl

/-- The version that was activated governs live trading next, whatever environment
was named, so it is approved. -/
theorem Store.GovernedLive.vetted_activate (sound : store.Sound policyCode)
    {row : ExecutionPolicyVersion Payload} (isRow : row ∈ store.versions)
    (code : row.policyCode = policyCode) {mode actorUserId : String}
    (mapped : next.versions = store.versions.map (activated row mode actorUserId))
    (governed : next.GovernedLive digest policyCode) : row.Approved := by
  have columns := activated_keeps row mode actorUserId
  have state : (activated row mode actorUserId row).state =
      if mode = "CANARY" then "CANARY" else "ACTIVE" := by
    rcases activated_cases row row mode actorUserId with ⟨_, state⟩ | ⟨other, _⟩ | ⟨other, _⟩
    · exact state
    · exact absurd rfl other
    · exact absurd rfl other
  have inside : activated row mode actorUserId row ∈ next.versions :=
    mapped ▸ List.mem_map_of_mem isRow
  have rowCode := (columns.code row).trans code
  -- of the states that an activation retires, only the activated version has one afterwards
  have only : ∀ among ∈ retiredStates mode, ∀ other, next.HasIn policyCode among other →
      other = activated row mode actorUserId row := by
    intro among retires other has
    obtain ⟨before, isBefore, rfl⟩ := List.mem_map.mp (mapped ▸ has.inside)
    have beforeCode := ((columns.code before).symm.trans has.code).trans code.symm
    rcases activated_cases row before mode actorUserId with ⟨same, _⟩ | ⟨_, _, _, deprecated⟩ |
      ⟨_, unretired, unmoved⟩
    · rw [store.same_version isBefore isRow same]
    · rw [← has.state, deprecated] at retires
      unfold retiredStates at retires
      split at retires <;> simp at retires
    · rw [← has.state, unmoved] at retires
      exact absurd retires (unretired beforeCode)
  by_cases isCanary : mode = "CANARY"
  · rw [if_pos isCanary] at state
    have only := only "CANARY" (by simp [retiredStates, isCanary])
    apply activated_approved.mp
    apply governed.canary ⟨inside, rowCode, state⟩ (fun other has _ => only other has)
    exact (activated_strategy row row mode actorUserId).1.trans (sound.everywhere row isRow code)
  · rw [if_neg isCanary] at state
    have uncanaried : ∀ other, ¬next.HasIn policyCode "CANARY" other := by
      intro other has
      have same := only "CANARY" (by simp [retiredStates, isCanary]) other has
      have isState := has.state
      rw [same, state] at isState
      simp at isState
    have onlyActive := only "ACTIVE" (by simp [retiredStates, isCanary])
    apply activated_approved.mp
    exact governed.active uncanaried ⟨inside, rowCode, state⟩ fun other has _ =>
      onlyActive other has

end Steps

section Histories

variable {policyCode : String} {store : Store Payload} {calls : List (Call Payload)}

variable {call : Call Payload}

theorem Store.vetted_of_error {failure : String}
    (failed : store.perform call = .error failure) : store.Vetted policyCode call := by
  cases call with
  | create code conditions rules summary createdBy state =>
    obtain ⟨inactive, uncanaried⟩ := Store.created_of_error failed
    exact fun _ => ⟨fun isCanary => absurd isCanary uncanaried,
      fun isActive => absurd isActive inactive⟩
  | activate versionId actor environment mode =>
    intro version found _ isMode notLive
    unfold Store.perform activatePolicyVersion at failed
    simp only [found] at failed
    rw [if_neg (not_not.mpr isMode), if_neg fun denied => notLive denied.1] at failed
    cases failed
  | _ => trivial

theorem Store.Sound.after (sound : store.Sound policyCode)
    (vetted : store.Vetted policyCode call) : (store.after call).Sound policyCode := by
  cases done : store.perform call with
  | error failure =>
    rw [Store.after_error done]
    exact sound
  | ok next =>
    rw [Store.after_ok done]
    cases call with
    | create code conditions rules summary createdBy state =>
      exact sound.creates (createPolicyVersion_ok done).1 vetted
    | activate versionId actor environment mode =>
      obtain ⟨row, found, isMode, approvedLive, activated⟩ := activatePolicyVersion_ok done
      have isRow := (Store.findVersion_some found).1
      have isApproved : row.policyCode = policyCode → row.Approved := by
        intro code
        by_cases isLive : lower (orElse (some environment) "live") ∈ liveEnvironments
        · exact approved_of_default (approvedLive isLive)
        · exact vetted row found code isMode isLive
      rcases activated with rfl | rfl
      · exact sound.activates_canary isRow isApproved actor rfl
      · exact sound.activates isRow isApproved actor rfl
    | approve versionId actor =>
      cases approvePolicyVersion_ok done
      exact sound.approves versionId actor rfl
    | rollback code targetVersionId actor reason =>
      obtain ⟨target, found, _, rfl⟩ := rollbackPolicyVersion_ok done
      exact sound.rollsBack (Store.findVersion_some found).1 actor reason rfl

theorem Store.Sound.vetted {digest : String → ℕ} (sound : store.Sound policyCode)
    (governed : (store.after call).GovernedLive digest policyCode) :
    store.Vetted policyCode call := by
  cases done : store.perform call with
  | error failure => exact Store.vetted_of_error done
  | ok next =>
    rw [Store.after_ok done] at governed
    cases call with
    | create code conditions rules summary createdBy state =>
      rintro rfl
      exact governed.vetted_create (createPolicyVersion_ok done).1
    | activate versionId actor environment mode =>
      intro version found code _ _
      obtain ⟨row, isFound, _, _, activated⟩ := activatePolicyVersion_ok done
      rw [found] at isFound
      cases isFound
      have inside := (Store.findVersion_some found).1
      rcases activated with rfl | rfl
      · exact governed.vetted_activate sound inside code rfl
      · exact governed.vetted_activate sound inside code rfl
    | _ => trivial

/-- Along every history of calls live trading is governed by approved versions in each
state that is reached exactly when every call is vetted. -/
theorem live_trading_governed_iff (digest : String → ℕ) (sound : store.Sound policyCode) :
    Throughout Store.after (Store.GovernedLive digest policyCode) store calls ↔
      EachMeets Store.after (Store.Vetted policyCode) store calls :=
  throughout_iff_of sound (fun _ isSound => isSound.governed)
    (fun _ _ isSound => isSound.after) (fun _ _ isSound => isSound.vetted)

theorem Store.sound_unversioned
    (none : ∀ version ∈ store.versions, version.policyCode ≠ policyCode) :
    store.Sound policyCode where
  canary version has := absurd has.code (none version has.inside)
  active _ version has := absurd has.code (none version has.inside)
  everywhere version inside code := absurd code (none version inside)

theorem live_trading_governed_iff_release :
    Throughout Store.after (Store.GovernedLive (fun _ => 0) "policy") unversioned release ∧
      (resolvePolicyVersionOverride (fun _ => 0) (afterAll Store.after unversioned release) "policy"
        liveContext).map Override.versionId = some 0 := by
  have vetted : EachMeets Store.after (Store.Vetted "policy") unversioned release := by
    refine eachMeets_cons.mpr ⟨fun _ => ⟨?_, fun isActive => ?_⟩,
      eachMeets_cons.mpr ⟨trivial, eachMeets_cons.mpr ⟨?_, eachMeets_nil⟩⟩⟩
    · decide +kernel
    · exact absurd isActive (by decide +kernel)
    · intro version _ _ _ notLive
      exact absurd (by decide +kernel) notLive
  have sound : unversioned.Sound "policy" := by
    apply Store.sound_unversioned
    intro version inside
    cases inside
  exact ⟨(live_trading_governed_iff _ sound).mpr vetted, by decide +kernel⟩

def paperActivation : List (Call ℕ) :=
  [.create "policy" 1 2 "first" "admin" "draft", .activate 0 "admin" "paper" "ACTIVE"]

theorem paper_activation_governs_live :
    unversioned.Sound "policy" ∧
      (resolvePolicyVersionOverride (fun _ => 0) (afterAll Store.after unversioned paperActivation)
        "policy" liveContext).map Override.versionId = some 0 ∧
      (afterAll Store.after unversioned paperActivation).versions.map
        ExecutionPolicyVersion.approvalStatus = ["pending"] ∧
      ¬Throughout Store.after (Store.GovernedLive (fun _ => 0) "policy") unversioned
        paperActivation := by
  refine ⟨?_, by decide +kernel, by decide +kernel, fun kept => ?_⟩
  · apply Store.sound_unversioned
    intro version inside
    cases inside
  · have governed := kept paperActivation [] rfl
    obtain ⟨override, resolved, isFirst⟩ := Option.map_eq_some_iff.mp
      (by decide +kernel : (resolvePolicyVersionOverride (fun _ => 0)
        (afterAll Store.after unversioned paperActivation) "policy" liveContext).map
          Override.versionId = some 0)
    obtain ⟨version, inside, own, pending⟩ : ∃ version ∈
        (afterAll Store.after unversioned paperActivation).versions,
          version.versionId = 0 ∧ version.approvalStatus = "pending" := by
      decide +kernel
    have isApproved := governed liveContext liveContext_live override resolved version inside
      (own.trans isFirst.symm)
    exact pending_unapproved pending isApproved

end Histories

end Governance
