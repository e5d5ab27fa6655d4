import CoinRobotu.Mfa.Service

/-!
# What the operations leave alone

Most operations rewrite neither the preference nor the memory of the last accepted TOTP code:
they create the two rows, store and consume challenges and backup codes, and stamp times.
-/

namespace Mfa

open Runtime (strip lower)
open Stateful

section Rows

variable {account : Account} {refused : HTTPException → Account → Prop}

theorem ends_getOrCreatePreference {done : UserMfaPreference → Account → Prop} :
    Ends getOrCreatePreference done refused account ↔
      done account.pref { account with preference := some account.pref } := Iff.rfl

theorem ends_getOrCreateSecurityState {done : UserMfaSecurityState → Account → Prop} :
    Ends getOrCreateSecurityState done refused account ↔
      done account.security { account with securityState := some account.security } := Iff.rfl

theorem ends_resolveChallengeRow {environment : Environment} {challengeToken : String}
    {done : AuthMfaChallenge → Account → Prop} :
    Ends (resolveChallengeRow environment challengeToken) done refused account ↔
      match account.challenges.find? fun row =>
          row.challengeTokenHash = environment.hashToken challengeToken with
      | none => refused (badRequest "invalid_mfa_challenge") account
      | some row => done row account := by
  unfold resolveChallengeRow
  rw [ends_bind, ends_get]
  cases account.challenges.find? fun row =>
      row.challengeTokenHash = environment.hashToken challengeToken with
  | none | some => rfl

end Rows

section Frames

variable {invariant : UserMfaPreference → Option String → Prop} {environment : Environment}
  {call : Call} {user : User}

/-- An invariant of the preference and of the replay memory of an account. -/
def Held (invariant : UserMfaPreference → Option String → Prop) (account : Account) : Prop :=
  invariant account.pref account.security.lastTotpCodeHash

theorem getOrCreatePreference_keeps : Keeps (Held invariant) getOrCreatePreference := by
  apply Keeps.bind
  · exact keeps_modify fun _ held => held
  · exact fun _ => keeps_get.bind fun _ => keeps_pure

theorem getOrCreateSecurityState_keeps : Keeps (Held invariant) getOrCreateSecurityState := by
  apply Keeps.bind
  · exact keeps_modify fun _ held => held
  · exact fun _ => keeps_get.bind fun _ => keeps_pure

theorem writeSecurityState_keeps {change : UserMfaSecurityState → UserMfaSecurityState}
    (memory : ∀ security, (change security).lastTotpCodeHash = security.lastTotpCodeHash) :
    Keeps (Held invariant) (writeSecurityState change) := by
  apply keeps_modify
  intro account held
  show invariant account.pref (change account.security).lastTotpCodeHash
  rw [memory]
  exact held

theorem writeChallenge_keeps {tokenHash : String} {change : AuthMfaChallenge → AuthMfaChallenge} :
    Keeps (Held invariant) (writeChallenge tokenHash change) :=
  keeps_modify fun _ held => held

theorem resolveChallengeRow_keeps {challengeToken : String} :
    Keeps (Held invariant) (resolveChallengeRow environment challengeToken) := by
  apply keeps_get.bind
  intro account
  split
  · exact keeps_throw
  · exact keeps_pure

theorem getMfaSettings_keeps : Keeps (Held invariant) (getMfaSettings environment call) := by
  apply getOrCreatePreference_keeps.bind
  intro row
  apply getOrCreateSecurityState_keeps.bind
  intro security
  exact keeps_get.bind fun _ => keeps_pure

theorem regenerateBackupCodes_keeps {count : ℤ} :
    Keeps (Held invariant) (regenerateBackupCodes call count) := by
  apply Keeps.bind
  · exact keeps_modify fun _ held => held
  · exact fun _ => keeps_pure

theorem createChallenge_keeps {methods : List String} {reason : Option String} :
    Keeps (Held invariant) (createChallenge environment call methods reason) := by
  apply keeps_refuseIf.bind
  intro _
  apply Keeps.bind
  · exact keeps_modify fun _ held => held
  · exact fun _ => keeps_pure

theorem forcedChallenge_keeps {row : UserMfaPreference} {remaining : ℕ}
    {reason : Option String} :
    Keeps (Held invariant) (forcedChallenge environment call user row remaining reason) := by
  apply Keeps.ite
  · exact fun _ => keeps_pure
  · intro _
    apply Keeps.ite
    · exact fun _ => keeps_pure
    · intro _
      apply createChallenge_keeps.bind
      exact fun payload => .ite (fun _ => keeps_pure) fun _ => keeps_pure

theorem graceState_keeps : Keeps (Held invariant) (graceState call) := by
  apply getOrCreateSecurityState_keeps.bind
  intro security
  apply Keeps.ite
  · intro _
    apply Keeps.bind
    · exact writeSecurityState_keeps fun _ => rfl
    · exact fun _ => keeps_get.bind fun _ => keeps_pure
  · exact fun _ => keeps_pure

theorem graceChallenge_keeps : Keeps (Held invariant) (graceChallenge environment call) := by
  apply graceState_keeps.bind
  intro security
  apply Keeps.ite
  · exact fun _ => keeps_pure
  · exact fun _ => createChallenge_keeps.bind fun _ => keeps_pure

theorem startMfaChallengeIfRequired_keeps {forced : Bool} {reason : Option String} :
    Keeps (Held invariant) (startMfaChallengeIfRequired environment call user forced reason) := by
  apply getOrCreatePreference_keeps.bind
  intro row
  apply keeps_get.bind
  intro account
  apply Keeps.ite
  · exact fun _ => forcedChallenge_keeps
  · intro _
    apply Keeps.ite
    · exact fun _ => createChallenge_keeps.map
    · intro _
      apply Keeps.ite
      · exact fun _ => graceChallenge_keeps
      · intro _
        apply Keeps.ite
        · exact fun _ => createChallenge_keeps.map
        · exact fun _ => keeps_pure

theorem createAuthenticatedMfaChallenge_keeps {reason : String} :
    Keeps (Held invariant) (createAuthenticatedMfaChallenge environment call user reason) := by
  apply startMfaChallengeIfRequired_keeps.bind
  intro reply
  split
  · exact keeps_throw
  · exact keeps_throw
  · exact keeps_pure

theorem resendEmailOtpForChallenge_keeps {challengeToken : String} :
    Keeps (Held invariant) (resendEmailOtpForChallenge environment call challengeToken) := by
  apply resolveChallengeRow_keeps.bind
  intro row
  apply keeps_refuseIf.bind
  intro _
  apply keeps_refuseIf.bind
  intro _
  apply keeps_refuseIf.bind
  intro _
  apply keeps_refuseIf.bind
  intro _
  apply keeps_refuseIf.bind
  intro _
  exact writeChallenge_keeps.bind fun _ => keeps_pure

theorem verifyTotpAndApplyAntiReplay_keeps {secret code : String}
    (free : ∀ pref memory memory', invariant pref memory → invariant pref memory') :
    Keeps (Held invariant) (verifyTotpAndApplyAntiReplay environment call secret code) := by
  apply getOrCreateSecurityState_keeps.bind
  intro security
  split
  · exact keeps_throw
  · apply keeps_refuseIf.bind
    exact fun _ => keeps_modify fun _ held => free _ _ _ held

theorem consumeBackupCodeOrRaise_keeps {code : String} :
    Keeps (Held invariant) (consumeBackupCodeOrRaise environment call code) := by
  apply keeps_refuseIf.bind
  intro _
  apply keeps_get.bind
  intro account
  split
  · exact keeps_throw
  · exact keeps_modify fun _ held => held

theorem stampVerified_keeps : Keeps (Held invariant) (stampVerified call) :=
  getOrCreateSecurityState_keeps.bind fun _ => writeSecurityState_keeps fun _ => rfl

theorem verifyEmailOtp_keeps {challenge : AuthMfaChallenge} {code : String} :
    Keeps (Held invariant) (verifyEmailOtp environment challenge code) :=
  keeps_refuseIf.bind fun _ => keeps_refuseIf.bind fun _ => writeChallenge_keeps

theorem acknowledgeGrace_keeps {row : UserMfaPreference} :
    Keeps (Held invariant) (acknowledgeGrace environment call user row) := by
  apply keeps_refuseIf.bind
  intro _
  apply getOrCreateSecurityState_keeps.bind
  intro security
  exact keeps_refuseIf.bind fun _ => keeps_refuseIf.bind fun _ => keeps_pure

theorem totpMethods_reads_same {method : String} {remaining : ℕ}
    (allowed : method ∈ totpMethods remaining) : lower (strip method) = method := by
  have each : ∀ method ∈ ["totp", "backup_code"], lower (strip method) = method := by
    decide +kernel
  apply each
  unfold totpMethods at allowed
  split at allowed
  · exact allowed
  · exact List.mem_append_left ["backup_code"] allowed

section Codes

variable {method code : String} (totp : lower (strip method) = "totp" → ∀ secret,
  Keeps (Held invariant) (verifyTotpAndApplyAntiReplay environment call secret code))

include totp

theorem performMfaMethodVerification_keeps {challengeContext : Option AuthMfaChallenge} :
    Keeps (Held invariant)
      (performMfaMethodVerification environment call user method code challengeContext) := by
  apply getOrCreatePreference_keeps.bind
  intro row
  apply Keeps.ite
  · intro isTotp
    apply keeps_refuseIf.bind
    exact fun _ => (totp isTotp _).bind fun _ => keeps_pure
  · intro _
    apply Keeps.ite
    · exact fun _ => consumeBackupCodeOrRaise_keeps.bind fun _ =>
        stampVerified_keeps.bind fun _ => keeps_pure
    · intro _
      apply Keeps.ite
      · intro _
        split
        · exact keeps_throw
        · exact verifyEmailOtp_keeps.bind fun _ => stampVerified_keeps.bind fun _ => keeps_pure
      · intro _
        apply Keeps.ite
        · intro _
          split
          · exact keeps_throw
          · exact acknowledgeGrace_keeps
        · exact fun _ => keeps_throw

variable {session : SessionContext} {scope : List String}

theorem verifyMfaChallenge_keeps {challengeToken : String} : Keeps (Held invariant)
      (verifyMfaChallenge environment call user challengeToken method code session scope) := by
  apply resolveChallengeRow_keeps.bind
  intro row
  apply keeps_refuseIf.bind
  intro _
  apply keeps_refuseIf.bind
  intro _
  apply Keeps.unless
  intro allowed
  have same := reads_same (mem_normalizeMethods.mp (not_not.mp allowed)).1
  apply (performMfaMethodVerification_keeps fun isTotp => totp (same.symm.trans isTotp)).bind
  intro verification
  exact writeChallenge_keeps.bind fun _ => keeps_pure

theorem verifyStepUpCode_keeps : Keeps (Held invariant)
      (verifyStepUpCode environment call user method code session scope) := by
  apply getOrCreatePreference_keeps.bind
  intro row
  apply keeps_refuseIf.bind
  intro _
  apply keeps_get.bind
  intro account
  apply Keeps.unless
  intro allowed
  have same := totpMethods_reads_same (not_not.mp allowed)
  apply (performMfaMethodVerification_keeps fun isTotp => totp (same.symm.trans isTotp)).bind
  exact fun _ => keeps_pure

end Codes

def Operation.rewrites : Operation → Bool
  | .update _ _ | .beginSetup | .verifySetup _ | .disable | .adminReset => true
  | _ => false

def Operation.totpCode : Operation → Option String
  | .verifyChallenge _ method code _ _ | .stepUp method code _ _ =>
    if lower (strip method) = "totp" then some code else none
  | _ => none

theorem perform_keeps {operation : Operation} (other : operation.rewrites = false)
    (totp : ∀ code, operation.totpCode = some code → ∀ secret, Keeps (Held invariant)
      (verifyTotpAndApplyAntiReplay environment call secret code)) :
    Keeps (Held invariant) (perform environment user call operation) := by
  cases operation with
  | settings => exact getMfaSettings_keeps.map
  | regenerate count => exact regenerateBackupCodes_keeps.map
  | start forced reason => exact startMfaChallengeIfRequired_keeps.map
  | authenticatedChallenge reason => exact createAuthenticatedMfaChallenge_keeps.map
  | resend challengeToken => exact resendEmailOtpForChallenge_keeps.map
  | verifyChallenge challengeToken method code session scope =>
    exact (verifyMfaChallenge_keeps fun isTotp => totp code (if_pos isTotp)).map
  | stepUp method code session scope =>
    exact (verifyStepUpCode_keeps fun isTotp => totp code (if_pos isTotp)).map
  | update | beginSetup | verifySetup | disable | adminReset => cases other

end Frames

section Outcomes

variable {environment : Environment} {user : User} {account : Account} {step : Call × Operation}

theorem outcome_of_ends {done : Reply → Account → Prop} {refused : HTTPException → Account → Prop}
    (ends : Ends (perform environment user step.1 step.2) done refused account) :
    match (outcome environment user account step).1 with
    | .ok reply => done reply (outcome environment user account step).2
    | .error refusal => refused refusal (outcome environment user account step).2 := by
  unfold outcome
  unfold Ends at ends
  cases result : perform environment user step.1 step.2 account with
  | ok | error => rwa [result] at ends

theorem outcome_keeps {invariant : UserMfaPreference → Option String → Prop}
    (keeps : Keeps (Held invariant) (perform environment user step.1 step.2))
    (held : Held invariant account) : Held invariant (outcome environment user account step).2 := by
  have ends := outcome_of_ends (keeps account held)
  split at ends
  · exact ends
  · exact ends

end Outcomes

end Mfa
