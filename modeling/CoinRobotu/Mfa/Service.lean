import CoinRobotu.Mfa.Account

/-!
# The operations on the second factor

The public functions of the service, each as a computation on the account of one user that
returns its reply or refuses with an HTTP exception. A refusal keeps what was written before it;
no function refuses between a write and the commit that follows it, so the writes are made at
once.
-/

namespace Mfa

open Runtime (strip lower upper)
open Stateful (refuseIf)

def badRequest (detail : String) : HTTPException := ⟨400, detail⟩
def forbidden (detail : String) : HTTPException := ⟨403, detail⟩
def tooManyRequests (detail : String) : HTTPException := ⟨429, detail⟩

def getOrCreatePreference : Work UserMfaPreference := do
  modify fun account => { account with preference := some account.pref }
  return (← get).pref

def getOrCreateSecurityState : Work UserMfaSecurityState := do
  modify fun account => { account with securityState := some account.security }
  return (← get).security

def writePreference (change : UserMfaPreference → UserMfaPreference) : Work PUnit :=
  modify fun account => { account with preference := some (change account.pref) }

def writeSecurityState (change : UserMfaSecurityState → UserMfaSecurityState) : Work PUnit :=
  modify fun account => { account with securityState := some (change account.security) }

/-- Assign columns of the challenge of a token, whose hash is unique in its table. -/
def writeChallenge (tokenHash : String) (change : AuthMfaChallenge → AuthMfaChallenge) :
    Work PUnit :=
  modify fun account => { account with
    challenges := account.challenges.map fun row =>
      if row.challengeTokenHash = tokenHash then change row else row }

/-- `_resolve_challenge_row`. -/
def resolveChallengeRow (environment : Environment) (challengeToken : String) :
    Work AuthMfaChallenge := do
  match (← get).challenges.find? fun row =>
      row.challengeTokenHash = environment.hashToken challengeToken with
  | none => throw (badRequest "invalid_mfa_challenge")
  | some row => return row

section Settings

structure MfaSettings where
  isEnabled : Bool
  enabledMethods : List String
  totpConfigured : Bool
  totpVerified : Bool
  emailOtpVerified : Bool
  backupCodesRemaining : ℕ
  mfaEnabledNotVerified : Bool
  backupDownloadRequired : Bool
  mfaGraceActive : Bool
  mfaGraceExpiresAt : Option ℤ
  lastVerifiedAt : Option ℤ
  deriving DecidableEq, Repr

variable (environment : Environment) (call : Call)

/-- `get_mfa_settings`. -/
def getMfaSettings : Work MfaSettings := do
  let pref ← getOrCreatePreference
  let security ← getOrCreateSecurityState
  let remaining := (← get).activeBackupCodes
  return {
    isEnabled := pref.isEnabled
    enabledMethods := normalizeMethods pref.enabledMethods false false
    totpConfigured := decryptTotpSecret environment pref.totpSecret ≠ ""
    totpVerified := pref.totpVerified
    emailOtpVerified := false
    backupCodesRemaining := remaining
    mfaEnabledNotVerified := pref.isEnabled ∧ ¬pref.totpVerified
    backupDownloadRequired := pref.totpVerified ∧ remaining = 0
    mfaGraceActive := security.mfaGraceExpiresAt.any fun expiresAt => call.now < expiresAt
    mfaGraceExpiresAt := security.mfaGraceExpiresAt
    lastVerifiedAt := security.lastMfaVerifiedAt }

/-- `regenerate_backup_codes`: the codes that are shown once. -/
def regenerateBackupCodes (count : ℤ) : Work (List String) := do
  let usableCount := max 4 (min (if count = 0 then mfaBackupCodesDefaultCount else count) 20)
  let generated := (List.range usableCount.toNat).map call.backupCodes
  modify fun account => { account with
    backupCodes := generated.map fun item => { codeHash := item.2, usedAt := none } }
  return generated.map Prod.fst

/-- `update_mfa_settings`. -/
def updateMfaSettings (isEnabled : Bool) (enabledMethods : List String) : Work MfaSettings := do
  let pref ← getOrCreatePreference
  let methods := normalizeMethods enabledMethods false false
  refuseIf (isEnabled ∧ methods = []) (badRequest "mfa_method_required")
  refuseIf (isEnabled ∧ "totp" ∈ methods ∧ decryptTotpSecret environment pref.totpSecret = "")
    (badRequest "totp_setup_required")
  refuseIf (isEnabled ∧ "totp" ∈ methods ∧ ¬pref.totpVerified) (badRequest "totp_verify_required")
  writePreference fun pref => { pref with
    enabledMethods := methods
    isEnabled := isEnabled ∧ 0 < methods.length }
  getMfaSettings environment call

structure TotpSetup where
  secret : String
  otpauthUri : String
  issuer : String
  accountName : String
  deriving DecidableEq, Repr

/-- The secret that a setup shows: the stored one while it waits for its verification, else a
new one that replaces it. -/
def setupSecret (pref : UserMfaPreference) : Work String :=
  if pref.totpVerified ∨ decryptTotpSecret environment pref.totpSecret = "" then do
    writePreference fun pref => { pref with
      totpSecret := some (encryptTotpSecret environment call.nonce call.totpSecret)
      totpVerified := false }
    return call.totpSecret
  else return decryptTotpSecret environment pref.totpSecret

/-- `begin_totp_setup`. -/
def beginTotpSetup (user : User) : Work TotpSetup := do
  let pref ← getOrCreatePreference
  let secret ← setupSecret environment call pref
  return {
    secret
    otpauthUri := environment.provisioningUri secret user.email
    issuer := "XILO"
    accountName := user.email }

/-- `verify_totp_setup`. -/
def verifyTotpSetup (code : String) : Work MfaSettings := do
  let pref ← getOrCreatePreference
  let secret := decryptTotpSecret environment pref.totpSecret
  refuseIf (secret = "") (badRequest "totp_not_initialized")
  refuseIf (resolveTotpTimecode environment secret code call.now = none)
    (badRequest "invalid_totp_code")
  let _ ← getOrCreateSecurityState
  let methods := normalizeMethods pref.enabledMethods false false
  -- A verified secret does not turn the second factor on: that is left to the user.
  writePreference fun pref => { pref with
    totpVerified := true
    enabledMethods := if "totp" ∈ methods then pref.enabledMethods else methods ++ ["totp"]
    isEnabled := false }
  writeSecurityState fun security => { security with
    mfaGraceStartedAt := none
    mfaGraceExpiresAt := none
    lastMfaVerifiedAt := some call.now }
  getMfaSettings environment call

end Settings

section Challenges

structure ChallengePayload where
  mfaChallengeToken : String
  mfaMethods : List String
  mfaExpiresAt : ℤ
  emailDeliveryStatus : String
  emailCodePreview : Option String
  mfaGraceActive : Bool
  mfaGraceExpiresAt : Option ℤ
  mfaSetupRequired : Bool
  challengeReason : Option String
  deriving DecidableEq, Repr

structure BlockedPayload where
  blockReason : String
  mfaSetupRequired : Bool
  mfaGraceExpiresAt : Option ℤ
  emailDeliveryStatus : Option String
  challengeReason : Option String
  deriving DecidableEq, Repr

/-- The payload of a login that needs a second factor. -/
inductive StartReply where
  | challenge (payload : ChallengePayload)
  | blocked (payload : BlockedPayload)
  deriving DecidableEq, Repr

variable (environment : Environment) (call : Call)

/-- `_create_challenge`. -/
def createChallenge (challengeMethods : List String) (challengeReason : Option String) :
    Work ChallengePayload := do
  refuseIf ("email_otp" ∈ challengeMethods ∧ emailOtpRateLimitPerMinute < call.rateCount)
    (tooManyRequests "email_otp_rate_limited")
  let byEmail : Bool := "email_otp" ∈ challengeMethods
  let ttlMinutes := if byEmail then emailOtpTtlMinutes else mfaChallengeTtlMinutes
  let challenge : AuthMfaChallenge := {
    challengeTokenHash := environment.hashToken call.challengeToken
    allowedMethods := challengeMethods
    emailOtpHash := if byEmail then some (environment.hashToken call.emailCode) else none
    emailDeliveryStatus :=
      if byEmail then (if call.emailDelivered then "SENT" else "FAILED") else "DISABLED"
    expiresAt := call.now + minutes ttlMinutes
    consumedAt := none }
  modify fun account => { account with challenges := account.challenges ++ [challenge] }
  return {
    mfaChallengeToken := call.challengeToken
    mfaMethods := challengeMethods
    mfaExpiresAt := challenge.expiresAt
    emailDeliveryStatus := challenge.emailDeliveryStatus
    emailCodePreview := if byEmail ∧ ¬environment.production then some call.emailCode else none
    mfaGraceActive := false
    mfaGraceExpiresAt := none
    mfaSetupRequired := false
    challengeReason }

def totpMethods (remaining : ℕ) : List String :=
  ["totp"] ++ if 0 < remaining then ["backup_code"] else []

def forcedMethods (ready : Bool) (remaining : ℕ) : List String :=
  if ready then totpMethods remaining ++ ["email_otp"] else ["email_otp"]

/-- `start_mfa_challenge_if_required(force_challenge=True)`. -/
def forcedChallenge (user : User) (pref : UserMfaPreference) (remaining : ℕ)
    (challengeReason : Option String) : Work (Option StartReply) :=
  if ¬user.isPrivileged ∧ ¬pref.isEnabled ∧ ¬totpReady environment pref then return none
  else if user.isPrivileged ∧ ¬totpReady environment pref then
    return some (.blocked {
      blockReason := "risk_requires_totp_setup"
      mfaSetupRequired := true
      mfaGraceExpiresAt := none
      emailDeliveryStatus := none
      challengeReason := some (orDefault challengeReason "risk_enforced") })
  else do
    let challengeMethods := forcedMethods (totpReady environment pref) remaining
    let payload ← createChallenge environment call challengeMethods
      (some (orDefault challengeReason "new_device"))
    if payload.emailDeliveryStatus = "FAILED" ∧ challengeMethods = ["email_otp"] ∧
        environment.production then
      return some (.blocked {
        blockReason := "email_otp_delivery_failed"
        mfaSetupRequired := false
        mfaGraceExpiresAt := none
        emailDeliveryStatus := some "FAILED"
        challengeReason := none })
    else return some (.challenge payload)

/-- The security state with the grace period, which starts when it is first needed. -/
def graceState : Work UserMfaSecurityState := do
  let security ← getOrCreateSecurityState
  if security.mfaGraceStartedAt = none ∨ security.mfaGraceExpiresAt = none then do
    writeSecurityState fun security => { security with
      mfaGraceStartedAt := some call.now
      mfaGraceExpiresAt := some (call.now + hours mfaGracePeriodHours) }
    return (← get).security
  else return security

/-- The challenge of a privileged user without TOTP, which can be acknowledged during the grace
period. -/
def graceChallenge : Work (Option StartReply) := do
  let security ← graceState call
  if security.isGraceExpired call.now then
    return some (.blocked {
      blockReason := "mfa_setup_required_after_grace"
      mfaSetupRequired := true
      mfaGraceExpiresAt := security.mfaGraceExpiresAt
      emailDeliveryStatus := none
      challengeReason := none })
  else do
    let payload ← createChallenge environment call ["grace_ack"] (some "privileged_grace")
    return some (.challenge { payload with
      mfaGraceActive := true
      mfaGraceExpiresAt := security.mfaGraceExpiresAt
      mfaSetupRequired := true })

def withMethod (methods : List String) (method : String) : List String :=
  if method ∈ methods then methods else methods ++ [method]

def configuredMethods (methods : List String) (remaining : ℕ) : List String :=
  if 0 < remaining then withMethod (withMethod methods "email_otp") "backup_code"
  else withMethod methods "email_otp"

def startMfaChallengeIfRequired (user : User) (forceChallenge : Bool)
    (challengeReason : Option String) : Work (Option StartReply) := do
  let pref ← getOrCreatePreference
  let remaining := (← get).activeBackupCodes
  let methods := normalizeMethods pref.enabledMethods false false
  if forceChallenge then forcedChallenge environment call user pref remaining challengeReason
  else if totpReady environment pref then
    (fun payload => some (.challenge payload)) <$>
      createChallenge environment call (totpMethods remaining) challengeReason
  else if user.isPrivileged then graceChallenge environment call
  else if pref.isEnabled ∧ methods ≠ [] then
    (fun payload => some (.challenge payload)) <$>
      createChallenge environment call (configuredMethods methods remaining) challengeReason
  else return none

def createAuthenticatedMfaChallenge (user : User) (challengeReason : String) :
    Work ChallengePayload := do
  match ← startMfaChallengeIfRequired environment call user true (some challengeReason) with
  | none => throw (badRequest "mfa_challenge_not_available")
  | some (.blocked payload) => throw (forbidden payload.blockReason)
  | some (.challenge payload) => return payload

/-- The new mail of a challenge: its token, its delivery, the preview of the code and the time
at which it expires. -/
structure Resent where
  mfaChallengeToken : String
  emailDeliveryStatus : String
  emailCodePreview : Option String
  mfaExpiresAt : ℤ
  deriving DecidableEq, Repr

def resendEmailOtpForChallenge (challengeToken : String) : Work Resent := do
  let row ← resolveChallengeRow environment challengeToken
  refuseIf (row.consumedAt ≠ none) (badRequest "mfa_challenge_already_used")
  refuseIf (row.expiresAt < call.now) (badRequest "mfa_challenge_expired")
  refuseIf ("email_otp" ∉ normalizeMethods row.allowedMethods true true)
    (badRequest "email_otp_not_enabled_for_challenge")
  refuseIf (emailOtpResendLimit < call.resendCount)
    (tooManyRequests "email_otp_resend_limit_exceeded")
  refuseIf (emailOtpRateLimitPerMinute < call.rateCount) (tooManyRequests "email_otp_rate_limited")
  let delivery := if call.emailDelivered then "SENT" else "FAILED"
  writeChallenge row.challengeTokenHash fun row => { row with
    emailOtpHash := some (environment.hashToken call.emailCode)
    emailDeliveryStatus := delivery }
  return {
    mfaChallengeToken := challengeToken
    emailDeliveryStatus := delivery
    emailCodePreview := if environment.production then none else some call.emailCode
    mfaExpiresAt := row.expiresAt }

end Challenges

section Verification

/-- What one verification of a method says. -/
structure Verification where
  mfaVerified : Bool
  mfaGraceActive : Bool
  mfaGraceExpiresAt : Option ℤ
  mfaSetupRequired : Bool
  deriving DecidableEq, Repr

def verified : Verification := ⟨true, false, none, false⟩

variable (environment : Environment) (call : Call)

def verifyTotpAndApplyAntiReplay (secret code : String) : Work PUnit := do
  let security ← getOrCreateSecurityState
  match resolveTotpTimecode environment secret code call.now with
  | none => throw (badRequest "invalid_totp_code")
  | some step => do
    let lastHash := security.lastTotpCodeHash.getD ""
    refuseIf (lastHash ≠ "" ∧ lastHash = replayHash environment code step)
      (badRequest "totp_replay_detected")
    writeSecurityState fun security => { security with
      lastTotpCodeHash := some (replayHash environment code step)
      lastTotpVerifiedAt := some call.now
      lastMfaVerifiedAt := some call.now }

/-- The rows of the backup codes once the first unused one that matches is used. -/
def useFirst (now : ℤ) (normalized : String) :
    List UserMfaBackupCode → Option (List UserMfaBackupCode)
  | [] => none
  | row :: rows =>
    if row.usedAt = none ∧ backupCodeMatches environment row.codeHash normalized then
      some ({ row with usedAt := some now } :: rows)
    else (useFirst now normalized rows).map (row :: ·)

def consumeBackupCodeOrRaise (code : String) : Work PUnit := do
  let normalized := normalizeBackupCode environment code
  refuseIf (normalized = "") (badRequest "invalid_backup_code")
  match useFirst environment call.now normalized (← get).backupCodes with
  | none => throw (badRequest "invalid_backup_code")
  | some rows => modify fun account => { account with backupCodes := rows }

/-- `security_state.last_mfa_verified_at = now`. -/
def stampVerified : Work PUnit := do
  let _ ← getOrCreateSecurityState
  writeSecurityState fun security => { security with lastMfaVerifiedAt := some call.now }

def verifyEmailOtp (challenge : AuthMfaChallenge) (code : String) : Work PUnit := do
  let expectedHash := strip (challenge.emailOtpHash.getD "")
  refuseIf (expectedHash = "") (badRequest "email_otp_not_available")
  let normalized := String.ofList (code.toList.filter environment.isDigit)
  refuseIf (normalized.length ≠ 6 ∨ expectedHash ≠ environment.hashToken normalized)
    (badRequest "invalid_email_otp_code")
  writeChallenge challenge.challengeTokenHash fun row => { row with emailOtpHash := none }

/-- The acknowledgement that a privileged user has no second factor yet. -/
def acknowledgeGrace (user : User) (pref : UserMfaPreference) : Work Verification := do
  refuseIf (¬user.isPrivileged) (forbidden "grace_ack_not_allowed")
  let security ← getOrCreateSecurityState
  refuseIf (security.isGraceExpired call.now) (forbidden "mfa_setup_required_after_grace")
  refuseIf (totpReady environment pref) (badRequest "grace_ack_not_allowed")
  return {
    mfaVerified := false
    mfaGraceActive := true
    mfaGraceExpiresAt := security.mfaGraceExpiresAt
    mfaSetupRequired := true }

def performMfaMethodVerification (user : User) (method code : String)
    (challengeContext : Option AuthMfaChallenge) : Work Verification := do
  let pref ← getOrCreatePreference
  let normalizedMethod := lower (strip method)
  if normalizedMethod = "totp" then do
    let secret := decryptTotpSecret environment pref.totpSecret
    refuseIf (secret = "" ∨ ¬pref.totpVerified) (badRequest "totp_not_ready")
    verifyTotpAndApplyAntiReplay environment call secret code
    return verified
  else if normalizedMethod = "backup_code" then do
    consumeBackupCodeOrRaise environment call code
    stampVerified call
    return verified
  else if normalizedMethod = "email_otp" then
    match challengeContext with
    | none => throw (badRequest "email_otp_not_available")
    | some challenge => do
      verifyEmailOtp environment challenge code
      stampVerified call
      return verified
  else if normalizedMethod = "grace_ack" then
    match challengeContext with
    | none => throw (badRequest "grace_ack_not_allowed")
    | some _ => acknowledgeGrace environment call user pref
  else throw (badRequest "unsupported_mfa_method")

/-- The device and the session that a token is for. -/
structure SessionContext where
  deviceId : String
  ipHash : Option String
  deviceFingerprint : Option String
  deriving DecidableEq, Repr

/-- What the access token says, and the rest of the reply to a verification. -/
structure VerifyReply where
  subject : String
  role : String
  email : String
  mfaVerified : Bool
  mfaVerifiedAt : Option ℤ
  session : SessionContext
  stepUpAt : Option ℤ
  stepUpScope : List String
  mfaGraceActive : Bool
  mfaGraceExpiresAt : Option ℤ
  mfaSetupRequired : Bool
  stepUpRequired : Bool
  stepUpValidUntil : Option ℤ
  deriving DecidableEq, Repr

/-- The reply to a verification that was made. -/
def verifyReply (user : User) (session : SessionContext) (scope : List String)
    (verification : Verification) : VerifyReply where
  subject := user.id
  role := user.role.value
  email := user.email
  mfaVerified := verification.mfaVerified
  mfaVerifiedAt := if verification.mfaVerified then some call.now else none
  session := session
  stepUpAt := if verification.mfaVerified then some call.now else none
  stepUpScope := scope
  mfaGraceActive := verification.mfaGraceActive
  mfaGraceExpiresAt := verification.mfaGraceExpiresAt
  mfaSetupRequired := verification.mfaSetupRequired
  stepUpRequired := ¬verification.mfaVerified
  stepUpValidUntil :=
    if verification.mfaVerified then some (call.now + minutes mfaStepUpTtlMinutes) else none

/-- `verify_mfa_challenge`. -/
def verifyMfaChallenge (user : User) (challengeToken method code : String)
    (session : SessionContext) (stepUpScope : List String) : Work VerifyReply := do
  let row ← resolveChallengeRow environment challengeToken
  refuseIf (row.consumedAt ≠ none) (badRequest "mfa_challenge_already_used")
  refuseIf (row.expiresAt < call.now) (badRequest "mfa_challenge_expired")
  let normalizedMethod := lower (strip method)
  refuseIf (normalizedMethod ∉ normalizeMethods row.allowedMethods true true)
    (badRequest "mfa_method_not_allowed")
  let verification ← performMfaMethodVerification environment call user normalizedMethod code
    (some row)
  writeChallenge row.challengeTokenHash fun row => { row with consumedAt := some call.now }
  return verifyReply call user session (if stepUpScope = [] then ["auth_login"] else stepUpScope)
    verification

/-- `verify_step_up_code`. -/
def verifyStepUpCode (user : User) (method code : String) (session : SessionContext)
    (stepUpScope : List String) : Work VerifyReply := do
  let pref ← getOrCreatePreference
  refuseIf (¬totpReady environment pref) (forbidden "step_up_mfa_not_configured")
  let normalizedMethod := lower (strip method)
  refuseIf (normalizedMethod ∉ totpMethods (← get).activeBackupCodes)
    (badRequest "step_up_method_not_allowed")
  let _ ← performMfaMethodVerification environment call user normalizedMethod code none
  return verifyReply call user session stepUpScope verified

end Verification

section Resets

variable (environment : Environment) (call : Call)

/-- `disable_user_mfa`. -/
def disableUserMfa : Work MfaSettings := do
  let _ ← getOrCreatePreference
  writePreference fun pref => { pref with
    isEnabled := false
    enabledMethods := []
    totpSecret := none
    totpVerified := false }
  modify fun account => { account with
    backupCodes := []
    challenges := account.challenges.map fun row =>
      if row.consumedAt = none then { row with consumedAt := some call.now } else row }
  getMfaSettings environment call

/-- `admin_reset_user_mfa`. -/
def adminResetUserMfa : Work MfaSettings := do
  let _ ← getOrCreateSecurityState
  let settings ← disableUserMfa environment call
  let expiresAt := call.now + hours mfaGracePeriodHours
  writeSecurityState fun _ => {
    mfaGraceStartedAt := some call.now
    mfaGraceExpiresAt := some expiresAt
    lastTotpCodeHash := none
    lastTotpVerifiedAt := none
    lastMfaVerifiedAt := none }
  return { settings with mfaGraceActive := true, mfaGraceExpiresAt := some expiresAt }

end Resets

/-- One call of the service for a user. -/
inductive Operation where
  | settings
  | regenerate (count : ℤ)
  | update (isEnabled : Bool) (enabledMethods : List String)
  | beginSetup
  | verifySetup (code : String)
  | start (forceChallenge : Bool) (challengeReason : Option String)
  | authenticatedChallenge (challengeReason : String)
  | resend (challengeToken : String)
  | verifyChallenge (challengeToken method code : String) (session : SessionContext)
      (stepUpScope : List String)
  | stepUp (method code : String) (session : SessionContext) (stepUpScope : List String)
  | disable
  | adminReset
  deriving DecidableEq, Repr

inductive Reply where
  | settings (settings : MfaSettings)
  | codes (codes : List String)
  | setup (setup : TotpSetup)
  | start (reply : Option StartReply)
  | challenge (payload : ChallengePayload)
  | resent (resent : Resent)
  | verified (reply : VerifyReply)
  deriving DecidableEq, Repr

section Runs

variable (environment : Environment) (user : User)

/-- One call of the service. -/
def perform (call : Call) : Operation → Work Reply
  | .settings => .settings <$> getMfaSettings environment call
  | .regenerate count => .codes <$> regenerateBackupCodes call count
  | .update isEnabled enabledMethods =>
    .settings <$> updateMfaSettings environment call isEnabled enabledMethods
  | .beginSetup => .setup <$> beginTotpSetup environment call user
  | .verifySetup code => .settings <$> verifyTotpSetup environment call code
  | .start forceChallenge challengeReason =>
    .start <$> startMfaChallengeIfRequired environment call user forceChallenge challengeReason
  | .authenticatedChallenge challengeReason =>
    .challenge <$> createAuthenticatedMfaChallenge environment call user challengeReason
  | .resend challengeToken => .resent <$> resendEmailOtpForChallenge environment call challengeToken
  | .verifyChallenge challengeToken method code session stepUpScope =>
    .verified <$> verifyMfaChallenge environment call user challengeToken method code session
      stepUpScope
  | .stepUp method code session stepUpScope =>
    .verified <$> verifyStepUpCode environment call user method code session stepUpScope
  | .disable => .settings <$> disableUserMfa environment call
  | .adminReset => .settings <$> adminResetUserMfa environment call

def outcome (account : Account) (step : Call × Operation) : Except HTTPException Reply × Account :=
  match perform environment user step.1 step.2 account with
  | .ok reply after => (.ok reply, after)
  | .error refusal after => (.error refusal, after)

def accountAfter (account : Account) (steps : List (Call × Operation)) : Account :=
  steps.foldl (fun before step => (outcome environment user before step).2) account

@[simp] theorem accountAfter_concat {environment : Environment} {user : User} {account : Account}
    {steps : List (Call × Operation)} {step : Call × Operation} :
    accountAfter environment user account (steps ++ [step]) =
      (outcome environment user (accountAfter environment user account steps) step).2 :=
  List.foldl_concat _ _ _ _

end Runs

/-- The SHA-256 digests of the texts that the examples hash. -/
def exampleDigest (text : String) : String :=
  if text = "t-1" then "46e9bc3476c92ea24fb17adac6cd9cdacff7a34a5c753100787da5a29984f836"
  else if text = "324550::56666666" then
    "e45e4dccacbeeeb2cf583e0c1c946c030ac38f133d2a1f71b53424c20f380fc0"
  else if text = "324 550::56666666" then
    "b760bb978e4c52ccb2e6f37351d09139c8202a895ee461d50ef653b9e14b1d42"
  else if text = "367665::56666667" then
    "907be5ffd9c7bc4ca957fcd94aa1817b53c4ff0b5c011e3c954933847b72f7f8"
  else "e3b0c44298fc1c149afbf4c8996fb92427ae41e4649b934ca495991b7852b855"

theorem exampleDigest_ne (text : String) : exampleDigest text ≠ "" := by
  have digests : ∀ digest ∈ [
      "46e9bc3476c92ea24fb17adac6cd9cdacff7a34a5c753100787da5a29984f836",
      "e45e4dccacbeeeb2cf583e0c1c946c030ac38f133d2a1f71b53424c20f380fc0",
      "b760bb978e4c52ccb2e6f37351d09139c8202a895ee461d50ef653b9e14b1d42",
      "907be5ffd9c7bc4ca957fcd94aa1817b53c4ff0b5c011e3c954933847b72f7f8",
      "e3b0c44298fc1c149afbf4c8996fb92427ae41e4649b934ca495991b7852b855"], digest ≠ "" := by
    decide
  apply digests
  unfold exampleDigest
  split_ifs <;> simp

/-- The codes of one secret in three successive time steps, and what the libraries return on the
other values of the examples. -/
def exampleEnvironment : Environment where
  production := true
  hashToken := exampleDigest
  hashToken_ne := exampleDigest_ne
  decrypt _ := none
  encrypt _ _ :=
    "AAECAwQFBgcICQoL:RUnpU6A6lrDZJCxg-HbhjKCCtkcc6zvDCI17SntEaJUQr8HUiZtvj-vwziQpPTNg"
  totpVerify secret code step := secret = "JBSWY3DPEHPK3PXP" ∧
    (code, step) ∈ [("822542", 56666665), ("324550", 56666666), ("367665", 56666667)]
  bcryptVerify _ _ := false
  isDigit := Char.isDigit
  isAlnum := Char.isAlphanum
  toUpper := upper
  provisioningUri secret _ :=
    "otpauth://totp/XILO:user%40example.com?secret=" ++ secret ++ "&issuer=XILO"

/-- A call in the second of the three time steps. -/
def exampleCall : Call where
  now := seconds 1700000000
  challengeToken := "t-1"
  emailCode := "493027"
  emailDelivered := true
  rateCount := 1
  resendCount := 1
  totpSecret := "GEZDGNBVGY3TQOJQGEZDGNBVGY3TQOJQ"
  nonce := "AAECAwQFBgcICQoL"
  backupCodes _ := ("ABCD-EFGH", "$2b$12$")

def exampleAccount (totpVerified : Bool) : Account where
  preference := some ⟨false, [], some "JBSWY3DPEHPK3PXP", totpVerified⟩
  securityState := none
  backupCodes := []
  challenges := []

def exampleUser (role : UserRole) : User := ⟨"u-1", "user@example.com", role⟩

end Mfa
