import CoinRobotu.Runtime.Text
import CoinRobotu.Stateful.Refusing

/-!
# The second factor of an account

What the database has of one user's second factor: the preference row with the TOTP secret, the
security state with the grace period and the last accepted TOTP code, the backup codes and the
login challenges. All queries of the service are restricted to one user or to one challenge token,
so one account is modelled at a time; the first two rows are created when they are first asked for.

The libraries are parameters: the hash of tokens, the cipher of the stored secret, `pyotp`, the
hashing of backup codes and the character classes of Unicode. Times are microseconds since the
epoch.
-/

namespace Mfa

open Runtime (strip lower upper)

inductive UserRole where
  | superAdmin
  | admin
  | ops
  | user
  deriving DecidableEq, Repr

def UserRole.value : UserRole → String
  | .superAdmin => "super_admin"
  | .admin => "admin"
  | .ops => "ops"
  | .user => "user"

structure User where
  id : String
  email : String
  role : UserRole
  deriving DecidableEq, Repr

structure UserMfaPreference where
  isEnabled : Bool
  enabledMethods : List String
  totpSecret : Option String
  totpVerified : Bool
  deriving DecidableEq, Repr

structure UserMfaSecurityState where
  mfaGraceStartedAt : Option ℤ
  mfaGraceExpiresAt : Option ℤ
  lastTotpCodeHash : Option String
  lastTotpVerifiedAt : Option ℤ
  lastMfaVerifiedAt : Option ℤ
  deriving DecidableEq, Repr

structure UserMfaBackupCode where
  codeHash : String
  usedAt : Option ℤ
  deriving DecidableEq, Repr

structure AuthMfaChallenge where
  challengeTokenHash : String
  allowedMethods : List String
  emailOtpHash : Option String
  emailDeliveryStatus : String
  expiresAt : ℤ
  consumedAt : Option ℤ
  deriving DecidableEq, Repr

structure Account where
  preference : Option UserMfaPreference
  securityState : Option UserMfaSecurityState
  backupCodes : List UserMfaBackupCode
  challenges : List AuthMfaChallenge
  deriving DecidableEq, Repr

namespace Account

variable (account : Account)

def pref : UserMfaPreference := account.preference.getD ⟨false, [], none, false⟩

def security : UserMfaSecurityState := account.securityState.getD ⟨none, none, none, none, none⟩

end Account

/-- What the service is built on. -/
structure Environment where
  /-- The runtime environment is `prod` or `production`. -/
  production : Bool
  /-- `_hash_token`, a hexadecimal digest. -/
  hashToken : String → String
  hashToken_ne : ∀ text, hashToken text ≠ ""
  /-- What the cipher makes of the text behind the prefix of a stored secret, unless it fails. -/
  decrypt : String → Option String
  /-- The text behind the prefix of a stored secret, from a nonce and the secret. -/
  encrypt : String → String → String
  /-- Whether `pyotp` accepts a code for a secret at a time step. -/
  totpVerify : String → String → ℤ → Bool
  /-- Whether the hasher of the backup codes accepts a code for a hash. -/
  bcryptVerify : String → String → Bool
  isDigit : Char → Bool
  isAlnum : Char → Bool
  toUpper : String → String
  /-- `provisioning_uri`, of a secret and the name of an account. -/
  provisioningUri : String → String → String

/-- What one call meets outside of the database: the clock, the random source, the counters of the
rate limits in the cache and the delivery of mail. -/
structure Call where
  now : ℤ
  challengeToken : String
  emailCode : String
  emailDelivered : Bool
  rateCount : ℕ
  resendCount : ℕ
  totpSecret : String
  nonce : String
  /-- The drawn backup codes, each with its hash. -/
  backupCodes : ℕ → String × String

structure HTTPException where
  statusCode : ℕ
  detail : String
  deriving DecidableEq, Repr

abbrev Work := Stateful.Refusing Account HTTPException

/-- `text or fallback`. -/
def orDefault (text : Option String) (fallback : String) : String :=
  if text.getD "" = "" then fallback else text.getD ""

def seconds (number : ℤ) : ℤ := number * 1000000
def minutes (number : ℤ) : ℤ := seconds (number * 60)
def hours (number : ℤ) : ℤ := minutes (number * 60)

def mfaAllowedMethods : List String := ["totp", "email_otp"]
def mfaChallengeTtlMinutes : ℤ := 10
def emailOtpTtlMinutes : ℤ := 5
def mfaGracePeriodHours : ℤ := 24
def mfaStepUpTtlMinutes : ℤ := 10
def privilegedMfaRoles : List String := ["ops"]
def mfaSecretPrefix : String := "mfa_aes:v1:"
def emailOtpResendLimit : ℕ := 3
def emailOtpRateLimitPerMinute : ℕ := 5
def mfaBackupCodesDefaultCount : ℤ := 8

/-- `_is_privileged_role`. -/
def User.isPrivileged (user : User) : Bool := lower (strip user.role.value) ∈ privilegedMfaRoles

section Secrets

/-- `b32decode(candidate, casefold=True)` decodes a text of capitals. -/
def isBase32 (candidate : List Char) : Bool :=
  let body := (candidate.reverse.dropWhile (· = '=')).reverse
  candidate.length % 8 = 0 ∧ candidate.length - body.length ∈ [0, 1, 3, 4, 6] ∧
    body.all fun character => character ∈ "ABCDEFGHIJKLMNOPQRSTUVWXYZ234567".toList

/-- `_looks_like_base32`. -/
def looksLikeBase32 (raw : String) : Bool :=
  let candidate := (upper (strip raw)).toList.filter (· ≠ ' ')
  16 ≤ candidate.length ∧ isBase32 candidate

variable (environment : Environment)

/-- `_decrypt_totp_secret`: the secret, or nothing where there is none that can be read. -/
def decryptTotpSecret (raw : Option String) : String :=
  let stored := strip (raw.getD "")
  if stored = "" then ""
  else if mfaSecretPrefix.toList <+: stored.toList then
    (environment.decrypt (String.ofList (stored.toList.drop mfaSecretPrefix.length))).getD ""
  else if looksLikeBase32 stored then stored
  else ""

/-- `_encrypt_totp_secret`. -/
def encryptTotpSecret (nonce secret : String) : String :=
  if strip secret = "" then "" else mfaSecretPrefix ++ environment.encrypt nonce (strip secret)

def Account.secret (account : Account) : String :=
  decryptTotpSecret environment account.pref.totpSecret

/-- `_totp_ready`. -/
def totpReady (pref : UserMfaPreference) : Bool :=
  pref.totpVerified ∧ decryptTotpSecret environment pref.totpSecret ≠ ""

end Secrets

/-- The methods that `_normalize_methods` lets through. -/
def allowedMethods (includeBackup includeGraceAck : Bool) : List String :=
  mfaAllowedMethods ++ (if includeBackup then ["backup_code"] else []) ++
    (if includeGraceAck then ["grace_ack"] else [])

/-- `_normalize_methods`: the allowed methods of a list, each once, in their order. -/
def normalizeMethods (values : List String) (includeBackup includeGraceAck : Bool) : List String :=
  values.foldl (fun normalized value =>
    if lower (strip value) ∈ allowedMethods includeBackup includeGraceAck ∧
        lower (strip value) ∉ normalized then
      normalized ++ [lower (strip value)]
    else normalized) []

section Methods

variable {values : List String} {includeBackup includeGraceAck : Bool}

theorem mem_normalizeMethods {method : String} :
    method ∈ normalizeMethods values includeBackup includeGraceAck ↔
      method ∈ allowedMethods includeBackup includeGraceAck ∧
        ∃ value ∈ values, lower (strip value) = method := by
  have folded : ∀ before : List String,
      method ∈ values.foldl (fun normalized value =>
        if lower (strip value) ∈ allowedMethods includeBackup includeGraceAck ∧
            lower (strip value) ∉ normalized then
          normalized ++ [lower (strip value)]
        else normalized) before ↔
      method ∈ before ∨ method ∈ allowedMethods includeBackup includeGraceAck ∧
        ∃ value ∈ values, lower (strip value) = method := by
    induction values with
    | nil => simp
    | cons value values ih =>
      intro before
      rw [List.foldl_cons, ih]
      split <;> grind
  unfold normalizeMethods
  rw [folded []]
  simp only [List.not_mem_nil, false_or]

theorem reads_same {method : String}
    (allowed : method ∈ allowedMethods includeBackup includeGraceAck) :
    lower (strip method) = method := by
  have each : ∀ backup grace, ∀ method ∈ allowedMethods backup grace,
      lower (strip method) = method := by decide +kernel
  exact each includeBackup includeGraceAck method allowed

theorem normalizeMethods_normalized :
    normalizeMethods (normalizeMethods values false false) false false ≠ [] ↔
      normalizeMethods values false false ≠ [] := by
  constructor
  · rintro some_method rfl_nil
    rw [rfl_nil] at some_method
    exact some_method rfl
  · intro some_method
    obtain ⟨method, inside⟩ := List.exists_mem_of_ne_nil _ some_method
    have allowed := (mem_normalizeMethods.mp inside).1
    apply List.ne_nil_of_mem
    exact mem_normalizeMethods.mpr ⟨allowed, method, inside, reads_same allowed⟩

end Methods

section Codes

variable (environment : Environment)

def totpDigits (code : String) : String :=
  String.ofList ((strip code).toList.filter environment.isDigit)

/-- `TOTP.timecode`: the time step of thirty seconds that a time lies in. -/
def timecode (time : ℤ) : ℤ := time / seconds 30

/-- `_resolve_totp_timecode`: the time step whose code is submitted, of the one before, the present
and the next one. -/
def resolveTotpTimecode (secret code : String) (now : ℤ) : Option ℤ :=
  let normalized := totpDigits environment code
  if normalized.length < 6 then none
  else ([-1, 0, 1].map fun offset : ℤ => timecode (now + offset * seconds 30)).find? fun step =>
    environment.totpVerify secret normalized step

/-- The text `f"{code.strip()}::{timecode}"`, hashed. -/
def replayHash (code : String) (step : ℤ) : String :=
  environment.hashToken (strip code ++ "::" ++ toString step)

/-- `_normalize_backup_code`. -/
def normalizeBackupCode (raw : String) : String :=
  String.ofList ((environment.toUpper raw).toList.filter environment.isAlnum)

/-- `_backup_code_matches`. -/
def backupCodeMatches (storedHash normalized : String) : Bool :=
  if "$2".toList <+: storedHash.toList then environment.bcryptVerify normalized storedHash
  else storedHash = environment.hashToken normalized

end Codes

/-- `_active_backup_codes_count`. -/
def Account.activeBackupCodes (account : Account) : ℕ :=
  (account.backupCodes.filter (·.usedAt = none)).length

/-- `_is_grace_expired`. -/
def UserMfaSecurityState.isGraceExpired (security : UserMfaSecurityState) (now : ℤ) : Bool :=
  match security.mfaGraceExpiresAt with
  | none => false
  | some expiresAt => expiresAt < now

end Mfa
