import CoinRobotu.Keyed.Table
import CoinRobotu.Mfa.Service

/-!
# Verifications side by side

A call reads the rows of the account in one step, and commits in another; until then no other call
sees what it writes. It computes from the rows that it has read, sends its mail, and commits the
columns that it has changed: a column that another call has committed in the meantime stays, or is
overwritten. A backup code that has been deleted in the meantime cannot be marked as used; the
commit fails then, and no token is issued.

What is issued, accepted and replaced is logged when it is committed.
-/

namespace Mfa

open Runtime (strip lower)

/-- A column after a commit, of what its call has read and what the call has made of it. -/
def written {Value : Type} [DecidableEq Value] (before after current : Value) : Value :=
  if after = before then current else after

@[simp] theorem written_same {Value : Type} [DecidableEq Value] {before current : Value} :
    written before before current = current := if_pos rfl

@[simp] theorem written_unchanged {Value : Type} [DecidableEq Value] {before after : Value} :
    written before after before = after := by
  unfold written
  split
  next same => exact same.symm
  · rfl

def AuthMfaChallenge.written (before after current : AuthMfaChallenge) : AuthMfaChallenge :=
  { current with
    emailOtpHash := Mfa.written before.emailOtpHash after.emailOtpHash current.emailOtpHash
    emailDeliveryStatus :=
      Mfa.written before.emailDeliveryStatus after.emailDeliveryStatus current.emailDeliveryStatus
    consumedAt := Mfa.written before.consumedAt after.consumedAt current.consumedAt }

/-- A security state after a commit. -/
def UserMfaSecurityState.written (before after current : UserMfaSecurityState) :
    UserMfaSecurityState :=
  { current with
    lastTotpCodeHash :=
      Mfa.written before.lastTotpCodeHash after.lastTotpCodeHash current.lastTotpCodeHash
    lastTotpVerifiedAt :=
      Mfa.written before.lastTotpVerifiedAt after.lastTotpVerifiedAt current.lastTotpVerifiedAt
    lastMfaVerifiedAt :=
      Mfa.written before.lastMfaVerifiedAt after.lastMfaVerifiedAt current.lastMfaVerifiedAt }

/-- A backup code under its primary key. -/
structure StoredCode where
  id : ℕ
  row : UserMfaBackupCode
  deriving DecidableEq, Repr

/-- The stored backup codes, and how many keys have been drawn. -/
structure BackupCodes where
  rows : List StoredCode
  drawn : ℕ
  distinct : (rows.map StoredCode.id).Nodup
  below : ∀ code ∈ rows, code.id < drawn

namespace BackupCodes

variable (codes : BackupCodes)

def ids : List ℕ := codes.rows.map StoredCode.id

/-- Mark some codes as used, as they are given under their keys. -/
def mark (used : List StoredCode) : BackupCodes where
  rows := codes.rows.map fun code =>
    match used.find? (·.id = code.id) with
    | some marked => ⟨code.id, { code.row with usedAt := marked.row.usedAt }⟩
    | none => code
  drawn := codes.drawn
  distinct := by
    have same : (StoredCode.id ∘ fun code : StoredCode =>
        match used.find? (·.id = code.id) with
        | some marked => ⟨code.id, { code.row with usedAt := marked.row.usedAt }⟩
        | none => code) = StoredCode.id := by
      funext code
      dsimp only [Function.comp]
      cases used.find? (·.id = code.id) with
      | none | some => rfl
    rw [List.map_map, same]
    exact codes.distinct
  below := by
    intro marked inside
    obtain ⟨code, isCode, rfl⟩ := List.mem_map.mp inside
    have below := codes.below code isCode
    cases used.find? (·.id = code.id) with
    | none | some => exact below

/-- Delete the codes under some keys, and add others. -/
def replace (gone : List ℕ) (new : List UserMfaBackupCode) : BackupCodes where
  rows := codes.rows.filter (·.id ∉ gone) ++
    (new.zipIdx codes.drawn).map fun item => ⟨item.2, item.1⟩
  drawn := codes.drawn + new.length
  distinct := by
    have newIds : ((new.zipIdx codes.drawn).map fun item => (⟨item.2, item.1⟩ : StoredCode)).map
        StoredCode.id = List.range' codes.drawn new.length := by
      rw [List.map_map]
      exact List.zipIdx_map_snd codes.drawn new
    rw [List.map_append, newIds]
    apply List.Nodup.append
    · exact codes.distinct.sublist (List.filter_sublist.map _)
    · exact List.nodup_range'
    · intro id isOld isNew
      obtain ⟨code, isCode, rfl⟩ := List.mem_map.mp isOld
      have below := codes.below code (List.mem_of_mem_filter isCode)
      have above := (List.mem_range'_1.mp isNew).1
      omega
  below := by
    intro code inside
    rcases List.mem_append.mp inside with isOld | isNew
    · have below := codes.below code (List.mem_of_mem_filter isOld)
      omega
    · obtain ⟨item, isItem, rfl⟩ := List.mem_map.mp isNew
      have below := List.snd_lt_add_of_mem_zipIdx isItem
      dsimp only
      omega

end BackupCodes

structure Records where
  preference : Option UserMfaPreference
  securityState : Option UserMfaSecurityState
  codes : BackupCodes
  challenges : Keyed.Table String AuthMfaChallenge AuthMfaChallenge.challengeTokenHash

def Records.account (records : Records) : Account :=
  ⟨records.preference, records.securityState, records.codes.rows.map StoredCode.row,
    records.challenges.rows⟩

/-- The calls on factors that can be used once. -/
inductive Factor where
  | verifyChallenge (challengeToken method code : String) (session : SessionContext)
      (stepUpScope : List String)
  | stepUp (method code : String) (session : SessionContext) (stepUpScope : List String)
  | resend (challengeToken : String)
  | regenerate (count : ℤ)
  deriving DecidableEq

def Factor.operation : Factor → Operation
  | .verifyChallenge challengeToken method code session stepUpScope =>
    .verifyChallenge challengeToken method code session stepUpScope
  | .stepUp method code session stepUpScope => .stepUp method code session stepUpScope
  | .resend challengeToken => .resend challengeToken
  | .regenerate count => .regenerate count

def Factor.challenge (environment : Environment) : Factor → Option String
  | .verifyChallenge challengeToken .. | .resend challengeToken =>
    some (environment.hashToken challengeToken)
  | _ => none

def Factor.regenerates : Factor → Bool
  | .regenerate _ => true
  | _ => false

/-- A call that has read the rows. -/
structure Session where
  seen : Records
  call : Call
  factor : Factor

/-- What is issued, accepted and replaced. -/
inductive Event where
  | issued (challenge : String)
  | codeAccepted (id : ℕ)
  | codeReplaced (id : ℕ)
  | emailAccepted (challenge accepted : String) (lastSent : Option String)
  deriving DecidableEq, Repr

section Commits

variable (environment : Environment) (user : User) (session : Session)

def Session.outcome : Except HTTPException Reply × Account :=
  Mfa.outcome environment user session.seen.account (session.call, session.factor.operation)

def Session.Accepted : Prop := ∃ reply, (session.outcome environment user).1 = .ok reply

instance : Decidable (session.Accepted environment user) :=
  match isReply : (session.outcome environment user).1 with
  | .ok reply => .isTrue ⟨reply, isReply⟩
  | .error _ => .isFalse fun accepted =>
    nomatch (isReply.symm.trans accepted.choose_spec : Except.error _ = Except.ok _)

def Session.used : List StoredCode :=
  if session.factor.regenerates then []
  else
    ((session.seen.codes.rows.zip (session.outcome environment user).2.backupCodes).filter
      fun pair => pair.2 ≠ pair.1.row).map fun pair => ⟨pair.1.id, pair.2⟩

/-- The challenges after the commit. -/
def Session.challenges (current : Records) :
    Keyed.Table String AuthMfaChallenge AuthMfaChallenge.challengeTokenHash :=
  current.challenges.mapRows (fun row =>
    match session.seen.challenges.find row.challengeTokenHash,
      (session.outcome environment user).2.challenges.find?
        (·.challengeTokenHash = row.challengeTokenHash) with
    | some before, some after => before.written after row
    | _, _ => row) fun row => by
      split
      · rfl
      · rfl

/-- The backup codes after the commit, unless one of them has been deleted before it could be
marked. -/
def Session.codes (current : Records) : Option BackupCodes :=
  let after := (session.outcome environment user).2
  let used := session.used environment user
  if session.factor.regenerates then
    some (current.codes.replace session.seen.codes.ids after.backupCodes)
  else if ∀ code ∈ used, code.id ∈ current.codes.ids then some (current.codes.mark used)
  else none

/-- The rows after the commit. -/
def Session.commit (current : Records) : Option Records :=
  let after := (session.outcome environment user).2
  (session.codes environment user current).map fun codes => {
    preference := current.preference.or after.preference
    securityState :=
      match after.securityState with
      | some row => some (session.seen.account.security.written row current.account.security)
      | none => current.securityState
    codes := codes
    challenges := session.challenges environment user current }

/-- What is logged at the commit. -/
def Session.events (current : Records) (sent : String → Option String) : List Event :=
  let accepted := (session.used environment user).map fun code => .codeAccepted code.id
  match session.factor with
  | .verifyChallenge challengeToken method code _ _ =>
    let challenge := environment.hashToken challengeToken
    let digits := String.ofList (code.toList.filter environment.isDigit)
    (if lower (strip method) = "email_otp" then
      [.emailAccepted challenge (environment.hashToken digits) (sent challenge)]
    else []) ++ accepted ++ [.issued challenge]
  | .stepUp .. => accepted
  | .resend _ => []
  | .regenerate _ => current.codes.ids.map .codeReplaced

end Commits

/-- The committed rows, the calls under way, the hash of the code that has been sent last for each
challenge, and the log, the newest first. -/
structure Shared (Thread : Type) where
  records : Records
  sessions : Thread → Option Session
  sent : String → Option String
  log : List Event

/-- Nothing is under way. -/
def Shared.start {Thread : Type} (records : Records) : Shared Thread where
  records := records
  sessions _ := none
  sent challenge := (records.challenges.find challenge).bind AuthMfaChallenge.emailOtpHash
  log := []

inductive Action (Thread : Type) where
  | reads (thread : Thread) (call : Call) (factor : Factor)
  | commits (thread : Thread)

/-- The call that a thread begins, unless it is refused or another one is under way. -/
def Shared.begins {Thread : Type} (environment : Environment) (user : User)
    (shared : Shared Thread) (thread : Thread) (call : Call) (factor : Factor) : Option Session :=
  let session : Session := ⟨shared.records, call, factor⟩
  if shared.sessions thread = none ∧ session.Accepted environment user then some session else none

section Steps

variable {Thread : Type} [DecidableEq Thread] (environment : Environment) (user : User)
  (shared : Shared Thread)

/-- One step. -/
def stepShared : Action Thread → Shared Thread
  | .reads thread call factor =>
    match shared.begins environment user thread call factor with
    | none => shared
    | some session =>
      { shared with
        sessions := Function.update shared.sessions thread (some session)
        sent :=
          match factor with
          | .resend challengeToken =>
            Function.update shared.sent (environment.hashToken challengeToken)
              (some (environment.hashToken call.emailCode))
          | _ => shared.sent }
  | .commits thread =>
    match shared.sessions thread with
    | none => shared
    | some session =>
      let sessions := Function.update shared.sessions thread none
      match session.commit environment user shared.records with
      | none => { shared with sessions := sessions }
      | some records =>
        { shared with
          records := records
          sessions := sessions
          log := session.events environment user shared.records shared.sent ++ shared.log }

end Steps

section Laws

variable {Thread : Type} (environment : Environment) (user : User) (shared : Shared Thread)

/-- An event uses again what an earlier one has used up. -/
def Event.Repeats : Event → Event → Prop
  | .issued challenge, .issued earlier => challenge = earlier
  | .codeAccepted id, .codeAccepted earlier | .codeAccepted id, .codeReplaced earlier =>
    id = earlier
  | _, _ => False

/-- The law of factors that can be used once: a challenge leads to one token, a backup code is
accepted once and not after it has been replaced, and a code in a mail is the last one sent. -/
structure OneTime : Prop where
  once : shared.log.Pairwise fun later earlier => ¬ later.Repeats earlier
  last : ∀ challenge accepted lastSent, .emailAccepted challenge accepted lastSent ∈ shared.log →
    strip (lastSent.getD "") = accepted

/-- Two calls that are about one challenge, or use one backup code, or both regenerate the
codes. -/
def Session.Clashes (session other : Session) : Prop :=
  (∃ challenge, session.factor.challenge environment = some challenge ∧
      other.factor.challenge environment = some challenge) ∨
    (session.factor.regenerates ∧ other.factor.regenerates) ∨
    ∃ id, id ∈ (session.used environment user).map StoredCode.id ∧
      id ∈ (other.used environment user).map StoredCode.id

/-- No call begins while one that it clashes with is under way. -/
def Apart : Action Thread → Prop
  | .reads thread call factor =>
    ∀ session ∈ shared.begins environment user thread call factor,
      ∀ thread, ∀ other ∈ shared.sessions thread, ¬ session.Clashes environment user other
  | .commits _ => True

end Laws

end Mfa
