import CoinRobotu.Mfa.Frames
import CoinRobotu.Mfa.Sessions

/-!
# What a call does to the factors

A call that does not refuse marks at most one backup code as used, or replaces all of them, and
changes at most the row of its challenge: a verification consumes it and may clear the code of its
mail, and a resending gives it another code.
-/

namespace Mfa

open Runtime (strip lower)
open Stateful

section Rows

variable {rows after : List UserMfaBackupCode} {now : ℤ}

def Marks (now : ℤ) (rows after : List UserMfaBackupCode) : Prop :=
  after = rows ∨ ∃ before row later, row.usedAt = none ∧ rows = before ++ row :: later ∧
    after = before ++ { row with usedAt := some now } :: later

theorem useFirst_marks {environment : Environment} {normalized : String}
    (found : useFirst environment now normalized rows = some after) : Marks now rows after := by
  apply Or.inr
  induction rows generalizing after with
  | nil => exact nomatch found
  | cons row rows ih =>
    unfold useFirst at found
    split at found
    next matching =>
      obtain rfl := Option.some.inj found
      exact ⟨[], row, rows, matching.1, rfl, rfl⟩
    · obtain ⟨rest, isRest, rfl⟩ := Option.map_eq_some_iff.mp found
      obtain ⟨before, marked, later, unused, isRows, isAfter⟩ := ih isRest
      exact ⟨row :: before, marked, later, unused, by rw [isRows]; rfl, by rw [isAfter]; rfl⟩

def onChallenge (tokenHash : Option String) (change : AuthMfaChallenge → AuthMfaChallenge)
    (challenges : List AuthMfaChallenge) : List AuthMfaChallenge :=
  challenges.map fun row => if some row.challengeTokenHash = tokenHash then change row else row

variable {challenges : List AuthMfaChallenge} {tokenHash : Option String}

@[simp] theorem onChallenge_none {change : AuthMfaChallenge → AuthMfaChallenge} :
    onChallenge none change challenges = challenges := by
  unfold onChallenge
  simp

theorem onChallenge_id : onChallenge tokenHash id challenges = challenges := by
  unfold onChallenge
  simp

theorem onChallenge_onChallenge {change next : AuthMfaChallenge → AuthMfaChallenge}
    (keeps : ∀ row, (change row).challengeTokenHash = row.challengeTokenHash) :
    onChallenge tokenHash next (onChallenge tokenHash change challenges) =
      onChallenge tokenHash (next ∘ change) challenges := by
  unfold onChallenge
  rw [List.map_map]
  apply List.map_congr_left
  intro row _
  by_cases named : some row.challengeTokenHash = tokenHash
  · simp [named, keeps]
  · simp [named]

theorem writeChallenge_eq {change : AuthMfaChallenge → AuthMfaChallenge} {name : String}
    {account : Account} : (account.challenges.map fun row =>
      if row.challengeTokenHash = name then change row else row) =
        onChallenge (some name) change account.challenges := by
  unfold onChallenge
  simp only [Option.some.injEq]

end Rows

section Verification

variable {environment : Environment} {call : Call} {user : User}
  {rows : List UserMfaBackupCode} {challenges : List AuthMfaChallenge}

def Has (rows : List UserMfaBackupCode) (challenges : List AuthMfaChallenge) (account : Account) :
    Prop :=
  account.backupCodes = rows ∧ account.challenges = challenges

theorem getOrCreatePreference_has : Keeps (Has rows challenges) getOrCreatePreference := by
  apply Keeps.bind
  · exact keeps_modify fun _ has => has
  · exact fun _ => keeps_get.bind fun _ => keeps_pure

theorem getOrCreateSecurityState_has : Keeps (Has rows challenges) getOrCreateSecurityState := by
  apply Keeps.bind
  · exact keeps_modify fun _ has => has
  · exact fun _ => keeps_get.bind fun _ => keeps_pure

theorem verifyTotp_has {secret code : String} :
    Keeps (Has rows challenges) (verifyTotpAndApplyAntiReplay environment call secret code) := by
  apply getOrCreateSecurityState_has.bind
  intro security
  split
  · exact keeps_throw
  · apply keeps_refuseIf.bind
    exact fun _ => keeps_modify fun _ has => has

theorem stampVerified_has : Keeps (Has rows challenges) (stampVerified call) :=
  getOrCreateSecurityState_has.bind fun _ => keeps_modify fun _ has => has

theorem acknowledgeGrace_has {pref : UserMfaPreference} :
    Keeps (Has rows challenges) (acknowledgeGrace environment call user pref) := by
  apply keeps_refuseIf.bind
  intro _
  apply getOrCreateSecurityState_has.bind
  intro security
  exact keeps_refuseIf.bind fun _ => keeps_refuseIf.bind fun _ => keeps_pure

theorem consumeBackupCode_marks {code : String} :
    Triple (Has rows challenges) (consumeBackupCodeOrRaise environment call code)
      fun _ account => ∃ marked, Marks call.now rows marked ∧ Has marked challenges account := by
  intro account has
  unfold consumeBackupCodeOrRaise
  rw [ends_bind, ends_refuseIf]
  split
  · trivial
  · rw [ends_bind, ends_get]
    cases found : useFirst environment call.now (normalizeBackupCode environment code)
        account.backupCodes with
    | none => trivial
    | some marked =>
      rw [has.1] at found
      exact ⟨marked, useFirst_marks found, rfl, has.2⟩

def emailHash (environment : Environment) (code : String) : String :=
  environment.hashToken (String.ofList (code.toList.filter environment.isDigit))

def AuthMfaChallenge.clearCode (row : AuthMfaChallenge) : AuthMfaChallenge :=
  { row with emailOtpHash := none }

theorem verifyEmailOtp_clears {row : AuthMfaChallenge} {code : String} :
    Triple (Has rows challenges) (verifyEmailOtp environment row code) fun _ account =>
      strip (row.emailOtpHash.getD "") = emailHash environment code ∧
        Has rows (onChallenge (some row.challengeTokenHash) AuthMfaChallenge.clearCode challenges)
          account := by
  intro account has
  unfold verifyEmailOtp
  rw [ends_bind, ends_refuseIf]
  split
  · trivial
  · rw [ends_bind, ends_refuseIf]
    split
    · trivial
    next accepted =>
      have isCode := not_not.mp (not_or.mp accepted).2
      refine ⟨isCode, has.1, ?_⟩
      rw [← has.2, ← writeChallenge_eq]
      rfl

/-- A change of a challenge that leaves its token and its consumption, and its code unless it is
cleared. -/
structure Clears (change : AuthMfaChallenge → AuthMfaChallenge) : Prop where
  token : ∀ row, (change row).challengeTokenHash = row.challengeTokenHash
  code : ∀ row, (change row).emailOtpHash = none ∨ (change row).emailOtpHash = row.emailOtpHash

theorem clears_id : Clears id := ⟨fun _ => rfl, fun _ => .inr rfl⟩

/-- A verified method marks at most one backup code, and clears at most the code of the mail. -/
theorem perform_effect {method code : String} {context : Option AuthMfaChallenge} :
    Triple (Has rows challenges)
      (performMfaMethodVerification environment call user method code context) fun _ account =>
        ∃ marked change, Marks call.now rows marked ∧ Clears change ∧
          (lower (strip method) = "email_otp" → ∃ row, context = some row ∧
            strip (row.emailOtpHash.getD "") = emailHash environment code) ∧
          Has marked (onChallenge (context.map AuthMfaChallenge.challengeTokenHash) change
            challenges) account := by
  have same : ∀ {account : Account}, Has rows challenges account →
      Has rows (onChallenge (context.map AuthMfaChallenge.challengeTokenHash) id challenges)
        account := by
    intro account has
    rwa [onChallenge_id]
  apply getOrCreatePreference_has.triple.bind
  intro pref
  dsimp only
  split
  next isTotp =>
    have notEmail : lower (strip method) ≠ "email_otp" := by rw [isTotp]; decide
    apply triple_refuseIf.bind
    intro _
    have kept := (@verifyTotp_has environment call rows challenges
      (decryptTotpSecret environment pref.totpSecret) code).triple
    apply (kept.strengthen And.left).bind
    exact fun _ => triple_pure fun account has =>
      ⟨rows, id, .inl rfl, clears_id, fun isEmail => absurd isEmail notEmail, same has⟩
  next notTotp =>
    split
    next isBackup =>
      have notEmail : lower (strip method) ≠ "email_otp" := by rw [isBackup]; decide
      apply consumeBackupCode_marks.bind
      intro _ account ⟨marked, marks, has⟩
      have kept := (@stampVerified_has call marked challenges).triple
      refine kept.bind (fun _ => triple_pure fun after has => ?_) account has
      refine ⟨marked, id, marks, clears_id, fun isEmail => absurd isEmail notEmail, ?_⟩
      rwa [onChallenge_id]
    · split
      next isEmail =>
        cases context with
        | none => exact triple_throw
        | some row =>
          apply verifyEmailOtp_clears.bind
          intro _ account ⟨isCode, has⟩
          refine stampVerified_has.triple.bind (fun _ => triple_pure fun after has => ?_) account
            has
          exact ⟨rows, AuthMfaChallenge.clearCode, .inl rfl, ⟨fun _ => rfl, fun _ => .inl rfl⟩,
            fun _ => ⟨row, rfl, isCode⟩, has⟩
      next notEmail =>
        split
        · cases context with
          | none => exact triple_throw
          | some row =>
            apply acknowledgeGrace_has.triple.weaken
            exact fun has => ⟨rows, id, .inl rfl, clears_id,
              fun isEmail => absurd isEmail notEmail, same has⟩
        · exact triple_throw

end Verification

section Effects

variable {environment : Environment} {call : Call} {user : User} {account : Account}

/-- What a call that does not refuse has found, and what it leaves. -/
def Effect (environment : Environment) (call : Call) (account after : Account) : Factor → Prop
  | .verifyChallenge challengeToken method code _ _ =>
    Marks call.now account.backupCodes after.backupCodes ∧
      ∃ row change, account.challenges.find?
          (·.challengeTokenHash = environment.hashToken challengeToken) = some row ∧
        row.consumedAt = none ∧
        (lower (strip method) = "email_otp" →
          strip (row.emailOtpHash.getD "") = emailHash environment code) ∧
        Clears change ∧ (∀ row, (change row).consumedAt = some call.now) ∧
        after.challenges = onChallenge (some (environment.hashToken challengeToken)) change
          account.challenges
  | .stepUp .. =>
    Marks call.now account.backupCodes after.backupCodes ∧ after.challenges = account.challenges
  | .resend challengeToken =>
    after.backupCodes = account.backupCodes ∧
      ∃ (row : AuthMfaChallenge) (change : AuthMfaChallenge → AuthMfaChallenge),
        account.challenges.find?
          (·.challengeTokenHash = environment.hashToken challengeToken) = some row ∧
        (∀ row, (change row).challengeTokenHash = row.challengeTokenHash ∧
          (change row).consumedAt = row.consumedAt ∧
          (change row).emailOtpHash = some (environment.hashToken call.emailCode)) ∧
        after.challenges = onChallenge (some (environment.hashToken challengeToken)) change
          account.challenges
  | .regenerate _ => after.challenges = account.challenges

theorem verifyMfaChallenge_effect {challengeToken method code : String} {session : SessionContext}
    {scope : List String} :
    Ends (verifyMfaChallenge environment call user challengeToken method code session scope)
      (fun _ after => Effect environment call account after
        (.verifyChallenge challengeToken method code session scope))
      (fun _ _ => True) account := by
  unfold verifyMfaChallenge
  rw [ends_bind, ends_resolveChallengeRow]
  split
  · trivial
  next row found =>
    have named : row.challengeTokenHash = environment.hashToken challengeToken := by
      have passed := List.find?_some found
      simpa using passed
    rw [ends_bind, ends_refuseIf]
    split
    · trivial
    next unconsumed =>
      rw [ends_bind, ends_refuseIf]
      split
      · trivial
      · dsimp only
        rw [ends_bind, ends_refuseIf]
        split
        · trivial
        next allowed =>
          have reads := reads_same (mem_normalizeMethods.mp (not_not.mp allowed)).1
          rw [ends_bind]
          apply (perform_effect account ⟨rfl, rfl⟩).mono _ fun _ => trivial
          rintro verification after ⟨marked, change, marks, clears, isCode, has⟩
          rw [ends_bind]
          refine ⟨has.1 ▸ marks, row, fun row => { change row with consumedAt := some call.now },
            found, not_not.mp unconsumed, ?_, ⟨clears.token, clears.code⟩, fun _ => rfl, ?_⟩
          · intro isEmail
            obtain ⟨other, isOther, same⟩ := isCode (reads.trans isEmail)
            obtain rfl := Option.some.inj isOther
            exact same
          · dsimp only
            rw [writeChallenge_eq, has.2, Option.map_some, onChallenge_onChallenge clears.token,
              named]
            rfl

theorem verifyStepUpCode_effect {method code : String} {session : SessionContext}
    {scope : List String} :
    Ends (verifyStepUpCode environment call user method code session scope)
      (fun _ after => Effect environment call account after (.stepUp method code session scope))
      (fun _ _ => True) account := by
  unfold verifyStepUpCode
  rw [ends_bind, ends_getOrCreatePreference, ends_bind, ends_refuseIf]
  split
  · trivial
  · rw [ends_bind, ends_get, ends_bind, ends_refuseIf]
    split
    · trivial
    · rw [ends_bind]
      apply (perform_effect _ ⟨rfl, rfl⟩).mono _ fun _ => trivial
      rintro verification after ⟨marked, change, marks, clears, isCode, has⟩
      rw [Option.map_none, onChallenge_none] at has
      exact ⟨has.1 ▸ marks, has.2⟩

theorem resendEmailOtp_effect {challengeToken : String} :
    Ends (resendEmailOtpForChallenge environment call challengeToken)
      (fun _ after => Effect environment call account after (.resend challengeToken))
      (fun _ _ => True) account := by
  unfold resendEmailOtpForChallenge
  rw [ends_bind, ends_resolveChallengeRow]
  split
  · trivial
  next row found =>
    have named : row.challengeTokenHash = environment.hashToken challengeToken := by
      have passed := List.find?_some found
      simpa using passed
    iterate 5
      rw [ends_bind, ends_refuseIf]
      split
      · trivial
    dsimp only
    rw [ends_bind]
    refine ⟨rfl, row, fun row => { row with
      emailOtpHash := some (environment.hashToken call.emailCode)
      emailDeliveryStatus := if call.emailDelivered then "SENT" else "FAILED" }, found,
      fun _ => ⟨rfl, rfl, rfl⟩, ?_⟩
    rw [← named, ← writeChallenge_eq]

theorem effect_of_accepted {session : Session}
    (accepted : session.Accepted environment user) :
    Effect environment session.call session.seen.account (session.outcome environment user).2
      session.factor := by
  have ends : Ends (perform environment user session.call session.factor.operation)
      (fun _ after => Effect environment session.call session.seen.account after session.factor)
      (fun _ _ => True) session.seen.account := by
    cases session.factor with
    | verifyChallenge challengeToken method code context scope =>
      exact ends_map.mpr verifyMfaChallenge_effect
    | stepUp method code context scope => exact ends_map.mpr verifyStepUpCode_effect
    | resend challengeToken => exact ends_map.mpr resendEmailOtp_effect
    | regenerate count => exact ends_map.mpr rfl
  obtain ⟨reply, isReply⟩ := accepted
  have effect := @outcome_of_ends environment user session.seen.account
    (session.call, session.factor.operation) _ _ ends
  unfold Session.outcome at isReply ⊢
  rw [isReply] at effect
  exact effect

end Effects

end Mfa
