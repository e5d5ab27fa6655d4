import CoinRobotu.Automata.History
import CoinRobotu.Mfa.Frames

/-!
# Accepting a TOTP code once

The service remembers the hash of the last accepted code, in the text in which it was submitted,
and refuses a code only where its hash is the remembered one.
-/

namespace Mfa

open Runtime (strip lower)
open Stateful

def Account.memory (account : Account) : Option String := account.security.lastTotpCodeHash

section Submissions

variable (environment : Environment) (user : User) (account : Account)

def acceptedCode (step : Call × Operation) : Option String :=
  match (outcome environment user account step).1 with
  | .ok _ => step.2.totpCode
  | .error _ => none

/-- A challenge or a step-up gets as far as its code. -/
def admits (call : Call) : Operation → Bool
  | .verifyChallenge challengeToken _ _ _ _ =>
    totpReady environment account.pref ∧
      (account.challenges.find? fun row =>
        row.challengeTokenHash = environment.hashToken challengeToken).any fun row =>
          row.consumedAt = none ∧ ¬row.expiresAt < call.now ∧
            "totp" ∈ normalizeMethods row.allowedMethods true true
  | .stepUp _ _ _ _ => totpReady environment account.pref
  | _ => false

def submission (step : Call × Operation) : Option (String × ℤ) :=
  match step.2.totpCode with
  | none => none
  | some code =>
    if admits environment account step.1 step.2 then
      (resolveTotpTimecode environment (account.secret environment) code step.1.now).map (code, ·)
    else none

def acceptedCodes : Account → List (Call × Operation) → List String
  | _, [] => []
  | account, step :: steps => (acceptedCode environment user account step).toList ++
      acceptedCodes (outcome environment user account step).2 steps

def replayCheck : Automata.Gatekeeper Account (Call × Operation) ℤ where
  next account step := (outcome environment user account step).2
  offers account step := (submission environment account step).map Prod.snd
  refuses account step := (submission environment account step).any fun submitted =>
    account.memory = some (replayHash environment submitted.1 submitted.2)

end Submissions

section Laws

variable {environment : Environment} {call : Call} {user : User} {account : Account}

/-- What the check for replays makes of a code: an accepted one was not remembered and is then, and
a refused one leaves the memory. -/
def Checked (environment : Environment) (account : Account) (secret code : String) (now : ℤ)
    (accepted : Bool) (after : Account) : Prop :=
  after.pref = account.pref ∧
    if accepted then ∃ step, resolveTotpTimecode environment secret code now = some step ∧
      account.memory ≠ some (replayHash environment code step) ∧
      after.memory = some (replayHash environment code step)
    else after.memory = account.memory ∧ ∀ step,
      resolveTotpTimecode environment secret code now = some step →
        account.memory = some (replayHash environment code step)

theorem verifyTotpAndApplyAntiReplay_ends {secret code : String} :
    Ends (verifyTotpAndApplyAntiReplay environment call secret code)
      (fun _ after => Checked environment account secret code call.now true after)
      (fun _ after => Checked environment account secret code call.now false after) account := by
  have remembered : ∀ hash, hash ≠ "" →
      (account.memory.getD "" ≠ "" ∧ account.memory.getD "" = hash ↔
        account.memory = some hash) := by
    intro hash some_hash
    cases account.memory with
    | none => simp [eq_comm, some_hash]
    | some last =>
      simp only [Option.getD_some, Option.some.injEq, and_iff_right_iff_imp]
      rintro rfl
      exact some_hash
  unfold verifyTotpAndApplyAntiReplay
  rw [ends_bind, ends_getOrCreateSecurityState]
  cases resolved : resolveTotpTimecode environment secret code call.now with
  | none =>
    refine ⟨rfl, rfl, ?_⟩
    intro step isStep
    rw [resolved] at isStep
    cases isStep
  | some step =>
    have same := remembered (replayHash environment code step) (environment.hashToken_ne _)
    rw [ends_bind, ends_refuseIf]
    split
    · rename_i replayed
      refine ⟨rfl, rfl, ?_⟩
      intro other isOther
      rw [resolved] at isOther
      rw [← Option.some.inj isOther]
      exact same.mp replayed
    · rename_i fresh
      exact ⟨rfl, step, resolved, fun again => fresh (same.mpr again), rfl⟩

theorem lower_strip_totp : lower (strip "totp") = "totp" := by
  decide +kernel

theorem performTotp_ends {method code : String} {challengeContext : Option AuthMfaChallenge}
    (isTotp : lower (strip method) = "totp") :
    Ends (performMfaMethodVerification environment call user method code challengeContext)
      (fun _ after => totpReady environment account.pref = true ∧
        Checked environment account (account.secret environment) code call.now true after)
      (fun _ after => after.pref = account.pref ∧ after.memory = account.memory ∧
        (totpReady environment account.pref = true →
          Checked environment account (account.secret environment) code call.now false after))
      account := by
  unfold performMfaMethodVerification
  rw [ends_bind, ends_getOrCreatePreference, isTotp, if_pos rfl, ends_bind, ends_refuseIf]
  split
  · rename_i unready
    refine ⟨rfl, rfl, ?_⟩
    intro ready
    obtain ⟨isVerified, readable⟩ := of_decide_eq_true ready
    rcases unready with unreadable | unverified
    · exact absurd unreadable readable
    · exact absurd isVerified unverified
  · rename_i usable
    obtain ⟨readable, isVerified⟩ := not_or.mp usable
    have ready : totpReady environment account.pref = true :=
      decide_eq_true ⟨not_not.mp isVerified, readable⟩
    rw [ends_bind]
    apply Ends.mono verifyTotpAndApplyAntiReplay_ends
    · exact fun checked => ⟨ready, checked⟩
    · exact fun checked => ⟨checked.1, checked.2.1, fun _ => checked⟩

/-- What a call does to the memory: it accepts a submission that is not remembered and remembers
it, or it accepts none and then remembered whatever was submitted. -/
def Decided (environment : Environment) (account : Account) (step : Call × Operation)
    (accepted : Bool) (after : Account) : Prop :=
  after.pref = account.pref ∧
    if accepted then ∃ submitted, submission environment account step = some submitted ∧
      account.memory ≠ some (replayHash environment submitted.1 submitted.2) ∧
      after.memory = some (replayHash environment submitted.1 submitted.2)
    else after.memory = account.memory ∧ ∀ submitted,
      submission environment account step = some submitted →
        account.memory = some (replayHash environment submitted.1 submitted.2)

theorem submission_eq_some {step : Call × Operation} {submitted : String × ℤ} :
    submission environment account step = some submitted ↔
      step.2.totpCode = some submitted.1 ∧
        admits environment account step.1 step.2 = true ∧
        resolveTotpTimecode environment (account.secret environment) submitted.1 step.1.now =
          some submitted.2 := by
  obtain ⟨code, resolved⟩ := submitted
  unfold submission
  cases step.2.totpCode with
  | none => simp
  | some text =>
    by_cases admitted : admits environment account step.1 step.2 = true
    · simp only [admitted, if_true, Option.map_eq_some_iff, Prod.mk.injEq, Option.some.injEq]
      constructor
      · rintro ⟨other, isOther, rfl, rfl⟩
        exact ⟨rfl, trivial, isOther⟩
      · rintro ⟨rfl, _, isResolved⟩
        exact ⟨resolved, isResolved, rfl, rfl⟩
    · simp [admitted]

theorem admits_challenge {challengeToken method code : String} {session : SessionContext}
    {scope : List String} :
    admits environment account call (.verifyChallenge challengeToken method code session scope) =
        true ↔
      totpReady environment account.pref = true ∧ ∃ row, (account.challenges.find? fun row =>
          row.challengeTokenHash = environment.hashToken challengeToken) = some row ∧
        row.consumedAt = none ∧ ¬row.expiresAt < call.now ∧
          "totp" ∈ normalizeMethods row.allowedMethods true true := by
  unfold admits
  rw [decide_eq_true_iff, Option.any_eq_true]
  simp only [decide_eq_true_eq]

section Totp

variable {method code : String} {session : SessionContext} {scope : List String}

theorem Decided.of_checked {step : Call × Operation} {accepted : Bool} {after : Account}
    (isCode : step.2.totpCode = some code)
    (admitted : admits environment account step.1 step.2 = true)
    (checked : Checked environment account (account.secret environment) code step.1.now accepted
      after) : Decided environment account step accepted after := by
  obtain ⟨pref, memory⟩ := checked
  refine ⟨pref, ?_⟩
  cases accepted with
  | true =>
    obtain ⟨resolved, isResolved, fresh, after⟩ := memory
    exact ⟨(code, resolved), submission_eq_some.mpr ⟨isCode, admitted, isResolved⟩, fresh, after⟩
  | false =>
    refine ⟨memory.1, ?_⟩
    intro submitted isSubmitted
    obtain ⟨isOther, _, isResolved⟩ := submission_eq_some.mp isSubmitted
    obtain rfl : code = submitted.1 := Option.some.inj (isCode.symm.trans isOther)
    exact memory.2 submitted.2 isResolved

theorem Decided.of_not_admitted {step : Call × Operation} {after : Account}
    (pref : after.pref = account.pref) (memory : after.memory = account.memory)
    (turned : admits environment account step.1 step.2 ≠ true) :
    Decided environment account step false after := by
  refine ⟨pref, memory, ?_⟩
  intro submitted isSubmitted
  exact absurd (submission_eq_some.mp isSubmitted).2.1 turned

theorem verifyMfaChallenge_decides {challengeToken : String}
    (isTotp : lower (strip method) = "totp") :
    Ends (verifyMfaChallenge environment call user challengeToken method code session scope)
      (fun _ => Decided environment account
        (call, .verifyChallenge challengeToken method code session scope) true)
      (fun _ => Decided environment account
        (call, .verifyChallenge challengeToken method code session scope) false) account := by
  have isCode : Operation.totpCode (.verifyChallenge challengeToken method code session scope) =
      some code := if_pos isTotp
  unfold verifyMfaChallenge
  rw [ends_bind, ends_resolveChallengeRow]
  split
  · rename_i missing
    apply Decided.of_not_admitted rfl rfl
    intro admitted
    obtain ⟨_, row, found, _⟩ := admits_challenge.mp admitted
    rw [missing] at found
    cases found
  · rename_i row found
    have onRow : ∀ {after : Account}, after.pref = account.pref → after.memory = account.memory →
        ¬(totpReady environment account.pref = true ∧ row.consumedAt = none ∧
          ¬row.expiresAt < call.now ∧ "totp" ∈ normalizeMethods row.allowedMethods true true) →
        Decided environment account
          (call, .verifyChallenge challengeToken method code session scope) false after := by
      intro after pref memory turned
      apply Decided.of_not_admitted pref memory
      intro admitted
      obtain ⟨ready, other, isOther, passes⟩ := admits_challenge.mp admitted
      obtain rfl := Option.some.inj (found.symm.trans isOther)
      exact turned ⟨ready, passes⟩
    rw [ends_bind, ends_refuseIf, isTotp]
    split
    · exact onRow rfl rfl fun passes => ‹row.consumedAt ≠ none› passes.2.1
    · rw [ends_bind, ends_refuseIf]
      split
      · exact onRow rfl rfl fun passes => passes.2.2.1 ‹_›
      · rw [ends_bind, ends_refuseIf]
        split
        · exact onRow rfl rfl fun passes => ‹"totp" ∉ _› passes.2.2.2
        · rename_i unconsumed unexpired allowed
          rw [ends_bind]
          apply (performTotp_ends lower_strip_totp).mono
          · rintro verification after ⟨ready, checked⟩
            exact Decided.of_checked isCode (admits_challenge.mpr
              ⟨ready, row, found, not_not.mp unconsumed, unexpired, not_not.mp allowed⟩) checked
          · rintro refusal after ⟨pref, memory, checked⟩
            by_cases ready : totpReady environment account.pref = true
            · exact Decided.of_checked isCode (admits_challenge.mpr
                ⟨ready, row, found, not_not.mp unconsumed, unexpired, not_not.mp allowed⟩)
                (checked ready)
            · exact onRow pref memory fun passes => ready passes.1

theorem verifyStepUpCode_decides (isTotp : lower (strip method) = "totp") :
    Ends (verifyStepUpCode environment call user method code session scope)
      (fun _ => Decided environment account (call, .stepUp method code session scope) true)
      (fun _ => Decided environment account (call, .stepUp method code session scope) false)
      account := by
  have isCode : Operation.totpCode (.stepUp method code session scope) = some code := if_pos isTotp
  unfold verifyStepUpCode
  rw [ends_bind, ends_getOrCreatePreference, ends_bind, ends_refuseIf]
  split
  · rename_i unready
    exact Decided.of_not_admitted rfl rfl unready
  · rename_i usable
    have ready : totpReady environment account.pref = true := not_not.mp usable
    have listed : ∀ remaining, "totp" ∈ totpMethods remaining :=
      fun _ => List.mem_append_left _ (List.mem_singleton_self _)
    rw [ends_bind, ends_get, ends_bind, ends_refuseIf, isTotp, if_neg (not_not.mpr (listed _)),
      ends_bind]
    apply Ends.mono (performTotp_ends lower_strip_totp)
    · rintro verification after ⟨_, checked⟩
      exact Decided.of_checked isCode ready checked
    · rintro refusal after ⟨_, _, checked⟩
      exact Decided.of_checked isCode ready (checked ready)

end Totp

end Laws

section Runs

variable {environment : Environment} {user : User} {account : Account} {step : Call × Operation}
  {steps : List (Call × Operation)}

/-- Every login call decides about what it submits, and it accepts where it replies. -/
theorem outcome_decided (login : step.2.rewrites = false) :
    Decided environment account step (acceptedCode environment user account step).isSome
      (outcome environment user account step).2 := by
  have replied : ∀ {code : String}, step.2.totpCode = some code →
      Ends (perform environment user step.1 step.2) (fun _ => Decided environment account step true)
        (fun _ => Decided environment account step false) account →
      Decided environment account step (acceptedCode environment user account step).isSome
        (outcome environment user account step).2 := by
    intro code isCode ends
    have decided := outcome_of_ends ends
    cases result : (outcome environment user account step).1 with
    | ok reply =>
      have accepted : acceptedCode environment user account step = some code := by
        unfold acceptedCode
        rw [result]
        exact isCode
      rw [result] at decided
      rw [accepted]
      exact decided
    | error refusal =>
      have nothing : acceptedCode environment user account step = none := by
        unfold acceptedCode
        rw [result]
      rw [result] at decided
      rw [nothing]
      exact decided
  cases isCode : step.2.totpCode with
  | none =>
    have nothing : acceptedCode environment user account step = none := by
      unfold acceptedCode
      split
      · exact isCode
      · rfl
    have kept := @outcome_keeps environment user account step
      (fun pref memory => pref = account.pref ∧ memory = account.memory)
      (perform_keeps login fun code submits => by rw [isCode] at submits; cases submits) ⟨rfl, rfl⟩
    rw [nothing]
    refine ⟨kept.1, kept.2, ?_⟩
    intro submitted isSubmitted
    have submits := (submission_eq_some.mp isSubmitted).1
    rw [isCode] at submits
    cases submits
  | some code =>
    obtain ⟨call, operation⟩ := step
    cases operation with
    | verifyChallenge challengeToken method text session scope =>
      apply replied isCode
      exact ends_map.mpr (verifyMfaChallenge_decides (Option.ite_none_right_eq_some.mp isCode).1)
    | stepUp method text session scope =>
      apply replied isCode
      exact ends_map.mpr (verifyStepUpCode_decides (Option.ite_none_right_eq_some.mp isCode).1)
    | _ => cases isCode

@[simp] theorem replayCheck_offers : (replayCheck environment user).offers account step =
    (submission environment account step).map Prod.snd := rfl

@[simp] theorem replayCheck_refuses : (replayCheck environment user).refuses account step =
    (submission environment account step).any fun submitted =>
      account.memory = some (replayHash environment submitted.1 submitted.2) := rfl

theorem totpCode_of_acceptedCode {code : String}
    (accepted : acceptedCode environment user account step = some code) :
    step.2.totpCode = some code := by
  unfold acceptedCode at accepted
  split at accepted
  · exact accepted
  · cases accepted

theorem accepts_eq (login : step.2.rewrites = false) :
    match acceptedCode environment user account step with
    | none => (replayCheck environment user).accepts account step = none
    | some code => ∃ resolved, (replayCheck environment user).accepts account step = some resolved ∧
        resolveTotpTimecode environment (account.secret environment) code step.1.now =
          some resolved := by
  have decided := @outcome_decided environment user account step login
  cases accepted : acceptedCode environment user account step with
  | none =>
    rw [accepted] at decided
    obtain ⟨_, _, remembered⟩ := decided
    cases submits : submission environment account step with
    | none => simp [Automata.Gatekeeper.accepts, submits]
    | some submitted =>
      have same := remembered submitted submits
      simp [Automata.Gatekeeper.accepts, submits, same]
  | some code =>
    rw [accepted] at decided
    obtain ⟨_, submitted, submits, fresh, _⟩ := decided
    obtain ⟨isCode, _, resolved⟩ := submission_eq_some.mp submits
    have same : code = submitted.1 :=
      Option.some.inj ((totpCode_of_acceptedCode accepted).symm.trans isCode)
    refine ⟨submitted.2, ?_, same ▸ resolved⟩
    simp [Automata.Gatekeeper.accepts, submits, fresh]

theorem totpVerify_of_resolved {secret code : String} {now resolved : ℤ}
    (found : resolveTotpTimecode environment secret code now = some resolved) :
    environment.totpVerify secret (totpDigits environment code) resolved = true := by
  unfold resolveTotpTimecode at found
  obtain ⟨_, isFirst⟩ := Option.ite_none_left_eq_some.mp found
  exact List.find?_some isFirst

/-- The accepted codes of a time step are counted by the check for replays. -/
theorem countP_acceptedCodes (login : ∀ step ∈ steps, step.2.rewrites = false)
    (distinct : ∀ secret code first second, environment.totpVerify secret code first = true →
      environment.totpVerify secret code second = true → first = second) (timeStep : ℤ) :
    (acceptedCodes environment user account steps).countP (fun code =>
        environment.totpVerify (account.secret environment) (totpDigits environment code)
          timeStep) =
      ((replayCheck environment user).accepted account steps).count timeStep := by
  induction steps generalizing account with
  | nil => rfl
  | cons step steps ih =>
    have isLogin := login step List.mem_cons_self
    have kept := (@outcome_decided environment user account step isLogin).1
    have sameSecret : (outcome environment user account step).2.secret environment =
        account.secret environment := by
      unfold Account.secret
      rw [kept]
    have rest := @ih (outcome environment user account step).2
      fun later inside => login later (List.mem_cons_of_mem _ inside)
    rw [sameSecret] at rest
    rw [acceptedCodes, Automata.Gatekeeper.accepted, List.countP_append, List.count_append, rest]
    congr 1
    have accepts := @accepts_eq environment user account step isLogin
    cases accepted : acceptedCode environment user account step with
    | none =>
      rw [accepted] at accepts
      rw [accepts]
      rfl
    | some code =>
      rw [accepted] at accepts
      obtain ⟨resolved, isResolved, found⟩ := accepts
      have valid := totpVerify_of_resolved found
      rw [isResolved, Option.toList_some, Option.toList_some, List.countP_singleton,
        List.count_singleton]
      have same : environment.totpVerify (account.secret environment)
          (totpDigits environment code) timeStep = true ↔ (resolved == timeStep) = true := by
        rw [beq_iff_eq]
        constructor
        · exact fun also => distinct _ _ _ _ valid also
        · rintro rfl
          exact valid
      simp only [same]

/-- Whatever is submitted of a time step of which a code has been accepted is what the account
remembers: the last accepted code, in the text in which it was submitted. -/
def OnlyRemembered (environment : Environment) (user : User) (account : Account)
    (steps : List (Call × Operation)) : Prop :=
  ∀ before step after, steps = before ++ step :: after → ∀ code timeStep,
    submission environment (accountAfter environment user account before) step =
        some (code, timeStep) →
      (∃ earlier ∈ acceptedCodes environment user account before, environment.totpVerify
        (account.secret environment) (totpDigits environment earlier) timeStep = true) →
      (accountAfter environment user account before).memory =
        some (replayHash environment code timeStep)

theorem exampleEnvironment_distinct (secret code : String) (first second : ℤ)
    (ofFirst : exampleEnvironment.totpVerify secret code first = true)
    (ofSecond : exampleEnvironment.totpVerify secret code second = true) : first = second := by
  have listed : ∀ left ∈ [("822542", 56666665), ("324550", 56666666), ("367665", (56666667 : ℤ))],
      ∀ right ∈ [("822542", 56666665), ("324550", 56666666), ("367665", (56666667 : ℤ))],
        left.1 = right.1 → left.2 = right.2 := by decide
  exact listed (code, first) (of_decide_eq_true ofFirst).2 (code, second)
    (of_decide_eq_true ofSecond).2 rfl

def exampleStepUp (code : String) : Call × Operation :=
  (exampleCall, .stepUp "totp" code ⟨"d-1", none, none⟩ [])

end Runs

end Mfa
