import CoinRobotu.Mfa.Frames

/-!
# How long the second factor stays demanded

A login demands a second factor from an account whose TOTP is ready, and from an ordinary user who
has turned the factor on.
-/

namespace Mfa

open Runtime (strip lower)
open Stateful

def secondFactors : List String := ["totp", "backup_code", "email_otp"]

def SecondFactorOnly (methods : List String) : Prop :=
  methods ≠ [] ∧ ∀ method ∈ methods, method ∈ secondFactors

/-- A login is blocked or needs a challenge that only second factors satisfy. -/
def StartReply.Demands : Option StartReply → Prop
  | none => False
  | some (.challenge payload) => SecondFactorOnly payload.mfaMethods
  | some (.blocked _) => True

/-- A login demands a second factor, or is refused because too many mails were asked for. -/
def Demanded : Except HTTPException Reply → Prop
  | .ok (.start reply) => StartReply.Demands reply
  | .ok _ => False
  | .error refusal => refusal = tooManyRequests "email_otp_rate_limited"

def Operation.turnsOff : Operation → Bool
  | .update isEnabled _ => !isEnabled
  | .disable | .adminReset => true
  | _ => false

section Demands

variable (environment : Environment) (user : User) (pref : UserMfaPreference)

def Configured : Prop :=
  user.isPrivileged = false ∧ pref.isEnabled = true ∧
    normalizeMethods pref.enabledMethods false false ≠ []

def Protected : Prop := totpReady environment pref = true ∨ Configured user pref

end Demands

section Settings

variable {environment : Environment} {call : Call} {user : User} {account : Account}

theorem updateMfaSettings_keeps {enabledMethods : List String} :
    Keeps (Held fun pref _ => Protected environment user pref)
      (updateMfaSettings environment call true enabledMethods) := by
  apply getOrCreatePreference_keeps.bind
  intro row
  apply Keeps.unless
  intro some_method
  apply Keeps.unless
  intro _
  apply Keeps.unless
  intro _
  apply Keeps.bind
  · apply keeps_modify
    intro account held
    rcases held with ready | ⟨ordinary, _, _⟩
    · exact .inl ready
    · have named : normalizeMethods enabledMethods false false ≠ [] :=
        fun nothing => some_method ⟨rfl, nothing⟩
      refine .inr ⟨ordinary, ?_, normalizeMethods_normalized.mpr named⟩
      exact decide_eq_true ⟨rfl, List.length_pos_of_ne_nil named⟩
  · exact fun _ => getMfaSettings_keeps

theorem beginTotpSetup_keeps : Keeps (Held fun pref _ => Configured user pref)
    (beginTotpSetup environment call user) := by
  apply getOrCreatePreference_keeps.bind
  intro row
  apply Keeps.bind
  · apply Keeps.ite
    · intro _
      apply Keeps.bind
      · exact keeps_modify fun _ held => held
      · exact fun _ => keeps_pure
    · exact fun _ => keeps_pure
  · exact fun _ => keeps_pure

theorem verifyTotpSetup_ends {code : String} :
    Ends (verifyTotpSetup environment call code)
      (fun _ after => totpReady environment after.pref = true)
      (fun _ after => after.pref = account.pref) account := by
  unfold verifyTotpSetup
  rw [ends_bind, ends_getOrCreatePreference, ends_bind, ends_refuseIf]
  split
  · rfl
  · rename_i readable
    rw [ends_bind, ends_refuseIf]
    split
    · rfl
    · have ready : totpReady environment { account.pref with totpVerified := true } = true :=
        decide_eq_true ⟨rfl, readable⟩
      -- From here on nothing is refused, and the settings that are read leave the preference.
      exact ready

theorem beginTotpSetup_ends : Ends (beginTotpSetup environment call user)
    (fun _ after => totpReady environment after.pref = false ∧
      (Configured user after.pref ↔ Configured user account.pref))
    (fun _ _ => False) account := by
  unfold beginTotpSetup
  rw [ends_bind, ends_getOrCreatePreference, ends_bind]
  unfold setupSecret
  rw [ends_ite]
  split
  · constructor
    · exact decide_eq_false fun verified => Bool.false_ne_true verified.1
    · rfl
  · rename_i waits
    constructor
    · exact decide_eq_false fun verified => waits (.inl verified.1)
    · rfl

end Settings

section Starts

variable {environment : Environment} {call : Call} {user : User} {account : Account}

variable {methods : List String}

theorem createChallenge_ends {reason : Option String} :
    Ends (createChallenge environment call methods reason)
      (fun payload _ => payload.mfaMethods = methods)
      (fun refusal _ => refusal = tooManyRequests "email_otp_rate_limited") account := by
  unfold createChallenge
  rw [ends_bind, ends_refuseIf]
  split
  · rfl
  · rfl

theorem SecondFactorOnly.add {method : String}
    (only : ∀ method ∈ methods, method ∈ secondFactors) (known : method ∈ secondFactors) :
    SecondFactorOnly (methods ++ [method]) := by
  constructor
  · exact List.append_ne_nil_of_right_ne_nil _ (List.cons_ne_nil _ _)
  · intro other inside
    rcases List.mem_append.mp inside with before | isLast
    · exact only other before
    · rw [List.mem_singleton.mp isLast]
      exact known

theorem SecondFactorOnly.with {method : String}
    (only : ∀ method ∈ methods, method ∈ secondFactors) (known : method ∈ secondFactors) :
    SecondFactorOnly (withMethod methods method) := by
  unfold withMethod
  split
  · exact ⟨List.ne_nil_of_mem ‹_›, only⟩
  · exact .add only known

variable {remaining : ℕ}

theorem totpMethods_secondFactor : SecondFactorOnly (totpMethods remaining) := by
  have totp : ∀ method ∈ ["totp"], method ∈ secondFactors := by decide
  have backup : "backup_code" ∈ secondFactors := by decide
  unfold totpMethods
  split
  · exact .add totp backup
  · exact ⟨List.cons_ne_nil _ _, totp⟩

theorem forcedMethods_secondFactor {ready : Bool} :
    SecondFactorOnly (forcedMethods ready remaining) := by
  have email : "email_otp" ∈ secondFactors := by decide
  unfold forcedMethods
  split
  · exact .add totpMethods_secondFactor.2 email
  · exact @SecondFactorOnly.add [] _ (List.forall_mem_nil _) email

theorem configuredMethods_secondFactor {values : List String} :
    SecondFactorOnly (configuredMethods (normalizeMethods values false false) remaining) := by
  have known : ∀ method ∈ normalizeMethods values false false, method ∈ secondFactors := by
    intro method inside
    have each : ∀ method ∈ allowedMethods false false, method ∈ secondFactors := by decide
    exact each method (mem_normalizeMethods.mp inside).1
  have email : "email_otp" ∈ secondFactors := by decide
  have backup : "backup_code" ∈ secondFactors := by decide
  unfold configuredMethods
  split
  · exact .with (SecondFactorOnly.with known email).2 backup
  · exact .with known email

theorem forcedChallenge_demands {reason : Option String}
    (guarded : Protected environment user account.pref) :
    Ends (forcedChallenge environment call user account.pref remaining reason)
      (fun reply _ => StartReply.Demands reply)
      (fun refusal _ => refusal = tooManyRequests "email_otp_rate_limited") account := by
  unfold forcedChallenge
  split
  · rename_i open_
    obtain ⟨ordinary, off, unready⟩ := open_
    rcases guarded with ready | ⟨_, on, _⟩
    · exact unready ready
    · exact off on
  · split
    · trivial
    · rw [ends_bind]
      apply createChallenge_ends.mono
      · rintro payload after methods
        rw [ends_ite]
        split
        · trivial
        · show SecondFactorOnly payload.mfaMethods
          rw [methods]
          exact forcedMethods_secondFactor
      · exact fun same => same

theorem startMfaChallengeIfRequired_demands {forced : Bool} {reason : Option String}
    (guarded : Protected environment user account.pref) :
    Ends (startMfaChallengeIfRequired environment call user forced reason)
      (fun reply _ => StartReply.Demands reply)
      (fun refusal _ => refusal = tooManyRequests "email_otp_rate_limited") account := by
  have challenged : ∀ {methods : List String} {before : Account}, SecondFactorOnly methods →
      Ends ((fun payload => some (StartReply.challenge payload)) <$>
          createChallenge environment call methods reason)
        (fun reply _ => StartReply.Demands reply)
        (fun refusal _ => refusal = tooManyRequests "email_otp_rate_limited") before := by
    intro methods before only
    rw [ends_map]
    apply createChallenge_ends.mono
    · rintro payload after same
      show SecondFactorOnly payload.mfaMethods
      rw [same]
      exact only
    · exact fun same => same
  unfold startMfaChallengeIfRequired
  rw [ends_bind, ends_getOrCreatePreference, ends_bind, ends_get]
  split
  · exact @forcedChallenge_demands environment call user { account with
      preference := some account.pref } _ reason guarded
  · split
    · exact challenged totpMethods_secondFactor
    · rename_i unready
      rcases guarded with ready | ⟨ordinary, on, some_method⟩
      · exact absurd ready unready
      · rw [if_neg (by rw [ordinary]; exact Bool.false_ne_true), if_pos ⟨on, some_method⟩]
        exact challenged configuredMethods_secondFactor

end Starts

section Runs

variable {environment : Environment} {user : User} {account : Account} {step : Call × Operation}

/-- One call leaves a protected account protected, if it does not turn the second factor off and,
where it starts a setup, an ordinary user has turned the factor on. -/
theorem outcome_protected (guarded : Protected environment user account.pref)
    (on : step.2.turnsOff = false)
    (configured : step.2 = .beginSetup → Configured user account.pref) :
    Protected environment user (outcome environment user account step).2.pref := by
  by_cases other : step.2.rewrites = false
  · exact @outcome_keeps _ _ _ _ (fun pref _ => Protected environment user pref)
      (perform_keeps other fun _ _ _ => verifyTotpAndApplyAntiReplay_keeps fun _ _ _ held => held)
      guarded
  · obtain ⟨call, operation⟩ := step
    cases operation with
    | update isEnabled enabledMethods =>
      cases isEnabled with
      | false => cases on
      | true =>
        exact @outcome_keeps _ _ _ _ (fun pref _ => Protected environment user pref)
          updateMfaSettings_keeps.map guarded
    | beginSetup =>
      exact .inr (@outcome_keeps _ _ _ (call, .beginSetup) (fun pref _ => Configured user pref)
        beginTotpSetup_keeps.map (configured rfl))
    | verifySetup code =>
      have ends := @outcome_of_ends environment user account (call, .verifySetup code)
        (fun _ after => totpReady environment after.pref = true)
        (fun _ after => after.pref = account.pref) (ends_map.mpr verifyTotpSetup_ends)
      split at ends
      · exact .inl ends
      · rw [ends]
        exact guarded
    | disable | adminReset => cases on
    | _ => exact absurd rfl other

/-- Every setup of a run is started while an ordinary user has turned the second factor on. -/
def SetupsConfigured (environment : Environment) (user : User) (account : Account)
    (steps : List (Call × Operation)) : Prop :=
  ∀ before call after, steps = before ++ (call, .beginSetup) :: after →
    Configured user (accountAfter environment user account before).pref

theorem accountAfter_protected {steps : List (Call × Operation)}
    (guarded : Protected environment user account.pref)
    (on : ∀ step ∈ steps, step.2.turnsOff = false)
    (configured : SetupsConfigured environment user account steps) :
    Protected environment user (accountAfter environment user account steps).pref := by
  induction steps using List.reverseRecOn with
  | nil => exact guarded
  | append_singleton steps step ih =>
    have onBefore : ∀ earlier ∈ steps, earlier.2.turnsOff = false :=
      fun earlier inside => on earlier (List.mem_append_left _ inside)
    have configuredBefore : SetupsConfigured environment user account steps := by
      rintro before call after rfl
      apply configured before call (after ++ [step])
      rw [List.append_assoc, List.cons_append]
    have protectedBefore := ih onBefore configuredBefore
    rw [accountAfter_concat]
    apply outcome_protected protectedBefore
    · exact on step (List.mem_append_right _ (List.mem_singleton_self step))
    · intro starts
      apply configured steps step.1 []
      rw [← starts]

theorem demanded_of_protected {call : Call} {forced : Bool} {reason : Option String}
    (guarded : Protected environment user account.pref) :
    Demanded (outcome environment user account (call, .start forced reason)).1 := by
  have ends := @outcome_of_ends environment user account (call, .start forced reason)
    (fun reply _ => Demanded (.ok reply)) (fun refusal _ => Demanded (.error refusal))
    (ends_map.mpr (startMfaChallengeIfRequired_demands guarded))
  cases result : (outcome environment user account (call, .start forced reason)).1 with
  | ok | error => rwa [result] at ends

/-- The other setups open the login: an ordinary user who has not turned the factor on needs
nothing but the password once a setup has been started. -/
theorem start_after_setup {calls : Call × Call} {reason : Option String}
    (ordinary : user.isPrivileged = false) (unconfigured : ¬Configured user account.pref) :
    (outcome environment user (outcome environment user account (calls.1, .beginSetup)).2
      (calls.2, .start false reason)).1 = .ok (.start none) := by
  have started := @outcome_of_ends environment user account (calls.1, .beginSetup)
    (fun _ after => totpReady environment after.pref = false ∧
      (Configured user after.pref ↔ Configured user account.pref)) (fun _ _ => False)
    (ends_map.mpr beginTotpSetup_ends)
  generalize outcome environment user account (calls.1, .beginSetup) = left at started ⊢
  obtain ⟨reply, account⟩ := left
  cases reply with
  | error refusal => exact started.elim
  | ok reply =>
    obtain ⟨unready, same⟩ := started
    have off : ¬(account.pref.isEnabled = true ∧
        normalizeMethods account.pref.enabledMethods false false ≠ []) :=
      fun on => unconfigured (same.mp ⟨ordinary, on⟩)
    have ends : Ends (startMfaChallengeIfRequired environment calls.2 user false reason)
        (fun reply _ => reply = none) (fun _ _ => False) account := by
      unfold startMfaChallengeIfRequired
      rw [ends_bind, ends_getOrCreatePreference, ends_bind, ends_get, if_neg Bool.false_ne_true,
        if_neg (by rw [unready]; exact Bool.false_ne_true),
        if_neg (by rw [ordinary]; exact Bool.false_ne_true), if_neg off]
      rfl
    have replied := @outcome_of_ends environment user account (calls.2, .start false reason)
      (fun reply _ => reply = .start none) (fun _ _ => False)
      (ends_map.mpr (ends.mono (fun isNone => by rw [isNone]) fun never => never))
    split at replied
    · rename_i reply isReply
      rw [isReply, replied]
    · exact replied.elim

theorem user_start_after_setup :
    (outcome exampleEnvironment (exampleUser .user) (outcome exampleEnvironment (exampleUser .user)
      (exampleAccount false) (exampleCall, .beginSetup)).2 (exampleCall, .start false none)).1 =
        .ok (.start none) :=
  @start_after_setup _ _ _ (exampleCall, exampleCall) _ (by decide +kernel)
    fun configured => nomatch configured.2.1

end Runs

end Mfa
