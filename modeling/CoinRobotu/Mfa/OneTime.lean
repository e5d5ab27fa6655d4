import CoinRobotu.Interleaving.Calls
import CoinRobotu.Mfa.Clashes

/-!
# Factors that can be used once

As long as no two calls run side by side that are about one challenge, use one backup code or both
regenerate the codes, each challenge leads to one token, each backup code is accepted once and not
after it has been replaced, and a code in a mail is accepted only as the last one sent. Two
verifications that have both read a challenge before either commits lead to two tokens.
-/

namespace Mfa

open Interleaving
open Runtime (strip lower)

section Sound

variable {Thread : Type} {environment : Environment} {user : User} {shared : Shared Thread}
  {thread : Thread} {session other : Session}

section Commit

variable {records : Records}

theorem Sound.events_once (sound : Sound environment user shared)
    (inside : session ∈ shared.sessions thread)
    (commits : session.commit environment user shared.records = some records) :
    ∀ event ∈ session.events environment user shared.records shared.sent,
      ∀ earlier ∈ shared.log, ¬ event.Repeats earlier := by
  have current := sound.current thread session inside
  intro event isEvent earlier isEarlier repeats
  cases event with
  | issued challenge =>
    cases earlier with
    | issued other =>
      obtain rfl : challenge = other := repeats
      obtain ⟨challengeToken, method, code, context, scope, isVerify, rfl⟩ := logged_of_mem isEvent
      obtain ⟨before, after, found, unconsumed, _⟩ := current.verified isVerify
      exact sound.issued _ isEarlier before found unconsumed
    | _ => exact repeats
  | codeAccepted id =>
    obtain ⟨code, isUsed, rfl⟩ := logged_of_mem isEvent
    cases earlier with
    | codeAccepted other =>
      obtain rfl : code.id = other := repeats
      exact current.used code isUsed isEarlier
    | codeReplaced other =>
      obtain rfl : code.id = other := repeats
      have left := (commit_eq_some commits).2
      split at left
      next regenerates =>
        rw [used_of_regenerates regenerates] at isUsed
        exact nomatch isUsed
      · exact (sound.replaced code.id isEarlier).2 (left.2 code isUsed)
    | _ => exact repeats
  | codeReplaced | emailAccepted => exact repeats

theorem events_pairwise (accepted : session.Accepted environment user) {current : Records}
    {sent : String → Option String} :
    (session.events environment user current sent).Pairwise
      fun later earlier => ¬ later.Repeats earlier := by
  unfold Session.events
  cases isFactor : session.factor with
  | verifyChallenge challengeToken method code context scope =>
    dsimp only
    rcases used_cases accepted with nothing | ⟨_, _, _, one⟩
    · rw [nothing]
      split <;> simp [Event.Repeats]
    · rw [one]
      split <;> simp [Event.Repeats]
  | stepUp method code context scope =>
    rcases used_cases accepted with nothing | ⟨_, _, _, one⟩
    · rw [nothing]
      exact List.Pairwise.nil
    · rw [one]
      exact List.pairwise_singleton _ _
  | resend challengeToken => exact List.Pairwise.nil
  | regenerate count =>
    rw [List.pairwise_map]
    exact List.pairwise_of_forall fun _ _ repeats => repeats

variable (sound : Sound environment user shared) (inside : session ∈ shared.sessions thread)

include sound inside

theorem Sound.not_resending {challengeToken method code : String}
    {context : SessionContext} {scope : List String}
    (isVerify : session.factor = .verifyChallenge challengeToken method code context scope) :
    ¬ Resending environment shared (environment.hashToken challengeToken) := by
  rintro ⟨other, otherSession, isOther, otherToken, isResend, named⟩
  have different : thread ≠ other := by
    rintro rfl
    obtain rfl := Option.some.inj (inside.symm.trans isOther)
    rw [isVerify] at isResend
    exact nomatch isResend
  have clashes : session.Clashes environment user otherSession :=
    .inl ⟨environment.hashToken challengeToken, by rw [isVerify]; rfl,
      by rw [isResend, ← named]; rfl⟩
  exact sound.apart thread other different session inside otherSession isOther clashes

theorem Sound.events_last {challenge accepted : String} {lastSent : Option String}
    (isEvent : .emailAccepted challenge accepted lastSent ∈
      session.events environment user shared.records shared.sent) :
    strip (lastSent.getD "") = accepted := by
  obtain ⟨challengeToken, method, code, context, scope, isVerify, rfl, isEmail, isAccepted,
    isLast⟩ := logged_of_mem isEvent
  obtain ⟨before, after, found, _, isCode, _⟩ :=
    (sound.current thread session inside).verified isVerify
  have expected := isCode isEmail
  rcases sound.mails _ before found with resending | noCode | same
  · exact absurd resending (sound.not_resending inside isVerify)
  · rw [noCode] at expected
    have empty : strip ((none : Option String).getD "") = "" := by decide +kernel
    rw [empty] at expected
    exact absurd expected.symm (environment.hashToken_ne _)
  · rw [isLast, ← same, isAccepted]
    exact expected

/-- An accepted code stays used, and a replaced one is gone. -/
theorem Sound.commits_codes {records : Records}
    (commits : session.commit environment user shared.records = some records) {id : ℕ} :
    ((.codeAccepted id ∈ session.events environment user shared.records shared.sent ∨
        .codeAccepted id ∈ shared.log) →
      id < records.codes.drawn ∧
        ∀ code ∈ records.codes.rows, code.id = id → code.row.usedAt ≠ none) ∧
      ((.codeReplaced id ∈ session.events environment user shared.records shared.sent ∨
        .codeReplaced id ∈ shared.log) →
      id < records.codes.drawn ∧ id ∉ records.codes.ids) := by
  have current := sound.current thread session inside
  have isCodes := (commit_eq_some commits).2
  by_cases regenerates : session.factor.regenerates = true
  · rw [if_pos regenerates] at isCodes
    have grown : shared.records.codes.drawn ≤ records.codes.drawn := by
      rw [isCodes]
      exact Nat.le_add_right _ _
    have isNew : ∀ other ∈ records.codes.ids, shared.records.codes.drawn ≤ other := by
      intro other isOther
      rw [isCodes] at isOther
      exact drawn_le_of_replace (current.codes regenerates) isOther
    have gone : id < shared.records.codes.drawn →
        id < records.codes.drawn ∧ id ∉ records.codes.ids := by
      intro below
      refine ⟨by omega, fun isId => ?_⟩
      have above := isNew id isId
      omega
    constructor
    · rintro (logged | logged)
      · obtain ⟨code, isUsed, _⟩ := logged_of_mem logged
        rw [used_of_regenerates regenerates] at isUsed
        exact nomatch isUsed
      · obtain ⟨below, missing⟩ := gone (sound.accepted id logged).1
        refine ⟨below, fun code isCode named => ?_⟩
        exact absurd (List.mem_map_of_mem isCode) (named ▸ missing)
    · rintro (logged | logged)
      · exact gone (lt_drawn (logged_of_mem logged).2)
      · exact gone (sound.replaced id logged).1
  · rw [if_neg regenerates] at isCodes
    obtain ⟨marked, present⟩ := isCodes
    have sameDrawn : records.codes.drawn = shared.records.codes.drawn := by
      rw [marked]
      rfl
    rw [sameDrawn]
    constructor
    · intro logged
      have below : id < shared.records.codes.drawn := by
        rcases logged with isNew | isOld
        · obtain ⟨code, isUsed, rfl⟩ := logged_of_mem isNew
          exact lt_drawn (present code isUsed)
        · exact (sound.accepted id isOld).1
      refine ⟨below, fun code isCode named unused => ?_⟩
      rw [marked] at isCode
      obtain ⟨wasCode, notUsed⟩ := unused_of_mark (used_marked current.accepted) isCode unused
      rcases logged with isNew | isOld
      · obtain ⟨usedCode, isUsed, same⟩ := logged_of_mem isNew
        rw [named, ← same] at notUsed
        exact notUsed (List.mem_map_of_mem isUsed)
      · exact (sound.accepted id isOld).2 code wasCode named unused
    · rintro (logged | logged)
      · exact absurd (logged_of_mem logged).1 regenerates
      · rw [marked, ids_mark]
        exact sound.replaced id logged

end Commit

variable [DecidableEq Thread]

theorem of_ended {sessions : Thread → Option Session} {otherThread : Thread}
    (underWay : Function.update sessions thread none otherThread = some other) :
    otherThread ≠ thread ∧ sessions otherThread = some other := by
  by_cases same : otherThread = thread
  · rw [same, Function.update_self] at underWay
    exact nomatch underWay
  · rw [Function.update_of_ne same] at underWay
    exact ⟨same, underWay⟩

section Sound

variable (sound : Sound environment user shared)

include sound

theorem Sound.drops (notResend : ∀ session ∈ shared.sessions thread, ∀ challengeToken,
      session.factor ≠ .resend challengeToken) :
    Sound environment user { shared with
      sessions := Function.update shared.sessions thread none } := by
  constructor
  · intro other otherSession isOther
    have current := sound.current other otherSession (of_ended isOther).2
    exact ⟨current.accepted, current.challenge, current.used, current.codes, current.mail⟩
  · intro first second different firstSession isFirst secondSession isSecond
    exact sound.apart first second different firstSession (of_ended isFirst).2 secondSession
      (of_ended isSecond).2
  · exact sound.issued
  · exact sound.accepted
  · exact sound.replaced
  · intro challenge row found
    rcases sound.mails challenge row found with resending | settled
    · obtain ⟨other, otherSession, isOther, challengeToken, isResend, named⟩ := resending
      have different : other ≠ thread := by
        rintro rfl
        exact notResend otherSession isOther challengeToken isResend
      refine .inl ⟨other, otherSession, ?_, challengeToken, isResend, named⟩
      dsimp only
      rwa [Function.update_of_ne different]
    · exact .inr settled
  · exact ⟨sound.law.once, sound.law.last⟩

theorem Sound.commits_current (inside : session ∈ shared.sessions thread) {records : Records}
    (commits : session.commit environment user shared.records = some records)
    {otherThread : Thread} (different : otherThread ≠ thread)
    (isOther : other ∈ shared.sessions otherThread) :
    Current environment user { shared with
      records := records
      sessions := Function.update shared.sessions thread none
      log := session.events environment user shared.records shared.sent ++ shared.log } other := by
  have current := sound.current otherThread other isOther
  have apart := sound.apart thread otherThread different.symm session inside other isOther
  have mine := (sound.current thread session inside).accepted
  obtain ⟨isChallenges, isCodes⟩ := commit_eq_some commits
  refine ⟨current.accepted, ?_, ?_, ?_, current.mail⟩
  · intro name isAbout
    dsimp only
    rw [isChallenges, find_commit_other mine fun about => apart (.inl ⟨name, about, isAbout⟩)]
    exact current.challenge name isAbout
  · intro code isUsed logged
    rcases List.mem_append.mp logged with isNew | isOld
    · obtain ⟨mineCode, isMine, same⟩ := logged_of_mem isNew
      exact apart (.inr (.inr ⟨code.id, same ▸ List.mem_map_of_mem isMine,
        List.mem_map_of_mem isUsed⟩))
    · exact current.used code isUsed isOld
  · intro regenerates id isId
    have keeps : ¬ session.factor.regenerates = true :=
      fun both => apart (.inr (.inl ⟨both, regenerates⟩))
    rw [if_neg keeps] at isCodes
    dsimp only at isId
    rw [isCodes.1, ids_mark] at isId
    exact current.codes regenerates id isId

/-- A commit consumes its challenge, and clears its code or gives it the new one. -/
theorem Sound.commits_challenges
    (inside : session ∈ shared.sessions thread) {challenge : String} {row : AuthMfaChallenge}
    (found : (session.challenges environment user shared.records).find challenge = some row) :
    ((.issued challenge ∈ session.events environment user shared.records shared.sent ∨
        .issued challenge ∈ shared.log) → row.consumedAt ≠ none) ∧
      (Resending environment { shared with
          sessions := Function.update shared.sessions thread none } challenge ∨
        row.emailOtpHash = none ∨ row.emailOtpHash = shared.sent challenge) := by
  have current := sound.current thread session inside
  have others : Resending environment shared challenge →
      session.factor.challenge environment ≠ some challenge →
      Resending environment { shared with
        sessions := Function.update shared.sessions thread none } challenge := by
    rintro ⟨other, otherSession, isOther, challengeToken, isResend, named⟩ notAbout
    have different : other ≠ thread := by
      rintro rfl
      obtain rfl := Option.some.inj (inside.symm.trans isOther)
      apply notAbout
      rw [isResend, ← named]
      rfl
    refine ⟨other, otherSession, ?_, challengeToken, isResend, named⟩
    dsimp only
    rwa [Function.update_of_ne different]
  by_cases about : session.factor.challenge environment = some challenge
  · cases isFactor : session.factor with
    | verifyChallenge challengeToken method code context scope =>
      rw [isFactor] at about
      obtain rfl := Option.some.inj about
      obtain ⟨before, after, wasFound, _, _, isAfter, consumed, code⟩ :=
        current.verified isFactor
      obtain rfl := Option.some.inj (isAfter.symm.trans found)
      refine ⟨fun _ => consumed, .inr ?_⟩
      rcases code with cleared | same
      · exact .inl cleared
      · rw [same]
        exact (sound.mails _ before wasFound).resolve_left (sound.not_resending inside isFactor)
    | resend challengeToken =>
      rw [isFactor] at about
      obtain rfl := Option.some.inj about
      obtain ⟨before, after, wasFound, isAfter, consumed, code⟩ := current.resent isFactor
      obtain rfl := Option.some.inj (isAfter.symm.trans found)
      refine ⟨?_, .inr (.inr code)⟩
      rintro (isNew | isOld)
      · obtain ⟨_, _, _, _, _, isVerify, _⟩ := logged_of_mem isNew
        rw [isFactor] at isVerify
        exact nomatch isVerify
      · rw [consumed]
        exact sound.issued _ isOld before wasFound
    | stepUp | regenerate =>
      rw [isFactor] at about
      exact nomatch about
  · rw [find_commit_other current.accepted about] at found
    constructor
    · rintro (isNew | isOld)
      · obtain ⟨challengeToken, _, _, _, _, isVerify, rfl⟩ := logged_of_mem isNew
        exact absurd (by rw [isVerify]; rfl) about
      · exact sound.issued challenge isOld row found
    · rcases sound.mails challenge row found with resending | settled
      · exact .inl (others resending about)
      · exact .inr settled

/-- A commit keeps what holds, as no call that is under way clashes with it. -/
theorem Sound.commits :
    Sound environment user (stepShared environment user shared (.commits thread)) := by
  dsimp only [stepShared]
  cases inside : shared.sessions thread with
  | none => exact sound
  | some session =>
    have current := sound.current thread session inside
    dsimp only
    cases commits : session.commit environment user shared.records with
    | none =>
      apply sound.drops
      intro other isOther challengeToken isResend
      obtain rfl := Option.some.inj (inside.symm.trans isOther)
      have nothing := used_of_resend current.accepted isResend
      unfold Session.commit Session.codes at commits
      rw [nothing, isResend] at commits
      simp [Factor.regenerates] at commits
    | some records =>
      have isChallenges := (commit_eq_some commits).1
      constructor
      · intro other otherSession isOther
        obtain ⟨different, before⟩ := of_ended isOther
        exact sound.commits_current inside commits different before
      · intro first second different firstSession isFirst secondSession isSecond
        exact sound.apart first second different firstSession (of_ended isFirst).2 secondSession
          (of_ended isSecond).2
      · intro challenge logged row found
        dsimp only at found
        rw [isChallenges] at found
        exact (sound.commits_challenges inside found).1 (List.mem_append.mp logged)
      · exact fun id logged =>
          (sound.commits_codes inside commits).1 (List.mem_append.mp logged)
      · exact fun id logged =>
          (sound.commits_codes inside commits).2 (List.mem_append.mp logged)
      · intro challenge row found
        dsimp only at found
        rw [isChallenges] at found
        exact (sound.commits_challenges inside found).2
      · constructor
        · exact List.pairwise_append.mpr
            ⟨events_pairwise current.accepted, sound.law.once, sound.events_once inside commits⟩
        · intro challenge accepted lastSent logged
          rcases List.mem_append.mp logged with isNew | isOld
          · exact sound.events_last inside isNew
          · exact sound.law.last challenge accepted lastSent isOld

end Sound

end Sound

def exampleRecords : Records where
  preference := (exampleAccount true).preference
  securityState := some ⟨none, none, none, none, none⟩
  codes := ⟨[], 0, List.nodup_nil, nofun⟩
  challenges := ⟨[⟨exampleDigest "t-1", ["totp"], none, "PENDING", seconds 1700000600, none⟩],
    List.nodup_singleton _⟩

def exampleFactor : Factor := .verifyChallenge "t-1" "totp" "324550" ⟨"d-1", none, none⟩ []

def exampleRace : List (Action Bool) :=
  [.reads true exampleCall exampleFactor, .reads false exampleCall exampleFactor, .commits true,
    .commits false]

end Mfa
