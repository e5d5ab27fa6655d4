import CoinRobotu.Mfa.Effects

/-!
# What a commit leaves

A commit leaves the challenges that its call is not about, and leaves its own one as the call has,
where nobody else has written it. It marks the code that the call has seen unused. After all codes
have been replaced their keys are new.
-/

namespace Mfa

section Commits

variable {environment : Environment} {user : User} {session : Session} {current : Records}
  {name : String}

section Changing

variable {tokenHash : Option String} {change : AuthMfaChallenge → AuthMfaChallenge}
  (keeps : ∀ row, (change row).challengeTokenHash = row.challengeTokenHash)

include keeps

theorem find_onChallenge {challenges : List AuthMfaChallenge} :
    (onChallenge tokenHash change challenges).find? (·.challengeTokenHash = name) =
      (challenges.find? (·.challengeTokenHash = name)).map fun row =>
        if some name = tokenHash then change row else row := by
  unfold onChallenge
  rw [List.find?_map]
  have same : ((fun row : AuthMfaChallenge => decide (row.challengeTokenHash = name)) ∘
      fun row => if some row.challengeTokenHash = tokenHash then change row else row) =
      fun row => decide (row.challengeTokenHash = name) := by
    funext row
    by_cases changed : some row.challengeTokenHash = tokenHash
    · simp [changed, keeps]
    · simp [changed]
  rw [same]
  cases found : challenges.find? (·.challengeTokenHash = name) with
  | none => rfl
  | some row =>
    have named : row.challengeTokenHash = name := by
      have passed := List.find?_some found
      simpa using passed
    rw [Option.map_some, Option.map_some, named]

theorem find_commit (changed : (session.outcome environment user).2.challenges =
      onChallenge tokenHash change session.seen.account.challenges) :
    (session.challenges environment user current).find name =
      (current.challenges.find name).map fun row =>
        match session.seen.challenges.find name with
        | some before =>
          before.written (if some name = tokenHash then change before else before) row
        | none => row := by
  unfold Session.challenges
  rw [Keyed.Table.find_mapRows]
  cases found : current.challenges.find name with
  | none => rfl
  | some row =>
    have named : row.challengeTokenHash = name := Keyed.Table.key_of_find found
    have after := @find_onChallenge name tokenHash change keeps session.seen.account.challenges
    have seen : session.seen.account.challenges.find? (·.challengeTokenHash = name) =
        session.seen.challenges.find name := rfl
    rw [seen] at after
    rw [Option.map_some, Option.map_some, named, changed, after]
    cases session.seen.challenges.find name with
    | none => rfl
    | some before => rfl

end Changing

theorem written_self {row : AuthMfaChallenge} {before : AuthMfaChallenge} :
    before.written before row = row := by
  simp [AuthMfaChallenge.written]

theorem Effect.change {call : Call} {account after : Account} {factor : Factor}
    (effect : Effect environment call account after factor) :
    ∃ change : AuthMfaChallenge → AuthMfaChallenge,
      (∀ row, (change row).challengeTokenHash = row.challengeTokenHash) ∧
      after.challenges = onChallenge (factor.challenge environment) change account.challenges := by
  cases factor with
  | verifyChallenge challengeToken method code context scope =>
    obtain ⟨_, row, change, _, _, _, clears, _, changed⟩ := effect
    exact ⟨change, clears.token, changed⟩
  | stepUp method code context scope =>
    refine ⟨id, fun _ => rfl, ?_⟩
    rw [onChallenge_id]
    exact effect.2
  | resend challengeToken =>
    obtain ⟨_, row, change, _, keeps, changed⟩ := effect
    exact ⟨change, fun row => (keeps row).1, changed⟩
  | regenerate count =>
    refine ⟨id, fun _ => rfl, ?_⟩
    rw [onChallenge_id]
    exact effect

theorem find_commit_other (accepted : session.Accepted environment user)
    (other : session.factor.challenge environment ≠ some name) :
    (session.challenges environment user current).find name = current.challenges.find name := by
  obtain ⟨change, keeps, changed⟩ := (effect_of_accepted accepted).change
  rw [find_commit keeps changed]
  have unchanged : some name ≠ session.factor.challenge environment := fun same => other same.symm
  simp only [if_neg unchanged, written_self]
  cases current.challenges.find name with
  | none => rfl
  | some row => cases session.seen.challenges.find name <;> rfl

theorem find_commit_own {change : AuthMfaChallenge → AuthMfaChallenge} {row : AuthMfaChallenge}
    (keeps : ∀ row, (change row).challengeTokenHash = row.challengeTokenHash)
    (changed : (session.outcome environment user).2.challenges =
      onChallenge (some name) change session.seen.account.challenges)
    (same : current.challenges.find name = session.seen.challenges.find name)
    (found : session.seen.challenges.find name = some row) :
    ∃ after, (session.challenges environment user current).find name = some after ∧
      after.consumedAt = (change row).consumedAt ∧
      after.emailOtpHash = (change row).emailOtpHash := by
  refine ⟨row.written (change row) row, ?_, written_unchanged, written_unchanged⟩
  rw [find_commit keeps changed, same, found, Option.map_some]
  simp only [if_true]

theorem zip_unchanged {rows : List StoredCode} :
    (rows.zip (rows.map StoredCode.row)).filter (fun pair => pair.2 ≠ pair.1.row) = [] := by
  induction rows with
  | nil => rfl
  | cons code rows ih =>
    rw [List.map_cons, List.zip_cons_cons, List.filter_cons_of_neg (by simp)]
    exact ih

/-- The code that is marked is found by comparing the rows. -/
theorem zip_marked {rows : List StoredCode} {after : List UserMfaBackupCode} {now : ℤ}
    (marks : Marks now (rows.map StoredCode.row) after) :
    (rows.zip after).filter (fun pair => pair.2 ≠ pair.1.row) = [] ∨
      ∃ code ∈ rows, code.row.usedAt = none ∧
        (rows.zip after).filter (fun pair => pair.2 ≠ pair.1.row) =
          [(code, { code.row with usedAt := some now })] := by
  rcases marks with rfl | ⟨before, row, later, unused, isRows, rfl⟩
  · exact .inl zip_unchanged
  · obtain ⟨first, rest, rfl, rfl, isRest⟩ := List.map_eq_append_iff.mp isRows
    obtain ⟨code, last, rfl, rfl, rfl⟩ := List.map_eq_cons_iff.mp isRest
    have changed : ({ code.row with usedAt := some now } : UserMfaBackupCode) ≠ code.row := by
      intro same
      rw [← same] at unused
      exact nomatch unused
    refine .inr ⟨code, List.mem_append_right _ List.mem_cons_self, unused, ?_⟩
    rw [List.zip_append (by rw [List.length_map]), List.zip_cons_cons, List.filter_append,
      zip_unchanged, List.filter_cons_of_pos (by simpa using changed), zip_unchanged]
    rfl

section Accepting

variable (accepted : session.Accepted environment user)

include accepted

theorem used_cases :
    session.used environment user = [] ∨
      ∃ code ∈ session.seen.codes.rows, code.row.usedAt = none ∧
        session.used environment user =
          [⟨code.id, { code.row with usedAt := some session.call.now }⟩] := by
  have effect := effect_of_accepted accepted
  have ofMarks : Marks session.call.now (session.seen.codes.rows.map StoredCode.row)
      (session.outcome environment user).2.backupCodes →
      session.used environment user = [] ∨
        ∃ code ∈ session.seen.codes.rows, code.row.usedAt = none ∧
          session.used environment user =
            [⟨code.id, { code.row with usedAt := some session.call.now }⟩] := by
    intro marks
    unfold Session.used
    split
    · exact .inl rfl
    · rcases zip_marked marks with unchanged | ⟨code, inside, unused, marked⟩
      · rw [unchanged]
        exact .inl rfl
      · rw [marked]
        exact .inr ⟨code, inside, unused, rfl⟩
  cases isFactor : session.factor with
  | verifyChallenge | stepUp =>
    rw [isFactor] at effect
    exact ofMarks effect.1
  | resend challengeToken =>
    rw [isFactor] at effect
    exact ofMarks (.inl effect.1)
  | regenerate count =>
    unfold Session.used
    rw [isFactor]
    exact .inl rfl

theorem used_marked :
    ∀ code ∈ session.used environment user, code.row.usedAt ≠ none := by
  intro code inside
  rcases used_cases accepted with nothing | ⟨_, _, _, one⟩
  · rw [nothing] at inside
    exact nomatch inside
  · rw [one, List.mem_singleton] at inside
    rw [inside]
    exact Option.some_ne_none _

theorem used_of_resend {challengeToken : String}
    (isResend : session.factor = .resend challengeToken) :
    session.used environment user = [] := by
  have effect := effect_of_accepted accepted
  rw [isResend] at effect
  unfold Session.used
  rw [isResend, effect.1]
  exact congrArg (List.map _) zip_unchanged

end Accepting

theorem used_of_regenerates (regenerates : session.factor.regenerates = true) :
    session.used environment user = [] := if_pos regenerates

variable {codes : BackupCodes}

theorem ids_mark {used : List StoredCode} :
    (codes.mark used).ids = codes.ids := by
  unfold BackupCodes.ids BackupCodes.mark
  rw [List.map_map]
  apply List.map_congr_left
  intro code _
  dsimp only [Function.comp]
  cases used.find? (·.id = code.id) with
  | none | some => rfl

/-- What is not used after some codes have been marked was not used before, and is none of
these. -/
theorem unused_of_mark {used : List StoredCode} {code : StoredCode}
    (marked : ∀ code ∈ used, code.row.usedAt ≠ none) (inside : code ∈ (codes.mark used).rows)
    (unused : code.row.usedAt = none) :
    code ∈ codes.rows ∧ code.id ∉ used.map StoredCode.id := by
  obtain ⟨old, isOld, isCode⟩ := List.mem_map.mp inside
  cases found : used.find? (·.id = old.id) with
  | none =>
    rw [found] at isCode
    obtain rfl : old = code := isCode
    refine ⟨isOld, fun isUsed => ?_⟩
    obtain ⟨other, isOther, same⟩ := List.mem_map.mp isUsed
    have different := List.find?_eq_none.mp found other isOther
    exact different (by simpa using same)
  | some other =>
    rw [found] at isCode
    have stays := marked other (List.mem_of_find?_eq_some found)
    rw [← isCode] at unused
    exact absurd unused stays

theorem drawn_le_of_replace {gone : List ℕ} {new : List UserMfaBackupCode}
    {id : ℕ} (all : ∀ id ∈ codes.ids, id ∈ gone) (inside : id ∈ (codes.replace gone new).ids) :
    codes.drawn ≤ id := by
  obtain ⟨code, isCode, rfl⟩ := List.mem_map.mp inside
  rcases List.mem_append.mp isCode with isOld | isNew
  · have kept := List.mem_filter.mp isOld
    have isGone := all code.id (List.mem_map_of_mem kept.1)
    exact absurd isGone (by simpa using kept.2)
  · obtain ⟨item, isItem, rfl⟩ := List.mem_map.mp isNew
    exact List.le_snd_of_mem_zipIdx isItem

theorem lt_drawn {id : ℕ} (inside : id ∈ codes.ids) : id < codes.drawn := by
  obtain ⟨code, isCode, rfl⟩ := List.mem_map.mp inside
  exact codes.below code isCode

end Commits

/-!
## Calls that do not clash

Where no two calls that clash are under way, what a call has read of its challenge still holds when
it commits, no code that it has seen unused has been accepted since, and the code of a challenge is
the last one sent unless a new one is under way.
-/

open Runtime (strip lower)

section Sound

variable {Thread : Type} {environment : Environment} {user : User} {shared : Shared Thread}
  {thread : Thread} {session other : Session}

/-- What a call under way has read still holds. -/
structure Current (environment : Environment) (user : User) (shared : Shared Thread)
    (session : Session) : Prop where
  accepted : session.Accepted environment user
  challenge : ∀ name, session.factor.challenge environment = some name →
    shared.records.challenges.find name = session.seen.challenges.find name
  used : ∀ code ∈ session.used environment user, .codeAccepted code.id ∉ shared.log
  codes : session.factor.regenerates = true →
    ∀ id ∈ shared.records.codes.ids, id ∈ session.seen.codes.ids
  mail : ∀ challengeToken, session.factor = .resend challengeToken →
    shared.sent (environment.hashToken challengeToken) =
      some (environment.hashToken session.call.emailCode)

/-- A new mail has been sent for a challenge, and its code has not been committed. -/
def Resending (environment : Environment) (shared : Shared Thread) (challenge : String) : Prop :=
  ∃ thread, ∃ session ∈ shared.sessions thread, ∃ challengeToken,
    session.factor = .resend challengeToken ∧ environment.hashToken challengeToken = challenge

/-- What holds as long as no two calls clash. -/
structure Sound (environment : Environment) (user : User) (shared : Shared Thread) : Prop where
  current : ∀ thread, ∀ session ∈ shared.sessions thread, Current environment user shared session
  apart : ∀ thread other, thread ≠ other → ∀ session ∈ shared.sessions thread,
    ∀ otherSession ∈ shared.sessions other, ¬ session.Clashes environment user otherSession
  issued : ∀ challenge, .issued challenge ∈ shared.log →
    ∀ row ∈ shared.records.challenges.find challenge, row.consumedAt ≠ none
  accepted : ∀ id, .codeAccepted id ∈ shared.log → id < shared.records.codes.drawn ∧
    ∀ code ∈ shared.records.codes.rows, code.id = id → code.row.usedAt ≠ none
  replaced : ∀ id, .codeReplaced id ∈ shared.log →
    id < shared.records.codes.drawn ∧ id ∉ shared.records.codes.ids
  mails : ∀ challenge, ∀ row ∈ shared.records.challenges.find challenge,
    Resending environment shared challenge ∨ row.emailOtpHash = none ∨
      row.emailOtpHash = shared.sent challenge
  law : OneTime shared

theorem sound_start {records : Records} :
    Sound environment user (Shared.start records : Shared Thread) where
  current := fun _ _ inside => nomatch inside
  apart := fun _ _ _ _ inside => nomatch inside
  issued := nofun
  accepted := nofun
  replaced := nofun
  mails := by
    intro challenge row found
    apply Or.inr
    apply Or.inr
    dsimp only [Shared.start] at found ⊢
    rw [Option.mem_def.mp found, Option.bind_some]
  law := ⟨List.Pairwise.nil, nofun⟩

theorem Session.Clashes.symm (clashes : session.Clashes environment user other) :
    other.Clashes environment user session := by
  rcases clashes with ⟨challenge, left, right⟩ | ⟨left, right⟩ | ⟨id, left, right⟩
  · exact .inl ⟨challenge, right, left⟩
  · exact .inr (.inl ⟨right, left⟩)
  · exact .inr (.inr ⟨id, right, left⟩)

variable {factor : Factor}

variable {call : Call}

theorem begins_eq_some
    (begins : shared.begins environment user thread call factor = some session) :
    session = ⟨shared.records, call, factor⟩ ∧ shared.sessions thread = none ∧
      session.Accepted environment user := by
  dsimp only [Shared.begins] at begins
  split at begins
  next free =>
    obtain rfl := Option.some.inj begins
    exact ⟨rfl, free.1, free.2⟩
  · exact nomatch begins

theorem Sound.used_new (sound : Sound environment user shared)
    (accepted : session.Accepted environment user) (seen : session.seen = shared.records) :
    ∀ code ∈ session.used environment user, .codeAccepted code.id ∉ shared.log := by
  intro code isUsed logged
  rcases used_cases accepted with nothing | ⟨old, inside, unused, one⟩
  · rw [nothing] at isUsed
    exact nomatch isUsed
  · rw [one, List.mem_singleton] at isUsed
    rw [seen] at inside
    rw [isUsed] at logged
    exact (sound.accepted old.id logged).2 old inside rfl unused

theorem commit_eq_some {current later : Records}
    (commits : session.commit environment user current = some later) :
    later.challenges = session.challenges environment user current ∧
      if session.factor.regenerates then
        later.codes = current.codes.replace session.seen.codes.ids
          (session.outcome environment user).2.backupCodes
      else
        later.codes = current.codes.mark (session.used environment user) ∧
          ∀ code ∈ session.used environment user, code.id ∈ current.codes.ids := by
  unfold Session.commit Session.codes at commits
  obtain ⟨codes, isCodes, rfl⟩ := Option.map_eq_some_iff.mp commits
  refine ⟨rfl, ?_⟩
  dsimp only at isCodes ⊢
  split
  next regenerates =>
    rw [if_pos regenerates] at isCodes
    exact (Option.some.inj isCodes).symm
  next keeps =>
    rw [if_neg keeps] at isCodes
    split at isCodes
    next present => exact ⟨(Option.some.inj isCodes).symm, present⟩
    · exact nomatch isCodes

section Events

variable (environment : Environment) (user : User) (session : Session) (current : Records)
  (sent : String → Option String)

/-- What the log says of the call that has committed. -/
def Event.Logged : Event → Prop
  | .issued challenge => ∃ challengeToken method code context scope,
    session.factor = .verifyChallenge challengeToken method code context scope ∧
      environment.hashToken challengeToken = challenge
  | .codeAccepted id => ∃ code ∈ session.used environment user, code.id = id
  | .codeReplaced id => session.factor.regenerates = true ∧ id ∈ current.codes.ids
  | .emailAccepted challenge accepted lastSent => ∃ challengeToken method code context scope,
    session.factor = .verifyChallenge challengeToken method code context scope ∧
      environment.hashToken challengeToken = challenge ∧ lower (strip method) = "email_otp" ∧
      accepted = emailHash environment code ∧ lastSent = sent challenge

variable {environment user session current sent} {event : Event}

theorem logged_of_mem (inside : event ∈ session.events environment user current sent) :
    event.Logged environment user session current sent := by
  have ofUsed : event ∈ (session.used environment user).map (fun code => .codeAccepted code.id) →
      event.Logged environment user session current sent := by
    intro isUsed
    obtain ⟨code, isCode, rfl⟩ := List.mem_map.mp isUsed
    exact ⟨code, isCode, rfl⟩
  unfold Session.events at inside
  cases isFactor : session.factor with
  | verifyChallenge challengeToken method code context scope =>
    rw [isFactor] at inside
    rcases List.mem_append.mp inside with front | isIssued
    · rcases List.mem_append.mp front with isMail | isUsed
      · split at isMail
        next isEmail =>
          rw [List.mem_singleton.mp isMail]
          exact ⟨challengeToken, method, code, context, scope, isFactor, rfl, isEmail, rfl, rfl⟩
        · exact nomatch isMail
      · exact ofUsed isUsed
    · rw [List.mem_singleton.mp isIssued]
      exact ⟨challengeToken, method, code, context, scope, isFactor, rfl⟩
  | stepUp method code context scope =>
    rw [isFactor] at inside
    exact ofUsed inside
  | resend challengeToken =>
    rw [isFactor] at inside
    exact nomatch inside
  | regenerate count =>
    rw [isFactor] at inside
    obtain ⟨id, isId, rfl⟩ := List.mem_map.mp inside
    exact ⟨by rw [isFactor]; rfl, isId⟩

end Events

theorem Current.verified (current : Current environment user shared session)
    {challengeToken method code : String} {context : SessionContext} {scope : List String}
    (isVerify : session.factor = .verifyChallenge challengeToken method code context scope) :
    ∃ before after,
      shared.records.challenges.find (environment.hashToken challengeToken) = some before ∧
      before.consumedAt = none ∧
      (lower (strip method) = "email_otp" →
        strip (before.emailOtpHash.getD "") = emailHash environment code) ∧
      (session.challenges environment user shared.records).find
        (environment.hashToken challengeToken) = some after ∧
      after.consumedAt ≠ none ∧
      (after.emailOtpHash = none ∨ after.emailOtpHash = before.emailOtpHash) := by
  have effect := effect_of_accepted current.accepted
  rw [isVerify] at effect
  obtain ⟨_, row, change, found, unconsumed, isCode, clears, consumes, changed⟩ := effect
  have same := current.challenge (environment.hashToken challengeToken) (by rw [isVerify]; rfl)
  obtain ⟨after, isAfter, consumed, code⟩ := find_commit_own clears.token changed same found
  refine ⟨row, after, same.trans found, unconsumed, isCode, isAfter, ?_, ?_⟩
  · rw [consumed, consumes]
    exact Option.some_ne_none _
  · rw [code]
    exact clears.code row

theorem Current.resent (current : Current environment user shared session)
    {challengeToken : String} (isResend : session.factor = .resend challengeToken) :
    ∃ before after,
      shared.records.challenges.find (environment.hashToken challengeToken) = some before ∧
      (session.challenges environment user shared.records).find
        (environment.hashToken challengeToken) = some after ∧
      after.consumedAt = before.consumedAt ∧
      after.emailOtpHash = shared.sent (environment.hashToken challengeToken) := by
  have effect := effect_of_accepted current.accepted
  rw [isResend] at effect
  obtain ⟨_, row, change, found, changes, changed⟩ := effect
  have same := current.challenge (environment.hashToken challengeToken) (by rw [isResend]; rfl)
  obtain ⟨after, isAfter, consumed, code⟩ :=
    find_commit_own (fun other => (changes other).1) changed same found
  refine ⟨row, after, same.trans found, isAfter, consumed.trans (changes row).2.1, ?_⟩
  rw [code, (changes row).2.2, current.mail challengeToken isResend]

variable [DecidableEq Thread]

def sentBy (environment : Environment) (sent : String → Option String) (call : Call) :
    Factor → String → Option String
  | .resend challengeToken => Function.update sent (environment.hashToken challengeToken)
      (some (environment.hashToken call.emailCode))
  | _ => sent

theorem step_begins
    (begins : shared.begins environment user thread call factor = some session) :
    stepShared environment user shared (.reads thread call factor) =
      { shared with
        sessions := Function.update shared.sessions thread (some session)
        sent := sentBy environment shared.sent call factor } := by
  dsimp only [stepShared]
  rw [begins]
  cases factor <;> rfl

theorem sentBy_other {sent : String → Option String}
    {challenge : String} (different : factor.challenge environment ≠ some challenge) :
    sentBy environment sent call factor challenge = sent challenge := by
  cases factor with
  | resend challengeToken =>
    apply Function.update_of_ne
    rintro rfl
    exact different rfl
  | _ => rfl

/-- A call that begins clashes with none that is under way. -/
theorem Sound.begins (sound : Sound environment user shared)
    (begins : shared.begins environment user thread call factor = some session)
    (apart : ∀ thread, ∀ other ∈ shared.sessions thread,
      ¬ session.Clashes environment user other) :
    Sound environment user (stepShared environment user shared (.reads thread call factor)) := by
  obtain ⟨isSession, idle, accepted⟩ := begins_eq_some begins
  have seen : session.seen = shared.records := by rw [isSession]
  have isFactor : session.factor = factor := by rw [isSession]
  have isCall : session.call = call := by rw [isSession]
  have underWay : ∀ other, other ≠ thread → ∀ otherSession,
      Function.update shared.sessions thread (some session) other = some otherSession →
        shared.sessions other = some otherSession := by
    intro other different otherSession isOther
    rwa [Function.update_of_ne different] at isOther
  have sentOther : ∀ otherThread, ∀ otherSession ∈ shared.sessions otherThread, ∀ challenge,
      otherSession.factor.challenge environment = some challenge →
        sentBy environment shared.sent call factor challenge = shared.sent challenge := by
    intro otherThread otherSession isOther challenge isAbout
    apply sentBy_other
    intro same
    exact apart otherThread otherSession isOther (.inl ⟨challenge, isFactor ▸ same, isAbout⟩)
  rw [step_begins begins]
  constructor
  · intro other otherSession isOther
    dsimp only at isOther
    by_cases self : other = thread
    · rw [self, Function.update_self] at isOther
      obtain rfl := Option.mem_some_iff.mp isOther
      refine ⟨accepted, fun name _ => by rw [seen], sound.used_new accepted seen,
        fun _ id inside => by rwa [seen], ?_⟩
      intro challengeToken isResend
      rw [isFactor] at isResend
      rw [isResend, isCall]
      exact Function.update_self ..
    · have before := underWay other self otherSession isOther
      have current := sound.current other otherSession before
      refine ⟨current.accepted, current.challenge, current.used, current.codes, ?_⟩
      intro challengeToken isResend
      rw [← current.mail challengeToken isResend]
      exact sentOther other otherSession before _ (by rw [isResend]; rfl)
  · intro first second different firstSession isFirst secondSession isSecond
    dsimp only at isFirst isSecond
    by_cases self : first = thread
    · have otherThread : second ≠ thread := fun same => different (self.trans same.symm)
      rw [self, Function.update_self] at isFirst
      obtain rfl := Option.mem_some_iff.mp isFirst
      exact apart second secondSession (underWay second otherThread secondSession isSecond)
    · have before := underWay first self firstSession isFirst
      by_cases otherSelf : second = thread
      · rw [otherSelf, Function.update_self] at isSecond
        obtain rfl := Option.mem_some_iff.mp isSecond
        exact fun clashes => apart first firstSession before clashes.symm
      · exact sound.apart first second different firstSession before secondSession
          (underWay second otherSelf secondSession isSecond)
  · exact sound.issued
  · exact sound.accepted
  · exact sound.replaced
  · intro challenge row found
    by_cases resends : ∃ challengeToken, factor = .resend challengeToken ∧
        environment.hashToken challengeToken = challenge
    · obtain ⟨challengeToken, isResend, named⟩ := resends
      exact .inl ⟨thread, session, Function.update_self .., challengeToken,
        isFactor.trans isResend, named⟩
    · rcases sound.mails challenge row found with resending | settled
      · obtain ⟨other, otherSession, isOther, about⟩ := resending
        have different : other ≠ thread := by
          rintro rfl
          rw [idle] at isOther
          exact nomatch isOther
        refine .inl ⟨other, otherSession, ?_, about⟩
        dsimp only
        rwa [Function.update_of_ne different]
      · have same : sentBy environment shared.sent call factor challenge =
            shared.sent challenge := by
          cases factor with
          | resend challengeToken =>
            apply Function.update_of_ne
            exact fun named => resends ⟨challengeToken, rfl, named.symm⟩
          | _ => rfl
        dsimp only
        rw [same]
        exact .inr settled
  · exact ⟨sound.law.once, sound.law.last⟩

end Sound

end Mfa
