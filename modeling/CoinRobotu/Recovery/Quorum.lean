import Mathlib.Data.List.Dedup
import Mathlib.Data.Int.Order.Basic
import Mathlib.Order.Nat
import CoinRobotu.Interleaving.Calls
import CoinRobotu.Recovery.Voting

/-!
# The quorum of a recovery request

The number on a request is at most that of the committed votes for it, however the sessions
interleave: a session counts the votes that it sees, and its own one is committed with the number.
So a finalized request has as many votes as are required, and its delay was over. The votes are of
different users as long as no administrator approves a request in two sessions at a time.
-/

namespace Recovery

open Interleaving

variable {Thread : Type} {database later : Database Thread} {requestId : String}

section Votes

/-- A request is finalized only once its delay is over and as many votes as required have been
given. -/
def QuorumMet (database : Database Thread) : Prop :=
  ∀ row ∈ database.requests.rows, row.status = .finalized ∨ row.finalizedAt.isSome →
    ∃ time ∈ row.finalizedAt, row.readyAfter ≤ time ∧
      row.requiredApprovals ≤ (database.votesFor row.id).length

/-- The number and the finalization of a row agree with the number of the votes for it. -/
structure RowSound (votes : ℕ) (row : MfaRecoveryRequest) : Prop where
  count : row.approvalCount ≤ votes
  status : row.status = .finalized → row.finalizedAt.isSome
  final : ∀ time ∈ row.finalizedAt, row.readyAfter ≤ time ∧ quorum row.requiredApprovals ≤ votes

/-- What a session has read and counted agrees with what is committed. -/
def SessionSound (database : Database Thread) : Session → Prop
  | .inserted row vote => vote.recoveryRequestId = row.id
  | .counted row vote voteCount =>
    vote.recoveryRequestId = row.id ∧ voteCount ≤ (database.votesFor row.id).length + 1
  | .finalizing row _ now =>
    ∃ current, database.requests.find row.id = some current ∧ current.readyAfter ≤ now ∧
      quorum current.requiredApprovals ≤ (database.votesFor row.id).length
  | _ => True

structure Sound (database : Database Thread) : Prop where
  rows : ∀ requestId row, database.requests.find requestId = some row →
    RowSound (database.votesFor requestId).length row
  sessions : ∀ thread, SessionSound database (database.sessions thread)

theorem sound_empty : Sound (Database.empty : Database Thread) where
  rows := nofun
  sessions := fun _ => trivial

theorem le_quorum {required : ℤ} : required ≤ quorum required := by
  unfold quorum
  split
  · omega
  · exact le_max_right _ _

theorem Sound.quorumMet (sound : Sound database) : QuorumMet database := by
  intro row inside final
  have rowSound := sound.rows row.id row (Keyed.Table.find_of_mem inside)
  have finalized : row.finalizedAt.isSome := by
    rcases final with isFinal | isSome
    · exact rowSound.status isFinal
    · exact isSome
  obtain ⟨time, isTime⟩ := Option.isSome_iff_exists.mp finalized
  obtain ⟨ready, enough⟩ := rowSound.final time isTime
  exact ⟨time, isTime, ready, le_quorum.trans enough⟩

/-- Votes have been added, and rows keep their delay and the number of approvals that they
require. -/
structure Extends (database later : Database Thread) : Prop where
  votes : ∀ requestId, (database.votesFor requestId).length ≤ (later.votesFor requestId).length
  rows : ∀ requestId row, database.requests.find requestId = some row →
    ∃ other, later.requests.find requestId = some other ∧ other.readyAfter = row.readyAfter ∧
      other.requiredApprovals = row.requiredApprovals

theorem SessionSound.extends {session : Session} (sound : SessionSound database session)
    (extend : Extends database later) : SessionSound later session := by
  cases session with
  | inserted row vote => exact sound
  | counted row vote voteCount =>
    exact ⟨sound.1, sound.2.trans (Nat.succ_le_succ (extend.votes row.id))⟩
  | finalizing row finalizer now =>
    obtain ⟨current, found, ready, enough⟩ := sound
    obtain ⟨other, otherFound, sameDelay, sameRequired⟩ := extend.rows row.id current found
    refine ⟨other, otherFound, sameDelay ▸ ready, ?_⟩
    rw [sameRequired]
    exact enough.trans (Int.ofNat_le.mpr (extend.votes row.id))
  | _ => trivial

theorem Sound.extends (sound : Sound database) (extend : Extends database later)
    (sameSessions : later.sessions = database.sessions)
    (rows : ∀ requestId row, later.requests.find requestId = some row →
      RowSound (later.votesFor requestId).length row) : Sound later where
  rows := rows
  sessions := by
    intro thread
    rw [sameSessions]
    exact (sound.sessions thread).extends extend

variable {row : MfaRecoveryRequest}

theorem Sound.insert (sound : Sound database)
    (fresh : row.id ∉ database.requests.rows.map MfaRecoveryRequest.id)
    (new : ∀ votes, RowSound votes row) :
    Sound { database with requests := database.requests.insert row fresh } := by
  have isNew : ∀ requestId other, database.requests.find requestId = some other →
      row.id ≠ requestId := by
    intro requestId other found same
    apply fresh
    rw [same, ← Keyed.Table.key_of_find found]
    exact List.mem_map_of_mem (List.mem_of_find?_eq_some found)
  apply sound.extends
  · refine ⟨fun _ => le_rfl, fun requestId other found => ⟨other, ?_, rfl, rfl⟩⟩
    rw [Keyed.Table.find_insert, if_neg (isNew requestId other found)]
    exact found
  · rfl
  · intro requestId other found
    rw [Keyed.Table.find_insert] at found
    split at found
    · obtain rfl := Option.some.inj found
      exact new _
    · exact sound.rows requestId other found

theorem extends_modify {change : MfaRecoveryRequest → MfaRecoveryRequest}
    {keeps : ∀ row, (change row).id = row.id} {votes : List MfaRecoveryApprovalVote}
    (sameDelay : ∀ row, (change row).readyAfter = row.readyAfter)
    (sameRequired : ∀ row, (change row).requiredApprovals = row.requiredApprovals) :
    Extends database { database with
      requests := database.requests.modify requestId change keeps
      votes := database.votes ++ votes } where
  votes := by
    intro other
    unfold Database.votesFor
    rw [List.filter_append, List.length_append]
    exact Nat.le_add_right _ _
  rows := by
    intro other row found
    dsimp only
    rw [Keyed.Table.find_modify, found]
    split
    · exact ⟨change row, rfl, sameDelay row, sameRequired row⟩
    · exact ⟨row, rfl, rfl, rfl⟩

theorem RowSound.mono {votes more : ℕ} (sound : RowSound votes row)
    (grows : votes ≤ more) : RowSound more row where
  count := sound.count.trans grows
  status := sound.status
  final := fun time isTime =>
    ⟨(sound.final time isTime).1, (sound.final time isTime).2.trans (Int.ofNat_le.mpr grows)⟩

theorem RowSound.approve {votes voteCount : ℕ} {row loaded : MfaRecoveryRequest}
    (sound : RowSound votes row) (counted : voteCount ≤ votes) :
    RowSound votes (row.approve loaded voteCount) where
  count := by
    unfold MfaRecoveryRequest.approve
    dsimp only
    split
    · exact sound.count
    · exact counted
  status := by
    unfold MfaRecoveryRequest.approve
    dsimp only
    split
    · exact nofun
    · exact sound.status
  final := sound.final

variable {finalizer : String}

theorem RowSound.finalize {votes : ℕ} {now : ℤ}
    (sound : RowSound votes row) (ready : row.readyAfter ≤ now)
    (enough : quorum row.requiredApprovals ≤ votes) :
    RowSound votes (row.finalize finalizer now) where
  count := sound.count
  status := fun _ => rfl
  final := by
    intro time isTime
    obtain rfl := Option.mem_some_iff.mp isTime
    exact ⟨ready, enough⟩

variable [DecidableEq Thread] {thread : Thread} {session : Session}

@[simp] theorem move_self : (database.move thread session).sessions thread = session :=
  Function.update_self ..

theorem move_other {other : Thread} (apart : other ≠ thread) :
    (database.move thread session).sessions other = database.sessions other :=
  Function.update_of_ne apart ..

variable (sound : Sound database)

include sound

theorem Sound.move (sessionSound : SessionSound database session) :
    Sound (database.move thread session) where
  rows := sound.rows
  sessions := by
    intro other
    by_cases same : other = thread
    · rw [same, move_self]
      exact sessionSound
    · rw [move_other same]
      exact sound.sessions other

theorem Sound.load {approver : String} {note : Option String} :
    Sound (database.load thread requestId approver note) := by
  unfold Database.load
  cases database.requests.find requestId with
  | none => exact sound
  | some row =>
    dsimp only
    split
    · exact sound
    · exact sound.move trivial

theorem Sound.loadFinal {now : ℤ} :
    Sound (database.loadFinal thread requestId finalizer now) := by
  unfold Database.loadFinal
  cases found : database.requests.find requestId with
  | none => exact sound
  | some row =>
    dsimp only
    by_cases refused : (finalizeRefusal now (some row)).isSome ∨ row.status = .finalized
    · rw [if_pos refused]
      exact sound
    · rw [if_neg refused]
      have accepted : ¬ (finalizeRefusal now (some row)).isSome :=
        fun isSome => refused (.inl isSome)
      have enough : quorum row.requiredApprovals ≤ row.approvalCount := by
        by_contra few
        simp [finalizeRefusal, not_le.mp few] at accepted
      have ready : row.readyAfter ≤ now := by
        by_contra early
        simp [finalizeRefusal, not_lt.mpr enough, not_le.mp early] at accepted
      have named : row.id = requestId := Keyed.Table.key_of_find found
      have counted := (sound.rows requestId row found).count
      apply sound.move
      rw [← named] at found counted
      exact ⟨row, found, ready, enough.trans (Int.ofNat_le.mpr counted)⟩

theorem Sound.commit_counted {vote : MfaRecoveryApprovalVote} {voteCount : ℕ}
    (isCounted : SessionSound database (.counted row vote voteCount)) :
    Sound (database.commit thread (.counted row vote voteCount)) := by
  obtain ⟨named, counted⟩ := isCounted
  refine Sound.move (sound.extends (extends_modify (fun _ => rfl) fun _ => rfl) rfl ?_) trivial
  intro requestId other found
  have grown : database.votesFor requestId ++ [vote].filter (·.recoveryRequestId = requestId) =
      (database.votes ++ [vote]).filter (·.recoveryRequestId = requestId) :=
    (List.filter_append ..).symm
  have longer : (database.votesFor requestId).length ≤
      ((database.votes ++ [vote]).filter (·.recoveryRequestId = requestId)).length := by
    rw [← grown, List.length_append]
    exact Nat.le_add_right _ _
  dsimp only at found
  rw [Keyed.Table.find_modify] at found
  by_cases same : requestId = row.id
  · rw [if_pos same] at found
    obtain ⟨current, isCurrent, rfl⟩ := Option.map_eq_some_iff.mp found
    apply ((sound.rows requestId current isCurrent).mono longer).approve
    rw [← grown, same, List.filter_cons_of_pos (by simpa using named), List.filter_nil,
      List.length_append]
    exact counted
  · rw [if_neg same] at found
    exact (sound.rows requestId other found).mono longer

theorem Sound.commit_finalizing {now : ℤ}
    (isReady : SessionSound database (.finalizing row finalizer now)) :
    Sound (database.commit thread (.finalizing row finalizer now)) := by
  obtain ⟨current, isCurrent, ready, enough⟩ := isReady
  have extend : Extends database { database with
      requests := database.requests.modify row.id (·.finalize finalizer now) fun _ =>
        MfaRecoveryRequest.finalize_id } := by
    have extended := @extends_modify _ database row.id (·.finalize finalizer now)
      (fun other => @MfaRecoveryRequest.finalize_id other finalizer now) [] (fun _ => rfl)
      fun _ => rfl
    rwa [List.append_nil] at extended
  refine Sound.move (sound.extends extend rfl ?_) trivial
  intro requestId other found
  dsimp only at found
  rw [Keyed.Table.find_modify] at found
  by_cases same : requestId = row.id
  · rw [if_pos same, same, isCurrent] at found
    obtain rfl := Option.some.inj found
    rw [same]
    exact (sound.rows row.id current isCurrent).finalize ready enough
  · rw [if_neg same] at found
    exact sound.rows requestId other found

/-- No step writes a number of approvals that is above that of the votes. -/
theorem Sound.step (action : Action Thread) :
    Sound (step database action) := by
  cases action with
  | creates id targetUserId requestedByUserId reason requiredApprovals delayMinutes now =>
    dsimp only [Recovery.step]
    split
    · apply sound.insert
      intro votes
      exact ⟨Nat.zero_le _, nofun, nofun⟩
    · exact sound
  | approves thread requestId approver note =>
    dsimp only [Recovery.step]
    cases database.sessions thread with
    | idle => exact sound.load
    | _ => exact sound
  | looks thread =>
    dsimp only [Recovery.step]
    cases database.sessions thread with
    | loaded row approver note =>
      dsimp only
      split
      · exact sound.move trivial
      · exact sound.move trivial
    | _ => exact sound
  | inserts thread =>
    dsimp only [Recovery.step]
    cases database.sessions thread with
    | voteless row approver note => exact sound.move rfl
    | _ => exact sound
  | recounts thread =>
    have sessionSound := sound.sessions thread
    dsimp only [Recovery.step]
    cases isSession : database.sessions thread with
    | inserted row vote =>
      rw [isSession] at sessionSound
      exact sound.move ⟨sessionSound, le_rfl⟩
    | _ => exact sound
  | finalizes thread requestId finalizer now =>
    dsimp only [Recovery.step]
    cases database.sessions thread with
    | idle => exact sound.loadFinal
    | _ => exact sound
  | commits thread =>
    have sessionSound := sound.sessions thread
    dsimp only [Recovery.step]
    cases isSession : database.sessions thread with
    | counted row vote voteCount =>
      rw [isSession] at sessionSound
      exact sound.commit_counted sessionSound
    | finalizing row finalizer now =>
      rw [isSession] at sessionSound
      exact sound.commit_finalizing sessionSound
    | _ => exact sound
  | rollsBack thread => exact sound.move trivial

end Votes

section Users

def Database.approvers (database : Database Thread) (requestId : String) : List String :=
  ((database.votesFor requestId).map MfaRecoveryApprovalVote.approverUserId).dedup

/-- A request is finalized only once its delay is over and as many different users as required have
approved it. -/
def ApprovedByUsers (database : Database Thread) : Prop :=
  ∀ row ∈ database.requests.rows, row.status = .finalized ∨ row.finalizedAt.isSome →
    ∃ time ∈ row.finalizedAt, row.readyAfter ≤ time ∧
      row.requiredApprovals ≤ (database.approvers row.id).length

/-- The users who have approved a finalized request are moreover others than the one who is
recovered. -/
def ApprovedByOthers (database : Database Thread) : Prop :=
  ApprovedByUsers database ∧
    ∀ row ∈ database.requests.rows, row.status = .finalized →
      row.userId ∉ database.approvers row.id

def MfaRecoveryApprovalVote.pair (vote : MfaRecoveryApprovalVote) : String × String :=
  (vote.recoveryRequestId, vote.approverUserId)

def Session.approving : Session → Option (String × String)
  | .loaded row approver _ | .voteless row approver _ => some (row.id, approver)
  | .inserted _ vote | .counted _ vote _ => some vote.pair
  | _ => none

/-- The request and the approver of a session that has found no vote of the approver. -/
def Session.unseen : Session → Option (String × String)
  | .voteless row approver _ => some (row.id, approver)
  | .inserted _ vote | .counted _ vote _ => some vote.pair
  | _ => none

/-- An administrator approves a request in one session at a time. -/
def AloneApproving (database : Database Thread) : Action Thread → Prop
  | .approves thread requestId approver _ =>
    ∀ other, other ≠ thread → (database.sessions other).approving ≠ some (requestId, approver)
  | _ => True

/-- No two votes for a request are of one approver, no two sessions approve for one, and the vote
of a session that has found none is still missing. -/
structure Apart (database : Database Thread) : Prop where
  votes : (database.votes.map MfaRecoveryApprovalVote.pair).Nodup
  sessions : ∀ thread other pair, (database.sessions thread).approving = some pair →
    (database.sessions other).approving = some pair → thread = other
  unseen : ∀ thread pair, (database.sessions thread).unseen = some pair →
    pair ∉ database.votes.map MfaRecoveryApprovalVote.pair

theorem apart_empty : Apart (Database.empty : Database Thread) where
  votes := List.nodup_nil
  sessions := nofun
  unseen := nofun

theorem approving_of_unseen {session : Session} {pair : String × String}
    (unseen : session.unseen = some pair) : session.approving = some pair := by
  cases session with
  | voteless | inserted | counted => exact unseen
  | _ => exact nomatch unseen

theorem Apart.length_approvers (apart : Apart database) :
    (database.approvers requestId).length = (database.votesFor requestId).length := by
  have pairs : ((database.votesFor requestId).map MfaRecoveryApprovalVote.pair).Nodup :=
    apart.votes.sublist (List.filter_sublist.map _)
  have users :
      ((database.votesFor requestId).map MfaRecoveryApprovalVote.approverUserId).Nodup := by
    apply (List.nodup_map_iff_inj_on pairs.of_map).mpr
    intro vote inside other otherInside same
    have named : vote.recoveryRequestId = requestId := by
      simpa using (List.mem_filter.mp inside).2
    have otherNamed : other.recoveryRequestId = requestId := by
      simpa using (List.mem_filter.mp otherInside).2
    have samePair : vote.pair = other.pair := Prod.ext (named.trans otherNamed.symm) same
    exact List.inj_on_of_nodup_map pairs inside otherInside samePair
  unfold Database.approvers
  rw [users.dedup, List.length_map]

theorem Apart.approvedByUsers (apart : Apart database) (sound : Sound database) :
    ApprovedByUsers database := by
  intro row inside final
  rw [apart.length_approvers]
  exact sound.quorumMet row inside final

theorem Apart.alone (apart : Apart database) {thread : Thread} {pair : String × String}
    (approving : (database.sessions thread).approving = some pair) :
    ∀ other, other ≠ thread → (database.sessions other).approving ≠ some pair :=
  fun other different otherApproving =>
    different (apart.sessions other thread pair otherApproving approving)

variable [DecidableEq Thread] {thread : Thread} {session : Session}

section Apart

variable (apart : Apart database)

include apart

/-- A session that approves for nobody but whom it has approved for, or for whom no other does,
leaves the sessions apart. -/
theorem Apart.move (alone : ∀ pair other, session.approving = some pair → other ≠ thread →
      (database.sessions other).approving ≠ some pair)
    (unseen : ∀ pair, session.unseen = some pair →
      pair ∉ database.votes.map MfaRecoveryApprovalVote.pair) :
    Apart (database.move thread session) where
  votes := apart.votes
  sessions := by
    intro first second pair firstApproving secondApproving
    by_cases isFirst : first = thread
    · by_cases isSecond : second = thread
      · exact isFirst.trans isSecond.symm
      · rw [isFirst, move_self] at firstApproving
        rw [move_other isSecond] at secondApproving
        exact absurd secondApproving (alone pair second firstApproving isSecond)
    · rw [move_other isFirst] at firstApproving
      by_cases isSecond : second = thread
      · rw [isSecond, move_self] at secondApproving
        exact absurd firstApproving (alone pair first secondApproving isFirst)
      · rw [move_other isSecond] at secondApproving
        exact apart.sessions first second pair firstApproving secondApproving
  unseen := by
    intro other pair isUnseen
    by_cases same : other = thread
    · rw [same, move_self] at isUnseen
      exact unseen pair isUnseen
    · rw [move_other same] at isUnseen
      exact apart.unseen other pair isUnseen

theorem Apart.move_ended (ended : session.approving = none) :
    Apart (database.move thread session) := by
  have notUnseen : session.unseen = none := by
    cases isUnseen : session.unseen with
    | none => rfl
    | some pair =>
      rw [approving_of_unseen isUnseen] at ended
      exact nomatch ended
  apply apart.move
  · intro pair other approving
    rw [ended] at approving
    exact nomatch approving
  · intro pair unseen
    rw [notUnseen] at unseen
    exact nomatch unseen

theorem Apart.commit_counted {row : MfaRecoveryRequest}
    {vote : MfaRecoveryApprovalVote} {voteCount : ℕ}
    (isCounted : database.sessions thread = .counted row vote voteCount) :
    Apart (database.commit thread (.counted row vote voteCount)) := by
  have approving : (database.sessions thread).approving = some vote.pair := by rw [isCounted]; rfl
  have alone := apart.alone approving
  have new : vote.pair ∉ database.votes.map MfaRecoveryApprovalVote.pair := by
    apply apart.unseen thread
    rw [isCounted]
    rfl
  constructor
  · dsimp only [Database.commit, Database.move]
    rw [List.map_append, List.map_singleton]
    exact apart.votes.append (List.nodup_singleton _) (by simpa using new)
  · exact (@Apart.move_ended _ _ _ thread .idle apart rfl).sessions
  · intro other pair unseen inside
    by_cases same : other = thread
    · rw [same] at unseen
      exact nomatch (congrArg Session.unseen move_self.symm).trans unseen
    · have isUnseen : (database.sessions other).unseen = some pair :=
        (congrArg Session.unseen (move_other same).symm).trans unseen
      dsimp only [Database.commit, Database.move] at inside
      rw [List.map_append, List.map_singleton, List.mem_append, List.mem_singleton] at inside
      rcases inside with before | rfl
      · exact apart.unseen other pair isUnseen before
      · exact alone other same (approving_of_unseen isUnseen)

/-- No step makes two votes of one approver, if nobody begins to approve a request twice at a
time. -/
theorem Apart.step (action : Action Thread)
    (alone : AloneApproving database action) : Apart (step database action) := by
  cases action with
  | creates id targetUserId requestedByUserId reason requiredApprovals delayMinutes now =>
    dsimp only [Recovery.step]
    split
    · exact ⟨apart.votes, apart.sessions, apart.unseen⟩
    · exact apart
  | approves thread requestId approver note =>
    dsimp only [Recovery.step]
    cases database.sessions thread with
    | idle =>
      dsimp only [Database.load]
      cases found : database.requests.find requestId with
      | none => exact apart
      | some row =>
        have named : row.id = requestId := Keyed.Table.key_of_find found
        dsimp only
        split
        · exact apart
        · apply apart.move
          · intro pair other approving different
            obtain rfl := Option.some.inj approving
            rw [named]
            exact alone other different
          · exact nofun
    | _ => exact apart
  | looks thread =>
    have goesOn := @Apart.alone _ _ apart thread
    dsimp only [Recovery.step]
    cases isSession : database.sessions thread with
    | loaded row approver note =>
      rw [isSession] at goesOn
      dsimp only
      by_cases hasVoted : (database.votesFor row.id).any (·.approverUserId = approver)
      · rw [if_pos hasVoted]
        exact apart.move_ended rfl
      · rw [if_neg hasVoted]
        apply apart.move
        · intro pair other approving different
          exact goesOn approving other different
        · intro pair unseen inside
          obtain rfl := Option.some.inj unseen
          obtain ⟨vote, isVote, isPair⟩ := List.mem_map.mp inside
          obtain ⟨sameRequest, sameApprover⟩ := Prod.mk.inj isPair
          apply hasVoted
          rw [List.any_eq_true]
          exact ⟨vote, List.mem_filter.mpr ⟨isVote, by simpa using sameRequest⟩,
            by simpa using sameApprover⟩
    | _ => exact apart
  | inserts thread =>
    have goesOn := @Apart.alone _ _ apart thread
    have missing := apart.unseen thread
    dsimp only [Recovery.step]
    cases isSession : database.sessions thread with
    | voteless row approver note =>
      rw [isSession] at goesOn missing
      exact apart.move (fun pair other approving => goesOn approving other) missing
    | _ => exact apart
  | recounts thread =>
    have goesOn := @Apart.alone _ _ apart thread
    have missing := apart.unseen thread
    dsimp only [Recovery.step]
    cases isSession : database.sessions thread with
    | inserted row vote =>
      rw [isSession] at goesOn missing
      exact apart.move (fun pair other approving => goesOn approving other) missing
    | _ => exact apart
  | finalizes thread requestId finalizer now =>
    dsimp only [Recovery.step]
    cases database.sessions thread with
    | idle =>
      dsimp only [Database.loadFinal]
      cases database.requests.find requestId with
      | none => exact apart
      | some row =>
        dsimp only
        split
        · exact apart
        · exact apart.move_ended rfl
    | _ => exact apart
  | commits thread =>
    dsimp only [Recovery.step]
    cases isSession : database.sessions thread with
    | counted row vote voteCount => exact apart.commit_counted isSession
    | finalizing row finalizer now =>
      dsimp only [Database.commit]
      exact Apart.move_ended ⟨apart.votes, apart.sessions, apart.unseen⟩ rfl
    | _ => exact apart
  | rollsBack thread => exact apart.move_ended rfl

end Apart

/-- However the sessions interleave, a request is finalized only after its delay and with as many
votes as are required. They are of as many users if no administrator approves a request in two
sessions at a time. -/
theorem finalized_by_quorum {actions : List (Action Thread)} :
    Throughout step QuorumMet Database.empty actions ∧
      (EachMeets step AloneApproving Database.empty actions →
        Throughout step ApprovedByUsers Database.empty actions) := by
  constructor
  · intro earlier later split
    have sound : Sound (afterAll step Database.empty earlier) :=
      afterAll_keeps sound_empty fun _ action sound => sound.step action
    exact sound.quorumMet
  · intro each
    have initially : Sound (Database.empty : Database Thread) ∧
        Apart (Database.empty : Database Thread) := ⟨sound_empty, apart_empty⟩
    have kept : ∀ (database : Database Thread) (action : Action Thread),
        Sound database ∧ Apart database → AloneApproving database action →
          Sound (step database action) ∧ Apart (step database action) :=
      fun _ action invariant alone =>
        ⟨invariant.1.step action, invariant.2.step action alone⟩
    exact throughout_of_each initially
      (fun _ invariant => invariant.2.approvedByUsers invariant.1) kept each

/-- The user who is recovered and an administrator approve a request one after the other. -/
def selfApproval : List (Action Unit) :=
  let approval (approver : String) : List (Action Unit) :=
    [.approves () "request" approver none, .looks (), .inserts (), .recounts (), .commits ()]
  .creates "request" "user" "admin" "lost phone" 2 15 0 :: approval "user" ++ approval "admin" ++
    [.finalizes () "request" "admin" 900000000, .commits ()]

def doubleApproval : List (Action Bool) :=
  let both (action : Bool → Action Bool) : List (Action Bool) := [action true, action false]
  let rest (thread : Bool) : List (Action Bool) := [.recounts thread, .commits thread]
  .creates "request" "user" "admin" "lost phone" 2 15 0 ::
    both (.approves · "request" "admin" none) ++ both .looks ++ both .inserts ++ rest true ++
    rest false ++ [.finalizes true "request" "admin" 900000000, .commits true]

theorem finalized_by_quorum_example :
    Throughout step QuorumMet Database.empty selfApproval ∧
      Throughout step ApprovedByUsers Database.empty selfApproval := by
  have each : EachMeets step AloneApproving Database.empty selfApproval := by
    intro earlier action later split
    cases action with
    | approves thread requestId approver note => exact fun other different => absurd rfl different
    | _ => trivial
  exact ⟨finalized_by_quorum.1, finalized_by_quorum.2 each⟩

/-- The recovered user is one of those who approved. -/
theorem recovered_user_approves :
    ¬ Throughout step ApprovedByOthers Database.empty selfApproval ∧
      ¬ Throughout step ApprovedByUsers Database.empty doubleApproval := by
  constructor
  · intro throughout
    have finalized := (throughout selfApproval [] rfl).2
    have others : ∀ row ∈ (afterAll step Database.empty selfApproval).requests.rows,
        row.status ≠ .finalized ∨
          row.userId ∉ (afterAll step Database.empty selfApproval).approvers row.id :=
      fun row inside => Decidable.not_or_of_imp (finalized row inside)
    revert others
    decide
  · intro throughout
    have finalized := throughout doubleApproval [] rfl
    have enough : ∀ row ∈ (afterAll step Database.empty doubleApproval).requests.rows,
        row.status ≠ .finalized ∨ row.requiredApprovals ≤
          ((afterAll step Database.empty doubleApproval).approvers row.id).length := by
      intro row inside
      by_cases isFinal : row.status = .finalized
      · obtain ⟨time, isTime, ready, users⟩ := finalized row inside (.inl isFinal)
        exact .inr users
      · exact .inl isFinal
    revert enough
    decide

end Users

end Recovery
