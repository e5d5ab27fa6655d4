import Mathlib.Data.Int.Notation
import CoinRobotu.Keyed.Table

/-!
# Recovery requests and the votes for them

An administrator approves a recovery request in a session: the row is read, a vote of the same
administrator is looked for, a vote is inserted, the votes are counted, and the number is written
with the vote when the session commits. Until then no other session sees the vote. A request is
finalized in a session that reads the number, the delay and the status. Sessions run side by side,
and nothing locks the row; a session writes the columns that it has changed.
-/

namespace Recovery

inductive RequestStatus where
  | pending
  | approvedWaitingDelay
  | finalized
  deriving DecidableEq, Repr

structure MfaRecoveryRequest where
  id : String
  userId : String
  requestedByUserId : String
  reason : String
  requiredApprovals : ℤ
  approvalCount : ℕ
  status : RequestStatus
  readyAfter : ℤ
  finalizedAt : Option ℤ
  finalizedByUserId : Option String
  deriving DecidableEq

/-- A vote. The `decision` of every vote is `approved`. -/
structure MfaRecoveryApprovalVote where
  recoveryRequestId : String
  approverUserId : String
  note : Option String
  deriving DecidableEq

structure HTTPException where
  statusCode : ℕ
  detail : String
  deriving DecidableEq, Repr

/-- How far a session is, with what it has loaded. -/
inductive Session where
  | idle
  /-- The row has been read, and may be approved. -/
  | loaded (row : MfaRecoveryRequest) (approver : String) (note : Option String)
  /-- No vote of the approver has been found. -/
  | voteless (row : MfaRecoveryRequest) (approver : String) (note : Option String)
  | inserted (row : MfaRecoveryRequest) (vote : MfaRecoveryApprovalVote)
  /-- The votes have been counted, with the one that has been inserted. -/
  | counted (row : MfaRecoveryRequest) (vote : MfaRecoveryApprovalVote) (voteCount : ℕ)
  | finalizing (row : MfaRecoveryRequest) (finalizer : String) (now : ℤ)
  deriving DecidableEq

/-- The committed rows, and the sessions. -/
structure Database (Thread : Type) where
  requests : Keyed.Table String MfaRecoveryRequest MfaRecoveryRequest.id
  votes : List MfaRecoveryApprovalVote
  sessions : Thread → Session

def Database.empty {Thread : Type} : Database Thread :=
  ⟨⟨[], List.nodup_nil⟩, [], fun _ => .idle⟩

/-- `max(1, int(required_approvals or DEFAULT_RECOVERY_REQUIRED_APPROVALS))`. -/
def quorum (requiredApprovals : ℤ) : ℤ :=
  max 1 (if requiredApprovals = 0 then 2 else requiredApprovals)

/-- The row of `create_recovery_request`. The delay is in minutes, the times in microseconds. -/
def newRequest (id targetUserId requestedByUserId reason : String)
    (requiredApprovals delayMinutes now : ℤ) : MfaRecoveryRequest where
  id := id
  userId := targetUserId
  requestedByUserId := requestedByUserId
  reason := String.ofList (reason.toList.take 2000)
  requiredApprovals := quorum requiredApprovals
  approvalCount := 0
  status := .pending
  readyAfter := now + max 1 (if delayMinutes = 0 then 15 else delayMinutes) * 60000000
  finalizedAt := none
  finalizedByUserId := none

/-- What `approve_recovery_request` raises when it has read the row. -/
def approvalRefusal : Option MfaRecoveryRequest → Option HTTPException
  | none => some ⟨404, "recovery_request_not_found"⟩
  | some row =>
    if row.status ∉ [.pending, .approvedWaitingDelay] then
      some ⟨400, "recovery_request_not_pending"⟩
    else none

/-- What `finalize_recovery_request` raises when it has read the row. -/
def finalizeRefusal (now : ℤ) : Option MfaRecoveryRequest → Option HTTPException
  | none => some ⟨404, "recovery_request_not_found"⟩
  | some row =>
    if row.approvalCount < quorum row.requiredApprovals then
      some ⟨400, "recovery_approval_quorum_not_met"⟩
    else if now < row.readyAfter then some ⟨400, "recovery_time_delay_not_elapsed"⟩
    else none

def newVote (row : MfaRecoveryRequest) (approver : String) (note : Option String) :
    MfaRecoveryApprovalVote where
  recoveryRequestId := row.id
  approverUserId := approver
  note :=
    let text := String.ofList ((note.getD "").toList.take 1000)
    if text = "" then none else some text

/-- A row with the columns that an approval has changed: the count, and the status once the quorum
is met. -/
def MfaRecoveryRequest.approve (row loaded : MfaRecoveryRequest) (voteCount : ℕ) :
    MfaRecoveryRequest :=
  { row with
    approvalCount := if voteCount = loaded.approvalCount then row.approvalCount else voteCount
    status :=
      if quorum loaded.requiredApprovals ≤ voteCount ∧ loaded.status ≠ .approvedWaitingDelay then
        .approvedWaitingDelay
      else row.status }

def MfaRecoveryRequest.finalize (row : MfaRecoveryRequest) (finalizer : String) (now : ℤ) :
    MfaRecoveryRequest :=
  { row with status := .finalized, finalizedAt := some now, finalizedByUserId := some finalizer }

theorem MfaRecoveryRequest.approve_id {row loaded : MfaRecoveryRequest} {voteCount : ℕ} :
    (row.approve loaded voteCount).id = row.id := rfl

theorem MfaRecoveryRequest.finalize_id {row : MfaRecoveryRequest} {finalizer : String} {now : ℤ} :
    (row.finalize finalizer now).id = row.id := rfl

/-- One step. A session begins with a reading of the row, and ends when it commits, is rolled back,
raises, or has nothing to write. -/
inductive Action (Thread : Type) where
  | creates (id targetUserId requestedByUserId reason : String)
      (requiredApprovals delayMinutes now : ℤ)
  | approves (thread : Thread) (requestId approver : String) (note : Option String)
  | looks (thread : Thread)
  | inserts (thread : Thread)
  | recounts (thread : Thread)
  | finalizes (thread : Thread) (requestId finalizer : String) (now : ℤ)
  | commits (thread : Thread)
  | rollsBack (thread : Thread)

section Steps

variable {Thread : Type} [DecidableEq Thread] (database : Database Thread)

def Database.move (thread : Thread) (session : Session) : Database Thread :=
  { database with sessions := Function.update database.sessions thread session }

def Database.votesFor (requestId : String) : List MfaRecoveryApprovalVote :=
  database.votes.filter (·.recoveryRequestId = requestId)

/-- The first reading of `approve_recovery_request`. -/
def Database.load (thread : Thread) (requestId approver : String) (note : Option String) :
    Database Thread :=
  match database.requests.find requestId with
  | some row =>
    if (approvalRefusal (some row)).isSome then database
    else database.move thread (.loaded row approver note)
  | none => database

/-- The reading of `finalize_recovery_request`. -/
def Database.loadFinal (thread : Thread) (requestId finalizer : String) (now : ℤ) :
    Database Thread :=
  match database.requests.find requestId with
  | some row =>
    if (finalizeRefusal now (some row)).isSome ∨ row.status = .finalized then database
    else database.move thread (.finalizing row finalizer now)
  | none => database

/-- What a session has written gets visible to the others. -/
def Database.commit (thread : Thread) : Session → Database Thread
  | .counted row vote voteCount =>
    { database with
      requests := database.requests.modify row.id (·.approve row voteCount) fun _ =>
        MfaRecoveryRequest.approve_id
      votes := database.votes ++ [vote] }.move thread .idle
  | .finalizing row finalizer now =>
    { database with
      requests := database.requests.modify row.id (·.finalize finalizer now) fun _ =>
        MfaRecoveryRequest.finalize_id }.move thread .idle
  | _ => database

/-- One step. A session that cannot take it stays as it is. -/
def step : Action Thread → Database Thread
  | .creates id targetUserId requestedByUserId reason requiredApprovals delayMinutes now =>
    let row := newRequest id targetUserId requestedByUserId reason requiredApprovals delayMinutes
      now
    if fresh : row.id ∉ database.requests.rows.map MfaRecoveryRequest.id then
      { database with requests := database.requests.insert row fresh }
    else database
  | .approves thread requestId approver note =>
    match database.sessions thread with
    | .idle => database.load thread requestId approver note
    | _ => database
  | .looks thread =>
    match database.sessions thread with
    | .loaded row approver note =>
      if (database.votesFor row.id).any (·.approverUserId = approver) then
        database.move thread .idle
      else database.move thread (.voteless row approver note)
    | _ => database
  | .inserts thread =>
    match database.sessions thread with
    | .voteless row approver note =>
      database.move thread (.inserted row (newVote row approver note))
    | _ => database
  | .recounts thread =>
    match database.sessions thread with
    | .inserted row vote =>
      database.move thread (.counted row vote ((database.votesFor row.id).length + 1))
    | _ => database
  | .finalizes thread requestId finalizer now =>
    match database.sessions thread with
    | .idle => database.loadFinal thread requestId finalizer now
    | _ => database
  | .commits thread => database.commit thread (database.sessions thread)
  | .rollsBack thread => database.move thread .idle

end Steps

end Recovery
