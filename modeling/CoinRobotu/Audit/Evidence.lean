import Mathlib.Data.Multiset.Basic
import CoinRobotu.Audit.Integrity

/-!
# Edits of the audit trail

A hash commits to the log that it is of and to all the logs of the trace before that.
-/

namespace Audit

open Chained Encoding Interleaving
open Runtime (strip lower upper)

variable {setting : Setting} {log changed : AuditLog} {logs others : List AuditLog}

/-- What a log says in its trace: the hashes, and the payload up to the order of the members. -/
def AuditLog.content (setting : Setting) (log : AuditLog) : String × String × Json .value :=
  (log.storedPrevious, log.storedHash, (setting.canonicalPayload log).json.sortKeys)

def KnownHash (setting : Setting) (hash : String) : Prop :=
  hash = "GENESIS" ∨ ∃ text, hash = setting.digest text

theorem computeHash_congr {previous : String} {payload other : Payload}
    (same : payload.json.sortKeys = other.json.sortKeys) :
    setting.computeHash previous payload = setting.computeHash previous other := by
  unfold Setting.computeHash Payload.canonical
  rw [same]

theorem nextHash_eq (nonempty : ∀ text, setting.digest text ≠ "") {previous : String}
    (fits : FitsHash setting previous log) : nextHash setting previous log = log.storedHash := by
  apply if_neg
  rw [fits.1]
  exact nonempty _

theorem Verified.known (verified : Verified setting logs)
    (nonempty : ∀ text, setting.digest text ≠ "") :
    Linked (fun previous log => KnownHash setting previous ∧ FitsHash setting previous log)
      (nextHash setting) "GENESIS" logs := by
  apply linked_known (.inl rfl) _ verified
  intro previous log known fits
  rw [nextHash_eq nonempty fits, fits.1]
  exact .inr ⟨_, rfl⟩

theorem Verified.commit (hex : HexDigest setting.digest) (verified : Verified setting logs)
    (otherVerified : Verified setting others)
    (same : positionAfter (nextHash setting) "GENESIS" logs =
      positionAfter (nextHash setting) "GENESIS" others) :
    logs.map (AuditLog.content setting) = others.map (AuditLog.content setting) := by
  apply linked_commit _ _ (verified.known hex.nonempty) (otherVerified.known hex.nonempty) same
  · rintro first second log other ⟨known, fits⟩ ⟨otherKnown, otherFits⟩ sameHash
    rw [nextHash_eq hex.nonempty fits, nextHash_eq hex.nonempty otherFits] at sameHash
    have hashes := fits.1.symm.trans (sameHash.trans otherFits.1)
    obtain ⟨samePrevious, samePayload⟩ := computeHash_inj hex (separator_notMem hex known)
      (separator_notMem hex otherKnown) hashes
    refine ⟨samePrevious, ?_⟩
    unfold AuditLog.content
    rw [fits.2, otherFits.2, samePrevious, sameHash, samePayload]
  · rintro previous log ⟨_, fits⟩ isFirst
    rw [nextHash_eq hex.nonempty fits, fits.1] at isFirst
    exact hex.ne_genesis _ isFirst

theorem Verified.before (hex : HexDigest setting.digest) {trace : List AuditLog}
    (verified : Verified setting (trace ++ [log])) (otherVerified : Verified setting others)
    (inside : log ∈ others) :
    ∃ earlier later, others = earlier ++ log :: later ∧
      earlier.map (AuditLog.content setting) = trace.map (AuditLog.content setting) := by
  obtain ⟨earlier, later, rfl⟩ := List.append_of_mem inside
  refine ⟨earlier, later, rfl, ?_⟩
  have split : earlier ++ log :: later = (earlier ++ [log]) ++ later := by
    rw [List.append_assoc, List.singleton_append]
  have upTo : Verified setting (earlier ++ [log]) := by
    unfold Verified at otherVerified
    rw [split] at otherVerified
    exact (linked_append.mp otherVerified).1
  have fits := (linked_concat.mp verified).2
  have otherFits := (linked_concat.mp upTo).2
  have contents := upTo.commit hex verified (by
    rw [positionAfter_append, positionAfter_append]
    exact (nextHash_eq hex.nonempty otherFits).trans (nextHash_eq hex.nonempty fits).symm)
  rw [List.map_append, List.map_append] at contents
  exact (List.append_inj' contents rfl).1

theorem Verified.position_congr (nonempty : ∀ text, setting.digest text ≠ "")
    (verified : Verified setting logs) (otherVerified : Verified setting others)
    (same : logs.map (AuditLog.content setting) = others.map (AuditLog.content setting)) :
    positionAfter (nextHash setting) "GENESIS" logs =
      positionAfter (nextHash setting) "GENESIS" others := by
  cases logs using List.reverseRecOn with
  | nil => rw [List.map_eq_nil_iff.mp same.symm]
  | append_singleton logs log =>
    cases others using List.reverseRecOn with
    | nil => rw [List.map_eq_nil_iff.mp same]
    | append_singleton others other =>
      rw [List.map_append, List.map_append] at same
      have sameLast := List.head_eq_of_cons_eq (List.append_inj' same rfl).2
      have hashes : log.storedHash = other.storedHash :=
        congrArg (fun content => content.2.1) sameLast
      rw [positionAfter_append, positionAfter_append]
      exact (nextHash_eq nonempty (linked_concat.mp verified).2).trans
        (hashes.trans (nextHash_eq nonempty (linked_concat.mp otherVerified).2).symm)

section Traces

variable {last : AuditLog} {trace before behind kept rest others : List AuditLog}

variable (hex : HexDigest setting.digest)

include hex

/-- Where the last log of a verified trace is left, and at most one log stands for one before it,
there is such a log, and it has the content of the one that it stands for. -/
theorem Verified.kept_content (verified : Verified setting (before ++ log :: (behind ++ [last])))
    (otherVerified : Verified setting others) (small : kept.length ≤ 1)
    (perm : others.Perm (kept ++ (before ++ (behind ++ [last])))) :
    kept.map (AuditLog.content setting) = [log.content setting] := by
  have split : before ++ log :: (behind ++ [last]) = (before ++ log :: behind) ++ [last] := by
    rw [List.append_assoc, List.cons_append]
  rw [split] at verified
  have inside : last ∈ others := by
    apply perm.mem_iff.mpr
    exact List.mem_append_right _ (List.mem_append_right _ (List.mem_append_right _
      (List.mem_singleton_self last)))
  obtain ⟨earlier, later, rfl, contents⟩ := verified.before hex otherVerified inside
  have lengths := perm.length_eq
  have upTo := congrArg List.length contents
  simp only [List.length_append, List.length_cons, List.length_map, List.length_nil] at lengths upTo
  have nothing : later = [] := List.eq_nil_of_length_eq_zero (by omega)
  subst nothing
  have mapped : ((before ++ log :: behind).map (AuditLog.content setting) ++
      [last].map (AuditLog.content setting)).Perm (kept.map (AuditLog.content setting) ++
        (before ++ (behind ++ [last])).map (AuditLog.content setting)) := by
    rw [← contents, ← List.map_append, ← List.map_append]
    exact perm.map _
  have moved : ((before ++ log :: behind).map (AuditLog.content setting) ++
      [last].map (AuditLog.content setting)).Perm
        ([log.content setting] ++
          (before ++ (behind ++ [last])).map (AuditLog.content setting)) := by
    rw [← List.map_append, ← split, List.singleton_append, ← List.map_cons]
    exact List.perm_middle.map _
  have cancelled := (List.perm_append_right_iff _).mp (mapped.symm.trans moved)
  exact List.perm_singleton.mp cancelled

/-- Where only the last log of a verified trace is another one, it builds on the same hash, and has
the hash of its contents. -/
theorem Verified.last_rehashed
    (verified : Verified setting (before ++ [log])) (otherVerified : Verified setting others)
    (perm : others.Perm (changed :: before)) :
    changed.storedPrevious = log.storedPrevious ∧
      changed.storedHash =
        setting.computeHash log.storedPrevious (setting.canonicalPayload changed) := by
  have parts : ∃ earlier other, others = earlier ++ [other] ∧
      earlier.map (AuditLog.content setting) = before.map (AuditLog.content setting) := by
    cases before using List.reverseRecOn with
    | nil => exact ⟨[], changed, List.perm_singleton.mp perm, rfl⟩
    | append_singleton before previous =>
      have inside : previous ∈ others := by
        apply perm.mem_iff.mpr
        exact List.mem_cons_of_mem _ (List.mem_append_right _ (List.mem_singleton_self previous))
      obtain ⟨earlier, later, rfl, contents⟩ :=
        Verified.before hex (linked_append.mp verified).1 otherVerified inside
      have lengths := perm.length_eq
      have upTo := congrArg List.length contents
      simp only [List.length_append, List.length_cons, List.length_map, List.length_nil]
        at lengths upTo
      obtain ⟨other, rfl⟩ := List.length_eq_one_iff.mp (show later.length = 1 by omega)
      refine ⟨earlier ++ [previous], other, ?_, ?_⟩
      · rw [List.append_assoc, List.singleton_append]
      · rw [List.map_append, List.map_append, contents]
  obtain ⟨earlier, other, rfl, contents⟩ := parts
  have mapped := perm.map (AuditLog.content setting)
  rw [List.map_append, contents] at mapped
  have moved : ([other].map (AuditLog.content setting) ++
      before.map (AuditLog.content setting)).Perm ([changed].map (AuditLog.content setting) ++
        before.map (AuditLog.content setting)) := List.perm_append_comm.trans mapped
  have cancelled := (List.perm_append_right_iff _).mp moved
  have same : other.content setting = changed.content setting :=
    List.head_eq_of_cons_eq (List.perm_singleton.mp cancelled)
  obtain ⟨beforeVerified, fits⟩ := linked_concat.mp verified
  obtain ⟨earlierVerified, otherFits⟩ := linked_concat.mp otherVerified
  have position := Verified.position_congr hex.nonempty earlierVerified beforeVerified contents
  rw [position] at otherFits
  obtain ⟨samePrevious, sameRest⟩ := Prod.mk.inj same
  obtain ⟨sameHash, samePayload⟩ := Prod.mk.inj sameRest
  constructor
  · rw [← samePrevious, otherFits.2, fits.2]
  · rw [← sameHash, otherFits.1, fits.2]
    exact computeHash_congr samePayload

theorem Verified.not_exchanged {other : AuditLog}
    (verified : Verified setting (before ++ log :: (behind ++ other :: rest)))
    (samePrevious : changed.storedPrevious = other.storedPrevious) :
    ¬Verified setting (before ++ changed :: others) := by
  intro changedVerified
  obtain ⟨beforeVerified, _, linked⟩ := linked_append.mp verified
  obtain ⟨_, otherFits, _⟩ := linked_append.mp linked
  obtain ⟨_, changedFits, _⟩ := linked_append.mp changedVerified
  have split : before ++ log :: (behind ++ other :: rest) =
      (before ++ log :: behind) ++ other :: rest := by
    rw [List.append_assoc, List.cons_append]
  unfold Verified at verified
  rw [split] at verified
  obtain ⟨upTo, fits, _⟩ := linked_append.mp verified
  have positions : positionAfter (nextHash setting) "GENESIS" before =
      positionAfter (nextHash setting) "GENESIS" (before ++ log :: behind) :=
    changedFits.2.symm.trans (samePrevious.trans fits.2)
  have lengths := congrArg List.length (Verified.commit hex beforeVerified upTo positions)
  simp only [List.length_append, List.length_cons, List.length_map] at lengths
  omega

theorem Verified.same_payload (verified : Verified setting (before ++ log :: rest))
    (otherVerified : Verified setting (before ++ changed :: others))
    (sameHash : changed.storedHash = log.storedHash) :
    (setting.canonicalPayload changed).json.sortKeys =
      (setting.canonicalPayload log).json.sortKeys := by
  obtain ⟨_, ⟨known, fits⟩, _⟩ := linked_append.mp (verified.known hex.nonempty)
  obtain ⟨_, otherFits, _⟩ := linked_append.mp otherVerified
  have hashes := otherFits.1.symm.trans (sameHash.trans fits.1)
  exact (computeHash_inj hex (separator_notMem hex known) (separator_notMem hex known) hashes).2

end Traces

section Edits

variable {correlationId : String} {requests : List Request} {earlier between later : List AuditLog}

def Alone (setting : Setting) (correlationId : String) (logs : List AuditLog) : Prop :=
  ∀ log ∈ logs, verifies correlationId none log → setting.correlationOf log = strip correlationId

/-- The log builds on the hash that another one builds on, and has the hash of its own contents. -/
def Rehashed (setting : Setting) (log changed : AuditLog) : Prop :=
  changed.storedPrevious = log.storedPrevious ∧
    changed.storedHash =
      setting.computeHash log.storedPrevious (setting.canonicalPayload changed)

def AuditLog.withContents (log other : AuditLog) : AuditLog :=
  { other with id := log.id, createdAt := log.createdAt }

def AuditLog.withFields (log other : AuditLog) : AuditLog :=
  { log.withContents other with
    previousEventHash := log.previousEventHash
    eventHash := log.eventHash }

theorem verifies_none : verifies correlationId none = selects (strip correlationId) := by
  funext log
  exact Bool.and_true _

theorem Recorded.verified (recorded : Recorded setting logs)
    (nonempty : ∀ text, setting.digest text ≠ "") (alone : Alone setting correlationId logs) :
    Verified setting (logs.filter (verifies correlationId none)) := by
  apply (verified_filter_iff recorded nonempty).mpr
  intro earlier log later split isRead
  have inside : log ∈ logs := split ▸ List.mem_append_right _ List.mem_cons_self
  rw [alone log inside isRead, verifies_none]

theorem tampered_of_not_verified
    (broken : ¬Verified setting (ordered (logs.filter (verifies correlationId none)))) :
    (verifyTraceIntegrity setting logs correlationId none).tampered = true := by
  rw [← Bool.not_eq_false]
  exact fun untampered => broken (tampered_eq_false.mp untampered)

theorem read_perm (kept : List AuditLog) :
    (ordered ((earlier ++ (kept ++ later)).filter (verifies correlationId none))).Perm
      (kept.filter (verifies correlationId none) ++
        (earlier.filter (verifies correlationId none) ++
          later.filter (verifies correlationId none))) := by
  apply (List.perm_insertionSort _ _).trans
  rw [List.filter_append, List.filter_append, ← List.append_assoc, ← List.append_assoc]
  exact List.perm_append_comm.append_right _

section Noticing

variable (recorded : Recorded setting (earlier ++ log :: later)) (hex : HexDigest setting.digest)
  (alone : Alone setting correlationId (earlier ++ log :: later))
  (isRead : verifies correlationId none log)

include recorded hex alone isRead

/-- Where another log is read after it, a log of the trace cannot be replaced by one with another
content, or removed, without being noticed. -/
theorem Recorded.notices
    (notLast : later.filter (verifies correlationId none) ≠ []) {kept : List AuditLog}
    (small : kept.length ≤ 1)
    (differs : kept.map (AuditLog.content setting) ≠ [log.content setting]) :
    (verifyTraceIntegrity setting (earlier ++ (kept ++ later)) correlationId none).tampered =
      true := by
  apply tampered_of_not_verified
  intro otherVerified
  have verified := recorded.verified hex.nonempty alone
  rw [List.filter_append, List.filter_cons_of_pos isRead] at verified
  have perm := @read_perm correlationId earlier later kept
  cases isLater : later.filter (verifies correlationId none) using List.reverseRecOn with
  | nil => exact notLast isLater
  | append_singleton behind last =>
    rw [isLater] at verified perm
    have keptSmall : (kept.filter (verifies correlationId none)).length ≤ 1 :=
      (List.length_filter_le _ _).trans small
    have contents := verified.kept_content hex otherVerified keptSmall perm
    have all : kept.filter (verifies correlationId none) = kept := by
      apply List.filter_sublist.eq_of_length_le
      have length := congrArg List.length contents
      rw [List.length_map, List.length_singleton] at length
      omega
    rw [all] at contents
    exact differs contents

/-- The last log of the trace cannot be replaced by one that is read, unless it is given its hash,
without being noticed. -/
theorem Recorded.notices_last (isLast : later.filter (verifies correlationId none) = [])
    (changedRead : verifies correlationId none changed) (stale : ¬Rehashed setting log changed) :
    (verifyTraceIntegrity setting (earlier ++ changed :: later) correlationId none).tampered =
      true := by
  apply tampered_of_not_verified
  intro otherVerified
  have verified := recorded.verified hex.nonempty alone
  rw [List.filter_append, List.filter_cons_of_pos isRead, isLast] at verified
  have perm := @read_perm correlationId earlier later [changed]
  rw [isLast, List.append_nil, List.filter_cons_of_pos changedRead] at perm
  exact stale (verified.last_rehashed hex otherVerified perm)

end Noticing

/-- Two logs of the trace that have exchanged something else than their times are read in their
places. -/
theorem Recorded.read_exchanged {first second other another : AuditLog}
    (recorded : Recorded setting (earlier ++ first :: (between ++ second :: later)))
    (isRead : verifies correlationId none other) (anotherRead : verifies correlationId none another)
    (sameTime : other.createdAt = first.createdAt)
    (anotherTime : another.createdAt = second.createdAt) :
    ordered ((earlier ++ other :: (between ++ another :: later)).filter
        (verifies correlationId none)) =
      earlier.filter (verifies correlationId none) ++ other ::
        (between.filter (verifies correlationId none) ++ another ::
          later.filter (verifies correlationId none)) := by
  have times : (earlier ++ other :: (between ++ another :: later)).map AuditLog.createdAt =
      (earlier ++ first :: (between ++ second :: later)).map AuditLog.createdAt := by
    simp only [List.map_append, List.map_cons, sameTime, anotherTime]
  have increasing : (earlier ++ other :: (between ++ another :: later)).Pairwise
      fun log other => log.createdAt < other.createdAt := by
    have mapped := List.pairwise_map (R := (· < ·)).mpr recorded.increasing
    rw [← times] at mapped
    exact List.pairwise_map.mp mapped
  rw [ordered_filter_of_increasing increasing, List.filter_append, List.filter_cons_of_pos isRead,
    List.filter_append, List.filter_cons_of_pos anotherRead]

/-- A modification that can be noticed: it changes a hash or the payload of the log, and where no
log is read after it, the log is still read, without the hash of its new contents. -/
def Noticeable (setting : Setting) (correlationId : String) (log changed : AuditLog)
    (later : List AuditLog) : Prop :=
  changed.content setting ≠ log.content setting ∧
    (later.filter (verifies correlationId none) = [] →
      verifies correlationId none changed ∧ ¬Rehashed setting log changed)

def twoRequests : List Request :=
  [plainRequest "t-1" .noMembers 1, plainRequest "t-1" .noMembers 2]

def firstLog : AuditLog := plainSetting.newLog [] (plainRequest "t-1" .noMembers 1)

def secondLog : AuditLog := plainSetting.newLog [firstLog] (plainRequest "t-1" .noMembers 2)

def AuditLog.forged (log : AuditLog) : AuditLog :=
  let changed := { log with action := "forged" }
  { changed with
    eventHash := some
      (plainSetting.computeHash log.storedPrevious (plainSetting.canonicalPayload changed)) }

theorem forged_fits {previous : String} (fits : FitsHash plainSetting previous log) :
    FitsHash plainSetting previous log.forged := by
  have previous : log.forged.storedPrevious = log.storedPrevious := rfl
  refine ⟨?_, previous.trans fits.2⟩
  rw [← fits.2]
  rfl

theorem fitsHash_relabel {previous id : String} :
    FitsHash setting previous { log with id := id } ↔ FitsHash setting previous log := Iff.rfl

theorem nextHash_relabel {previous id : String} :
    nextHash setting previous { log with id := id } = nextHash setting previous log := rfl

theorem ordered_pair {log other : AuditLog} (before : log.createdAt < other.createdAt) :
    ordered [log, other] = [log, other] ∧ ordered [other, log] = [log, other] := by
  unfold ordered
  constructor
  · exact List.Pairwise.insertionSort_eq (List.pairwise_pair.mpr before.le)
  · simp [List.insertionSort, before]

end Edits

end Audit
