import CoinRobotu.Artifact.Evidence
import CoinRobotu.Artifact.Signed

/-!
# The verification of signed artifacts

An artifact that has been written stays where it is in an unbroken chain, whatever is written and
called later, and its file stays as it is unless a later artifact has the same file name.
-/

namespace Artifact

open Chained Encoding Interleaving

section Chains

variable {digest : String → String} {artifacts earlier later : List Entry} {entry : Entry}

theorem chainValidAt_linked {position index : ℕ} {prevHash : String}
    (linked : Linked (FitsPosition digest) nextPosition (position, prevHash) artifacts)
    (isAfter : position ≤ index) (isBefore : index < position + artifacts.length) :
    chainValidAt digest index position prevHash artifacts = true := by
  induction artifacts generalizing position prevHash with
  | nil => exact absurd isBefore (not_lt_of_ge isAfter)
  | cons first artifacts ih =>
    obtain ⟨fits, rest⟩ := linked
    unfold chainValidAt
    by_cases isFirst : position = index
    · rw [if_pos isFirst]
      exact fits
    · rw [if_neg isFirst]
      -- a missing hash would be computed anew, but the one that is there is the computed one
      obtain ⟨_, _, isHash⟩ := fitsPosition_iff.mp fits
      have sameHash : (if first.chainHash.getD "" = "" then
          computeChainHash digest prevHash first else first.chainHash.getD "") =
            first.chainHash.getD "" := by
        rw [isHash]
        exact ite_self _
      dsimp only
      rw [sameHash]
      rw [List.length_cons] at isBefore
      exact ih rest (by omega) (by omega)

theorem findIdx_entry (fresh : ∀ other ∈ earlier, other.artifactId ≠ entry.artifactId) :
    (earlier ++ entry :: later).findIdx (·.artifactId = entry.artifactId) = earlier.length := by
  induction earlier with
  | nil =>
    rw [List.nil_append, List.findIdx_cons, decide_eq_true rfl]
    rfl
  | cons first earlier ih =>
    obtain ⟨isOther, rest⟩ := List.forall_mem_cons.mp fresh
    rw [List.cons_append, List.findIdx_cons, decide_eq_false isOther, ih rest]
    rfl

end Chains

section Actions

variable {sorting : Sorting} {digest : String → String} {readTime : String → Option ℤ}
  {directory after : Export} {filename : Option String}

/-- A directory after a step that has written one file at most: the chain is intact, no entry is
lost, and the other files are as they were. -/
structure Extended (digest : String → String) (filename : Option String)
    (directory after : Export) : Prop where
  intact : Intact digest (readManifest after).artifacts
  entries : ∃ more, (readManifest after).artifacts = (readManifest directory).artifacts ++ more
  files : ∀ name, filename ≠ some name → after.files name = directory.files name

theorem Extended.trans {middle : Export} (first : Extended digest filename directory middle)
    (second : Extended digest filename middle after) :
    Extended digest filename directory after := by
  obtain ⟨more, isMiddle⟩ := first.entries
  obtain ⟨further, isAfter⟩ := second.entries
  refine ⟨second.intact, ⟨more ++ further, ?_⟩, fun name other => ?_⟩
  · rw [isAfter, isMiddle, List.append_assoc]
  · rw [second.files name other, first.files name other]

section Rewriting

variable {name : String} {document : Json .members} {entry : Entry} {call : Call}
  (intact : Intact digest (readManifest directory).artifacts)

include intact

theorem ensureChain_intact :
    (ensureChain digest (readManifest directory)).artifacts = (readManifest directory).artifacts :=
  ensureChain_of_complete (linked_complete intact)

theorem extended_refl :
    Extended digest filename directory directory :=
  ⟨intact, ⟨[], (List.append_nil _).symm⟩, fun _ _ => rfl⟩

theorem extended_rewrite :
    Extended digest filename directory
      (writeManifest directory (ensureChain digest (readManifest directory))) := by
  have same := ensureChain_intact intact
  refine ⟨?_, ⟨[], ?_⟩, fun _ _ => rfl⟩
  · show Intact digest (ensureChain digest (readManifest directory)).artifacts
    rw [same]
    exact intact
  · rw [List.append_nil]
    exact same

theorem extended_twice :
    Extended digest filename directory
      (verifyManifestChain digest
        (writeManifest directory (ensureChain digest (readManifest directory)))).1 := by
  have first : Extended digest filename directory
      (writeManifest directory (ensureChain digest (readManifest directory))) :=
    extended_rewrite intact
  exact first.trans (extended_rewrite first.intact)

theorem extended_file :
    Extended digest (some name) directory (writeFile directory name document) :=
  ⟨intact, ⟨[], (List.append_nil _).symm⟩,
    fun _ other => if_neg fun same => other (congrArg some same.symm)⟩

theorem extended_append :
    Extended digest filename directory (writeManifest directory
      (appendEntry digest (ensureChain digest (readManifest directory)) entry)) := by
  have same := ensureChain_intact intact
  refine ⟨?_, ⟨_, congrArg (· ++ _) same⟩, fun _ _ => rfl⟩
  show Intact digest (appendEntry digest _ entry).artifacts
  rw [intact_append, same]
  exact intact

theorem perform_extended :
    Extended digest (Operation.call call).filename directory
      (perform digest readTime directory call) := by
  cases call with
  | write request =>
    cases isData : request.unsigned with
    | none =>
      simp only [perform, writeSignedArtifact, isData]
      exact extended_refl intact
    | some data =>
      simp only [perform, writeSignedArtifact, isData]
      exact (extended_file intact).trans (extended_append intact)
  | list | verifyChain => exact extended_rewrite intact
  | verify artifactId =>
    unfold perform verifyArtifact
    dsimp only
    split
    · exact extended_rewrite intact
    · exact extended_twice intact
  | verifyAll filters => exact extended_twice intact

end Rewriting

def Signing.filed (sorting : Sorting) (digest : String → String) (signing : Signing)
    (directory : Export) (data : Memory .members) : Export :=
  writeFile directory signing.filename
    (documentOf (signWith (computeChecksum sorting digest data) data))

theorem writeSigned_cases {signing : Signing} :
    writeSigned sorting digest directory signing = (directory, none) ∨
      ∃ data, signing.unsigned = some data ∧
        (writeSigned sorting digest directory signing =
            (signing.filed sorting digest directory data, none) ∨
          ∃ entry,
            signing.entry (computeChecksum sorting digest data)
                (signWith (computeChecksum sorting digest data) data) = some entry ∧
              writeSigned sorting digest directory signing =
              (writeManifest (signing.filed sorting digest directory data)
                (appendEntry digest (ensureChain digest (readManifest directory)) entry),
              some (chainedLast digest (ensureChain digest (readManifest directory)) entry))) := by
  unfold writeSigned
  cases isData : signing.unsigned with
  | none => exact .inl rfl
  | some data =>
    dsimp only
    by_cases raises : unwritable sorting data = true
    · rw [if_pos raises]
      exact .inl rfl
    · rw [if_neg raises]
      refine .inr ⟨data, rfl, ?_⟩
      cases isEntry : signing.entry (computeChecksum sorting digest data)
          (signWith (computeChecksum sorting digest data) data) with
      | none => exact .inl rfl
      | some entry => exact .inr ⟨entry, rfl, rfl⟩

theorem operate_extended {operation : Operation}
    (intact : Intact digest (readManifest directory).artifacts) :
    Extended digest operation.filename directory
      (operate sorting digest readTime directory operation) := by
  cases operation with
  | call call => exact perform_extended intact
  | sign signing =>
    show Extended digest (some signing.filename) directory
      (writeSigned sorting digest directory signing).1
    obtain unwritten | ⟨data, _, filed | ⟨entry, _, written⟩⟩ :=
      @writeSigned_cases sorting digest directory signing
    · rw [unwritten]
      exact extended_refl intact
    · rw [filed]
      exact extended_file intact
    · rw [written]
      exact (extended_file intact).trans (extended_append intact)

theorem intact_operations {operations : List Operation} :
    Intact digest (readManifest
      (afterAll (operate sorting digest readTime) .empty operations)).artifacts :=
  @afterAll_keeps _ _ _ (fun directory => Intact digest (readManifest directory).artifacts)
    _ operations trivial fun _ _ intact => (operate_extended intact).intact

end Actions

section Runs

variable {sorting : Sorting} {digest : String → String} {readTime : String → Option ℤ}
  {directory after : Export} {earlier : List Entry} {entry : Entry} {document : Json .members}
  {signing : Signing}

/-- An entry stands in an intact chain behind the earlier ones, and its document in its file. -/
structure Standing (digest : String → String) (earlier : List Entry) (entry : Entry)
    (document : Json .members) (directory : Export) : Prop where
  intact : Intact digest (readManifest directory).artifacts
  stands : ∃ later, (readManifest directory).artifacts = earlier ++ entry :: later
  saved : directory.files entry.filename = some document

theorem Standing.operate (kept : Standing digest earlier entry document directory)
    {operation : Operation} (other : operation.filename ≠ some entry.filename) :
    Standing digest earlier entry document
      (Artifact.operate sorting digest readTime directory operation) := by
  obtain ⟨intact, ⟨more, isAfter⟩, files⟩ :=
    @operate_extended sorting digest readTime directory operation kept.intact
  obtain ⟨later, isBefore⟩ := kept.stands
  refine ⟨intact, ⟨later ++ more, ?_⟩, ?_⟩
  · rw [isAfter, isBefore, List.append_assoc]
    rfl
  · rw [files _ other]
    exact kept.saved

theorem Standing.afterAll {operations : List Operation}
    (kept : Standing digest earlier entry document directory)
    (others : ∀ operation ∈ operations, operation.filename ≠ some entry.filename) :
    Standing digest earlier entry document
      (Interleaving.afterAll (Artifact.operate sorting digest readTime) directory operations) := by
  induction operations generalizing directory with
  | nil => exact kept
  | cons operation operations ih =>
    obtain ⟨other, rest⟩ := List.forall_mem_cons.mp others
    exact ih (kept.operate other) rest

/-- `verify_artifact` reports the artifact as verified and the chain as unbroken. -/
def Verified (digest : String → String) (directory : Export) (artifactId : String) : Prop :=
  ∃ report, (verifyArtifact digest directory artifactId).2 = .ok report ∧
    report.verified = true ∧ report.chainValid = true ∧ report.chain.chainBroken = false

/-- An entry that is kept is verified exactly if its document is found as it has been signed. -/
theorem Standing.verified_iff (kept : Standing digest earlier entry document directory)
    (fresh : ∀ other ∈ earlier, other.artifactId ≠ entry.artifactId) :
    Verified digest directory entry.artifactId ↔
      ∃ metadata, readMetadata document = .ok metadata ∧
        checksumHolds digest entry document metadata = true := by
  obtain ⟨intact, ⟨later, isArtifacts⟩, saved⟩ := kept
  have repaired := ensureChain_intact intact
  have isIndex : (ensureChain digest (readManifest directory)).artifacts.findIdx
      (·.artifactId = entry.artifactId) = earlier.length := by
    rw [repaired, isArtifacts, findIdx_entry fresh]
  have isEntry : (ensureChain digest (readManifest directory)).artifacts[earlier.length]? =
      some entry := by
    rw [repaired, isArtifacts, List.getElem?_append_right le_rfl, Nat.sub_self]
    rfl
  have isFound : findDocument
      (writeManifest directory (ensureChain digest (readManifest directory)))
      (ensureChain digest (readManifest directory)) entry.artifactId =
        (readMetadata document).map (earlier.length, entry, document, ·) := by
    unfold findDocument
    dsimp only
    rw [isIndex, isEntry]
    dsimp only
    rw [show (writeManifest directory _).files entry.filename = some document from saved]
  have isValid : chainValidAt digest earlier.length 0 "GENESIS"
      (ensureChain digest (readManifest directory)).artifacts = true := by
    rw [repaired]
    apply chainValidAt_linked intact (Nat.zero_le _)
    rw [isArtifacts, List.length_append, List.length_cons]
    omega
  have unbroken : (verifyManifestChain digest (writeManifest directory
      (ensureChain digest (readManifest directory)))).2.chainBroken = false := by
    apply Bool.eq_false_iff.mpr
    rw [Ne, show (verifyManifestChain digest _).2 = chainStatus digest _ from rfl,
      chainBroken_iff, not_not]
    show Intact digest (ensureChain digest (ensureChain digest (readManifest directory))).artifacts
    rw [ensureChain_of_complete ensureChain_complete, repaired]
    exact intact
  unfold Verified verifyArtifact
  dsimp only
  rw [isFound]
  cases readMetadata document with
  | error failure =>
    apply iff_of_false
    · rintro ⟨report, isReport, _⟩
      cases isReport
    · rintro ⟨metadata, isMetadata, _⟩
      cases isMetadata
  | ok metadata =>
    constructor
    · rintro ⟨report, isReport, holds, _⟩
      cases isReport
      exact ⟨metadata, rfl, holds⟩
    · rintro ⟨other, isOther, holds⟩
      cases isOther
      exact ⟨_, rfl, holds, isValid, unbroken⟩

theorem entry_fields {checksum : String} {data : Memory .members}
    (isEntry : signing.entry checksum data = some entry) :
    entry.artifactId = signing.artifactId ∧ entry.filename = signing.filename ∧
      entry.sha256 = checksum := by
  simp only [Signing.entry, bind, pure, Option.bind_eq_some_iff, Option.some.injEq] at isEntry
  obtain ⟨_, _, _, _, _, _, rfl⟩ := isEntry
  exact ⟨rfl, rfl, rfl⟩

theorem kept_writeSigned (intact : Intact digest (readManifest directory).artifacts)
    (written : writeSigned sorting digest directory signing = (after, some entry)) :
    ∃ data, signing.unsigned = some data ∧
      entry.artifactId = signing.artifactId ∧ entry.filename = signing.filename ∧
      entry.sha256 = computeChecksum sorting digest data ∧
      Standing digest (readManifest directory).artifacts entry
        (documentOf (signWith entry.sha256 data)) after := by
  obtain unwritten | ⟨data, isData, filed | ⟨fresh, isEntry, appended⟩⟩ :=
    @writeSigned_cases sorting digest directory signing
  · cases unwritten.symm.trans written
  · cases filed.symm.trans written
  · obtain ⟨isId, isFilename, isChecksum⟩ := entry_fields isEntry
    have same := appended.symm.trans written
    rw [Prod.mk.injEq, Option.some.injEq] at same
    obtain ⟨rfl, rfl⟩ := same
    refine ⟨data, isData, isId, isFilename, isChecksum, ?_⟩
    have filed : Extended digest (some signing.filename) directory
        (signing.filed sorting digest directory data) := extended_file intact
    have appended := @extended_append digest _ (some signing.filename) fresh filed.intact
    refine ⟨appended.intact, ⟨[], ?_⟩, ?_⟩
    · show (ensureChain digest (readManifest directory)).artifacts ++ _ = _
      rw [ensureChain_intact intact]
    · show (if fresh.filename = signing.filename then some (documentOf (signWith
        (computeChecksum sorting digest data) data)) else _) =
          some (documentOf (signWith fresh.sha256 data))
      rw [if_pos isFilename, isChecksum]

/-- Where the chain is intact and the identifier is new, an artifact that is written is verified
exactly if what is signed is steady. -/
theorem written_verified_iff (injective : Function.Injective digest)
    (named : ∀ text, digest text ≠ "") {later : List Operation}
    (intact : Intact digest (readManifest directory).artifacts)
    (written : writeSigned sorting digest directory signing = (after, some entry))
    (fresh : ∀ other ∈ (readManifest directory).artifacts, other.artifactId ≠ signing.artifactId)
    (unedited : ∀ operation ∈ later, operation.filename ≠ some signing.filename) :
    Verified digest (afterAll (operate sorting digest readTime) after later) signing.artifactId ↔
      signing.steady sorting = true := by
  obtain ⟨data, isData, isId, isFilename, isChecksum, kept⟩ := kept_writeSigned intact written
  have keptLater := @Standing.afterAll sorting digest readTime after _ entry _ later kept
    fun operation inside => isFilename ▸ unedited operation inside
  rw [← isId, keptLater.verified_iff fun other inside => isId ▸ fresh other inside]
  exact checksumHolds_signed injective named isData isChecksum

/-- An artifact that has been written is verified, whatever is written and called before, and later
to other files, exactly if what has been signed is steady. -/
theorem signed_verified_iff (injective : Function.Injective digest)
    (named : ∀ text, digest text ≠ "") {before later : List Operation}
    (written : writeSigned sorting digest
      (afterAll (operate sorting digest readTime) .empty before) signing = (after, some entry))
    (fresh : ∀ other ∈ (readManifest
      (afterAll (operate sorting digest readTime) .empty before)).artifacts,
        other.artifactId ≠ signing.artifactId)
    (unedited : ∀ operation ∈ later, operation.filename ≠ some signing.filename) :
    Verified digest (afterAll (operate sorting digest readTime) after later) signing.artifactId ↔
      signing.steady sorting = true :=
  written_verified_iff injective named intact_operations written fresh unedited

end Runs

def marked (text : String) : String := "#" ++ text

theorem marked_injective : Function.Injective marked := by
  intro first second same
  exact (String.append_right_inj "#").mp same

theorem marked_ne_empty (text : String) : marked text ≠ "" := by
  intro same
  have lists := congrArg String.toList same
  rw [marked, String.toList_append] at lists
  cases lists

def signingOf (artifactId : String) (value : Memory .value) : Signing where
  payload := .member (.string "limits") value .noMembers
  artifactType := "proof"
  filenamePrefix := "proof"
  createdAt := "2026-01-01"
  artifactId := artifactId
  stamp := "20260101000000"
  size := 2

def integerKeys : Memory .value :=
  .object (.member (.integer 2) (.bool true) (.member (.integer 10) (.bool true) .noMembers))

def stringKeys : Memory .value :=
  .object (.member (.string "2") (.bool true) (.member (.string "10") (.bool true) .noMembers))

def addressed : Memory .value := .rendered ⟨"<object at 0x10>", "<object at 0x20>", true, false⟩

def firstWritten (value : Memory .value) : Export × Option Entry :=
  writeSigned plainSorting marked .empty (signingOf "a-1" value)

theorem first_not_verified {value : Memory .value} (isSome : (firstWritten value).2.isSome)
    (unsteady : (signingOf "a-1" value).steady plainSorting = false) :
    ¬Verified marked (firstWritten value).1 "a-1" := by
  obtain ⟨entry, isEntry⟩ := Option.isSome_iff_exists.mp isSome
  have written : firstWritten value = ((firstWritten value).1, some entry) := by rw [← isEntry]
  have intact : Intact marked (readManifest .empty).artifacts := trivial
  have fresh : ∀ other ∈ (readManifest .empty).artifacts,
      other.artifactId ≠ (signingOf "a-1" value).artifactId := by
    intro other inside
    cases inside
  have unedited : ∀ operation ∈ ([] : List Operation),
      operation.filename ≠ some (signingOf "a-1" value).filename := by
    intro operation inside
    cases inside
  have iff := @written_verified_iff plainSorting marked (fun _ => none) .empty _ entry
    (signingOf "a-1" value) marked_injective marked_ne_empty [] intact written fresh unedited
  intro verified
  have steady := iff.mp verified
  exact Bool.false_ne_true (unsteady.symm.trans steady)

/-- An artifact with string keys is verified behind another one, after a third one has been written
and the artifacts have been listed. -/
theorem signed_verified_example :
    Verified marked (afterAll (operate plainSorting marked fun _ => none)
      (writeSigned plainSorting marked
        (afterAll (operate plainSorting marked fun _ => none) .empty
          [.sign (signingOf "a-0" (.bool true))]) (signingOf "a-1" stringKeys)).1
      [.sign (signingOf "a-2" integerKeys), .call .list]) "a-1" := by
  have isSome : (writeSigned plainSorting marked
      (afterAll (operate plainSorting marked fun _ => none) .empty
        [.sign (signingOf "a-0" (.bool true))]) (signingOf "a-1" stringKeys)).2.isSome := by
    decide +kernel
  obtain ⟨entry, isEntry⟩ := Option.isSome_iff_exists.mp isSome
  apply (@signed_verified_iff plainSorting marked _ _ entry _ marked_injective marked_ne_empty
    [.sign (signingOf "a-0" (.bool true))] _ (Prod.ext rfl isEntry) _ _).mpr
  · decide +kernel
  · decide +kernel
  · decide +kernel

/-- Two integers whose texts are in another order, an object whose deep copy is rendered in another
way, and the metadata at another place: the artifact is written, and is not verified. -/
theorem signed_not_verified :
    ((firstWritten integerKeys).2.isSome ∧
        ¬Verified marked (firstWritten integerKeys).1 "a-1") ∧
      ((firstWritten addressed).2.isSome ∧ ¬Verified marked (firstWritten addressed).1 "a-1") ∧
        (firstWritten .shared).2.isSome ∧ ¬Verified marked (firstWritten .shared).1 "a-1" := by
  have integers : (firstWritten integerKeys).2.isSome := by decide +kernel
  have objects : (firstWritten addressed).2.isSome := by decide +kernel
  have metadata : (firstWritten .shared).2.isSome := by decide +kernel
  refine ⟨⟨integers, first_not_verified integers ?_⟩, ⟨objects, first_not_verified objects ?_⟩,
    metadata, first_not_verified metadata ?_⟩
  · decide +kernel
  · decide +kernel
  · decide +kernel

end Artifact
