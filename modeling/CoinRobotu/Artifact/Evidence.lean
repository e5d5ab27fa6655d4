import CoinRobotu.Artifact.Manifest
import CoinRobotu.Chained.Links
import CoinRobotu.Interleaving.Calls

/-!
# Edits of the artifact manifest

Whether the chain of the manifest is broken, once it has been repaired, is changed by no operation.
-/

namespace Artifact

open Chained Interleaving

section Chains

variable {digest : String → String} {artifacts : List Entry} {entry : Entry}
  {manifest : Manifest} {position : ℕ} {prevHash : String}

/-- An entry fits a position: the number of the entry and the hash of the one before. -/
def FitsPosition (digest : String → String) (position : ℕ × String) (entry : Entry) : Prop :=
  entry.fits digest position.1 position.2

def nextPosition (position : ℕ × String) (entry : Entry) : ℕ × String :=
  (position.1 + 1, entry.chainHash.getD "")

def Intact (digest : String → String) (artifacts : List Entry) : Prop :=
  Linked (FitsPosition digest) nextPosition (0, "GENESIS") artifacts

theorem fitsPosition_iff :
    FitsPosition digest (position, prevHash) entry ↔
      entry.chainPosition = some position ∧ entry.prevChainHash = some prevHash ∧
        entry.chainHash = some (computeChainHash digest prevHash entry) :=
  decide_eq_true_iff

theorem fitsPosition_pinned (first second : ℕ × String) (entry : Entry)
    (fits : FitsPosition digest first entry) (otherFits : FitsPosition digest second entry) :
    first = second := by
  obtain ⟨isPosition, isHash, _⟩ := fitsPosition_iff.mp fits
  obtain ⟨isOther, isOtherHash, _⟩ := fitsPosition_iff.mp otherFits
  rw [isPosition] at isOther
  rw [isHash] at isOtherHash
  exact Prod.ext (Option.some.inj isOther) (Option.some.inj isOtherHash)

theorem findBroken_eq_none :
    findBroken digest position prevHash artifacts = none ↔
      Linked (FitsPosition digest) nextPosition (position, prevHash) artifacts := by
  induction artifacts generalizing position prevHash with
  | nil => exact iff_of_true rfl trivial
  | cons entry artifacts ih =>
    unfold findBroken
    by_cases fits : entry.fits digest position prevHash = true
    · rw [if_pos fits, ih]
      exact (and_iff_right fits).symm
    · rw [if_neg fits]
      exact iff_of_false nofun fun linked => fits linked.1

theorem chainBroken_iff : (chainStatus digest artifacts).chainBroken = true ↔
    ¬Intact digest artifacts := by
  show (findBroken digest 0 "GENESIS" artifacts).isSome = true ↔ _
  rw [← Option.ne_none_iff_isSome]
  exact findBroken_eq_none.not

theorem not_unchained (isPosition : entry.chainPosition.isSome)
    (isPrev : entry.prevChainHash.isSome) (isHash : entry.chainHash.isSome) :
    entry.unchained = false := by
  unfold Entry.unchained
  rw [Option.isNone_eq_false_iff.mpr isHash, Option.isNone_eq_false_iff.mpr isPrev,
    Option.isNone_eq_false_iff.mpr isPosition]
  rfl

theorem fits_chained : FitsPosition digest (position, prevHash)
    (entry.chained digest position prevHash) :=
  fitsPosition_iff.mpr ⟨rfl, rfl, rfl⟩

theorem fits_not_unchained (fits : FitsPosition digest (position, prevHash) entry) :
    entry.unchained = false := by
  obtain ⟨isPosition, isPrev, isHash⟩ := fitsPosition_iff.mp fits
  apply not_unchained
  · exact isPosition ▸ rfl
  · exact isPrev ▸ rfl
  · exact isHash ▸ rfl

theorem linked_complete
    (linked : Linked (FitsPosition digest) nextPosition (position, prevHash) artifacts) :
    artifacts.any Entry.unchained = false := by
  induction artifacts generalizing position prevHash with
  | nil => rfl
  | cons entry artifacts ih =>
    rw [List.any_cons, fits_not_unchained linked.1, ih linked.2]
    rfl

theorem linked_rechain : Linked (FitsPosition digest) nextPosition (position, prevHash)
    (rechain digest position prevHash artifacts) := by
  induction artifacts generalizing position prevHash with
  | nil => trivial
  | cons entry artifacts ih => exact ⟨fits_chained, ih⟩

theorem ensureChain_complete :
    (ensureChain digest manifest).artifacts.any Entry.unchained = false := by
  unfold ensureChain
  dsimp only
  split
  · exact linked_complete linked_rechain
  · rename_i complete
    exact Bool.eq_false_iff.mpr complete

theorem ensureChain_of_complete (complete : manifest.artifacts.any Entry.unchained = false) :
    (ensureChain digest manifest).artifacts = manifest.artifacts := by
  unfold ensureChain
  rw [if_neg (Bool.eq_false_iff.mp complete)]

theorem positionAfter_eq :
    positionAfter nextPosition (0, "GENESIS") artifacts =
      (artifacts.length, match artifacts.getLast? with
        | some last => last.chainHash.getD ""
        | none => "GENESIS") := by
  induction artifacts using List.reverseRecOn with
  | nil => rfl
  | append_singleton artifacts entry ih =>
    rw [positionAfter_append, ih, List.getLast?_concat, List.length_append]
    rfl

theorem intact_append : Intact digest (appendEntry digest manifest entry).artifacts ↔
    Intact digest manifest.artifacts := by
  unfold Intact appendEntry
  rw [linked_concat, positionAfter_eq]
  exact and_iff_left fits_chained

theorem append_complete (complete : manifest.artifacts.any Entry.unchained = false) :
    (appendEntry digest manifest entry).artifacts.any Entry.unchained = false := by
  unfold appendEntry
  rw [List.any_append, complete]
  rfl

end Chains

section Calls

variable {digest : String → String} {readTime : String → Option ℤ} {directory : Export}
  {call : Call} {calls : List Call}

def repaired (digest : String → String) (directory : Export) : List Entry :=
  (ensureChain digest (readManifest directory)).artifacts

/-- The manifest is complete, and intact if and only if it was so once repaired. -/
def Keeps (digest : String → String) (directory after : Export) : Prop :=
  (readManifest after).artifacts.any Entry.unchained = false ∧
    (Intact digest (readManifest after).artifacts ↔ Intact digest (repaired digest directory))

theorem keeps_rewrite :
    Keeps digest directory
      (writeManifest directory (ensureChain digest (readManifest directory))) :=
  ⟨ensureChain_complete, Iff.rfl⟩

theorem Keeps.repaired_eq {after : Export} (keeps : Keeps digest directory after) :
    repaired digest after = (readManifest after).artifacts := ensureChain_of_complete keeps.1

theorem Keeps.trans {middle after : Export} (first : Keeps digest directory middle)
    (second : Keeps digest middle after) : Keeps digest directory after := by
  refine ⟨second.1, second.2.trans ?_⟩
  rw [first.repaired_eq]
  exact first.2

/-- A call that raises before it writes leaves the directory as it is, and any other keeps the
manifest. -/
theorem perform_keeps : perform digest readTime directory call = directory ∨
    Keeps digest directory (perform digest readTime directory call) := by
  cases call with
  | write request =>
    cases isData : request.unsigned with
    | none =>
      left
      simp only [perform, writeSignedArtifact, isData]
    | some data =>
      right
      simp only [perform, writeSignedArtifact, isData]
      exact ⟨append_complete ensureChain_complete, intact_append⟩
  | list | verifyChain => exact .inr keeps_rewrite
  | verify artifactId =>
    right
    unfold perform verifyArtifact
    dsimp only
    split
    · exact keeps_rewrite
    · exact keeps_rewrite.trans keeps_rewrite
  | verifyAll filters => exact .inr (keeps_rewrite.trans keeps_rewrite)

theorem intact_repaired : Intact digest (repaired digest (perform digest readTime directory call)) ↔
    Intact digest (repaired digest directory) := by
  rcases @perform_keeps digest readTime directory call with unchanged | keeps
  · rw [unchanged]
  · rw [keeps.repaired_eq]
    exact keeps.2

theorem intact_repaired_afterAll :
    Intact digest (repaired digest (afterAll (perform digest readTime) directory calls)) ↔
      Intact digest (repaired digest directory) := by
  induction calls generalizing directory with
  | nil => rfl
  | cons call calls ih =>
    have later : Intact digest (repaired digest (afterAll (perform digest readTime)
        (perform digest readTime directory call) calls)) ↔
          Intact digest (repaired digest (perform digest readTime directory call)) :=
      ih
    exact later.trans intact_repaired

theorem intact_afterAll :
    Intact digest (readManifest (afterAll (perform digest readTime) .empty calls)).artifacts := by
  have kept : ∀ directory call, Intact digest (readManifest directory).artifacts →
      Intact digest (readManifest (perform digest readTime directory call)).artifacts := by
    intro directory call intact
    rcases @perform_keeps digest readTime directory call with unchanged | keeps
    · rw [unchanged]
      exact intact
    · rw [keeps.2]
      unfold repaired
      rw [ensureChain_of_complete (linked_complete intact)]
      exact intact
  exact @afterAll_keeps _ _ _ (fun directory => Intact digest (readManifest directory).artifacts)
    _ calls trivial kept

end Calls

section Edits

variable {digest : String → String} {readTime : String → Option ℤ} {before later : List Call}

def Entry.edited (entry : Entry) (sha256 artifactId createdAt : String)
    (chainHash : Option String) : Entry :=
  { entry with
    sha256 := sha256
    artifactId := artifactId
    createdAt := createdAt
    chainHash := chainHash }

/-- An edit of one entry: the entry is removed, or its checksum, identifier, time and chain hash are
set, or the chain hash is removed. -/
inductive Edit where
  | remove
  | change (sha256 artifactId createdAt : String) (chainHash : Option String)

def Edit.apply (edit : Edit) (index : ℕ) (artifacts : List Entry) : List Entry :=
  match edit with
  | .remove => artifacts.eraseIdx index
  | .change sha256 artifactId createdAt chainHash =>
    artifacts.modify index (·.edited sha256 artifactId createdAt chainHash)

def Edit.edited (edit : Edit) (index : ℕ) (directory : Export) : Export :=
  writeManifest directory
    { readManifest directory with artifacts := edit.apply index (readManifest directory).artifacts }

/-- The edit leaves a chain hash, and another one or another text that it is computed from. -/
def Edit.Noticeable (entry : Entry) : Edit → Prop
  | .remove => True
  | .change sha256 artifactId createdAt chainHash =>
    chainHash.isSome ∧ (chainHash ≠ entry.chainHash ∨
      sha256 ++ artifactId ++ createdAt ≠ entry.sha256 ++ entry.artifactId ++ entry.createdAt)

theorem modify_split {change : Entry → Entry} {earlier behind : List Entry} {entry : Entry} :
    (earlier ++ entry :: behind).modify earlier.length change =
      earlier ++ change entry :: behind := by
  induction earlier with
  | nil => rfl
  | cons first earlier ih =>
    rw [List.cons_append, List.length_cons, List.modify_succ_cons, ih]
    rfl

theorem eraseIdx_split {earlier behind : List Entry} {entry : Entry} :
    (earlier ++ entry :: behind).eraseIdx earlier.length = earlier ++ behind := by
  rw [List.eraseIdx_append_of_length_le le_rfl, Nat.sub_self]
  rfl

theorem around_complete {earlier behind : List Entry} {entry : Entry}
    (intact : Intact digest (earlier ++ entry :: behind)) :
    earlier.any Entry.unchained = false ∧ behind.any Entry.unchained = false := by
  have complete := linked_complete intact
  rw [List.any_append, List.any_cons] at complete
  obtain ⟨before, rest⟩ := Bool.or_eq_false_iff.mp complete
  exact ⟨before, (Bool.or_eq_false_iff.mp rest).2⟩

/-- An edited entry is where it was, and followed by what was behind it, exactly if neither the
chain hash nor the text that it is computed from is another one. -/
theorem fits_edited (injective : Function.Injective digest) {position : ℕ × String} {entry : Entry}
    {sha256 artifactId createdAt hash : String} (fits : FitsPosition digest position entry) :
    (FitsPosition digest position (entry.edited sha256 artifactId createdAt (some hash)) ∧
        nextPosition position (entry.edited sha256 artifactId createdAt (some hash)) =
          nextPosition position entry) ↔
      some hash = entry.chainHash ∧
        sha256 ++ artifactId ++ createdAt =
          entry.sha256 ++ entry.artifactId ++ entry.createdAt := by
  obtain ⟨isPosition, isPrev, isHash⟩ := fitsPosition_iff.mp fits
  unfold nextPosition
  rw [Prod.mk.injEq, fitsPosition_iff, isHash]
  have texts : computeChainHash digest position.2 entry =
      computeChainHash digest position.2 (entry.edited sha256 artifactId createdAt (some hash)) ↔
        sha256 ++ artifactId ++ createdAt =
          entry.sha256 ++ entry.artifactId ++ entry.createdAt := by
    unfold computeChainHash Entry.edited
    rw [injective.eq_iff, eq_comm]
    simp only [String.append_assoc, String.append_right_inj]
  constructor
  · rintro ⟨⟨_, _, isNew⟩, _, sameHash⟩
    have isSame : hash = computeChainHash digest position.2 entry := sameHash
    refine ⟨by rw [isSame], texts.mp ?_⟩
    exact isSame.symm.trans (Option.some.inj isNew)
  · rintro ⟨sameHash, sameText⟩
    refine ⟨⟨isPosition, isPrev, ?_⟩, rfl, Option.some.inj sameHash⟩
    rw [← texts.mpr sameText]
    exact sameHash

/-- The edit of an entry that is not the last one of an intact chain leaves the repaired chain
broken exactly if it is noticeable. -/
theorem broken_edit_iff (injective : Function.Injective digest) {edit : Edit}
    {earlier behind : List Entry} {entry : Entry} {schemaVersion : String} (notLast : behind ≠ [])
    (intact : Intact digest (earlier ++ entry :: behind)) :
    ¬Intact digest (ensureChain digest
        ⟨schemaVersion, edit.apply earlier.length (earlier ++ entry :: behind)⟩).artifacts ↔
      edit.Noticeable entry := by
  obtain ⟨beforeComplete, behindComplete⟩ := around_complete intact
  cases edit with
  | remove =>
    unfold Edit.apply
    rw [eraseIdx_split]
    have complete : (earlier ++ behind).any Entry.unchained = false := by
      rw [List.any_append, beforeComplete, behindComplete]
      rfl
    rw [ensureChain_of_complete complete]
    apply iff_of_true _ trivial
    unfold Intact
    rw [linked_remove fitsPosition_pinned notLast intact, positionAfter_eq]
    intro unmoved
    exact absurd (congrArg Prod.fst unmoved) (Nat.succ_ne_self _).symm
  | change sha256 artifactId createdAt chainHash =>
    unfold Edit.apply Edit.Noticeable
    dsimp only
    rw [modify_split]
    cases chainHash with
    | none =>
      apply iff_of_false
      · rw [not_not]
        have missing : (earlier ++ entry.edited sha256 artifactId createdAt none :: behind).any
            Entry.unchained = true := by
          rw [List.any_append, List.any_cons, Bool.or_eq_true, Bool.or_eq_true]
          exact .inr (.inl rfl)
        unfold ensureChain
        rw [if_pos missing]
        exact linked_rechain
      · exact fun noticeable => nomatch noticeable.1
    | some hash =>
      obtain ⟨_, fits, _⟩ := linked_append.mp intact
      have complete : (earlier ++ entry.edited sha256 artifactId createdAt (some hash) ::
          behind).any Entry.unchained = false := by
        obtain ⟨isPosition, isPrev, _⟩ := fitsPosition_iff.mp fits
        have edited : (entry.edited sha256 artifactId createdAt (some hash)).unchained = false :=
          not_unchained (isPosition ▸ rfl) (isPrev ▸ rfl) rfl
        rw [List.any_append, List.any_cons, beforeComplete, behindComplete, edited]
        rfl
      rw [ensureChain_of_complete complete]
      unfold Intact
      rw [linked_change fitsPosition_pinned notLast intact, fits_edited injective fits, not_and_or]
      exact (and_iff_right rfl).symm

/-- Whatever calls come before and after an edit of an entry that is not the last one, the chain is
reported as broken exactly if the edit is noticeable. -/
theorem edit_noticed_iff (injective : Function.Injective digest) {edit : Edit} {index : ℕ}
    {entry : Entry}
    (found : (readManifest (afterAll (perform digest readTime) .empty before)).artifacts[index]? =
      some entry)
    (notLast : index + 1 <
      (readManifest (afterAll (perform digest readTime) .empty before)).artifacts.length) :
    (verifyManifestChain digest (afterAll (perform digest readTime)
      (edit.edited index (afterAll (perform digest readTime) .empty before)) later)).2.chainBroken =
        true ↔ edit.Noticeable entry := by
  have intact := @intact_afterAll digest readTime before
  generalize afterAll (perform digest readTime) .empty before = made at found notLast intact ⊢
  obtain ⟨isInside, isEntry⟩ := List.getElem?_eq_some_iff.mp found
  have split : (readManifest made).artifacts = (readManifest made).artifacts.take index ++
      entry :: (readManifest made).artifacts.drop (index + 1) := by
    rw [← isEntry, List.getElem_cons_drop, List.take_append_drop]
  have isIndex : ((readManifest made).artifacts.take index).length = index :=
    List.length_take_of_le isInside.le
  have behind : (readManifest made).artifacts.drop (index + 1) ≠ [] := by
    rw [Ne, List.drop_eq_nil_iff, not_le]
    exact notLast
  rw [split] at intact
  have edited := @broken_edit_iff digest injective edit _ _ entry (readManifest made).schemaVersion
    behind intact
  rw [isIndex, ← split] at edited
  rw [← edited]
  show (chainStatus digest (repaired digest _)).chainBroken = true ↔ _
  rw [chainBroken_iff, intact_repaired_afterAll]
  rfl

def plainRequest (artifactId : String) : Request :=
  ⟨.noMembers, "proof", "proof", "2026-01-01", artifactId, "20260101000000", 2⟩

def twoWrites : List Call := [.write (plainRequest "a-1"), .write (plainRequest "a-2")]

/-- The directory with the two artifacts, under a hash that leaves its text as it is. -/
def twoArtifacts : Export := afterAll (perform id fun _ => none) .empty twoWrites

def firstEntry : Entry :=
  ((plainRequest "a-1").entry id ((plainRequest "a-1").unsigned.getD .noMembers)).chained id 0
    "GENESIS"

/-- Another checksum in the first entry is noticed, also after the artifacts have been listed. -/
theorem edit_noticed_example :
    (readManifest twoArtifacts).artifacts[0]? = some firstEntry ∧
      1 < (readManifest twoArtifacts).artifacts.length ∧
      (verifyManifestChain id (afterAll (perform id fun _ => none)
        ((Edit.change "forged" "a-1" "2026-01-01" firstEntry.chainHash).edited 0 twoArtifacts)
          [.list])).2.chainBroken = true := by
  have found : (readManifest twoArtifacts).artifacts[0]? = some firstEntry := by decide +kernel
  have notLast : 1 < (readManifest twoArtifacts).artifacts.length := by decide +kernel
  refine ⟨found, notLast, ?_⟩
  apply (edit_noticed_iff Function.injective_id found notLast).mpr
  exact ⟨rfl, .inr (by decide +kernel)⟩

/-- The checksum of the first artifact is replaced and the chain hash removed, or the end of the
identifier becomes the beginning of the time: the chain is not reported as broken. -/
theorem edits_are_laundered :
    Function.Injective (id : String → String) ∧
      1 < (readManifest twoArtifacts).artifacts.length ∧
      (verifyManifestChain id ((Edit.change "forged" "a-1" "2026-01-01" none).edited 0
        twoArtifacts)).2.chainBroken = false ∧
      (verifyManifestChain id ((Edit.change firstEntry.sha256 "a-" "12026-01-01"
        firstEntry.chainHash).edited 0 twoArtifacts)).2.chainBroken = false :=
  ⟨Function.injective_id, by decide +kernel, by decide +kernel, by decide +kernel⟩

end Edits

end Artifact
