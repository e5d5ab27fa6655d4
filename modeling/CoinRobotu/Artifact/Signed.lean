import CoinRobotu.Artifact.Payload

/-!
# Signed documents

The checksum of an artifact is taken from the payload in memory, and is taken again from the file
that is read back. The two are the same exactly if the document is steady: its dictionaries are
sorted in memory as by the texts of their keys, and what has no JSON text of its own is rendered as
its deep copy is.
-/

namespace Artifact

open Encoding Memory

section Documents

variable {sorting : Sorting} {checksum text : String} {data metadata : Memory .members}

def clearMetadata (payload : Json .members) : Json .members :=
  match Json.get "metadata" payload with
  | some (.object metadata) =>
    Json.set "metadata" (.object (Json.set "sha256" (.string "") metadata)) payload
  | _ => payload

def normalizedDocument (payload : Json .members) : Json .members :=
  if (Json.get "sha256" (clearMetadata payload)).isSome then
    Json.set "sha256" (.string "") (clearMetadata payload)
  else clearMetadata payload

theorem computeArtifactChecksum_eq {digest : String → String} {payload : Json .members} :
    computeArtifactChecksum digest payload =
      digest (String.ofList ((Json.object (normalizedDocument payload)).sortKeys.write
        compactStyle)) := rfl

theorem normalizedDocument_distinct {payload : Json .members} (distinct : payload.keys.Nodup) :
    (normalizedDocument payload).keys.Nodup := by
  have cleared : (clearMetadata payload).keys.Nodup := by
    unfold clearMetadata
    split
    · exact Json.set_distinct distinct
    · exact distinct
  unfold normalizedDocument
  split
  · exact Json.set_distinct cleared
  · exact cleared

def savedMetadata (checksum : String) (data metadata : Memory .members) : Json .members :=
  .loadInto .noMembers (writtenIn (signWith checksum data)
    (Memory.set "sha256" (.string checksum) metadata)).loaded

/-- A document that has not been signed: its checksums are empty. -/
structure Unsigned (data metadata : Memory .members) : Prop where
  isMetadata : Memory.get "metadata" data = some (.object metadata)
  emptyInMetadata : Memory.get "sha256" metadata = some (.string "")
  emptyInData : Memory.get "sha256" data = some (.string "")

namespace Unsigned

variable (isUnsigned : Unsigned data metadata)
include isUnsigned

theorem normalized_eq : normalized data = data := by
  have unchanged : setMetadataChecksum "" data = data := by
    unfold setMetadataChecksum
    rw [isUnsigned.isMetadata]
    dsimp only
    rw [set_of_get isUnsigned.emptyInMetadata, set_of_get isUnsigned.isMetadata]
  unfold normalized
  dsimp only
  rw [unchanged, isUnsigned.emptyInData]
  exact set_of_get isUnsigned.emptyInData

theorem signWith_eq : signWith checksum data =
    Memory.set "sha256" (.string checksum)
      (Memory.set "metadata" (.object (Memory.set "sha256" (.string checksum) metadata)) data) := by
  unfold signWith setMetadataChecksum
  rw [isUnsigned.isMetadata]

theorem texts_signWith : (signWith checksum data).texts = data.texts := by
  have present : (Memory.get "sha256" (Memory.set "metadata"
      (.object (Memory.set "sha256" (.string checksum) metadata)) data)).isSome := by
    rw [get_set, if_neg (by decide), isUnsigned.emptyInData]
    rfl
  rw [isUnsigned.signWith_eq, texts_set present, texts_set (isUnsigned.isMetadata ▸ rfl)]

theorem find_signWith (distinct : data.texts.Nodup) :
    find text (signWith checksum data) =
      if "sha256" = text then some (.string checksum)
      else if "metadata" = text then
        some (.object (Memory.set "sha256" (.string checksum) metadata))
      else find text data := by
  have signed := distinct
  rw [← @texts_signWith checksum data metadata isUnsigned, isUnsigned.signWith_eq] at signed
  rw [isUnsigned.signWith_eq, find_set signed, find_set]
  rw [texts_set (isUnsigned.isMetadata ▸ rfl)]
  exact distinct

theorem metadataValue_eq : metadataValue data = .object metadata := by
  unfold metadataValue
  rw [isUnsigned.isMetadata]
  rfl

theorem metadataValue_signWith : metadataValue (signWith checksum data) =
    .object (Memory.set "sha256" (.string checksum) metadata) := by
  unfold metadataValue
  rw [isUnsigned.signWith_eq, get_set, if_neg (by decide), get_set, if_pos rfl]
  rfl

theorem get_documentOf (distinct : data.texts.Nodup) :
    Json.get text (documentOf (signWith checksum data)) =
      if "sha256" = text then some (.string checksum)
      else if "metadata" = text then some (.object (savedMetadata checksum data metadata))
      else (find text data).map fun value => (writtenIn (signWith checksum data) value).loaded := by
  have signed : (signWith checksum data).texts.Nodup := by
    rw [isUnsigned.texts_signWith]
    exact distinct
  unfold documentOf writtenIn
  rw [get_document signed, isUnsigned.find_signWith distinct]
  split
  · rfl
  · split <;> rfl

theorem get_savedMetadata (distinct : metadata.texts.Nodup) :
    Json.get text (savedMetadata checksum data metadata) =
      if "sha256" = text then some (.string checksum)
      else (find text metadata).map fun value =>
        (writtenIn (signWith checksum data) value).loaded := by
  have signed : (Memory.set "sha256" (.string checksum) metadata).texts.Nodup := by
    rw [texts_set (isUnsigned.emptyInMetadata ▸ rfl)]
    exact distinct
  unfold savedMetadata writtenIn
  rw [get_document signed, find_set signed]
  split <;> rfl

theorem get_normalizedDocument (distinct : data.texts.Nodup) :
    Json.get text (normalizedDocument (documentOf (signWith checksum data))) =
      if "sha256" = text then some (.string "")
      else if "metadata" = text then
        some (.object (Json.set "sha256" (.string "") (savedMetadata checksum data metadata)))
      else (find text data).map fun value => (writtenIn (signWith checksum data) value).loaded := by
  have looked : ∀ key, _ := fun key =>
    @get_documentOf checksum key data metadata isUnsigned distinct
  have cleared : clearMetadata (documentOf (signWith checksum data)) =
      Json.set "metadata" (.object (Json.set "sha256" (.string "")
        (savedMetadata checksum data metadata))) (documentOf (signWith checksum data)) := by
    unfold clearMetadata
    rw [looked, if_neg (by decide), if_pos rfl]
  have present : (Json.get "sha256" (clearMetadata
      (documentOf (signWith checksum data)))).isSome := by
    rw [cleared, Json.get_set, if_neg (by decide), looked]
    rfl
  unfold normalizedDocument
  rw [if_pos present, cleared, Json.get_set, Json.get_set, looked]
  by_cases isChecksum : "sha256" = text
  · rw [if_pos isChecksum, if_pos isChecksum]
  · rw [if_neg isChecksum, if_neg isChecksum, if_neg isChecksum]
    split <;> rfl

theorem shared_apart (named : checksum ≠ "") :
    (metadataValue data).canonical sorting .null ≠
      (Json.loaded ((metadataValue (signWith checksum data)).written Rendered.text .null)).sortKeys
        := by
  rw [isUnsigned.metadataValue_eq, isUnsigned.metadataValue_signWith, canonical_object]
  intro same
  have empty : (Json.noMembers).keys.Nodup := List.nodup_nil
  have members := (Json.ofEntries_eq_sortKeys (Json.loadInto_distinct empty)).mp
    (Json.object.inj same)
  obtain ⟨increasing, looked⟩ := members
  rw [List.map_map] at increasing
  have distinct : metadata.texts.Nodup :=
    Sorting.distinct (Sorting.increasing_iff.mpr increasing)
  have signed : (Memory.set "sha256" (.string checksum) metadata).texts.Nodup := by
    rw [texts_set (isUnsigned.emptyInMetadata ▸ rfl)]
    exact distinct
  have inside := (sorting.perm _).mem_iff.mpr (mem_of_get isUnsigned.emptyInMetadata)
  have isEmpty := (looked "sha256" (.string "")).mp (List.mem_map.mpr ⟨_, inside, rfl⟩)
  rw [get_document signed, find_set signed, if_pos rfl] at isEmpty
  exact named (Json.string.inj (Option.some.inj isEmpty))

/-- The canonical metadata is the metadata that is read back, without its checksum and sorted,
exactly if the metadata is steady. -/
theorem metadata_agrees (named : checksum ≠ "") :
    (Memory.object metadata).canonical sorting ((metadataValue data).canonical sorting .null) =
        (Json.object (Json.set "sha256" (.string "")
          (savedMetadata checksum data metadata))).sortKeys ↔
      (Memory.object metadata).steady sorting = true := by
  have isSaved : (savedMetadata checksum data metadata).keys.Nodup :=
    Json.loadInto_distinct List.nodup_nil
  rw [canonical_object, Json.sortKeys, Json.object.injEq, steady, Bool.and_eq_true, steady_members]
  apply @Sorting.ofEntries_iff _ sorting metadata.entries _ (canonical sorting _)
    (fun value => value.steady sorting = true)
  · exact Json.set_distinct isSaved
  · intro distinct key absent
    have isOther : "sha256" ≠ key := by
      rintro rfl
      exact absent (mem_texts_of_find (find_of_get distinct isUnsigned.emptyInMetadata))
    rw [Json.get_set, if_neg isOther, isUnsigned.get_savedMetadata distinct, if_neg isOther,
      find_eq_none.mpr absent]
    rfl
  · intro distinct item inside
    have found := find_of_mem distinct inside
    rw [Json.get_set]
    by_cases isChecksum : "sha256" = item.1.text
    · refine ⟨_, if_pos isChecksum, ?_⟩
      rw [← isChecksum, find_of_get distinct isUnsigned.emptyInMetadata] at found
      rw [← Option.some.inj found]
      exact iff_of_true rfl rfl
    · rw [if_neg isChecksum, isUnsigned.get_savedMetadata distinct, if_neg isChecksum, found]
      refine ⟨_, rfl, ?_⟩
      exact agrees (isUnsigned.shared_apart named) item.2

/-- The canonical document is the signed one that is read back, without its checksums and sorted,
exactly if the document is steady. -/
theorem document_agrees (named : checksum ≠ "") :
    canonicalData sorting data =
        (Json.object (normalizedDocument (documentOf (signWith checksum data)))).sortKeys ↔
      (Memory.object data).steady sorting = true := by
  have empty : (Json.noMembers).keys.Nodup := List.nodup_nil
  have isRead : (documentOf (signWith checksum data)).keys.Nodup := Json.loadInto_distinct empty
  unfold canonicalData
  rw [canonical_object, Json.sortKeys, Json.object.injEq, steady, Bool.and_eq_true, steady_members]
  apply @Sorting.ofEntries_iff _ sorting data.entries _ (canonical sorting _)
    (fun value => value.steady sorting = true)
  · exact normalizedDocument_distinct isRead
  · intro distinct key absent
    have notChecksum : "sha256" ≠ key := by
      rintro rfl
      exact absent (mem_texts_of_find (find_of_get distinct isUnsigned.emptyInData))
    have notMetadata : "metadata" ≠ key := by
      rintro rfl
      exact absent (mem_texts_of_find (find_of_get distinct isUnsigned.isMetadata))
    rw [isUnsigned.get_normalizedDocument distinct, if_neg notChecksum, if_neg notMetadata,
      find_eq_none.mpr absent]
    rfl
  · intro distinct item inside
    have found := find_of_mem distinct inside
    rw [isUnsigned.get_normalizedDocument distinct]
    by_cases isChecksum : "sha256" = item.1.text
    · refine ⟨_, if_pos isChecksum, ?_⟩
      rw [← isChecksum, find_of_get distinct isUnsigned.emptyInData] at found
      rw [← Option.some.inj found]
      exact iff_of_true rfl rfl
    · rw [if_neg isChecksum]
      by_cases isMetadata : "metadata" = item.1.text
      · refine ⟨_, if_pos isMetadata, ?_⟩
        rw [← isMetadata, find_of_get distinct isUnsigned.isMetadata] at found
        rw [← Option.some.inj found]
        exact isUnsigned.metadata_agrees named
      · rw [if_neg isMetadata, found]
        refine ⟨_, rfl, ?_⟩
        exact agrees (isUnsigned.shared_apart named) item.2

theorem distinct_of_steady (steady : (Memory.object data).steady sorting = true) :
    data.texts.Nodup ∧ metadata.texts.Nodup := by
  have distinct : ∀ {members : Memory .members},
      (Memory.object members).steady sorting = true → members.texts.Nodup := by
    intro members isSteady
    rw [Memory.steady, Bool.and_eq_true] at isSteady
    exact Sorting.distinct isSteady.1
  refine ⟨distinct steady, distinct ?_⟩
  rw [Memory.steady, Bool.and_eq_true, steady_members] at steady
  exact steady.2 _ (mem_of_get isUnsigned.isMetadata)

end Unsigned

theorem distinct_of_agrees {members : Json .members} (distinct : members.keys.Nodup)
    (same : canonicalData sorting data = (Json.object members).sortKeys) : data.texts.Nodup := by
  unfold canonicalData at same
  rw [canonical_object] at same
  have increasing := ((Json.ofEntries_eq_sortKeys distinct).mp (Json.object.inj same)).1
  rw [List.map_map] at increasing
  exact Sorting.distinct (Sorting.increasing_iff.mpr increasing)

end Documents

section Checksums

variable {sorting : Sorting} {digest : String → String} {data : Memory .members}
  {signing : Signing} {entry : Entry}

def isDictionary : Memory .value → Bool
  | .object _ => true
  | _ => false

def Signing.steady (sorting : Sorting) (signing : Signing) : Bool :=
  match signing.unsigned with
  | some data => isDictionary (metadataValue data) && (Memory.object data).steady sorting
  | none => false

theorem steady_eq (isData : signing.unsigned = some data) :
    signing.steady sorting =
      (isDictionary (metadataValue data) && (Memory.object data).steady sorting) := by
  unfold Signing.steady
  rw [isData]

theorem metadata_cases {value metadata : Memory .value}
    (isMetadata : signing.metadata value = some metadata) :
    (∃ members, metadata = .object members ∧
        Memory.get "sha256" members = some (.string "")) ∨
      ∃ subject, metadata = .rendered subject := by
  cases value with
  | object members =>
    refine .inl ⟨_, (Option.some.inj isMetadata).symm, ?_⟩
    rw [get_set, if_pos rfl]
  | rendered subject =>
    change (if subject.mapping then some (Memory.rendered subject) else none) = _ at isMetadata
    split at isMetadata
    · exact .inr ⟨subject, (Option.some.inj isMetadata).symm⟩
    · cases isMetadata
  | _ => cases isMetadata

theorem unsigned_cases (isData : signing.unsigned = some data) :
    (∃ metadata, Unsigned data metadata) ∨
      Memory.get "sha256" data = some (.string "") ∧
        ∃ subject, Memory.get "metadata" data = some (.rendered subject) := by
  obtain ⟨metadata, isMetadata, rfl⟩ := Option.map_eq_some_iff.mp isData
  obtain ⟨value, _, isValue⟩ := Option.bind_eq_some_iff.mp isMetadata
  dsimp only
  rcases metadata_cases isValue with ⟨members, rfl, emptyInMetadata⟩ | ⟨subject, rfl⟩
  · refine .inl ⟨members, ?_, emptyInMetadata, ?_⟩
    · simp only [get_set, String.reduceEq, ↓reduceIte]
    · rw [get_set, if_pos rfl]
  · refine .inr ⟨?_, subject, ?_⟩
    · rw [get_set, if_pos rfl]
    · simp only [get_set, String.reduceEq, ↓reduceIte]

/-- The checksums of a document in memory and of one that is read back are the same exactly if the
one is the canonical value of the other. -/
theorem checksum_eq_iff (injective : Function.Injective digest) {payload : Json .members} :
    computeArtifactChecksum digest payload = computeChecksum sorting digest data ↔
      canonicalData sorting (normalized data) =
        (Json.object (normalizedDocument payload)).sortKeys := by
  rw [computeArtifactChecksum_eq, computeChecksum, injective.eq_iff,
    String.ofList_inj, (Json.write_injective compactStyle_readable).eq_iff]
  exact eq_comm

theorem checksumHolds_iff {payload metadata : Json .members} :
    checksumHolds digest entry payload metadata = true ↔
      computeArtifactChecksum digest payload = entry.sha256 ∧
        Json.get "sha256" metadata = some (.string entry.sha256) ∧
          Json.get "sha256" payload = some (.string entry.sha256) := decide_eq_true_iff

theorem not_checksumHolds_rendered (injective : Function.Injective digest) {checksum : String}
    {subject : Rendered} {metadata : Json .members}
    (isEmpty : Memory.get "sha256" data = some (.string ""))
    (isRendered : Memory.get "metadata" data = some (.rendered subject))
    (same : computeArtifactChecksum digest (documentOf (signWith checksum data)) =
      computeChecksum sorting digest data) :
    readMetadata (documentOf (signWith checksum data)) ≠ .ok metadata := by
  have unchanged : ∀ other, setMetadataChecksum other data = data := by
    intro other
    unfold setMetadataChecksum
    rw [isRendered]
  have isNormal : normalized data = data := by
    unfold normalized
    dsimp only
    rw [unchanged, isEmpty]
    exact set_of_get isEmpty
  have isSigned : signWith checksum data = Memory.set "sha256" (.string checksum) data := by
    unfold signWith
    rw [unchanged]
  have empty : (Json.noMembers).keys.Nodup := List.nodup_nil
  rw [checksum_eq_iff injective, isNormal] at same
  have distinct := distinct_of_agrees
    (normalizedDocument_distinct (Json.loadInto_distinct empty)) same
  have signed : (Memory.set "sha256" (.string checksum) data).texts.Nodup := by
    rw [texts_set (isEmpty ▸ rfl)]
    exact distinct
  unfold readMetadata documentOf writtenIn
  rw [isSigned, get_document signed, find_set signed, if_neg (by decide),
    find_of_get distinct isRendered]
  exact nofun

theorem checksumHolds_signed (injective : Function.Injective digest)
    (named : ∀ text, digest text ≠ "") (isData : signing.unsigned = some data)
    (isChecksum : entry.sha256 = computeChecksum sorting digest data) :
    (∃ metadata, readMetadata (documentOf (signWith entry.sha256 data)) = .ok metadata ∧
        checksumHolds digest entry (documentOf (signWith entry.sha256 data)) metadata = true) ↔
      signing.steady sorting = true := by
  have notEmpty : entry.sha256 ≠ "" := isChecksum ▸ named _
  rcases unsigned_cases isData with ⟨metadata, isUnsigned⟩ | ⟨isEmpty, subject, isRendered⟩
  · have agreement : computeArtifactChecksum digest (documentOf (signWith entry.sha256 data)) =
        entry.sha256 ↔ (Memory.object data).steady sorting = true := by
      rw [← isUnsigned.document_agrees notEmpty]
      conv_lhs => rhs; rw [isChecksum]
      rw [checksum_eq_iff injective, isUnsigned.normalized_eq]
    rw [steady_eq isData, isUnsigned.metadataValue_eq]
    show _ ↔ (Memory.object data).steady sorting = true
    constructor
    · rintro ⟨_, _, holds⟩
      exact agreement.mp (checksumHolds_iff.mp holds).1
    · intro steady
      obtain ⟨distinct, metadataDistinct⟩ := isUnsigned.distinct_of_steady steady
      refine ⟨savedMetadata entry.sha256 data metadata, ?_, checksumHolds_iff.mpr ⟨?_, ?_, ?_⟩⟩
      · unfold readMetadata
        rw [isUnsigned.get_documentOf distinct, if_neg (by decide), if_pos rfl]
      · exact agreement.mpr steady
      · rw [isUnsigned.get_savedMetadata metadataDistinct, if_pos rfl]
      · rw [isUnsigned.get_documentOf distinct, if_pos rfl]
  · rw [steady_eq isData]
    apply iff_of_false
    · rintro ⟨metadata, isRead, holds⟩
      have same := (checksumHolds_iff.mp holds).1.trans isChecksum
      exact not_checksumHolds_rendered injective isEmpty isRendered same isRead
    · unfold metadataValue
      rw [isRendered]
      exact Bool.false_ne_true

end Checksums

end Artifact
