import Mathlib.Data.List.Sort
import CoinRobotu.Encoding.Value

/-!
# The manifest of signed artifacts

An artifact is a JSON document with its own checksum. The manifest has an entry for each artifact,
and each entry a hash over that of the entry before it. Every operation reads the manifest, repairs
the chain where a field of it is missing, and writes the whole manifest back, also those that only
list or verify.

The hash, the clock, the identifiers and the sizes that the file system reports are arguments.
-/

namespace Artifact

open Encoding

/-- An entry of the manifest. -/
structure Entry where
  artifactId : String
  filename : String
  artifactType : String
  sha256 : String
  size : ℕ
  createdAt : String
  proofId : Json .value
  evidenceType : Json .value
  status : Json .value
  chainPosition : Option ℕ
  prevChainHash : Option String
  chainHash : Option String
  deriving DecidableEq

structure Manifest where
  schemaVersion : String
  artifacts : List Entry
  deriving DecidableEq

/-- `CHAIN_SCHEMA_VERSION`. -/
def chainSchemaVersion : String := "1.1"

/-- The export directory: the documents by their file names, and the manifest, once it has been
written. -/
structure Export where
  files : String → Option (Json .members)
  manifest : Option Manifest

def Export.empty : Export := ⟨fun _ => none, none⟩

/-- `_read_manifest`. -/
def readManifest (directory : Export) : Manifest := directory.manifest.getD ⟨chainSchemaVersion, []⟩

/-- `_write_manifest`. -/
def writeManifest (directory : Export) (manifest : Manifest) : Export :=
  { directory with manifest := some manifest }

section Chain

variable (digest : String → String)

/-- `_compute_chain_hash`. -/
def computeChainHash (prevChainHash : String) (entry : Entry) : String :=
  digest (prevChainHash ++ entry.sha256 ++ entry.artifactId ++ entry.createdAt)

def Entry.unchained (entry : Entry) : Bool :=
  entry.chainHash.isNone || entry.prevChainHash.isNone || entry.chainPosition.isNone

def Entry.chained (entry : Entry) (position : ℕ) (prevChainHash : String) : Entry :=
  { entry with
    chainPosition := some position
    prevChainHash := some prevChainHash
    chainHash := some (computeChainHash digest prevChainHash entry) }

def rechain : ℕ → String → List Entry → List Entry
  | _, _, [] => []
  | position, prevHash, entry :: entries =>
    entry.chained digest position prevHash ::
      rechain (position + 1) (computeChainHash digest prevHash entry) entries

/-- `_ensure_chain`. -/
def ensureChain (manifest : Manifest) : Manifest where
  schemaVersion := chainSchemaVersion
  artifacts :=
    if manifest.artifacts.any Entry.unchained then rechain digest 0 "GENESIS" manifest.artifacts
    else manifest.artifacts

end Chain

section Documents

/-- `value or fallback`. -/
def orElse (value : Option (Json .value)) (fallback : Json .value) : Json .value :=
  match value with
  | some value => if value.truthy then value else fallback
  | none => fallback

/-- `setdefault`. -/
def setDefault (key : String) (value : Json .value) (members : Json .members) : Json .members :=
  if (Json.get key members).isSome then members else Json.set key value members

variable (digest : String → String)

def computeArtifactChecksum (payload : Json .members) : String :=
  let normalized := match Json.get "metadata" payload with
    | some (.object metadata) =>
      Json.set "metadata" (.object (Json.set "sha256" (.string "") metadata)) payload
    | _ => payload
  let normalized :=
    if (Json.get "sha256" normalized).isSome then Json.set "sha256" (.string "") normalized
    else normalized
  digest (String.ofList ((Json.object normalized).sortKeys.write compactStyle))

/-- What is asked of `write_signed_artifact`, with the clock, the identifier and the size. -/
structure Request where
  payload : Json .members
  artifactType : String
  filenamePrefix : String
  createdAt : String
  artifactId : String
  stamp : String
  size : ℕ

/-- The document of an artifact before it is signed; none where the metadata is no object. -/
def Request.unsigned (request : Request) : Option (Json .members) :=
  let data := setDefault "metadata" (.object .noMembers)
    (setDefault "schema_version" (.string "1.0") request.payload)
  match Json.get "metadata" data with
  | some (.object metadata) =>
    let metadata := Json.set "schema_version" (.string "1.0") metadata
    let metadata := Json.set "artifact_type" (.string request.artifactType) metadata
    let metadata := Json.set "created_at" (.string request.createdAt) metadata
    let metadata := Json.set "artifact_id" (.string request.artifactId) metadata
    let metadata := Json.set "sha256" (.string "") metadata
    let data := Json.set "metadata" (.object metadata) data
    let data := Json.set "artifact_type" (.string request.artifactType) data
    let data := Json.set "created_at"
      (orElse (Json.get "created_at" data) (.string request.createdAt)) data
    some (Json.set "sha256" (.string "") data)
  | _ => none

def metadataOf (data : Json .members) : Json .members :=
  match Json.get "metadata" data with
  | some (.object metadata) => metadata
  | _ => .noMembers

def sign (data : Json .members) : Json .members :=
  let checksum := .string (computeArtifactChecksum digest data)
  Json.set "sha256" checksum
    (Json.set "metadata" (.object (Json.set "sha256" checksum (metadataOf data))) data)

def Request.filename (request : Request) : String :=
  request.filenamePrefix ++ "_" ++ request.stamp ++ "_" ++
    String.ofList (request.artifactId.toList.take 8) ++ ".json"

/-- The entry of a signed document, not chained yet. -/
def Request.entry (request : Request) (data : Json .members) : Entry where
  artifactId := request.artifactId
  filename := request.filename
  artifactType := request.artifactType
  sha256 := computeArtifactChecksum digest data
  size := request.size
  createdAt := request.createdAt
  proofId := orElse (Json.get "proof_id" data) (orElse (Json.get "run_id" data)
    (orElse (Json.get "execution_id" data) (.string request.artifactId)))
  evidenceType := orElse (Json.get "evidence_type" data)
    ((Json.get "artifact_type" (metadataOf data)).getD (.string "unknown"))
  status := orElse (Json.get "lifecycle_proof_status" data)
    (orElse (Json.get "status" data) (.string "generated"))
  chainPosition := none
  prevChainHash := none
  chainHash := none

end Documents

section Operations

inductive Failure where
  | typeError
  | artifactNotFound
  | artifactFileMissing
  | attributeError
  deriving DecidableEq, Repr

variable (digest : String → String)

def chainedLast (manifest : Manifest) (entry : Entry) : Entry :=
  entry.chained digest manifest.artifacts.length
    (match manifest.artifacts.getLast? with
      | some last => last.chainHash.getD ""
      | none => "GENESIS")

def appendEntry (manifest : Manifest) (entry : Entry) : Manifest :=
  { manifest with artifacts := manifest.artifacts ++ [chainedLast digest manifest entry] }

def writeFile (directory : Export) (filename : String) (data : Json .members) : Export :=
  { directory with
    files := fun other => if other = filename then some data else directory.files other }

/-- `write_signed_artifact`. -/
def writeSignedArtifact (directory : Export) (request : Request) :
    Except Failure (Export × Entry) :=
  match request.unsigned with
  | none => .error .typeError
  | some data =>
    let directory := writeFile directory request.filename (sign digest data)
    let manifest := ensureChain digest (readManifest directory)
    let entry := request.entry digest data
    .ok (writeManifest directory (appendEntry digest manifest entry),
      chainedLast digest manifest entry)

def newer (entry other : Entry) : Bool := other.createdAt ≤ entry.createdAt

/-- `list_manifest_artifacts`. -/
def listManifestArtifacts (directory : Export) : Export × List Entry :=
  let manifest := ensureChain digest (readManifest directory)
  (writeManifest directory manifest, manifest.artifacts.insertionSort (newer · ·))

def Entry.fits (entry : Entry) (position : ℕ) (prevHash : String) : Bool :=
  entry.chainPosition = some position ∧ entry.prevChainHash = some prevHash ∧
    entry.chainHash = some (computeChainHash digest prevHash entry)

def findBroken : ℕ → String → List Entry → Option (ℕ × Entry)
  | _, _, [] => none
  | position, prevHash, entry :: entries =>
    if entry.fits digest position prevHash then
      findBroken (position + 1) (entry.chainHash.getD "") entries
    else some (position, entry)

structure ChainStatus where
  total : ℕ
  chainBroken : Bool
  brokenIndex : Option ℕ
  brokenArtifactId : Option String
  deriving DecidableEq

def chainStatus (artifacts : List Entry) : ChainStatus :=
  let broken := findBroken digest 0 "GENESIS" artifacts
  ⟨artifacts.length, broken.isSome, broken.map (·.1), broken.map (·.2.artifactId)⟩

/-- `verify_manifest_chain`. -/
def verifyManifestChain (directory : Export) : Export × ChainStatus :=
  let manifest := ensureChain digest (readManifest directory)
  (writeManifest directory manifest, chainStatus digest manifest.artifacts)

/-- The checksum of a document is the one in its entry, in its metadata and in itself. -/
def checksumHolds (entry : Entry) (payload metadata : Json .members) : Bool :=
  computeArtifactChecksum digest payload = entry.sha256 ∧
    Json.get "sha256" metadata = some (.string entry.sha256) ∧
      Json.get "sha256" payload = some (.string entry.sha256)

/-- `payload.get("metadata", {})`, where it is an object. -/
def readMetadata (payload : Json .members) : Except Failure (Json .members) :=
  match Json.get "metadata" payload with
  | some (.object metadata) => .ok metadata
  | some _ => .error .attributeError
  | none => .ok .noMembers

/-- The entry at an index is where it should be, after the hashes of those before it. -/
def chainValidAt (index : ℕ) : ℕ → String → List Entry → Bool
  | _, _, [] => false
  | position, prevHash, entry :: entries =>
    if position = index then entry.fits digest position prevHash
    else
      let chainHash := entry.chainHash.getD ""
      chainValidAt index (position + 1)
        (if chainHash = "" then computeChainHash digest prevHash entry else chainHash) entries

structure ArtifactReport where
  entry : Entry
  sha256Actual : String
  verified : Bool
  chainValid : Bool
  chain : ChainStatus
  deriving DecidableEq

/-- What `verify_artifact` finds in the manifest that it has read, before it verifies the chain:
the index of the entry, and the entry with its document and the metadata of the document. -/
def findDocument (directory : Export) (manifest : Manifest) (artifactId : String) :
    Except Failure (ℕ × Entry × Json .members × Json .members) :=
  let index := manifest.artifacts.findIdx (·.artifactId = artifactId)
  match manifest.artifacts[index]? with
  | none => .error .artifactNotFound
  | some entry =>
    match directory.files entry.filename with
    | none => .error .artifactFileMissing
    | some payload => (readMetadata payload).map (index, entry, payload, ·)

/-- `verify_artifact`. What it has written stays written when it raises. -/
def verifyArtifact (directory : Export) (artifactId : String) :
    Export × Except Failure ArtifactReport :=
  let manifest := ensureChain digest (readManifest directory)
  let directory := writeManifest directory manifest
  match findDocument directory manifest artifactId with
  | .error failure => (directory, .error failure)
  | .ok (index, entry, payload, metadata) =>
    let (directory, status) := verifyManifestChain digest directory
    (directory, .ok
      { entry := entry
        sha256Actual := computeArtifactChecksum digest payload
        verified := checksumHolds digest entry payload metadata
        chainValid := chainValidAt digest index 0 "GENESIS" manifest.artifacts
        chain := status })

inductive ItemStatus where
  | verified
  | missing
  | mismatch
  | chainBroken
  deriving DecidableEq, Repr

def ItemStatus.text : ItemStatus → String
  | .verified => "verified"
  | .missing => "missing"
  | .mismatch => "mismatch"
  | .chainBroken => "chain_broken"

structure ItemReport where
  artifactId : String
  filename : String
  artifactType : String
  status : ItemStatus
  reasonCodes : List String
  deriving DecidableEq

/-- The filters of `verify_all_artifacts`. -/
structure Filters where
  artifactType : Option String
  dateFrom : Option ℤ
  dateTo : Option ℤ
  statusFilter : String

def Filters.passes (filters : Filters) (readTime : String → Option ℤ) (entry : Entry) : Bool :=
  let createdAt := if entry.createdAt = "" then none else readTime entry.createdAt
  (filters.artifactType.getD "" = "" ∨ filters.artifactType = some entry.artifactType) ∧
    ¬(∃ time ∈ createdAt, ∃ first ∈ filters.dateFrom, time < first) ∧
      ¬(∃ time ∈ createdAt, ∃ last ∈ filters.dateTo, last < time)

/-- The report of an entry, for the first broken index of the chain. -/
def itemReport (directory : Export) (brokenIndex : Option ℕ) (index : ℕ) (entry : Entry) :
    Except Failure ItemReport := do
  let (status, reasonCodes) ← match directory.files entry.filename with
    | none => .ok (.missing, ["missing_artifact"])
    | some payload => do
      let metadata ← readMetadata payload
      if checksumHolds digest entry payload metadata then .ok (ItemStatus.verified, [])
      else .ok (.mismatch, ["sha256_mismatch"])
  let report := ItemReport.mk entry.artifactId entry.filename entry.artifactType
  if ∃ broken ∈ brokenIndex, broken ≤ index then
    return report .chainBroken (reasonCodes ++ ["chain_integrity_failure"])
  else return report status reasonCodes

structure Summary where
  total : ℕ
  verified : ℕ
  mismatch : ℕ
  missing : ℕ
  chainBroken : ℕ
  chainBrokenIndex : Option ℕ
  chainBrokenArtifactId : Option String
  items : List ItemReport
  deriving DecidableEq

/-- `verify_all_artifacts`. -/
def verifyAllArtifacts (readTime : String → Option ℤ) (directory : Export) (filters : Filters) :
    Export × Except Failure Summary :=
  let manifest := ensureChain digest (readManifest directory)
  let (directory, status) := verifyManifestChain digest (writeManifest directory manifest)
  let looked := manifest.artifacts.zipIdx.filter fun item => filters.passes readTime item.1
  (directory, do
    let all ← looked.mapM fun item => itemReport digest directory status.brokenIndex item.2 item.1
    let results :=
      if filters.statusFilter = "" ∨ filters.statusFilter = "all" then all
      else all.filter (·.status.text = filters.statusFilter)
    let count := fun status => results.countP (·.status = status)
    return {
      total := results.length
      verified := count .verified
      mismatch := count .mismatch
      missing := count .missing
      chainBroken := count .chainBroken
      chainBrokenIndex := status.brokenIndex
      chainBrokenArtifactId := status.brokenArtifactId
      items := results })

inductive Call where
  | write (request : Request)
  | list
  | verify (artifactId : String)
  | verifyChain
  | verifyAll (filters : Filters)

/-- The directory after a call. -/
def perform (readTime : String → Option ℤ) (directory : Export) : Call → Export
  | .write request =>
    match writeSignedArtifact digest directory request with
    | .ok (after, _) => after
    | .error _ => directory
  | .list => (listManifestArtifacts digest directory).1
  | .verify artifactId => (verifyArtifact digest directory artifactId).1
  | .verifyChain => (verifyManifestChain digest directory).1
  | .verifyAll filters => (verifyAllArtifacts digest readTime directory filters).1

end Operations

end Artifact
