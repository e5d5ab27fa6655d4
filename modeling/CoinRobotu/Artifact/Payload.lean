import CoinRobotu.Artifact.Manifest
import CoinRobotu.Encoding.Memory

/-!
# The writing of a payload in memory

A payload is signed in memory: the checksum is that of a deep copy, with the members of every
dictionary in the order of their keys. What is written to the file is the payload itself, in the
order in which it is, and with the metadata as it is by then.

How the keys of a dictionary are sorted is an argument.
-/

namespace Artifact

open Encoding

/-- `value or fallback`. -/
def memoryOr (value : Option (Memory .value)) (fallback : Memory .value) : Memory .value :=
  match value with
  | some value => if value.truthy then value else fallback
  | none => fallback

/-- `setdefault`. -/
def setMissing (key : String) (value : Memory .value) (members : Memory .members) :
    Memory .members :=
  if (Memory.get key members).isSome then members else Memory.set key value members

/-- `data["metadata"]["sha256"] = checksum`, where the metadata is a dictionary. -/
def setMetadataChecksum (checksum : String) (data : Memory .members) : Memory .members :=
  match Memory.get "metadata" data with
  | some (.object metadata) =>
    Memory.set "metadata" (.object (Memory.set "sha256" (.string checksum) metadata)) data
  | _ => data

def normalized (payload : Memory .members) : Memory .members :=
  let payload := setMetadataChecksum "" payload
  if (Memory.get "sha256" payload).isSome then Memory.set "sha256" (.string "") payload else payload

def metadataValue (data : Memory .members) : Memory .value :=
  (Memory.get "metadata" data).getD .null

/-- The document with its canonical members, the metadata being the dictionary that is shared. -/
def canonicalData (sorting : Sorting) (data : Memory .members) : Json .value :=
  (Memory.object data).canonical sorting ((metadataValue data).canonical sorting .null)

/-- `compute_artifact_checksum`, of a document in memory. -/
def computeChecksum (sorting : Sorting) (digest : String → String) (payload : Memory .members) :
    String :=
  digest (String.ofList ((canonicalData sorting (normalized payload)).write compactStyle))

def signWith (checksum : String) (data : Memory .members) : Memory .members :=
  Memory.set "sha256" (.string checksum) (setMetadataChecksum checksum data)

/-- What is written for a value of a document, the metadata being the dictionary that is shared. -/
def writtenIn {part : Part} (data : Memory .members) (value : Memory part) : Json part :=
  value.written Rendered.text ((metadataValue data).written Rendered.text .null)

def documentOf (data : Memory .members) : Json .members :=
  .loadInto .noMembers (writtenIn data data).loaded

section Writing

/-- What is asked of `write_signed_artifact`, with the clock, the identifier and the size. -/
structure Signing where
  payload : Memory .members
  artifactType : String
  filenamePrefix : String
  createdAt : String
  artifactId : String
  stamp : String
  size : ℕ

/-- The metadata with what is set in it; none where no items can be set. -/
def Signing.metadata (signing : Signing) : Memory .value → Option (Memory .value)
  | .object metadata =>
    let metadata := Memory.set "schema_version" (.string "1.0") metadata
    let metadata := Memory.set "artifact_type" (.string signing.artifactType) metadata
    let metadata := Memory.set "created_at" (.string signing.createdAt) metadata
    let metadata := Memory.set "artifact_id" (.string signing.artifactId) metadata
    some (.object (Memory.set "sha256" (.string "") metadata))
  | .rendered metadata => if metadata.mapping then some (.rendered metadata) else none
  | _ => none

/-- The document of an artifact before it is signed. -/
def Signing.unsigned (signing : Signing) : Option (Memory .members) :=
  let data := setMissing "metadata" (.object .noMembers)
    (setMissing "schema_version" (.string "1.0") signing.payload)
  ((Memory.get "metadata" data).bind signing.metadata).map fun metadata =>
    let data := Memory.set "metadata" metadata data
    let data := Memory.set "artifact_type" (.string signing.artifactType) data
    let data := Memory.set "created_at"
      (memoryOr (Memory.get "created_at" data) (.string signing.createdAt)) data
    Memory.set "sha256" (.string "") data

def Signing.filename (signing : Signing) : String :=
  signing.filenamePrefix ++ "_" ++ signing.stamp ++ "_" ++
    String.ofList (signing.artifactId.toList.take 8) ++ ".json"

/-- A document cannot be written: the metadata is in itself, or the keys of a dictionary cannot be
sorted. -/
def unwritable (sorting : Sorting) (data : Memory .members) : Bool :=
  (metadataValue data).shares || !(Memory.object data).sortable sorting

/-- A value of the manifest as it is read back; none where `json.dumps` raises, as it has no
default there. -/
def manifestValue (data : Memory .members) (value : Memory .value) : Option (Json .value) :=
  if value.plain ((metadataValue data).plain false) then some (writtenIn data value).loaded
  else none

def Signing.typeInMetadata (signing : Signing) : Memory .value → Memory .value
  | .object metadata => (Memory.get "artifact_type" metadata).getD (.string "unknown")
  | _ => .string signing.artifactType

/-- The entry of a signed document, not chained yet. -/
def Signing.entry (signing : Signing) (checksum : String) (data : Memory .members) :
    Option Entry := do
  let proofId ← manifestValue data (memoryOr (Memory.get "proof_id" data)
    (memoryOr (Memory.get "run_id" data)
      (memoryOr (Memory.get "execution_id" data) (.string signing.artifactId))))
  let evidenceType ← manifestValue data (memoryOr (Memory.get "evidence_type" data)
    (signing.typeInMetadata (metadataValue data)))
  let status ← manifestValue data (memoryOr (Memory.get "lifecycle_proof_status" data)
    (memoryOr (Memory.get "status" data) (.string "generated")))
  return {
    artifactId := signing.artifactId
    filename := signing.filename
    artifactType := signing.artifactType
    sha256 := checksum
    size := signing.size
    createdAt := signing.createdAt
    proofId := proofId
    evidenceType := evidenceType
    status := status
    chainPosition := none
    prevChainHash := none
    chainHash := none }

variable (sorting : Sorting) (digest : String → String)

/-- `write_signed_artifact`, of a payload in memory: the entry, and none where it raises. -/
def writeSigned (directory : Export) (signing : Signing) : Export × Option Entry :=
  match signing.unsigned with
  | none => (directory, none)
  | some data =>
    if unwritable sorting data then (directory, none)
    else
      let checksum := computeChecksum sorting digest data
      let signed := signWith checksum data
      let directory := writeFile directory signing.filename (documentOf signed)
      match signing.entry checksum signed with
      | none => (directory, none)
      | some entry =>
        let manifest := ensureChain digest (readManifest directory)
        (writeManifest directory (appendEntry digest manifest entry),
          some (chainedLast digest manifest entry))

/-- What is done to the directory: a payload is written, or another operation is called. -/
inductive Operation where
  | sign (signing : Signing)
  | call (call : Call)

def Operation.filename : Operation → Option String
  | .sign signing => some signing.filename
  | .call (.write request) => some request.filename
  | .call _ => none

def operate (readTime : String → Option ℤ) (directory : Export) : Operation → Export
  | .sign signing => (writeSigned sorting digest directory signing).1
  | .call call => perform digest readTime directory call

end Writing

end Artifact
