import Mathlib.Data.List.Sort
import CoinRobotu.Encoding.Value
import CoinRobotu.Runtime.Text

/-!
# The audit trail

An audit log has a correlation id, which is taken from its details or from the entity that it is
about. The hash of a log is over that of the latest log which the correlation id selects, and over
what is logged. A trace is verified by reading the logs that a correlation id selects, in the order
of their times, and by computing their hashes again.

A log is selected by the entity, or by its details, as the database casts them to a text, being like
the correlation id: `ILIKE` ignores case, and knows wildcards.

The hash, the text of a time and the text of a list or a dictionary are arguments.
-/

namespace Audit

open Encoding
open Runtime (strip lower upper)

/-- What the code takes from outside: the hash, `isoformat`, `str` of an array or an object, and the
environment of the process. -/
structure Setting where
  digest : String → String
  isoformat : ℕ → String
  pythonText : Json .value → String
  appEnvironment : Option String

/-- The columns that are hashed, read or reported. The times are in microseconds. -/
structure AuditLog where
  id : String
  action : String
  entityType : String
  entityId : String
  severity : String
  environment : String
  isTestEvent : Bool
  previousEventHash : Option String
  eventHash : Option String
  details : Json .members
  createdAt : ℕ
  deriving DecidableEq

/-- `\uXXXX`. -/
def unicodeEscape (code : ℕ) : List Char :=
  ['\\', 'u', hexDigit (code / 4096 % 16), hexDigit (code / 256 % 16), hexDigit (code / 16 % 16),
    hexDigit (code % 16)]

/-- A character inside a literal, where what is outside printable ASCII is escaped. -/
def asciiEscape (character : Char) : List Char :=
  let code := character.toNat
  if code < 127 then escape character
  else if code < 0x10000 then unicodeEscape code
  else unicodeEscape (0xd800 + (code - 0x10000) / 0x400) ++
    unicodeEscape (0xdc00 + (code - 0x10000) % 0x400)

/-- The style of `json.dumps`, in which the database driver writes a JSON column. -/
def storedStyle : Style :=
  ⟨[' '], [' '], fun text => '"' :: (text.toList.flatMap asciiEscape ++ ['"'])⟩

/-- `ILIKE`: a percent sign stands for any text, an underscore for any character, and a backslash
takes the next character as it is. -/
def ilike : List Char → List Char → Bool
  | [], text => text.isEmpty
  | '%' :: pattern, text => text.tails.any (ilike pattern ·)
  | '\\' :: character :: pattern, first :: text =>
    Runtime.lowerChar first = Runtime.lowerChar character && ilike pattern text
  | '_' :: pattern, _ :: text => ilike pattern text
  | character :: pattern, first :: text =>
    Runtime.lowerChar first = Runtime.lowerChar character && ilike pattern text
  | _ :: _, [] => false

def detailsText (details : Json .members) : List Char := (Json.object details).write storedStyle

def selects (correlationId : String) (log : AuditLog) : Bool :=
  log.entityId = correlationId ||
    ilike ('%' :: (correlationId.toList ++ ['%'])) (detailsText log.details)

def ordered (logs : List AuditLog) : List AuditLog :=
  logs.insertionSort fun log other => log.createdAt ≤ other.createdAt

section Payloads

variable (setting : Setting)

/-- `str(value)`. -/
def Setting.str : Json .value → String
  | .string text => text
  | .null => "None"
  | .bool true => "True"
  | .bool false => "False"
  | .number figure => String.ofList figure.literal
  | value => setting.pythonText value

/-- `str(value or "")`. -/
def Setting.strOrEmpty (value : Option (Json .value)) : String :=
  match value with
  | some value => if value.truthy then setting.str value else ""
  | none => ""

/-- What is hashed of a log, besides the hash of the log before it. -/
structure Payload where
  action : String
  entityType : String
  entityId : String
  severity : String
  environment : String
  isTestEvent : Bool
  correlationId : String
  details : Json .members
  createdAt : String

/-- The members of the object of a payload. -/
def Payload.members (payload : Payload) : Json .members :=
  .member "action" (.string payload.action)
    (.member "entity_type" (.string payload.entityType)
      (.member "entity_id" (.string payload.entityId)
        (.member "severity" (.string payload.severity)
          (.member "environment" (.string payload.environment)
            (.member "is_test_event" (.bool payload.isTestEvent)
              (.member "correlation_id" (.string payload.correlationId)
                (.member "details" (.object payload.details)
                  (.member "created_at" (.string payload.createdAt) .noMembers))))))))

def Payload.json (payload : Payload) : Json .value := .object payload.members

/-- The canonical text of a payload, with the members of every object sorted. -/
def Payload.canonical (payload : Payload) : List Char :=
  payload.json.sortKeys.write compactStyle

/-- `_compute_event_hash`, and `_compute_hash` of the verification. -/
def Setting.computeHash (previousHash : String) (payload : Payload) : String :=
  setting.digest (String.ofList (previousHash.toList ++ '|' :: payload.canonical))

end Payloads

section Writing

variable (setting : Setting)

/-- What is asked of `create_audit_log`, with the request context, the clock and the identifier of
the row. -/
structure Request where
  id : String
  action : String
  entityType : String
  entityId : String
  severity : String
  details : Option (Json .members)
  requestId : Json .value
  sessionId : Json .value
  route : Json .value
  method : Json .value
  now : ℕ

/-- `_extract_correlation_id`. -/
def Setting.extractCorrelationId (entityId : String) (details : Json .members) : String :=
  let candidates := [setting.strOrEmpty (Json.get "correlation_id" details),
    setting.strOrEmpty (Json.get "trace_id" details),
    setting.strOrEmpty (Json.get "request_id" details), entityId]
  match (candidates.map strip).find? (· ≠ "") with
  | some value => value
  | none => if entityId = "" then "unknown" else entityId

/-- `ALLOWED_ENVIRONMENTS`. -/
def allowedEnvironments : List String := ["prod", "staging", "test", "canary"]

def resolveAlias (raw : String) : String :=
  if raw = "production" ∨ raw = "live" then "prod"
  else if raw = "dev" ∨ raw = "development" then "staging"
  else if raw = "qa" then "test"
  else raw

def Setting.rawEnvironment (details : Json .members) : String :=
  let stated := setting.strOrEmpty (Json.get "environment" details)
  let process := setting.appEnvironment.getD ""
  lower (strip (if stated ≠ "" then stated else if process ≠ "" then process else "prod"))

/-- The environment of `_normalize_environment`. -/
def Setting.normalizeEnvironment (details : Json .members) : String :=
  let normalized := resolveAlias (setting.rawEnvironment details)
  if normalized ∈ allowedEnvironments then normalized else "test"

/-- Whether `_normalize_environment` takes the details for those of a test. -/
def isTestEvent (environment : String) (details : Json .members) : Bool :=
  match Json.get "is_test_event" details with
  | some value => value.truthy
  | none => environment ∈ ["test", "canary"]

def Request.contextDetails (request : Request) : Json .members :=
  Json.set "method" request.method
    (Json.set "route" request.route
      (Json.set "session_id" request.sessionId
        (Json.set "request_id" request.requestId (request.details.getD .noMembers))))

def Setting.correlationId (request : Request) : String :=
  setting.extractCorrelationId request.entityId request.contextDetails

def Setting.mergedDetails (request : Request) : Json .members :=
  let details := request.contextDetails
  let environment := setting.normalizeEnvironment details
  Json.set "is_test_event" (.bool (isTestEvent environment details))
    (Json.set "correlation_id" (.string (setting.correlationId request))
      (Json.set "environment" (.string environment) details))

def lastHash (logs : List AuditLog) : String :=
  match logs.getLast? with
  | some log => if log.eventHash.getD "" = "" then "GENESIS" else log.eventHash.getD ""
  | none => "GENESIS"

def previousHash (logs : List AuditLog) (correlationId : String) : String :=
  lastHash (ordered (logs.filter (selects correlationId)))

/-- The payload that is hashed when a log is written. -/
def Setting.signaturePayload (request : Request) : Payload where
  action := request.action
  entityType := request.entityType
  entityId := request.entityId
  severity := upper request.severity
  environment := setting.normalizeEnvironment request.contextDetails
  isTestEvent := isTestEvent (setting.normalizeEnvironment request.contextDetails)
    request.contextDetails
  correlationId := setting.correlationId request
  details := setting.mergedDetails request
  createdAt := setting.isoformat request.now

/-- The log that is written after others. -/
def Setting.newLog (logs : List AuditLog) (request : Request) : AuditLog :=
  let previous := previousHash logs (setting.correlationId request)
  { id := request.id
    action := request.action
    entityType := request.entityType
    entityId := request.entityId
    severity := request.severity
    environment := setting.normalizeEnvironment request.contextDetails
    isTestEvent := isTestEvent (setting.normalizeEnvironment request.contextDetails)
      request.contextDetails
    previousEventHash := some previous
    eventHash := some (setting.computeHash previous (setting.signaturePayload request))
    details := setting.mergedDetails request
    createdAt := request.now }

/-- `create_audit_log`. -/
def createAuditLog (logs : List AuditLog) (request : Request) : List AuditLog :=
  logs ++ [setting.newLog logs request]

end Writing

section Verification

variable (setting : Setting)

/-- `_canonical_payload`. -/
def Setting.canonicalPayload (log : AuditLog) : Payload where
  action := log.action
  entityType := log.entityType
  entityId := log.entityId
  severity := upper log.severity
  environment := lower (if log.environment = "" then "test" else log.environment)
  isTestEvent := log.isTestEvent
  correlationId :=
    let stated := setting.strOrEmpty (Json.get "correlation_id" log.details)
    if stated ≠ "" then stated else log.entityId
  details := log.details
  createdAt := setting.isoformat log.createdAt

def AuditLog.storedPrevious (log : AuditLog) : String :=
  if log.previousEventHash.getD "" = "" then "GENESIS" else log.previousEventHash.getD ""

def AuditLog.storedHash (log : AuditLog) : String := log.eventHash.getD ""

structure Mismatch where
  eventId : String
  expectedPreviousEventHash : String
  storedPreviousEventHash : String
  expectedEventHash : String
  storedEventHash : String
  deriving DecidableEq

/-- The mismatches of the loop of `verify_trace_integrity`, from a previous hash on. -/
def findMismatches : String → List AuditLog → List Mismatch
  | _, [] => []
  | previousHash, log :: logs =>
    let expected := setting.computeHash previousHash (setting.canonicalPayload log)
    let later := findMismatches (if log.storedHash = "" then expected else log.storedHash) logs
    if log.storedHash = expected ∧ log.storedPrevious = previousHash then later
    else ⟨log.id, previousHash, log.storedPrevious, expected, log.storedHash⟩ :: later

structure Verification where
  correlationId : String
  environment : Option String
  eventsChecked : ℕ
  tampered : Bool
  mismatches : List Mismatch
  deriving DecidableEq

/-- The filters of `verify_trace_integrity`. -/
def verifies (correlationId : String) (environment : Option String) (log : AuditLog) : Bool :=
  selects (strip correlationId) log &&
    (environment.getD "" = "" || log.environment = lower (strip (environment.getD "")))

/-- `verify_trace_integrity`. -/
def verifyTraceIntegrity (logs : List AuditLog) (correlationId : String)
    (environment : Option String) : Verification :=
  let rows := ordered (logs.filter (verifies correlationId environment))
  let mismatches := findMismatches setting "GENESIS" rows
  { correlationId := strip correlationId
    environment := environment
    eventsChecked := rows.length
    tampered := !mismatches.isEmpty
    mismatches := mismatches }

end Verification

end Audit
