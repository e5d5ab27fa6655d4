import CoinRobotu.Audit.Trail
import CoinRobotu.Automata.History
import CoinRobotu.Chained.Links
import CoinRobotu.Encoding.Decimal
import CoinRobotu.Interleaving.Calls

/-!
# Untampered traces of the audit trail

A log builds on the latest log that its own correlation id selects, and a verification expects it to
build on the log before it among those that the verified id and environment select. Nothing but
`create_audit_log` having written, the verification finds no mismatch if these are the same for
every log that it reads.
-/

namespace Audit

open Automata Chained Encoding Interleaving
open Runtime (strip lower upper)

variable {setting : Setting} {log : AuditLog} {logs : List AuditLog} {request : Request}

theorem lastHash_ne_empty : lastHash logs ≠ "" := by
  unfold lastHash
  split
  · split
    · decide
    · assumption
  · decide

theorem lastHash_eq (isLast : logs.getLast? = some log) (own : log.storedHash ≠ "") :
    lastHash logs = log.storedHash := by
  unfold lastHash
  rw [isLast]
  exact if_neg own

theorem extractCorrelationId_ne_empty {entityId : String} {details : Json .members} :
    setting.extractCorrelationId entityId details ≠ "" := by
  unfold Setting.extractCorrelationId
  dsimp only
  split
  · rename_i value isFound
    have holds := List.find?_some isFound
    exact of_decide_eq_true holds
  · split
    · decide
    · assumption

theorem normalizeEnvironment_allowed {details : Json .members} :
    setting.normalizeEnvironment details ∈ allowedEnvironments := by
  unfold Setting.normalizeEnvironment
  dsimp only
  by_cases allowed : resolveAlias (setting.rawEnvironment details) ∈ allowedEnvironments
  · rw [if_pos allowed]
    exact allowed
  · rw [if_neg allowed]
    decide

theorem lower_allowed {environment : String} (allowed : environment ∈ allowedEnvironments) :
    lower (if environment = "" then "test" else environment) = environment := by
  have all : ∀ environment ∈ allowedEnvironments,
      String.ofList ((if environment = "" then "test" else environment).toList.map
        Runtime.lowerChar) = environment := by
    decide
  unfold lower
  exact all environment allowed

theorem correlationId_ne_empty : setting.correlationId request ≠ "" :=
  extractCorrelationId_ne_empty

theorem strOrEmpty_string {text : String} :
    setting.strOrEmpty (some (.string text)) = text := by
  unfold Setting.strOrEmpty Json.truthy Setting.str
  dsimp only
  by_cases empty : text = ""
  · rw [empty]
    rfl
  · rw [if_pos (decide_eq_true empty)]

def Setting.correlationOf (setting : Setting) (log : AuditLog) : String :=
  (setting.canonicalPayload log).correlationId

theorem canonicalPayload_newLog :
    setting.canonicalPayload (setting.newLog logs request) = setting.signaturePayload request := by
  have environment : lower (if setting.normalizeEnvironment request.contextDetails = "" then "test"
      else setting.normalizeEnvironment request.contextDetails) =
        setting.normalizeEnvironment request.contextDetails :=
    lower_allowed normalizeEnvironment_allowed
  have isStored : Json.get "correlation_id" (setting.mergedDetails request) =
      some (.string (setting.correlationId request)) := by
    unfold Setting.mergedDetails
    rw [Json.get_set, if_neg (by decide), Json.get_set, if_pos rfl]
  have stated : setting.strOrEmpty (Json.get "correlation_id" (setting.mergedDetails request)) =
      setting.correlationId request := by
    rw [isStored, strOrEmpty_string]
  unfold Setting.canonicalPayload Setting.newLog Setting.signaturePayload
  dsimp only
  rw [environment, stated, if_pos correlationId_ne_empty]

theorem correlationOf_newLog :
    setting.correlationOf (setting.newLog logs request) = setting.correlationId request :=
  congrArg Payload.correlationId canonicalPayload_newLog

/-- A log builds on the hash that it states, the latest one for its own correlation id among the
logs before it. -/
structure Built (setting : Setting) (earlier : List AuditLog) (log : AuditLog) : Prop where
  previous : log.storedPrevious = previousHash earlier (setting.correlationOf log)
  hash : log.eventHash =
    some (setting.computeHash log.storedPrevious (setting.canonicalPayload log))

theorem built_newLog : Built setting logs (setting.newLog logs request) := by
  have previous : (setting.newLog logs request).storedPrevious =
      previousHash logs (setting.correlationId request) := if_neg lastHash_ne_empty
  constructor
  · rw [previous, correlationOf_newLog]
  · rw [previous, canonicalPayload_newLog]
    rfl

/-- Nothing but `create_audit_log` has written, at times that increase. -/
structure Recorded (setting : Setting) (logs : List AuditLog) : Prop where
  increasing : logs.Pairwise fun log other => log.createdAt < other.createdAt
  built : ∀ earlier log later, logs = earlier ++ log :: later → Built setting earlier log

theorem recorded_nil : Recorded setting [] where
  increasing := List.Pairwise.nil
  built := fun earlier _ _ split => by cases earlier <;> cases split

theorem recorded_concat : Recorded setting (logs ++ [log]) ↔
    Recorded setting logs ∧ Built setting logs log ∧
      ∀ earlier ∈ logs, earlier.createdAt < log.createdAt := by
  constructor
  · rintro ⟨increasing, built⟩
    obtain ⟨before, _, apart⟩ := List.pairwise_append.mp increasing
    obtain ⟨earlier, last⟩ := forall_splits_concat.mp built
    exact ⟨⟨before, earlier⟩, last, fun first inside => apart first inside log
      (List.mem_singleton_self log)⟩
  · rintro ⟨⟨increasing, built⟩, last, smaller⟩
    constructor
    · rw [List.pairwise_append]
      refine ⟨increasing, List.pairwise_singleton _ _, fun first inside other isOther => ?_⟩
      rw [List.mem_singleton.mp isOther]
      exact smaller first inside
    · exact forall_splits_concat.mpr ⟨built, last⟩

theorem createdAt_afterAll {requests : List Request} :
    (afterAll (createAuditLog setting) logs requests).map AuditLog.createdAt =
      logs.map AuditLog.createdAt ++ requests.map Request.now := by
  induction requests generalizing logs with
  | nil => exact (List.append_nil _).symm
  | cons request requests ih =>
    show (afterAll _ (createAuditLog setting logs request) requests).map _ = _
    rw [ih]
    unfold createAuditLog
    rw [List.map_append, List.append_assoc]
    rfl

theorem recorded_afterAll {requests : List Request}
    (increasing : (requests.map Request.now).Pairwise (· < ·)) :
    Recorded setting (afterAll (createAuditLog setting) [] requests) := by
  induction requests using List.reverseRecOn with
  | nil => exact recorded_nil
  | append_singleton requests request ih =>
    rw [List.map_append, List.pairwise_append] at increasing
    obtain ⟨before, _, apart⟩ := increasing
    have isLast : afterAll (createAuditLog setting) [] (requests ++ [request]) =
        createAuditLog setting (afterAll (createAuditLog setting) [] requests) request := by
      unfold afterAll
      rw [List.foldl_append]
      rfl
    rw [isLast]
    apply recorded_concat.mpr
    refine ⟨ih before, built_newLog, fun earlier inside => ?_⟩
    have isTime := List.mem_map_of_mem (f := AuditLog.createdAt) inside
    rw [createdAt_afterAll] at isTime
    exact apart _ isTime _ (List.mem_singleton_self _)

theorem ordered_filter_of_increasing
    (increasing : logs.Pairwise fun log other => log.createdAt < other.createdAt)
    (passes : AuditLog → Bool) : ordered (logs.filter passes) = logs.filter passes := by
  unfold ordered
  apply List.Pairwise.insertionSort_eq
  exact (increasing.sublist List.filter_sublist).imp fun less => less.le

theorem Recorded.ordered_filter (recorded : Recorded setting logs) (passes : AuditLog → Bool) :
    ordered (logs.filter passes) = logs.filter passes :=
  ordered_filter_of_increasing recorded.increasing passes

def FitsHash (setting : Setting) (previousHash : String) (log : AuditLog) : Prop :=
  log.storedHash = setting.computeHash previousHash (setting.canonicalPayload log) ∧
    log.storedPrevious = previousHash

def nextHash (setting : Setting) (previousHash : String) (log : AuditLog) : String :=
  if log.storedHash = "" then setting.computeHash previousHash (setting.canonicalPayload log)
  else log.storedHash

def Verified (setting : Setting) (logs : List AuditLog) : Prop :=
  Linked (FitsHash setting) (nextHash setting) "GENESIS" logs

theorem findMismatches_eq_nil {previousHash : String} :
    findMismatches setting previousHash logs = [] ↔
      Linked (FitsHash setting) (nextHash setting) previousHash logs := by
  induction logs generalizing previousHash with
  | nil => exact iff_of_true rfl trivial
  | cons log logs ih =>
    unfold findMismatches
    dsimp only
    split
    · rename_i fits
      rw [ih]
      exact (and_iff_right fits).symm
    · rename_i misfits
      exact iff_of_false (List.cons_ne_nil _ _) fun linked => misfits linked.1

theorem tampered_eq_false {correlationId : String} {environment : Option String} :
    (verifyTraceIntegrity setting logs correlationId environment).tampered = false ↔
      Verified setting (ordered (logs.filter (verifies correlationId environment))) := by
  unfold verifyTraceIntegrity Verified
  rw [← findMismatches_eq_nil, Bool.not_eq_false', List.isEmpty_iff]

theorem positionAfter_eq_lastHash (hashed : ∀ log ∈ logs, log.storedHash ≠ "") :
    positionAfter (nextHash setting) "GENESIS" logs = lastHash logs := by
  cases logs using List.reverseRecOn with
  | nil => rfl
  | append_singleton logs log =>
    have own := hashed log (List.mem_append_right _ (List.mem_singleton_self log))
    rw [positionAfter_append, lastHash_eq List.getLast?_concat own]
    exact if_neg own

theorem Recorded.hashed (recorded : Recorded setting logs)
    (nonempty : ∀ text, setting.digest text ≠ "") (inside : log ∈ logs) : log.storedHash ≠ "" := by
  obtain ⟨earlier, later, split⟩ := List.append_of_mem inside
  unfold AuditLog.storedHash
  rw [(recorded.built earlier log later split).hash]
  exact nonempty _

theorem Built.fits_iff {earlier : List AuditLog} (built : Built setting earlier log)
    {previous : String} :
    FitsHash setting previous log ↔
      previousHash earlier (setting.correlationOf log) = previous := by
  rw [← built.previous]
  constructor
  · exact And.right
  · intro same
    refine ⟨?_, same⟩
    unfold AuditLog.storedHash
    rw [built.hash, same]
    rfl

/-- The verification of some of the logs finds no mismatch exactly if each of them builds on the
hash of the one before it. -/
theorem verified_filter_iff (recorded : Recorded setting logs)
    (nonempty : ∀ text, setting.digest text ≠ "") {passes : AuditLog → Bool} :
    Verified setting (logs.filter passes) ↔
      ∀ earlier log later, logs = earlier ++ log :: later → passes log →
        lastHash (earlier.filter (selects (setting.correlationOf log))) =
          lastHash (earlier.filter passes) := by
  induction logs using List.reverseRecOn with
  | nil =>
    refine iff_of_true trivial fun earlier log later split => ?_
    cases earlier <;> cases split
  | append_singleton logs log ih =>
    obtain ⟨before, built, _⟩ := recorded_concat.mp recorded
    rw [forall_splits_concat, ← ih before, List.filter_append]
    cases isPassed : passes log with
    | false =>
      rw [List.filter_cons_of_neg (by rw [isPassed]; decide), List.filter_nil, List.append_nil]
      exact (and_iff_left nofun).symm
    | true =>
      rw [List.filter_cons_of_pos isPassed, List.filter_nil]
      unfold Verified
      rw [linked_concat, positionAfter_eq_lastHash fun other inside =>
        before.hashed nonempty (List.mem_filter.mp inside).1, built.fits_iff]
      unfold previousHash
      rw [before.ordered_filter]
      exact and_congr_right fun _ => ⟨fun same _ => same, fun all => all rfl⟩

/-- What is known of the hash: it gives each text a hexadecimal one of its own. -/
structure HexDigest (digest : String → String) : Prop where
  injective : Function.Injective digest
  nonempty : ∀ text, digest text ≠ ""
  hexadecimal : ∀ text, ∀ character ∈ (digest text).toList,
    character ∈ "0123456789abcdef".toList

theorem HexDigest.ne_genesis {digest : String → String} (hex : HexDigest digest) (text : String) :
    digest text ≠ "GENESIS" := by
  intro same
  have inside : 'G' ∈ (digest text).toList := by
    rw [same]
    decide
  exact absurd (hex.hexadecimal text 'G' inside) (by decide)

theorem Recorded.storedPrevious_cases (recorded : Recorded setting logs)
    (nonempty : ∀ text, setting.digest text ≠ "") (inside : log ∈ logs) :
    log.storedPrevious = "GENESIS" ∨ ∃ text, log.storedPrevious = setting.digest text := by
  obtain ⟨earlier, later, split⟩ := List.append_of_mem inside
  have before : Recorded setting earlier := by
    constructor
    · have increasing := recorded.increasing
      rw [split] at increasing
      exact (List.pairwise_append.mp increasing).1
    · rintro first other rest rfl
      apply recorded.built first other (rest ++ log :: later)
      rw [split, List.append_assoc, List.cons_append]
  rw [(recorded.built earlier log later split).previous]
  unfold previousHash
  rw [before.ordered_filter]
  cases isLast : (earlier.filter (selects (setting.correlationOf log))).getLast? with
  | none =>
    left
    unfold lastHash
    rw [isLast]
  | some last =>
    right
    have isEarlier := (List.mem_filter.mp (List.mem_of_getLast? isLast)).1
    obtain ⟨first, rest, isSplit⟩ := List.append_of_mem isEarlier
    rw [lastHash_eq isLast (before.hashed nonempty isEarlier)]
    unfold AuditLog.storedHash
    rw [(before.built first last rest isSplit).hash]
    exact ⟨_, rfl⟩

theorem separator_notMem (hex : HexDigest setting.digest) {previous : String}
    (known : previous = "GENESIS" ∨ ∃ text, previous = setting.digest text) :
    '|' ∉ previous.toList := by
  rcases known with rfl | ⟨text, rfl⟩
  · decide
  · exact fun inside => absurd (hex.hexadecimal text '|' inside) (by decide)

theorem computeHash_inj (hex : HexDigest setting.digest) {previous other : String}
    {payload otherPayload : Payload} (apart : '|' ∉ previous.toList)
    (otherApart : '|' ∉ other.toList)
    (same : setting.computeHash previous payload = setting.computeHash other otherPayload) :
    previous = other ∧ payload.json.sortKeys = otherPayload.json.sortKeys := by
  have texts := String.ofList_injective (hex.injective same)
  obtain ⟨isPrevious, canonicals⟩ := append_separator_inj apart otherApart texts
  exact ⟨String.toList_inj.mp isPrevious,
    Json.write_injective compactStyle_readable canonicals⟩

theorem createdAt_of_sorted {payload other : Payload}
    (same : payload.json.sortKeys = other.json.sortKeys) : payload.createdAt = other.createdAt := by
  have members := Json.object.inj same
  have lookups := congrArg (Json.get "created_at") members
  rw [Json.get_sortKeys, Json.get_sortKeys] at lookups
  have isTime : ∀ payload : Payload,
      (Json.get "created_at" payload.members).map Json.sortKeys =
        some (.string payload.createdAt) := fun _ => rfl
  rw [isTime, isTime] at lookups
  exact Json.string.inj (Option.some.inj lookups)

theorem Recorded.storedHash_inj (recorded : Recorded setting logs) (hex : HexDigest setting.digest)
    (readable : Function.Injective setting.isoformat) {other : AuditLog} (inside : log ∈ logs)
    (otherInside : other ∈ logs) (same : log.storedHash = other.storedHash) : log = other := by
  obtain ⟨earlier, later, split⟩ := List.append_of_mem inside
  obtain ⟨otherEarlier, otherLater, otherSplit⟩ := List.append_of_mem otherInside
  unfold AuditLog.storedHash at same
  rw [(recorded.built _ _ _ split).hash, (recorded.built _ _ _ otherSplit).hash] at same
  obtain ⟨_, payloads⟩ := computeHash_inj hex
    (separator_notMem hex (recorded.storedPrevious_cases hex.nonempty inside))
    (separator_notMem hex (recorded.storedPrevious_cases hex.nonempty otherInside)) same
  have times : log.createdAt = other.createdAt := readable (createdAt_of_sorted payloads)
  have nodup : (logs.map AuditLog.createdAt).Nodup :=
    List.pairwise_map.mpr (recorded.increasing.imp fun less => less.ne)
  exact List.inj_on_of_nodup_map nodup inside otherInside times

theorem Recorded.getLast_of_lastHash (recorded : Recorded setting logs)
    (hex : HexDigest setting.digest) (readable : Function.Injective setting.isoformat)
    {ones others : List AuditLog} (inside : ∀ log ∈ ones, log ∈ logs)
    (otherInside : ∀ log ∈ others, log ∈ logs) (same : lastHash ones = lastHash others) :
    ones.getLast? = others.getLast? := by
  have unlike : ∀ log ∈ logs, log.storedHash ≠ "GENESIS" := by
    intro log isLog
    obtain ⟨earlier, later, split⟩ := List.append_of_mem isLog
    unfold AuditLog.storedHash
    rw [(recorded.built _ _ _ split).hash]
    exact hex.ne_genesis _
  have nothing : ∀ list : List AuditLog, list.getLast? = none → lastHash list = "GENESIS" := by
    intro list isNone
    unfold lastHash
    rw [isNone]
  cases isLast : ones.getLast? with
  | none =>
    cases isOther : others.getLast? with
    | none => rfl
    | some other =>
      have isLog := otherInside other (List.mem_of_getLast? isOther)
      rw [nothing _ isLast, lastHash_eq isOther (recorded.hashed hex.nonempty isLog)] at same
      exact absurd same.symm (unlike other isLog)
  | some log =>
    have isLog := inside log (List.mem_of_getLast? isLast)
    rw [lastHash_eq isLast (recorded.hashed hex.nonempty isLog)] at same
    cases isOther : others.getLast? with
    | none =>
      rw [nothing _ isOther] at same
      exact absurd same (unlike log isLog)
    | some other =>
      have isOtherLog := otherInside other (List.mem_of_getLast? isOther)
      rw [lastHash_eq isOther (recorded.hashed hex.nonempty isOtherLog)] at same
      rw [recorded.storedHash_inj hex readable isLog isOtherLog same]

section Traces

variable {requests : List Request} {correlationId : String} {environment : Option String}

/-- Each log that a verification reads has been written when the latest log for its own correlation
id was the log that the verification reads before it. -/
def Followed (setting : Setting) (correlationId : String) (environment : Option String)
    (logs : List AuditLog) : Prop :=
  ∀ earlier log later, logs = earlier ++ log :: later → verifies correlationId environment log →
    (earlier.filter (selects (setting.correlationOf log))).getLast? =
      (earlier.filter (verifies correlationId environment)).getLast?

theorem Recorded.untampered (recorded : Recorded setting logs)
    (nonempty : ∀ text, setting.digest text ≠ "")
    (followed : Followed setting correlationId environment logs) :
    (verifyTraceIntegrity setting logs correlationId environment).tampered = false := by
  rw [tampered_eq_false, recorded.ordered_filter, verified_filter_iff recorded nonempty]
  intro earlier log later split isRead
  unfold lastHash
  rw [followed earlier log later split isRead]

theorem Recorded.followed (recorded : Recorded setting logs) (hex : HexDigest setting.digest)
    (readable : Function.Injective setting.isoformat)
    (untampered : (verifyTraceIntegrity setting logs correlationId environment).tampered = false) :
    Followed setting correlationId environment logs := by
  rw [tampered_eq_false, recorded.ordered_filter,
    verified_filter_iff recorded hex.nonempty] at untampered
  intro earlier log later split isRead
  have inside : ∀ passes : AuditLog → Bool, ∀ other ∈ earlier.filter passes, other ∈ logs := by
    intro passes other isOther
    rw [split]
    exact List.mem_append_left _ (List.mem_filter.mp isOther).1
  exact recorded.getLast_of_lastHash hex readable (inside _) (inside _)
    (untampered earlier log later split isRead)

/-- After any calls, a verification reports no tampering where each log it reads has followed the
one before it, whatever the hash is; and where the hash gives each text one of its own, only
there. -/
theorem untampered_iff_followed (increasing : (requests.map Request.now).Pairwise (· < ·))
    (nonempty : ∀ text, setting.digest text ≠ "") :
    (Followed setting correlationId environment
        (afterAll (createAuditLog setting) [] requests) →
      (verifyTraceIntegrity setting (afterAll (createAuditLog setting) [] requests) correlationId
        environment).tampered = false) ∧
    (HexDigest setting.digest → Function.Injective setting.isoformat →
      ((verifyTraceIntegrity setting (afterAll (createAuditLog setting) [] requests) correlationId
        environment).tampered = false ↔
          Followed setting correlationId environment
            (afterAll (createAuditLog setting) [] requests))) := by
  have recorded : Recorded setting (afterAll (createAuditLog setting) [] requests) :=
    recorded_afterAll increasing
  exact ⟨recorded.untampered nonempty, fun hex readable =>
    ⟨recorded.followed hex readable, recorded.untampered nonempty⟩⟩

def hexCode (character : Char) : List Char :=
  let code := character.toNat
  [hexDigit (code / 1048576), hexDigit (code / 65536 % 16), hexDigit (code / 4096 % 16),
    hexDigit (code / 256 % 16), hexDigit (code / 16 % 16), hexDigit (code % 16)]

def readHex : List Char → Option (Char × List Char)
  | a :: b :: c :: d :: e :: f :: rest =>
    some (Char.ofNat (hexValue a * 1048576 + hexValue b * 65536 + hexValue c * 4096 +
      hexValue d * 256 + hexValue e * 16 + hexValue f), rest)
  | _ => none

theorem hexValue_of_digit : ∀ digit < 16, hexValue (hexDigit digit) = digit := by
  decide

theorem hexDigit_mem : ∀ digit < 16, hexDigit digit ∈ "0123456789abcdef".toList := by
  decide

theorem character_small (character : Char) : character.toNat / 1048576 < 2 := by
  have valid : character.toNat.isValidChar := character.valid
  unfold Nat.isValidChar at valid
  omega

theorem readHex_hexCode (character : Char) (rest : List Char) :
    readHex (hexCode character ++ rest) = some (character, rest) := by
  have small := character_small character
  have digit : ∀ number, hexValue (hexDigit (number % 16)) = number % 16 :=
    fun number => hexValue_of_digit _ (Nat.mod_lt _ (by decide))
  have value : character.toNat / 1048576 * 1048576 + character.toNat / 65536 % 16 * 65536 +
      character.toNat / 4096 % 16 * 4096 + character.toNat / 256 % 16 * 256 +
        character.toNat / 16 % 16 * 16 + character.toNat % 16 = character.toNat := by
    omega
  show some (Char.ofNat _, rest) = _
  rw [hexValue_of_digit _ (small.trans (by decide)), digit, digit, digit, digit, digit, value,
    Char.ofNat_toNat]

def hexText (text : String) : String := String.ofList (text.toList.flatMap hexCode ++ ['f'])

theorem hexText_hexDigest : HexDigest hexText where
  injective := by
    have codes : SelfDelimiting hexCode := selfDelimiting_of_reader readHex readHex_hexCode
    have unlike : ∀ character, ∃ first rest, hexCode character = first :: rest ∧ first ≠ 'f' := by
      intro character
      refine ⟨_, _, rfl, ?_⟩
      have unlike : ∀ digit < 2, hexDigit digit ≠ 'f' := by decide
      exact unlike _ (character_small character)
    intro text other same
    exact String.toList_inj.mp ((codes.closed unlike).injective (String.ofList_injective same))
  nonempty := by
    intro text same
    have lists := congrArg String.toList same
    rw [hexText, String.toList_ofList] at lists
    exact absurd lists (List.append_ne_nil_of_right_ne_nil _ (List.cons_ne_nil _ _))
  hexadecimal := by
    intro text character inside
    rw [hexText, String.toList_ofList] at inside
    rcases List.mem_append.mp inside with isCode | isStop
    · obtain ⟨coded, _, isDigit⟩ := List.mem_flatMap.mp isCode
      have small := character_small coded
      unfold hexCode at isDigit
      simp only [List.mem_cons, List.not_mem_nil, or_false] at isDigit
      rcases isDigit with rfl | rfl | rfl | rfl | rfl | rfl
      · exact hexDigit_mem _ (small.trans (by decide))
      all_goals exact hexDigit_mem _ (Nat.mod_lt _ (by decide))
    · rw [List.mem_singleton.mp isStop]
      decide

def plainSetting : Setting where
  digest := hexText
  isoformat := fun time => String.ofList (List.replicate time 'x')
  pythonText := fun _ => "{}"
  appEnvironment := none

theorem plainSetting_isoformat : Function.Injective plainSetting.isoformat := by
  intro time other same
  simpa using congrArg List.length (String.ofList_injective same)

def plainRequest (entityId : String) (details : Json .members) (now : ℕ) : Request :=
  ⟨String.ofList (List.replicate now 'l'), "a", "e", entityId, "info", some details, .null, .null,
    .null, .null, now⟩

def plainLogs (first second : Request) : List AuditLog :=
  afterAll (createAuditLog plainSetting) [] [first, second]

/-- Of two logs, the second has followed the first if both its own correlation id and the
verification select the first, or neither does. -/
theorem followed_pair {first second : AuditLog} :
    Followed setting correlationId environment [first, second] ↔
      (verifies correlationId environment second →
        selects (setting.correlationOf second) first =
          verifies correlationId environment first) := by
  have latest : ∀ passes : AuditLog → Bool,
      ([first].filter passes).getLast? = if passes first then some first else none := by
    intro passes
    cases isPassed : passes first with
    | true =>
      rw [List.filter_cons_of_pos isPassed]
      rfl
    | false =>
      rw [List.filter_cons_of_neg (by rw [isPassed]; decide)]
      rfl
  have ofSecond := @forall_splits_concat _ [first] second fun earlier log =>
    verifies correlationId environment log →
      (earlier.filter (selects (setting.correlationOf log))).getLast? =
        (earlier.filter (verifies correlationId environment)).getLast?
  have ofFirst := @forall_splits_concat _ [] first fun earlier log =>
    verifies correlationId environment log →
      (earlier.filter (selects (setting.correlationOf log))).getLast? =
        (earlier.filter (verifies correlationId environment)).getLast?
  have atFirst : ∀ earlier log later, [first] = earlier ++ log :: later →
      verifies correlationId environment log →
        (earlier.filter (selects (setting.correlationOf log))).getLast? =
          (earlier.filter (verifies correlationId environment)).getLast? := by
    apply ofFirst.mpr
    refine ⟨fun earlier log later split => ?_, fun _ => rfl⟩
    cases earlier <;> cases split
  rw [latest, latest] at ofSecond
  refine (ofSecond.trans (and_iff_right atFirst)).trans ?_
  apply forall_congr'
  intro _
  cases selects (setting.correlationOf second) first <;>
    cases verifies correlationId environment first <;> simp

/-- The trace of an entity does not meet that of another one. -/
theorem untampered_example :
    ([plainRequest "t-1" .noMembers 1, plainRequest "u-2" .noMembers 2].map
      Request.now).Pairwise (· < ·) ∧ (verifyTraceIntegrity plainSetting
      (plainLogs (plainRequest "t-1" .noMembers 1) (plainRequest "u-2" .noMembers 2)) "t-1"
        none).tampered = false := by
  have increasing : ([plainRequest "t-1" .noMembers 1, plainRequest "u-2" .noMembers 2].map
      Request.now).Pairwise (· < ·) := by
    decide
  have followed : Followed plainSetting "t-1" none
      (plainLogs (plainRequest "t-1" .noMembers 1) (plainRequest "u-2" .noMembers 2)) := by
    apply followed_pair.mpr
    intro isRead
    revert isRead
    decide +kernel
  exact ⟨increasing, (untampered_iff_followed increasing hexText_hexDigest.nonempty).1 followed⟩

theorem reported_of_not_followed {first second : Request} (increasing : first.now < second.now)
    (not_followed : ¬Followed plainSetting correlationId environment (plainLogs first second)) :
    (verifyTraceIntegrity plainSetting (plainLogs first second) correlationId
      environment).tampered = true := by
  rw [← Bool.not_eq_false]
  intro untampered
  have recorded : Recorded plainSetting (plainLogs first second) := by
    apply recorded_afterAll
    exact List.pairwise_pair.mpr increasing
  exact not_followed (recorded.followed hexText_hexDigest plainSetting_isoformat untampered)

/-- The trace of one entity is reported as tampered with when the name of another one begins with
its name, and a trace with logs of two environments when it is verified for one of them. -/
theorem untouched_trace_reported :
    (verifyTraceIntegrity plainSetting
        (plainLogs (plainRequest "t-1" .noMembers 1) (plainRequest "t-12" .noMembers 2)) "t-1"
          none).tampered = true ∧
      (verifyTraceIntegrity plainSetting
        (plainLogs (plainRequest "t-1" .noMembers 1)
          (plainRequest "t-1" (.member "environment" (.string "staging") .noMembers) 2)) "t-1"
            (some "staging")).tampered = true := by
  constructor
  · apply reported_of_not_followed (by decide)
    exact fun followed => absurd (followed_pair.mp followed (by decide +kernel)) (by decide +kernel)
  · apply reported_of_not_followed (by decide)
    exact fun followed => absurd (followed_pair.mp followed (by decide +kernel)) (by decide +kernel)

end Traces

end Audit
