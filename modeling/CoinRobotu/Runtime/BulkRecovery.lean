import CoinRobotu.Runtime.Recovery

/-!
# Bulk recovery

A bulk run selects its targets and applies one action to each of them. Whatever
one target raises is caught, rolled back and reported in that target's result,
and every result is audited.
-/

open Interleaving

namespace Runtime

section Quarantine

variable (hashing : Hashing IntentPayload)

def findQuarantined (id : String) : Program services (Option FailedEvent) := do
  match ← call (.database (.findFailedById id)) with
  | some row => return some row
  | none => call (.database (.findFailedByEntity id))

def changeFailedEvent (id : String) (change : FailedEvent → FailedEvent) :
    Program services Unit := do
  call (.database (.assignFailed id change))
  call (.database .commit)
  call (.aside "refresh")

def actOnRuntimeEvent (row : FailedEvent) (action : String) : Program services Unit :=
  if action = "replay" then replayQuarantinedEvent row
  else if action = "dismiss" then dismissQuarantinedEvent row
  else markQuarantinedFailed row

/-- The action on a failed event of another kind. -/
def actOnOtherEvent (row : FailedEvent) (action : String) : Program services Unit := do
  if action = "replay" then
    let intentId := orElse (row.payload.fields.find "intent_id") row.entityId
    let _ ← publishRuntimeEvent hashing submissionRequested
      [("intent_id", intentId), ("source", "execution_readiness_quarantine_replay")]
      intentId (some row.id) ("intent::" ++ intentId)
    let now ← call .now
    let updatedAt ← call .now
    changeFailedEvent row.id fun row =>
      { row with
        status := "retrying"
        retryCount := row.retryCount + 1
        nextRetryAt := some (now + 15 * 1000000)
        updatedAt }
  else if action = "dismiss" then
    let resolvedAt ← call .now
    let updatedAt ← call .now
    changeFailedEvent row.id fun row =>
      { row with status := "resolved", resolvedAt := some resolvedAt, updatedAt }
  else
    let updatedAt ← call .now
    changeFailedEvent row.id fun row =>
      { row with
        status := "dead"
        deadLetterReason := some (orElse row.deadLetterReason "manual_mark_failed")
        updatedAt }

def applyRuntimeQuarantineAction (eventId action : String) : Program services Unit := do
  match ← findQuarantined eventId with
  | none => throw (.valueError "quarantine_event_not_found")
  | some row =>
      let normalized := lower (strip action)
      if normalized ∉ ["replay", "dismiss", "mark_failed"] then throw (.valueError "invalid_action")
      else if row.entityType = "runtime_event" then
        actOnRuntimeEvent row normalized
        createAuditLog
      else
        actOnOtherEvent hashing row normalized
        createAuditLog

/-- `action_map` of `apply_execution_safety_quarantine_action`. -/
def quarantineActionMap : Payload :=
  [("replay", "replay"), ("reprocess", "replay"), ("manual_resolve", "dismiss"),
    ("mark_resolved", "dismiss"), ("dismiss", "dismiss"), ("mark_failed", "mark_failed"),
    ("escalate", "escalate"), ("attach_note", "attach_note"),
    ("release_from_quarantine", "release_from_quarantine")]

def FailedEvent.putField (row : FailedEvent) (key value : String) : FailedEvent :=
  { row with payload := { row.payload with fields := row.payload.fields.put key value } }

def replayWithCorrelation (row : FailedEvent) (quarantineId : String) : Program services Unit := do
  let minted ← call .uuid4
  let _ ← call .now
  changeFailedEvent row.id fun row =>
    { row.putField "correlation_id" ("replay-" ++ minted) with
      correlationId := some ("replay-" ++ minted) }
  applyRuntimeQuarantineAction hashing quarantineId "replay"

/-- The mapped action on the row. -/
def actOnQuarantined (row : FailedEvent) (quarantineId mapped note : String) :
    Program services Unit := do
  if mapped = "replay" then replayWithCorrelation hashing row quarantineId
  else if mapped = "dismiss" ∨ mapped = "mark_failed" then
    applyRuntimeQuarantineAction hashing quarantineId mapped
  else if mapped = "escalate" then
    let updatedAt ← call .now
    changeFailedEvent row.id fun row => { row with status := "escalated", updatedAt }
  else if mapped = "release_from_quarantine" then
    let nextRetryAt ← call .now
    let updatedAt ← call .now
    changeFailedEvent row.id fun row =>
      { row with status := "pending", nextRetryAt := some nextRetryAt, updatedAt }
  else
    let updatedAt ← call .now
    changeFailedEvent row.id fun row => { row.putField "notes" note with updatedAt }

def appendResolution (id mapped : String) : Program services Unit := do
  match ← call (.database (.findFailedById id)) with
  | none => return ()
  | some row =>
      let updatedAt ← call .now
      changeFailedEvent row.id fun row =>
        { row.putField "resolution_history" mapped with updatedAt }

/-- `apply_execution_safety_quarantine_action`; notes and history entries are
one key of the payload each. -/
def applyExecutionSafetyQuarantineAction (quarantineId action note : String) :
    Program services Unit := do
  match quarantineActionMap.find (lower (strip action)) with
  | none => throw (.valueError "invalid_action")
  | some mapped =>
      match ← findQuarantined quarantineId with
      | none => throw (.valueError "quarantine_event_not_found")
      | some row =>
          actOnQuarantined hashing row quarantineId mapped note
          appendResolution row.id mapped
          createAuditLog

end Quarantine

inductive TargetType where
  | intent
  | quarantine
deriving DecidableEq

structure BulkTarget where
  targetType : TargetType
  targetId : String
deriving DecidableEq

/-- The filters of a bulk request, with the aliases of a key already merged. -/
structure BulkFilters where
  states : List String
  reasonCodes : List String
  failureStages : List String
  environment : String
  ageMinutes : Int
  exhausted : Bool

def FailedEvent.failureStage (row : FailedEvent) : String :=
  orElse (row.payload.fields.find "failure_stage")
    (orElse (row.payload.fields.find "state") row.eventType)

def FailedEvent.reasonCode (row : FailedEvent) : Option String :=
  if blank (row.payload.fields.find "reason_code") then row.deadLetterReason
  else row.payload.fields.find "reason_code"

def passes (wanted : List String) (value : Option String) : Bool :=
  wanted.isEmpty || (value.map (wanted.contains ·)).getD false

def recentEnough (ageCutoff : Option Time) (time : Time) : Bool :=
  match ageCutoff with
  | none => true
  | some cutoff => time ≤ cutoff

/-- Intents the filters select. The environment of a row is read from the
attribute `metadata`, which is the table's metadata and has no `get`. -/
def selectIntents (filters : BulkFilters) (ageCutoff : Option Time)
    (rows : List ExecutionIntent) : Except Failure (List BulkTarget) :=
  let inState := rows.filter fun row => passes filters.states (some (normalizeState row.status))
  if lower (strip filters.environment) ≠ "" ∧ inState ≠ [] then
    .error (.other "'MetaData' object has no attribute 'get'")
  else
    .ok ((inState.filter fun row => recentEnough ageCutoff row.createdAt).map
      fun row => ⟨.intent, row.intentId⟩)

def quarantineTargets (rows : List FailedEvent) : List BulkTarget :=
  rows.map fun row => ⟨.quarantine, row.id⟩

/-- `_select_bulk_targets`. -/
def selectBulkTargets (action selectionMode : String) (intentIds quarantineIds : List String)
    (filters : BulkFilters) (limit : Nat) : Program services (List BulkTarget) := do
  let mode := lower (strip (orElse (some selectionMode) "explicit_ids"))
  let states := filters.states.map fun state => upper (strip state)
  let reasonCodes := filters.reasonCodes.map strip
  let failureStages := filters.failureStages.map strip
  if mode = "explicit_ids" ∨ mode = "explicit ids" then
    return (intentIds.map (BulkTarget.mk .intent) ++
      quarantineIds.map (BulkTarget.mk .quarantine)).take limit
  else
    let now ← call .now
    let ageCutoff :=
      if 0 < filters.ageMinutes then some (now - filters.ageMinutes * 60000000) else none
    if mode ∈ ["by_filter", "by_state", "by_age_window", "by_environment"] then
      let rows ← call (.database .allIntents)
      match selectIntents { filters with states } ageCutoff rows with
      | .error failure => throw failure
      | .ok intents =>
          if action = "bulk_retry" ∨ action = "bulk_release_from_quarantine" then
            let failed ← call (.database .allFailed)
            return (intents ++ quarantineTargets (failed.filter fun row =>
              passes failureStages (some row.failureStage) &&
                passes reasonCodes row.reasonCode && recentEnough ageCutoff row.updatedAt)).take
                  limit
          else return intents.take limit
    else if mode = "by_failure_stage" then
      let failed ← call (.database .allFailed)
      return (quarantineTargets (failed.filter fun row =>
        passes failureStages (some row.failureStage))).take limit
    else if mode = "by_reason_code" then
      let failed ← call (.database .allFailed)
      return (quarantineTargets (failed.filter fun row =>
        passes reasonCodes row.reasonCode)).take limit
    else if mode = "by_retry_exhaustion" then
      let failed ← call (.database .allFailed)
      return (quarantineTargets (failed.filter fun row =>
        decide (row.maxRetry ≤ row.retryCount) == filters.exhausted)).take limit
    else return []

section Run

variable (hashing : Hashing IntentPayload)

inductive ResultState where
  | success | skipped | failed
deriving DecidableEq

structure ItemResult where
  target : BulkTarget
  result : ResultState
  error : Option String
deriving DecidableEq

abbrev skip {α : Type} (message : String) : Program services (Except String α) :=
  return .error message

def cancelAtExchange (symbol orderId : String) : Program services Unit := do
  if orderId = "" then return ()
  else
    let cancelled ← call (.exchange "/v5/order/cancel" symbol orderId)
    if cancelled.ok then return () else throw (.valueError "exchange_cancel_failed")

/-- Mark an intent reconciled although its result asks for manual intervention. -/
def forceReconciled (intent : ExecutionIntent) (reason : String) (result : Payload) :
    Program services Unit := do
  if result.find "requires_manual_intervention" = some "true" then
    call (.database (.assignStatus intent.intentId "RECONCILED"))
    addIntentEvent intent.intentId "EXECUTION_RECONCILE_FORCED" "RECONCILED" none
      [("reason", reason), ("mismatch_flags", (result.find "mismatch_flags").getD "[]")]
    call (.database .commit)
    let _ ← refreshIntent intent.intentId
  else return ()

/-- The exception a target ended with is reported as skipped when the code
said so before it raised, and as failed otherwise. -/
def recoverIntentTarget (action reason : String) (intent : ExecutionIntent) :
    Program services (Except String Unit) := do
  let beforeState := normalizeState intent.status
  if action = "bulk_retry" then
    if beforeState ∉ ["CREATED", "SUBMITTED", "ACKED", "PARTIALLY_FILLED", "RECONCILING"] then
      skip "non_retryable_intent"
    else
      let _ ← applyIntentRecoveryAction hashing intent.intentId "retry"
      return .ok ()
  else if action = "bulk_cancel" then
    if beforeState ∈ ["FILLED", "FAILED", "CANCELED", "RECONCILED"] then
      skip "non_cancelable_intent"
    else
      let events ← call (.database (.eventsOf intent.intentId))
      let latestOrderId :=
        strip ((events.getLast?.bind ExecutionIntentEvent.externalOrderId).getD "")
      cancelAtExchange intent.symbol latestOrderId
      let _ ← applyIntentRecoveryAction hashing intent.intentId "cancel"
      return .ok ()
  else if action = "bulk_reconcile" then
    let _ ← reconcileIntentWithExchange intent.intentId
      (orElse (some reason) "bulk_reconcile") "reconcile_execution"
    return .ok ()
  else if action = "bulk_force_reconcile" then
    let report ← reconcileIntentWithExchange intent.intentId
      (orElse (some reason) "bulk_force_reconcile") "reconcile_execution"
    forceReconciled intent (orElse (some reason) "bulk_force_reconcile") report.reconcileResult
    return .ok ()
  else if action = "bulk_move_to_quarantine" then
    let failed ← call (.database .allFailed)
    let existing := failed.filter fun row =>
      row.entityType = "execution_intent" ∧ row.entityId = intent.intentId ∧
        row.status ∈ ["quarantined", "pending", "retrying", "escalated"]
    if existing ≠ [] then skip "already_quarantined"
    else
      let _ ← quarantineIntent intent "bulk_move_to_quarantine"
        "bulk_move_to_quarantine" beforeState
      return .ok ()
  else skip "invalid_action_for_intent"

def recoverQuarantineTarget (action reason targetId : String) :
    Program services (Except String Unit) := do
  match ← call (.database (.findFailedById targetId)) with
  | none => throw (.valueError "quarantine_event_not_found")
  | some _ =>
      call (.aside "get_quarantine_detail")
      if action = "bulk_reconcile" then skip "bulk_reconcile_not_supported_for_quarantine"
      else if action = "bulk_retry" then
        applyExecutionSafetyQuarantineAction hashing targetId "replay" reason
        return .ok ()
      else if action = "bulk_release_from_quarantine" then
        applyExecutionSafetyQuarantineAction hashing targetId "release_from_quarantine" reason
        return .ok ()
      else if action = "bulk_cancel" then
        applyExecutionSafetyQuarantineAction hashing targetId "mark_resolved" reason
        return .ok ()
      else skip "invalid_action_for_quarantine"

/-- One target up to the point where its session is read again. -/
def recoverTarget (action reason : String) (target : BulkTarget) :
    Program services (Except String Unit) :=
  match target.targetType with
  | .quarantine => recoverQuarantineTarget hashing action reason target.targetId
  | .intent => do
      match ← call (.database (.findIntent target.targetId)) with
      | none => throw (.valueError "intent_not_found")
      | some intent =>
          match ← recoverIntentTarget hashing action reason intent with
          | .error message => skip message
          | .ok _ => do
              let _ ← refreshIntent intent.intentId
              return .ok ()

/-- What the loop reports for a target; an exception is rolled back first. -/
def reportTarget (target : BulkTarget) : Except Failure (Except String Unit) →
    Program services ItemResult
  | .ok (.ok _) => return ⟨target, .success, none⟩
  | .ok (.error message) => do
      call (.database .rollback)
      return ⟨target, .skipped, some message⟩
  | .error failure => do
      call (.database .rollback)
      return ⟨target, .failed, some failure.text⟩

def bulkItem (action reason : String) (target : BulkTarget) : Program services ItemResult := do
  let outcome ← (recoverTarget hashing action reason target).outcome
  let item ← reportTarget target outcome
  createAuditLog
  return item

def bulkLoop (action reason : String) : List BulkTarget → Program services (List ItemResult)
  | [] => return []
  | target :: targets => do
      let item ← bulkItem hashing action reason target
      let items ← bulkLoop action reason targets
      return item :: items

def bulkActions : List String :=
  ["bulk_retry", "bulk_cancel", "bulk_reconcile", "bulk_force_reconcile",
    "bulk_move_to_quarantine", "bulk_release_from_quarantine"]

/-- `min(max(int(limit or 1), 1), 500)` -/
def cappedLimit (limit : Int) : Nat := (min (max limit 1) 500).toNat

/-- `run_bulk_recovery`: the per-target results. -/
def runBulkRecovery (action selectionMode : String) (intentIds quarantineIds : List String)
    (filters : BulkFilters) (reason : String) (limit : Int) :
    Program services (List ItemResult) := do
  if action ∉ bulkActions then throw (.valueError "invalid_bulk_action")
  else
    let targets ← selectBulkTargets action selectionMode intentIds quarantineIds filters
      (cappedLimit limit)
    bulkLoop hashing action reason targets

end Run

end Runtime
