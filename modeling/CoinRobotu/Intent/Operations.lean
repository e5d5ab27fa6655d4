import CoinRobotu.Intent.Sessions

/-!
# The operations on an intent

The functions of `execution_intent_service` that change the status of an intent
or act for it, as programs over a session. The keys of
`normalized_order_payload` that nothing here reads are left out; an assignment
to them still makes the row one that the session has to write.
-/

open Interleaving

namespace Intent

open Runtime (strip upper orElse)

/-- What the operations read from their surroundings: `EXECUTION_PREVIEW_FAST_MODE`,
`EXECUTION_AUTO_RELEASE_ENABLED`, the quote assets, the futures symbols of the market
universe, and `_intent_detail_version`, which hashes the columns of an intent. -/
structure Config where
  fastMode : Bool
  autoRelease : Bool
  allowedQuotes : List String
  futuresSymbols : List String
  detailVersion : UserExecutionIntent → String

/-- What one execution brings along: the reason and the identifier of a new position. -/
structure Execution where
  executorUserId : String
  executionReason : String
  executeConfirmation : Bool
  detailVersion : Option String
  newPositionId : String

/-- The columns that an administrator may edit. -/
structure Patch where
  notional : Option ℚ
  size : Option ℚ
  price : Option ℚ
  stopPrice : Option ℚ
  takeProfitPrice : Option ℚ

def ask (operation : Operation) (point : Point) (action : Action) :
    Program signature action.Reply :=
  let command : signature.Command := ⟨⟨operation, point⟩, action⟩
  Program.call command

def ensure (condition : Prop) [Decidable condition] (reason : String) : Program signature Unit :=
  if condition then .done () else .fail reason

def whenever (condition : Prop) [Decidable condition] (program : Program signature Unit) :
    Program signature Unit :=
  if condition then program else .done ()

def required {α : Type} (reason : String) : Option α → Program signature α
  | none => .fail reason
  | some value => .done value

/-- `_transition_execution_intent_status`: a status that is already there is kept. -/
def transition (operation : Operation) (target : IntentStatus) : Program signature Unit := do
  let current ← ask operation .attributes .status
  if current = target then return ()
  else if target ∈ allowedTransitions current then ask operation .attributes (.setStatus target)
  else .fail ("invalid_state_transition:" ++ current.text ++ "->" ++ target.text)

def commercialOperation (intent : UserExecutionIntent) (opens : Bool) : Option String :=
  if intent.intentType = "OPEN_POSITION" ∧ opens = true then some "trade_intent"
  else if intent.intentType = "REVERSE_POSITION" ∨
      (intent.intentType ∈ UserExecutionIntent.positionActionTypes ∧ intent.reduceOnly = false) then
    some "position_increase"
  else none

/-- `sorted(set(codes + more))`. -/
def withCodes (codes more : List String) : List String := (codes ++ more).dedup.mergeSort

/-- `validate_order_precheck`: whether the order is valid, and the size it is adjusted to. -/
def validateOrderPrecheck (size : ℚ) : Bool × ℚ := (true, max size 0)

/-- An intent that is turned down: the codes and flags are noted, the status is
changed and committed, and the caller hears the reason. -/
def turnDown (operation : Operation) (codes flags : List String) (reason : String) :
    Program signature Unit := do
  let intent ← ask operation .attributes .attributes
  ask operation .attributes (.assign fun row =>
    { row with
      rejectReasonCodes := withCodes intent.rejectReasonCodes codes
      riskFlags := if flags = [] then intent.riskFlags else withCodes intent.riskFlags flags })
  transition operation .rejected
  ask operation .rejectedCommit .commit
  let _ ← ask operation .rejectedRefresh .refresh
  .fail reason

def WalletRefresh.blocker (wallet : WalletRefresh) : String :=
  orElse wallet.reasonCode "wallet_refresh_failed"

def refreshWallet (operation : Operation) : Program signature Unit := do
  let wallet ← ask operation .wallet (.call .wallet)
  let _ ← ask operation .attributes .attributes
  ask operation .attributes (.assign id)
  if wallet.ok then return ()
  else
    turnDown operation [wallet.blocker] ["wallet_refresh_required"]
      ("wallet_refresh_failed:" ++ wallet.blocker)

def precheck (operation : Operation) : Program signature Unit := do
  let _ ← ask operation .attributes .attributes
  ask operation .attributes (.assign id)

def openingChecks (operation : Operation) : Program signature Unit := do
  ask operation .executionGuard (.call .executionGuard)
  let _ ← ask operation .attributes .attributes
  ask operation .openAllowed (.call .openAllowed)

def approvalChecks : Program signature Unit := do
  openingChecks .approve
  refreshWallet .approve
  precheck .approve

/-- `approve_execution_intent`. -/
def approve (config : Config) (intentId adminNote : String) (detailVersion : Option String)
    (readAcknowledged allowOverride : Bool) : Program signature UserExecutionIntent := do
  let found ← ask .approve .find (.findForUpdate intentId)
  let intent ← required "intent_not_found" found
  ensure (intent.status = .queued) "intent_not_in_queue"
  ensure (3 ≤ (strip adminNote).length) "decision_reason_required"
  ensure (config.fastMode = true ∨ readAcknowledged = true) "intent_detail_read_ack_required"
  ensure (detailVersion.getD "" = "" ∨ detailVersion = some (config.detailVersion intent))
    "stale_intent_detail_version"
  whenever (config.fastMode = false) (ask .approve .detail (.call .detail))
  ask .approve .user (.call .user)
  whenever ((commercialOperation intent true).isSome)
    (ask .approve .commercialControl (.call .commercialControl))
  whenever (intent.intentType = "OPEN_POSITION" ∧ allowOverride = false ∧ config.fastMode = false)
    approvalChecks
  let intent ← ask .approve .attributes .attributes
  ask .approve .attributes (.assign fun row =>
    { row with
      riskFlags :=
        if allowOverride = true ∧ "execution_override_applied" ∉ intent.riskFlags then
          intent.riskFlags ++ ["execution_override_applied"]
        else intent.riskFlags })
  transition .approve .approved
  ask .approve .trace (.call .decisionTrace)
  ask .approve .commit .commit
  ask .approve .refresh .refresh

def exitPrice (intent : UserExecutionIntent) (position : Paper.PaperPosition) :
    Program signature ℚ :=
  match intent.price with
  | some price => .done price
  | none => ask .execute .exitPrice (.call (.safePrice position.symbol))

def settle (position : Paper.PaperPosition) : Program signature String := do
  ask .execute .positionFlush .flush
  ask .execute .sync (.call .syncPositionState)
  return position.id

def openPositionFromIntent (config : Config) (intent : UserExecutionIntent) (newId : String) :
    Program signature String := do
  let normalized := intent.normalizedOrderPayload
  match Paper.normalizeSymbol config.allowedQuotes (orElse normalized.symbol intent.symbol)
      "symbol_required_for_execution_order" "invalid_quote_asset" with
  | .error reason => .fail reason
  | .ok symbol =>
      whenever (Runtime.lower (strip (orElse normalized.marketType "")) ∉ ["spot", "futures"])
        (ask .execute .marketType (.call .marketType))
      ask .execute .defaultBot (.call .defaultBot)
      let price ← ask .execute .price (.call (.safePrice symbol))
      match Paper.openPositionFromIntent config.allowedQuotes config.futuresSymbols
          (fun _ => price) [] intent.openingIntent normalized newId "" with
      | .error reason => .fail reason
      | .ok opening =>
          ask .execute .attributes (.write (.add opening.position))
          settle opening.position

/-- `REVERSE_POSITION`: the close leg, and then a position the other way. -/
def reversePosition (intent : UserExecutionIntent) (position : Paper.PaperPosition)
    (newId : String) : Program signature String := do
  let exitPrice ← exitPrice intent position
  ask .execute .attributes (.write (.update (position.close exitPrice)))
  ask .execute .defaultBot (.call .defaultBot)
  let openPrice ← ask .execute .price (.call (.safePrice position.symbol))
  let opened :=
    Paper.reversedPosition intent.positionIntent position newId position.quantity openPrice
  ask .execute .attributes (.write (.add opened))
  ask .execute .positionFlush .flush
  ask .execute .sync (.call .syncPositionState)
  ask .execute .oppositeSync (.call .syncPositionState)
  return opened.id

def applyPositionActionIntent (intent : UserExecutionIntent) (newId : String) :
    Program signature String := do
  let positionId := orElse intent.positionId ""
  ensure (positionId ≠ "") "position_id_required"
  let found ← ask .execute .position (.openPosition intent.positionIntent positionId)
  let position ← required "position_not_found" found
  if intent.intentType = "CLOSE_POSITION" then
    let exitPrice ← exitPrice intent position
    ask .execute .attributes (.write (.update (position.close exitPrice)))
    settle position
  else if intent.intentType = "PARTIAL_CLOSE" then
    let exitPrice ← exitPrice intent position
    let requested := intent.size.getD 0
    ensure (0 < position.closeQuantity requested) "position_action_size_invalid"
    ask .execute .attributes (.write (.update (position.partialClose exitPrice requested)))
    settle position
  else if intent.intentType = "REVERSE_POSITION" then
    reversePosition intent position newId
  else if intent.intentType = "MOVE_STOP" then
    let price ← required "stop_price_required" intent.stopPrice
    ask .execute .attributes (.write (.update (position.moveStop price)))
    settle position
  else if intent.intentType = "MOVE_TAKE_PROFIT" then
    let price ← required "take_profit_price_required" intent.takeProfitPrice
    ask .execute .attributes (.write (.update (position.moveTakeProfit price)))
    settle position
  else .fail "unsupported_intent_type"

/-- The change of a position that an intent asks for; the position is what remains. -/
def act (config : Config) (intent : UserExecutionIntent) (newId : String) :
    Program signature String :=
  if intent.intentType = "OPEN_POSITION" then openPositionFromIntent config intent newId
  else applyPositionActionIntent intent newId

/-- `execute_approved_intent`. -/
def execute (config : Config) (intentId : String) (execution : Execution) :
    Program signature UserExecutionIntent := do
  let found ← ask .execute .find (.findForUpdate intentId)
  let intent ← required "intent_not_found" found
  ensure (intent.status = .approved) "intent_not_executable"
  ensure (3 ≤ (strip execution.executionReason).length) "decision_reason_required"
  ensure (intent.isHighRisk = false ∨ execution.executeConfirmation = true)
    "high_risk_execute_confirmation_required"
  ensure (execution.detailVersion.getD "" = "" ∨
      execution.detailVersion = some (config.detailVersion intent))
    "stale_intent_detail_version"
  ask .execute .detail (.call .detail)
  match Paper.normalizeSymbol config.allowedQuotes
      (orElse intent.normalizedOrderPayload.symbol intent.symbol)
      "symbol_required_for_execution_order" "invalid_quote_asset" with
  | .error reason => .fail reason
  | .ok _ =>
      let positionId ← act config intent execution.newPositionId
      ask .execute .attributes (.assign fun row => { row with positionId := some positionId })
      transition .execute .released
      ask .execute .trace (.call .decisionTrace)
      ask .execute .tradeTrace (.call .decisionTrace)
      ask .execute .commit .commit
      ask .execute .refresh .refresh

/-- What a submission brings along. -/
structure Submission where
  userId : String
  intentToken : String
  previewHash : Option String
  newPositionId : String

/-- The automatic release at the end of a submission. Whatever its two calls raise is
caught; the handler writes an audit row and commits, without a rollback. -/
def releaseAutomatically (config : Config) (submission : Submission) (intentId : String) :
    Program signature Unit :=
  Program.attempt
    (do
      let approved ← approve config intentId "auto_live_release" none true true
      let _ ← execute config approved.id
        ⟨submission.userId, "auto_live_release", true, none, submission.newPositionId⟩
      return ())
    fun _ => do
      ask .submit .auditEntry (.call .auditEntry)
      ask .submit .auditCommit .commit
      let _ ← ask .submit .auditRefresh .refresh
      return ()

def PipelineResult.code (result : PipelineResult) : String :=
  orElse (result.standardizedReject.getD none) "POLICY_PRETRADE_BLOCK"

def pipelineResult (config : Config) : Program signature PipelineResult :=
  if config.fastMode then .done ⟨some "ALLOW", none⟩
  else ask .submit .pipeline (.call .pipeline)

/-- What the pipeline blocks is turned down. -/
def runPipeline (config : Config) : Program signature Unit := do
  let _ ← ask .submit .attributes .attributes
  let result ← pipelineResult config
  let intent ← ask .submit .attributes .attributes
  ask .submit .attributes (.assign fun row =>
    { row with
      riskFlags :=
        if result.standardizedReject.isSome then
          withCodes intent.riskFlags
            ["pipeline_violation_logged", "pipeline_reason:" ++ Runtime.lower result.code]
        else intent.riskFlags })
  if upper (orElse result.enforcedAction "ALLOW") = "BLOCK" then
    turnDown .submit [result.code] [] "execution_pipeline_violation"
  else return ()

def submissionChecks : Program signature Unit := do
  openingChecks .submit
  precheck .submit

/-- `submit_execution_intent`. -/
def submit (config : Config) (submission : Submission) : Program signature Unit := do
  let found ← ask .submit .find (.findByToken submission.userId submission.intentToken)
  let intent ← required "intent_not_found" found
  ensure (intent.status = .previewed) "preview_required"
  ensure (submission.previewHash.getD "" = "" ∨ submission.previewHash = some intent.previewHash)
    "preview_hash_mismatch"
  refreshWallet .submit
  runPipeline config
  whenever ((commercialOperation intent !config.fastMode).isSome)
    (ask .submit .commercialControl (.call .commercialControl))
  whenever (intent.intentType = "OPEN_POSITION" ∧ config.fastMode = false) submissionChecks
  let _ ← ask .submit .attributes .attributes
  ask .submit .attributes (.assign id)
  ask .submit .attributes (.setStatus .submitted)
  ask .submit .submittedCommit .commit
  let _ ← ask .submit .submittedRefresh .refresh
  ask .submit .attributes (.setStatus .queued)
  ask .submit .rebalance (.call .rebalance)
  ask .submit .trace (.call .decisionTrace)
  ask .submit .commit .commit
  let queued ← ask .submit .refresh .refresh
  if config.autoRelease then releaseAutomatically config submission queued.id
  else return ()

/-- `cancel_execution_intent`: the row is not locked, and the status is assigned. -/
def cancel (userId intentToken : String) : Program signature Unit := do
  let found ← ask .cancel .find (.findByToken userId intentToken)
  let intent ← required "intent_not_found" found
  ensure (intent.status ∉ [.released, .rejected, .cancelled]) "intent_not_cancellable"
  ask .cancel .attributes (.setStatus .cancelled)
  ask .cancel .trace (.call .decisionTrace)
  ask .cancel .commit .commit
  let _ ← ask .cancel .refresh .refresh
  return ()

/-- `reject_execution_intent`. -/
def reject (config : Config) (intentId adminNote : String) (detailVersion : Option String)
    (readAcknowledged : Bool) : Program signature Unit := do
  let found ← ask .reject .find (.findForUpdate intentId)
  let intent ← required "intent_not_found" found
  ensure (intent.status ∈ [.queued, .submitted, .previewed, .approved]) "intent_not_rejectable"
  ensure (3 ≤ (strip adminNote).length) "decision_reason_required"
  ensure (readAcknowledged = true) "intent_detail_read_ack_required"
  ensure (detailVersion.getD "" = "" ∨ detailVersion = some (config.detailVersion intent))
    "stale_intent_detail_version"
  transition .reject .rejected
  ask .reject .attributes (.assign id)
  ask .reject .trace (.call .decisionTrace)
  ask .reject .commit .commit
  let _ ← ask .reject .refresh .refresh
  return ()

/-- `retry_execution_intent`. -/
def retry (intentId adminNote : String) : Program signature Unit := do
  let found ← ask .retry .find (.findForUpdate intentId)
  let intent ← required "intent_not_found" found
  ensure (intent.status = .rejected) "intent_not_retryable"
  ensure (3 ≤ (strip adminNote).length) "decision_reason_required"
  transition .retry .queued
  ask .retry .attributes (.assign fun row => { row with rejectReasonCodes := [] })
  ask .retry .commit .commit
  let _ ← ask .retry .refresh .refresh
  return ()

/-- `cancel_execution_intent_by_admin`. -/
def cancelByAdmin (intentId adminNote : String) : Program signature Unit := do
  let found ← ask .adminCancel .find (.findForUpdate intentId)
  let _ ← required "intent_not_found" found
  ensure (3 ≤ (strip adminNote).length) "decision_reason_required"
  transition .adminCancel .cancelled
  ask .adminCancel .attributes (.assign id)
  ask .adminCancel .commit .commit
  let _ ← ask .adminCancel .refresh .refresh
  return ()

def Patch.apply (patch : Patch) (intent : UserExecutionIntent) : UserExecutionIntent :=
  { intent with
    notional := patch.notional.getD intent.notional
    size := patch.size.or intent.size
    price := patch.price.or intent.price
    stopPrice := patch.stopPrice.or intent.stopPrice
    takeProfitPrice := patch.takeProfitPrice.or intent.takeProfitPrice }

/-- `edit_execution_intent_by_admin`. -/
def edit (intentId reason : String) (patch : Patch) : Program signature Unit := do
  let found ← ask .edit .find (.findForUpdate intentId)
  let intent ← required "intent_not_found" found
  ensure (intent.status ∈ [.queued, .rejected, .previewed, .submitted]) "intent_not_editable"
  ensure (3 ≤ (strip reason).length) "decision_reason_required"
  ensure (patch.apply intent ≠ intent) "no_editable_fields_changed"
  let edited := patch.apply intent
  ask .edit .attributes (.assign fun row =>
    { patch.apply row with
      riskScore := min (max (edited.riskScore + edited.notional / 5000) 0) 100
      riskFlags :=
        if "manual_edit_revalidated" ∈ edited.riskFlags then edited.riskFlags
        else edited.riskFlags ++ ["manual_edit_revalidated"] })
  ask .edit .commit .commit
  let _ ← ask .edit .refresh .refresh
  return ()

inductive Task where
  | submit (submission : Submission)
  | cancel (userId intentToken : String)
  | approve (intentId adminNote : String) (detailVersion : Option String)
      (readAcknowledged allowOverride : Bool)
  | execute (intentId : String) (execution : Execution)
  | reject (intentId adminNote : String) (detailVersion : Option String) (readAcknowledged : Bool)
  | retry (intentId adminNote : String)
  | cancelByAdmin (intentId adminNote : String)
  | edit (intentId reason : String) (patch : Patch)

/-- The operations on an intent, each in a session of its own. -/
def operations (config : Config) : System signature World Oracle Task where
  toService := sessions
  code
    | .submit submission => submit config submission
    | .cancel userId intentToken => cancel userId intentToken
    | .approve intentId adminNote detailVersion readAcknowledged allowOverride =>
        (approve config intentId adminNote detailVersion readAcknowledged allowOverride).bind
          fun _ => .done ()
    | .execute intentId execution => (execute config intentId execution).bind fun _ => .done ()
    | .reject intentId adminNote detailVersion readAcknowledged =>
        reject config intentId adminNote detailVersion readAcknowledged
    | .retry intentId adminNote => retry intentId adminNote
    | .cancelByAdmin intentId adminNote => cancelByAdmin intentId adminNote
    | .edit intentId reason patch => edit intentId reason patch

def steady : Oracle where
  raises _ := none
  effect _ := .kept
  wallet _ := ⟨true, none⟩
  pipeline := ⟨some "ALLOW", none⟩
  price _ := 100

def sampleConfig : Config := ⟨false, true, ["USDT"], [], fun _ => "version"⟩

def sampleIntent (status : IntentStatus) : UserExecutionIntent where
  id := "intent"
  userId := "user"
  intentToken := "token"
  previewHash := "hash"
  status := status
  intentType := "OPEN_POSITION"
  positionId := none
  symbol := "BTCUSDT"
  notional := 100
  size := none
  price := none
  stopPrice := none
  takeProfitPrice := none
  reduceOnly := false
  riskScore := 0
  riskFlags := []
  rejectReasonCodes := []
  normalizedOrderPayload := ⟨some "BTCUSDT", some "spot", some "buy", some 1⟩

def sampleExecution : Execution := ⟨"admin", "approved", true, none, "position"⟩

def noPositions : Paper.Book := ⟨[], List.nodup_nil⟩

end Intent
