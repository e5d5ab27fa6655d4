import Mathlib.Algebra.Order.BigOperators.Group.List
import CoinRobotu.Policy.MultiLayerRisk

/-!
# Preview and submit of one intent

A preview evaluates the multi-layer check and then stores the intent with status
`PREVIEWED`, which is one of the pending states the check itself adds up.
-/

namespace Policy

open Runtime (upper orElse blank)

/-- A preview when it reaches the check: what the earlier steps made of the
request, and whether it passed them and those that follow. -/
structure PreviewRequest where
  userId : String
  intentId : String
  intentToken : String
  symbol : String
  adjustedNotional : ℚ
  strategyBinding : Option String
  portfolioId : Option String
  side : Option String
  payloadSide : Option String
  valid : Bool

namespace PreviewRequest

variable (request : PreviewRequest)

/-- `pipeline_context` of the preview. -/
def context : Context :=
  { userId := request.userId
    symbol := request.symbol
    strategyBinding := orElse request.strategyBinding "manual_execution"
    proposedNotional := max request.adjustedNotional 0
    portfolioId := some (orElse request.portfolioId (defaultPortfolioId request.userId))
    side := orElse request.side (orElse request.payloadSide "buy") }

/-- The row the preview stores. -/
def row : UserExecutionIntent :=
  { userId := request.userId
    intentId := request.intentId
    intentToken := request.intentToken
    status := if request.valid then "PREVIEWED" else "REJECTED"
    symbol := request.symbol
    notional := max request.adjustedNotional 0
    strategyBinding := request.strategyBinding
    portfolioId := request.portfolioId
    side := request.side }

end PreviewRequest

namespace Store

variable (store : Store)

def findIntent (userId intentId : String) : Option UserExecutionIntent :=
  store.intents.find? fun row => row.userId = userId ∧ row.intentId = intentId

def without (intentId : String) : Store :=
  { store with
    intents := store.intents.filter (·.intentId ≠ intentId)
    intentIds_nodup := store.intentIds_nodup.sublist (List.filter_sublist.map _)
    tokens_nodup := store.tokens_nodup.sublist (List.filter_sublist.map _) }

def insertIntent (row : UserExecutionIntent) : Except String Store :=
  if fresh : ((store.intents ++ [row]).map UserExecutionIntent.intentId).Nodup ∧
      ((store.intents ++ [row]).map UserExecutionIntent.intentToken).Nodup then
    .ok { store with
      intents := store.intents ++ [row]
      intentIds_nodup := fresh.1
      tokens_nodup := fresh.2 }
  else .error "duplicate key value violates unique constraint"

end Store

def replaceableStates : List String := ["PREVIEWED", "REJECTED", "CANCELLED", "FAILED"]

/-- `preview_execution_intent` from the check on, with the result of the check.
A check that raises is reported as the error it raises. -/
def previewExecutionIntent (store : Store) (riskRules : Numbers) (request : PreviewRequest) :
    Except String (MultiLayerRisk × Store) :=
  (computeMultiLayerRisk store request.context riskRules).bind fun checked =>
    match checked.2.findIntent request.userId request.intentId with
    | none => (checked.2.insertIntent request.row).map fun after => (checked.1, after)
    | some duplicate =>
        if upper duplicate.status ∈ replaceableStates then
          ((checked.2.without request.intentId).insertIntent request.row).map
            fun after => (checked.1, after)
        else .error "duplicate_execution_intent"

/-- `submit_pipeline_context`. -/
def UserExecutionIntent.submitContext (intent : UserExecutionIntent) (userId : String) : Context :=
  { userId
    symbol := intent.symbol
    strategyBinding := orElse intent.strategyBinding ""
    proposedNotional := intent.notional
    portfolioId := some (orElse intent.portfolioId (defaultPortfolioId userId))
    side := orElse intent.side "buy" }

/-- `submit_execution_intent` up to the check. -/
def submitExecutionIntent (store : Store) (riskRules : Numbers) (userId intentToken : String) :
    Except String (MultiLayerRisk × Store) :=
  match store.intents.find? fun row => row.userId = userId ∧ row.intentToken = intentToken with
  | none => .error "intent_not_found"
  | some intent =>
      if intent.status ≠ "PREVIEWED" then .error "preview_required"
      else computeMultiLayerRisk store (intent.submitContext userId) riskRules

section Counting

variable {store after : Store} {context : Context} {portfolio : ExecutionPortfolio}

/-- The notional under evaluation is counted once: every projected exposure is
what the other rows hold plus that notional. -/
def CountedOnce (store : Store) (context : Context) (intentId : String) (notional : ℚ) : Prop :=
  ∀ portfolio after, checkedPortfolio store context = .ok (portfolio, after) → ∀ layer,
    projected after context portfolio layer =
      current (after.without intentId) context portfolio layer + notional

def ownNotional (store : Store) (context : Context) (intentId : String)
    (counts : UserExecutionIntent → Bool) : ℚ :=
  pendingNotional store context fun row => counts row && row.intentId = intentId

theorem sum_filter_split {α : Type} (weight : α → ℚ) (pending counts own : α → Bool)
    (rows : List α) :
    (((rows.filter pending).filter counts).map weight).sum =
      ((((rows.filter fun row => !own row).filter pending).filter counts).map weight).sum +
        (((rows.filter pending).filter fun row => counts row && own row).map weight).sum := by
  induction rows with
  | nil => simp
  | cons row rows ih =>
    by_cases isPending : pending row <;> by_cases isCounted : counts row <;>
      by_cases isOwn : own row <;>
      simp [isPending, isCounted, isOwn] at ih ⊢ <;> linarith

theorem pendingNotional_without (intentId : String) (counts : UserExecutionIntent → Bool) :
    pendingNotional store context counts =
      pendingNotional (store.without intentId) context counts +
        ownNotional store context intentId counts := by
  have split := sum_filter_split (fun row : UserExecutionIntent => |row.notional|)
    (fun row => row.userId = context.userId ∧ row.status ∈ pendingIntentStates) counts
    (fun row => row.intentId = intentId) store.intents
  have others : (fun row : UserExecutionIntent => decide (row.intentId ≠ intentId)) =
      fun row => !decide (row.intentId = intentId) := by
    funext row
    simp
  rw [← others] at split
  exact split

theorem pendingNotional_nonneg (counts : UserExecutionIntent → Bool) :
    0 ≤ pendingNotional store context counts := by
  apply List.sum_nonneg
  intro value inside
  obtain ⟨row, _, rfl⟩ := List.mem_map.mp inside
  exact abs_nonneg _

theorem openNotional_nonneg (counts : Position → Bool) : 0 ≤ openNotional store context counts := by
  apply List.sum_nonneg
  intro value inside
  obtain ⟨row, _, rfl⟩ := List.mem_map.mp inside
  exact abs_nonneg _

variable {intentId : String}

theorem ownNotional_zero
    (empty : ∀ row ∈ pendingRows store context, row.intentId = intentId → row.notional = 0)
    (counts : UserExecutionIntent → Bool) : ownNotional store context intentId counts = 0 := by
  apply List.sum_eq_zero
  intro value inside
  obtain ⟨row, isRow, rfl⟩ := List.mem_map.mp inside
  obtain ⟨pending, isOwn⟩ := List.mem_filter.mp isRow
  simp only [Bool.and_eq_true, decide_eq_true_eq] at isOwn
  rw [empty row pending isOwn.2, abs_zero]

theorem empty_of_ownNotional
    (zero : ownNotional store context intentId (fun _ => true) = 0) :
    ∀ row ∈ pendingRows store context, row.intentId = intentId → row.notional = 0 := by
  intro row pending isOwn
  have inside : |row.notional| ∈ ((pendingRows store context).filter
      (fun row => true && decide (row.intentId = intentId))).map fun row => |row.notional| := by
    apply List.mem_map_of_mem
    rw [List.mem_filter]
    exact ⟨pending, by simpa using isOwn⟩
  have below := List.single_le_sum (by
    intro value inside
    obtain ⟨row, _, rfl⟩ := List.mem_map.mp inside
    exact abs_nonneg _) _ inside
  have nothing : |row.notional| ≤ 0 := below.trans_eq zero
  exact abs_eq_zero.mp (le_antisymm nothing (abs_nonneg _))

theorem current_without
    (empty : ∀ row ∈ pendingRows store context, row.intentId = intentId → row.notional = 0)
    (layer : Layer) :
    current store context portfolio layer =
      current (store.without intentId) context portfolio layer := by
  have same (counts : UserExecutionIntent → Bool) : pendingNotional store context counts =
      pendingNotional (store.without intentId) context counts := by
    rw [pendingNotional_without intentId, ownNotional_zero empty, add_zero]
  have sameOpen (counts : Position → Bool) : openNotional store context counts =
      openNotional (store.without intentId) context counts := rfl
  cases layer <;>
    simp only [current, symbolExposure, strategyExposure, userExposure, portfolioExposure, same,
      sameOpen]

end Counting

section Agreement

variable {store after : Store} {riskRules : Numbers} {request : PreviewRequest}
  {previewed : MultiLayerRisk}

theorem Store.insertIntent_ok {row : UserExecutionIntent}
    (inserted : store.insertIntent row = .ok after) :
    after.intents = store.intents ++ [row] ∧ after.positions = store.positions ∧
      after.portfolios = store.portfolios := by
  unfold Store.insertIntent at inserted
  split at inserted
  · cases inserted
    exact ⟨rfl, rfl, rfl⟩
  · cases inserted

theorem Store.insertIntent_fresh {row : UserExecutionIntent}
    (inserted : store.insertIntent row = .ok after) :
    ∀ other ∈ store.intents, other.intentId ≠ row.intentId := by
  obtain ⟨grown, _⟩ := Store.insertIntent_ok inserted
  have distinct := after.intentIds_nodup
  rw [grown, List.map_append, List.nodup_append] at distinct
  intro other inside same
  exact distinct.2.2 _ (List.mem_map_of_mem inside) _ (by simp) same

theorem previewExecutionIntent_ok
    (reached : previewExecutionIntent store riskRules request = .ok (previewed, after)) :
    ∃ portfolio ensured, checkedPortfolio store request.context = .ok (portfolio, ensured) ∧
      previewed = multiLayerRisk ensured request.context riskRules portfolio ∧
      after.positions = ensured.positions ∧ after.portfolios = ensured.portfolios ∧
      after.intents = (ensured.without request.intentId).intents ++ [request.row] := by
  unfold previewExecutionIntent computeMultiLayerRisk at reached
  cases found : checkedPortfolio store request.context with
  | error message => rw [found] at reached; cases reached
  | ok pair =>
    obtain ⟨portfolio, ensured⟩ := pair
    rw [found] at reached
    simp only [Except.map, Except.bind] at reached
    refine ⟨portfolio, ensured, rfl, ?_⟩
    split at reached
    · cases inserted : ensured.insertIntent request.row with
      | error message => rw [inserted] at reached; cases reached
      | ok grownStore =>
        rw [inserted] at reached
        cases reached
        obtain ⟨grown, positions, portfolios⟩ := Store.insertIntent_ok inserted
        have untouched : (ensured.without request.intentId).intents = ensured.intents := by
          apply List.filter_eq_self.mpr
          intro other inside
          have different : other.intentId ≠ request.intentId :=
            Store.insertIntent_fresh inserted other inside
          simpa using different
        exact ⟨rfl, positions, portfolios, by rw [grown, untouched]⟩
    · split at reached
      · cases inserted : (ensured.without request.intentId).insertIntent request.row with
        | error message => rw [inserted] at reached; cases reached
        | ok grownStore =>
          rw [inserted] at reached
          cases reached
          obtain ⟨grown, positions, portfolios⟩ := Store.insertIntent_ok inserted
          exact ⟨rfl, positions, portfolios, grown⟩
      · cases reached

variable {ensured : Store}

/-- The submit evaluates the check for the row of the preview, with the
portfolio that the preview ensured. -/
theorem submitExecutionIntent_previewed (riskRules : Numbers) (valid : request.valid = true)
    {portfolio : ExecutionPortfolio}
    (checked : checkedPortfolio store request.context = .ok (portfolio, ensured))
    (portfolios : after.portfolios = ensured.portfolios)
    (grown : after.intents = (ensured.without request.intentId).intents ++ [request.row]) :
    checkedPortfolio after (request.row.submitContext request.userId) = .ok (portfolio, after) ∧
      submitExecutionIntent after riskRules request.userId request.intentToken =
        .ok (multiLayerRisk after (request.row.submitContext request.userId) riskRules portfolio,
          after) := by
  have again : checkedPortfolio after (request.row.submitContext request.userId) =
      .ok (portfolio, after) := ensureUserDefaultPortfolio_again checked portfolios
  refine ⟨again, ?_⟩
  have inside : request.row ∈ after.intents := by
    rw [grown]
    exact List.mem_append_right _ (List.mem_singleton_self _)
  obtain ⟨row, found⟩ : ∃ row, (after.intents.find? fun row =>
      row.userId = request.userId ∧ row.intentToken = request.intentToken) = some row := by
    apply Option.isSome_iff_exists.mp
    rw [List.find?_isSome]
    exact ⟨request.row, inside, by simp [PreviewRequest.row]⟩
  have token := List.find?_some found
  simp only [decide_eq_true_eq] at token
  have same : row = request.row :=
    List.inj_on_of_nodup_map after.tokens_nodup (List.mem_of_find?_eq_some found) inside token.2
  have status : request.row.status = "PREVIEWED" := by simp [PreviewRequest.row, valid]
  unfold submitExecutionIntent computeMultiLayerRisk
  rw [found]
  simp only [same, status, ne_eq, not_true_eq_false, if_false, again, Except.map]

theorem ownNotional_previewed (valid : request.valid = true)
    (grown : after.intents = (ensured.without request.intentId).intents ++ [request.row]) :
    ownNotional after (request.row.submitContext request.userId) request.intentId (fun _ => true) =
      max request.adjustedNotional 0 := by
  have status : request.row.status = "PREVIEWED" := by simp [PreviewRequest.row, valid]
  have others : (((ensured.without request.intentId).intents.filter fun row =>
      decide (row.userId = (request.row.submitContext request.userId).userId ∧
        row.status ∈ pendingIntentStates)).filter fun row =>
          true && decide (row.intentId = request.intentId)) = [] := by
    rw [List.filter_eq_nil_iff]
    intro row pending
    have apart := (List.mem_filter.mp (List.mem_of_mem_filter pending)).2
    simpa using apart
  have own : (pendingRows after (request.row.submitContext request.userId)).filter
      (fun row => true && decide (row.intentId = request.intentId)) = [request.row] := by
    unfold pendingRows
    rw [grown, List.filter_append, List.filter_append]
    rw [others]
    simp [PreviewRequest.row, UserExecutionIntent.submitContext, valid, pendingIntentStates]
  unfold ownNotional pendingNotional
  rw [own]
  simp [PreviewRequest.row]

theorem current_user (context : Context) (portfolio : ExecutionPortfolio) (intentId : String) :
    current store context portfolio .user =
      current (store.without intentId) context portfolio .user +
        ownNotional store context intentId fun _ => true := by
  have split : pendingNotional store context (fun _ => true) =
      pendingNotional (store.without intentId) context (fun _ => true) +
        ownNotional store context intentId fun _ => true := pendingNotional_without intentId _
  have sameOpen : openNotional store context (fun _ => true) =
      openNotional (store.without intentId) context fun _ => true := rfl
  simp only [current, userExposure, sameOpen]
  linarith

variable {here there : Context}

theorem ofPortfolio_congr (user : here.userId = there.userId)
    (portfolio : ExecutionPortfolio) : ofPortfolio here portfolio =
      ofPortfolio there portfolio := by
  funext row
  simp only [ofPortfolio, user]

variable {first second : Store}

/-- Two stores with the same open positions and the same pending rows hold the
same in every layer but the strategy's, for contexts of one user and symbol. -/
theorem current_congr {layer : Layer}
    (portfolio : ExecutionPortfolio) (positions : first.positions = second.positions)
    (intents : first.intents = second.intents) (user : here.userId = there.userId)
    (symbol : here.symbol = there.symbol) (other : layer ≠ .strategy) :
    current first here portfolio layer = current second there portfolio layer := by
  have samePortfolio := ofPortfolio_congr user portfolio
  cases layer with
  | strategy => exact absurd rfl other
  | order => rfl
  | _ =>
    simp only [current, symbolExposure, userExposure, portfolioExposure, openNotional,
      pendingNotional, openRows, pendingRows, ofSymbol, samePortfolio, positions, intents, user,
      symbol]

theorem concentrationPct_congr
    (portfolio : ExecutionPortfolio) (intents : first.intents = second.intents)
    (user : here.userId = there.userId) (symbol : here.symbol = there.symbol)
    (proposed : here.proposed = there.proposed) :
    concentrationPct first here portfolio = concentrationPct second there portfolio := by
  have samePortfolio := ofPortfolio_congr user portfolio
  simp only [concentrationPct, portfolioSymbolExposure, portfolioGrossExposure, pendingNotional,
    pendingRows, ofSymbol, samePortfolio, intents, user, symbol, proposed]

variable {context : Context}

theorem concentrationPct_without {intentId : String}
    (portfolio : ExecutionPortfolio)
    (empty : ∀ row ∈ pendingRows store context, row.intentId = intentId → row.notional = 0) :
    concentrationPct store context portfolio =
      concentrationPct (store.without intentId) context portfolio := by
  have same (counts : UserExecutionIntent → Bool) : pendingNotional store context counts =
      pendingNotional (store.without intentId) context counts := by
    rw [pendingNotional_without intentId, ownNotional_zero empty, add_zero]
  simp only [concentrationPct, portfolioSymbolExposure, portfolioGrossExposure, same]

theorem strategyExposure_blank (blank : context.strategyBinding = "") :
    strategyExposure store context = 0 := by
  simp [strategyExposure, openNotional, pendingNotional, ofStrategy, blank]

theorem strategyExposure_nonneg : 0 ≤ strategyExposure store context :=
  add_nonneg (openNotional_nonneg _) (pendingNotional_nonneg _)

/-- The submit counts no more for the strategy than the preview: it has the same
strategy, or none where the preview falls back to `manual_execution`. -/
theorem strategyExposure_submit_le
    (positions : first.positions = second.positions) (intents : first.intents = second.intents) :
    strategyExposure first (request.row.submitContext request.userId) ≤
      strategyExposure second request.context := by
  by_cases unbound : blank request.strategyBinding = true
  · have none : (request.row.submitContext request.userId).strategyBinding = "" := by
      simp [PreviewRequest.row, UserExecutionIntent.submitContext, orElse, unbound]
    rw [strategyExposure_blank none]
    exact strategyExposure_nonneg
  · have same : (request.row.submitContext request.userId).strategyBinding =
        request.context.strategyBinding := by
      simp [PreviewRequest.row, PreviewRequest.context, UserExecutionIntent.submitContext, orElse,
        unbound]
    have user : (request.row.submitContext request.userId).userId = request.context.userId := rfl
    simp only [strategyExposure, openNotional, pendingNotional, openRows, pendingRows, ofStrategy,
      positions, intents, same, user]
    exact le_refl _

theorem without_previewed
    (grown : after.intents = (ensured.without request.intentId).intents ++ [request.row]) :
    (after.without request.intentId).intents = (ensured.without request.intentId).intents := by
  have own : request.row.intentId = request.intentId := rfl
  simp [Store.without, grown, own]

/-- Where the intent's rows hold nothing, no layer of the submit holds more than
that of the preview. -/
theorem current_submit_le (portfolio : ExecutionPortfolio)
    (positions : after.positions = ensured.positions)
    (intents : (after.without request.intentId).intents =
      (ensured.without request.intentId).intents)
    (emptyBefore : ∀ row ∈ pendingRows ensured request.context,
      row.intentId = request.intentId → row.notional = 0)
    (emptyAfter : ∀ row ∈ pendingRows after (request.row.submitContext request.userId),
      row.intentId = request.intentId → row.notional = 0) (layer : Layer) :
    current after (request.row.submitContext request.userId) portfolio layer ≤
      current ensured request.context portfolio layer := by
  rw [current_without emptyAfter, current_without emptyBefore]
  have samePositions : (after.without request.intentId).positions =
      (ensured.without request.intentId).positions := positions
  by_cases strategy : layer = .strategy
  · rw [strategy]
    exact strategyExposure_submit_le samePositions intents
  · have user : (request.row.submitContext request.userId).userId = request.context.userId := rfl
    have symbol : (request.row.submitContext request.userId).symbol = request.context.symbol := rfl
    exact (current_congr portfolio samePositions intents user symbol strategy).le

theorem countedOnce_of_empty {intentId : String}
    (none : context.proposed = 0) {portfolio : ExecutionPortfolio}
    (checked : checkedPortfolio store context = .ok (portfolio, ensured))
    (empty : ∀ row ∈ pendingRows ensured context, row.intentId = intentId → row.notional = 0) :
    CountedOnce store context intentId 0 := by
  intro other left found layer
  rw [checked] at found
  cases found
  rw [projected, none, current_without empty]

/-- A preview passed without a breach. -/
theorem preview_and_submit_agree_iff (valid : request.valid = true)
    (reached : previewExecutionIntent store riskRules request = .ok (previewed, after))
    (passed : previewed.breaches = []) :
    ((∃ submitted later, submitExecutionIntent after riskRules request.userId request.intentToken =
          .ok (submitted, later) ∧ submitted.breaches = []) ∧
        CountedOnce store request.context request.intentId (max request.adjustedNotional 0) ∧
        CountedOnce after (request.row.submitContext request.userId) request.intentId
          (max request.adjustedNotional 0)) ↔
      request.adjustedNotional ≤ 0 ∧
        ∀ row ∈ pendingRows store request.context, row.intentId = request.intentId →
          row.notional = 0 := by
  obtain ⟨portfolio, ensured, checked, rfl, positions, portfolios, grown⟩ :=
    previewExecutionIntent_ok reached
  obtain ⟨samePositions, sameIntents⟩ := ensureUserDefaultPortfolio_frame checked
  obtain ⟨again, submitted⟩ := submitExecutionIntent_previewed riskRules valid checked portfolios
    grown
  have own := ownNotional_previewed valid grown
  have proposed : request.context.proposed = max request.adjustedNotional 0 := by
    simp [Context.proposed, PreviewRequest.context]
  have proposedAgain : (request.row.submitContext request.userId).proposed =
      max request.adjustedNotional 0 := by
    simp [Context.proposed, UserExecutionIntent.submitContext, PreviewRequest.row]
  have pendingSame : pendingRows ensured request.context = pendingRows store request.context := by
    simp only [pendingRows, sameIntents]
  constructor
  · rintro ⟨_, previewOnce, submitOnce⟩
    have first := previewOnce portfolio ensured checked .user
    have second := submitOnce portfolio after again .user
    rw [projected, current_user, proposed] at first
    rw [projected, current_user, own, proposedAgain] at second
    constructor
    · have nothing : max request.adjustedNotional 0 = 0 := by linarith
      exact max_eq_right_iff.mp nothing
    · rw [← pendingSame]
      apply empty_of_ownNotional
      linarith
  · rintro ⟨nothing, empty⟩
    rw [← pendingSame] at empty
    have zero : max request.adjustedNotional 0 = 0 := max_eq_right nothing
    rw [zero] at own proposed proposedAgain ⊢
    have emptyAfter := empty_of_ownNotional own
    have intents := without_previewed grown
    refine ⟨⟨_, _, submitted, ?_⟩, countedOnce_of_empty proposed checked empty,
      countedOnce_of_empty proposedAgain again emptyAfter⟩
    rw [multiLayerRisk_passes_iff] at passed ⊢
    obtain ⟨layers, concentration, drawdown⟩ := passed
    refine ⟨?_, ?_, drawdown⟩
    · intro layer
      apply layerBreach_of_le _ (layers layer)
      have below := current_submit_le portfolio positions intents empty emptyAfter layer
      rw [projected, projected, proposed, proposedAgain]
      linarith
    · have same : concentrationPct after (request.row.submitContext request.userId) portfolio =
          concentrationPct ensured request.context portfolio := by
        rw [concentrationPct_without portfolio emptyAfter, concentrationPct_without portfolio empty]
        exact concentrationPct_congr portfolio intents rfl rfl (proposedAgain.trans proposed.symm)
      rw [same]
      exact concentration

def newStore : Store := ⟨[], [], [], List.nodup_nil, List.nodup_nil, List.nodup_nil⟩

/-- A valid request for an open of the given notional. -/
def sampleRequest (adjustedNotional : ℚ) : PreviewRequest :=
  { userId := "user-1"
    intentId := "intent-1"
    intentToken := "token-1"
    symbol := "BTCUSDT"
    adjustedNotional
    strategyBinding := none
    portfolioId := none
    side := some "buy"
    payloadSide := none
    valid := true }

def sampleRules : Numbers :=
  [("max_order_notional", some 100000), ("max_user_exposure", some 100000)]

theorem preview_and_submit_agree_iff_zero :
    ∃ previewed after, previewExecutionIntent newStore sampleRules (sampleRequest 0) =
        .ok (previewed, after) ∧ previewed.breaches = [] ∧
      (((∃ submitted later, submitExecutionIntent after sampleRules "user-1" "token-1" =
            .ok (submitted, later) ∧ submitted.breaches = []) ∧
          CountedOnce newStore (sampleRequest 0).context "intent-1" (max 0 0) ∧
          CountedOnce after ((sampleRequest 0).row.submitContext "user-1") "intent-1" (max 0 0)) ↔
        (0 : ℚ) ≤ 0 ∧ ∀ row ∈ pendingRows newStore (sampleRequest 0).context,
          row.intentId = "intent-1" → row.notional = 0) := by
  have passes : (previewExecutionIntent newStore sampleRules (sampleRequest 0)).toOption.map
      (fun reply => reply.1.breaches) = some [] := by decide +kernel
  cases reached : previewExecutionIntent newStore sampleRules (sampleRequest 0) with
  | error message =>
    rw [reached] at passes
    cases passes
  | ok reply =>
    obtain ⟨previewed, after⟩ := reply
    rw [reached] at passes
    have passed : previewed.breaches = [] := by simpa [Except.toOption] using passes
    exact ⟨previewed, after, rfl, passed, preview_and_submit_agree_iff rfl reached passed⟩

/-- A preview of 60000 passes a limit of 100000; the submit counts it twice. -/
theorem submit_counts_preview_again :
    (previewExecutionIntent newStore sampleRules (sampleRequest 60000)).toOption.map
        (fun reply => reply.1.breaches) = some [] ∧
      ((previewExecutionIntent newStore sampleRules (sampleRequest 60000)).toOption.bind
        fun reply => (submitExecutionIntent reply.2 sampleRules "user-1" "token-1").toOption.map
          fun again => again.1.breaches.map fun breach => (breach.reasonCode, breach.projected)) =
        some [("RISK_USER_BREACH", 120000)] := by
  decide +kernel

end Agreement

end Policy
