import CoinRobotu.Policy.PreviewSubmit

/-!
# What the check of one user depends on

The check reads the open positions and the pending intents of the user it is made for,
and one portfolio.
-/

namespace Policy

open Runtime (orElse strip blank)
open Numeric

namespace Store

variable (store : Store)

/-- Write a portfolio back under its key. -/
def putPortfolio (portfolio : ExecutionPortfolio) : Store :=
  { store with
    portfolios := store.portfolios.map fun row =>
      if row.portfolioId = portfolio.portfolioId then portfolio else row
    portfolioIds_nodup := by
      have same : (ExecutionPortfolio.portfolioId ∘ fun row =>
          if row.portfolioId = portfolio.portfolioId then portfolio else row) =
          ExecutionPortfolio.portfolioId := by
        funext row
        by_cases named : row.portfolioId = portfolio.portfolioId
        · simp [named]
        · simp [named]
      rw [List.map_map, same]
      exact store.portfolioIds_nodup }

def portfoliosOf (userId : String) : List ExecutionPortfolio :=
  store.portfolios.filter fun row => row.userId = userId

end Store

/-- The portfolio with the exposures measured after a trade. The column
`concentration` and the stamps of the update are left out, since no check reads them. -/
def ExecutionPortfolio.afterTrade (portfolio : ExecutionPortfolio) (metrics : Numbers) :
    ExecutionPortfolio :=
  let grossExposure :=
    max (safeFloat (metrics.lookup "exposure_after_trade") portfolio.grossExposure) 0
  { portfolio with
    exposure := grossExposure
    grossExposure
    netExposure := safeFloat (metrics.lookup "net_exposure_after_trade") portfolio.netExposure
    drawdown := max (safeFloat (metrics.lookup "drawdown_pct") portfolio.drawdown) 0 }

def applyPortfolioPostTradeUpdate (store : Store) (context : Context) (metrics : Numbers) :
    Except String (Option ExecutionPortfolio × Store) :=
  if context.userId = "" then .ok (none, store)
  else (checkedPortfolio store context).map fun ensured =>
    let row := ensured.1.afterTrade metrics
    (some row, ensured.2.putPortfolio row)

/-- What a user sends: a request to preview an intent, or the token of a previewed one. -/
inductive Payload where
  | preview (request : PreviewRequest)
  | submit (userId intentToken : String)

namespace Payload

def userId : Payload → String
  | preview request => request.userId
  | submit userId _ => userId

/-- The context that the payload is checked in. -/
def context (store : Store) : Payload → Option Context
  | preview request => some request.context
  | submit userId intentToken =>
      ((store.intents.find? fun row => row.userId = userId ∧ row.intentToken = intentToken).filter
        fun row => row.status = "PREVIEWED").map fun row => row.submitContext userId

/-- The exposure evaluation of the payload, with the tables after the portfolio is ensured. -/
def check (store : Store) (riskRules : Numbers) : Payload → Except String (MultiLayerRisk × Store)
  | preview request => computeMultiLayerRisk store request.context riskRules
  | submit userId intentToken => submitExecutionIntent store riskRules userId intentToken

/-- What the evaluation tells the user: the exposures, the limits and the breaches that
the verdict is made of, or an error. -/
def evaluation (payload : Payload) (store : Store) (riskRules : Numbers) :
    Except String MultiLayerRisk :=
  (payload.check store riskRules).map Prod.fst

end Payload

/-- Two stores that differ in the rows of one user at most. -/
structure DifferOnlyIn (other : String) (store changed : Store) : Prop where
  positions : store.positions.filter (fun row => row.userId ≠ other) =
    changed.positions.filter fun row => row.userId ≠ other
  intents : store.intents.filter (fun row => row.userId ≠ other) =
    changed.intents.filter fun row => row.userId ≠ other
  portfolios : store.portfolios.filter (fun row => row.userId ≠ other) =
    changed.portfolios.filter fun row => row.userId ≠ other

/-- A payload is isolated from another user: what it is told does not depend on the rows
of the other, and the portfolios of the other are left as they are, by the evaluation and
by the update after the trade. -/
structure Isolated (store : Store) (riskRules : Numbers) (payload : Payload) (other : String) :
    Prop where
  evaluation : ∀ changed, DifferOnlyIn other store changed →
    payload.evaluation changed riskRules = payload.evaluation store riskRules
  checkKeeps : ∀ risk after, payload.check store riskRules = .ok (risk, after) →
    after.portfoliosOf other = store.portfoliosOf other
  tradeKeeps : ∀ risk after context metrics portfolio traded,
    payload.check store riskRules = .ok (risk, after) → payload.context store = some context →
    applyPortfolioPostTradeUpdate after context metrics = .ok (portfolio, traded) →
    traded.portfoliosOf other = store.portfoliosOf other

/-- The identifier that a context names, with the user's own default where it names none. -/
def Context.namedPortfolio (context : Context) : String :=
  strip (orElse context.portfolioId (defaultPortfolioId context.userId))

/-- Every portfolio that the payload is checked with exists, and it is not the other's. -/
def Payload.NamesApart (payload : Payload) (store : Store) (other : String) : Prop :=
  ∀ context, payload.context store = some context → strip context.userId ≠ "" →
    ∃ portfolio, store.findPortfolio context.namedPortfolio = some portfolio ∧
      portfolio.userId ≠ other

section Selections

variable {Row : Type} {apart selected : Row → Bool} {rows changed : List Row}
  (within : ∀ row, selected row = true → apart row = true)
  (agree : rows.filter apart = changed.filter apart)

include within agree

/-- A selection that passes over the rows of a user gives the same rows in two lists that
agree on all others. -/
theorem filter_eq_of_others : rows.filter selected = changed.filter selected := by
  have narrowed (listed : List Row) : listed.filter selected =
      (listed.filter apart).filter selected := by
    rw [List.filter_filter]
    apply List.filter_congr
    intro row _
    cases chosen : selected row with
    | false => simp
    | true => simp [within row chosen]
  calc rows.filter selected = (rows.filter apart).filter selected := narrowed rows
    _ = (changed.filter apart).filter selected := by rw [agree]
    _ = changed.filter selected := (narrowed changed).symm

theorem find?_eq_of_others : rows.find? selected = changed.find? selected := by
  rw [← List.head?_filter, ← List.head?_filter, filter_eq_of_others within agree]

end Selections

section Portfolios

variable {store : Store} {portfolio : ExecutionPortfolio} {name : String}

theorem Store.findPortfolio_of_mem (inside : portfolio ∈ store.portfolios) :
    store.findPortfolio portfolio.portfolioId = some portfolio := by
  unfold Store.findPortfolio
  have some_row : (store.portfolios.find? fun row =>
      row.portfolioId = portfolio.portfolioId).isSome := by
    rw [List.find?_isSome]
    exact ⟨portfolio, inside, by simp⟩
  obtain ⟨row, found⟩ := Option.isSome_iff_exists.mp some_row
  have named : row.portfolioId = portfolio.portfolioId := by simpa using List.find?_some found
  have same : row = portfolio := List.inj_on_of_nodup_map store.portfolioIds_nodup
    (List.mem_of_find?_eq_some found) inside named
  rw [found, same]

theorem Store.of_findPortfolio (found : store.findPortfolio name = some portfolio) :
    portfolio ∈ store.portfolios ∧ portfolio.portfolioId = name := by
  have named := List.find?_some found
  exact ⟨List.mem_of_find?_eq_some found, by simpa using named⟩

theorem Store.portfoliosOf_put {other : String} {written : ExecutionPortfolio}
    (found : store.findPortfolio written.portfolioId = some portfolio)
    (own : portfolio.userId ≠ other) (kept : written.userId = portfolio.userId) :
    (store.putPortfolio written).portfoliosOf other = store.portfoliosOf other := by
  have untouched : ∀ row ∈ store.portfolios.filter (fun row => row.userId = other),
      (if row.portfolioId = written.portfolioId then written else row) = row := by
    intro row listed
    obtain ⟨inside, theirs⟩ := List.mem_filter.mp listed
    have elsewhere : row.portfolioId ≠ written.portfolioId := by
      intro named
      have same := Store.findPortfolio_of_mem inside
      rw [named, found, Option.some.injEq] at same
      apply own
      rw [same]
      simpa using theirs
    rw [if_neg elsewhere]
  unfold Store.portfoliosOf Store.putPortfolio
  dsimp only
  rw [List.filter_map]
  have selected : store.portfolios.filter ((fun row => decide (row.userId = other)) ∘ fun row =>
      if row.portfolioId = written.portfolioId then written else row) =
      store.portfolios.filter fun row => row.userId = other := by
    apply List.filter_congr
    intro row inside
    by_cases named : row.portfolioId = written.portfolioId
    · have same := Store.findPortfolio_of_mem inside
      rw [named, found, Option.some.injEq] at same
      simp [named, kept, same]
    · simp [named]
  rw [selected]
  rw [List.map_congr_left untouched, List.map_id']

theorem orElse_ne_empty {value : Option String} {fallback : String} (filled : fallback ≠ "") :
    orElse value fallback ≠ "" := by
  unfold orElse
  by_cases missing : blank value
  · rw [if_pos missing]
    exact filled
  · rw [if_neg missing]
    simpa [blank] using missing

theorem checked_name (context : Context) :
    strip (orElse (some (orElse context.portfolioId (defaultPortfolioId context.userId)))
      (defaultPortfolioId (strip context.userId))) = context.namedPortfolio := by
  have named : orElse context.portfolioId (defaultPortfolioId context.userId) ≠ "" := by
    apply orElse_ne_empty
    simp [defaultPortfolioId]
  have first : blank (some (orElse context.portfolioId (defaultPortfolioId context.userId))) =
      false := by
    simpa [blank] using named
  rw [Context.namedPortfolio, orElse, first]
  rfl

theorem checkedPortfolio_found {context : Context} (user : strip context.userId ≠ "")
    (found : store.findPortfolio context.namedPortfolio = some portfolio) :
    checkedPortfolio store context = .ok (portfolio, store) := by
  apply ensureUserDefaultPortfolio_found user
  rw [checked_name]
  exact found

end Portfolios

section Reading

variable {store changed : Store} {context : Context} {other : String} {riskRules : Numbers}

namespace DifferOnlyIn

variable (differ : DifferOnlyIn other store changed)
include differ

theorem openRows (own : context.userId ≠ other) :
    openRows changed context = openRows store context := by
  apply filter_eq_of_others _ differ.positions.symm
  intro row selected
  simp only [decide_eq_true_eq] at selected ⊢
  rw [selected.1]
  exact own

theorem pendingRows (own : context.userId ≠ other) :
    pendingRows changed context = pendingRows store context := by
  apply filter_eq_of_others _ differ.intents.symm
  intro row selected
  simp only [decide_eq_true_eq] at selected ⊢
  rw [selected.1]
  exact own

theorem findPortfolio {name : String} {portfolio : ExecutionPortfolio}
    (found : store.findPortfolio name = some portfolio) (own : portfolio.userId ≠ other) :
    changed.findPortfolio name = some portfolio := by
  obtain ⟨inside, rfl⟩ := Store.of_findPortfolio found
  apply Store.findPortfolio_of_mem
  have listed : portfolio ∈ changed.portfolios.filter fun row => row.userId ≠ other := by
    rw [← differ.portfolios]
    exact List.mem_filter.mpr ⟨inside, by simpa using own⟩
  exact List.mem_of_mem_filter listed

end DifferOnlyIn

theorem multiLayerRisk_congr {portfolio : ExecutionPortfolio}
    (positions : openRows changed context = openRows store context)
    (intents : pendingRows changed context = pendingRows store context) :
    multiLayerRisk changed context riskRules portfolio =
      multiLayerRisk store context riskRules portfolio := by
  have opened : openNotional changed context = openNotional store context := by
    funext counts
    rw [openNotional, openNotional, positions]
  have pending : pendingNotional changed context = pendingNotional store context := by
    funext counts
    rw [pendingNotional, pendingNotional, intents]
  have layers : current changed context portfolio = current store context portfolio := by
    funext layer
    cases layer <;>
      simp only [current, symbolExposure, strategyExposure, userExposure, portfolioExposure,
        opened, pending]
  have gross : portfolioGrossExposure changed context portfolio =
      portfolioGrossExposure store context portfolio := by
    rw [portfolioGrossExposure, portfolioGrossExposure, pending]
  have concentration : concentrationPct changed context portfolio =
      concentrationPct store context portfolio := by
    rw [concentrationPct, concentrationPct, portfolioSymbolExposure, portfolioSymbolExposure,
      gross, pending]
  simp only [multiLayerRisk, projected, layers, gross, concentration]

theorem computeMultiLayerRisk_found {portfolio : ExecutionPortfolio}
    (user : strip context.userId ≠ "")
    (found : store.findPortfolio context.namedPortfolio = some portfolio) :
    computeMultiLayerRisk store context riskRules =
      .ok (multiLayerRisk store context riskRules portfolio, store) := by
  rw [computeMultiLayerRisk, checkedPortfolio_found user found]
  rfl

theorem computeMultiLayerRisk_nameless (nameless : strip context.userId = "") :
    computeMultiLayerRisk store context riskRules = .error "user_id_required_for_portfolio" := by
  have refused : checkedPortfolio store context = .error "user_id_required_for_portfolio" := by
    rw [checkedPortfolio, ensureUserDefaultPortfolio]
    simp [nameless]
  rw [computeMultiLayerRisk, refused]
  rfl

end Reading

section Payloads

variable {store changed : Store} {payload : Payload} {other : String} {riskRules : Numbers}

theorem Payload.context_userId {context : Context}
    (reached : payload.context store = some context) : context.userId = payload.userId := by
  cases payload with
  | preview request =>
    cases reached
    rfl
  | submit userId intentToken =>
    obtain ⟨intent, chosen, rfl⟩ := Option.map_eq_some_iff.mp reached
    rfl

theorem Payload.check_of_context {context : Context}
    (reached : payload.context store = some context) :
    payload.check store riskRules = computeMultiLayerRisk store context riskRules := by
  cases payload with
  | preview request =>
    cases reached
    rfl
  | submit userId intentToken =>
    obtain ⟨intent, chosen, rfl⟩ := Option.map_eq_some_iff.mp reached
    obtain ⟨found, previewed⟩ := Option.filter_eq_some_iff.mp chosen
    have status : intent.status = "PREVIEWED" := by simpa using previewed
    rw [Payload.check, submitExecutionIntent, found]
    simp [status]

theorem submitExecutionIntent_refused {userId intentToken : String}
    (unreached : (Payload.submit userId intentToken).context store = none) :
    submitExecutionIntent store riskRules userId intentToken =
      match store.intents.find? fun row =>
        row.userId = userId ∧ row.intentToken = intentToken with
      | none => .error "intent_not_found"
      | some _ => .error "preview_required" := by
  rw [submitExecutionIntent]
  cases found : store.intents.find? fun row =>
      row.userId = userId ∧ row.intentToken = intentToken with
  | none => rfl
  | some intent =>
    have refused : intent.status ≠ "PREVIEWED" := by
      intro previewed
      rw [Payload.context, found] at unreached
      simp [Option.filter, previewed] at unreached
    simp only [refused, ne_eq, not_false_eq_true, if_true]

theorem Payload.check_fails (riskRules : Numbers) (unreached : payload.context store = none) :
    ∃ error, payload.check store riskRules = .error error := by
  cases payload with
  | preview request => cases unreached
  | submit userId intentToken =>
    rw [Payload.check, submitExecutionIntent_refused unreached]
    cases store.intents.find? fun row => row.userId = userId ∧ row.intentToken = intentToken with
    | none => exact ⟨_, rfl⟩
    | some intent => exact ⟨_, rfl⟩

namespace DifferOnlyIn

variable (differ : DifferOnlyIn other store changed)
include differ

theorem intent {userId : String} (own : userId ≠ other) (intentToken : String) :
    (changed.intents.find? fun row => row.userId = userId ∧ row.intentToken = intentToken) =
      store.intents.find? fun row => row.userId = userId ∧ row.intentToken = intentToken := by
  apply find?_eq_of_others _ differ.intents.symm
  intro row selected
  simp only [decide_eq_true_eq] at selected ⊢
  rw [selected.1]
  exact own

theorem context (own : payload.userId ≠ other) :
    payload.context changed = payload.context store := by
  cases payload with
  | preview request => rfl
  | submit userId intentToken =>
    have sender : userId ≠ other := own
    rw [Payload.context, Payload.context, differ.intent sender]

theorem check_unreached (own : payload.userId ≠ other)
    (unreached : payload.context store = none) :
    payload.check changed riskRules = payload.check store riskRules := by
  have unreachedToo : payload.context changed = none := (differ.context own).trans unreached
  cases payload with
  | preview request => cases unreached
  | submit userId intentToken =>
    have sender : userId ≠ other := own
    rw [Payload.check, Payload.check, submitExecutionIntent_refused unreached,
      submitExecutionIntent_refused unreachedToo, differ.intent sender]

end DifferOnlyIn

theorem applyPortfolioPostTradeUpdate_found {context : Context} {metrics : Numbers}
    {portfolio : ExecutionPortfolio} (user : strip context.userId ≠ "")
    (found : store.findPortfolio context.namedPortfolio = some portfolio) :
    applyPortfolioPostTradeUpdate store context metrics =
      .ok (some (portfolio.afterTrade metrics),
        store.putPortfolio (portfolio.afterTrade metrics)) := by
  have filled : context.userId ≠ "" := by
    intro empty
    rw [empty] at user
    exact user (Runtime.strip_eq_empty.mpr nofun)
  rw [applyPortfolioPostTradeUpdate, if_neg filled, checkedPortfolio_found user found]
  rfl

/-- A payload that is refused before a portfolio is ensured is isolated where both
stores refuse it alike. -/
theorem isolated_of_refused {error : String} (fails : payload.check store riskRules = .error error)
    (alike : ∀ changed, DifferOnlyIn other store changed →
      payload.check changed riskRules = payload.check store riskRules) :
    Isolated store riskRules payload other := by
  constructor
  · intro changed differ
    rw [Payload.evaluation, Payload.evaluation, alike changed differ]
  · intro risk after checked
    rw [fails] at checked
    cases checked
  · intro risk after context metrics portfolio traded checked
    rw [fails] at checked
    cases checked

/-- A payload that is checked with a portfolio of anyone else is isolated: the portfolio
is the same in both stores, and it is the only one that is written. -/
theorem isolated_of_found {context : Context} {portfolio : ExecutionPortfolio}
    (reached : payload.context store = some context) (own : payload.userId ≠ other)
    (user : strip context.userId ≠ "")
    (found : store.findPortfolio context.namedPortfolio = some portfolio)
    (theirs : portfolio.userId ≠ other) : Isolated store riskRules payload other := by
  have sender : context.userId ≠ other := by
    rw [Payload.context_userId reached]
    exact own
  have passes : payload.check store riskRules =
      .ok (multiLayerRisk store context riskRules portfolio, store) :=
    (Payload.check_of_context reached).trans (computeMultiLayerRisk_found user found)
  constructor
  · intro changed differ
    have foundToo := differ.findPortfolio found theirs
    have passesToo : payload.check changed riskRules =
        .ok (multiLayerRisk changed context riskRules portfolio, changed) :=
      (Payload.check_of_context ((differ.context own).trans reached)).trans
        (computeMultiLayerRisk_found user foundToo)
    have same : multiLayerRisk changed context riskRules portfolio =
        multiLayerRisk store context riskRules portfolio :=
      multiLayerRisk_congr (differ.openRows sender) (differ.pendingRows sender)
    rw [Payload.evaluation, Payload.evaluation, passes, passesToo, same]
    rfl
  · intro risk after checked
    rw [passes] at checked
    cases checked
    rfl
  · intro risk after known metrics written traded checked reachedToo updated
    rw [passes] at checked
    cases checked
    rw [reached, Option.some.injEq] at reachedToo
    subst reachedToo
    rw [applyPortfolioPostTradeUpdate_found user found] at updated
    cases updated
    have key : (portfolio.afterTrade metrics).portfolioId = context.namedPortfolio :=
      (Store.of_findPortfolio found).2
    rw [← key] at found
    exact Store.portfoliosOf_put found theirs rfl

/-- Where the portfolio that is named exists and is not the other's, the payload is
isolated. -/
theorem isolated_of_namesApart (own : payload.userId ≠ other)
    (apart : payload.NamesApart store other) : Isolated store riskRules payload other := by
  cases reached : payload.context store with
  | none =>
    obtain ⟨error, fails⟩ := Payload.check_fails riskRules reached
    exact isolated_of_refused fails fun changed differ => differ.check_unreached own reached
  | some context =>
    by_cases user : strip context.userId = ""
    · have fails : payload.check store riskRules = .error "user_id_required_for_portfolio" :=
        (Payload.check_of_context reached).trans (computeMultiLayerRisk_nameless user)
      apply isolated_of_refused fails
      intro changed differ
      have reachedToo := (differ.context own).trans reached
      rw [fails, Payload.check_of_context reachedToo, computeMultiLayerRisk_nameless user]
    · obtain ⟨portfolio, found, theirs⟩ := apart context reached user
      exact isolated_of_found reached own user found theirs

/-- The store in which a portfolio takes the place of what stands under its key. -/
def Store.occupy (store : Store) (portfolio : ExecutionPortfolio) : Store :=
  { store with
    portfolios :=
      store.portfolios.filter (fun row => row.portfolioId ≠ portfolio.portfolioId) ++ [portfolio]
    portfolioIds_nodup := by
      rw [List.map_append, List.map_singleton]
      apply List.Nodup.append _ (List.nodup_singleton _)
      · rw [List.disjoint_singleton]
        intro listed
        obtain ⟨row, inside, named⟩ := List.mem_map.mp listed
        exact absurd named (by simpa using (List.mem_filter.mp inside).2)
      · exact store.portfolioIds_nodup.sublist (List.filter_sublist.map _) }

def drawnPortfolio (userId name : String) (drawdown : ℚ) : ExecutionPortfolio :=
  { newPortfolio userId name false with drawdown }

/-- The store differs in rows of the other alone, if no one else owns what stands under
the key. -/
theorem differOnlyIn_occupy {name : String} {drawdown : ℚ}
    (unowned : ∀ row ∈ store.portfolios, row.portfolioId = name → row.userId = other) :
    DifferOnlyIn other store (store.occupy (drawnPortfolio other name drawdown)) := by
  constructor
  · rfl
  · rfl
  · have added : [drawnPortfolio other name drawdown].filter (fun row => row.userId ≠ other) =
        [] := by
      simp [drawnPortfolio, newPortfolio]
    unfold Store.occupy
    dsimp only
    rw [List.filter_append, added, List.append_nil, List.filter_filter]
    apply List.filter_congr
    intro row inside
    by_cases theirs : row.userId = other
    · simp [theirs]
    · have elsewhere : row.portfolioId ≠ name := fun named => theirs (unowned row inside named)
      simp [theirs, elsewhere, drawnPortfolio, newPortfolio]

theorem evaluation_occupy {context : Context} {drawdown : ℚ}
    (reached : payload.context store = some context) (user : strip context.userId ≠ "") :
    (payload.evaluation (store.occupy (drawnPortfolio other context.namedPortfolio drawdown))
        riskRules).map (fun risk => risk.portfolioDomain.drawdownPct) =
      .ok (roundTo 6 drawdown) := by
  have reachedToo : payload.context
      (store.occupy (drawnPortfolio other context.namedPortfolio drawdown)) = some context := by
    rw [← reached]
    cases payload with
    | preview | submit => rfl
  have found : (store.occupy (drawnPortfolio other context.namedPortfolio drawdown)).findPortfolio
      context.namedPortfolio = some (drawnPortfolio other context.namedPortfolio drawdown) := by
    have inside : drawnPortfolio other context.namedPortfolio drawdown ∈
        (store.occupy (drawnPortfolio other context.namedPortfolio drawdown)).portfolios := by
      simp [Store.occupy]
    exact Store.findPortfolio_of_mem inside
  rw [Payload.evaluation, Payload.check_of_context reachedToo,
    computeMultiLayerRisk_found user found]
  rfl

/-- A payload that is isolated names a portfolio that is not the other's: else the other
could hold it, with one drawdown or another. -/
theorem namesApart_of_isolated (isolated : Isolated store riskRules payload other) :
    payload.NamesApart store other := by
  intro context reached user
  by_contra unnamed
  have unowned : ∀ row ∈ store.portfolios, row.portfolioId = context.namedPortfolio →
      row.userId = other := by
    intro row inside named
    by_contra theirs
    have found := Store.findPortfolio_of_mem inside
    rw [named] at found
    exact unnamed ⟨row, found, theirs⟩
  have told (drawdown : ℚ) : (payload.evaluation store riskRules).map
      (fun risk => risk.portfolioDomain.drawdownPct) = .ok (roundTo 6 drawdown) := by
    rw [← isolated.evaluation _ (differOnlyIn_occupy unowned)]
    exact evaluation_occupy reached user
  have same : (Except.ok (roundTo 6 0) : Except String ℚ) = .ok (roundTo 6 1) :=
    (told 0).symm.trans (told 1)
  have differ : roundTo 6 0 ≠ roundTo 6 1 := by decide +kernel
  exact differ (Except.ok.inj same)

/-- A payload is isolated from another user exactly where the portfolio it names exists
and is not the other's. -/
theorem isolated_iff (store : Store) (riskRules : Numbers) (payload : Payload) (other : String)
    (own : payload.userId ≠ other) :
    Isolated store riskRules payload other ↔ payload.NamesApart store other :=
  ⟨namesApart_of_isolated, isolated_of_namesApart own⟩

end Payloads

def soleStore (drawdown : ℚ) : Store :=
  ⟨[], [], [drawnPortfolio "user-2" "default:user-2" drawdown], List.nodup_nil, List.nodup_nil,
    by simp⟩

def foreignRequest : PreviewRequest :=
  { sampleRequest 5 with portfolioId := some "default:user-2" }

/-- The owner of the portfolio is isolated from the first user. -/
theorem isolated_iff_owner :
    Isolated (soleStore 0) [] (.preview { foreignRequest with userId := "user-2" }) "user-1" ∧
      Payload.NamesApart (.preview { foreignRequest with userId := "user-2" }) (soleStore 0)
        "user-1" := by
  have equivalent := isolated_iff (soleStore 0) []
    (.preview { foreignRequest with userId := "user-2" }) "user-1" (by decide)
  have apart : Payload.NamesApart (.preview { foreignRequest with userId := "user-2" })
      (soleStore 0) "user-1" := by
    intro context reached user
    cases reached
    exact ⟨drawnPortfolio "user-2" "default:user-2" 0, by decide +kernel, by decide⟩
  exact ⟨equivalent.mpr apart, apart⟩

/-- The first user is not isolated from the owner: the drawdown of the owner's portfolio
decides whether the request breaches a limit, and after a trade of the first user the
portfolio of the second has its exposures. -/
theorem foreign_portfolio_decides :
    DifferOnlyIn "user-2" (soleStore 0) (soleStore 30) ∧
      ((Payload.preview foreignRequest).evaluation (soleStore 0) []).toOption.map
        (fun risk => risk.breaches.map Breach.ruleId) = some [] ∧
      ((Payload.preview foreignRequest).evaluation (soleStore 30) []).toOption.map
        (fun risk => risk.breaches.map Breach.ruleId) = some ["risk.max_drawdown_pct"] ∧
      (applyPortfolioPostTradeUpdate (soleStore 0) foreignRequest.context
        [("exposure_after_trade", some 300001)]).toOption.map
          (fun traded => (traded.2.portfoliosOf "user-2").map ExecutionPortfolio.exposure) =
            some [300001] ∧
      ¬ ∀ store riskRules payload other, payload.userId ≠ other →
        Isolated store riskRules payload other := by
  have differ : DifferOnlyIn "user-2" (soleStore 0) (soleStore 30) := by
    constructor <;> rfl
  have passes : ((Payload.preview foreignRequest).evaluation (soleStore 0) []).toOption.map
      (fun risk => risk.breaches.map Breach.ruleId) = some [] := by decide +kernel
  have stopped : ((Payload.preview foreignRequest).evaluation (soleStore 30) []).toOption.map
      (fun risk => risk.breaches.map Breach.ruleId) = some ["risk.max_drawdown_pct"] := by
    decide +kernel
  refine ⟨differ, passes, stopped, by decide +kernel, ?_⟩
  intro every
  have isolated := every (soleStore 0) [] (.preview foreignRequest) "user-2" (by decide)
  rw [isolated.evaluation _ differ, passes] at stopped
  cases stopped

end Policy
