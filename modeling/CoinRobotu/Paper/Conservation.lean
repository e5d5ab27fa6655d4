import CoinRobotu.Paper.Opening
import CoinRobotu.Paper.Realized

/-!
# From the approved notional to the fills

An opening buys the approved notional at the last price, but never less than one
thousandth. From then on the intents on the position account for its quantity: what
they closed and what is left make the quantity that was opened, and a position that
is no longer open has at most the tolerance of `PARTIAL_CLOSE` left. The profit that
is booked is that of the fills, times the leverage, up to the rounding of each close;
so it does not depend on how a close at one price is split.
-/

namespace Paper

open Numeric

def PaperPosition.fillProfit (position : PaperPosition) (price quantity : ℚ) : ℚ :=
  (price - position.entryPrice) * quantity * position.direction * (max position.leverage 1 : ℤ)

/-- Whether an intent does this to a position. -/
def Happening.OfIntent : Happening → Prop
  | .refresh _ => False
  | .manualClose => False
  | _ => True

def Operation.IsAct : Operation → Prop
  | .act _ _ _ => True
  | _ => False

namespace Account

def closedQuantity (account : Account) : ℚ := (account.closes.map Prod.snd).sum

def fillsProfit (opened : PaperPosition) (account : Account) : ℚ :=
  (account.closes.map fun close => opened.fillProfit close.1 close.2).sum

/-- The quantity and the profit of a position are those of its closes. -/
structure Conserves (opened : PaperPosition) (account : Account) : Prop where
  nonnegative : 0 ≤ account.position.quantity
  quantity : account.closedQuantity + account.position.quantity = opened.quantity
  spent : account.position.status ≠ "open" → account.position.quantity ≤ 1 / 10 ^ 8
  terms : ∀ price quantity,
    account.position.fillProfit price quantity = opened.fillProfit price quantity
  profit : |account.position.realizedPnl - opened.realizedPnl - account.fillsProfit opened| ≤
    account.closes.length * (1 / 2 / 10 ^ 6)

end Account

section Steps

variable (position : PaperPosition)

theorem PaperPosition.calcRealizedPnl_near (price quantity : ℚ) :
    |position.calcRealizedPnl price quantity - position.fillProfit price quantity| ≤
      1 / 2 / 10 ^ 6 :=
  abs_roundTo_sub_le 6 _

theorem Happening.apply_fillProfit (happening : Happening) (price quantity : ℚ) :
    (happening.apply position).fillProfit price quantity = position.fillProfit price quantity := by
  cases happening with
  | partialClose exitPrice requested =>
    simp only [apply, PaperPosition.partialClose]
    split <;> rfl
  | refresh lastPrice =>
    simp only [apply, PaperPosition.refresh]
    split <;> rfl
  | _ => rfl

theorem PaperPosition.partialClose_quantity (exitPrice requested : ℚ) :
    (position.partialClose exitPrice requested).quantity =
        position.quantity - position.closeQuantity requested ∧
      0 ≤ position.quantity - position.closeQuantity requested := by
  have rest : 0 ≤ position.quantity - position.closeQuantity requested := by
    have taken : position.closeQuantity requested ≤ position.quantity := min_le_right _ _
    linarith
  refine ⟨?_, rest⟩
  dsimp only [partialClose]
  split <;> exact max_eq_left rest

theorem PaperPosition.partialClose_spent (wasOpen : position.status = "open")
    (exitPrice requested : ℚ)
    (closed : (position.partialClose exitPrice requested).status ≠ "open") :
    (position.partialClose exitPrice requested).quantity ≤ 1 / 10 ^ 8 := by
  dsimp only [partialClose] at closed ⊢
  split at closed
  · rename_i little
    rw [if_pos little]
    exact little
  · exact absurd wasOpen closed

variable {position} {account : Account}

variable (conserves : account.Conserves position)

include conserves

theorem Account.Conserves.booked {price quantity : ℚ}
    {next : Account} (closes : next.closes = account.closes ++ [(price, quantity)])
    (realized : next.position.realizedPnl =
      account.position.realizedPnl + account.position.calcRealizedPnl price quantity) :
    |next.position.realizedPnl - position.realizedPnl - next.fillsProfit position| ≤
      next.closes.length * (1 / 2 / 10 ^ 6) := by
  have near := account.position.calcRealizedPnl_near price quantity
  have before := conserves.profit
  have fills : next.fillsProfit position =
      account.fillsProfit position + account.position.fillProfit price quantity := by
    rw [conserves.terms price quantity]
    simp [Account.fillsProfit, closes]
  have count : (next.closes.length : ℚ) = account.closes.length + 1 := by simp [closes]
  rw [fills, count, realized]
  rw [abs_le] at near before ⊢
  constructor <;> linarith [near.1, near.2, before.1, before.2]

theorem Account.Conserves.unmoved {next : Account} (closes : next.closes = account.closes)
    (quantity : next.position.quantity = account.position.quantity)
    (status : next.position.status = account.position.status)
    (realized : next.position.realizedPnl = account.position.realizedPnl)
    (terms : ∀ price quantity, next.position.fillProfit price quantity =
      position.fillProfit price quantity) : next.Conserves position := by
  constructor
  · rw [quantity]
    exact conserves.nonnegative
  · unfold Account.closedQuantity
    rw [closes, quantity]
    exact conserves.quantity
  · rw [status, quantity]
    exact conserves.spent
  · exact terms
  · unfold Account.fillsProfit
    rw [closes, realized]
    exact conserves.profit

theorem Account.Conserves.after {happening : Happening} (ofIntent : happening.OfIntent)
    (alive : account.position.status = "open" ∨ happening = .nothing) :
    (account.after happening).Conserves position := by
  have terms : ∀ price quantity, (account.after happening).position.fillProfit price quantity =
      position.fillProfit price quantity := fun price quantity =>
    (Happening.apply_fillProfit account.position happening price quantity).trans
      (conserves.terms price quantity)
  cases happening with
  | refresh | manualClose => exact absurd ofIntent id
  | close exitPrice =>
    refine ⟨le_rfl, ?_, fun _ => by norm_num [Account.after, Happening.apply,
      PaperPosition.close], terms, conserves.booked rfl rfl⟩
    have quantity := conserves.quantity
    simp only [Account.closedQuantity, Account.after, Account.closesOf, List.map_append,
      List.sum_append, Happening.apply, PaperPosition.close] at quantity ⊢
    simpa using quantity
  | partialClose exitPrice requested =>
    have isOpen : account.position.status = "open" := alive.resolve_right (by simp)
    obtain ⟨rest, nonnegative⟩ := account.position.partialClose_quantity exitPrice requested
    refine ⟨?_, ?_, account.position.partialClose_spent isOpen exitPrice requested, terms,
      conserves.booked rfl (account.position.partialClose_realizedPnl exitPrice requested)⟩
    · calc (0 : ℚ) ≤ _ := nonnegative
        _ = _ := rest.symm
    · have quantity := conserves.quantity
      have isRest : ((account.after (.partialClose exitPrice requested)).position).quantity =
        account.position.quantity - account.position.closeQuantity requested := rest
      rw [isRest]
      simp only [Account.closedQuantity, Account.after, Account.closesOf, List.map_append,
        List.sum_append, List.map_cons, List.map_nil, List.sum_cons, List.sum_nil] at quantity ⊢
      linarith
  | nothing | moveStop | moveTakeProfit =>
    exact conserves.unmoved (List.append_nil _) rfl rfl rfl terms

end Steps

section Runs

variable {book : Book} {id : String} {position : PaperPosition}

theorem Operation.IsAct.ofIntent {operation : Operation} (isAct : operation.IsAct) (book : Book)
    (position : PaperPosition) :
    (operation.happening book position).OfIntent := by
  cases operation with
  | act intent safePrice newId =>
    unfold Operation.happening
    dsimp only
    split
    · unfold PositionIntent.happening
      split_ifs <;> trivial
    · trivial
  | _ => exact absurd isAct id

theorem Account.Conserves.follow {account : Account} (conserves : account.Conserves position)
    (found : book.find id = some account.position) {operations : List Operation}
    (acts : ∀ operation ∈ operations, operation.IsAct) :
    (account.follow book operations).Conserves position := by
  induction operations generalizing account book with
  | nil => exact conserves
  | cons operation operations ih =>
    have alive : account.position.status = "open" ∨
        operation.happening book account.position = .nothing := by
      by_cases isOpen : account.position.status = "open"
      · exact .inl isOpen
      · exact .inr (happening_of_closed found isOpen operation)
    have ofIntent := (acts operation List.mem_cons_self).ofIntent book account.position
    apply ih (conserves.after ofIntent alive)
    · exact find_after found operation
    · exact fun other inside => acts other (List.mem_cons_of_mem _ inside)

theorem Account.conserves_opened (nonnegative : 0 ≤ position.quantity)
    (isOpen : position.status = "open") : (Account.opened position).Conserves position := by
  constructor
  · exact nonnegative
  · simp [Account.opened, Account.closedQuantity]
  · exact fun closed => absurd isOpen closed
  · exact fun _ _ => rfl
  · simp [Account.opened, Account.fillsProfit]

theorem PaperPosition.fillProfit_sum (position : PaperPosition) {price : ℚ}
    {closes : List (ℚ × ℚ)} (same : ∀ close ∈ closes, close.1 = price) :
    (closes.map fun close => position.fillProfit close.1 close.2).sum =
      position.fillProfit price (closes.map Prod.snd).sum := by
  induction closes with
  | nil => simp [fillProfit]
  | cons close closes ih =>
    have first : close.1 = price := same close List.mem_cons_self
    have rest := ih fun other inside => same other (List.mem_cons_of_mem _ inside)
    rw [List.map_cons, List.sum_cons, rest, first, List.map_cons, List.sum_cons]
    unfold fillProfit
    ring

/-- What is opened at a price of one or more is worth the approved notional up to the
rounding of its quantity, or is the least quantity. -/
theorem executed_intents_conserve :
    (∀ (allowedQuotes futuresSymbols : List String) (safePrice : String → ℚ)
        (bots : List BotProfile) (intent : OpeningIntent) (normalized : OpeningPayload)
        (newId newBotId : String) (opening : Opening),
      openPositionFromIntent allowedQuotes futuresSymbols safePrice bots intent normalized newId
        newBotId = .ok opening →
      1 ≤ opening.position.entryPrice →
      if opening.position.entryPrice / 1000 ≤ intent.notional then
        |opening.position.quantity * opening.position.entryPrice - intent.notional| ≤
          opening.position.entryPrice * (1 / 2 / 10 ^ 6)
      else opening.position.quantity = 1 / 1000) ∧
    ∀ (book : Book) (id : String) (position : PaperPosition) (operations : List Operation),
      book.find id = some position → position.status = "open" → 0 ≤ position.quantity →
      (∀ operation ∈ operations, operation.IsAct) →
      (book.afterAll operations).find id =
          some ((Account.opened position).follow book operations).position ∧
        ((Account.opened position).follow book operations).Conserves position ∧
        ∀ price, (∀ close ∈ ((Account.opened position).follow book operations).closes,
            close.1 = price) →
          |((Account.opened position).follow book operations).position.realizedPnl -
              position.realizedPnl - position.fillProfit price
                ((Account.opened position).follow book operations).closedQuantity| ≤
            ((Account.opened position).follow book operations).closes.length *
              (1 / 2 / 10 ^ 6) := by
  constructor
  · intro allowedQuotes futuresSymbols safePrice bots intent normalized newId newBotId opening
      opened priced
    obtain ⟨_, isPrice, isQuantity, _⟩ := openPositionFromIntent_ok opened
    rw [isQuantity, ← isPrice]
    split
    · rename_i enough
      exact openedQuantity_worth priced enough
    · rename_i little
      exact openedQuantity_least priced (not_le.mp little)
  · intro book id position operations found isOpen nonnegative acts
    have started : book.find id = some (Account.opened position).position := found
    have conserves := (Account.conserves_opened nonnegative isOpen).follow started acts
    refine ⟨Account.follow_found started operations, conserves, ?_⟩
    intro price same
    have fills := position.fillProfit_sum same
    have profit := conserves.profit
    unfold Account.fillsProfit at profit
    rw [fills] at profit
    exact profit

end Runs

def hundred : String → ℚ := fun _ => 100

def approvedIntent (notional : ℚ) : OpeningIntent := ⟨"user-1", "BTCUSDT", notional, none, none⟩

def openedFor (notional : ℚ) : Except String Opening :=
  openPositionFromIntent ["USDT", "USDC"] [] hundred [] (approvedIntent notional)
    ⟨none, some "futures", none, none⟩ "position-1" "bot-1"

theorem executed_intents_conserve_sample :
    (∃ opening, openedFor 50 = .ok opening ∧ opening.position.quantity = 1 / 2 ∧
      |opening.position.quantity * 100 - 50| ≤ 100 * (1 / 2 / 10 ^ 6)) ∧
    ((Account.opened samplePosition).follow sampleBook
      [samplePartialClose, samplePartialClose]).Conserves samplePosition := by
  constructor
  · have values : (openedFor 50).toOption.map (fun opening =>
        (opening.position.quantity, opening.position.entryPrice)) = some (1 / 2, 100) := by
      decide +kernel
    cases isOpened : openedFor 50 with
    | error message =>
      rw [isOpened] at values
      cases values
    | ok opening =>
      rw [isOpened] at values
      obtain ⟨isHalf, isPrice⟩ := Prod.mk.inj (Option.some.inj values)
      have worth := executed_intents_conserve.1 _ _ _ _ _ _ _ _ opening isOpened
        (by rw [isPrice]; norm_num)
      rw [isPrice, if_pos (by norm_num [approvedIntent])] at worth
      exact ⟨opening, rfl, isHalf, worth⟩
  · have acts : ∀ operation ∈ [samplePartialClose, samplePartialClose], operation.IsAct := by
      intro operation inside
      simp only [List.mem_cons, List.not_mem_nil, or_false, or_self] at inside
      rw [inside]
      trivial
    exact (executed_intents_conserve.2 sampleBook "position-1" samplePosition
      [samplePartialClose, samplePartialClose] rfl rfl (by norm_num [samplePosition]) acts).2.1

/-- An approved notional of 0.05 opens a position that is worth 0.1, one of 50 is
leveraged by three, and its close at 110 books 15 for a half at ten more. -/
theorem least_quantity_and_leverage :
    ((openedFor (5 / 100)).toOption.map fun opening =>
        opening.position.quantity * opening.position.entryPrice) = some (1 / 10) ∧
      ((openedFor 50).toOption.map fun opening => (opening.position.quantity,
        opening.position.leverage, (opening.position.close 110).realizedPnl)) =
          some (1 / 2, 3, 15) := by
  decide +kernel

end Paper
