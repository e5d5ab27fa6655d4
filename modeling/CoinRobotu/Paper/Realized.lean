import CoinRobotu.Paper.Positions

/-!
# Realized profit over a position's whole life

The history of one position is the list of its closes, each with the price and
the quantity it took, and the price at which the position was last marked. The
intents book a close by adding its profit. A stop, a target, the manual close
and the kill switch assign the profit instead, so they forget what earlier
partial closes had booked. The condition under which the assigned value is the
whole profit is exact.
-/

namespace Paper

open Numeric

/-- What an operation does to one row. -/
inductive Happening where
  | nothing
  | close (exitPrice : ℚ)
  | partialClose (exitPrice requested : ℚ)
  | moveStop (price : ℚ)
  | moveTakeProfit (price : ℚ)
  | refresh (lastPrice : ℚ)
  | manualClose
deriving DecidableEq

def Happening.apply : Happening → PaperPosition → PaperPosition
  | .nothing, position => position
  | .close exitPrice, position => position.close exitPrice
  | .partialClose exitPrice requested, position => position.partialClose exitPrice requested
  | .moveStop price, position => position.moveStop price
  | .moveTakeProfit price, position => position.moveTakeProfit price
  | .refresh lastPrice, position => position.refresh lastPrice
  | .manualClose, position => position.manualClose

def PositionIntent.happening (intent : PositionIntent) (exitPrice : ℚ) : Happening :=
  if intent.intentType = "CLOSE_POSITION" then .close exitPrice
  else if intent.intentType = "PARTIAL_CLOSE" then .partialClose exitPrice (intent.size.getD 0)
  else if intent.intentType = "REVERSE_POSITION" then .close exitPrice
  else if intent.intentType = "MOVE_STOP" then .moveStop (intent.stopPrice.getD 0)
  else .moveTakeProfit (intent.takeProfitPrice.getD 0)

/-- What an operation on the table does to a row of it. -/
def Operation.happening (book : Book) (position : PaperPosition) : Operation → Happening
  | .act intent safePrice newId =>
      if (applyPositionActionIntent safePrice book intent newId).isOk ∧
          intent.positionId = some position.id then
        intent.happening (exitPriceOf safePrice intent position)
      else .nothing
  | .refresh latestPrices =>
      if position.status = "open" then
        match latestPrices position.symbol with
        | none => .nothing
        | some lastPrice => .refresh lastPrice
      else .nothing
  | .manualClose id =>
      if position.id = id ∧ position.status = "open" then .manualClose else .nothing
  | .killSwitch => if position.status = "open" then .manualClose else .nothing

section Rows

variable {book after : Book} {id : String} {position : PaperPosition}

theorem Book.find_id (found : book.find id = some position) : position.id = id := by
  simpa using List.find?_some found

theorem Book.find_update (change : PaperPosition → PaperPosition)
    (keeps : ∀ position, (change position).id = position.id)
    (found : book.find id = some position) :
    (book.update change keeps).find id = some (change position) := by
  unfold Book.find Book.update at *
  rw [List.find?_map]
  have same : ((fun row : PaperPosition => decide (row.id = id)) ∘ change) =
      fun row => decide (row.id = id) := by
    funext row
    simp [keeps]
  rw [same, found]
  rfl

theorem Book.find_updateRow (target : String) (change : PaperPosition → PaperPosition)
    (keeps : ∀ position, (change position).id = position.id)
    (found : book.find id = some position) :
    (book.updateRow target change keeps).find id =
      some (if id = target then change position else position) := by
  rw [Book.updateRow, Book.find_update _ _ found, Book.find_id found]

theorem Book.find_insert {added : PaperPosition} (inserted : book.insert added = .ok after)
    (found : book.find id = some position) : after.find id = some position := by
  unfold Book.insert at inserted
  split at inserted
  · cases inserted
    unfold Book.find at *
    rw [List.find?_append, found]
    rfl
  · cases inserted

theorem Book.openPosition_find {intent : PositionIntent}
    (acted : book.openPosition intent id = some position) :
    book.find id = some position ∧ position.status = "open" := by
  have inside := List.mem_of_find?_eq_some acted
  have conditions := List.find?_some acted
  simp only [decide_eq_true_eq] at conditions
  obtain ⟨key, _, isOpen⟩ := conditions
  refine ⟨?_, isOpen⟩
  obtain ⟨row, found⟩ : ∃ row, book.find id = some row := by
    have exists_ : (book.find id).isSome := by
      rw [Book.find, List.find?_isSome]
      exact ⟨position, inside, by simpa using key⟩
    exact Option.isSome_iff_exists.mp exists_
  have sameRow : row = position :=
    List.inj_on_of_nodup_map book.ids_nodup (List.mem_of_find?_eq_some found) inside
      ((Book.find_id found).trans key.symm)
  rw [found, sameRow]

/-- An intent that is carried out acts on one open position and leaves every
other row alone. -/
theorem applyPositionActionIntent_ok {safePrice : String → ℚ} {intent : PositionIntent}
    {newId : String} (applied : applyPositionActionIntent safePrice book intent newId = .ok after) :
    ∃ target acted, intent.positionId = some target ∧ book.find target = some acted ∧
      acted.status = "open" ∧ ∀ id position, book.find id = some position →
        after.find id = some (if id = target then
          (intent.happening (exitPriceOf safePrice intent acted)).apply
            position else position) := by
  unfold applyPositionActionIntent at applied
  split at applied
  · cases applied
  · cases applied
  · rename_i target _ named
    split at applied
    · cases applied
    · rename_i acted openAt
      obtain ⟨found, isOpen⟩ := Book.openPosition_find openAt
      refine ⟨target, acted, named, found, isOpen, ?_⟩
      intro id position rowFound
      dsimp only at applied
      split_ifs at applied with isClose isPartial tooSmall isReverse isMoveStop isMoveTake
      · cases applied
        rw [Book.find_updateRow _ _ _ rowFound, PositionIntent.happening, if_pos isClose]
        rfl
      · cases applied
        rw [Book.find_updateRow _ _ _ rowFound, PositionIntent.happening, if_neg isClose,
          if_pos isPartial]
        rfl
      · rw [PositionIntent.happening, if_neg isClose, if_neg isPartial, if_pos isReverse]
        exact Book.find_insert applied (Book.find_updateRow _ _ _ rowFound)
      · split at applied
        · cases applied
        · rename_i price priced
          cases applied
          rw [Book.find_updateRow _ _ _ rowFound, PositionIntent.happening, if_neg isClose,
            if_neg isPartial, if_neg isReverse, if_pos isMoveStop, priced]
          rfl
      · split at applied
        · cases applied
        · rename_i price priced
          cases applied
          rw [Book.find_updateRow _ _ _ rowFound, PositionIntent.happening, if_neg isClose,
            if_neg isPartial, if_neg isReverse, if_neg isMoveStop, priced]
          rfl

/-- An operation does to a row exactly what its happening says. -/
theorem find_after (found : book.find id = some position) (operation : Operation) :
    (book.after operation).find id =
      some ((operation.happening book position).apply position) := by
  have key := Book.find_id found
  cases operation with
  | act intent safePrice newId =>
    simp only [Book.after, Operation.happening]
    cases applied : applyPositionActionIntent safePrice book intent newId with
    | error message =>
      simpa [Except.isOk, Except.toBool, Except.toOption, Happening.apply] using found
    | ok after =>
      obtain ⟨target, acted, named, actedFound, _, rows⟩ := applyPositionActionIntent_ok applied
      have row := rows id position found
      by_cases same : id = target
      · subst same
        have sameRow : acted = position := by simpa [actedFound] using found
        subst sameRow
        simpa [Except.isOk, Except.toBool, Except.toOption, named, key] using row
      · have other : ¬target = position.id := fun equal => same (key.symm.trans equal.symm)
        simpa [Except.isOk, Except.toBool, Except.toOption, named, other, same,
          Happening.apply] using row
  | refresh latestPrices =>
    rw [Book.after, refreshOpenPositions, Book.find_update _ _ found]
    unfold refreshRow
    simp only [Operation.happening]
    split
    · cases latestPrices position.symbol <;> rfl
    · rfl
  | manualClose target =>
    simp only [Book.after, closePosition, Operation.happening]
    by_cases same : id = target
    · subst same
      rw [found]
      by_cases isOpen : position.status = "open"
      · simp only [isOpen, ne_eq, not_true_eq_false, if_false, key, true_and, if_true]
        simpa [Happening.apply, Except.toOption] using
          Book.find_updateRow id _ PaperPosition.manualClose_id found
      · simpa [isOpen, key, Except.toOption, Happening.apply] using found
    · have other : ¬position.id = target := fun equal => same (key.symm.trans equal)
      simp only [other, false_and, if_false]
      cases sought : book.find target with
      | none => simpa [Except.toOption, Happening.apply] using found
      | some row =>
        by_cases isOpen : row.status = "open"
        · simpa [isOpen, Except.toOption, same, Happening.apply] using
            Book.find_updateRow target _ PaperPosition.manualClose_id found
        · simpa [isOpen, Except.toOption, Happening.apply] using found
  | killSwitch =>
    rw [Book.after, liquidateOpenPositions, Book.find_update _ _ found]
    unfold liquidateRow
    simp only [Operation.happening]
    split <;> rfl

/-- A position that is not open is left alone by every operation. -/
theorem happening_of_closed (found : book.find id = some position)
    (closed : position.status ≠ "open") (operation : Operation) :
    operation.happening book position = .nothing := by
  cases operation with
  | act intent safePrice newId =>
    simp only [Operation.happening]
    cases applied : applyPositionActionIntent safePrice book intent newId with
    | error message => rfl
    | ok after =>
      obtain ⟨target, acted, named, actedFound, isOpen, _⟩ := applyPositionActionIntent_ok applied
      have other : ¬target = position.id := by
        rintro rfl
        rw [Book.find_id found, found] at actedFound
        exact closed (Option.some.inj actedFound ▸ isOpen)
      simp [named, other]
  | refresh | manualClose | killSwitch => simp [Operation.happening, closed]

end Rows

section Terms

variable (position : PaperPosition) (exitPrice quantity : ℚ)

@[simp] theorem Happening.apply_calcRealizedPnl (happening : Happening) :
    (happening.apply position).calcRealizedPnl exitPrice quantity =
      position.calcRealizedPnl exitPrice quantity := by
  cases happening with
  | partialClose exitPrice requested =>
    simp only [apply, PaperPosition.partialClose]
    split <;> rfl
  | refresh lastPrice =>
    simp only [apply, PaperPosition.refresh]
    split <;> rfl
  | _ => rfl

/-- How far the profit a refresh computes is from the profit of a close of the
whole position at that price. -/
def PaperPosition.leverageGap (lastPrice : ℚ) : ℚ :=
  roundTo 6 (position.unrealizedAt lastPrice) -
    position.calcRealizedPnl lastPrice position.quantity

theorem PaperPosition.partialClose_realizedPnl (requested : ℚ) :
    (position.partialClose exitPrice requested).realizedPnl = position.realizedPnl +
      position.calcRealizedPnl exitPrice (position.closeQuantity requested) := by
  dsimp only [partialClose]
  split <;> rfl

theorem PaperPosition.closeReason_ne_open {position : PaperPosition} {lastPrice : ℚ}
    {reason : String} (found : position.closeReason lastPrice = some reason) :
    reason ≠ "open" := by
  unfold closeReason at found
  split_ifs at found <;> cases found <;> decide

end Terms

/-- A position with the price it was last marked at and its closes so far, each
with its price and quantity. -/
structure Account where
  position : PaperPosition
  mark : ℚ
  closes : List (ℚ × ℚ)

namespace Account

def opened (position : PaperPosition) : Account := ⟨position, position.entryPrice, []⟩

/-- The closes a happening makes. -/
def closesOf (account : Account) : Happening → List (ℚ × ℚ)
  | .close exitPrice => [(exitPrice, account.position.quantity)]
  | .partialClose exitPrice requested =>
      [(exitPrice, account.position.closeQuantity requested)]
  | .refresh lastPrice =>
      if (account.position.closeReason lastPrice).isSome then
        [(lastPrice, account.position.quantity)]
      else []
  | .manualClose => [(account.mark, account.position.quantity)]
  | _ => []

def after (account : Account) (happening : Happening) : Account :=
  { position := happening.apply account.position
    mark :=
      match happening with
      | .refresh lastPrice => lastPrice
      | _ => account.mark
    closes := account.closes ++ account.closesOf happening }

def profit (account : Account) : ℚ :=
  (account.closes.map fun close => account.position.calcRealizedPnl close.1 close.2).sum

def follow : Account → Book → List Operation → Account
  | account, _, [] => account
  | account, book, operation :: operations =>
      (account.after (operation.happening book account.position)).follow (book.after operation)
        operations

/-- Whether a happening that closes the position books all of its closes: the
intents always do, a stop or target when nothing was booked before, and a
close by hand when the marked profit is what was booked before and what the
rest is worth at the mark. -/
def BooksAll (account : Account) : Happening → Prop
  | .refresh lastPrice =>
      account.position.realizedPnl = account.position.leverageGap lastPrice
  | .manualClose =>
      account.position.unrealizedPnl = account.position.realizedPnl +
        account.position.calcRealizedPnl account.mark account.position.quantity
  | _ => True

theorem after_profit (account : Account) (happening : Happening) :
    (account.after happening).profit = account.profit +
      ((account.closesOf happening).map fun close =>
        account.position.calcRealizedPnl close.1 close.2).sum := by
  simp [profit, after]

theorem after_open {account : Account} (booked : account.position.realizedPnl = account.profit)
    (happening : Happening)
    (stillOpen : (account.after happening).position.status = "open") :
    (account.after happening).position.realizedPnl = (account.after happening).profit := by
  rw [after_profit]
  cases happening with
  | close exitPrice => simp [after, Happening.apply, PaperPosition.close] at stillOpen
  | manualClose => simp [after, Happening.apply, PaperPosition.manualClose] at stillOpen
  | partialClose exitPrice requested =>
    simpa [after, Happening.apply, closesOf, booked] using
      account.position.partialClose_realizedPnl exitPrice requested
  | refresh lastPrice =>
    cases found : account.position.closeReason lastPrice with
    | none => simpa [after, Happening.apply, PaperPosition.refresh, closesOf, found] using booked
    | some reason =>
      have closed := PaperPosition.closeReason_ne_open found
      simp [after, Happening.apply, PaperPosition.refresh, found, closed] at stillOpen
  | _ => simpa [after, Happening.apply, closesOf, PaperPosition.moveStop,
      PaperPosition.moveTakeProfit] using booked

/-- A happening that closes an open position books all of its closes exactly
under the condition. -/
theorem after_closed {account : Account} (booked : account.position.realizedPnl = account.profit)
    (wasOpen : account.position.status = "open") (happening : Happening)
    (closed : (account.after happening).position.status ≠ "open") :
    (account.after happening).position.realizedPnl = (account.after happening).profit ↔
      account.BooksAll happening := by
  rw [after_profit, ← booked]
  cases happening with
  | close exitPrice =>
    simp [after, Happening.apply, PaperPosition.close, closesOf, BooksAll]
  | partialClose exitPrice requested =>
    simpa [after, Happening.apply, closesOf, BooksAll] using
      account.position.partialClose_realizedPnl exitPrice requested
  | manualClose =>
    simp [after, Happening.apply, PaperPosition.manualClose, closesOf, BooksAll]
  | refresh lastPrice =>
    cases reason : account.position.closeReason lastPrice with
    | none => simp [after, Happening.apply, PaperPosition.refresh, reason, wasOpen] at closed
    | some name =>
      simp only [after, Happening.apply, PaperPosition.refresh, reason, closesOf, BooksAll,
        PaperPosition.leverageGap, Option.isSome_some, if_true, List.map_cons, List.map_nil,
        List.sum_cons, List.sum_nil, add_zero]
      constructor <;> intro equal <;> linarith
  | _ =>
    simp [after, Happening.apply, PaperPosition.moveStop, PaperPosition.moveTakeProfit,
      wasOpen] at closed

end Account

def Book.afterAll (book : Book) (operations : List Operation) : Book :=
  operations.foldl Book.after book

section Runs

variable {book : Book} {id : String} {account : Account}

theorem Account.follow_found (found : book.find id = some account.position)
    (operations : List Operation) :
    (book.afterAll operations).find id = some (account.follow book operations).position := by
  induction operations generalizing book account with
  | nil => exact found
  | cons operation operations ih =>
    have next : (book.after operation).find id =
        some (account.after (operation.happening book account.position)).position :=
      find_after found operation
    exact ih next

theorem Account.follow_append (book : Book) (account : Account)
    (first second : List Operation) :
    account.follow book (first ++ second) =
      (account.follow book first).follow (book.afterAll first) second := by
  induction first generalizing book account with
  | nil => rfl
  | cons operation first ih => exact ih _ _

theorem Account.follow_closed (found : book.find id = some account.position)
    (closed : account.position.status ≠ "open") (operations : List Operation) :
    account.follow book operations = account := by
  induction operations generalizing book with
  | nil => rfl
  | cons operation operations ih =>
    have idle := happening_of_closed found closed operation
    have same : account.after .nothing = account := by
      simp [after, Happening.apply, closesOf]
    have still := find_after found operation
    rw [idle] at still
    rw [follow, idle, same]
    exact ih still

/-- A position that is still open has booked every partial close of its. -/
theorem Account.follow_open (found : book.find id = some account.position)
    (booked : account.position.realizedPnl = account.profit) (operations : List Operation)
    (stillOpen : (account.follow book operations).position.status = "open") :
    (account.follow book operations).position.realizedPnl =
      (account.follow book operations).profit := by
  induction operations generalizing book account with
  | nil => exact booked
  | cons operation operations ih =>
    have next : (book.after operation).find id =
        some (account.after (operation.happening book account.position)).position :=
      find_after found operation
    have openNext : (account.after (operation.happening book account.position)).position.status =
        "open" := by
      by_contra closed
      rw [follow, follow_closed next closed] at stillOpen
      exact closed stillOpen
    exact ih next (after_open booked _ openNext) stillOpen

/-- Once a position is not open, its row stays as it is, whatever operations follow. -/
theorem closed_position_stays {position : PaperPosition} (found : book.find id = some position)
    (closed : position.status ≠ "open") (operations : List Operation) :
    (book.afterAll operations).find id = some position := by
  have opened : book.find id = some (Account.opened position).position := found
  rw [Account.follow_found opened, Account.follow_closed opened closed]
  rfl

end Runs

def samplePosition : PaperPosition :=
  { id := "position-1"
    userId := "user-1"
    symbol := "BTCUSDT"
    marketType := "futures"
    side := "long"
    quantity := 10
    leverage := 1
    entryPrice := 100
    stopLoss := 90
    takeProfit := 120
    status := "open"
    unrealizedPnl := 0
    realizedPnl := 0 }

def sampleBook : Book := ⟨[samplePosition], by simp⟩

def samplePartialClose : Operation :=
  .act ⟨"user-1", "PARTIAL_CLOSE", some "position-1", some 110, some 4, none, none⟩
    (fun _ => 110) "position-2"

def sampleTarget : Operation := .refresh fun _ => some 120

theorem closed_sample_stays :
    (Book.afterAll ⟨[{ samplePosition with status := "closed" }], by simp⟩ [sampleTarget]).find
      "position-1" = some { samplePosition with status := "closed" } :=
  closed_position_stays rfl (by decide) _

end Paper
