import CoinRobotu.Keyed.Table
import CoinRobotu.Preview.Key
import CoinRobotu.Preview.StoredNotional

/-!
# Duplicates of requests

A preview refuses a request whose key is that of an intent that is queued, approved or
released, and replaces an intent of that key that has not come so far. The key is taken
after the gates, so what they leave of the order is part of it, while the position, the
prices and the notional beside a size are not. One request can therefore get two keys,
and two requests one.
-/

namespace Preview

open Numeric
open Runtime (upper orElse)

namespace GatedRequest

variable (calls : TextCalls) (request : GatedRequest)

/-- The idempotency key of a request; in the fast mode it is drawn at random. -/
def idempotencyKey (hex : String) : String :=
  if request.fastMode then "fast:" ++ hex
  else buildExecutionIdempotencyKey calls request.userId request.payload request.sized.order

def requestedQuantity : ℚ := request.payload.quantity request.previewed.order

def leftQuantity : ℚ := request.payload.quantity request.sized.order

/-- The columns of the intent that say what an order does beyond its quantity. -/
def positionId : String :=
  orElse request.previewed.order.positionId (request.payload.positionId.getD "")

def stopPrice : Option ℚ := request.previewed.order.stopPrice.or request.payload.stopPrice

def takeProfitPrice : Option ℚ :=
  request.previewed.order.takeProfitPrice.or request.payload.takeProfitPrice

def price : Option ℚ := request.previewed.order.price.or request.payload.price

/-- Two requests that ask for the same. -/
structure SameEffect (request other : GatedRequest) : Prop where
  positionId : request.positionId = other.positionId
  stopPrice : request.stopPrice = other.stopPrice
  takeProfitPrice : request.takeProfitPrice = other.takeProfitPrice
  price : request.price = other.price
  quantity : SameQuantity request.requestedQuantity other.requestedQuantity
  symbol : request.previewed.order.symbol = other.previewed.order.symbol
  side : request.previewed.order.side = other.previewed.order.side
  orderType : request.previewed.order.orderType = other.previewed.order.orderType
  intentType : request.intentType = other.intentType
  event : request.payload.eventId = other.payload.eventId

end GatedRequest

namespace GatedRequest

variable (calls : TextCalls)

/-- Two requests that the key does not tell apart, for what the gates leave of them: up to
case and blanks they agree in the symbol, the side, the types of the order, the intent and the
market, in the strategy and in the event, to eight decimals in the quantity, and to the minute
in the time. -/
structure Alike (request other : GatedRequest) : Prop where
  symbol : cleanString calls (request.payload.symbolOf request.previewed.order) =
    cleanString calls (other.payload.symbolOf other.previewed.order)
  side : cleanString calls (request.payload.sideOf request.previewed.order) =
    cleanString calls (other.payload.sideOf other.previewed.order)
  orderType : cleanString calls (request.payload.orderTypeOf request.previewed.order) =
    cleanString calls (other.payload.orderTypeOf other.previewed.order)
  quantity : SameQuantity request.leftQuantity other.leftQuantity
  strategy : cleanString calls (request.payload.strategySource request.previewed.order) =
    cleanString calls (other.payload.strategySource other.previewed.order)
  event : cleanString calls request.payload.eventId = cleanString calls other.payload.eventId
  minute : normalizeTimestampWindow calls request.payload.eventTime =
    normalizeTimestampWindow calls other.payload.eventTime
  intentType : cleanString calls (request.payload.intentTypeOf request.previewed.order) =
    cleanString calls (other.payload.intentTypeOf other.previewed.order)
  marketType : cleanString calls (request.payload.marketTypeOf request.previewed.order) =
    cleanString calls (other.payload.marketTypeOf other.previewed.order)

variable {calls} {request other : GatedRequest}

theorem sized_texts (request : GatedRequest) :
    request.payload.symbolOf request.sized.order =
        request.payload.symbolOf request.previewed.order ∧
      request.payload.sideOf request.sized.order = request.payload.sideOf request.previewed.order ∧
      request.payload.orderTypeOf request.sized.order =
        request.payload.orderTypeOf request.previewed.order ∧
      request.payload.strategySource request.sized.order =
        request.payload.strategySource request.previewed.order ∧
      request.payload.intentTypeOf request.sized.order =
        request.payload.intentTypeOf request.previewed.order ∧
      request.payload.marketTypeOf request.sized.order =
        request.payload.marketTypeOf request.previewed.order := by
  have resized : Resized request.previewed.order request.sized.order :=
    (resized_preserved request.previewed.order).sized rfl
  unfold Resized at resized
  rw [resized]
  exact ⟨rfl, rfl, rfl, rfl, rfl, rfl⟩

theorem key_eq_iff_alike (injective : Function.Injective calls.sha256)
    (sameUser : request.userId = other.userId) :
    buildExecutionIdempotencyKey calls request.userId request.payload request.sized.order =
        buildExecutionIdempotencyKey calls other.userId other.payload other.sized.order ↔
      request.Alike calls other := by
  obtain ⟨symbol, side, orderType, strategy, intentType, marketType⟩ := request.sized_texts
  obtain ⟨otherSymbol, otherSide, otherOrderType, otherStrategy, otherIntentType,
    otherMarketType⟩ := other.sized_texts
  rw [sameUser, key_eq_iff calls injective]
  constructor
  · rintro ⟨keyedSymbol, keyedSide, keyedOrderType, keyedQuantity, keyedStrategy, event, minute,
      keyedIntentType, keyedMarketType⟩
    rw [symbol, otherSymbol] at keyedSymbol
    rw [side, otherSide] at keyedSide
    rw [orderType, otherOrderType] at keyedOrderType
    rw [strategy, otherStrategy] at keyedStrategy
    rw [intentType, otherIntentType] at keyedIntentType
    rw [marketType, otherMarketType] at keyedMarketType
    exact ⟨keyedSymbol, keyedSide, keyedOrderType, keyedQuantity, keyedStrategy, event, minute,
      keyedIntentType, keyedMarketType⟩
  · intro alike
    constructor
    · rw [symbol, otherSymbol]
      exact alike.symbol
    · rw [side, otherSide]
      exact alike.side
    · rw [orderType, otherOrderType]
      exact alike.orderType
    · exact alike.quantity
    · rw [strategy, otherStrategy]
      exact alike.strategy
    · exact alike.event
    · exact alike.minute
    · rw [intentType, otherIntentType]
      exact alike.intentType
    · rw [marketType, otherMarketType]
      exact alike.marketType

end GatedRequest

/-- Requests of one user with different effects have different keys exactly when they are not
alike in what the key is made of: the position, the stop, the target, the limit price and the
event's own spelling do not count. -/
theorem different_effects_have_different_keys_iff {calls : TextCalls}
    {request other : GatedRequest} (injective : Function.Injective calls.sha256)
    (sameUser : request.userId = other.userId) :
    (¬request.SameEffect other →
        buildExecutionIdempotencyKey calls request.userId request.payload request.sized.order ≠
          buildExecutionIdempotencyKey calls other.userId other.payload other.sized.order) ↔
      (¬request.SameEffect other → ¬request.Alike calls other) := by
  rw [Ne, GatedRequest.key_eq_iff_alike injective sameUser]

section Stability

/-- The row of an intent under its key. -/
structure IntentRow where
  userId : String
  intentId : String
  status : String

abbrev IntentTable := Keyed.Table (String × String) IntentRow fun row => (row.userId, row.intentId)

/-- The duplicate check of a preview: an intent of the key that has not been queued, or is
over, is replaced. -/
def checkDuplicate (intents : IntentTable) (userId intentId : String) : Except String Unit :=
  match intents.find (userId, intentId) with
  | none => .ok ()
  | some row =>
      if upper row.status ∈ ["PREVIEWED", "REJECTED", "CANCELLED", "FAILED"] then .ok ()
      else .error "duplicate_execution_intent"

/-- Two previews of one request get one key, so that the second is refused once the intent of
the first is queued, approved or released. -/
structure OneKey (calls : TextCalls) (hex otherHex : String) (request other : GatedRequest) :
    Prop where
  same : request.idempotencyKey calls hex = other.idempotencyKey calls otherHex
  refused : ∀ (intents : IntentTable) (row : IntentRow), row ∈ intents.rows →
    row.userId = request.userId → row.intentId = request.idempotencyKey calls hex →
    row.status ∈ ["QUEUED", "APPROVED", "RELEASED"] →
    checkDuplicate intents other.userId (other.idempotencyKey calls otherHex) =
      .error "duplicate_execution_intent"

variable {calls : TextCalls} {hex otherHex : String} {request other : GatedRequest}

theorem oneKey_iff (sameUser : request.userId = other.userId) :
    OneKey calls hex otherHex request other ↔
      request.idempotencyKey calls hex = other.idempotencyKey calls otherHex := by
  constructor
  · exact OneKey.same
  · intro same
    refine ⟨same, ?_⟩
    intro intents row inside isUser isKey status
    have found := Keyed.Table.find_of_mem inside
    rw [isUser, isKey, same, sameUser] at found
    have kept : upper row.status ∉ ["PREVIEWED", "REJECTED", "CANCELLED", "FAILED"] := by
      simp only [List.mem_cons, List.not_mem_nil, or_false] at status
      rcases status with queued | approved | released
      · rw [queued]
        decide +kernel
      · rw [approved]
        decide +kernel
      · rw [released]
        decide +kernel
    unfold checkDuplicate
    rw [found]
    exact if_neg kept

theorem idempotencyKey_eq_iff (injective : Function.Injective calls.sha256)
    (sameUser : request.userId = other.userId) (slow : request.fastMode = false)
    (otherSlow : other.fastMode = false) :
    request.idempotencyKey calls hex = other.idempotencyKey calls otherHex ↔
      request.Alike calls other := by
  unfold GatedRequest.idempotencyKey
  rw [slow, otherSlow]
  simpa using GatedRequest.key_eq_iff_alike injective sameUser

theorem fast_keys_differ (unlike : hex ≠ otherHex) (fast : request.fastMode = true)
    (otherFast : other.fastMode = true) :
    request.idempotencyKey calls hex ≠ other.idempotencyKey calls otherHex := by
  unfold GatedRequest.idempotencyKey
  rw [if_pos fast, if_pos otherFast]
  intro same
  exact unlike (String.append_right_inj _ |>.mp same)

/-- The value of a fixed notional that the gates leave: what they leave of the notional, to
four decimals unless the rebalance throttles. -/
def GatedRequest.leftValue (request : GatedRequest) : ℚ :=
  if request.fastMode = false ∧ request.state.throttles request.binding then request.left
  else roundTo 4 request.left

theorem GatedRequest.Opens.sized_value_eq (opens : request.Opens)
    (fixed : request.previewed.order.positionSizeMode = "fixed_notional") :
    request.sized.order.positionSizeValue = request.leftValue := by
  have nonneg := opens.afterEngine_nonneg
  have left : max request.sized.adjusted 0 = request.left := opens.storedNotional_eq
  rw [request.sized_adjusted] at left
  rw [GatedRequest.sized_value fixed]
  unfold GatedRequest.leftValue
  by_cases throttled : request.throttled = true
  · have calls : request.fastMode = false ∧ request.state.throttles request.binding = true :=
      ⟨(of_decide_eq_true throttled).1, (of_decide_eq_true throttled).2.1⟩
    rw [if_pos throttled] at left ⊢
    rw [if_pos calls, ← left]
    exact (max_eq_left (roundTo_nonneg 6 (mul_nonneg nonneg (by norm_num)))).symm
  · rw [if_neg throttled, max_eq_left nonneg] at left
    rw [if_neg throttled, ← left]
    split
    · rename_i calls
      -- The rebalance does not throttle nothing.
      have nothing : request.afterEngine.adjusted = 0 := by
        by_contra some
        have positive := lt_of_le_of_ne nonneg (Ne.symm some)
        exact throttled (decide_eq_true ⟨calls.1, calls.2, positive⟩)
      rw [nothing]
      exact roundTo_zero 4
    · rfl

/-- The position and the strategy that two previews of one action read are alike. -/
structure GatedRequest.SamePosition (calls : TextCalls) (request other : GatedRequest) :
    Prop where
  symbol : cleanString calls (request.payload.symbolOf request.previewed.order) =
    cleanString calls (request.payload.symbolOf other.previewed.order)
  side : cleanString calls (request.payload.sideOf request.previewed.order) =
    cleanString calls (request.payload.sideOf other.previewed.order)
  strategy : cleanString calls (request.payload.strategySource request.previewed.order) =
    cleanString calls (request.payload.strategySource other.previewed.order)
  marketType : cleanString calls (request.payload.marketTypeOf request.previewed.order) =
    cleanString calls (request.payload.marketTypeOf other.previewed.order)

theorem sameQuantity_refl (value : ℚ) : SameQuantity value value := ⟨Iff.rfl, rfl⟩

/-- The quantity of a new position that is hashed: the size of the payload, or else the value
that the gates leave. -/
theorem GatedRequest.Opens.leftQuantity_eq (opens : request.Opens) :
    request.leftQuantity =
      request.payload.size.getD
        (if request.previewed.order.positionSizeMode = "fixed_notional" then request.leftValue
          else request.previewed.order.positionSizeValue) := by
  have unsized : request.sized.order.size = none := unsized_preserved.sized opens.unsized
  unfold GatedRequest.leftQuantity PreviewPayload.quantity
  rw [unsized, Option.none_or]
  congr 1
  split
  · rename_i fixed
    exact opens.sized_value_eq fixed
  · rename_i other
    exact ((value_preserved request.previewed.order.positionSizeValue).sized ⟨other, rfl⟩).2

variable {config : PreviewConfig} {fastMode : Bool} {state otherState : PreviewState}
  {userId : String} {payload : PreviewPayload}
  (reached : reachGates config fastMode state userId payload = .ok request)
  (reachedAgain : reachGates config fastMode otherState userId payload = .ok other)

include reached reachedAgain

/-- A request for a new position is alike in another state exactly when its quantity is. -/
theorem alike_of_open_iff (isOpen : payload.requestedType = "OPEN_POSITION") :
    request.Alike calls other ↔
      payload.size.isSome ∨
        Runtime.lower (orElse payload.positionSizeMode "fixed_notional") ≠ "fixed_notional" ∨
        SameQuantity request.leftValue other.leftValue := by
  obtain ⟨opens, _⟩ := reachGates_opens isOpen reached
  obtain ⟨otherOpens, _⟩ := reachGates_opens isOpen reachedAgain
  obtain ⟨previewed, normalized, isRequest⟩ := bind_eq_ok.mp reached
  obtain ⟨again, normalizedAgain, isOther⟩ := bind_eq_ok.mp reachedAgain
  obtain ⟨symbol, isSymbol, isPreviewed⟩ := normalizeRequest_open isOpen normalized
  obtain ⟨sameSymbol, isSymbolAgain, isAgain⟩ := normalizeRequest_open isOpen normalizedAgain
  rw [isSymbol] at isSymbolAgain
  cases isSymbolAgain
  have samePreviewed : previewed = again := isPreviewed.trans isAgain.symm
  have mode : previewed.order.positionSizeMode =
      Runtime.lower (orElse payload.positionSizeMode "fixed_notional") := by
    rw [isPreviewed]
    rfl
  have alike : request.Alike calls other ↔
      SameQuantity request.leftQuantity other.leftQuantity := by
    constructor
    · exact GatedRequest.Alike.quantity
    · intro quantity
      cases isRequest
      cases isOther
      subst samePreviewed
      exact ⟨rfl, rfl, rfl, quantity, rfl, rfl, rfl, rfl, rfl⟩
  rw [alike, opens.leftQuantity_eq, otherOpens.leftQuantity_eq]
  cases isRequest
  cases isOther
  subst samePreviewed
  dsimp only
  rw [mode]
  cases payload.size with
  | some size => simp [sameQuantity_refl]
  | none =>
    simp only [Option.getD_none, Option.isSome_none, Bool.false_eq_true, false_or]
    by_cases fixed : Runtime.lower (orElse payload.positionSizeMode "fixed_notional") =
        "fixed_notional"
    · simp [fixed]
    · simp [fixed, sameQuantity_refl]

theorem alike_of_action_iff (action : payload.requestedType ≠ "OPEN_POSITION") :
    request.Alike calls other ↔
      request.SamePosition calls other ∧
        SameQuantity request.leftQuantity other.leftQuantity := by
  obtain ⟨previewed, normalized, isRequest⟩ := bind_eq_ok.mp reached
  obtain ⟨again, normalizedAgain, isOther⟩ := bind_eq_ok.mp reachedAgain
  obtain ⟨position, symbol, _, isOrder⟩ := normalizeRequest_action action normalized
  obtain ⟨otherPosition, otherSymbol, _, isOtherOrder⟩ :=
    normalizeRequest_action action normalizedAgain
  cases isRequest
  cases isOther
  constructor
  · intro alike
    exact ⟨⟨alike.symbol, alike.side, alike.strategy, alike.marketType⟩, alike.quantity⟩
  · rintro ⟨position, quantity⟩
    have orderType : previewed.order.orderType = again.order.orderType := by
      rw [isOrder, isOtherOrder]
      rfl
    have intentType : previewed.order.intentType = again.order.intentType := by
      rw [isOrder, isOtherOrder]
      rfl
    constructor
    · exact position.symbol
    · exact position.side
    · unfold PreviewPayload.orderTypeOf
      dsimp only
      rw [orderType]
    · exact quantity
    · exact position.strategy
    · rfl
    · rfl
    · unfold PreviewPayload.intentTypeOf
      dsimp only
      rw [intentType]
    · exact position.marketType

end Stability

/-- Lower case of ASCII, no time is read, and the digest of a text is the text. -/
def plainCalls : TextCalls := ⟨Runtime.lower, fun _ => none, id⟩

def otherSizeRequest : GatedRequest :=
  { hundredRequest (allocationUsing 0) false with
    payload := buyPayload "spot" 100 none (some ⟨1 / 4, by norm_num⟩) }

def halfRequest : GatedRequest := hundredRequest (allocationUsing 0) false

theorem different_effects_have_different_keys_iff_sizes :
    buildExecutionIdempotencyKey plainCalls halfRequest.userId halfRequest.payload
        halfRequest.sized.order ≠
      buildExecutionIdempotencyKey plainCalls otherSizeRequest.userId otherSizeRequest.payload
        otherSizeRequest.sized.order := by
  have unlike : ¬halfRequest.SameEffect otherSizeRequest := by
    intro same
    exact absurd same.quantity (by decide +kernel)
  have injective : Function.Injective plainCalls.sha256 := Function.injective_id
  have separate := (@different_effects_have_different_keys_iff plainCalls halfRequest
    otherSizeRequest injective rfl).mpr
  apply separate _ unlike
  intro _ alike
  exact absurd alike.quantity (by decide +kernel)

def heldPosition : Paper.PaperPosition :=
  ⟨"position-1", "user-1", "BTCUSDT", "spot", "long", 1, 1, 100, 90, 120, "open", 0, 0⟩

def heldState : PreviewState :=
  { calmState (allocationUsing 0) false with tables := ⟨[heldPosition], [], fun _ => 100⟩ }

def movePayload (stop : ℚ) : PreviewPayload :=
  { buyPayload "spot" 100 none none with
    intentType := some "MOVE_STOP"
    positionId := some "position-1"
    stopPrice := some stop }

def moveRequest (stop : ℚ) : GatedRequest :=
  ⟨false, heldState, "user-1", movePayload stop,
    actionOrder heldState.tables "MOVE_STOP" (movePayload stop) heldPosition⟩

/-- A stop at 95 and one at 96 have the same key. -/
theorem other_stop_same_key :
    (∀ stop ∈ [(95 : ℚ), 96], reachGates spotConfig false heldState "user-1" (movePayload stop) =
        .ok (moveRequest stop)) ∧
      (moveRequest 95).stopPrice ≠ (moveRequest 96).stopPrice ∧
      (moveRequest 95).idempotencyKey plainCalls "a" =
        (moveRequest 96).idempotencyKey plainCalls "b" := by
  have normalized : ∀ stop ∈ [(95 : ℚ), 96], normalizeRequest spotConfig heldState.tables "user-1"
      (movePayload stop) = .ok (moveRequest stop).previewed := by
    decide +kernel
  have injective : Function.Injective plainCalls.sha256 := Function.injective_id
  have quantity : SameQuantity (moveRequest 95).leftQuantity (moveRequest 96).leftQuantity := by
    decide +kernel
  have alike : (moveRequest 95).Alike plainCalls (moveRequest 96) :=
    ⟨rfl, rfl, rfl, quantity, rfl, rfl, rfl, rfl, rfl⟩
  refine ⟨?_, by decide +kernel, ?_⟩
  · intro stop inside
    exact bind_eq_ok.mpr ⟨_, normalized stop inside, rfl⟩
  have keys := @idempotencyKey_eq_iff plainCalls "a" "b" (moveRequest 95) (moveRequest 96)
    injective rfl rfl rfl
  exact keys.mpr alike

def unsizedRequest (throttles : Bool) : GatedRequest :=
  ⟨false, calmState (allocationUsing 0) throttles, "user-1", buyPayload "spot" 100 none none,
    { hundredOrder with actionSize := 0 }⟩

end Preview
