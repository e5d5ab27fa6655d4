import CoinRobotu.Encoding.Decimal
import CoinRobotu.Encoding.Json
import CoinRobotu.Preview.Sizing

/-!
# The idempotency key

`build_execution_idempotency_key` hashes a canonical payload that it collects from the
payload of the request and from the normalized order after the gates. Texts are
compared without case and with single blanks, the quantity with eight decimals and the
timestamp to the minute. The position, the prices and the notional beside a size are no
part of it. What Python does with case, dates and hashes is a parameter.
-/

namespace Preview

open Numeric
open Encoding (jsonObject jsonObject_inj fixedPoint fixedPoint_injective fixedPoint_unsigned)
open Runtime (isSpace strip orElse)

/-- The calls on texts: `str.lower`, the minute of a time that is read from a text or from
the payload as it is, and the hexadecimal digest of the UTF-8 bytes of a text. -/
structure TextCalls where
  lower : String → String
  minuteOfIso : String → Option String
  sha256 : String → String

section Normalizing

variable (calls : TextCalls)

/-- `" ".join(text.strip().split())`. -/
def collapseSpaces (text : String) : String :=
  String.intercalate " "
    ((((strip text).toList.splitOnP isSpace).filter fun word => word ≠ []).map String.ofList)

/-- `_clean_string` of a text. -/
def cleanString (text : String) : String := calls.lower (collapseSpaces text)

/-- `format(value, ".8f")`. -/
def formatEight (value : ℚ) : String :=
  (if value < 0 then "-" else "") ++
    String.ofList (fixedPoint 8 (roundHalfEven (|value| * 10 ^ 8)).toNat)

/-- `text.replace("Z", "+00:00")`. -/
def replaceZulu (text : String) : String :=
  String.ofList (text.toList.flatMap fun character =>
    if character = 'Z' then "+00:00".toList else [character])

def normalizeTimestampWindow (value : Option String) : String :=
  let text := strip (value.getD "")
  if text = "" then "" else (calls.minuteOfIso (replaceZulu text)).getD (cleanString calls text)

end Normalizing

def SameQuantity (value other : ℚ) : Prop :=
  (value < 0 ↔ other < 0) ∧ roundTo 8 |value| = roundTo 8 |other|

instance (value other : ℚ) : Decidable (SameQuantity value other) :=
  inferInstanceAs (Decidable (_ ∧ _))

theorem units_eq_iff (value other : ℚ) :
    (roundHalfEven (|value| * 10 ^ 8)).toNat = (roundHalfEven (|other| * 10 ^ 8)).toNat ↔
      roundTo 8 |value| = roundTo 8 |other| := by
  have first := roundHalfEven_nonneg (by positivity : 0 ≤ |value| * 10 ^ 8)
  have second := roundHalfEven_nonneg (by positivity : 0 ≤ |other| * 10 ^ 8)
  unfold roundTo
  rw [div_left_inj' (by norm_num), Int.cast_inj]
  omega

theorem formatEight_eq_iff (value other : ℚ) :
    formatEight value = formatEight other ↔ SameQuantity value other := by
  unfold formatEight SameQuantity
  rw [← units_eq_iff, ← String.toList_inj, String.toList_append, String.toList_append,
    String.toList_ofList, String.toList_ofList]
  by_cases negative : value < 0 <;> by_cases otherNegative : other < 0
  · simp [negative, otherNegative, (fixedPoint_injective 8).eq_iff]
  · simp only [negative, otherNegative, if_true, if_false, iff_false, not_true, false_and]
    intro same
    exact fixedPoint_unsigned 8 _ _ same.symm
  · simp only [negative, otherNegative, if_true, if_false, iff_true, false_and, iff_false]
    intro same
    exact fixedPoint_unsigned 8 _ _ same
  · simp [negative, otherNegative, (fixedPoint_injective 8).eq_iff]

/-- The canonical payload; its quantity has eight decimals. -/
structure CanonicalPayload where
  userId : String
  symbol : String
  side : String
  orderType : String
  quantity : String
  strategySourceId : String
  sourceEventId : String
  timestampWindow : String
  intentType : String
  marketType : String
deriving DecidableEq

/-- `_canonical_json`, with the keys in their order. -/
def canonicalJson (canonical : CanonicalPayload) : String :=
  jsonObject ("intent_type", canonical.intentType)
    [("market_type", canonical.marketType), ("order_type", canonical.orderType),
      ("quantity", canonical.quantity), ("side", canonical.side),
      ("source_event_id", canonical.sourceEventId),
      ("strategy_source_id", canonical.strategySourceId), ("symbol", canonical.symbol),
      ("timestamp_window", canonical.timestampWindow), ("user_id", canonical.userId)]

theorem canonicalJson_injective : Function.Injective canonicalJson := by
  intro canonical other same
  obtain ⟨first, further⟩ := jsonObject_inj same
  cases canonical
  cases other
  simp only [Prod.mk.injEq, List.cons.injEq, true_and, and_true] at first further
  simp only [CanonicalPayload.mk.injEq]
  tauto

namespace PreviewPayload

variable (payload : PreviewPayload)

def eventId : String :=
  orElse payload.sourceEventId
    (orElse (payload.scannerSignalSnapshot.bind ScannerSnapshot.signalId)
      (payload.sourceRefId.getD ""))

def eventTime : Option String :=
  let window := orElse payload.timestampWindow (payload.normalizedTimestampWindow.getD "")
  if window ≠ "" then some window
  else some (orElse payload.timestamp
    ((payload.scannerSignalSnapshot.bind ScannerSnapshot.timestamp).getD ""))

/-- The quantity of an order: its size, that of the payload, or else its value. -/
def quantity (order : NormalizedOrder) : ℚ :=
  (order.size.or payload.size).getD order.positionSizeValue

def symbolOf (order : NormalizedOrder) : String :=
  orElse (some order.symbol) (payload.symbol.getD "")

def sideOf (order : NormalizedOrder) : String := orElse (some order.side) (payload.side.getD "")

def orderTypeOf (order : NormalizedOrder) : String :=
  orElse (some order.orderType) (payload.orderType.getD "")

def intentTypeOf (order : NormalizedOrder) : String :=
  orElse order.intentType (orElse payload.intentType "OPEN_POSITION")

def marketTypeOf (order : NormalizedOrder) : String :=
  orElse (some order.marketType) (orElse payload.marketType "spot")

def strategySource (order : NormalizedOrder) : String :=
  orElse (some order.strategyBinding) (orElse payload.strategyBinding
    (orElse payload.strategy (payload.sourceType.getD "")))

end PreviewPayload

section Building

variable (calls : TextCalls)

/-- The canonical payload of `build_execution_idempotency_key`. -/
def canonicalPayload (userId : String) (payload : PreviewPayload) (order : NormalizedOrder) :
    CanonicalPayload where
  userId := cleanString calls userId
  symbol := cleanString calls (payload.symbolOf order)
  side := cleanString calls (payload.sideOf order)
  orderType := cleanString calls (payload.orderTypeOf order)
  quantity := formatEight (payload.quantity order)
  strategySourceId := cleanString calls (payload.strategySource order)
  sourceEventId := cleanString calls payload.eventId
  timestampWindow := normalizeTimestampWindow calls payload.eventTime
  intentType := cleanString calls (payload.intentTypeOf order)
  marketType := cleanString calls (payload.marketTypeOf order)

def buildExecutionIdempotencyKey (userId : String) (payload : PreviewPayload)
    (order : NormalizedOrder) : String :=
  calls.sha256 (canonicalJson (canonicalPayload calls userId payload order))

/-- Two requests that the key does not tell apart: up to case and blanks they agree in the
symbol, the side, the types of the order, the intent and the market, in the strategy and in
the event, to eight decimals in the quantity, and to the minute in the time. -/
structure KeyedAlike (payload other : PreviewPayload) (order otherOrder : NormalizedOrder) :
    Prop where
  symbol : cleanString calls (payload.symbolOf order) =
    cleanString calls (other.symbolOf otherOrder)
  side : cleanString calls (payload.sideOf order) = cleanString calls (other.sideOf otherOrder)
  orderType : cleanString calls (payload.orderTypeOf order) =
    cleanString calls (other.orderTypeOf otherOrder)
  quantity : SameQuantity (payload.quantity order) (other.quantity otherOrder)
  strategy : cleanString calls (payload.strategySource order) =
    cleanString calls (other.strategySource otherOrder)
  event : cleanString calls payload.eventId = cleanString calls other.eventId
  minute : normalizeTimestampWindow calls payload.eventTime =
    normalizeTimestampWindow calls other.eventTime
  intentType : cleanString calls (payload.intentTypeOf order) =
    cleanString calls (other.intentTypeOf otherOrder)
  marketType : cleanString calls (payload.marketTypeOf order) =
    cleanString calls (other.marketTypeOf otherOrder)

theorem key_eq_iff (injective : Function.Injective calls.sha256) {userId : String}
    {payload other : PreviewPayload} {order otherOrder : NormalizedOrder} :
    buildExecutionIdempotencyKey calls userId payload order =
        buildExecutionIdempotencyKey calls userId other otherOrder ↔
      KeyedAlike calls payload other order otherOrder := by
  constructor
  · intro same
    have canonical := canonicalJson_injective (injective same)
    simp only [canonicalPayload, CanonicalPayload.mk.injEq, formatEight_eq_iff] at canonical
    obtain ⟨_, symbol, side, orderType, quantity, strategy, event, minute, intentType,
      marketType⟩ := canonical
    exact ⟨symbol, side, orderType, quantity, strategy, event, minute, intentType, marketType⟩
  · intro alike
    have canonical : canonicalPayload calls userId payload order =
        canonicalPayload calls userId other otherOrder := by
      simp only [canonicalPayload, CanonicalPayload.mk.injEq, formatEight_eq_iff]
      exact ⟨trivial, alike.symbol, alike.side, alike.orderType, alike.quantity, alike.strategy,
        alike.event, alike.minute, alike.intentType, alike.marketType⟩
    unfold buildExecutionIdempotencyKey
    rw [canonical]

end Building

end Preview
