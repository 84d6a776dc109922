import Mathlib.Data.Nat.Digits.Defs
import FirmQuant.Domain.Text
import FirmQuant.Foundation.DecimalContext
import FirmQuant.Foundation.Effect

/-!
# Order facts of the XtQuant transport

`ProductionXtQuantBroker._order_payload` and `_order` of `broker/xtquant_production.py`, with
`_broker_time`, `_order_sequence` and the readers of `broker/xtquant.py` that they use.

The SDK numbers no observation of an order.  The transport makes up a sequence number from the
filled volume and a rank of the status, with a table of its own.
-/

namespace FirmQuant

open Effect

/-! ## What the SDK reports -/

/-- A value of an SDK object. -/
inductive SdkValue
  | int (n : ℤ)
  | text (s : String)
  | bool (b : Bool)
  /-- A finite `float` or `Decimal`. -/
  | number (q : ℚ)
  /-- A `float` or `Decimal` that is infinite or no number. -/
  | nonFinite
  | other
  deriving DecidableEq

/-- An order of the SDK.  A field may be missing. -/
structure XtOrder where
  accountId : Option SdkValue
  accountType : Option SdkValue
  priceType : Option SdkValue
  orderStatus : Option SdkValue
  orderVolume : Option SdkValue
  tradedVolume : Option SdkValue
  orderTime : Option SdkValue
  orderId : Option SdkValue
  orderRemark : Option SdkValue
  stockCode : Option SdkValue
  orderType : Option SdkValue
  price : Option SdkValue
  deriving DecidableEq

/-- `XtQuantConstants`. -/
structure XtQuantConstants where
  securityAccount : ℤ
  stockBuy : ℤ
  stockSell : ℤ
  fixPrice : ℤ
  orderUnreported : ℤ
  orderWaitReporting : ℤ
  orderReported : ℤ
  orderReportedCancel : ℤ
  orderPartsuccCancel : ℤ
  orderPartCancel : ℤ
  orderCanceled : ℤ
  orderPartSucc : ℤ
  orderSucceeded : ℤ
  orderJunk : ℤ
  orderUnknown : ℤ

/-- What the transport raises for an order. -/
inductive TransportError
  | brokerSchemaMismatch (message : String)
  | domainValidationError (message : String)
  /-- `quantize` has too many digits. -/
  | invalidOperation
  deriving DecidableEq

/-- What the transport asks of the standard library. -/
structure TimeLibrary where
  /-- `datetime.strptime(text, "%Y%m%d%H%M%S")`, read in Shanghai. -/
  strptime : String → Option DateTime
  /-- `datetime.fromisoformat`, a time without a zone read in Shanghai. -/
  fromIsoformat : String → Option DateTime
  /-- The value of a decimal digit, of any script. -/
  decimalValue : Char → Option ℕ

/-- The payload that `_order_payload` returns. -/
structure XtOrderPayload where
  brokerOrderId : String
  clientOrderId : Option String
  symbol : String
  side : Side
  priceType : PriceType
  status : BrokerOrderStatus
  requestedShares : ℕ
  filledShares : ℕ
  limitPrice : ℚ
  sessionDate : Date
  eventTime : DateTime
  eventSequence : ℕ
  deriving DecidableEq

/-- The transport, as far as order facts need it. -/
structure XtQuantTransport where
  accountId : String
  constants : XtQuantConstants
  library : TimeLibrary
  /-- `canonical_raw_payload_sha256`. -/
  payloadDigest : XtOrderPayload → Digest

/-! ## Readers -/

section Readers

variable (label : String)

/-- `_field`. -/
def sdkField (name : String) : Option SdkValue → Except TransportError SdkValue
  | some value => .ok value
  | none => .error (.brokerSchemaMismatch (label ++ " is missing required field " ++ name))

/-- `_int`. -/
def sdkInt (positive : Bool) : SdkValue → Except TransportError ℕ
  | .int n =>
    if n < 0 ∨ (positive ∧ n = 0) then
      .error (.brokerSchemaMismatch
        (label ++ " must be " ++ if positive then "positive" else "nonnegative"))
    else .ok n.toNat
  | _ => .error (.brokerSchemaMismatch (label ++ " must be an integer"))

/-- `_text`. -/
def sdkText (maximum : ℕ) : SdkValue → Except TransportError String
  | .text s =>
    if maximum < s.length then
      .error (.brokerSchemaMismatch (label ++ " must be canonical non-empty text"))
    else
      match idViolation label s with
      | none => .ok s
      | some message => .error (.brokerSchemaMismatch message)
  | _ => .error (.brokerSchemaMismatch (label ++ " must be text"))

/-- `_decimal`, for a price that must not be zero. -/
def sdkPrice (value : SdkValue) : Except TransportError ℚ :=
  match value with
  | .int _ | .number _ => do
    let observed : ℚ := match value with
      | .int n => n
      | .number q => q
      | _ => 0
    refuse (observed ≤ 0) (.brokerSchemaMismatch (label ++ " must be positive"))
    match Decimal.quantizeWith Decimal.roundHalfEven 8 observed with
    | none => .error .invalidOperation
    | some rounded =>
      if 1 / 10 ^ 12 < |observed - rounded| then
        .error (.brokerSchemaMismatch (label ++ " exceeds supported precision"))
      else .ok rounded
  | .nonFinite => .error (.brokerSchemaMismatch (label ++ " must be finite"))
  | _ => .error (.brokerSchemaMismatch (label ++ " must be a broker numeric value"))

/-! ## Times -/

/-- Digits with zeros before them, up to six. -/
def padSix (digits : List ℕ) : List ℕ := List.replicate (6 - digits.length) 0 ++ digits

/-- The time of day that `HHMMSS` names on the day of an observation. -/
def timeOfDay (observedAt : DateTime) (digits : List ℕ) : Except TransportError DateTime :=
  match digits with
  | a :: b :: c :: d :: e :: f :: _ =>
    if 10 * a + b < 24 ∧ 10 * c + d < 60 ∧ 10 * e + f < 60 then
      .ok (combineShanghai (shanghaiDate observedAt)
        ((10 * a + b : ℕ) * hour + (10 * c + d : ℕ) * minute + (10 * e + f : ℕ) * second))
    else .error (.brokerSchemaMismatch (label ++ " HHMMSS value is invalid"))
  | _ => .error (.brokerSchemaMismatch (label ++ " HHMMSS value is invalid"))

/-- What the library reads, or a refusal. -/
def readOr (message : String) : Option DateTime → Except TransportError DateTime
  | some t => .ok t
  | none => .error (.brokerSchemaMismatch (label ++ message))

/-- The last second of the year 9999 in Shanghai. -/
def lastEpoch : ℕ := 253402271999

/-- `_broker_time`. -/
def brokerTime (library : TimeLibrary) (observedAt : DateTime) :
    SdkValue → Except TransportError DateTime
  | .int n =>
    if n < 0 then .error (.brokerSchemaMismatch (label ++ " must be nonnegative"))
    else if 10000000000000 ≤ n then
      readOr label " calendar timestamp is invalid" (library.strptime (toString n.toNat))
    else if 1000000000000 ≤ n then .ok (n * 1000)
    else if 1000000000 ≤ n then
      if n.toNat ≤ lastEpoch then .ok (n * second)
      else .error (.brokerSchemaMismatch (label ++ " epoch is invalid"))
    else timeOfDay label observedAt (padSix (Nat.digits 10 n.toNat).reverse)
  | .text s =>
    let text := strip s.toList
    if text = [] then .error (.brokerSchemaMismatch (label ++ " is empty"))
    else
      match text.mapM library.decimalValue with
      | some digits =>
        if digits.length ≤ 6 then timeOfDay label observedAt (padSix digits)
        else if digits.length = 14 then
          readOr label " calendar timestamp is invalid" (library.strptime (String.ofList text))
        else readOr label " format is unsupported" (library.fromIsoformat (String.ofList text))
      | none => readOr label " format is unsupported" (library.fromIsoformat (String.ofList text))
  | .bool _ => .error (.brokerSchemaMismatch (label ++ " is invalid"))
  | _ => .error (.brokerSchemaMismatch (label ++ " must be integer or text"))

end Readers

/-! ## Orders -/

namespace BrokerOrderStatus

/-- `_ORDER_STATUS_RANK` of the transport. -/
def transportRank : BrokerOrderStatus → ℕ
  | unknown => 1
  | pendingNew => 10
  | acknowledged => 20
  | partiallyFilled => 30
  | pendingCancel => 40
  | cancelled => 50
  | rejected => 50
  | expired => 50
  | filled => 60

end BrokerOrderStatus

/-- `_order_sequence`. -/
def orderSequence (status : BrokerOrderStatus) (filledShares : ℕ) : ℕ :=
  filledShares * 100 + status.transportRank

/-- `is_client_order_tag`. -/
def isClientOrderTag (s : String) : Bool :=
  match s.toList with
  | 'f' :: 'q' :: rest => rest.length = 22 && rest.all isHexDigit
  | _ => false

/-- `_client_tag`. -/
def clientTag (raw : XtOrder) : Option String :=
  match raw.orderRemark with
  | some (.text s) => if isClientOrderTag s then some s else none
  | _ => none

namespace XtQuantTransport

variable (transport : XtQuantTransport)

/-- `_validate_identity`. -/
def validateIdentity (label : String) (raw : XtOrder) : Except TransportError Unit := do
  let accountValue ← sdkField label "account_id" raw.accountId
  let accountId ← sdkText (label ++ " account identity") 128 accountValue
  refuse (accountId ≠ transport.accountId)
    (.brokerSchemaMismatch (label ++ " account identity does not match binding"))
  let typeValue ← sdkField label "account_type" raw.accountType
  let accountType ← sdkInt (label ++ " account type") false typeValue
  refuse ((accountType : ℤ) ≠ transport.constants.securityAccount)
    (.brokerSchemaMismatch (label ++ " is not a cash securities account"))

/-- The table of `_order_status`, in which a later entry replaces an earlier one of its code. -/
def orderStatuses : List (ℤ × BrokerOrderStatus) :=
  [(transport.constants.orderUnreported, .pendingNew),
    (transport.constants.orderWaitReporting, .pendingNew),
    (transport.constants.orderReported, .acknowledged),
    (transport.constants.orderReportedCancel, .pendingCancel),
    (transport.constants.orderPartsuccCancel, .pendingCancel),
    (transport.constants.orderPartCancel, .cancelled),
    (transport.constants.orderCanceled, .cancelled),
    (transport.constants.orderPartSucc, .partiallyFilled),
    (transport.constants.orderSucceeded, .filled),
    (transport.constants.orderJunk, .rejected),
    (transport.constants.orderUnknown, .unknown)]

/-- `_order_status`, of the field of an order. -/
def orderStatus (raw : XtOrder) : Except TransportError BrokerOrderStatus := do
  let value ← sdkField "XtQuant order" "order_status" raw.orderStatus
  let code ← sdkInt "XtQuant order status" false value
  match transport.orderStatuses.reverse.lookup (code : ℤ) with
  | some status => .ok status
  | none => .error (.brokerSchemaMismatch "XtQuant returned an unknown order status")

/-- `_side`, of the field of an order. -/
def side (raw : XtOrder) : Except TransportError Side := do
  let value ← sdkField "XtQuant order" "order_type" raw.orderType
  let code ← sdkInt "XtQuant order type" false value
  if (code : ℤ) = transport.constants.stockBuy then .ok .buy
  else if (code : ℤ) = transport.constants.stockSell then .ok .sell
  else .error (.brokerSchemaMismatch "XtQuant order type is not cash-equity buy or sell")

/-- The requested volume of an order. -/
def requestedVolume (raw : XtOrder) : Except TransportError ℕ := do
  let value ← sdkField "XtQuant order" "order_volume" raw.orderVolume
  sdkInt "XtQuant requested volume" true value

/-- The filled volume of an order. -/
def filledVolume (raw : XtOrder) : Except TransportError ℕ := do
  let value ← sdkField "XtQuant order" "traded_volume" raw.tradedVolume
  sdkInt "XtQuant filled volume" false value

/-- The time of an order. -/
def orderTime (raw : XtOrder) (observedAt : DateTime) : Except TransportError DateTime := do
  let value ← sdkField "XtQuant order" "order_time" raw.orderTime
  brokerTime "XtQuant order time" transport.library observedAt value

/-- The id of an order. -/
def orderId (raw : XtOrder) : Except TransportError ℕ := do
  let value ← sdkField "XtQuant order" "order_id" raw.orderId
  sdkInt "XtQuant order id" true value

/-- The symbol of an order, as text. -/
def stockCode (raw : XtOrder) : Except TransportError String := do
  let value ← sdkField "XtQuant order" "stock_code" raw.stockCode
  sdkText "XtQuant order symbol" 256 value

/-- The price of an order. -/
def limitPrice (raw : XtOrder) : Except TransportError ℚ := do
  let value ← sdkField "XtQuant order" "price" raw.price
  sdkPrice "XtQuant order price" value

/-- The price type of an order, of which only the type is checked. -/
def priceType (raw : XtOrder) : Except TransportError ℕ := do
  let value ← sdkField "XtQuant order" "price_type" raw.priceType
  sdkInt "XtQuant returned order price type" false value

/-- `_order_payload`. -/
def orderPayload (raw : XtOrder) (observedAt : DateTime) :
    Except TransportError XtOrderPayload := do
  transport.validateIdentity "XtQuant order" raw
  let _ ← priceType raw
  let status ← transport.orderStatus raw
  let requestedShares ← requestedVolume raw
  let filledShares ← filledVolume raw
  refuse (requestedShares < filledShares)
    (.brokerSchemaMismatch "XtQuant filled volume exceeds requested volume")
  let eventTime ← transport.orderTime raw observedAt
  let brokerOrderId ← orderId raw
  let symbol ← stockCode raw
  let side ← transport.side raw
  let limitPrice ← limitPrice raw
  return {
    brokerOrderId := toString brokerOrderId
    clientOrderId := clientTag raw
    symbol := symbol
    side := side
    priceType := .limit
    status := status
    requestedShares := requestedShares
    filledShares := filledShares
    limitPrice := limitPrice
    sessionDate := shanghaiDate eventTime
    eventTime := eventTime
    eventSequence := orderSequence status filledShares }

/-- `normalize_order` of a payload of the transport. -/
def normalizePayload (payload : XtOrderPayload) (receivedAt : DateTime) :
    Except TransportError BrokerOrderFact :=
  if hprice : 0 < payload.limitPrice then
    match idViolation "broker order id" payload.brokerOrderId, Symbol.parse payload.symbol with
    | some message, _ => .error (.domainValidationError message)
    | none, none => .error (.domainValidationError "invalid symbol")
    | none, some symbol =>
      if hshares : 0 < payload.requestedShares ∧ payload.filledShares ≤ payload.requestedShares then
        .ok {
          brokerOrderId := payload.brokerOrderId
          clientOrderId := payload.clientOrderId
          symbol := symbol
          side := payload.side
          priceType := payload.priceType
          status := payload.status
          requestedShares := payload.requestedShares
          filledShares := payload.filledShares
          limitPrice := ⟨payload.limitPrice, hprice⟩
          sessionDate := payload.sessionDate
          eventTime := payload.eventTime
          receivedAt := receivedAt
          eventSequence := payload.eventSequence
          rawPayloadSha256 := transport.payloadDigest payload
          requested_pos := hshares.1
          filled_le_requested := hshares.2 }
      else .error (.domainValidationError "broker order filled shares exceed requested shares")
  else .error (.domainValidationError "price must be positive")

/-- `_order`. -/
def order (raw : XtOrder) (observedAt : DateTime) : Except TransportError BrokerOrderFact := do
  let payload ← transport.orderPayload raw observedAt
  transport.normalizePayload payload observedAt

/-! ## What a fact is made of -/

/-- Where the fields of a payload come from. -/
structure Reads (raw : XtOrder) (observedAt : DateTime) (payload : XtOrderPayload) : Prop where
  status : transport.orderStatus raw = .ok payload.status
  requestedShares : requestedVolume raw = .ok payload.requestedShares
  filledShares : filledVolume raw = .ok payload.filledShares
  eventTime : transport.orderTime raw observedAt = .ok payload.eventTime
  brokerOrderId : ∃ n, orderId raw = .ok n ∧ payload.brokerOrderId = toString n
  symbol : stockCode raw = .ok payload.symbol
  side : transport.side raw = .ok payload.side
  limitPrice : limitPrice raw = .ok payload.limitPrice
  clientOrderId : payload.clientOrderId = clientTag raw
  sessionDate : payload.sessionDate = shanghaiDate payload.eventTime
  eventSequence : payload.eventSequence = orderSequence payload.status payload.filledShares

variable {transport}

variable {raw : XtOrder} {observedAt : DateTime} {payload : XtOrderPayload}
  {fact : BrokerOrderFact}

lemma reads_of_orderPayload (h : transport.orderPayload raw observedAt = .ok payload) :
    transport.Reads raw observedAt payload := by
  unfold orderPayload at h
  obtain ⟨_, -, h⟩ := bind_ok_iff.mp h
  obtain ⟨_, -, h⟩ := bind_ok_iff.mp h
  obtain ⟨status, hstatus, h⟩ := bind_ok_iff.mp h
  obtain ⟨requestedShares, hrequested, h⟩ := bind_ok_iff.mp h
  obtain ⟨filledShares, hfilled, h⟩ := bind_ok_iff.mp h
  obtain ⟨_, -, h⟩ := bind_ok_iff.mp h
  obtain ⟨eventTime, htime, h⟩ := bind_ok_iff.mp h
  obtain ⟨brokerOrderId, hid, h⟩ := bind_ok_iff.mp h
  obtain ⟨symbol, hsymbol, h⟩ := bind_ok_iff.mp h
  obtain ⟨side, hside, h⟩ := bind_ok_iff.mp h
  obtain ⟨limitPrice, hprice, h⟩ := bind_ok_iff.mp h
  cases h
  exact ⟨hstatus, hrequested, hfilled, htime, ⟨brokerOrderId, hid, rfl⟩, hsymbol, hside, hprice,
    rfl, rfl, rfl⟩

/-- A fact holds what the payload holds. -/
structure Holds (payload : XtOrderPayload) (receivedAt : DateTime) (fact : BrokerOrderFact) :
    Prop where
  brokerOrderId : fact.brokerOrderId = payload.brokerOrderId
  clientOrderId : fact.clientOrderId = payload.clientOrderId
  symbol : Symbol.parse payload.symbol = some fact.symbol
  side : fact.side = payload.side
  status : fact.status = payload.status
  requestedShares : fact.requestedShares = payload.requestedShares
  filledShares : fact.filledShares = payload.filledShares
  limitPrice : fact.limitPrice.value = payload.limitPrice
  sessionDate : fact.sessionDate = payload.sessionDate
  eventTime : fact.eventTime = payload.eventTime
  receivedAt : fact.receivedAt = receivedAt
  eventSequence : fact.eventSequence = payload.eventSequence

lemma holds_of_normalizePayload {receivedAt : DateTime}
    (h : transport.normalizePayload payload receivedAt = .ok fact) :
    Holds payload receivedAt fact := by
  unfold normalizePayload at h
  by_cases hprice : 0 < payload.limitPrice
  · rw [dif_pos hprice] at h
    cases hid : idViolation "broker order id" payload.brokerOrderId with
    | some message => rw [hid] at h; cases h
    | none =>
      cases hsymbol : Symbol.parse payload.symbol with
      | none => rw [hid, hsymbol] at h; cases h
      | some symbol =>
        simp only [hid, hsymbol] at h
        split at h
        · cases h
          exact ⟨rfl, rfl, hsymbol, rfl, rfl, rfl, rfl, rfl, rfl, rfl, rfl, rfl⟩
        · cases h
  · rw [dif_neg hprice] at h
    cases h

lemma order_eq_ok (h : transport.order raw observedAt = .ok fact) :
    ∃ payload, transport.Reads raw observedAt payload ∧ Holds payload observedAt fact := by
  obtain ⟨payload, hpayload, hfact⟩ := bind_ok_iff.mp h
  exact ⟨payload, reads_of_orderPayload hpayload, holds_of_normalizePayload hfact⟩

end XtQuantTransport

end FirmQuant
