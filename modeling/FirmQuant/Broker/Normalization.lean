import FirmQuant.Persistence.AggregateCodec

/-!
# Normalization of callbacks

The part of `broker/normalization.py` that makes an envelope of a raw broker callback, with the
constructors of its facts in `domain/broker_facts.py`.

The code takes any Python object; a raw event is a `LedgerValue`, whose mappings have distinct keys.
A text with a lone surrogate is refused where it is read; in the source the encoder refuses it, or
the database.  Checks that repeat one of the readers on its own result are left out.

An envelope holds the time of receipt at three places: as its own field, in its fact and in its safe
payload.  `normalizeBrokerEvent_restamp` says that nothing else depends on it.
-/

namespace FirmQuant

open Effect

namespace Normalization

/-- The exceptions of the normalization. -/
inductive NormalizationError
  /-- `DomainTypeError`. -/
  | domainTypeError (message : String)
  /-- `DomainValidationError`. -/
  | domainValidationError (message : String)
  /-- The `DomainValidationError` of `_schema` for missing fields, which it lists sorted. -/
  | missingFields (label : String) (fields : List String)
  /-- The `DomainValidationError` of `_schema` for other fields, which it lists sorted. -/
  | unexpectedFields (label : String) (fields : List MappingKey)
  /-- The `DomainValidationError` of `_enum`. -/
  | unknownMember (label value : String)
  /-- The `DomainValidationError` of `Symbol.parse`. -/
  | invalidSymbol (raw : String)
  /-- What the JSON encoder raises. -/
  | encoder (error : LedgerError)
  deriving DecidableEq

/-- A `DomainTypeError` or a `DomainValidationError`. -/
def NormalizationError.isDomainError : NormalizationError → Bool
  | .encoder _ => false
  | _ => true

/-- What the normalization asks of the standard library. -/
structure NormalizationEnvironment where
  /-- `sha256(text.encode("utf-8")).hexdigest()`. -/
  sha256 : String → String
  /-- `str.upper`. -/
  upper : String → String
  /-- `Decimal` of a text that is not digits with a point or without; `some none` is an infinity or
  no number. -/
  decimalOther : String → Option (Option DecimalTuple)
  /-- `date.fromisoformat` of a text in another form than `isoformat` writes. -/
  dateOther : String → Option CalendarDate
  /-- `datetime.fromisoformat`; `some none` has no time zone. -/
  datetimeOf : String → Option (Option AwareDateTime)

/-! ## Enumerations -/

/-- `BrokerEventType`. -/
inductive BrokerEventType
  | order | fill | quote | orderError | cancelError | disconnected
  deriving DecidableEq, Repr

namespace BrokerEventType

/-- `BrokerEventType.value`. -/
def value : BrokerEventType → String
  | order => "ORDER"
  | fill => "FILL"
  | quote => "QUOTE"
  | orderError => "ORDER_ERROR"
  | cancelError => "CANCEL_ERROR"
  | disconnected => "DISCONNECTED"

/-- The members of `BrokerEventType`. -/
def members : List BrokerEventType := [order, fill, quote, orderError, cancelError, disconnected]

end BrokerEventType

/-- `PriceType.value`. -/
def priceTypeValue : PriceType → String
  | .limit => "LIMIT"

/-- `BrokerOrderStatus.value`. -/
def orderStatusValue : BrokerOrderStatus → String
  | .pendingNew => "PENDING_NEW"
  | .acknowledged => "ACKNOWLEDGED"
  | .partiallyFilled => "PARTIALLY_FILLED"
  | .filled => "FILLED"
  | .pendingCancel => "PENDING_CANCEL"
  | .cancelled => "CANCELLED"
  | .rejected => "REJECTED"
  | .expired => "EXPIRED"
  | .unknown => "UNKNOWN"

/-- The members of `BrokerOrderStatus`. -/
def orderStatuses : List BrokerOrderStatus :=
  [.pendingNew, .acknowledged, .partiallyFilled, .filled, .pendingCancel, .cancelled, .rejected,
    .expired, .unknown]

/-- `FillStatus.value`. -/
def fillStatusValue : FillStatus → String
  | .confirmed => "CONFIRMED"
  | .reversed => "REVERSED"
  | .unknown => "UNKNOWN"

/-- `MarketSessionStatus.value`. -/
def marketStatusValue : MarketSessionStatus → String
  | .open => "OPEN"
  | .auction => "AUCTION"
  | .break => "BREAK"
  | .closed => "CLOSED"
  | .halted => "HALTED"
  | .unknown => "UNKNOWN"

/-- The members of `MarketSessionStatus`. -/
def marketStatuses : List MarketSessionStatus :=
  [.open, .auction, .break, .closed, .halted, .unknown]

/-! ## Reading fields -/

section Readers

variable (env : NormalizationEnvironment)

/-- `_mapping`. -/
def mappingOf (label : String) : LedgerValue →
    Except NormalizationError (List (MappingKey × LedgerValue))
  | .mapping items => do
    refuse (MappingKey.other ∈ items.map Prod.fst)
      (.domainTypeError (label ++ " keys must be text"))
    return items
  | _ => .error (.domainTypeError (label ++ " must be a mapping"))

/-- `_schema`. -/
def schemaOf (label : String) (required : List String) (raw : LedgerValue) :
    Except NormalizationError (List (MappingKey × LedgerValue)) := do
  let payload ← mappingOf label raw
  let missing := required.filter fun field => .text field ∉ payload.map Prod.fst
  let unexpected := (payload.map Prod.fst).filter fun key => key ∉ required.map .text
  refuse (missing ≠ []) (.missingFields label missing)
  refuse (unexpected ≠ []) (.unexpectedFields label unexpected)
  return payload

/-- `payload[field]`, for a field that `_schema` has found. -/
def field (payload : List (MappingKey × LedgerValue)) (name : String) : LedgerValue :=
  (payload.lookup (.text name)).getD .none

/-- `_text`. -/
def textOf (label : String) : LedgerValue → Except NormalizationError String
  | .text s | .strEnum s =>
    match idViolation label s with
    | none => .ok s
    | some message => .error (.domainValidationError message)
  | .surrogates => .error (.encoder .unicodeEncodeError)
  | _ => .error (.domainTypeError (label ++ " must be text"))

/-- `_optional_text`. -/
def optionalTextOf (label : String) : LedgerValue → Except NormalizationError (Option String)
  | .none => .ok none
  | value => some <$> textOf label value

/-- `_enum`. -/
def enumOf {α : Type} (members : List α) (valueOf : α → String) (label : String)
    (value : LedgerValue) : Except NormalizationError α := do
  let text ← textOf label value
  match members.find? fun member => valueOf member = env.upper text with
  | some member => .ok member
  | none => .error (.unknownMember label text)

/-- `Decimal(text)`. -/
def decimalOfText (text : String) : Option (Option DecimalTuple) :=
  match DecimalTuple.ofPlain text.toList with
  | some d => some (some d)
  | none => env.decimalOther text

/-- `_decimal`. -/
def decimalOf (label : String) (value : LedgerValue) : Except NormalizationError DecimalTuple :=
  match value with
  | .decimal d => .ok d
  | .nonFiniteDecimal => .error (.domainValidationError (label ++ " must be finite"))
  | .text _ | .strEnum _ | .surrogates => do
    let text ← textOf label value
    match decimalOfText env text with
    | some (some d) => .ok d
    | some none => .error (.domainValidationError (label ++ " must be finite"))
    | none => .error (.domainValidationError (label ++ " is not a valid decimal"))
  | _ => .error (.domainTypeError (label ++ " must be a canonical decimal string or Decimal"))

/-- `_price`, for a field that must be there. -/
def priceOf (label : String) (value : LedgerValue) : Except NormalizationError Codec.Price := do
  let d ← decimalOf env label value
  match h : Codec.priceViolation (some d) with
  | none => .ok ⟨d, h⟩
  | some message => .error (.domainValidationError message)

/-- `_price`, for an optional field. -/
def optionalPriceOf (label : String) :
    LedgerValue → Except NormalizationError (Option Codec.Price)
  | .none => .ok none
  | value => some <$> priceOf env label value

/-- The check of `_validate_decimal` that an amount fails, as its message. -/
def moneyViolation (d : DecimalTuple) : Option String :=
  if d.coefficient = 0 then none
  else if d.negative then some "money must be nonnegative"
  else if 4 < d.decimalPlaces then some "money exceeds 4 decimal places"
  else if 20 < d.integerDigits then some "money exceeds 20 integer digits"
  else none

/-- A `Money`. -/
structure Money where
  decimal : DecimalTuple
  valid : moneyViolation decimal = none
  deriving DecidableEq

/-- `_money`.  Every zero is stored as `Decimal(0)`. -/
def moneyOf (label : String) (value : LedgerValue) : Except NormalizationError Money := do
  let d ← decimalOf env label value
  if d.coefficient = 0 then .ok ⟨⟨false, 0, 0⟩, rfl⟩
  else
    match h : moneyViolation d with
    | none => .ok ⟨d, h⟩
    | some message => .error (.domainValidationError message)

/-- `_shares`. -/
def sharesOf (label : String) : LedgerValue → Except NormalizationError ℕ
  | .int n =>
    if n < 0 then .error (.domainValidationError "shares must be nonnegative") else .ok n.toNat
  | _ => .error (.domainTypeError (label ++ " must be an integer share quantity"))

/-- `_sequence`. -/
def sequenceOf (label : String) : LedgerValue → Except NormalizationError ℕ
  | .int n =>
    if n < 0 then .error (.domainValidationError (label ++ " must be nonnegative")) else .ok n.toNat
  | _ => .error (.domainTypeError (label ++ " must be an integer"))

/-- `_date`. -/
def dateOf (label : String) (value : LedgerValue) : Except NormalizationError CalendarDate :=
  match value with
  | .datetime _ | .naiveDatetime =>
    .error (.domainTypeError (label ++ " must be date, not datetime"))
  | .date d => .ok d
  | .text _ | .strEnum _ | .surrogates => do
    let text ← textOf label value
    match (CalendarDate.fromIsoformat text).or (env.dateOther text) with
    | some d => .ok d
    | none => .error (.domainValidationError (label ++ " must be ISO-8601 date"))
  | _ => .error (.domainTypeError (label ++ " must be ISO date text"))

/-- `_datetime`. -/
def datetimeOf (label : String) (value : LedgerValue) : Except NormalizationError AwareDateTime :=
  match value with
  | .datetime t => .ok t
  | .naiveDatetime => .error (.domainValidationError (label ++ " must be timezone-aware"))
  | .text _ | .strEnum _ | .surrogates => do
    let text ← textOf label value
    match env.datetimeOf text with
    | some (some t) => .ok t
    | some none => .error (.domainValidationError (label ++ " must be timezone-aware"))
    | none => .error (.domainValidationError (label ++ " must be ISO-8601 datetime"))
  | _ => .error (.domainTypeError (label ++ " must be datetime or ISO datetime text"))

/-- `Symbol.parse(_text(value))`. -/
def symbolOf (label : String) (value : LedgerValue) : Except NormalizationError Symbol := do
  let raw ← textOf label value
  match Symbol.parse raw with
  | some symbol => .ok symbol
  | none => .error (.invalidSymbol raw)

end Readers

/-! ## The digest of the raw payload -/

/-- `type(value).__name__` of the values that `_canonical_json_value` refuses. -/
def typeName : LedgerValue → String
  | .float => "float"
  | .decimal _ | .nonFiniteDecimal => "Decimal"
  | .symbol _ => "Symbol"
  | .money _ => "Money"
  | .price _ => "Price"
  | .shares _ => "Shares"
  | .datetime _ | .naiveDatetime => "datetime"
  | .date _ => "date"
  | .unsupported name => name
  | _ => ""

mutual

/-- `_canonical_json_value`. -/
def canonicalJsonValue : String → LedgerValue → Except NormalizationError LedgerValue
  | _, .none => .ok .none
  | _, .bool b => .ok (.bool b)
  | _, .int n => .ok (.int n)
  | _, .text s => .ok (.text s)
  | _, .strEnum s => .ok (.strEnum s)
  | _, .surrogates => .ok .surrogates
  | label, .mapping items => do
    refuse (MappingKey.other ∈ items.map Prod.fst)
      (.domainTypeError (label ++ " mapping keys must be text"))
    let members ← canonicalJsonMembers label items
    return .mapping members
  | label, .list items => do
    let values ← canonicalJsonItems label 0 items
    return .list values
  | label, .tuple items => do
    let values ← canonicalJsonItems label 0 items
    return .list values
  | label, value =>
    .error (.domainTypeError (label ++ " contains unsupported raw type " ++ typeName value))
termination_by structural _ value => value

/-- The items of a list or a tuple. -/
def canonicalJsonItems : String → ℕ → List LedgerValue →
    Except NormalizationError (List LedgerValue)
  | _, _, [] => .ok []
  | label, index, item :: items => do
    let value ← canonicalJsonValue (label ++ "[" ++ toString index ++ "]") item
    let values ← canonicalJsonItems label (index + 1) items
    return value :: values
termination_by structural _ _ items => items

/-- The items of a mapping. -/
def canonicalJsonMembers : String → List (MappingKey × LedgerValue) →
    Except NormalizationError (List (MappingKey × LedgerValue))
  | _, [] => .ok []
  | label, (key, item) :: items => do
    let path :=
      match key with
      | .text name => label ++ "." ++ name
      | _ => label
    let value ← canonicalJsonValue path item
    let members ← canonicalJsonMembers label items
    return (key, value) :: members
termination_by structural _ items => items

end

/-- `json.dumps` and `encode`. -/
def encode (value : LedgerValue) : Except NormalizationError String :=
  match canonicalJson value with
  | .ok text => .ok text
  | .error error => .error (.encoder error)

section Facts

variable (env : NormalizationEnvironment)

/-- `canonical_raw_payload_sha256`. -/
def canonicalRawPayloadSha256 (payload : List (MappingKey × LedgerValue)) :
    Except NormalizationError String := do
  let items ← mappingOf "raw broker payload" (.mapping payload)
  let value ← canonicalJsonValue "payload" (.mapping items)
  let text ← encode value
  return env.sha256 text

/-! ## Facts -/

variable {env}

/-- A record that passes the checks of its constructor. -/
abbrev Checked {α : Type} (violation : α → Option NormalizationError) : Type :=
  {d : α // violation d = none}

/-- A constructor: it raises what its checks say, if they say something. -/
def construct {α : Type} (violation : α → Option NormalizationError) (d : α) :
    Except NormalizationError (Checked violation) :=
  match h : violation d with
  | none => .ok ⟨d, h⟩
  | some error => .error error

/-- The first check that a record fails. -/
def firstViolation (checks : List (Bool × NormalizationError)) : Option NormalizationError :=
  (checks.find? Prod.fst).map Prod.snd

/-- The fields of a `BrokerOrderFact`. -/
structure OrderData where
  brokerOrderId : String
  clientOrderId : Option String
  symbol : Symbol
  side : Side
  priceType : PriceType
  status : BrokerOrderStatus
  requestedShares : ℕ
  filledShares : ℕ
  limitPrice : Codec.Price
  sessionDate : CalendarDate
  eventTime : AwareDateTime
  receivedAt : AwareDateTime
  eventSequence : ℕ
  rawPayloadSha256 : String

/-- The check of `BrokerOrderFact.__post_init__` that the fields fail. -/
def OrderData.violation (d : OrderData) : Option NormalizationError :=
  firstViolation
    [(d.requestedShares = 0,
        .domainValidationError "broker order requested shares must be positive"),
      (d.requestedShares < d.filledShares,
        .domainValidationError "broker order filled shares exceed requested shares"),
      (!isSha256 d.rawPayloadSha256,
        .domainValidationError "broker order raw payload hash must be lowercase SHA-256")]

/-- A `BrokerOrderFact`. -/
abbrev BrokerOrderFact := Checked OrderData.violation

/-- The fields of a `BrokerFillFact`. -/
structure FillData where
  brokerFillId : String
  brokerOrderId : String
  symbol : Symbol
  side : Side
  status : FillStatus
  shares : ℕ
  price : Codec.Price
  commission : Money
  stampDuty : Money
  transferFee : Money
  sessionDate : CalendarDate
  eventTime : AwareDateTime
  receivedAt : AwareDateTime
  eventSequence : ℕ
  rawPayloadSha256 : String

/-- The check of `BrokerFillFact.__post_init__` that the fields fail. -/
def FillData.violation (d : FillData) : Option NormalizationError :=
  firstViolation
    [(d.shares = 0, .domainValidationError "fill shares must be positive"),
      (!isSha256 d.rawPayloadSha256,
        .domainValidationError "fill raw payload hash must be lowercase SHA-256")]

/-- A `BrokerFillFact`. -/
abbrev BrokerFillFact := Checked FillData.violation

/-- The fields of a `QuoteFact`. -/
structure QuoteData where
  symbol : Symbol
  lastPrice : Option Codec.Price
  previousClose : Option Codec.Price
  bidPrice : Option Codec.Price
  askPrice : Option Codec.Price
  volume : ℕ
  turnover : Money
  lowerLimit : Option Codec.Price
  upperLimit : Option Codec.Price
  marketStatus : MarketSessionStatus
  sequence : ℕ
  sessionDate : CalendarDate
  eventTime : AwareDateTime
  receivedAt : AwareDateTime

/-- Both prices are there and the first is below the second. -/
def isBelow (p q : Option Codec.Price) : Bool :=
  match p, q with
  | some p, some q => decide (p.decimal.value < q.decimal.value)
  | _, _ => false

/-- The check of `QuoteFact.__post_init__` that the fields fail. -/
def QuoteData.violation (d : QuoteData) : Option NormalizationError :=
  firstViolation
    ([(d.lowerLimit.isSome && d.upperLimit.isSome && !isBelow d.lowerLimit d.upperLimit,
        .domainValidationError "quote lower limit must be below upper limit"),
      (isBelow d.askPrice d.bidPrice, .domainValidationError "quote bid cannot exceed ask")] ++
    [d.lastPrice, d.bidPrice, d.askPrice].flatMap fun price =>
      [(isBelow price d.lowerLimit,
          .domainValidationError "quote price is below broker lower limit"),
        (isBelow d.upperLimit price,
          .domainValidationError "quote price is above broker upper limit")])

/-- A `QuoteFact`. -/
abbrev QuoteFact := Checked QuoteData.violation

/-- The fields of a `BrokerOperationalFact`. -/
structure OperationalData where
  eventType : BrokerEventType
  brokerOrderId : Option String
  clientOrderId : Option String
  errorCode : Option ℤ
  messageSha256 : Option String
  sessionDate : CalendarDate
  eventTime : AwareDateTime
  receivedAt : AwareDateTime

/-- The check of `BrokerOperationalFact.__post_init__` that the fields fail. -/
def OperationalData.violation (d : OperationalData) : Option NormalizationError :=
  firstViolation
    [(d.eventType ∉ [.orderError, .cancelError, .disconnected],
        .domainValidationError "operational fact has an economic event type"),
      (d.eventType = .disconnected && (d.brokerOrderId.isSome || d.clientOrderId.isSome ||
          d.errorCode.isSome || d.messageSha256.isSome),
        .domainValidationError "disconnect fact cannot invent order/error identity"),
      (d.eventType ≠ .disconnected && d.errorCode.isNone,
        .domainTypeError "operational error code must be an integer"),
      (d.eventType ≠ .disconnected && !d.messageSha256.any isSha256,
        .domainValidationError "operational message digest must be lowercase SHA-256")]

/-- A `BrokerOperationalFact`. -/
abbrev BrokerOperationalFact := Checked OperationalData.violation

/-- `NormalizedBrokerEventFact`. -/
inductive EventFact
  | order (fact : BrokerOrderFact)
  | fill (fact : BrokerFillFact)
  | quote (fact : QuoteFact)
  | operational (fact : BrokerOperationalFact)

namespace EventFact

/-- `fact.session_date`. -/
def sessionDate : EventFact → CalendarDate
  | order fact => fact.1.sessionDate
  | fill fact => fact.1.sessionDate
  | quote fact => fact.1.sessionDate
  | operational fact => fact.1.sessionDate

/-- `fact.event_time`. -/
def eventTime : EventFact → AwareDateTime
  | order fact => fact.1.eventTime
  | fill fact => fact.1.eventTime
  | quote fact => fact.1.eventTime
  | operational fact => fact.1.eventTime

/-- `fact.received_at`. -/
def receivedAt : EventFact → AwareDateTime
  | order fact => fact.1.receivedAt
  | fill fact => fact.1.receivedAt
  | quote fact => fact.1.receivedAt
  | operational fact => fact.1.receivedAt

/-- The sequence number of the callback; an operational one has none. -/
def sequence : EventFact → ℕ
  | order fact => fact.1.eventSequence
  | fill fact => fact.1.eventSequence
  | quote fact => fact.1.sequence
  | operational _ => 0

end EventFact

end Facts

/-! ## Normalization -/

section Normalize

variable (env : NormalizationEnvironment)

/-- `normalize_order`, for the digest that the caller has computed. -/
def normalizeOrder (raw : List (MappingKey × LedgerValue)) (receivedAt : AwareDateTime)
    (rawPayloadSha256 : String) : Except NormalizationError BrokerOrderFact := do
  let payload ← schemaOf "broker order"
    ["broker_order_id", "client_order_id", "symbol", "side", "price_type", "status",
      "requested_shares", "filled_shares", "limit_price", "session_date", "event_time",
      "event_sequence"] (.mapping raw)
  let limitPrice ← priceOf env "limit price" (field payload "limit_price")
  let brokerOrderId ← textOf "broker order id" (field payload "broker_order_id")
  let clientOrderId ← optionalTextOf "client order id" (field payload "client_order_id")
  let symbol ← symbolOf "order symbol" (field payload "symbol")
  let side ← enumOf env [Side.buy, .sell] Codec.sideValue "order side" (field payload "side")
  let priceType ← enumOf env [PriceType.limit] priceTypeValue "price type"
    (field payload "price_type")
  let status ← enumOf env orderStatuses orderStatusValue "order status" (field payload "status")
  let requestedShares ← sharesOf "requested shares" (field payload "requested_shares")
  let filledShares ← sharesOf "filled shares" (field payload "filled_shares")
  let sessionDate ← dateOf env "order session date" (field payload "session_date")
  let eventTime ← datetimeOf env "order event_time" (field payload "event_time")
  let eventSequence ← sequenceOf "order event sequence" (field payload "event_sequence")
  construct OrderData.violation
    ⟨brokerOrderId, clientOrderId, symbol, side, priceType, status, requestedShares, filledShares,
      limitPrice, sessionDate, eventTime, receivedAt, eventSequence, rawPayloadSha256⟩

/-- `normalize_fill`, for the digest that the caller has computed. -/
def normalizeFill (raw : List (MappingKey × LedgerValue)) (receivedAt : AwareDateTime)
    (rawPayloadSha256 : String) : Except NormalizationError BrokerFillFact := do
  let payload ← schemaOf "broker fill"
    ["broker_fill_id", "broker_order_id", "symbol", "side", "status", "shares", "price",
      "commission", "stamp_duty", "transfer_fee", "session_date", "event_time", "event_sequence"]
    (.mapping raw)
  let price ← priceOf env "fill price" (field payload "price")
  let brokerFillId ← textOf "broker fill id" (field payload "broker_fill_id")
  let brokerOrderId ← textOf "broker order id" (field payload "broker_order_id")
  let symbol ← symbolOf "fill symbol" (field payload "symbol")
  let side ← enumOf env [Side.buy, .sell] Codec.sideValue "fill side" (field payload "side")
  let status ← enumOf env [FillStatus.confirmed, .reversed, .unknown] fillStatusValue "fill status"
    (field payload "status")
  let shares ← sharesOf "fill shares" (field payload "shares")
  let commission ← moneyOf env "commission" (field payload "commission")
  let stampDuty ← moneyOf env "stamp duty" (field payload "stamp_duty")
  let transferFee ← moneyOf env "transfer fee" (field payload "transfer_fee")
  let sessionDate ← dateOf env "fill session date" (field payload "session_date")
  let eventTime ← datetimeOf env "fill event_time" (field payload "event_time")
  let eventSequence ← sequenceOf "fill event sequence" (field payload "event_sequence")
  construct FillData.violation
    ⟨brokerFillId, brokerOrderId, symbol, side, status, shares, price, commission, stampDuty,
      transferFee, sessionDate, eventTime, receivedAt, eventSequence, rawPayloadSha256⟩

/-- `normalize_quote`. -/
def normalizeQuote (raw : List (MappingKey × LedgerValue)) (receivedAt : AwareDateTime) :
    Except NormalizationError QuoteFact := do
  let payload ← schemaOf "broker quote"
    ["symbol", "last_price", "previous_close", "bid_price", "ask_price", "volume", "turnover",
      "lower_limit", "upper_limit", "market_status", "sequence", "session_date", "event_time"]
    (.mapping raw)
  let symbol ← symbolOf "quote symbol" (field payload "symbol")
  let lastPrice ← optionalPriceOf env "last price" (field payload "last_price")
  let previousClose ← optionalPriceOf env "previous close" (field payload "previous_close")
  let bidPrice ← optionalPriceOf env "bid price" (field payload "bid_price")
  let askPrice ← optionalPriceOf env "ask price" (field payload "ask_price")
  let volume ← sharesOf "quote volume" (field payload "volume")
  let turnover ← moneyOf env "quote turnover" (field payload "turnover")
  let lowerLimit ← optionalPriceOf env "lower limit" (field payload "lower_limit")
  let upperLimit ← optionalPriceOf env "upper limit" (field payload "upper_limit")
  let marketStatus ← enumOf env marketStatuses marketStatusValue "market status"
    (field payload "market_status")
  let sequence ← sequenceOf "quote sequence" (field payload "sequence")
  let sessionDate ← dateOf env "quote session date" (field payload "session_date")
  let eventTime ← datetimeOf env "quote event_time" (field payload "event_time")
  construct QuoteData.violation
    ⟨symbol, lastPrice, previousClose, bidPrice, askPrice, volume, turnover, lowerLimit, upperLimit,
      marketStatus, sequence, sessionDate, eventTime, receivedAt⟩

/-- `canonical["error_code"]`. -/
def errorCodeOf : LedgerValue → Except NormalizationError ℤ
  | .int n => .ok n
  | _ => .error (.domainTypeError "operational error code must be an integer")

/-- `_normalize_operational`. -/
def normalizeOperational (eventType : BrokerEventType) (payload : List (MappingKey × LedgerValue))
    (receivedAt : AwareDateTime) : Except NormalizationError BrokerOperationalFact :=
  if eventType = .disconnected then do
    let canonical ← schemaOf "broker disconnect" ["session_date", "event_time"] (.mapping payload)
    let sessionDate ← dateOf env "disconnect session date" (field canonical "session_date")
    let eventTime ← datetimeOf env "disconnect event time" (field canonical "event_time")
    construct OperationalData.violation
      ⟨eventType, none, none, none, none, sessionDate, eventTime, receivedAt⟩
  else do
    let canonical ← schemaOf "broker operational error"
      ["broker_order_id", "client_order_id", "error_code", "message_sha256", "session_date",
        "event_time"] (.mapping payload)
    let errorCode ← errorCodeOf (field canonical "error_code")
    let messageSha256 ← textOf "operational message digest" (field canonical "message_sha256")
    refuse (isSha256 messageSha256 = false)
      (.domainValidationError "operational message digest must be lowercase SHA-256")
    let brokerOrderId ← optionalTextOf "operational broker order id"
      (field canonical "broker_order_id")
    let clientOrderId ← optionalTextOf "operational client order id"
      (field canonical "client_order_id")
    let sessionDate ← dateOf env "operational session date" (field canonical "session_date")
    let eventTime ← datetimeOf env "operational event time" (field canonical "event_time")
    construct OperationalData.violation
      ⟨eventType, brokerOrderId, clientOrderId, errorCode, messageSha256, sessionDate, eventTime,
        receivedAt⟩

/-- The fact of a callback. -/
def normalizeFact (eventType : BrokerEventType) (payload : List (MappingKey × LedgerValue))
    (receivedAt : AwareDateTime) (digest : String) : Except NormalizationError EventFact :=
  match eventType with
  | .order => .order <$> normalizeOrder env payload receivedAt digest
  | .fill => .fill <$> normalizeFill env payload receivedAt digest
  | .quote => .quote <$> normalizeQuote env payload receivedAt
  | _ => .operational <$> normalizeOperational env eventType payload receivedAt

end Normalize

/-! ## The safe payload -/

/-- A text or `None`. -/
def optionalText : Option String → LedgerValue
  | some s => .text s
  | none => .none

/-- An optional price, rendered. -/
def optionalPrice (price : Option Codec.Price) : LedgerValue :=
  optionalText (price.map fun p => p.decimal.canonical)

/-- The members of `_safe_payload` that depend on the kind of the fact. -/
def factMembers : EventFact → List (MappingKey × LedgerValue)
  | .operational ⟨fact, _⟩ =>
    [(.text "broker_order_id", optionalText fact.brokerOrderId),
      (.text "client_order_id", optionalText fact.clientOrderId),
      (.text "error_code",
        match fact.errorCode with
        | some code => .int code
        | none => .none),
      (.text "message_sha256", optionalText fact.messageSha256)]
  | .order ⟨fact, _⟩ =>
    [(.text "broker_order_id", .text fact.brokerOrderId),
      (.text "client_order_id", optionalText fact.clientOrderId),
      (.text "symbol", .text fact.symbol.canonical),
      (.text "side", .text (Codec.sideValue fact.side)),
      (.text "price_type", .text (priceTypeValue fact.priceType)),
      (.text "status", .text (orderStatusValue fact.status)),
      (.text "requested_shares", .int fact.requestedShares),
      (.text "filled_shares", .int fact.filledShares),
      (.text "limit_price", .text fact.limitPrice.decimal.canonical)]
  | .fill ⟨fact, _⟩ =>
    [(.text "broker_fill_id", .text fact.brokerFillId),
      (.text "broker_order_id", .text fact.brokerOrderId),
      (.text "symbol", .text fact.symbol.canonical),
      (.text "side", .text (Codec.sideValue fact.side)),
      (.text "status", .text (fillStatusValue fact.status)),
      (.text "shares", .int fact.shares),
      (.text "price", .text fact.price.decimal.canonical),
      (.text "commission", .text fact.commission.decimal.canonical),
      (.text "stamp_duty", .text fact.stampDuty.decimal.canonical),
      (.text "transfer_fee", .text fact.transferFee.decimal.canonical)]
  | .quote ⟨fact, _⟩ =>
    [(.text "symbol", .text fact.symbol.canonical),
      (.text "last_price", optionalPrice fact.lastPrice),
      (.text "previous_close", optionalPrice fact.previousClose),
      (.text "bid_price", optionalPrice fact.bidPrice),
      (.text "ask_price", optionalPrice fact.askPrice),
      (.text "volume", .int fact.volume),
      (.text "turnover", .text fact.turnover.decimal.canonical),
      (.text "market_status", .text (marketStatusValue fact.marketStatus))]

/-- The members that `_safe_payload` adds to every fact. -/
def timeMembers (fact : EventFact) : List (MappingKey × LedgerValue) :=
  [(.text "session_date", .text fact.sessionDate.isoformat),
    (.text "event_time", .text fact.eventTime.isoformat),
    (.text "received_at", .text fact.receivedAt.isoformat)]

/-- `_safe_payload`. -/
def safePayload (fact : EventFact) : LedgerValue := .mapping (factMembers fact ++ timeMembers fact)

/-! ## Envelopes -/

/-- `BrokerEventEnvelope`. -/
structure BrokerEventEnvelope where
  brokerEventId : String
  eventType : BrokerEventType
  brokerSequence : ℕ
  sessionDate : CalendarDate
  eventTime : AwareDateTime
  receivedAt : AwareDateTime
  fact : EventFact
  safePayload : LedgerValue
  rawPayloadSha256 : String

/-- The envelope of a fact. -/
def envelopeOf (brokerEventId : String) (eventType : BrokerEventType) (received : AwareDateTime)
    (digest : String) (fact : EventFact) : BrokerEventEnvelope where
  brokerEventId := brokerEventId
  eventType := eventType
  brokerSequence := fact.sequence
  sessionDate := fact.sessionDate
  eventTime := fact.eventTime
  receivedAt := received
  fact := fact
  safePayload := safePayload fact
  rawPayloadSha256 := digest

/-- `normalize_broker_event`. -/
def normalizeBrokerEvent (env : NormalizationEnvironment) (raw receivedAt : LedgerValue) :
    Except NormalizationError BrokerEventEnvelope := do
  let wrapper ← schemaOf "broker callback" ["event_id", "event_type", "payload"] raw
  let brokerEventId ← textOf "broker event id" (field wrapper "event_id")
  let eventType ← enumOf env BrokerEventType.members BrokerEventType.value "broker event type"
    (field wrapper "event_type")
  let payload ← mappingOf "broker event payload" (field wrapper "payload")
  let received ← datetimeOf env "broker event received_at" receivedAt
  let digest ← canonicalRawPayloadSha256 env payload
  let fact ← normalizeFact env eventType payload received digest
  return envelopeOf brokerEventId eventType received digest fact

/-! ## The time of receipt -/

/-- The same record with other fields that its constructor does not check. -/
def Checked.update {α : Type} {violation : α → Option NormalizationError} (f : α → α)
    (hf : ∀ d, violation (f d) = violation d) (fact : Checked violation) : Checked violation :=
  ⟨f fact.1, (hf fact.1).trans fact.2⟩

lemma construct_update {α : Type} {violation : α → Option NormalizationError} {f : α → α}
    (hf : ∀ d, violation (f d) = violation d) (d : α) :
    Checked.update f hf <$> construct violation d = construct violation (f d) := by
  unfold construct
  split
  · next hnone =>
    split
    · rfl
    · next error herror =>
      have hsome : none = some error := hnone.symm.trans ((hf d).symm.trans herror)
      cases hsome
  · next error herror =>
    split
    · next hnone =>
      have hsome : some error = none := herror.symm.trans ((hf d).symm.trans hnone)
      cases hsome
    · next error' herror' =>
      have hsome : some error = some error' := herror.symm.trans ((hf d).symm.trans herror')
      cases hsome
      rfl

section Restamp

variable (t : AwareDateTime)

/-- The fields, received at another time. -/
def OrderData.restamp (d : OrderData) : OrderData := { d with receivedAt := t }

def FillData.restamp (d : FillData) : FillData := { d with receivedAt := t }

def QuoteData.restamp (d : QuoteData) : QuoteData := { d with receivedAt := t }

def OperationalData.restamp (d : OperationalData) : OperationalData := { d with receivedAt := t }

lemma OrderData.violation_restamp (d : OrderData) : (d.restamp t).violation = d.violation := rfl

lemma FillData.violation_restamp (d : FillData) : (d.restamp t).violation = d.violation := rfl

lemma QuoteData.violation_restamp (d : QuoteData) : (d.restamp t).violation = d.violation := rfl

lemma OperationalData.violation_restamp (d : OperationalData) :
    (d.restamp t).violation = d.violation := rfl

end Restamp

namespace EventFact

/-- The fact, received at another time. -/
def restamp (t : AwareDateTime) : EventFact → EventFact
  | order fact => order (fact.update _ (OrderData.violation_restamp t))
  | fill fact => fill (fact.update _ (FillData.violation_restamp t))
  | quote fact => quote (fact.update _ (QuoteData.violation_restamp t))
  | operational fact => operational (fact.update _ (OperationalData.violation_restamp t))

variable (t : AwareDateTime) (fact : EventFact)

@[simp] lemma restamp_sequence : (fact.restamp t).sequence = fact.sequence := by
  cases fact <;> rfl

@[simp] lemma restamp_sessionDate : (fact.restamp t).sessionDate = fact.sessionDate := by
  cases fact <;> rfl

@[simp] lemma restamp_eventTime : (fact.restamp t).eventTime = fact.eventTime := by
  cases fact <;> rfl

@[simp] lemma restamp_factMembers : factMembers (fact.restamp t) = factMembers fact := by
  cases fact <;> rfl

end EventFact

/-- The envelope, received at another time. -/
def BrokerEventEnvelope.restamp (t : AwareDateTime) (event : BrokerEventEnvelope) :
    BrokerEventEnvelope :=
  { event with
    receivedAt := t
    fact := event.fact.restamp t
    safePayload := Normalization.safePayload (event.fact.restamp t) }

variable {env : NormalizationEnvironment}

/-- A fact depends on the time of receipt in that field only. -/
lemma normalizeFact_restamp (eventType : BrokerEventType)
    (payload : List (MappingKey × LedgerValue)) (s t : AwareDateTime) (digest : String) :
    normalizeFact env eventType payload t digest =
      EventFact.restamp t <$> normalizeFact env eventType payload s digest := by
  have horder : normalizeOrder env payload t digest =
      Checked.update _ (OrderData.violation_restamp t) <$> normalizeOrder env payload s digest := by
    simp only [normalizeOrder, map_bind, construct_update, OrderData.restamp]
  have hfill : normalizeFill env payload t digest =
      Checked.update _ (FillData.violation_restamp t) <$> normalizeFill env payload s digest := by
    simp only [normalizeFill, map_bind, construct_update, FillData.restamp]
  have hquote : normalizeQuote env payload t =
      Checked.update _ (QuoteData.violation_restamp t) <$> normalizeQuote env payload s := by
    simp only [normalizeQuote, map_bind, construct_update, QuoteData.restamp]
  have hoperational : normalizeOperational env eventType payload t =
      Checked.update _ (OperationalData.violation_restamp t) <$>
        normalizeOperational env eventType payload s := by
    unfold normalizeOperational
    split <;> simp only [map_bind, construct_update, OperationalData.restamp]
  cases eventType with
  | order => simp only [normalizeFact, horder, Functor.map_map, EventFact.restamp]
  | fill => simp only [normalizeFact, hfill, Functor.map_map, EventFact.restamp]
  | quote => simp only [normalizeFact, hquote, Functor.map_map, EventFact.restamp]
  | orderError | cancelError
  | disconnected => simp only [normalizeFact, hoperational, Functor.map_map, EventFact.restamp]

lemma envelopeOf_restamp (brokerEventId : String) (eventType : BrokerEventType)
    (s t : AwareDateTime) (digest : String) (fact : EventFact) :
    envelopeOf brokerEventId eventType t digest (fact.restamp t) =
      (envelopeOf brokerEventId eventType s digest fact).restamp t := by
  simp only [envelopeOf, BrokerEventEnvelope.restamp, EventFact.restamp_sequence,
    EventFact.restamp_sessionDate, EventFact.restamp_eventTime]

/-- **Two deliveries.**  The same raw event at another reading of the clock gives the same envelope
but for the time of receipt. -/
theorem normalizeBrokerEvent_restamp (raw : LedgerValue) (s t : AwareDateTime) :
    normalizeBrokerEvent env raw (.datetime t) =
      BrokerEventEnvelope.restamp t <$> normalizeBrokerEvent env raw (.datetime s) := by
  have hreading : ∀ u : AwareDateTime,
      datetimeOf env "broker event received_at" (.datetime u) = pure u := fun _ => rfl
  unfold normalizeBrokerEvent
  simp only [hreading, pure_bind, map_bind, map_pure, normalizeFact_restamp _ _ s t, bind_map_left,
    envelopeOf_restamp _ _ s t]

/-- What was received at `s` is received again at `t`, and differs in that time only. -/
lemma normalizeBrokerEvent_again {raw : LedgerValue} {s : AwareDateTime}
    {first : BrokerEventEnvelope} (h : normalizeBrokerEvent env raw (.datetime s) = .ok first) :
    first.restamp s = first ∧
      ∀ t, normalizeBrokerEvent env raw (.datetime t) = .ok (first.restamp t) := by
  have hagain : ∀ t, normalizeBrokerEvent env raw (.datetime t) = .ok (first.restamp t) := by
    intro t
    rw [normalizeBrokerEvent_restamp raw s t, h]
    rfl
  exact ⟨Except.ok.inj ((hagain s).symm.trans h), hagain⟩

end Normalization

end FirmQuant
