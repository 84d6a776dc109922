import FirmQuant.Domain.Orders
import FirmQuant.Domain.Text
import FirmQuant.Persistence.DecimalText

/-!
# The stored text of an order aggregate

`_aggregate_payload` and `_aggregate_from_json` of `persistence/repositories.py`, over the records
of `domain/orders.py` with the texts that they hold.

The decoder converts what it finds with `str`, `int`, `bool`, `date.fromisoformat` and `Decimal` and
then compares the text with the encoding of its result.  What these conversions do with values that
the encoder never writes is left open (`CodecEnvironment`), and so is the digest.
-/

namespace FirmQuant

open Effect

namespace Codec

/-- The exceptions of the decoder. -/
inductive CodecError
  | keyError (key : String)
  /-- `TypeError`, and `DomainTypeError` with it. -/
  | typeError (message : String)
  /-- `ValueError`, and `JSONDecodeError` and `DomainValidationError` with it. -/
  | valueError (message : String)
  /-- `InvalidOperation` and `OverflowError`, which are no `ValueError`. -/
  | arithmeticError
  | ledger (error : LedgerError)
  deriving DecidableEq

/-- The digest, and what conversions do with values that the encoder does not write. -/
structure CodecEnvironment where
  /-- `sha256(text.encode("utf-8")).hexdigest()`. -/
  sha256 : String → String
  /-- `str` of a float, a list or a dictionary. -/
  strOther : Json → String
  /-- `int` of a text or a float. -/
  intOther : Json → Except CodecError ℤ
  /-- `bool` of a float. -/
  truthOther : String → Bool
  /-- `date.fromisoformat` of a text in another form than `isoformat` writes. -/
  dateOther : String → Except CodecError CalendarDate
  /-- `Decimal` of a text that is not digits with a point or without.  `none` is an infinity or no
  number. -/
  decimalOther : String → Except CodecError (Option DecimalTuple)

variable (env : CodecEnvironment)

/-! ## Conversions -/

/-- `str(value)`.  An integer that was read has few enough digits. -/
def str : Json → String
  | .str s => s
  | .null => "None"
  | .bool true => "True"
  | .bool false => "False"
  | .int n => String.ofList (Json.printInt n)
  | v => env.strOther v

/-- `int(value)`. -/
def int : Json → Except CodecError ℤ
  | .int n => .ok n
  | .bool b => .ok (if b then 1 else 0)
  | .null => .error (.typeError "int() argument must be a number, not 'NoneType'")
  | .arr _ => .error (.typeError "int() argument must be a number, not 'list'")
  | .obj _ => .error (.typeError "int() argument must be a number, not 'dict'")
  | v => env.intOther v

/-- `bool(value)`. -/
def truth : Json → Bool
  | .null => false
  | .bool b => b
  | .int n => n ≠ 0
  | .float text => env.truthOther text
  | .str s => s ≠ ""
  | .arr items => !items.isEmpty
  | .obj members => !members.isEmpty

/-- `date.fromisoformat(text)`. -/
def dateOf (text : String) : Except CodecError CalendarDate :=
  match CalendarDate.fromIsoformat text with
  | some d => .ok d
  | none => env.dateOther text

/-- `Decimal(text)`. -/
def decimalOf (text : String) : Except CodecError (Option DecimalTuple) :=
  match DecimalTuple.ofPlain text.toList with
  | some d => .ok (some d)
  | none => env.decimalOther text

/-! ## Values -/

/-- A `Symbol`, whose code is six digits. -/
structure Symbol extends FirmQuant.Symbol where
  valid : isBareSymbol code.toList = true
  deriving DecidableEq

/-- `Symbol.parse`. -/
def Symbol.parse (raw : String) : Except CodecError Symbol :=
  match FirmQuant.Symbol.parse raw with
  | some symbol =>
    if h : isBareSymbol symbol.code.toList = true then .ok ⟨symbol, h⟩
    else .error (.valueError "invalid A-share symbol code")
  | none => .error (.valueError "invalid A-share symbol")

/-- The check of `_validate_decimal` that a price fails, as its message. -/
def priceViolation : Option DecimalTuple → Option String
  | none => some "price must be finite"
  | some d =>
    if d.negative ∨ d.coefficient = 0 then some "price must be positive"
    else if 8 < d.decimalPlaces then some "price exceeds 8 decimal places"
    else if 20 < d.integerDigits then some "price exceeds 20 integer digits"
    else none

/-- A `Price`. -/
structure Price where
  decimal : DecimalTuple
  valid : priceViolation (some decimal) = none
  deriving DecidableEq

/-- The constructor of `Price`. -/
def Price.build (value : Option DecimalTuple) : Except CodecError Price :=
  match value with
  | none => .error (.valueError "price must be finite")
  | some d =>
    match h : priceViolation (some d) with
    | none => .ok ⟨d, h⟩
    | some message => .error (.valueError message)

/-- The constructor of `Shares`. -/
def shares (value : ℤ) : Except CodecError ℕ :=
  if value < 0 then .error (.valueError "shares must be nonnegative") else .ok value.toNat

/-- `Side.value`. -/
def sideValue : Side → String
  | .buy => "BUY"
  | .sell => "SELL"

/-- `Side(text)`. -/
def sideOf (text : String) : Except CodecError Side :=
  if text = "BUY" then .ok .buy
  else if text = "SELL" then .ok .sell
  else .error (.valueError (text ++ " is not a valid Side"))

/-- `OrderState.value`. -/
def stateValue : OrderState → String
  | .planned => "PLANNED"
  | .validated => "VALIDATED"
  | .armed => "ARMED"
  | .submitting => "SUBMITTING"
  | .acknowledged => "ACKNOWLEDGED"
  | .partiallyFilled => "PARTIALLY_FILLED"
  | .filled => "FILLED"
  | .cancelRequested => "CANCEL_REQUESTED"
  | .cancelled => "CANCELLED"
  | .rejected => "REJECTED"
  | .expired => "EXPIRED"
  | .unknown => "UNKNOWN"

/-- The members of `OrderState`. -/
def orderStates : List OrderState :=
  [.planned, .validated, .armed, .submitting, .acknowledged, .partiallyFilled, .filled,
    .cancelRequested, .cancelled, .rejected, .expired, .unknown]

/-- `OrderState(text)`. -/
def stateOf (text : String) : Except CodecError OrderState :=
  match orderStates.find? (stateValue · = text) with
  | some state => .ok state
  | none => .error (.valueError (text ++ " is not a valid OrderState"))

/-! ## Intents -/

/-- The fields of an `ExecutionIntent`. -/
structure IntentData where
  executionId : String
  idempotencyKey : String
  decisionId : String
  uquantOrderId : String
  symbol : Symbol
  side : Side
  requestedShares : ℕ
  strategySession : CalendarDate
  uquantSourceSha : String
  deriving DecidableEq

/-- Four hexadecimal digits. -/
def hexFour (n : ℕ) : List Char :=
  [Json.hexDigit (n / 4096 % 16), Json.hexDigit (n / 256 % 16), Json.hexDigit (n / 16 % 16),
    Json.hexDigit (n % 16)]

/-- A character as `ensure_ascii` leaves it. -/
def asciiCharacter (c : Char) : List Char :=
  if c.toNat < 127 then [c]
  else if c.toNat < 0x10000 then '\\' :: 'u' :: hexFour c.toNat
  else
    '\\' :: 'u' :: (hexFour (0xd800 + (c.toNat - 0x10000) / 0x400) ++
      '\\' :: 'u' :: hexFour (0xdc00 + (c.toNat - 0x10000) % 0x400))

/-- `json.dumps` with sorted keys and `ensure_ascii`. -/
def asciiJson (v : Json) : String := String.ofList (v.dumps.toList.flatMap asciiCharacter)

namespace IntentData

/-- What `_intent_hashes` hashes. -/
def encoded (d : IntentData) : String :=
  asciiJson (.obj [("schema", .str "firmquant.execution-intent.v1"),
    ("decision_id", .str d.decisionId), ("uquant_order_id", .str d.uquantOrderId),
    ("symbol", .str d.symbol.canonical), ("side", .str (sideValue d.side)),
    ("requested_shares", .int d.requestedShares),
    ("strategy_session", .str d.strategySession.isoformat),
    ("uquant_source_sha", .str d.uquantSourceSha)])

/-- The check of `ExecutionIntent.__post_init__` that the fields fail, as its message. -/
def violation (d : IntentData) : Option String :=
  (idViolation "decision id" d.decisionId).or <|
  (idViolation "uquant order id" d.uquantOrderId).or <|
  if d.requestedShares = 0 then some "execution intent requested shares must be positive"
  else if isGitSha d.uquantSourceSha = false then
    some "uquant source SHA must be a 40-character Git SHA"
  else if Json.maxStrDigits < (Nat.toDigits 10 d.requestedShares).length then
    some "Exceeds the limit (4300 digits) for integer string conversion"
  else if d.executionId ≠ "exec_" ++ env.sha256 ("firmquant.execution.v1\x00" ++ d.encoded) then
    some "execution id does not match economic intent"
  else if d.idempotencyKey ≠ env.sha256 d.encoded then
    some "idempotency key does not match economic intent"
  else none

end IntentData

/-- An `ExecutionIntent`. -/
structure ExecutionIntent extends IntentData where
  valid : toIntentData.violation env = none
  deriving DecidableEq

/-- The constructor of `ExecutionIntent`. -/
def ExecutionIntent.build (d : IntentData) : Except CodecError (ExecutionIntent env) :=
  match h : d.violation env with
  | none => .ok ⟨d, h⟩
  | some message => .error (.valueError message)

/-! ## Fills and events -/

/-- The fields of an `AppliedFill`. -/
structure FillData where
  brokerFillId : String
  brokerOrderId : String
  shares : ℕ
  price : Price
  deriving DecidableEq

/-- The check of `AppliedFill.__post_init__` that the fields fail, as its message. -/
def FillData.violation (d : FillData) : Option String :=
  (idViolation "applied broker fill id" d.brokerFillId).or <|
  (idViolation "applied broker order id" d.brokerOrderId).or <|
  if d.shares = 0 then some "applied fill shares must be positive Shares" else none

/-- An `AppliedFill`. -/
structure AppliedFill extends FillData where
  valid : toFillData.violation = none
  deriving DecidableEq

/-- The constructor of `AppliedFill`. -/
def AppliedFill.build (d : FillData) : Except CodecError AppliedFill :=
  match h : d.violation with
  | none => .ok ⟨d, h⟩
  | some message => .error (.valueError message)

/-- The fields of an `AppliedEventIdentity`. -/
structure EventIdentityData where
  eventId : String
  fingerprint : String
  deriving DecidableEq

/-- The check of `AppliedEventIdentity.__post_init__` that the fields fail, as its message. -/
def EventIdentityData.violation (d : EventIdentityData) : Option String :=
  (idViolation "applied event id" d.eventId).or <|
  if isSha256 d.fingerprint = false then some "applied event fingerprint must be SHA-256" else none

/-- An `AppliedEventIdentity`. -/
structure AppliedEventIdentity extends EventIdentityData where
  valid : toEventIdentityData.violation = none
  deriving DecidableEq

/-- The constructor of `AppliedEventIdentity`. -/
def AppliedEventIdentity.build (d : EventIdentityData) : Except CodecError AppliedEventIdentity :=
  match h : d.violation with
  | none => .ok ⟨d, h⟩
  | some message => .error (.valueError message)

/-! ## Aggregates -/

/-- The fields of an `OrderAggregate`. -/
structure AggregateData where
  intent : ExecutionIntent env
  state : OrderState
  brokerOrderId : Option String
  filledShares : ℕ
  fills : List AppliedFill
  appliedEvents : List AppliedEventIdentity
  submitAttempts : ℤ
  cancelRequests : ℤ
  lateFillInvestigationRequired : Bool
  anomalies : List String
  version : ℤ
  deriving DecidableEq

variable {env}

/-- The check of `OrderAggregate.__post_init__` that the fields fail. -/
def AggregateData.violation (d : AggregateData env) : Option CodecError :=
  ((d.brokerOrderId.bind (idViolation "aggregate broker order id")).map .valueError).or <|
  if (d.fills.map (·.shares)).sum ≠ d.filledShares then
    some (.valueError "aggregate filled shares do not match retained fills")
  else if ¬ (d.fills.map (·.brokerFillId)).Nodup then
    some (.valueError "aggregate contains duplicate broker fill ids")
  else if ¬ (d.appliedEvents.map (·.eventId)).Nodup then
    some (.valueError "aggregate contains duplicate event ids")
  else if d.submitAttempts < 0 then some (.valueError "submit attempts must be nonnegative")
  else if d.cancelRequests < 0 then some (.valueError "cancel requests must be nonnegative")
  else if d.version < 0 then some (.valueError "aggregate version must be nonnegative")
  else if "" ∈ d.anomalies then
    some (.typeError "aggregate anomalies must be a non-empty string tuple")
  else if ¬ d.anomalies.Nodup then some (.valueError "aggregate anomalies must be unique")
  else if d.intent.requestedShares < d.filledShares then
    some (.valueError "aggregate filled shares exceed requested shares")
  else if d.state = .filled ∧ d.filledShares ≠ d.intent.requestedShares then
    some (.valueError "FILLED order must equal requested shares")
  else if d.state = .partiallyFilled ∧
      ¬ (0 < d.filledShares ∧ d.filledShares < d.intent.requestedShares) then
    some (.valueError "PARTIALLY_FILLED order has invalid cumulative shares")
  else none

variable (env) in
/-- An `OrderAggregate`. -/
structure OrderAggregate extends AggregateData env where
  valid : toAggregateData.violation = none
  deriving DecidableEq

/-- The constructor of `OrderAggregate`. -/
def OrderAggregate.build (d : AggregateData env) : Except CodecError (OrderAggregate env) :=
  match h : d.violation with
  | none => .ok ⟨d, h⟩
  | some e => .error e

/-! ## Encoding -/

/-- The object of an intent. -/
def IntentData.payload (d : IntentData) : LedgerValue :=
  .mapping [(.text "execution_id", .text d.executionId),
    (.text "idempotency_key", .text d.idempotencyKey),
    (.text "decision_id", .text d.decisionId),
    (.text "uquant_order_id", .text d.uquantOrderId),
    (.text "symbol", .symbol d.symbol.toSymbol),
    (.text "side", .strEnum (sideValue d.side)),
    (.text "requested_shares", .shares d.requestedShares),
    (.text "strategy_session", .date d.strategySession),
    (.text "uquant_source_sha", .text d.uquantSourceSha)]

/-- The object of a fill. -/
def FillData.payload (d : FillData) : LedgerValue :=
  .mapping [(.text "broker_fill_id", .text d.brokerFillId),
    (.text "broker_order_id", .text d.brokerOrderId),
    (.text "shares", .shares d.shares),
    (.text "price", .price d.price.decimal)]

/-- The object of an event identity. -/
def EventIdentityData.payload (d : EventIdentityData) : LedgerValue :=
  .mapping [(.text "event_id", .text d.eventId), (.text "fingerprint", .text d.fingerprint)]

/-- A text or `None`. -/
def optionalValue : Option String → LedgerValue
  | some s => .text s
  | none => .none

/-- `_aggregate_payload`. -/
def aggregatePayload (aggregate : OrderAggregate env) : LedgerValue :=
  .mapping [(.text "schema", .text "firmquant.order-aggregate.v1"),
    (.text "intent", aggregate.intent.payload),
    (.text "state", .strEnum (stateValue aggregate.state)),
    (.text "broker_order_id", optionalValue aggregate.brokerOrderId),
    (.text "filled_shares", .shares aggregate.filledShares),
    (.text "fills", .list (aggregate.fills.map (·.payload))),
    (.text "applied_events", .list (aggregate.appliedEvents.map (·.payload))),
    (.text "submit_attempts", .int aggregate.submitAttempts),
    (.text "cancel_requests", .int aggregate.cancelRequests),
    (.text "late_fill_investigation_required", .bool aggregate.lateFillInvestigationRequired),
    (.text "anomalies", .tuple (aggregate.anomalies.map .text)),
    (.text "version", .int aggregate.version)]

/-! ## Decoding -/

/-- `json.loads` without hooks: the last of two equal keys counts, and `NaN` is a float. -/
def hooks : Json.ParseHooks CodecError where
  pairs members :=
    .ok (members.foldl (fun object m => LedgerValue.insertMember m.1 m.2 object) [])
  constant value := .ok (.float value)
  malformed := .valueError "the text is not JSON"
  overlong := .valueError "Exceeds the limit (4300 digits) for integer string conversion"

/-- `raw[key]`. -/
def field (key : String) (raw : List (String × Json)) : Except CodecError Json :=
  match (Json.obj raw).get? key with
  | some v => .ok v
  | none => .error (.keyError key)

variable (env) in
/-- `str(raw[key])`. -/
def textField (key : String) (raw : List (String × Json)) : Except CodecError String := do
  let v ← field key raw
  return str env v

variable (env) in
/-- `int(raw[key])`. -/
def intField (key : String) (raw : List (String × Json)) : Except CodecError ℤ := do
  let v ← field key raw
  int env v

variable (env) in
/-- `Shares(int(raw[key]))`. -/
def sharesField (key : String) (raw : List (String × Json)) : Except CodecError ℕ := do
  let n ← intField env key raw
  shares n

/-- The members of an object. -/
def members? : Json → Option (List (String × Json))
  | .obj members => some members
  | _ => none

/-- The items of an array. -/
def items (message : String) : Json → Except CodecError (List Json)
  | .arr values => .ok values
  | _ => .error (.typeError message)

/-- The tuple of the objects of an array, which must be all of its items. -/
def retained {α : Type} (message : String) (read : List (String × Json) → Except CodecError α)
    (values : List Json) : Except CodecError (List α) := do
  let records ← (values.filterMap members?).mapM read
  refuse (records.length ≠ values.length) (.typeError message)
  return records

variable (env)

/-- The intent of the aggregate. -/
def intentFromRaw (raw : List (String × Json)) : Except CodecError (ExecutionIntent env) := do
  let executionId ← textField env "execution_id" raw
  let idempotencyKey ← textField env "idempotency_key" raw
  let decisionId ← textField env "decision_id" raw
  let uquantOrderId ← textField env "uquant_order_id" raw
  let symbolText ← textField env "symbol" raw
  let symbol ← Symbol.parse symbolText
  let sideText ← textField env "side" raw
  let side ← sideOf sideText
  let requestedShares ← sharesField env "requested_shares" raw
  let sessionText ← textField env "strategy_session" raw
  let strategySession ← dateOf env sessionText
  let uquantSourceSha ← textField env "uquant_source_sha" raw
  ExecutionIntent.build env
    { executionId := executionId, idempotencyKey := idempotencyKey, decisionId := decisionId,
      uquantOrderId := uquantOrderId, symbol := symbol, side := side,
      requestedShares := requestedShares, strategySession := strategySession,
      uquantSourceSha := uquantSourceSha }

/-- A fill of the aggregate. -/
def fillFromRaw (raw : List (String × Json)) : Except CodecError AppliedFill := do
  let brokerFillId ← textField env "broker_fill_id" raw
  let brokerOrderId ← textField env "broker_order_id" raw
  let fillShares ← sharesField env "shares" raw
  let priceText ← textField env "price" raw
  let decimal ← decimalOf env priceText
  let price ← Price.build decimal
  AppliedFill.build ⟨brokerFillId, brokerOrderId, fillShares, price⟩

/-- An event identity of the aggregate. -/
def eventFromRaw (raw : List (String × Json)) : Except CodecError AppliedEventIdentity := do
  let eventId ← textField env "event_id" raw
  let fingerprint ← textField env "fingerprint" raw
  AppliedEventIdentity.build ⟨eventId, fingerprint⟩

/-- `None if raw["broker_order_id"] is None else str(raw["broker_order_id"])`. -/
def optionalText : Json → Option String
  | .null => none
  | v => some (str env v)

/-- The aggregate of an object. -/
def aggregateFromRaw (raw : List (String × Json)) : Except CodecError (OrderAggregate env) := do
  let intentRaw ← field "intent" raw
  let intentMembers ← ((members? intentRaw).elim
    (.error (.typeError "aggregate intent is not an object")) .ok)
  let intent ← intentFromRaw env intentMembers
  let fillsRaw ← field "fills" raw
  let eventsRaw ← field "applied_events" raw
  let anomaliesRaw ← field "anomalies" raw
  let fillItems ← items "aggregate retained evidence must be arrays" fillsRaw
  let eventItems ← items "aggregate retained evidence must be arrays" eventsRaw
  let anomalyItems ← items "aggregate anomalies must be an array" anomaliesRaw
  let fills ← retained "aggregate fill item is not an object" (fillFromRaw env) fillItems
  let events ← retained "aggregate event identity is not an object" (eventFromRaw env) eventItems
  let stateText ← textField env "state" raw
  let state ← stateOf stateText
  let brokerRaw ← field "broker_order_id" raw
  let filledShares ← sharesField env "filled_shares" raw
  let submitAttempts ← intField env "submit_attempts" raw
  let cancelRequests ← intField env "cancel_requests" raw
  let lateRaw ← field "late_fill_investigation_required" raw
  let version ← intField env "version" raw
  OrderAggregate.build
    { intent := intent, state := state, brokerOrderId := optionalText env brokerRaw,
      filledShares := filledShares, fills := fills, appliedEvents := events,
      submitAttempts := submitAttempts, cancelRequests := cancelRequests,
      lateFillInvestigationRequired := truth env lateRaw,
      anomalies := anomalyItems.map (str env), version := version }

/-- `isinstance(raw, dict)` and `raw.get("schema") == "firmquant.order-aggregate.v1"`. -/
def hasSchema (v : Json) : Bool :=
  match v.get? "schema" with
  | some (.str s) => s = "firmquant.order-aggregate.v1"
  | _ => false

/-- The part of `_aggregate_from_json` in its `try`. -/
def readAggregate (payloadJson : String) : Except CodecError (OrderAggregate env) := do
  let v ← Json.loads hooks payloadJson
  refuse (hasSchema v = false) (.valueError "aggregate schema is invalid")
  aggregateFromRaw env ((members? v).getD [])

/-- `except (KeyError, TypeError, ValueError)`. -/
def handled : CodecError → CodecError
  | .keyError _ | .typeError _ | .valueError _ =>
    .ledger (.persistenceConflict "stored execution aggregate is malformed")
  | e => e

/-- `_aggregate_from_json`. -/
def aggregateFromJson (payloadJson : String) : Except CodecError (OrderAggregate env) := do
  let aggregate ← (readAggregate env payloadJson).mapError handled
  let canonical ← (canonicalJson (aggregatePayload aggregate)).mapError .ledger
  refuse (canonical ≠ payloadJson)
    (.ledger (.persistenceConflict "stored execution aggregate is not canonical"))
  return aggregate

end Codec

end FirmQuant
