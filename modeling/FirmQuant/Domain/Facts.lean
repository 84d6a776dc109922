import Mathlib.Algebra.Order.Ring.Star
import Mathlib.Data.Rat.Floor
import Mathlib.Data.Rat.Star
import Mathlib.Tactic.Common

/-!
# Values and broker facts

The value objects and the normalized broker facts of `domain/values.py`,
`domain/broker_facts.py` and `broker/gateway.py`.

Instants are microseconds since the epoch and durations are microseconds, as `datetime` and
`timedelta` count them; a date is a day number.  A `Decimal` is a rational number.  Values
whose constructor checks a condition carry it as a field, so that a fact that the source
would refuse to build does not exist here either.  A SHA-256 digest is modelled by what is
hashed (`Digest` names the hashed text), so that two digests agree exactly when the hashed
contents do.
-/

namespace FirmQuant

/-! ## Time -/

/-- An aware `datetime`, in microseconds since the epoch. -/
abbrev DateTime := ℤ

/-- A `timedelta`, in microseconds. -/
abbrev Duration := ℤ

/-- A calendar date, as the number of days since the epoch. -/
abbrev Date := ℤ

/-- One second, in microseconds. -/
def second : Duration := 1000000

/-- One minute, in microseconds. -/
def minute : Duration := 60 * second

/-- One hour, in microseconds. -/
def hour : Duration := 60 * minute

/-- One day, in microseconds. -/
def day : Duration := 24 * hour

lemma second_pos : 0 < second := by decide

lemma threeSeconds_pos : 0 < 3 * second := by decide

lemma fiveMinutes_pos : 0 < 300 * second := by decide

/-- `timedelta(seconds=n)`. -/
def seconds (n : ℕ) : Duration := n * second

lemma seconds_one : seconds 1 = second := one_mul _

lemma seconds_add (m n : ℕ) : seconds (m + n) = seconds m + seconds n := by
  unfold seconds
  push_cast
  ring

lemma seconds_le_seconds {m n : ℕ} (h : m ≤ n) : seconds m ≤ seconds n :=
  mul_le_mul_of_nonneg_right (by exact_mod_cast h) (by decide)

lemma seconds_nonneg (n : ℕ) : 0 ≤ seconds n := by
  simpa [seconds] using seconds_le_seconds n.zero_le

/-- `timedelta.total_seconds()`. -/
def totalSeconds (d : Duration) : ℚ := d / 1000000

lemma totalSeconds_mono {d e : Duration} (h : d ≤ e) : totalSeconds d ≤ totalSeconds e :=
  div_le_div_of_nonneg_right (by exact_mod_cast h) (by norm_num)

/-- The wall time of `Asia/Shanghai`, a fixed offset of eight hours. -/
def shanghai (t : DateTime) : ℤ := t + 8 * hour

/-- `t.astimezone(SHANGHAI).date()`. -/
def shanghaiDate (t : DateTime) : Date := shanghai t / day

/-- `datetime.combine(date, time, tzinfo=SHANGHAI)`, the time given as an offset from midnight. -/
def combineShanghai (date : Date) (time : Duration) : DateTime := date * day + time - 8 * hour

/-! ## Economic values -/

/-- A SHA-256 digest, named by the content that is hashed. -/
abbrev Digest := String

/-- The listing markets. -/
inductive Market
  | sh | sz | bj
  deriving DecidableEq, Repr

/-- An A-share symbol with an explicit listing market. -/
structure Symbol where
  market : Market
  code : String
  deriving DecidableEq, Repr

/-- The lower-case market name of a symbol and its code, `Symbol.canonical`. -/
def Symbol.canonical (symbol : Symbol) : String :=
  (match symbol.market with
    | .sh => "sh"
    | .sz => "sz"
    | .bj => "bj") ++ symbol.code

/-- A nonnegative amount in CNY. -/
structure Money where
  value : ℚ
  nonneg : 0 ≤ value
  deriving DecidableEq

/-- No money. -/
def Money.zero : Money := ⟨0, le_refl 0⟩

/-- A positive price. -/
structure Price where
  value : ℚ
  positive : 0 < value
  deriving DecidableEq

/-! The signs of the amounts and of the lots that the samples of this development share. -/

lemma cent_pos : (0 : ℚ) < 1 / 100 := by norm_num

lemma nine_pos : (0 : ℚ) < 9 := by norm_num

lemma ten_pos : (0 : ℚ) < 10 := by norm_num

lemma eleven_pos : (0 : ℚ) < 11 := by norm_num

lemma two_nonneg : (0 : ℚ) ≤ 2 := by norm_num

lemma five_nonneg : (0 : ℚ) ≤ 5 := by norm_num

lemma thousand_nonneg : (0 : ℚ) ≤ 1000 := by norm_num

lemma hundred_pos : 0 < 100 := by norm_num

lemma hundred_nonneg : 0 ≤ 100 := by norm_num

/-- The number of decimals of a price, at most eight.  A `Decimal` is taken without trailing
zeros, as `canonical` renders it. -/
def Price.decimalPlaces (p : Price) : ℕ :=
  ((List.range 9).find? fun n => (p.value * 10 ^ n).den = 1).getD 8

/-! ## Enumerations -/

/-- The account types. -/
inductive AccountType
  | cash | margin
  deriving DecidableEq, Repr

/-- The side of an order. -/
inductive Side
  | buy | sell
  deriving DecidableEq, Repr

/-- The price types; the system places protected limit orders only. -/
inductive PriceType
  | limit
  deriving DecidableEq, Repr

/-- The lifecycle statuses a broker reports for an order. -/
inductive BrokerOrderStatus
  | pendingNew | acknowledged | partiallyFilled | filled | pendingCancel
  | cancelled | rejected | expired | unknown
  deriving DecidableEq, Repr

/-- The statuses a broker reports for a fill. -/
inductive FillStatus
  | confirmed | reversed | unknown
  deriving DecidableEq, Repr

/-- The security types. -/
inductive SecurityType
  | equity | fund | index | unknown
  deriving DecidableEq, Repr

/-- The security statuses. -/
inductive SecurityStatus
  | trading | suspended | riskWarning | delisting | unknown
  deriving DecidableEq, Repr

/-- The phases of the market session. -/
inductive MarketSessionStatus
  | open | auction | break | closed | halted | unknown
  deriving DecidableEq, Repr

/-- The deployment modes. -/
inductive Mode
  | replay | paper | shadow | canary | live
  deriving DecidableEq, Repr

/-- The runtime states. -/
inductive RuntimeState
  | disarmed | starting | reconciling | ready | executing | degraded | halted | stopping
  deriving DecidableEq, Repr

/-! ## Broker facts -/

/-- The account as the broker reports it. -/
structure BrokerAccountFact where
  accountIdHash : String
  accountType : AccountType
  availableCash : Money
  totalAssets : Money
  cash_le_assets : availableCash.value ≤ totalAssets.value
  deriving DecidableEq

/-- One position as the broker reports it. -/
structure BrokerPositionFact where
  symbol : Symbol
  totalShares : ℕ
  sellableShares : ℕ
  averageCost : Option Price
  marketValue : Money
  sellable_le_total : sellableShares ≤ totalShares
  deriving DecidableEq

/-- The trading rules of one instrument. -/
@[ext] structure InstrumentFact where
  symbol : Symbol
  securityType : SecurityType
  status : SecurityStatus
  tradingUnit : ℕ
  priceTick : Price
  pricePrecision : ℕ
  lowerLimit : Option Price
  upperLimit : Option Price
  sessionDate : Date
  observedAt : DateTime
  unit_pos : 0 < tradingUnit

instance : DecidableEq InstrumentFact := fun _ _ => decidable_of_iff _ InstrumentFact.ext_iff.symm

/-- One quote. -/
structure QuoteFact where
  symbol : Symbol
  lastPrice : Option Price
  previousClose : Option Price
  bidPrice : Option Price
  askPrice : Option Price
  volume : ℕ
  turnover : Money
  lowerLimit : Option Price
  upperLimit : Option Price
  marketStatus : MarketSessionStatus
  sequence : ℕ
  sessionDate : Date
  eventTime : DateTime
  receivedAt : DateTime
  deriving DecidableEq

/-- One order as the broker reports it. -/
@[ext] structure BrokerOrderFact where
  brokerOrderId : String
  clientOrderId : Option String
  symbol : Symbol
  side : Side
  priceType : PriceType
  status : BrokerOrderStatus
  requestedShares : ℕ
  filledShares : ℕ
  limitPrice : Price
  sessionDate : Date
  eventTime : DateTime
  receivedAt : DateTime
  eventSequence : ℕ
  rawPayloadSha256 : Digest
  requested_pos : 0 < requestedShares
  filled_le_requested : filledShares ≤ requestedShares

instance : DecidableEq BrokerOrderFact := fun _ _ => decidable_of_iff _ BrokerOrderFact.ext_iff.symm

/-- One fill as the broker reports it. -/
@[ext] structure BrokerFillFact where
  brokerFillId : String
  brokerOrderId : String
  symbol : Symbol
  side : Side
  status : FillStatus
  shares : ℕ
  price : Price
  commission : Money
  stampDuty : Money
  transferFee : Money
  sessionDate : Date
  eventTime : DateTime
  receivedAt : DateTime
  eventSequence : ℕ
  rawPayloadSha256 : Digest
  shares_pos : 0 < shares

instance : DecidableEq BrokerFillFact := fun _ _ => decidable_of_iff _ BrokerFillFact.ext_iff.symm

/-- The connection health the broker adapter observed. -/
structure BrokerHealth where
  connected : Bool
  readHealthy : Bool
  writeHealthy : Bool
  observedAt : DateTime
  disconnected_unhealthy : connected = false → readHealthy = false ∧ writeHealthy = false
  write_needs_read : writeHealthy = true → readHealthy = true
  deriving DecidableEq

lemma BrokerHealth.up {r w : Bool} (h : true = false) : r = false ∧ w = false := nomatch h

end FirmQuant
