import FirmQuant.Persistence.AccountBinding
import FirmQuant.Risk.Capability

/-!
# Write scopes

The authorization scope of `broker/gateway.py`, the two writes of `broker/xtquant_production.py`
that look at it, and `BrokerWriteCapability` of `risk/capability.py`, which opens it.

The scope is a flag of the running context.  Everything that is not modelled here, the SDK above
all, is a program of the same monad, so that it may make calls of its own wherever it is called. 
The trace records what is asked for, what is authorized and what reaches the SDK; no program reads
it.
-/

namespace FirmQuant

open Effect

/-- What a program raises: an exception that `except Exception` catches, or an interrupt that it
does not catch. -/
inductive Raised
  | exception (e : Failure)
  | interrupt
  deriving DecidableEq, Repr

/-- What happens at the boundary of the broker.  A call is named by its number. -/
inductive WriteEntry
  /-- A write is requested of the write capability. -/
  | requested (call : ℕ) (operation : WriteOperation) (subject : WriteSubject)
  /-- A write is requested of the broker itself. -/
  | requestedDirectly (call : ℕ)
  /-- The cancel-only capability begins a sweep. -/
  | sweepStarted (call : ℕ)
  | contextBuilt (call : ℕ) (context : WriteAuthorizationContext)
  /-- `authorize` returned, with the arm service that verified the lease. -/
  | authorized (call : ℕ) (armService : ArmService) (context : WriteAuthorizationContext)
  | scopeOpened
  | scopeClosed
  | orderStock (call : ℕ) (command : BrokerOrderCommand)
  | cancelOrderStock (call : ℕ) (orderId : ℕ)

/-- What lies outside the running context: the databases and everything else. -/
structure Store (ε : Type) where
  environment : ε
  ledger : Ledger
  binding : Option AccountBinding

/-- The state of the running context. -/
structure WriteWorld (ε : Type) where
  store : Store ε
  /-- `_WRITE_AUTHORIZED`. -/
  writeAuthorized : Bool
  /-- The number of calls so far. -/
  calls : ℕ
  trace : List WriteEntry

/-- A program of the running context. -/
abbrev WriteM (ε : Type) := EStateM Raised (WriteWorld ε)

namespace WriteM

variable {ε α : Type}

/-- A step that leaves the context alone. -/
def outside (x : EStateM Raised (Store ε) α) : WriteM ε α := fun w =>
  match x w.store with
  | .ok a store => .ok a { w with store := store }
  | .error e store => .error e { w with store := store }

def raise (e : Failure) : WriteM ε α := throw (.exception e)

/-- A computation that may raise an exception. -/
def lift : Except Failure α → WriteM ε α
  | .ok a => pure a
  | .error e => raise e

/-- `except Exception`. -/
def catching (x : WriteM ε α) (handler : Failure → WriteM ε α) : WriteM ε α :=
  tryCatch x fun
    | .exception e => handler e
    | .interrupt => throw .interrupt

def log (entry : WriteEntry) : WriteM ε PUnit :=
  modify fun w => { w with trace := w.trace ++ [entry] }

/-- The number of a new call. -/
def newCall : WriteM ε ℕ := do
  let w ← get
  set { w with calls := w.calls + 1 }
  return w.calls

/-- `_WRITE_AUTHORIZED.set(True)`. -/
def openScope : WriteM ε PUnit :=
  modify fun w => { w with writeAuthorized := true, trace := w.trace ++ [.scopeOpened] }

/-- `_WRITE_AUTHORIZED.reset(token)`. -/
def closeScope (token : Bool) : WriteM ε PUnit :=
  modify fun w => { w with writeAuthorized := token, trace := w.trace ++ [.scopeClosed] }

/-- `with _broker_write_authorization_scope()`. -/
def scope (x : WriteM ε α) : WriteM ε α := do
  let w ← get
  openScope
  let a ← tryCatch x fun e => do
    closeScope w.writeAuthorized
    throw e
  closeScope w.writeAuthorized
  return a

end WriteM

open WriteM

/-! ## The broker -/

/-- What `ProductionXtQuantBroker` asks of its SDK; `ρ` is an order as the SDK reports it. -/
inductive SdkRequest (ρ : Type) : Type → Type
  | constants : SdkRequest ρ PUnit
  /-- `order_stock`, with the remark; an answer that is no integer is `none`. -/
  | orderStock (command : BrokerOrderCommand) (remark : String) : SdkRequest ρ (Option ℤ)
  | cancelOrderStock (orderId : ℕ) : SdkRequest ρ (Option ℤ)
  | queryStockOrder (orderId : ℕ) : SdkRequest ρ (Option ρ)
  /-- `_order(raw, observed_at=self._now())`. -/
  | order (raw : ρ) : SdkRequest ρ BrokerOrderFact

/-- A `ProductionXtQuantBroker`. -/
structure ProductionXtQuantBroker (ε ρ : Type) where
  requireConnected : EStateM Raised (Store ε) PUnit
  /-- `_sdk_price`, as far as it may raise. -/
  sdkPrice : BrokerOrderCommand → Except Failure Unit
  clientOrderTag : String → Except Failure String
  sdk : {α : Type} → SdkRequest ρ α → WriteM ε α

namespace ProductionXtQuantBroker

variable {ε ρ : Type} (broker : ProductionXtQuantBroker ε ρ)

def outcomeUnknown {α : Type} : WriteM ε α := raise (.brokerError "BrokerWriteOutcomeUnknown")

/-- The order that the SDK reports under an id after a write. -/
def confirmation (orderId : ℕ) : WriteM ε BrokerOrderFact := do
  let raw ← catching (broker.sdk (.queryStockOrder orderId)) fun _ => outcomeUnknown
  match raw with
  | none => outcomeUnknown
  | some raw => catching (broker.sdk (.order raw)) fun _ => outcomeUnknown

/-- `submit_order`, on behalf of a call. -/
def submitOrder (call : ℕ) (command : BrokerOrderCommand) : WriteM ε BrokerOrderFact := do
  outside broker.requireConnected
  let w ← get
  if w.writeAuthorized = false then raise .brokerWriteForbidden
  else do
    broker.sdk .constants
    let remark ← lift (broker.clientOrderTag command.clientOrderId)
    let orderId ← catching (do
      lift (broker.sdkPrice command)
      log (.orderStock call command)
      broker.sdk (.orderStock command remark)) fun _ => outcomeUnknown
    match orderId with
    | none => outcomeUnknown
    | some orderId =>
      if orderId ≤ 0 then raise .brokerWriteNotAccepted
      else do
        let fact ← broker.confirmation orderId.toNat
        if fact.brokerOrderId ≠ toString orderId ∨ fact.clientOrderId ≠ some remark then
          outcomeUnknown
        else return fact

/-- The positive integer that a broker order id must be. -/
def orderNumber (text : String) : Option ℕ :=
  let number := Nat.ofDigitChars 10 text.toList 0
  if text.length ≤ 32 ∧ text.toList.all Char.isDigit = true ∧ 0 < number then some number else none

/-- `cancel_order`, on behalf of a call. -/
def cancelOrder (call : ℕ) (brokerOrderId : String) : WriteM ε BrokerOrderFact := do
  outside broker.requireConnected
  let w ← get
  if w.writeAuthorized = false then raise .brokerWriteForbidden
  else
    match orderNumber brokerOrderId with
    | none => raise (.brokerError "BrokerSchemaMismatch")
    | some orderId => do
      let result ← catching (do
        log (.cancelOrderStock call orderId)
        broker.sdk (.cancelOrderStock orderId)) fun _ => outcomeUnknown
      match result with
      | none => outcomeUnknown
      | some result =>
        if result ≠ 0 then raise .brokerWriteNotAccepted
        else broker.confirmation orderId

/-- `submit_order` where somebody calls it without the capability. -/
def submitDirectly (command : BrokerOrderCommand) : WriteM ε BrokerOrderFact := do
  let call ← newCall
  log (.requestedDirectly call)
  broker.submitOrder call command

/-- `cancel_order` where somebody calls it without the capability. -/
def cancelDirectly (brokerOrderId : String) : WriteM ε BrokerOrderFact := do
  let call ← newCall
  log (.requestedDirectly call)
  broker.cancelOrder call brokerOrderId

end ProductionXtQuantBroker

/-! ## The write capability -/

/-- A `BrokerWriteCapability`. -/
structure BrokerWriteCapability (ε ρ : Type) where
  armService : ArmService
  contextProvider : WriteOperation → WriteSubject → WriteM ε WriteAuthorizationContext
  gateway : ProductionXtQuantBroker ε ρ

namespace BrokerWriteCapability

variable {ε ρ : Type} (capability : BrokerWriteCapability ε ρ)

/-- `_authorize`, for a call. -/
def authorize (call : ℕ) (operation : WriteOperation) (subject : WriteSubject) :
    WriteM ε PUnit := do
  let context ← catching (capability.contextProvider operation subject) fun _ =>
    raise (.writeCapabilityDenied [.authorizationContextUnavailable])
  log (.contextBuilt call context)
  lift (Authorizer.authorize capability.armService context operation subject)
  log (.authorized call capability.armService context)

/-- `submit_order`. -/
def submitOrder (command : BrokerOrderCommand) : WriteM ε BrokerOrderFact := do
  let call ← newCall
  log (.requested call .submit (.command command))
  capability.authorize call .submit (.command command)
  scope (capability.gateway.submitOrder call command)

/-- `cancel_order`. -/
def cancelOrder (brokerOrderId : String) : WriteM ε BrokerOrderFact := do
  let call ← newCall
  log (.requested call .cancel (.brokerOrder brokerOrderId))
  capability.authorize call .cancel (.brokerOrder brokerOrderId)
  scope (capability.gateway.cancelOrder call brokerOrderId)

end BrokerWriteCapability

end FirmQuant
