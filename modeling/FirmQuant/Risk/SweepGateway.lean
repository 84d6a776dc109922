import FirmQuant.Persistence.CancelAnswers
import FirmQuant.Risk.CancelOnly

/-!
# Gateways for sweeps

`cancel_system_orders` against a gateway that answers and raises as it likes, with the process cut
anywhere: what is seen of a sweep at the gateway, what is asked of it, and a rule for each of the
sweep's requests.
-/

namespace FirmQuant

open Effect WriteM Ledger Trace

namespace CancelSweep

/-! ## Gateways -/

/-- What an observer of the gateway sees in a sweep, with the ledger at a query of the orders and at
a call of `cancel_order`.  A failing query of the fills is seen as no fills. -/
inductive SweepEntry
  | orders (orders : List BrokerOrderFact) (ledger : Ledger)
  | cancelOrder (brokerOrderId : String) (ledger : Ledger)
  | response (fact : BrokerOrderFact)
  | fills (fills : List BrokerFillFact)
  deriving DecidableEq

/-- What lies outside the ledger, and what was seen there. -/
structure Observed (ε : Type) where
  outside : ε
  trace : List SweepEntry

/-- A gateway and its clock.  Each request may change what lies outside, answer anything and raise
anything; an interrupt ends the process, and a call of `cancel_order` may not get as far as the
gateway.  The clock alone raises no exception. -/
structure SweepGateway (ε : Type) where
  ask : {α : Type} → GatewayRequest α → EStateM Raised ε α
  cancelOrder : String → EStateM Raised ε BrokerOrderFact
  diesBefore : String → ε → Bool
  clock_returns : ∀ e failure e', ask .clock e ≠ .error (.exception failure) e'

/-- What is seen of a request. -/
def entriesOf {α : Type} : GatewayRequest α → Except Failure α → Ledger → List SweepEntry
  | .queryOrders, .ok orders, ledger => [.orders orders ledger]
  | .queryFills, .ok fills, _ => [.fills fills]
  | .queryFills, .error _, _ => [.fills []]
  | _, _, _ => []

variable {ε α β : Type}

/-- Do something outside, and note what is seen of it. -/
def observe (x : EStateM Raised ε α) (entries : Except Failure α → Ledger → List SweepEntry) :
    WriteM (Observed ε) α := fun w =>
  let noted (outside : ε) (more : List SweepEntry) : WriteWorld (Observed ε) :=
    { w with store := { w.store with environment := ⟨outside, w.store.environment.trace ++ more⟩ } }
  match x w.store.environment.outside with
  | .ok a outside => .ok a (noted outside (entries (.ok a) w.store.ledger))
  | .error (.exception failure) outside =>
    .error (.exception failure) (noted outside (entries (.error failure) w.store.ledger))
  | .error .interrupt outside => .error .interrupt (noted outside [])

namespace SweepGateway

variable (gateway : SweepGateway ε)

/-- A call of `cancel_order` that is seen at the gateway. -/
def observedCancel (brokerOrderId : String) : WriteM (Observed ε) BrokerOrderFact := do
  let w ← get
  if gateway.diesBefore brokerOrderId w.store.environment.outside = true then throw .interrupt
  else do
    observe (pure ⟨⟩) fun _ ledger => [.cancelOrder brokerOrderId ledger]
    observe (gateway.cancelOrder brokerOrderId) fun answer _ =>
      match answer with
      | .ok fact => [.response fact]
      | .error _ => []

/-- The cancel-only capability over a gateway. -/
def capability (mode : Mode) : CancelOnlyCapability (Observed ε) where
  mode := mode
  gateway request := observe (gateway.ask request) (entriesOf request)
  cancelOrder _ brokerOrderId := gateway.observedCancel brokerOrderId

/-- A sweep that starts on a ledger. -/
def sweep (mode : Mode) (ledger : Ledger) (binding : Option AccountBinding) (outside : ε) :
    EStateM.Result Raised (WriteWorld (Observed ε)) CancelOnlyResult :=
  (gateway.capability mode).cancelSystemOrders ⟨⟨⟨outside, []⟩, ledger, binding⟩, false, 0, []⟩

end SweepGateway

/-- The ledger that a sweep leaves. -/
def ledgerOf (r : EStateM.Result Raised (WriteWorld (Observed ε)) CancelOnlyResult) : Ledger :=
  (finalState r).store.ledger

/-- What was seen in a sweep. -/
def traceOf (r : EStateM.Result Raised (WriteWorld (Observed ε)) CancelOnlyResult) :
    List SweepEntry :=
  (finalState r).store.environment.trace

/-- Sweeps one after another, each with its own mode and gateway, from a ledger; they end where
they return, raise or are cut. -/
inductive Swept (start : Ledger) : Ledger → List SweepEntry → Prop
  | start : Swept start start []
  | sweep {ε : Type} {ledger : Ledger} {trace : List SweepEntry} (gateway : SweepGateway ε)
      (mode : Mode) (binding : Option AccountBinding) (outside : ε) :
      Swept start ledger trace →
      Swept start (ledgerOf (gateway.sweep mode ledger binding outside))
        (trace ++ traceOf (gateway.sweep mode ledger binding outside))

/-! ## What is asked of a sweep -/

/-- The orders that `cancel_order` was called for. -/
def cancelIds (trace : List SweepEntry) : List String :=
  trace.filterMap fun
    | .cancelOrder brokerOrderId _ => some brokerOrderId
    | _ => none

/-- The reported order is the order of the row. -/
structure ReportsRow (row : BrokerOrderRow) (order : BrokerOrderFact) : Prop where
  brokerOrderId : order.brokerOrderId = row.brokerOrderId
  status : order.status ∈ CancelOnlyCapability.activeBrokerStates
  clientOrderId : order.clientOrderId = row.clientOrderId
  symbol : order.symbol = row.symbol
  side : order.side = row.side
  requestedShares : order.requestedShares = row.requestedShares
  limitPrice : some order.limitPrice = row.limitPrice
  sessionDate : order.sessionDate = row.sessionDate

/-- A cancel of an order: the orders were queried just before, on a ledger with a SYSTEM row for the
order and its execution ACKNOWLEDGED or PARTIALLY_FILLED; exactly one reported order has its id, and
it is the order of the row; and what was committed in between is the `begin_cancel` of the order,
with an attempt for the command. -/
def CancelRule (before : List SweepEntry) : SweepEntry → Prop
  | .cancelOrder brokerOrderId ledger =>
    ∃ earlier orders looked, before = earlier ++ [.orders orders looked] ∧
      ∃ row ∈ looked.brokerOrders, row.brokerOrderId = brokerOrderId ∧ row.ownership = .system ∧
      ∃ executionId aggregate, row.executionId = some executionId ∧
        looked.load executionId = some aggregate ∧
        aggregate.state ∈ [OrderState.acknowledged, .partiallyFilled] ∧
        aggregate.brokerOrderId = some brokerOrderId ∧
      (∃ order, orders.filter (·.brokerOrderId = brokerOrderId) = [order] ∧ ReportsRow row order) ∧
      ∃ startedAt next attempt,
        Ledger.beginCancel aggregate startedAt looked = .ok ((next, attempt), ledger) ∧
        ∃ attemptRow ∈ ledger.attempts, attemptRow.attemptId = attempt.attemptId ∧
          ∃ command ∈ ledger.commands, command.attemptId = attempt.attemptId ∧
            command.payload = .cancel brokerOrderId
  | _ => True

/-- The answer to a cancel and the reported fills of the order are consistent with the ledger. -/
def ConsistentAt (ledger : Ledger) (brokerOrderId : String) (fact : BrokerOrderFact)
    (fills : List BrokerFillFact) : Prop :=
  ∀ executionId aggregate, ledger.HasBrokerOrder brokerOrderId executionId →
    ledger.load executionId = some aggregate →
    ConsistentAnswer ledger aggregate fact (fills.filter (·.brokerOrderId = brokerOrderId))

/-- All answers to cancels are. -/
def AnswersConsistent (trace : List SweepEntry) : Prop :=
  ∀ before brokerOrderId ledger fact fills after,
    trace = before ++ .cancelOrder brokerOrderId ledger :: .response fact :: .fills fills :: after →
    ConsistentAt ledger brokerOrderId fact fills

/-- A candidate that the ledger holds as an active order. -/
def Examinable (ledger : Ledger) (candidate : CancelCandidate) : Prop :=
  ∃ aggregate, ledger.load candidate.executionId = some aggregate ∧
    aggregate.state ∈ CancelOnlyCapability.activeLocalStates ∧
    aggregate.brokerOrderId = some candidate.brokerOrderId

instance (ledger : Ledger) : DecidablePred (Examinable ledger) := fun candidate =>
  decidable_of_iff ((ledger.load candidate.executionId).any fun aggregate =>
      aggregate.state ∈ CancelOnlyCapability.activeLocalStates ∧
        aggregate.brokerOrderId = some candidate.brokerOrderId) <| by
    unfold Examinable
    cases ledger.load candidate.executionId <;> simp

/-- The orders that a sweep examines. -/
def examinedIds (ledger : Ledger) : List String :=
  ((CancelOnlyCapability.candidates ledger).filter (Examinable ledger)).map (·.brokerOrderId)

/-- The four lists of a result. -/
def listed (result : CancelOnlyResult) : List String :=
  result.deniedOrderIds ++ result.cancelledOrderIds ++ result.terminalOrderIds ++
    result.unknownOrderIds

/-! ## Rules for the ports -/

/-- An assertion about the ledger and about what was seen so far. -/
def Sees (P : Ledger → List SweepEntry → Prop) (w : WriteWorld (Observed ε)) : Prop :=
  P w.store.ledger w.store.environment.trace

/-- The ledger is this one, and this is what was seen. -/
def At (ledger : Ledger) (trace : List SweepEntry) : WriteWorld (Observed ε) → Prop :=
  Sees fun l t => l = ledger ∧ t = trace

section Ports

variable {P : WriteWorld (Observed ε) → Prop} {Q : α → WriteWorld (Observed ε) → Prop}
  {E E' : Raised → WriteWorld (Observed ε) → Prop} {ledger : Ledger} {trace : List SweepEntry}

lemma exits_catching {x : WriteM (Observed ε) α} {handler : Failure → WriteM (Observed ε) α}
    (hx : Exits P x Q E) (hhandler : ∀ failure,
      Exits (E (.exception failure)) (handler failure) Q E')
    (hinterrupt : ∀ w, E .interrupt w → E' .interrupt w) : Exits P (catching x handler) Q E' := by
  refine exits_tryCatch hx fun e => ?_
  cases e with
  | exception failure => exact hhandler failure
  | interrupt => exact exits_throw hinterrupt

/-- A scope changes neither the ledger nor what is seen. -/
lemma exits_scope {S : Ledger → List SweepEntry → Prop} {x : WriteM (Observed ε) α}
    {Q : α → Ledger → List SweepEntry → Prop} {E : Raised → Ledger → List SweepEntry → Prop}
    (hx : Exits (Sees S) x (fun a => Sees (Q a)) fun e => Sees (E e)) :
    Exits (Sees S) (scope x) (fun a => Sees (Q a)) fun e => Sees (E e) := by
  unfold scope
  refine exits_get_same fun w hw => ?_
  refine exits_bind (Q := fun _ => Sees S) ?_ fun _ => ?_
  · rintro _ rfl
    exact hw
  refine exits_bind (Q := fun a => Sees (Q a)) ?_ fun a => ?_
  · refine exits_tryCatch hx fun e => ?_
    refine exits_bind (Q := fun _ => Sees (E e)) ?_ fun _ => exits_throw fun _ he => he
    exact exits_modify fun _ he => he
  · exact exits_bind (Q := fun _ => Sees (Q a)) (exits_modify fun _ ha => ha) fun _ =>
      exits_pure fun _ ha => ha

lemma exits_observe {x : EStateM Raised ε α}
    {entries : Except Failure α → Ledger → List SweepEntry} :
    Exits (At ledger trace) (observe x entries)
      (fun a => At ledger (trace ++ entries (.ok a) ledger))
      (fun e w => match e with
        | .exception failure => At ledger (trace ++ entries (.error failure) ledger) w
        | .interrupt => At ledger trace w) := by
  rintro w ⟨rfl, rfl⟩
  unfold observe
  cases x w.store.environment.outside with
  | ok a outside => exact ⟨rfl, rfl⟩
  | error e outside =>
    cases e with
    | exception failure => exact ⟨rfl, rfl⟩
    | interrupt => exact ⟨rfl, List.append_nil _⟩

variable {gateway : SweepGateway ε} {mode : Mode}

lemma exits_unseen {request : GatewayRequest α}
    (hunseen : ∀ answer l, entriesOf request answer l = []) :
    Exits (At ledger trace) ((gateway.capability mode).gateway request) (fun _ => At ledger trace)
      fun _ => At ledger trace := by
  refine exits_imp exits_observe (fun _ h => h) (fun a w h => ?_) fun e w h => ?_
  · rwa [hunseen, List.append_nil] at h
  · cases e with
    | exception failure =>
      have hseen : At ledger (trace ++ entriesOf request (.error failure) ledger) w := h
      rwa [hunseen, List.append_nil] at hseen
    | interrupt => exact h

/-- The clock is read, unless the process ends. -/
lemma exits_clock : Exits (At ledger trace) ((gateway.capability mode).gateway .clock)
    (fun _ => At ledger trace) fun e w => e = .interrupt ∧ At ledger trace w := by
  rintro w ⟨rfl, rfl⟩
  have hclock := gateway.clock_returns w.store.environment.outside
  dsimp only [SweepGateway.capability]
  unfold observe
  cases hask : gateway.ask .clock w.store.environment.outside with
  | ok a outside => exact ⟨rfl, List.append_nil _⟩
  | error e outside =>
    cases e with
    | exception failure => exact absurd hask (hclock failure outside)
    | interrupt => exact ⟨rfl, rfl, List.append_nil _⟩

lemma exits_transaction {x : LedgerTxn α} :
    Exits (At ledger trace) (CancelOnlyCapability.transaction x : WriteM (Observed ε) α)
      (fun a w => ∃ ledger', x ledger = .ok (a, ledger') ∧ At ledger' trace w)
      fun e w => ∃ failure, e = .exception failure ∧ x ledger = .error failure ∧
        At ledger trace w := by
  rintro w ⟨rfl, rfl⟩
  unfold CancelOnlyCapability.transaction
  cases hx : x w.store.ledger with
  | ok r =>
    obtain ⟨a, ledger'⟩ := r
    exact ⟨ledger', rfl, rfl, rfl⟩
  | error failure => exact ⟨failure, rfl, rfl, rfl, rfl⟩

end Ports

/-! ## Looking at the broker -/

section Look

variable {gateway : SweepGateway ε} {mode : Mode} {ledger : Ledger} {trace : List SweepEntry}
  {candidate : CancelCandidate}

/-- What `_current_broker_order` leaves, and where it found the order. -/
def Looked (ledger : Ledger) (trace : List SweepEntry) (candidate : CancelCandidate)
    (current : Option BrokerOrderFact) : WriteWorld (Observed ε) → Prop :=
  Sees fun l t => l = ledger ∧ cancelIds t = cancelIds trace ∧
    (t = trace ∨ ∃ orders, t = trace ++ [.orders orders ledger]) ∧
    ∀ order, current = some order → ∃ orders, t = trace ++ [.orders orders ledger] ∧
      orders.filter (·.brokerOrderId = candidate.brokerOrderId) = [order] ∧
      CancelOnlyCapability.matchesCandidate candidate order = true

lemma exits_currentMatches :
    Exits (At ledger trace) ((gateway.capability mode).currentMatches candidate)
      (fun found w => (found = [] ∧ At ledger trace w) ∨
        ∃ orders : List BrokerOrderFact,
          found = orders.filter (·.brokerOrderId = candidate.brokerOrderId) ∧
          At ledger (trace ++ [.orders orders ledger]) w)
      fun _ => At ledger trace := by
  unfold CancelOnlyCapability.currentMatches
  refine exits_bind (exits_unseen fun answer _ => by cases answer <;> rfl) fun health => ?_
  refine exits_ite (exits_pure fun _ h => .inl ⟨rfl, h⟩) ?_
  refine exits_get_same fun w hw => ?_
  split
  · exact exits_pure fun _ h => .inl ⟨rfl, by rw [h]; exact hw⟩
  refine exits_bind (Q := fun _ => At ledger trace) ?_ fun account => ?_
  · rintro _ rfl
    exact exits_unseen (fun answer _ => by cases answer <;> rfl) _ hw
  refine exits_ite (exits_pure fun _ h => .inl ⟨rfl, h⟩) ?_
  refine exits_bind (Q := fun orders => At ledger (trace ++ [.orders orders ledger])) ?_
    fun orders => exits_pure fun _ h => .inr ⟨orders, rfl, h⟩
  refine exits_error exits_observe fun e w h => ?_
  cases e with
  | exception failure =>
    have hseen : At ledger (trace ++ []) w := h
    rwa [List.append_nil] at hseen
  | interrupt => exact h

/-- Whatever the gateway raises, the order is looked for. -/
lemma exits_currentBrokerOrder :
    Exits (At ledger trace) ((gateway.capability mode).currentBrokerOrder candidate)
      (Looked ledger trace candidate) fun e w => e = .interrupt ∧ At ledger trace w := by
  unfold CancelOnlyCapability.currentBrokerOrder
  refine exits_bind (Q := fun found w => (found = [] ∧ At ledger trace w) ∨
      ∃ orders : List BrokerOrderFact,
        found = orders.filter (·.brokerOrderId = candidate.brokerOrderId) ∧
        At ledger (trace ++ [.orders orders ledger]) w) ?_ fun found => ?_
  · refine exits_catching exits_currentMatches (fun failure => ?_) fun w h => ⟨rfl, h⟩
    exact exits_pure fun _ h => .inl ⟨rfl, h⟩
  have hids : ∀ orders, cancelIds (trace ++ [.orders orders ledger]) = cancelIds trace := by
    intro orders
    simp [cancelIds]
  split
  · rename_i order
    refine exits_pure fun w h => ?_
    rcases h with ⟨hnil, -⟩ | ⟨orders, hfound, hledger, htrace⟩
    · cases hnil
    refine ⟨hledger, by rw [htrace, hids], .inr ⟨orders, htrace⟩, fun found hsome => ?_⟩
    split_ifs at hsome with hmatches
    cases hsome
    exact ⟨orders, htrace, hfound.symm, hmatches⟩
  · refine exits_pure fun w h => ?_
    rcases h with ⟨-, hledger, htrace⟩ | ⟨orders, -, hledger, htrace⟩
    · exact ⟨hledger, by rw [htrace], .inl htrace, fun _ h => by cases h⟩
    · exact ⟨hledger, by rw [htrace, hids], .inr ⟨orders, htrace⟩, fun _ h => by cases h⟩

end Look

end CancelSweep

end FirmQuant
