import FirmQuant.Persistence.CrashPoints
import FirmQuant.Persistence.Settlement
import Mathlib.Data.List.Chain

/-!
# Absence proofs

Recovery moves an execution back to ARMED, from where it can be submitted again, when the gateway
proves that its submission was not accepted.  A run of recovery is followed here through all its
durable states; the gateway is given a record of what it returned.  The proof is checked against
the durable command only, so it is also believed against an order id or a fill that the execution
already has.
-/

namespace FirmQuant

open Effect

/-! ## What the gateway returned -/

/-- An order list or a proof that the gateway returned. -/
inductive GatewayAnswer
  | orders (orders : List BrokerOrderFact)
  | proof (command : BrokerOrderCommand) (proof : BrokerOrderAbsenceProof)

namespace RecoveryGateway

variable {E : Type}

/-- A gateway with a record of the order lists and the proofs that it returned. -/
def recorded (gateway : RecoveryGateway E) : RecoveryGateway (E × List GatewayAnswer) where
  health e := ((gateway.health e.1).1, (gateway.health e.1).2, e.2)
  queryOrders e :=
    match gateway.queryOrders e.1 with
    | (.ok orders, outside) => (.ok orders, outside, e.2 ++ [.orders orders])
    | (.error failure, outside) => (.error failure, outside, e.2)
  queryFills e := ((gateway.queryFills e.1).1, (gateway.queryFills e.1).2, e.2)
  proveOrderNotAccepted := gateway.proveOrderNotAccepted.map fun verifier command e =>
    match verifier command e.1 with
    | (.ok (some proof), outside) => (.ok (some proof), outside, e.2 ++ [.proof command proof])
    | (.ok none, outside) => (.ok none, outside, e.2)
    | (.error failure, outside) => (.error failure, outside, e.2)

end RecoveryGateway

/-! ## Events that do not arm -/

namespace OrderAggregate

open Ledger

variable {a a' : OrderAggregate} {event : OrderEvent}

/-- Broker truth and an unknown outcome move no order to ARMED. -/
lemma armed_of_armed (hevent : BrokerTruth event ∨ ∃ attempt, OutcomeUnknown attempt event)
    (h : a.apply event = .ok a') (harmed : a'.state = .armed) : a.state = .armed := by
  rcases apply_seen_or_new h with ⟨rfl, -⟩ | ⟨-, hnew⟩
  · exact harmed
  rcases hevent with (hecon | hstatus) | ⟨attempt, hunknown⟩
  · cases hecon with
    | ack _ _ =>
      rcases applyNew_ack hnew with hs | hs
      · simp [hs] at harmed
      · rw [← hs, harmed]
    | fill fill =>
      rcases applyNew_fill hnew with hs | hs | ⟨-, hs⟩
      · rw [← hs, harmed]
      · simp [hs] at harmed
      · simp [hs] at harmed
  · rcases applyNew_status hstatus hnew with hterm | ⟨-, hs⟩
    · rw [harmed] at hterm
      exact absurd hterm (by decide)
    · simp [hs] at harmed
  · cases hunknown with
    | submit code _ =>
      simp only [applyNew] at hnew
      split_ifs at hnew
      · rw [← updated_state hnew, harmed]
      · simp [updated_state hnew] at harmed
    | cancel code _ =>
      simp only [applyNew] at hnew
      split_ifs at hnew
      · simp [updated_state hnew] at harmed
      · rw [← updated_state hnew, harmed]

/-- What recovery has of an order at the broker: its id there and its fills. -/
def brokerEvidence (a : OrderAggregate) : Option String × List AppliedFill :=
  (a.brokerOrderId, a.fills)

lemma updated_brokerEvidence {target : OrderState}
    (h : a.updated event target none id = .ok a') : a'.brokerEvidence = a.brokerEvidence := by
  unfold brokerEvidence
  rw [(updated_eq_ok h).2.2]
  rfl

/-- An unknown outcome brings no evidence of the order at the broker. -/
lemma brokerEvidence_of_unknown {attempt : BrokerAttempt} (hevent : OutcomeUnknown attempt event)
    (h : a.apply event = .ok a') : a'.brokerEvidence = a.brokerEvidence := by
  rcases apply_seen_or_new h with ⟨rfl, -⟩ | ⟨-, hnew⟩
  · rfl
  cases hevent with
  | submit code _ | cancel code _ =>
    simp only [applyNew] at hnew
    split_ifs at hnew
    · exact updated_brokerEvidence hnew
    · exact updated_brokerEvidence hnew

end OrderAggregate

namespace Ledger

variable {aggregate next : OrderAggregate} {attempt : BrokerAttempt} {ledger ledger' : Ledger}

/-! ## Durable commands -/

/-- What is sealed when an attempt begins: its command and its time. -/
def sealed (ledger : Ledger) : List CommandRow × List (AttemptId × DateTime) :=
  (ledger.commands, ledger.attempts.map fun row => (row.attemptId, row.startedAt))

variable {s : List CommandRow × List (AttemptId × DateTime)}

variable {time : DateTime} {fact : BrokerOrderFact}

/-- A transition writes to the orders and their events only. -/
lemma sealed_transition {event : OrderEvent} :
    Txn.Preserves (fun ledger : Ledger => ledger.sealed = s)
      (transition aggregate event time) := by
  intro ledger next ledger' hs h
  rcases transition_eq_ok h with ⟨-, rfl, -⟩ | ⟨-, -, -, -, rfl⟩
  · exact hs
  · exact hs

lemma sealed_updateAttempt {attemptId : AttemptId} {change : AttemptRow → AttemptRow}
    (hchange : ∀ row, (change row).attemptId = row.attemptId ∧
      (change row).startedAt = row.startedAt) :
    Txn.Preserves (fun ledger : Ledger => ledger.sealed = s) (updateAttempt attemptId change) := by
  refine Txn.preserves_modify fun ledger hs => ?_
  rw [← hs]
  unfold sealed
  rw [List.map_map]
  refine congrArg (Prod.mk _) (List.map_congr_left fun row _ => ?_)
  rw [Function.comp_apply]
  split_ifs
  · rw [(hchange row).1, (hchange row).2]
  · rfl

variable {executionId : ExecutionId} {kind : CommandKind} {fills : List BrokerFillFact}

lemma sealed_recordBrokerOrder :
    Txn.Preserves (fun ledger : Ledger => ledger.sealed = s)
      (recordBrokerOrder fact executionId) := by
  intro ledger u ledger' hs h
  cases recordBrokerOrder_ok h <;> exact hs

lemma sealed_recordFill {fill : BrokerFillFact} :
    Txn.Preserves (fun ledger : Ledger => ledger.sealed = s) (recordFill fill executionId) := by
  intro ledger u ledger' hs h
  obtain ⟨evidence, ⟨-, rfl⟩ | ⟨-, rfl⟩⟩ := recordFill_writes h <;> exact hs

/-- An answer changes no durable command. -/
lemma keptByWrites_sealed : KeptByWrites fun ledger => ledger.sealed = s :=
  ⟨sealed_transition, sealed_updateAttempt, fun hs => hs, sealed_recordBrokerOrder,
    sealed_recordFill⟩

lemma sealed_resolveSubmitNotAccepted {evidence : FailureEvidence} :
    Txn.Preserves (fun ledger : Ledger => ledger.sealed = s)
      (resolveSubmitNotAccepted aggregate attempt evidence time) :=
  Txn.preserves_bind sealed_transition fun _ => Txn.preserves_bind
    (sealed_updateAttempt fun _ => ⟨rfl, rfl⟩) fun _ => Txn.preserves_pure

/-- The durable command of an attempt is sealed. -/
lemma durableSubmitCommand_of_sealed (h : ledger'.sealed = ledger.sealed) :
    Recovery.durableSubmitCommand ledger' attempt =
      Recovery.durableSubmitCommand ledger attempt := by
  obtain ⟨hcommands, hstarts⟩ := Prod.mk.inj h
  have htime : ∀ ledger : Ledger,
      (ledger.attempts.find? (·.attemptId = attempt.attemptId)).map (·.startedAt) =
        ((ledger.attempts.map fun row => (row.attemptId, row.startedAt)).find?
          (·.1 = attempt.attemptId)).map (·.2) := by
    intro ledger
    rw [List.find?_map, Option.map_map]
    rfl
  have hfound := (htime ledger').trans ((congrArg (fun rows : List (AttemptId × DateTime) =>
    (rows.find? (·.1 = attempt.attemptId)).map (·.2)) hstarts).trans (htime ledger).symm)
  rw [Recovery.durableSubmitCommand_eq, Recovery.durableSubmitCommand_eq, hfound, hcommands]

end Ledger

namespace Recovery

open OrderAggregate

/-! ## The claim on a run -/

/-- What must stand behind the move of an execution to ARMED: it was SUBMITTING or UNKNOWN, the
broker listed no order with its client order id, and the gateway returned a proof that fits the
durable command of one of its pending SUBMIT attempts. -/
structure Justified (log : List GatewayAnswer) (now : DateTime) (pending : List BrokerAttempt)
    (before : Ledger) (executionId : ExecutionId) (aggregate : OrderAggregate) : Prop where
  state : aggregate.state ∈ [OrderState.submitting, .unknown]
  unlisted : ∃ orders, .orders orders ∈ log ∧
    ∀ order ∈ orders, order.clientOrderId ≠ some aggregate.intent.uquantOrderId
  proved : ∃ attempt ∈ pending, attempt.executionId = executionId ∧
    ∃ command startedAt proof, durableSubmitCommand before attempt = some (command, startedAt) ∧
      .proof command proof ∈ log ∧ ProofFits proof command startedAt now

/-- One durable step moves executions to ARMED only with justification, and none that has an order
id or a fill at the broker. -/
def ArmsJustified (log : List GatewayAnswer) (now : DateTime) (pending : List BrokerAttempt)
    (before after : Ledger) : Prop :=
  ∀ executionId aggregate next, before.load executionId = some aggregate →
    after.load executionId = some next → aggregate.state ≠ .armed → next.state = .armed →
    Justified log now pending before executionId aggregate ∧ aggregate.brokerOrderId = none ∧
      aggregate.fills = []

variable {E : Type}

/-- The gateway may return a proof that fits the durable command of an attempt. -/
def Provable (gateway : Option (RecoveryGateway E)) (now : DateTime) (ledger : Ledger)
    (attempt : BrokerAttempt) : Prop :=
  ∃ command startedAt proof, durableSubmitCommand ledger attempt = some (command, startedAt) ∧
    ProofFits proof command startedAt now ∧
    ∃ verifier ∈ gateway.bind (·.proveOrderNotAccepted), ∃ e,
      (verifier command e).1 = .ok (some proof)

/-- The gateway may return this order list. -/
def MayList (gateway : Option (RecoveryGateway E)) (orders : List BrokerOrderFact) : Prop :=
  ∃ g ∈ gateway, ∃ e, (g.queryOrders e).1 = .ok orders

/-- No proof against evidence: for every pending SUBMIT attempt of an execution that has an order
id or a fill at the broker, the broker lists an order with its client order id, or the gateway
returns no proof that fits. -/
def NoProofAgainstEvidence (gateway : Option (RecoveryGateway E)) (pending : List BrokerAttempt)
    (now : DateTime) (ledger : Ledger) : Prop :=
  ∀ attempt ∈ pending, attempt.commandKind = .submit →
    ∀ aggregate, ledger.load attempt.executionId = some aggregate →
      aggregate.brokerEvidence ≠ (none, []) →
      (∀ orders, MayList gateway orders →
        ∃ order ∈ orders, order.clientOrderId = some aggregate.intent.uquantOrderId) ∨
      ¬ Provable gateway now ledger attempt

/-! ## The assertions -/

section Assertions

variable {log log' : List GatewayAnswer} {now : DateTime} {pending : List BrokerAttempt}

lemma ArmsJustified.refl (ledger : Ledger) : ArmsJustified log now pending ledger ledger := by
  intro executionId aggregate next hload hnext hstate harmed
  rw [hload] at hnext
  cases hnext
  exact absurd harmed hstate

lemma ArmsJustified.mono {before after : Ledger} (h : ArmsJustified log now pending before after)
    (hlog : log ⊆ log') : ArmsJustified log' now pending before after := by
  intro executionId aggregate next hload hnext hstate harmed
  obtain ⟨hjustified, hevidence⟩ := h executionId aggregate next hload hnext hstate harmed
  obtain ⟨orders, horders, hnone⟩ := hjustified.unlisted
  obtain ⟨attempt, hattempt, hid, command, startedAt, proof, hdurable, hproof, hfits⟩ :=
    hjustified.proved
  exact ⟨⟨hjustified.state, ⟨orders, hlog horders, hnone⟩, attempt, hattempt, hid, command,
    startedAt, proof, hdurable, hlog hproof, hfits⟩, hevidence⟩

/-- The ledgers of the durable states of a run. -/
def ledgers (start : Ledger) (w : Installation (E × List GatewayAnswer)) : List Ledger :=
  start :: w.crashPoints.map (·.1.ledger)

/-- Every durable step so far moved executions to ARMED only with justification. -/
structure Course (now : DateTime) (pending : List BrokerAttempt) (start : Ledger)
    (w : Installation (E × List GatewayAnswer)) : Prop where
  agrees : w.database.ledger.Agrees
  last : (ledgers start w).getLast (by simp [ledgers]) = w.database.ledger
  steps : (ledgers start w).IsChain (ArmsJustified w.outside.2 now pending)

variable {start : Ledger} {w : Installation (E × List GatewayAnswer)}

lemma Course.step (h : Course now pending start w) {database : Database}
    (hagrees : database.ledger.Agrees)
    (hstep : ArmsJustified w.outside.2 now pending w.database.ledger database.ledger) :
    Course now pending start { w with
      database := database
      crashPoints := w.crashPoints ++ [(database, w.file)] } := by
  have hledgers : ledgers start { w with
      database := database
      crashPoints := w.crashPoints ++ [(database, w.file)] } =
      ledgers start w ++ [database.ledger] := by
    simp [ledgers]
  refine ⟨hagrees, by simp [hledgers], ?_⟩
  rw [hledgers, List.isChain_append]
  refine ⟨h.steps, List.isChain_singleton _, ?_⟩
  intro before hbefore after hafter
  rw [List.getLast?_eq_some_getLast (by simp [ledgers]), Option.mem_some_iff] at hbefore
  rw [List.head?_singleton, Option.mem_some_iff] at hafter
  rw [← hbefore, ← hafter, h.last]
  exact hstep

variable {outside : E × List GatewayAnswer} {next : OrderAggregate} {ledger' : Ledger}

lemma Course.answered (h : Course now pending start w)
    (hlog : w.outside.2 ⊆ outside.2) : Course now pending start { w with outside := outside } :=
  ⟨h.agrees, h.last, h.steps.imp fun _ _ hstep => hstep.mono hlog⟩

variable {allowed : OrderEvent → Prop} {executionId : ExecutionId}
  {service : RecoveryService (E × List GatewayAnswer)}

variable {aggregate : OrderAggregate} {attempt : BrokerAttempt}

/-- One more transaction, on a loaded order. -/
lemma Course.transact (h : Course now pending start w)
    (hload : w.database.ledger.load executionId = some aggregate)
    (hevolves : Ledger.Evolves allowed (aggregate, w.database.ledger) (next, ledger'))
    (harms : aggregate.state ≠ .armed → next.state = .armed →
      Justified w.outside.2 now pending w.database.ledger executionId aggregate ∧
        aggregate.brokerEvidence = (none, [])) :
    Course now pending start { w with
      database := { w.database with ledger := ledger' }
      crashPoints := w.crashPoints ++ [({ w.database with ledger := ledger' }, w.file)] } := by
  obtain ⟨hagrees, hnext, hother⟩ := Ledger.load_of_evolves hevolves h.agrees hload
  refine h.step hagrees ?_
  intro other before after hbefore hafter hstate harmed
  by_cases hid : other = executionId
  · subst hid
    obtain rfl : before = aggregate := Option.some.inj (hbefore.symm.trans hload)
    obtain rfl : after = next := Option.some.inj (hafter.symm.trans hnext)
    obtain ⟨hjustified, hevidence⟩ := harms hstate harmed
    exact ⟨hjustified, congrArg Prod.fst hevidence, congrArg Prod.snd hevidence⟩
  · rw [show ({ w.database with ledger := ledger' } : Database).ledger = ledger' from rfl,
      hother other hid, hbefore] at hafter
    cases hafter
    exact absurd harmed hstate

/-- While recovery goes through the attempts: an execution that has a pending SUBMIT attempt and
may be proved has nothing at the broker, if a list in `O` does not name it.  The lists in `N` are
on record. -/
structure Attending (gateway : Option (RecoveryGateway E)) (now : DateTime)
    (pending : List BrokerAttempt) (start : Ledger) (O N : Set (List BrokerOrderFact))
    (w : Installation (E × List GatewayAnswer)) : Prop where
  course : Course now pending start w
  sealed : w.database.ledger.sealed = start.sealed
  listed : ∀ orders ∈ N, .orders orders ∈ w.outside.2
  clean : ∀ orders ∈ O, ∀ attempt ∈ pending, attempt.commandKind = .submit →
    Provable gateway now start attempt →
    ∀ aggregate, w.database.ledger.load attempt.executionId = some aggregate →
      (∀ order ∈ orders, order.clientOrderId ≠ some aggregate.intent.uquantOrderId) →
      aggregate.brokerEvidence = (none, [])

variable {gateway : Option (RecoveryGateway E)} {O N : Set (List BrokerOrderFact)}

lemma keepsLoaded_attending {S : Installation (E × List GatewayAnswer) → Prop}
    {x : OrderAggregate → LedgerTxn OrderAggregate}
    (hevolves : ∀ ledger next ledger', x aggregate ledger = .ok (next, ledger') →
      Ledger.Evolves allowed (aggregate, ledger) (next, ledger'))
    (hsealed : ∀ s, Txn.Preserves (fun ledger : Ledger => ledger.sealed = s) (x aggregate))
    (harms : ∀ w next ledger', Attending gateway now pending start O N w → S w →
      w.database.ledger.load executionId = some aggregate →
      x aggregate w.database.ledger = .ok (next, ledger') → aggregate.state ≠ .armed →
      next.state = .armed →
      Justified w.outside.2 now pending w.database.ledger executionId aggregate ∧
        aggregate.brokerEvidence = (none, []))
    (hclean : ∀ ledger next ledger', x aggregate ledger = .ok (next, ledger') → ∀ orders ∈ O,
      (∀ order ∈ orders, order.clientOrderId ≠ some aggregate.intent.uquantOrderId) →
      aggregate.brokerEvidence = (none, []) → next.brokerEvidence = (none, [])) :
    KeepsLoaded (Attending gateway now pending start O N) S executionId x aggregate := by
  rintro w ⟨hw, hload, hS⟩
  unfold Service.transact Database.onLedger
  cases hrun : x aggregate w.database.ledger with
  | error failure => exact hw
  | ok p =>
    obtain ⟨next, ledger'⟩ := p
    have hstep := hevolves _ _ _ hrun
    refine ⟨hw.course.transact hload hstep (harms w next ledger' hw hS hload hrun),
      hsealed _ _ _ _ hw.sealed hrun, hw.listed, ?_⟩
    intro orders horders attempt hattempt hkind hprovable after hafter hunlisted
    obtain ⟨-, hnext, hother⟩ := Ledger.load_of_evolves hstep hw.course.agrees hload
    by_cases hid : attempt.executionId = executionId
    · rw [hid] at hafter
      obtain rfl : after = next := Option.some.inj (hafter.symm.trans hnext)
      have hintent : after.intent = aggregate.intent := hstep.movesRow.intent
      rw [hintent] at hunlisted
      refine hclean _ _ _ hrun orders horders hunlisted ?_
      exact hw.clean orders horders attempt hattempt hkind hprovable aggregate
        (by rw [hid]; exact hload) hunlisted
    · have hbefore : w.database.ledger.load attempt.executionId = some after :=
        (hother _ hid).symm.trans hafter
      exact hw.clean orders horders attempt hattempt hkind hprovable after hbefore hunlisted

/-! ## The transactions -/

/-- To mark an attempt arms nothing and brings no evidence. -/
lemma marks_attending (attempt : BrokerAttempt) :
    Marks (Attending gateway now pending start O N) now attempt := by
  intro aggregate reason
  have hmoves : ∀ {ledger next ledger'}, Ledger.markAttemptUnknown aggregate attempt reason now
      ledger = .ok (next, ledger') → (next.state = .armed → aggregate.state = .armed) ∧
        next.brokerEvidence = aggregate.brokerEvidence := by
    intro ledger next ledger' hrun
    obtain ⟨event, ledger₁, hevent, htransition, -⟩ := Ledger.markAttemptUnknown_eq_ok hrun
    rcases Ledger.transition_eq_ok htransition with ⟨rfl, -⟩ | ⟨happly, -⟩
    · exact ⟨fun h => h, rfl⟩
    · exact ⟨armed_of_armed (.inr ⟨attempt, hevent⟩) happly,
        brokerEvidence_of_unknown hevent happly⟩
  have hevolves : ∀ ledger next ledger', Ledger.markAttemptUnknown aggregate attempt reason now
      ledger = .ok (next, ledger') →
      Ledger.Evolves (Ledger.CallEvent (attempt = ·)) (aggregate, ledger) (next, ledger') :=
    fun _ _ _ hrun => Ledger.markAttemptUnknown_evolves rfl hrun
  refine keepsLoaded_attending hevolves
    (fun _ => Ledger.keptByWrites_sealed.markAttemptUnknown) ?_ ?_
  · intro w next ledger' _ _ _ hrun hstate harmed
    exact absurd ((hmoves hrun).1 harmed) hstate
  · intro ledger next ledger' hrun orders _ _ hnone
    rw [(hmoves hrun).2, hnone]

lemma answer_armed
    {fact : BrokerOrderFact} {fills : List BrokerFillFact} {kind : CommandKind} {time : DateTime}
    {ledger : Ledger}
    (h : Ledger.recordReturnedResult aggregate attempt fact fills kind time ledger =
      .ok (next, ledger')) (harmed : next.state = .armed) : aggregate.state = .armed := by
  by_contra hstate
  refine Ledger.recordReturnedResult_keeps (P := fun a => a.state ≠ .armed) ?_ ?_ h hstate harmed
  · exact fun htruth happly hx hy => hx (armed_of_armed (.inl htruth) happly hy)
  · exact fun hunknown happly hx hy => hx (armed_of_armed (.inr ⟨attempt, hunknown⟩) happly hy)

/-- An answer arms nothing; it brings evidence only to an order that the broker listed, or that
had evidence before. -/
lemma answers_attending (horders : service.orders = monotonicRepository)
    (orders : List BrokerOrderFact) (fills : List BrokerFillFact) (attempt : BrokerAttempt) :
    Answers service (Attending gateway now pending start {orders} N) orders fills now attempt := by
  intro aggregate fact hcandidates _
  have hanswer : ∀ a facts, answer service a attempt fact facts now =
      Ledger.recordReturnedResult a attempt fact facts attempt.commandKind now := by
    intro a facts
    unfold answer
    rw [horders]
    cases attempt.commandKind with
    | submit => rfl
    | cancel => rfl
  have hmem : fact ∈ candidates aggregate attempt orders := by
    rw [hcandidates]
    exact List.mem_singleton_self fact
  simp only [hanswer]
  have hevolves : ∀ ledger next ledger', Ledger.recordReturnedResult aggregate attempt fact
      (relatedFills fact.brokerOrderId fills) attempt.commandKind now ledger = .ok (next, ledger') →
      Ledger.Evolves (Ledger.CallEvent (attempt = ·)) (aggregate, ledger) (next, ledger') :=
    fun _ _ _ hrun => Ledger.recordReturnedResult_evolves rfl hrun
  refine keepsLoaded_attending hevolves
    (fun _ => Ledger.keptByWrites_sealed.recordReturnedResult) ?_ ?_
  · intro w next ledger' _ _ _ hrun hstate harmed
    exact absurd (answer_armed hrun harmed) hstate
  · rintro ledger next ledger' - listed rfl hunlisted hnone
    unfold candidates at hmem
    cases hkind : attempt.commandKind with
    | submit =>
      rw [hkind] at hmem
      obtain ⟨hfact, hclient⟩ := List.mem_filter.mp hmem
      exact absurd (by simpa using hclient) (hunlisted fact hfact)
    | cancel =>
      rw [hkind] at hmem
      have hid : aggregate.brokerOrderId = some fact.brokerOrderId := by
        simpa using (List.mem_filter.mp hmem).2
      have hnoid : aggregate.brokerOrderId = none := congrArg Prod.fst hnone
      rw [hnoid] at hid
      cases hid

/-- What the resolution of an attempt does. -/
lemma resolveSubmitNotAccepted_moves
    {evidence : FailureEvidence} {time : DateTime} {ledger : Ledger}
    (h : Ledger.resolveSubmitNotAccepted aggregate attempt evidence time ledger =
      .ok (next, ledger')) :
    (aggregate.state ≠ .armed → next.state = .armed →
      aggregate.state ∈ [OrderState.submitting, .unknown]) ∧
      next.brokerEvidence = aggregate.brokerEvidence := by
  unfold Ledger.resolveSubmitNotAccepted at h
  obtain ⟨current, ledger₁, htransition, h⟩ := Txn.bind_eq_ok.mp h
  obtain ⟨-, ledger₂, -, h⟩ := Txn.bind_eq_ok.mp h
  cases h
  rcases Ledger.transition_eq_ok htransition with ⟨rfl, -⟩ | ⟨happly, -⟩
  · exact ⟨fun hstate harmed => absurd harmed hstate, rfl⟩
  rcases apply_seen_or_new happly with ⟨rfl, -⟩ | ⟨-, hnew⟩
  · exact ⟨fun hstate harmed => absurd harmed hstate, rfl⟩
  by_cases hunknown : aggregate.state = .unknown
  · rw [if_pos hunknown] at hnew
    exact ⟨fun _ _ => by simp [hunknown], updated_brokerEvidence hnew⟩
  · rw [if_neg hunknown] at hnew
    simp only [applyNew] at hnew
    split_ifs at hnew with hsubmitting
    rw [not_not] at hsubmitting
    exact ⟨fun _ _ => by simp [hsubmitting], updated_brokerEvidence hnew⟩

/-- A returned proof: it is on record, and the gateway may return it. -/
def Returned (gateway : Option (RecoveryGateway E)) (command : BrokerOrderCommand)
    (proof : BrokerOrderAbsenceProof) (outside : E × List GatewayAnswer) : Prop :=
  .proof command proof ∈ outside.2 ∧
    ∃ verifier ∈ gateway.bind (·.proveOrderNotAccepted), ∃ e,
      (verifier command e).1 = .ok (some proof)

/-- A proof arms an order that the broker did not list and that has nothing at the broker. -/
lemma resolves_attending {orders : List BrokerOrderFact} (hattempt : attempt ∈ pending) :
    Resolves (Attending gateway now pending start {orders} {orders}) (Returned gateway)
      (fun a => candidates a attempt orders = []) now attempt := by
  intro aggregate command startedAt proof hkind hcandidates hfits
  have hevolves : ∀ ledger next ledger', Ledger.resolveSubmitNotAccepted aggregate attempt
      ⟨proof.evidenceSha256, []⟩ now ledger = .ok (next, ledger') →
      Ledger.Evolves (Ledger.CallEvent (attempt = ·)) (aggregate, ledger) (next, ledger') :=
    fun _ _ _ hrun => Ledger.resolveSubmitNotAccepted_evolves rfl hrun
  refine keepsLoaded_attending hevolves (fun _ => Ledger.sealed_resolveSubmitNotAccepted) ?_ ?_
  · rintro w next ledger' hw ⟨hdurable, hproof, verifier, hverifier, e, hanswer⟩ hload hrun hstate
      harmed
    have hunlisted : ∀ order ∈ orders,
        order.clientOrderId ≠ some aggregate.intent.uquantOrderId := by
      simpa [candidates, hkind] using hcandidates
    have hprovable : Provable gateway now start attempt := by
      refine ⟨command, startedAt, proof, ?_, hfits, verifier, hverifier, e, hanswer⟩
      rw [← hdurable]
      exact Ledger.durableSubmitCommand_of_sealed hw.sealed.symm
    exact ⟨⟨(resolveSubmitNotAccepted_moves hrun).1 hstate harmed,
      ⟨orders, hw.listed orders rfl, hunlisted⟩, attempt, hattempt, rfl, command, startedAt, proof,
      hdurable, hproof, hfits⟩,
      hw.clean orders rfl attempt hattempt hkind hprovable aggregate hload hunlisted⟩
  · intro ledger next ledger' hrun listed _ _ hnone
    rw [(resolveSubmitNotAccepted_moves hrun).2, hnone]

lemma reconciles_course (horders : service.orders = monotonicRepository)
    (orders : List BrokerOrderFact) (fills : List BrokerFillFact) (row : BrokerOrderRow) :
    Reconciles service (Course now pending start) orders fills now row := by
  rintro executionId aggregate fact - - - w ⟨hw, hload, -⟩
  unfold Service.transact Database.onLedger
  dsimp only
  rw [horders]
  cases hrun : monotonicRepository.reconcileBrokerFact aggregate fact
      (relatedFills row.brokerOrderId fills) now w.database.ledger with
  | error failure => exact hw
  | ok p =>
    obtain ⟨next, ledger'⟩ := p
    have hevolves := Ledger.reconcileBrokerFact_evolves hrun
    refine hw.transact hload hevolves fun hstate harmed => absurd harmed ?_
    exact hevolves.keeps_aggregate (P := fun a => a.state ≠ .armed) (fun htruth happly hx hy =>
      hx (armed_of_armed (.inl htruth) happly hy)) hstate

/-! ## The answers of the gateway -/

lemma Attending.answered (h : Attending gateway now pending start O N w)
    (hlog : w.outside.2 ⊆ outside.2) :
    Attending gateway now pending start O N { w with outside := outside } :=
  ⟨h.course.answered hlog, h.sealed, fun orders horders => hlog (h.listed orders horders), h.clean⟩

lemma verifies_attending :
    Verifies (gateway.map (·.recorded)) (Attending gateway now pending start O N)
      (Returned gateway) := by
  intro recorded hrecorded command w hw
  cases hgateway : gateway with
  | none =>
    rw [hgateway] at hrecorded
    simp at hrecorded
  | some g =>
    rw [hgateway] at hrecorded
    obtain ⟨verifier, hverifier, rfl⟩ : ∃ verifier, g.proveOrderNotAccepted = some verifier ∧
        (fun command e => match verifier command e.1 with
          | (.ok (some proof), outside) =>
            (.ok (some proof), outside, e.2 ++ [GatewayAnswer.proof command proof])
          | (.ok none, outside) => (.ok none, outside, e.2)
          | (.error failure, outside) => (.error failure, outside, e.2)) = recorded := by
      simpa [RecoveryGateway.recorded] using hrecorded
    rcases hanswer : verifier command w.outside.1 with ⟨_ | _ | proof, outside⟩
    iterate 2
      · simp only [hanswer]
        exact ⟨hgateway ▸ hw.answered (List.Subset.refl _), fun proof h => by cases h⟩
    · simp only [hanswer]
      refine ⟨hgateway ▸ hw.answered (List.subset_append_left _ _), fun other h => ?_⟩
      cases h
      exact ⟨by simp, verifier, by simpa using hverifier, w.outside.1, by rw [hanswer]⟩

/-- The broker's answer is on record. -/
lemma triple_queryBroker_attending (g : RecoveryGateway E) (hgateway : gateway = some g) :
    Triple (Attending gateway now pending start {orders | MayList gateway orders} ∅)
      (queryBroker g.recorded)
      (fun answer w => answer.elim
        (Attending gateway now pending start {orders | MayList gateway orders} ∅ w)
        fun facts => Attending gateway now pending start {facts.1} {facts.1} w)
      (Attending gateway now pending start {orders | MayList gateway orders} ∅) := by
  set P : Installation (E × List GatewayAnswer) → Prop :=
    Attending gateway now pending start {orders | MayList gateway orders} ∅
  have hhealth : Keeps P (call g.recorded.health) :=
    triple_call (fun w _ hw _ => Attending.answered hw (List.Subset.refl _))
      fun w hw => Attending.answered hw (List.Subset.refl _)
  have hgrows : ∀ e, e.2 ⊆ (g.recorded.queryOrders e).2.2 := by
    intro e
    unfold RecoveryGateway.recorded
    rcases hanswer : g.queryOrders e.1 with ⟨_ | orders, outside⟩
    · simp only [hanswer]
      exact List.Subset.refl _
    · simp only [hanswer]
      exact List.subset_append_left _ _
  have hrecords : ∀ e orders, (g.recorded.queryOrders e).1 = .ok orders →
      .orders orders ∈ (g.recorded.queryOrders e).2.2 ∧ MayList gateway orders := by
    intro e orders h
    unfold RecoveryGateway.recorded at h ⊢
    rcases hanswer : g.queryOrders e.1 with ⟨_ | listed, outside⟩
    · simp only [hanswer] at h
      cases h
    · simp only [hanswer] at h ⊢
      cases h
      exact ⟨by simp, g, hgateway, e.1, by rw [hanswer]⟩
  have horders : Triple P (call g.recorded.queryOrders)
      (fun orders w => P w ∧ .orders orders ∈ w.outside.2 ∧ MayList gateway orders) P :=
    triple_call (fun w orders hw hok => ⟨Attending.answered hw (hgrows _), hrecords _ _ hok⟩)
      fun w hw => Attending.answered hw (hgrows _)
  have hfills : ∀ orders, Triple
      (fun w => P w ∧ .orders orders ∈ w.outside.2 ∧ MayList gateway orders)
      (call g.recorded.queryFills)
      (fun _ w => P w ∧ .orders orders ∈ w.outside.2 ∧ MayList gateway orders) P :=
    fun orders => triple_call
      (fun w _ hw _ => ⟨Attending.answered hw.1 (List.Subset.refl _), hw.2⟩)
      fun w hw => Attending.answered hw.1 (List.Subset.refl _)
  unfold queryBroker
  refine triple_tryCatch (triple_bind hhealth fun health => ?_) fun _ => triple_pure fun _ hw => hw
  split_ifs
  swap
  · exact triple_throw fun _ hw => hw
  refine triple_bind horders fun orders => triple_bind (hfills orders) fun fills => ?_
  refine triple_pure ?_
  rintro w ⟨hw, hlog, hmay⟩
  refine ⟨hw.course, hw.sealed, ?_, ?_⟩
  · rintro listed rfl
    exact hlog
  · rintro listed rfl
    exact hw.clean listed hmay

end Assertions

/-! ## The run -/

section Run

variable {gateway : Option (RecoveryGateway E)} {clock : E → DateTime × E}
  {attemptText : AttemptId → String} {executionText : ExecutionId → String}

/-- The production service, with a record of what its gateway returned. -/
def recordedService (accountConfigured : Bool) (gateway : Option (RecoveryGateway E))
    (clock : E → DateTime × E) (attemptText : AttemptId → String)
    (executionText : ExecutionId → String) : RecoveryService (E × List GatewayAnswer) :=
  production accountConfigured (gateway.map (·.recorded))
    (fun e => ((clock e.1).1, (clock e.1).2, e.2)) attemptText executionText

/-- The part of recovery on the accounts makes no step of an order. -/
lemma course_of_throughout {now : DateTime} {pending : List BrokerAttempt} {start : Ledger}
    {w : Installation (E × List GatewayAnswer)} (hagrees : start.Agrees)
    (h : Throughout (fun database _ => database.ledger = start) w) :
      Course now pending start w := by
  have hsame : ∀ ledger ∈ ledgers start w, ledger = start := by
    intro ledger hledger
    rcases List.mem_cons.mp hledger with rfl | hpoint
    · rfl
    · obtain ⟨point, hmem, rfl⟩ := List.mem_map.mp hpoint
      exact h.2 point hmem
  refine ⟨by rw [h.1]; exact hagrees, ?_, ?_⟩
  · rw [h.1]
    exact hsame _ (List.getLast_mem _)
  · refine List.Pairwise.isChain (List.pairwise_of_forall_mem_list
      fun before hbefore after hafter => ?_)
    rw [hsame before hbefore, hsame after hafter]
    exact ArmsJustified.refl start

/-- A run of recovery from a ledger that agrees. -/
lemma course_recover (accountConfigured : Bool) {database : Database} {file : AccountFile}
    {outside : E} (hagrees : database.ledger.Agrees)
    (hevidence : NoProofAgainstEvidence gateway (pendingAttempts attemptText database.ledger)
      (clock outside).1 database.ledger) :
    Course (clock outside).1 (pendingAttempts attemptText database.ledger) database.ledger
      (finalState (recover (recordedService accountConfigured gateway clock attemptText
        executionText) ⟨database, file, (outside, []), []⟩)) := by
  set pending := pendingAttempts attemptText database.ledger
  set now := (clock outside).1
  set service := recordedService accountConfigured gateway clock attemptText executionText
  have horders : Triple
      (fun w => Attending gateway now pending database.ledger
        {orders | MayList gateway orders} ∅ w ∧
        pendingAttempts service.attemptText w.database.ledger = pending)
      (recoverOrders service now) (fun _ => Course now pending database.ledger)
      (Course now pending database.ledger) := by
    refine triple_imp (triple_recoverOrders
      (Q := fun orders _ => Attending gateway now pending database.ledger {orders} {orders})
      (L := fun _ _ => Course now pending database.ledger)
      (fun attempt _ => marks_attending attempt) ?_ ?_ (fun _ _ _ hw => hw.course) ?_)
      (fun _ hw => hw) ?_ ?_
    · intro g hg
      obtain ⟨plain, hplain, rfl⟩ := Option.map_eq_some_iff.mp hg
      exact triple_queryBroker_attending plain hplain
    · intro orders fills attempt hattempt
      exact keeps_recoverAttempt (marks_attending attempt) (fun _ => verifies_attending)
        (fun _ => resolves_attending hattempt) (answers_attending rfl orders fills attempt)
    · exact fun orders fills row => reconciles_course rfl orders fills row
    · rintro _ w (hw | ⟨-, -, hw⟩)
      · exact hw.course
      · exact hw
    · rintro w (hw | ⟨-, -, hw⟩)
      · exact hw.course
      · exact hw
  have haccounts : Triple (Throughout fun stored _ => stored.ledger = database.ledger)
      (recoverAccounts service.accountConfigured now : Service (E × List GatewayAnswer) _)
      (fun _ w =>
        Attending gateway now pending database.ledger {orders | MayList gateway orders} ∅ w ∧
          pendingAttempts service.attemptText w.database.ledger = pending)
      (Course now pending database.ledger) := by
    refine triple_imp (keeps_recoverAccounts_ledger (R := fun ledger => ledger = database.ledger))
      (fun _ hw => hw) (fun _ w hw => ?_)
      fun w hw => course_of_throughout hagrees hw
    have hledger : w.database.ledger = database.ledger := hw.1
    refine ⟨⟨course_of_throughout hagrees hw, by rw [hledger], fun _ h => h.elim, ?_⟩, ?_⟩
    · intro orders hmay attempt hattempt hkind hprovable aggregate hload hunlisted
      by_contra hsome
      rw [hledger] at hload
      rcases hevidence attempt hattempt hkind aggregate hload hsome with hlisted | hunprovable
      · obtain ⟨order, horder, hclient⟩ := hlisted orders hmay
        exact hunlisted order horder hclient
      · exact hunprovable hprovable
    · rw [hledger]
      rfl
  have haudit : ∀ row, Keeps (Course now pending database.ledger)
      (Service.transact (Database.appendAudit row) : Service (E × List GatewayAnswer) PUnit) := by
    intro row w hw
    unfold Service.transact
    cases hrun : Database.appendAudit row w.database with
    | error failure => exact hw
    | ok p =>
      obtain ⟨u, stored⟩ := p
      have hsame : stored.ledger = w.database.ledger :=
        ledger_appendAudit (R := fun ledger => ledger = w.database.ledger) _ _ _ rfl hrun
      refine hw.step (by rw [hsame]; exact hw.agrees) ?_
      rw [hsame]
      exact ArmsJustified.refl _
  have hclock : recover service ⟨database, file, (outside, []), []⟩ = (do
      let accounts ← recoverAccounts service.accountConfigured now
      let orders ← recoverOrders service now
      let result := report service (← get).database accounts.1 orders.1 (accounts.2 ++ orders.2)
      Service.transact (Database.appendAudit (reportAudit result now))
      pure result : Service (E × List GatewayAnswer) RecoveryReport)
        ⟨database, file, ((clock outside).2, []), []⟩ := rfl
  rw [hclock]
  refine Triple.finalState (triple_bind haccounts fun accounts => triple_bind horders fun found =>
    keeps_bind keeps_get fun w => keeps_bind (haudit _) fun _ => keeps_pure) ?_
  exact ⟨rfl, fun p hp => by cases hp⟩

/-- Recovery from any ledger that repository calls make, with any gateway: if no proof is returned
against evidence, then every durable step moves an execution to ARMED only when it was SUBMITTING
or UNKNOWN, the broker listed no order with its client order id and the gateway returned a proof
that fits a pending SUBMIT, and the execution had neither an order id nor a fill at the broker. -/
theorem armed_only_by_fitting_proof (accountConfigured : Bool)
    (gateway : Option (RecoveryGateway E)) (clock : E → DateTime × E)
    (attemptText : AttemptId → String) (executionText : ExecutionId → String)
    (calls : List Ledger.RepositoryCall) (database : Database) (file : AccountFile) (outside : E)
    (hledger : database.ledger = Ledger.empty.performAll calls)
    (hevidence : NoProofAgainstEvidence gateway (pendingAttempts attemptText database.ledger)
      (clock outside).1 database.ledger) :
    (ledgers database.ledger (finalState (recover (recordedService accountConfigured gateway clock
      attemptText executionText) ⟨database, file, (outside, []), []⟩))).IsChain
      (ArmsJustified (finalState (recover (recordedService accountConfigured gateway clock
        attemptText executionText) ⟨database, file, (outside, []), []⟩)).outside.2
        (clock outside).1 (pendingAttempts attemptText database.ledger)) := by
  have hagrees : database.ledger.Agrees := by
    rw [hledger]
    exact Ledger.agrees_performAll calls Ledger.agrees_empty
  exact (course_recover accountConfigured hagrees hevidence).steps

/-- An intent for 100 shares. -/
def provedIntent : ExecutionIntent where
  decisionId := "decision"
  uquantOrderId := "order"
  symbol := ⟨.sh, "600001"⟩
  side := .buy
  requestedShares := 100
  strategySession := 0
  uquantSourceSha := "uquant"
  requested_pos := hundred_pos

/-- Its command. -/
def provedCommand : BrokerOrderCommand where
  executionId := provedIntent.executionId
  idempotencyKey := provedIntent.idempotencyKey
  clientOrderId := "order"
  symbol := ⟨.sh, "600001"⟩
  side := .buy
  priceType := .limit
  requestedShares := 100
  limitPrice := ⟨10, ten_pos⟩
  strategySession := 0
  requested_pos := hundred_pos

/-- Its first attempt. -/
def provedAttempt : BrokerAttempt :=
  ⟨⟨provedIntent.executionId, 1, .submit⟩, provedIntent.executionId, 1, .submit⟩

/-- What the broker returned for it: an order id, and no status. -/
def returnedUnknown : BrokerOrderFact where
  brokerOrderId := "broker"
  clientOrderId := some "order"
  symbol := ⟨.sh, "600001"⟩
  side := .buy
  priceType := .limit
  status := .unknown
  requestedShares := 100
  filledShares := 0
  limitPrice := ⟨10, ten_pos⟩
  sessionDate := 0
  eventTime := 2
  receivedAt := 2
  eventSequence := 1
  rawPayloadSha256 := "returned"
  requested_pos := hundred_pos
  filled_le_requested := hundred_nonneg

/-- The calls up to the submission. -/
def submittedCalls : List Ledger.RepositoryCall :=
  [.appendIntent provedIntent 0, .onOrder provedIntent.executionId (.validateAndArm 0),
    .onOrder provedIntent.executionId (.beginSubmit provedCommand 1)]

/-- A gateway that lists nothing and proves the absence of every order. -/
def provingGateway : RecoveryGateway PUnit where
  health e := (.ok ⟨true, true, true, 5, by simp, by simp⟩, e)
  queryOrders e := (.ok [], e)
  queryFills e := (.ok [], e)
  proveOrderNotAccepted := some fun command e => (.ok (some ⟨command, 4, "proof"⟩), e)

/-- The run of recovery after the given calls. -/
def provedRun (calls : List Ledger.RepositoryCall) : Installation (PUnit × List GatewayAnswer) :=
  finalState (recover (recordedService false (some provingGateway) (fun e => (5, e)) (fun _ => "")
    (fun _ => "")) ⟨{ Database.empty with ledger := Ledger.empty.performAll calls }, ⟨none, none⟩,
      (⟨⟩, []), []⟩)

/-- What a ledger says of the execution. -/
def provedState (ledger : Ledger) : Option (OrderState × Option String) :=
  (ledger.load provedIntent.executionId).map fun a => (a.state, a.brokerOrderId)

/-- The broker answered the submission with an order id, but without a status. -/
def answeredCalls : List Ledger.RepositoryCall :=
  submittedCalls ++
    [.onOrder provedIntent.executionId (.recordSubmitResult provedAttempt returnedUnknown [] 2)]

lemma provedState_eq_some {ledger : Ledger} {state : OrderState} {brokerOrderId : Option String}
    (h : provedState ledger = some (state, brokerOrderId)) :
    ∃ aggregate, ledger.load provedIntent.executionId = some aggregate ∧ aggregate.state = state ∧
      aggregate.brokerOrderId = brokerOrderId := by
  obtain ⟨aggregate, hload, hpair⟩ := Option.map_eq_some_iff.mp h
  exact ⟨aggregate, hload, congrArg Prod.fst hpair, congrArg Prod.snd hpair⟩

/-- A submission without an answer is proved and armed again. -/
theorem unanswered_submission_armed :
    (provedRun submittedCalls).crashPoints.map (provedState ·.1.ledger) =
        [some (.armed, none), some (.armed, none)] ∧
      (ledgers (Ledger.empty.performAll submittedCalls) (provedRun submittedCalls)).IsChain
        (ArmsJustified (provedRun submittedCalls).outside.2 5
          (pendingAttempts (fun _ => "") (Ledger.empty.performAll submittedCalls))) := by
  refine ⟨by decide +kernel, armed_only_by_fitting_proof false (some provingGateway)
    (fun e => (5, e)) (fun _ => "") (fun _ => "") submittedCalls
    { Database.empty with ledger := Ledger.empty.performAll submittedCalls } ⟨none, none⟩ ⟨⟩ rfl ?_⟩
  intro attempt hattempt _ aggregate hload hevidence
  have hnone : ∀ attempt ∈ pendingAttempts (fun _ => "") (Ledger.empty.performAll submittedCalls),
      ∀ aggregate ∈ (Ledger.empty.performAll submittedCalls).load attempt.executionId,
        aggregate.brokerEvidence = (none, []) := by
    decide +kernel
  exact absurd (hnone attempt hattempt aggregate hload) hevidence

/-- A submission that the broker answered with an order id is armed again all the same. -/
theorem answered_submission_armed :
    ¬ (ledgers (Ledger.empty.performAll answeredCalls) (provedRun answeredCalls)).IsChain
      (ArmsJustified (provedRun answeredCalls).outside.2 5
        (pendingAttempts (fun _ => "") (Ledger.empty.performAll answeredCalls))) := by
  intro hchain
  have hbefore : provedState (Ledger.empty.performAll answeredCalls) =
    some (.unknown, some "broker") := by decide +kernel
  have hafter : (provedRun answeredCalls).crashPoints.head?.map (provedState ·.1.ledger) =
    some (some (.armed, some "broker")) := by decide +kernel
  obtain ⟨point, hpoint, hstate⟩ := Option.map_eq_some_iff.mp hafter
  obtain ⟨rest, hpoints⟩ := List.head?_eq_some_iff.mp hpoint
  unfold ledgers at hchain
  rw [hpoints, List.map_cons, List.isChain_cons_cons] at hchain
  obtain ⟨aggregate, hload, hunknown, hid⟩ := provedState_eq_some hbefore
  obtain ⟨next, hnext, harmed, -⟩ := provedState_eq_some hstate
  obtain ⟨-, hnone, -⟩ := hchain.1 _ aggregate next hload hnext (by simp [hunknown]) harmed
  rw [hid] at hnone
  cases hnone

end Run

end Recovery

end FirmQuant
