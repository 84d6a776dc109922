import FirmQuant.Persistence.MonotonicLedger

/-!
# How a repository call moves an order

A committed call of the repository moves one aggregate by transitions and otherwise writes to
tables that the orders are not read from.  `Evolves` says so once for every call, together with
the events that the call may issue; what holds of an order along all its calls is then a
property that each single transition keeps.
-/

namespace FirmQuant

open Effect

namespace Ledger

/-! ## Evolution -/

/-- The event reports no fill. -/
structure NotFill (event : OrderEvent) : Prop where
  id : ∀ brokerFillId, event.eventId ≠ .fill brokerFillId
  kind : ∀ fill, event.kind ≠ OrderAggregate.fillKind fill

/-- A write to tables that hold neither the orders nor their fills and events. -/
structure Aside (ledger ledger' : Ledger) : Prop where
  executionIntents : ledger'.executionIntents = ledger.executionIntents
  fills : ledger'.fills = ledger.fills
  domainEvents : ledger'.domainEvents = ledger.domainEvents

lemma Aside.trans {ledger ledger₁ ledger₂ : Ledger} (h₁ : Aside ledger ledger₁)
    (h₂ : Aside ledger₁ ledger₂) : Aside ledger ledger₂ where
  executionIntents := h₂.executionIntents.trans h₁.executionIntents
  fills := h₂.fills.trans h₁.fills
  domainEvents := h₂.domainEvents.trans h₁.domainEvents

/-- One step of a call: a transition by an allowed event, a fill that is recorded and then
applied, or a write to other tables. -/
inductive Evolve (allowed : OrderEvent → Prop) :
    OrderAggregate × Ledger → OrderAggregate × Ledger → Prop
  | event {aggregate next : OrderAggregate} {ledger ledger' : Ledger} {event : OrderEvent}
      {occurredAt : DateTime} : allowed event → NotFill event →
      transition aggregate event occurredAt ledger = .ok (next, ledger') →
      Evolve allowed (aggregate, ledger) (next, ledger')
  | fill {aggregate next : OrderAggregate} {ledger ledger₁ ledger' : Ledger} {u : PUnit}
      {fill : BrokerFillFact} {occurredAt : DateTime} : allowed (fillEvent fill) →
      recordFill fill aggregate.intent.executionId ledger = .ok (u, ledger₁) →
      transition aggregate (fillEvent fill) occurredAt ledger₁ = .ok (next, ledger') →
      Evolve allowed (aggregate, ledger) (next, ledger')
  | aside {aggregate : OrderAggregate} {ledger ledger' : Ledger} : Aside ledger ledger' →
      Evolve allowed (aggregate, ledger) (aggregate, ledger')

/-- What a call does with allowed events. -/
def Evolves (allowed : OrderEvent → Prop) :
    OrderAggregate × Ledger → OrderAggregate × Ledger → Prop :=
  Relation.ReflTransGen (Evolve allowed)

lemma recordFill_quiet {fill : BrokerFillFact} {executionId : ExecutionId} {u : PUnit}
    {ledger ledger' : Ledger} (h : recordFill fill executionId ledger = .ok (u, ledger')) :
    ledger'.executionIntents = ledger.executionIntents := by
  obtain ⟨evidence, ⟨-, rfl⟩ | ⟨-, rfl⟩⟩ := recordFill_writes h <;> rfl

section Evolves

variable {allowed allowed' : OrderEvent → Prop} {s t u : OrderAggregate × Ledger}

lemma Evolves.refl (s : OrderAggregate × Ledger) : Evolves allowed s s := Relation.ReflTransGen.refl

lemma Evolves.trans (h₁ : Evolves allowed s t) (h₂ : Evolves allowed t u) : Evolves allowed s u :=
  Relation.ReflTransGen.trans h₁ h₂

lemma Evolves.mono (h : Evolves allowed s t) (himp : ∀ e, allowed e → allowed' e) :
    Evolves allowed' s t := by
  induction h with
  | refl => exact Evolves.refl s
  | tail _ hstep ih =>
    refine Relation.ReflTransGen.tail ih ?_
    cases hstep with
    | event hallowed hplain htransition => exact .event (himp _ hallowed) hplain htransition
    | fill hallowed hrecord htransition => exact .fill (himp _ hallowed) hrecord htransition
    | aside haside => exact .aside haside

variable {aggregate : OrderAggregate}

lemma evolves_event {next : OrderAggregate} {ledger ledger' : Ledger}
    {event : OrderEvent} {occurredAt : DateTime} (hallowed : allowed event) (hplain : NotFill event)
    (h : transition aggregate event occurredAt ledger = .ok (next, ledger')) :
    Evolves allowed (aggregate, ledger) (next, ledger') :=
  Relation.ReflTransGen.single (.event hallowed hplain h)

lemma evolves_aside {ledger ledger' : Ledger}
    (h : Aside ledger ledger') : Evolves allowed (aggregate, ledger) (aggregate, ledger') :=
  Relation.ReflTransGen.single (.aside h)

/-- The invariant rule: what every allowed transition and every write beside the orders keeps,
the whole call keeps. -/
lemma Evolves.keeps {P : OrderAggregate → Ledger → Prop}
    (hevent : ∀ {aggregate next ledger ledger' event occurredAt}, allowed event →
      transition aggregate event occurredAt ledger = .ok (next, ledger') → P aggregate ledger →
      P next ledger')
    (hquiet : ∀ {aggregate ledger ledger'}, ledger'.executionIntents = ledger.executionIntents →
      P aggregate ledger → P aggregate ledger')
    (h : Evolves allowed s t) (hs : P s.1 s.2) : P t.1 t.2 := by
  induction h with
  | refl => exact hs
  | tail _ hstep ih =>
    cases hstep with
    | event hallowed _ htransition => exact hevent hallowed htransition ih
    | fill hallowed hrecord htransition =>
      exact hevent hallowed htransition (hquiet (recordFill_quiet hrecord) ih)
    | aside haside => exact hquiet haside.executionIntents ih

/-- A property of the aggregate alone, which only accepted events can change. -/
lemma Evolves.keeps_aggregate {P : OrderAggregate → Prop}
    (hevent : ∀ {aggregate next event}, allowed event → aggregate.apply event = .ok next →
      P aggregate → P next)
    (h : Evolves allowed s t) (hs : P s.1) : P t.1 := by
  refine h.keeps (P := fun aggregate _ => P aggregate) ?_ (fun _ hp => hp) hs
  intro aggregate next ledger ledger' event occurredAt hallowed htransition hp
  rcases transition_eq_ok htransition with ⟨rfl, -⟩ | ⟨happly, -⟩
  · exact hp
  · exact hevent hallowed happly hp

end Evolves

/-! ## Rows -/

/-- Every row of the aggregate's execution is in the state and at the version of the aggregate. -/
structure Holds (ledger : Ledger) (aggregate : OrderAggregate) : Prop where
  exists_row : ∃ row ∈ ledger.executionIntents, row.executionId = aggregate.intent.executionId
  current : ∀ row ∈ ledger.executionIntents, row.executionId = aggregate.intent.executionId →
    row.state = aggregate.state ∧ row.version = aggregate.version

/-- The rows of all executions but one. -/
def otherRows (ledger : Ledger) (executionId : ExecutionId) : List IntentRow :=
  ledger.executionIntents.filter (·.executionId ≠ executionId)

section Rows

variable {aggregate next : OrderAggregate} {ledger ledger' : Ledger} {event : OrderEvent}
  {occurredAt : DateTime} {allowed : OrderEvent → Prop} {s t : OrderAggregate × Ledger}

variable (h : transition aggregate event occurredAt ledger = .ok (next, ledger'))

include h

lemma transition_otherRows :
    ledger'.otherRows aggregate.intent.executionId =
      ledger.otherRows aggregate.intent.executionId := by
  rcases transition_eq_ok h with ⟨-, rfl, -⟩ | ⟨-, -, -, -, rfl⟩
  · rfl
  unfold otherRows advanceIntent
  dsimp only
  set move : IntentRow → IntentRow := fun row =>
    if row.executionId = aggregate.intent.executionId ∧ row.version = aggregate.version then
      IntentRow.advance row next occurredAt
    else row with hmove
  have hid : ∀ row, (move row).executionId = row.executionId := by
    intro row
    rw [hmove]
    dsimp only
    split
    · rfl
    · rfl
  rw [List.filter_map]
  have hother : ∀ row ∈ ledger.executionIntents.filter
      ((fun row => decide (row.executionId ≠ aggregate.intent.executionId)) ∘ move),
      move row = row := by
    intro row hrow
    have hne : row.executionId ≠ aggregate.intent.executionId := by
      simpa [hid] using (List.mem_filter.mp hrow).2
    exact if_neg fun hc => hne hc.1
  rw [List.map_congr_left hother, List.map_id']
  exact List.filter_congr fun row _ => by rw [Function.comp_apply, hid]

lemma transition_holds (hholds : ledger.Holds aggregate) : ledger'.Holds next := by
  have hintent := transition_intent h
  rcases transition_eq_ok h with ⟨rfl, rfl, -⟩ | ⟨-, -, -, -, rfl⟩
  · exact hholds
  -- Every row of the execution was at the version of the aggregate, so every one is advanced.
  have hadvanced : ∀ row ∈ (ledger.advanceIntent aggregate next occurredAt).executionIntents,
      row.executionId = aggregate.intent.executionId →
      row.state = next.state ∧ row.version = next.version := by
    intro row hrow hid
    obtain ⟨old, hold, rfl⟩ := List.mem_map.mp hrow
    by_cases hmatch : old.executionId = aggregate.intent.executionId ∧
        old.version = aggregate.version
    · rw [if_pos hmatch]
      exact ⟨rfl, rfl⟩
    · rw [if_neg hmatch] at hid
      exact absurd ⟨hid, (hholds.current old hold hid).2⟩ hmatch
  constructor
  · obtain ⟨row, hrow, hid⟩ := hholds.exists_row
    refine ⟨IntentRow.advance row next occurredAt, ?_, by rw [hintent]; exact hid⟩
    exact List.mem_map.mpr ⟨row, hrow, by rw [if_pos ⟨hid, (hholds.current row hrow hid).2⟩]⟩
  · rw [hintent]
    exact hadvanced

/-- A row of the ledger shows the aggregate as it is. -/
def Shows (ledger : Ledger) (aggregate : OrderAggregate) : Prop :=
  ∃ row ∈ ledger.executionIntents, row.executionId = aggregate.intent.executionId ∧
    row.aggregate = aggregate ∧ row.state = aggregate.state ∧ row.version = aggregate.version

/-- The row that shows an aggregate is the one that its transition advances. -/
lemma transition_shows (hshows : ledger.Shows aggregate) : ledger'.Shows next := by
  have hintent := transition_intent h
  rcases transition_eq_ok h with ⟨rfl, rfl, -⟩ | ⟨-, -, -, -, rfl⟩
  · exact hshows
  obtain ⟨row, hrow, hid, -, -, hversion⟩ := hshows
  refine ⟨IntentRow.advance row next occurredAt, ?_, by rw [hintent]; exact hid, rfl, rfl, rfl⟩
  exact List.mem_map.mpr ⟨row, hrow, if_pos ⟨hid, hversion⟩⟩

omit h

lemma Evolves.shows (h : Evolves allowed s t) (hs : s.2.Shows s.1) : t.2.Shows t.1 := by
  refine h.keeps (P := fun aggregate ledger => ledger.Shows aggregate)
    (fun _ htransition hp => transition_shows htransition hp) (fun hrows hp => ?_) hs
  unfold Shows
  rw [hrows]
  exact hp

/-- What a call does to the rows: the order moves along with its aggregate, and no other order
is touched. -/
structure MovesRow (s t : OrderAggregate × Ledger) : Prop where
  intent : t.1.intent = s.1.intent
  holds : s.2.Holds s.1 → t.2.Holds t.1
  otherRows : t.2.otherRows s.1.intent.executionId = s.2.otherRows s.1.intent.executionId

lemma MovesRow.trans {u : OrderAggregate × Ledger} (h₁ : MovesRow s t) (h₂ : MovesRow t u) :
    MovesRow s u := by
  refine ⟨h₂.intent.trans h₁.intent, fun hs => h₂.holds (h₁.holds hs), ?_⟩
  have hother := h₂.otherRows
  rw [h₁.intent] at hother
  exact hother.trans h₁.otherRows

lemma movesRow_quiet (h : ledger'.executionIntents = ledger.executionIntents) :
    MovesRow (aggregate, ledger) (aggregate, ledger') := by
  refine ⟨rfl, fun hs => ?_, ?_⟩
  · obtain ⟨hexists, hcurrent⟩ := hs
    exact ⟨h ▸ hexists, h ▸ hcurrent⟩
  · unfold Ledger.otherRows
    rw [h]

lemma movesRow_transition
    (h : transition aggregate event occurredAt ledger = .ok (next, ledger')) :
    MovesRow (aggregate, ledger) (next, ledger') :=
  ⟨transition_intent h, transition_holds h, transition_otherRows h⟩

/-- Every call moves the row of its order. -/
theorem Evolves.movesRow (h : Evolves allowed s t) : MovesRow s t := by
  induction h with
  | refl => exact movesRow_quiet rfl
  | tail _ hstep ih =>
    cases hstep with
    | event _ _ htransition => exact ih.trans (movesRow_transition htransition)
    | fill _ hrecord htransition =>
      exact ih.trans ((movesRow_quiet (recordFill_quiet hrecord)).trans
        (movesRow_transition htransition))
    | aside haside => exact ih.trans (movesRow_quiet haside.executionIntents)

end Rows

/-! ## The calls -/

/-- The events by which the repository applies the economics of a fact. -/
inductive BrokerEconomics : OrderEvent → Prop
  | ack (brokerOrderId : String) (sequence : ℕ) :
      BrokerEconomics ⟨.ack brokerOrderId sequence, .brokerAcknowledged brokerOrderId⟩
  | fill (fill : BrokerFillFact) : BrokerEconomics (fillEvent fill)

/-- The events by which the repository applies the status of a fact: it closes the order, or it
is unknown. -/
inductive BrokerStatus : OrderEvent → Prop
  | rejected (brokerOrderId : String) (sequence : ℕ) :
      BrokerStatus ⟨.recoveryRejected brokerOrderId sequence, .brokerRejected "BROKER_REJECTED"⟩
  | expired (brokerOrderId : String) (sequence : ℕ) :
      BrokerStatus ⟨.recoveryExpired brokerOrderId sequence, .orderExpired "BROKER_EXPIRED"⟩
  | cancelled (brokerOrderId : String) (sequence : ℕ) :
      BrokerStatus ⟨.recoveryCancelled brokerOrderId sequence,
        .cancelConfirmed (some brokerOrderId)⟩
  | unknown (brokerOrderId : String) (sequence : ℕ) :
      BrokerStatus ⟨.recoveryUnknown brokerOrderId sequence,
        .submitOutcomeUnknown "BROKER_STATUS_UNKNOWN"⟩

lemma notFill_status {event : OrderEvent} (h : BrokerStatus event) : NotFill event := by
  cases h <;> exact ⟨by simp, by simp [OrderAggregate.fillKind]⟩

/-- The events by which the repository applies broker truth. -/
def BrokerTruth (event : OrderEvent) : Prop := BrokerEconomics event ∨ BrokerStatus event

/-- The event by which the outcome of an attempt becomes unknown. -/
inductive OutcomeUnknown (attempt : BrokerAttempt) : OrderEvent → Prop
  | submit (code : String) : attempt.commandKind = .submit →
      OutcomeUnknown attempt ⟨.unknown attempt.attemptId code, .submitOutcomeUnknown code⟩
  | cancel (code : String) : attempt.commandKind = .cancel →
      OutcomeUnknown attempt ⟨.unknown attempt.attemptId code, .cancelOutcomeUnknown code⟩

lemma notFill_outcomeUnknown {attempt : BrokerAttempt} {event : OrderEvent}
    (h : OutcomeUnknown attempt event) : NotFill event := by
  cases h <;> exact ⟨by simp, by simp [OrderAggregate.fillKind]⟩

section Calls

variable {aggregate next : OrderAggregate} {attempt : BrokerAttempt} {fact : BrokerOrderFact}
  {fills : List BrokerFillFact} {receivedAt : DateTime} {ledger ledger' : Ledger}

variable {message : Option String} {u : PUnit} {evidence : FailureEvidence}

lemma conflict_eq_ok
    (h : conflict message ledger = .ok (u, ledger')) : message = none ∧ ledger' = ledger := by
  cases message with
  | none =>
    cases h
    exact ⟨rfl, rfl⟩
  | some text => cases h

lemma conflict_bind_eq_ok {α : Type} {f : PUnit → LedgerTxn α} {r : α × Ledger} :
    (conflict message >>= f) ledger = .ok r ↔ message = none ∧ f ⟨⟩ ledger = .ok r := by
  rw [Txn.bind_run]
  cases message <;> simp [conflict]

lemma recordBrokerOrder_aside {executionId : ExecutionId}
    (h : recordBrokerOrder fact executionId ledger = .ok (u, ledger')) : Aside ledger ledger' := by
  cases recordBrokerOrder_ok h <;> exact ⟨rfl, rfl, rfl⟩

variable {kind : CommandKind}

lemma completeAttemptIdempotently_aside
    (h : completeAttemptIdempotently attempt fact kind receivedAt ledger = .ok (u, ledger')) :
    Aside ledger ledger' := by
  unfold completeAttemptIdempotently at h
  split at h
  · cases h
    exact ⟨rfl, rfl, rfl⟩
  · split_ifs at h
    cases h
    exact ⟨rfl, rfl, rfl⟩

lemma applyFills_evolves {current : OrderAggregate} :
    applyFills current fills ledger = .ok (next, ledger') →
      Evolves BrokerEconomics (current, ledger) (next, ledger') := by
  induction fills generalizing current ledger with
  | nil =>
    intro h
    cases h
    exact Evolves.refl _
  | cons fill rest ih =>
    intro h
    obtain ⟨u, ledger₁, hrecord, h⟩ := Txn.bind_eq_ok.mp h
    obtain ⟨moved, ledger₂, htransition, h⟩ := Txn.bind_eq_ok.mp h
    have hfill : Evolves BrokerEconomics (current, ledger) (moved, ledger₂) :=
      Relation.ReflTransGen.single (.fill (.fill fill) hrecord htransition)
    exact hfill.trans (ih h)

lemma applyBrokerEconomics_evolves
    (h : applyBrokerEconomics aggregate fact fills receivedAt ledger = .ok (next, ledger')) :
    Evolves BrokerEconomics (aggregate, ledger) (next, ledger') := by
  obtain ⟨current, ledger₁, hack, h⟩ := Txn.bind_eq_ok.mp h
  refine Evolves.trans ?_ (applyFills_evolves h)
  unfold acknowledge at hack
  split_ifs at hack
  · exact evolves_event (.ack _ _) ⟨by simp, by simp [OrderAggregate.fillKind]⟩ hack
  · cases hack
    exact Evolves.refl _

lemma applyTerminalFact_evolves
    (h : applyTerminalFact aggregate fact receivedAt ledger = .ok (next, ledger')) :
    Evolves BrokerStatus (aggregate, ledger) (next, ledger') := by
  unfold applyTerminalFact at h
  split_ifs at h
  · cases h
    exact Evolves.refl _
  have hopen : (pure aggregate : LedgerTxn OrderAggregate) ledger = .ok (next, ledger') →
      Evolves BrokerStatus (aggregate, ledger) (next, ledger') := by
    intro hpure
    cases hpure
    exact Evolves.refl _
  cases hstatus : fact.status with
  | rejected =>
    simp only [hstatus] at h
    exact evolves_event (.rejected _ _) (notFill_status (.rejected _ _)) h
  | expired =>
    simp only [hstatus] at h
    exact evolves_event (.expired _ _) (notFill_status (.expired _ _)) h
  | cancelled =>
    simp only [hstatus] at h
    exact evolves_event (.cancelled _ _) (notFill_status (.cancelled _ _)) h
  | pendingNew | acknowledged | partiallyFilled | filled | pendingCancel | unknown =>
    simp only [hstatus] at h
    exact hopen h

/-- A queried fact moves an order by broker truth. -/
theorem reconcileBrokerFact_evolves
    (h : reconcileBrokerFact aggregate fact fills receivedAt ledger = .ok (next, ledger')) :
    Evolves BrokerTruth (aggregate, ledger) (next, ledger') := by
  obtain ⟨-, h₁⟩ := conflict_bind_eq_ok.mp h
  obtain ⟨ordered, -, h₂⟩ := Txn.lift_bind_eq_ok.mp h₁
  obtain ⟨-, h₃⟩ := conflict_bind_eq_ok.mp h₂
  obtain ⟨_, ledger₄, hrecord, h₄⟩ := Txn.bind_eq_ok.mp h₃
  obtain ⟨current, ledger₅, heconomics, h₅⟩ := Txn.bind_eq_ok.mp h₄
  obtain ⟨final, ledger₆, hstatus, h₆⟩ := Txn.bind_eq_ok.mp h₅
  obtain ⟨-, h₇⟩ := conflict_bind_eq_ok.mp h₆
  cases h₇
  refine (evolves_aside (recordBrokerOrder_aside hrecord)).trans
    (((applyBrokerEconomics_evolves heconomics).mono fun _ => .inl).trans ?_)
  unfold applyQueriedStatus at hstatus
  split_ifs at hstatus
  · exact evolves_event (.inr (.unknown _ _)) (notFill_status (.unknown _ _)) hstatus
  · exact (applyTerminalFact_evolves hstatus).mono fun _ => .inr

lemma markAttemptUnknown_eq_ok {code : String}
    (h : markAttemptUnknown aggregate attempt code receivedAt ledger = .ok (next, ledger')) :
    ∃ event ledger₁, OutcomeUnknown attempt event ∧
      transition aggregate event receivedAt ledger = .ok (next, ledger₁) ∧
      Aside ledger₁ ledger' := by
  unfold markAttemptUnknown at h
  cases hkind : attempt.commandKind with
  | submit =>
    simp only [hkind] at h
    obtain ⟨moved, ledger₁, htransition, h⟩ := Txn.bind_eq_ok.mp h
    obtain ⟨_, ledger₂, hupdate, h⟩ := Txn.bind_eq_ok.mp h
    cases hupdate
    cases h
    exact ⟨_, ledger₁, .submit code hkind, htransition, rfl, rfl, rfl⟩
  | cancel =>
    simp only [hkind] at h
    obtain ⟨moved, ledger₁, htransition, h⟩ := Txn.bind_eq_ok.mp h
    obtain ⟨_, ledger₂, hupdate, h⟩ := Txn.bind_eq_ok.mp h
    cases hupdate
    cases h
    exact ⟨_, ledger₁, .cancel code hkind, htransition, rfl, rfl, rfl⟩

/-- A returned result applies the economics of its fact to the order.  Then the outcome of the
attempt becomes unknown, or the status of the fact is applied; for a cancel the latter needs a
terminal status. -/
theorem recordReturnedResult_cases
    (h : recordReturnedResult aggregate attempt fact fills kind receivedAt ledger =
      .ok (next, ledger')) :
    factViolation aggregate fact = none ∧ attempt.commandKind = kind ∧
    ∃ ordered ledger₀ current ledger₁, Aside ledger ledger₀ ∧
      applyBrokerEconomics aggregate fact ordered receivedAt ledger₀ = .ok (current, ledger₁) ∧
      ((∃ code, markAttemptUnknown current attempt code receivedAt ledger₁ = .ok (next, ledger')) ∨
        (applyTerminalFact current fact receivedAt ledger₁ = .ok (next, ledger') ∧
          (kind = .cancel → fact.status ∈ BrokerOrderStatus.terminal) ∧
          next.filledShares = fact.filledShares)) := by
  obtain ⟨hfact, h₁⟩ := conflict_bind_eq_ok.mp h
  obtain ⟨held, ledger₂, hget, h₂⟩ := Txn.bind_eq_ok.mp h₁
  cases hget
  obtain ⟨hcommand, h₃⟩ := conflict_bind_eq_ok.mp h₂
  obtain ⟨ordered, -, h₄⟩ := Txn.lift_bind_eq_ok.mp h₃
  obtain ⟨-, h₅⟩ := conflict_bind_eq_ok.mp h₄
  obtain ⟨_, ledger₆, hrecord, h₆⟩ := Txn.bind_eq_ok.mp h₅
  obtain ⟨_, ledger₇, hcomplete, h₇⟩ := Txn.bind_eq_ok.mp h₆
  obtain ⟨current, ledger₈, heconomics, h₈⟩ := Txn.bind_eq_ok.mp h₇
  have hkind : attempt.commandKind = kind := by
    unfold attemptViolation at hcommand
    split_ifs at hcommand with hbelongs
    exact not_not.mp (not_or.mp hbelongs).2
  have haside := (recordBrokerOrder_aside hrecord).trans
    (completeAttemptIdempotently_aside hcomplete)
  refine ⟨hfact, hkind, ordered, ledger₇, current, ledger₈, haside, heconomics, ?_⟩
  unfold applyReturnedStatus at h₈
  split_ifs at h₈ with hmissing hunknown hunproven
  iterate 3 exact .inl ⟨_, h₈⟩
  · obtain ⟨final, ledger₉, hterminal, h₉⟩ := Txn.bind_eq_ok.mp h₈
    obtain ⟨hshares, h₁₀⟩ := conflict_bind_eq_ok.mp h₉
    cases h₁₀
    refine .inr ⟨hterminal, fun hcancel => ?_, ?_⟩
    · exact not_not.mp fun hopen => hunproven ⟨hcancel, hopen⟩
    · exact not_not.mp fun hne => by simp [hne] at hshares

/-! ## Every call -/

/-- The events of the repository, with the attempts whose outcome they settle. -/
inductive CallEvent (own : BrokerAttempt → Prop) : OrderEvent → Prop
  | validated (executionId : ExecutionId) : CallEvent own ⟨.validate executionId, .orderValidated⟩
  | armed (executionId : ExecutionId) : CallEvent own ⟨.arm executionId, .orderArmed⟩
  | submitStarted (executionId : ExecutionId) (number : ℕ) :
      CallEvent own ⟨.submitStarted executionId number, .submitStarted⟩
  | cancelRequested (executionId : ExecutionId) (number : ℕ) :
      CallEvent own ⟨.cancelRequested executionId number, .cancelRequested⟩
  | truth {event : OrderEvent} : BrokerTruth event → CallEvent own event
  | outcomeUnknown {attempt : BrokerAttempt} {event : OrderEvent} : own attempt →
      OutcomeUnknown attempt event → CallEvent own event
  | submitNotAccepted {attempt : BrokerAttempt} (evidence : FailureEvidence) : own attempt →
      CallEvent own ⟨.submitNotAccepted attempt.attemptId evidence, .submitNotAccepted evidence⟩
  | unknownNotAccepted {attempt : BrokerAttempt} (evidence : FailureEvidence) : own attempt →
      CallEvent own
        ⟨.submitNotAccepted attempt.attemptId evidence, .unknownResolvedNotAccepted evidence⟩
  | cancelNotAccepted {attempt : BrokerAttempt} (evidence : FailureEvidence) : own attempt →
      CallEvent own ⟨.cancelNotAccepted attempt.attemptId evidence, .cancelNotAccepted evidence⟩

variable {own : BrokerAttempt → Prop}

lemma validateAndArm_evolves
    (h : validateAndArm aggregate receivedAt ledger = .ok (next, ledger')) :
    Evolves (CallEvent own) (aggregate, ledger) (next, ledger') := by
  refine validateAndArm_keeps
    (P := fun a l => Evolves (CallEvent own) (aggregate, ledger) (a, l)) h (Evolves.refl _)
    fun hevent hevolves h => hevolves.trans ?_
  rcases hevent with rfl | rfl
  · exact evolves_event (.validated _) ⟨by simp, by simp [OrderAggregate.fillKind]⟩ h
  · exact evolves_event (.armed _) ⟨by simp, by simp [OrderAggregate.fillKind]⟩ h

lemma markAttemptUnknown_evolves {code : String} (hown : own attempt)
    (h : markAttemptUnknown aggregate attempt code receivedAt ledger = .ok (next, ledger')) :
    Evolves (CallEvent own) (aggregate, ledger) (next, ledger') := by
  obtain ⟨event, ledger₁, hunknown, htransition, haside⟩ := markAttemptUnknown_eq_ok h
  exact (evolves_event (.outcomeUnknown hown hunknown) (notFill_outcomeUnknown hunknown)
    htransition).trans (evolves_aside haside)

lemma recordReturnedResult_evolves (hown : own attempt)
    (h : recordReturnedResult aggregate attempt fact fills kind receivedAt ledger =
      .ok (next, ledger')) : Evolves (CallEvent own) (aggregate, ledger) (next, ledger') := by
  obtain ⟨-, -, ordered, ledger₀, current, ledger₁, haside, heconomics, hrest⟩ :=
    recordReturnedResult_cases h
  refine (evolves_aside haside).trans
    (((applyBrokerEconomics_evolves heconomics).mono fun _ he => .truth (.inl he)).trans ?_)
  rcases hrest with ⟨code, hmark⟩ | ⟨hterminal, -⟩
  · exact markAttemptUnknown_evolves hown hmark
  · exact (applyTerminalFact_evolves hterminal).mono fun _ he => .truth (.inr he)

lemma resolveSubmitNotAccepted_evolves (hown : own attempt)
    (h : resolveSubmitNotAccepted aggregate attempt evidence receivedAt ledger =
      .ok (next, ledger')) : Evolves (CallEvent own) (aggregate, ledger) (next, ledger') := by
  unfold resolveSubmitNotAccepted at h
  obtain ⟨current, ledger₁, htransition, h⟩ := Txn.bind_eq_ok.mp h
  obtain ⟨_, ledger₂, hupdate, h⟩ := Txn.bind_eq_ok.mp h
  cases hupdate
  cases h
  refine Evolves.trans (t := (next, ledger₁)) ?_ (evolves_aside ⟨rfl, rfl, rfl⟩)
  split_ifs at htransition
  · exact evolves_event (.unknownNotAccepted evidence hown)
      ⟨by simp, by simp [OrderAggregate.fillKind]⟩ htransition
  · exact evolves_event (.submitNotAccepted evidence hown)
      ⟨by simp, by simp [OrderAggregate.fillKind]⟩ htransition

lemma resolveCancelNotAccepted_evolves (hown : own attempt)
    (h : resolveCancelNotAccepted aggregate attempt evidence receivedAt ledger =
      .ok (next, ledger')) : Evolves (CallEvent own) (aggregate, ledger) (next, ledger') := by
  obtain ⟨current, ledger₁, htransition, h⟩ := Txn.bind_eq_ok.mp h
  obtain ⟨_, ledger₂, hupdate, h⟩ := Txn.bind_eq_ok.mp h
  cases hupdate
  cases h
  exact (evolves_event (.cancelNotAccepted evidence hown)
    ⟨by simp, by simp [OrderAggregate.fillKind]⟩ htransition).trans
    (evolves_aside ⟨rfl, rfl, rfl⟩)

variable {payload : CommandPayload} {command : BrokerOrderCommand}

lemma insertAttempt_aside
    (h : insertAttempt aggregate kind payload receivedAt ledger = .ok (attempt, ledger')) :
    Aside ledger ledger' := by
  cases h
  exact ⟨rfl, rfl, rfl⟩

lemma insertAttempt_attempt
    (h : insertAttempt aggregate kind payload receivedAt ledger = .ok (attempt, ledger')) :
    ∃ row ∈ ledger'.attempts, row.state = .submitting ∧ row.startedAt = receivedAt ∧
      ∃ stored ∈ ledger'.commands, stored.attemptId = row.attemptId ∧ stored.payload = payload := by
  cases h
  exact ⟨_, List.mem_concat_self, rfl, rfl, _,
    List.mem_concat_self, rfl, rfl⟩

/-- What a committed `begin_submit` did: the transition to SUBMITTING, and an attempt of its
kind. -/
lemma beginSubmit_eq_ok
    (h : beginSubmit aggregate command receivedAt ledger = .ok ((next, attempt), ledger')) :
    aggregate.state = .armed ∧ attempt.commandKind = .submit ∧
      attempt.attemptId.commandKind = .submit ∧
      ∃ ledger₁, transition aggregate ⟨.submitStarted aggregate.intent.executionId
          (aggregate.submitAttempts + 1), .submitStarted⟩ receivedAt ledger = .ok (next, ledger₁) ∧
        Aside ledger₁ ledger' := by
  obtain ⟨hstate, -, ledger₁, htransition, hinsert⟩ := beginSubmit_writes h
  have haside := insertAttempt_aside hinsert
  cases hinsert
  exact ⟨hstate, rfl, rfl, ledger₁, htransition, haside⟩

/-- What a committed `begin_cancel` did. -/
lemma beginCancel_eq_ok
    (h : beginCancel aggregate receivedAt ledger = .ok ((next, attempt), ledger')) :
    attempt.commandKind = .cancel ∧ attempt.attemptId.commandKind = .cancel ∧
      ∃ ledger₁, transition aggregate ⟨.cancelRequested aggregate.intent.executionId
          (aggregate.cancelRequests + 1), .cancelRequested⟩ receivedAt ledger =
            .ok (next, ledger₁) ∧
        Aside ledger₁ ledger' := by
  obtain ⟨brokerOrderId, -, ledger₁, htransition, hinsert⟩ := beginCancel_writes h
  have haside := insertAttempt_aside hinsert
  cases hinsert
  exact ⟨rfl, rfl, ledger₁, htransition, haside⟩

lemma beginSubmit_evolves
    (h : beginSubmit aggregate command receivedAt ledger = .ok ((next, attempt), ledger')) :
    Evolves (CallEvent own) (aggregate, ledger) (next, ledger') := by
  obtain ⟨-, -, -, ledger₁, htransition, haside⟩ := beginSubmit_eq_ok h
  exact (evolves_event (.submitStarted _ _) ⟨by simp, by simp [OrderAggregate.fillKind]⟩
    htransition).trans (evolves_aside haside)

lemma beginCancel_evolves
    (h : beginCancel aggregate receivedAt ledger = .ok ((next, attempt), ledger')) :
    Evolves (CallEvent own) (aggregate, ledger) (next, ledger') := by
  obtain ⟨-, -, ledger₁, htransition, haside⟩ := beginCancel_eq_ok h
  exact (evolves_event (.cancelRequested _ _) ⟨by simp, by simp [OrderAggregate.fillKind]⟩
    htransition).trans (evolves_aside haside)

/-- The attempt that `begin_submit` records. -/
lemma beginSubmit_attempt
    (h : beginSubmit aggregate command receivedAt ledger = .ok ((next, attempt), ledger')) :
    ∃ row ∈ ledger'.attempts, row.state = .submitting ∧ row.startedAt = receivedAt ∧
      ∃ stored ∈ ledger'.commands, stored.attemptId = row.attemptId ∧
        stored.payload = .submit command := by
  obtain ⟨-, -, ledger₁, -, hinsert⟩ := beginSubmit_writes h
  exact insertAttempt_attempt hinsert

/-- The attempt that `begin_cancel` records. -/
lemma beginCancel_attempt {brokerOrderId : String}
    (hid : aggregate.brokerOrderId = some brokerOrderId)
    (h : beginCancel aggregate receivedAt ledger = .ok ((next, attempt), ledger')) :
    ∃ row ∈ ledger'.attempts, row.state = .submitting ∧ row.startedAt = receivedAt ∧
      ∃ stored ∈ ledger'.commands, stored.attemptId = row.attemptId ∧
        stored.payload = .cancel brokerOrderId := by
  obtain ⟨id, hsome, ledger₁, -, hinsert⟩ := beginCancel_writes h
  obtain rfl := Option.some.inj (hid.symm.trans hsome)
  exact insertAttempt_attempt hinsert

section Moves

variable {evidence : FailureEvidence} {kind : CommandKind} {code : String}

lemma beginSubmit_movesRow
    (h : beginSubmit aggregate command receivedAt ledger = .ok ((next, attempt), ledger')) :
    MovesRow (aggregate, ledger) (next, ledger') :=
  (beginSubmit_evolves h : Evolves (CallEvent (attempt = ·)) _ _).movesRow

lemma beginCancel_movesRow
    (h : beginCancel aggregate receivedAt ledger = .ok ((next, attempt), ledger')) :
    MovesRow (aggregate, ledger) (next, ledger') :=
  (beginCancel_evolves h : Evolves (CallEvent (attempt = ·)) _ _).movesRow

end Moves

/-- A new order is held, beside all the orders that were there. -/
lemma openNew_movesRow {intent : ExecutionIntent} {ledger₁ : Ledger}
    (hnew : ledger.findEconomicOrder intent.decisionId intent.uquantOrderId = none)
    (happend : appendIntent intent receivedAt ledger = .ok (aggregate, ledger₁))
    (harm : validateAndArm aggregate receivedAt ledger₁ = .ok (next, ledger')) :
    next.intent = intent ∧ ledger'.Holds next ∧
      ledger'.otherRows intent.executionId = ledger.otherRows intent.executionId := by
  obtain ⟨rfl, hids, rfl⟩ := appendIntent_new hnew happend
  have hevolves : Evolves (CallEvent fun _ => False)
    (OrderAggregate.fromIntent intent, { ledger with
      executionIntents := ledger.executionIntents ++ [intentRow intent receivedAt] })
      (next, ledger') := validateAndArm_evolves harm
  have hmoves := hevolves.movesRow
  refine ⟨hmoves.intent, hmoves.holds ⟨⟨intentRow intent receivedAt, by simp, rfl⟩, ?_⟩, ?_⟩
  · intro row hrow hid
    rcases List.mem_snoc.mp hrow with hrow | hrow
    · exact absurd hid (hids row hrow)
    · rw [hrow]
      exact ⟨rfl, rfl⟩
  · have hother := hmoves.otherRows
    rw [show (OrderAggregate.fromIntent intent).intent = intent from rfl] at hother
    rw [hother]
    simp [otherRows, List.filter_append, intentRow]

end Calls

/-! ## What the writes of single tables keep -/

/-- An assertion that no write of a transition, an attempt or a fact breaks. -/
structure KeptByWrites (I : Ledger → Prop) : Prop where
  transition : ∀ {aggregate event time}, Txn.Preserves I (transition aggregate event time)
  updateAttempt : ∀ {attemptId change}, (∀ row : AttemptRow,
    (change row).attemptId = row.attemptId ∧ (change row).startedAt = row.startedAt) →
      Txn.Preserves I (updateAttempt attemptId change)
  responses : ∀ {ledger : Ledger} {responses}, I ledger → I { ledger with responses := responses }
  recordBrokerOrder : ∀ {fact executionId}, Txn.Preserves I (recordBrokerOrder fact executionId)
  recordFill : ∀ {fill executionId}, Txn.Preserves I (recordFill fill executionId)

namespace KeptByWrites

variable {I : Ledger → Prop} {aggregate : OrderAggregate} {attempt : BrokerAttempt}
  {fact : BrokerOrderFact} {fills : List BrokerFillFact} {kind : CommandKind} {time : DateTime}

lemma conflict {message : Option String} : Txn.Preserves I (conflict message) := by
  intro ledger u ledger' hs h
  rw [(conflict_eq_ok h).2]
  exact hs

variable (hI : KeptByWrites I)

include hI

lemma markAttemptUnknown {code : String} :
    Txn.Preserves I (markAttemptUnknown aggregate attempt code time) :=
  Txn.preserves_bind hI.transition fun _ => Txn.preserves_bind
    (hI.updateAttempt fun _ => ⟨rfl, rfl⟩) fun _ => Txn.preserves_pure

lemma completeAttempt :
    Txn.Preserves I (completeAttemptIdempotently attempt fact kind time) := by
  intro ledger u ledger' hs h
  unfold completeAttemptIdempotently at h
  split at h
  · have hcomplete : Txn.Preserves I
        (Ledger.completeAttempt attempt fact kind fact.responsePayload time) :=
      Txn.preserves_bind (Txn.preserves_modify fun _ hs => hI.responses hs) fun _ =>
        hI.updateAttempt fun _ => ⟨rfl, rfl⟩
    exact hcomplete ledger u ledger' hs h
  · split_ifs at h
    cases h
    exact hs

lemma acknowledge :
    Txn.Preserves I (acknowledge aggregate fact time) := by
  unfold Ledger.acknowledge
  split_ifs
  · exact hI.transition
  · exact Txn.preserves_pure

lemma applyBrokerEconomics :
    Txn.Preserves I (applyBrokerEconomics aggregate fact fills time) := by
  have hfills : ∀ (fills : List BrokerFillFact) (current : OrderAggregate),
      Txn.Preserves I (applyFills current fills) := by
    intro fills
    induction fills with
    | nil => exact fun current => Txn.preserves_pure
    | cons fill rest ih =>
      exact fun current => Txn.preserves_bind hI.recordFill fun _ =>
        Txn.preserves_bind hI.transition fun next => ih next
  exact Txn.preserves_bind hI.acknowledge fun current => hfills fills current

lemma applyTerminalFact :
    Txn.Preserves I (applyTerminalFact aggregate fact time) := by
  unfold Ledger.applyTerminalFact
  split_ifs
  · exact Txn.preserves_pure
  · split
    iterate 3 exact hI.transition
    · exact Txn.preserves_pure

omit hI

lemma lift {α : Type} {result : Except Failure α} : Txn.Preserves I (Txn.lift result) := by
  intro ledger a ledger' hs h
  obtain rfl : ledger' = ledger := (Txn.lift_eq_ok.mp h).2
  exact hs

lemma recordReturnedResult (hI : KeptByWrites I) :
    Txn.Preserves I (recordReturnedResult aggregate attempt fact fills kind time) := by
  unfold Ledger.recordReturnedResult
  refine Txn.preserves_bind conflict fun _ => ?_
  refine Txn.preserves_bind (fun _ _ _ hs h => by cases h; exact hs) fun held => ?_
  refine Txn.preserves_bind conflict fun _ => ?_
  refine Txn.preserves_bind lift fun ordered => ?_
  refine Txn.preserves_bind conflict fun _ => ?_
  refine Txn.preserves_bind hI.recordBrokerOrder fun _ => ?_
  refine Txn.preserves_bind hI.completeAttempt fun _ => ?_
  refine Txn.preserves_bind hI.applyBrokerEconomics fun current => ?_
  unfold applyReturnedStatus
  split_ifs
  iterate 3 exact hI.markAttemptUnknown
  · exact Txn.preserves_bind hI.applyTerminalFact fun _ =>
      Txn.preserves_bind conflict fun _ => Txn.preserves_pure

end KeptByWrites

end Ledger

end FirmQuant
