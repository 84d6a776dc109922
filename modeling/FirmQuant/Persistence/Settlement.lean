import FirmQuant.Persistence.Evolution

/-!
# What the answers to a write settle

An order that was answered by the broker is acknowledged, partly filled, closed or unknown, and
stays so.  An answered cancel settles it: when `record_cancel_result` commits, the order is
closed or unknown.  The reason is a set of facts about the events an order has seen (`Tracked`),
which every call keeps.
-/

namespace FirmQuant

open Effect

namespace OrderAggregate

/-- The states of an order that the broker has answered for. -/
def answered : List OrderState := OrderState.openStates ++ OrderState.terminal ++ [.unknown]

/-- The event ids that close an order. -/
def Closing : EventId → Prop
  | .recoveryRejected _ _ => True
  | .recoveryExpired _ _ => True
  | .recoveryCancelled _ _ => True
  | _ => False

/-- What the events of an order say about it: an order that is not closed misses shares, an
event that closes an order has closed it, and only submissions have become unknown. -/
structure Tracked (a : OrderAggregate) : Prop where
  misses : MissesShares a
  closed : ∀ e ∈ a.appliedEvents, Closing e.eventId → a.state ∈ OrderState.terminal
  submits : ∀ e ∈ a.appliedEvents, ∀ attempt code, e.eventId = .unknown attempt code →
    attempt.commandKind = .submit

section Apply

variable {a a' : OrderAggregate} {event : OrderEvent}

/-- An accepted event keeps `Tracked` if it closes what its id says and is not an unknown
cancel. -/
lemma Tracked.apply (ha : Tracked a) (h : a.apply event = .ok a')
    (hclosing : Closing event.eventId → a'.state ∈ OrderState.terminal)
    (hsubmit : ∀ attempt code, event.eventId = .unknown attempt code →
      attempt.commandKind = .submit) : Tracked a' := by
  rcases apply_cases h with rfl | hadv
  · exact ha
  have hmem : ∀ e ∈ a'.appliedEvents, e ∈ a.appliedEvents ∨ e = event := by
    intro e he
    rwa [hadv.appliedEvents, List.mem_append, List.mem_singleton] at he
  refine ⟨apply_missesShares h ha.misses, fun e he hc => ?_, fun e he => ?_⟩
  · rcases hmem e he with he | rfl
    · have hterm := ha.closed e he hc
      rwa [apply_terminal h hterm]
    · exact hclosing hc
  · rcases hmem e he with he | rfl
    · exact ha.submits e he
    · exact hsubmit

lemma applyNew_ack {id : EventId} {brokerOrderId : String}
    (h : a.applyNew ⟨id, .brokerAcknowledged brokerOrderId⟩ = .ok a') :
    a'.state = .acknowledged ∨ a'.state = a.state := by
  simp only [applyNew] at h
  split_ifs at h
  · exact .inl (updated_state h)
  · exact .inr (updated_state h)
  · exact .inr (updated_state h)
  · exact .inl (updated_state h)

/-- What a new fill does to the state. -/
lemma applyNew_fill {id : EventId} {fillId orderId : String} {shares : ℕ} {price : Price}
    {hpos : 0 < shares} (h : a.applyNew ⟨id,
      .fillReported fillId orderId shares price hpos⟩ = .ok a') :
    a'.state = a.state ∨ a'.state = .filled ∨
      (a.state ≠ .cancelRequested ∧ a'.state = .partiallyFilled) := by
  rcases applyFill_cases (show a.applyFill _ ⟨fillId, orderId, shares, price, hpos⟩ = .ok a' from h)
    with ⟨rfl, -⟩ | ⟨-, hupd⟩ | ⟨-, hupd⟩
  · exact .inl rfl
  · exact .inl (updated_state hupd)
  · have hstate := updated_state hupd
    unfold fillTarget at hstate
    split_ifs at hstate with hfull hcancel
    · exact .inr (.inl hstate)
    · exact .inl (hstate.trans hcancel.symm)
    · exact .inr (.inr ⟨hcancel, hstate⟩)

lemma applyNew_status (hstatus : Ledger.BrokerStatus event) (h : a.applyNew event = .ok a') :
    a'.state ∈ OrderState.terminal ∨ (¬ Closing event.eventId ∧ a'.state = .unknown) := by
  cases hstatus with
  | rejected brokerOrderId sequence =>
    simp only [applyNew] at h
    split_ifs at h with hterm
    · exact .inl (updated_state h ▸ hterm)
    · exact .inl (by rw [updated_state h]; decide)
  | expired brokerOrderId sequence => exact .inl (by rw [updated_state h]; decide)
  | cancelled brokerOrderId sequence =>
    simp only [applyNew] at h
    split_ifs at h with _ hfilled
    · exact .inl (by rw [updated_state h, hfilled]; decide)
    · exact .inl (by rw [updated_state h]; decide)
  | unknown brokerOrderId sequence =>
    simp only [applyNew] at h
    split_ifs at h with hterm
    · rcases List.mem_cons.mp hterm with hunknown | hterm
      · exact .inr ⟨fun hc => hc, (updated_state h).trans hunknown⟩
      · exact .inl (updated_state h ▸ hterm)
    · exact .inr ⟨fun hc => hc, updated_state h⟩

end Apply

end OrderAggregate

namespace Ledger

open OrderAggregate

variable {a a' aggregate next : OrderAggregate} {attempt : BrokerAttempt} {fact : BrokerOrderFact}
  {fills : List BrokerFillFact} {time : DateTime} {ledger ledger' : Ledger} {event : OrderEvent}

/-! ## Broker truth -/

lemma BrokerTruth.tracked (htruth : BrokerTruth event) (h : a.apply event = .ok a')
    (ha : Tracked a) : Tracked a' := by
  have hunknown : ∀ att code, event.eventId = .unknown att code → att.commandKind = .submit := by
    intro att code hid
    rcases htruth with hecon | hstatus
    · cases hecon <;> simp [fillEvent] at hid
    · cases hstatus <;> simp at hid
  refine ha.apply h (fun hc => ?_) hunknown
  rcases apply_seen_or_new h with ⟨rfl, hmem⟩ | ⟨-, hnew⟩
  · exact ha.closed event hmem hc
  rcases htruth with hecon | hstatus
  · cases hecon with
    | ack _ _ | fill _ => exact hc.elim
  · rcases applyNew_status hstatus hnew with hterm | ⟨hnc, -⟩
    · exact hterm
    · exact absurd hc hnc

lemma BrokerTruth.answered (htruth : BrokerTruth event) (h : a.apply event = .ok a')
    (ha : a.state ∈ answered) : a'.state ∈ answered := by
  rcases apply_seen_or_new h with ⟨rfl, -⟩ | ⟨-, hnew⟩
  · exact ha
  rcases htruth with hecon | hstatus
  · cases hecon with
    | ack _ _ =>
      rcases applyNew_ack hnew with hs | hs
      · rw [hs]
        decide
      · rwa [hs]
    | fill fill =>
      rcases applyNew_fill hnew with hs | hs | ⟨-, hs⟩
      · rwa [hs]
      · rw [hs]
        decide
      · rw [hs]
        decide
  · rcases applyNew_status hstatus hnew with hterm | ⟨-, hs⟩
    · simp only [OrderAggregate.answered, List.mem_append]
      exact .inl (.inr hterm)
    · rw [hs]
      decide

/-- The economics of a fact leave an order whose cancel is requested so, unless they fill it. -/
lemma BrokerEconomics.cancelling (hecon : BrokerEconomics event) (h : a.apply event = .ok a')
    (ha : a.state = .cancelRequested ∨ a.state = .filled) :
    a'.state = .cancelRequested ∨ a'.state = .filled := by
  rcases ha with ha | ha
  swap
  · exact .inr ((apply_terminal h (by rw [ha]; decide)).trans ha)
  rcases apply_seen_or_new h with ⟨rfl, -⟩ | ⟨-, hnew⟩
  · exact .inl ha
  cases hecon with
  | ack _ _ =>
    simp only [applyNew, ha] at hnew
    exact .inl (updated_state hnew)
  | fill fill =>
    rcases applyNew_fill hnew with hs | hs | ⟨hne, -⟩
    · exact .inl (hs.trans ha)
    · exact .inr hs
    · exact absurd ha hne

/-! ## Issued orders -/

/-- A call whose events start no submission and request no cancel leaves an issued order
issued. -/
lemma Evolves.issued {allowed : OrderEvent → Prop} {s t : OrderAggregate × Ledger}
    (hallowed : ∀ e, allowed e → ∀ id n, e.eventId ≠ .submitStarted id n ∧
      e.eventId ≠ .cancelRequested id n)
    (h : Evolves allowed s t) (hs : s.1.Issued) : t.1.Issued :=
  h.keeps_aggregate (P := Issued) (fun he happly hissued => hissued.other
    (fun id n => (hallowed _ he id n).1) (fun id n => (hallowed _ he id n).2) happly) hs

lemma BrokerTruth.not_started (h : BrokerTruth event) (id : ExecutionId) (n : ℕ) :
    event.eventId ≠ .submitStarted id n ∧ event.eventId ≠ .cancelRequested id n := by
  rcases h with hecon | hstatus
  · cases hecon <;> simp [fillEvent]
  · cases hstatus <;> simp

variable {kind : CommandKind} {code : String} {evidence : FailureEvidence}

/-- A property of the aggregate that broker truth and an unknown outcome of the attempt keep is
kept by an answer. -/
lemma recordReturnedResult_keeps {P : OrderAggregate → Prop}
    (htruth : ∀ {x y e}, BrokerTruth e → x.apply e = .ok y → P x → P y)
    (hunknown : ∀ {x y e}, OutcomeUnknown attempt e → x.apply e = .ok y → P x → P y)
    (h : recordReturnedResult aggregate attempt fact fills kind time ledger = .ok (next, ledger'))
    (hP : P aggregate) : P next := by
  obtain ⟨-, -, ordered, ledger₀, current, ledger₁, -, heconomics, hrest⟩ :=
    recordReturnedResult_cases h
  have hcurrent : P current := (applyBrokerEconomics_evolves heconomics).keeps_aggregate
    (fun he happly hx => htruth (.inl he) happly hx) hP
  rcases hrest with ⟨code, hmark⟩ | ⟨hterminal, -⟩
  · obtain ⟨event, ledger₂, hevent, htransition, -⟩ := markAttemptUnknown_eq_ok hmark
    rcases transition_eq_ok htransition with ⟨rfl, -⟩ | ⟨happly, -⟩
    · exact hcurrent
    · exact hunknown hevent happly hcurrent
  · exact (applyTerminalFact_evolves hterminal).keeps_aggregate
      (fun he happly hx => htruth (.inr he) happly hx) hcurrent

lemma recordReturnedResult_issued
    (h : recordReturnedResult aggregate attempt fact fills kind time ledger = .ok (next, ledger'))
    (hissued : aggregate.Issued) : next.Issued := by
  refine recordReturnedResult_keeps (P := Issued) (fun htruth happly hx => ?_)
    (fun hunknown happly hx => ?_) h hissued
  · exact hx.other (fun id n => (htruth.not_started id n).1)
      (fun id n => (htruth.not_started id n).2) happly
  · refine hx.other ?_ ?_ happly <;> cases hunknown <;> simp

/-! ## Queried facts -/

/-- A queried fact keeps an answered order answered and tracked. -/
theorem reconcileBrokerFact_answered
    (h : reconcileBrokerFact aggregate fact fills time ledger = .ok (next, ledger'))
    (hanswered : aggregate.state ∈ answered) (htracked : Tracked aggregate) :
    next.state ∈ answered ∧ Tracked next := by
  have hevolves := reconcileBrokerFact_evolves h
  exact ⟨hevolves.keeps_aggregate (P := fun x => x.state ∈ answered)
      (fun htruth happly hs => htruth.answered happly hs) hanswered,
    hevolves.keeps_aggregate (fun htruth happly hs => htruth.tracked happly hs) htracked⟩

/-! ## The answer to a submission -/

/-- An order that was just opened: its events are the ones before any answer. -/
structure Opened (a : OrderAggregate) : Prop where
  misses : MissesShares a
  events : ∀ e ∈ a.appliedEvents, ∃ id, e.eventId = .validate id ∨ e.eventId = .arm id ∨
    ∃ n, e.eventId = .submitStarted id n

lemma Opened.tracked (h : Opened a) : Tracked a where
  misses := h.misses
  closed e he hc := by
    obtain ⟨id, hid | hid | ⟨n, hid⟩⟩ := h.events e he <;> rw [hid] at hc <;> exact hc.elim
  submits e he att code hid := by
    obtain ⟨id, hid' | hid' | ⟨n, hid'⟩⟩ := h.events e he <;> rw [hid'] at hid <;> cases hid

/-- No event of an opened order has another kind of id. -/
lemma Opened.not_seen (h : Opened a) (hid : ∀ id, event.eventId ≠ .validate id ∧
    event.eventId ≠ .arm id ∧ ∀ n, event.eventId ≠ .submitStarted id n) :
    ∀ e ∈ a.appliedEvents, e.eventId ≠ event.eventId := by
  intro e he heq
  obtain ⟨id, hv | harm | ⟨n, hs⟩⟩ := h.events e he
  · exact (hid id).1 (heq.symm.trans hv)
  · exact (hid id).2.1 (heq.symm.trans harm)
  · exact (hid id).2.2 n (heq.symm.trans hs)

lemma Opened.apply (ha : Opened a) (h : a.apply event = .ok a')
    (hid : ∃ id, event.eventId = .validate id ∨ event.eventId = .arm id ∨
      ∃ n, event.eventId = .submitStarted id n) : Opened a' := by
  rcases apply_cases h with rfl | hadv
  · exact ha
  refine ⟨apply_missesShares h ha.misses, fun e he => ?_⟩
  rw [hadv.appliedEvents, List.mem_append, List.mem_singleton] at he
  rcases he with he | rfl
  · exact ha.events e he
  · exact hid

lemma Opened.transition (ha : Opened aggregate)
    (h : Ledger.transition aggregate event time ledger = .ok (next, ledger'))
    (hid : ∃ id, event.eventId = .validate id ∨ event.eventId = .arm id ∨
      ∃ n, event.eventId = .submitStarted id n) : Opened next := by
  rcases transition_eq_ok h with ⟨rfl, -⟩ | ⟨happly, -⟩
  · exact ha
  · exact ha.apply happly hid

lemma validateAndArm_opened {intent : ExecutionIntent}
    (h : validateAndArm (OrderAggregate.fromIntent intent) time ledger = .ok (next, ledger')) :
    Opened next := by
  refine validateAndArm_keeps (P := fun a _ => Opened a) h
    ⟨missesShares_fromIntent intent, by simp [OrderAggregate.fromIntent]⟩
    fun {a _ _ _ _} hevent hopened h => hopened.transition h ⟨a.intent.executionId, ?_⟩
  rcases hevent with rfl | rfl
  · exact .inl rfl
  · exact .inr (.inl rfl)

/-- An order whose submission is recorded is opened, issued and SUBMITTING. -/
lemma beginSubmit_opened {command : BrokerOrderCommand} (hopened : Opened aggregate)
    (hissued : aggregate.Issued)
    (h : beginSubmit aggregate command time ledger = .ok ((next, attempt), ledger')) :
    Opened next ∧ next.Issued ∧ next.state = .submitting := by
  obtain ⟨-, -, -, ledger₁, htransition, -⟩ := beginSubmit_eq_ok h
  refine ⟨hopened.transition htransition ⟨_, .inr (.inr ⟨_, rfl⟩)⟩, ?_,
    (beginSubmit_counted hissued h).1⟩
  rcases transition_eq_ok htransition with ⟨rfl, -⟩ | ⟨happly, -⟩
  · exact hissued
  · exact hissued.submitStarted happly

/-- The outcome of a submission becomes unknown. -/
lemma markAttemptUnknown_submit (hkind : attempt.commandKind = .submit)
    (hid : attempt.attemptId.commandKind = .submit)
    (h : markAttemptUnknown aggregate attempt code time ledger = .ok (next, ledger'))
    (htracked : Tracked aggregate) :
    Tracked next ∧ (aggregate.state ∈ answered → next.state ∈ answered) ∧
      (Opened aggregate → aggregate.state = .submitting → next.state = .unknown) := by
  obtain ⟨event, ledger₁, hunknown, htransition, -⟩ := markAttemptUnknown_eq_ok h
  cases hunknown with
  | cancel _ hcancel => rw [hkind] at hcancel; cases hcancel
  | submit _ _ =>
  rcases transition_eq_ok htransition with ⟨rfl, -, same, hsame, hversion⟩ | ⟨happly, -⟩
  · refine ⟨htracked, fun hs => hs, fun hopened hstate => ?_⟩
    -- A new event changes the version.
    rw [apply_of_not_seen (hopened.not_seen (by simp))] at hsame
    simp only [applyNew, hstate] at hsame
    have hdata := (updated_eq_ok hsame).2.2
    rw [hdata] at hversion
    exact absurd hversion (Nat.succ_ne_self _)
  · refine ⟨htracked.apply happly (fun hc => hc.elim) fun att c heq => ?_, fun hs => ?_,
      fun hopened hstate => ?_⟩
    · cases heq
      exact hid
    · rcases apply_seen_or_new happly with ⟨rfl, -⟩ | ⟨-, hnew⟩
      · exact hs
      · simp only [applyNew] at hnew
        split_ifs at hnew
        · rwa [updated_state hnew]
        · rw [updated_state hnew]
          decide
    · rw [apply_of_not_seen (hopened.not_seen (by simp))] at happly
      simp only [applyNew, hstate] at happly
      exact updated_state happly

/-- An answered submission leaves the order answered and tracked. -/
theorem recordSubmitResult_answered
    (h : recordSubmitResult aggregate attempt fact fills time ledger = .ok (next, ledger'))
    (hid : attempt.attemptId.commandKind = .submit) (hstate : aggregate.state = .submitting)
    (hopened : Opened aggregate) : next.state ∈ answered ∧ Tracked next := by
  obtain ⟨-, hkind, ordered, ledger₀, current, ledger₁, -, heconomics, hrest⟩ :=
    recordReturnedResult_cases h
  obtain ⟨acked, ledger₂, hack, hfills⟩ := Txn.bind_eq_ok.mp heconomics
  -- The acknowledgement is new, so the order leaves SUBMITTING with it.
  have hacked : acked.state ∈ answered ∧ Tracked acked := by
    unfold acknowledge at hack
    rw [if_pos (.inr (by rw [hstate]; decide))] at hack
    have hnew : ∀ {x}, aggregate.apply ⟨.ack fact.brokerOrderId fact.eventSequence,
        .brokerAcknowledged fact.brokerOrderId⟩ = .ok x →
        x.toAggregateData = aggregate.updatedData ⟨.ack fact.brokerOrderId fact.eventSequence,
          .brokerAcknowledged fact.brokerOrderId⟩ .acknowledged (some fact.brokerOrderId) id := by
      intro x hx
      rw [apply_of_not_seen (hopened.not_seen (by simp))] at hx
      simp only [applyNew, hstate] at hx
      exact (updated_eq_ok hx).2.2
    rcases transition_eq_ok hack with ⟨-, -, same, hsame, hversion⟩ | ⟨happly, -⟩
    · rw [hnew hsame] at hversion
      exact absurd hversion (Nat.succ_ne_self _)
    · refine ⟨?_, BrokerTruth.tracked (.inl (.ack _ _)) happly hopened.tracked⟩
      rw [hnew happly]
      exact (by decide : OrderState.acknowledged ∈ answered)
  have hfilled := applyFills_evolves hfills
  have hcurrent : current.state ∈ answered ∧ Tracked current :=
    ⟨hfilled.keeps_aggregate (P := fun x => x.state ∈ answered)
      (fun hecon happly hs => BrokerTruth.answered (.inl hecon) happly hs) hacked.1,
      hfilled.keeps_aggregate (fun hecon happly hs => BrokerTruth.tracked (.inl hecon) happly hs)
        hacked.2⟩
  rcases hrest with ⟨code, hmark⟩ | ⟨hterminal, -⟩
  · obtain ⟨htracked, hanswered, -⟩ := markAttemptUnknown_submit hkind hid hmark hcurrent.2
    exact ⟨hanswered hcurrent.1, htracked⟩
  · have hclosed := applyTerminalFact_evolves hterminal
    exact ⟨hclosed.keeps_aggregate (P := fun x => x.state ∈ answered)
        (fun hs happly h => BrokerTruth.answered (.inr hs) happly h) hcurrent.1,
      hclosed.keeps_aggregate (fun hs happly h => BrokerTruth.tracked (.inr hs) happly h)
        hcurrent.2⟩

/-- A refused submission of an opened order returns it to ARMED. -/
theorem resolveSubmitNotAccepted_armed
    (h : resolveSubmitNotAccepted aggregate attempt evidence time ledger = .ok (next, ledger'))
    (hstate : aggregate.state = .submitting) (hopened : Opened aggregate) :
    next.state = .armed := by
  unfold resolveSubmitNotAccepted at h
  simp only [hstate, reduceCtorEq, if_false] at h
  obtain ⟨current, ledger₁, htransition, h⟩ := Txn.bind_eq_ok.mp h
  obtain ⟨_, ledger₂, -, h⟩ := Txn.bind_eq_ok.mp h
  cases h
  have hnew : ∀ {x}, aggregate.apply
      ⟨.submitNotAccepted attempt.attemptId evidence, .submitNotAccepted evidence⟩ = .ok x →
      x.toAggregateData = aggregate.updatedData
        ⟨.submitNotAccepted attempt.attemptId evidence, .submitNotAccepted evidence⟩ .armed none
        id := by
    intro x hx
    rw [apply_of_not_seen (hopened.not_seen (by simp))] at hx
    simp only [applyNew, hstate, ne_eq, not_true, if_false] at hx
    exact (updated_eq_ok hx).2.2
  rcases transition_eq_ok htransition with ⟨-, -, same, hsame, hversion⟩ | ⟨happly, -⟩
  · rw [hnew hsame] at hversion
    exact absurd hversion (Nat.succ_ne_self _)
  · rw [hnew happly]
    rfl

/-! ## The answer to a cancel -/

lemma beginCancel_tracked (htracked : Tracked aggregate) (hissued : aggregate.Issued)
    (h : beginCancel aggregate time ledger = .ok ((next, attempt), ledger')) :
    Tracked next ∧ next.state = .cancelRequested := by
  obtain ⟨-, -, ledger₁, htransition, -⟩ := beginCancel_eq_ok h
  refine ⟨?_, (beginCancel_counted hissued h).1⟩
  rcases transition_eq_ok htransition with ⟨rfl, -⟩ | ⟨happly, -⟩
  · exact htracked
  · exact htracked.apply happly (fun hc => hc.elim) (by simp)

/-- The outcome of a cancel becomes unknown. -/
lemma markAttemptUnknown_cancel (hkind : attempt.commandKind = .cancel)
    (hid : attempt.attemptId.commandKind = .cancel)
    (h : markAttemptUnknown aggregate attempt code time ledger = .ok (next, ledger'))
    (htracked : Tracked aggregate)
    (hstate : aggregate.state = .cancelRequested ∨ aggregate.state = .filled) :
    next.state = .unknown := by
  obtain ⟨event, ledger₁, hunknown, htransition, -⟩ := markAttemptUnknown_eq_ok h
  cases hunknown with
  | submit _ hsubmit => rw [hkind] at hsubmit; cases hsubmit
  | cancel code _ =>
  have hnew : ∀ {x}, aggregate.apply ⟨.unknown attempt.attemptId code, .cancelOutcomeUnknown code⟩ =
      .ok x → x.state = .unknown ∧ x.version = aggregate.version + 1 := by
    intro x hx
    rcases apply_seen_or_new hx with ⟨-, hmem⟩ | ⟨-, hx⟩
    · have := htracked.submits _ hmem _ _ rfl
      rw [hid] at this
      cases this
    · rcases hstate with hs | hs
      · simp only [applyNew, hs] at hx
        rw [(updated_eq_ok hx).2.2]
        exact ⟨rfl, rfl⟩
      · simp [applyNew, hs] at hx
  rcases transition_eq_ok htransition with ⟨-, -, same, hsame, hversion⟩ | ⟨happly, -⟩
  · rw [(hnew hsame).2] at hversion
    exact absurd hversion (Nat.succ_ne_self _)
  · exact (hnew happly).1

/-- No cancel of the order was refused. -/
def Unrefused (a : OrderAggregate) : Prop :=
  ∀ e ∈ a.appliedEvents, ∀ attempt evidence, e.eventId ≠ .cancelNotAccepted attempt evidence

lemma Unrefused.apply (ha : Unrefused a) (h : a.apply event = .ok a')
    (hid : ∀ attempt evidence, event.eventId ≠ .cancelNotAccepted attempt evidence) :
    Unrefused a' := by
  rcases apply_cases h with rfl | hadv
  · exact ha
  intro e he
  rw [hadv.appliedEvents, List.mem_append, List.mem_singleton] at he
  rcases he with he | rfl
  · exact ha e he
  · exact hid

lemma Opened.unrefused (h : Opened a) : Unrefused a := by
  intro e he att evidence hid
  obtain ⟨id, hid' | hid' | ⟨n, hid'⟩⟩ := h.events e he <;> rw [hid'] at hid <;> cases hid

lemma BrokerTruth.not_refused (h : BrokerTruth event) (att : AttemptId)
    (evidence : FailureEvidence) : event.eventId ≠ .cancelNotAccepted att evidence := by
  rcases h with hecon | hstatus
  · cases hecon <;> simp [fillEvent]
  · cases hstatus <;> simp

lemma recordReturnedResult_unrefused
    (h : recordReturnedResult aggregate attempt fact fills kind time ledger = .ok (next, ledger'))
    (hunrefused : Unrefused aggregate) : Unrefused next := by
  refine recordReturnedResult_keeps (P := Unrefused) (fun htruth happly hx => ?_)
    (fun hunknown happly hx => ?_) h hunrefused
  · exact hx.apply happly htruth.not_refused
  · refine hx.apply happly ?_
    cases hunknown <;> simp

/-- A refused cancel leaves the order open, the first time. -/
theorem resolveCancelNotAccepted_open
    (h : resolveCancelNotAccepted aggregate attempt evidence time ledger = .ok (next, ledger'))
    (hstate : aggregate.state = .cancelRequested) (hunrefused : Unrefused aggregate) :
    next.state ∈ OrderState.openStates := by
  obtain ⟨current, ledger₁, htransition, h⟩ := Txn.bind_eq_ok.mp h
  obtain ⟨_, ledger₂, -, h⟩ := Txn.bind_eq_ok.mp h
  cases h
  have hnew : ∀ {x}, aggregate.apply
      ⟨.cancelNotAccepted attempt.attemptId evidence, .cancelNotAccepted evidence⟩ = .ok x →
      x.state ∈ OrderState.openStates ∧ x.version = aggregate.version + 1 := by
    intro x hx
    rw [apply_of_not_seen fun e he => hunrefused e he _ _] at hx
    simp only [applyNew, hstate, ne_eq, not_true, if_false] at hx
    split_ifs at hx
    · rw [(updated_eq_ok hx).2.2]
      exact ⟨(by decide : OrderState.partiallyFilled ∈ OrderState.openStates), rfl⟩
    · rw [(updated_eq_ok hx).2.2]
      exact ⟨(by decide : OrderState.acknowledged ∈ OrderState.openStates), rfl⟩
  rcases transition_eq_ok htransition with ⟨-, -, same, hsame, hversion⟩ | ⟨happly, -⟩
  · rw [(hnew hsame).2] at hversion
    exact absurd hversion (Nat.succ_ne_self _)
  · exact (hnew happly).1

/-- A FILLED fact that passes validation fills the whole request. -/
lemma filledShares_of_factViolation (h : factViolation aggregate fact = none)
    (hstatus : fact.status = .filled) : fact.filledShares = aggregate.intent.requestedShares := by
  unfold factViolation at h
  split_ifs at h with hidentity hintent hfilled hpartial
  have hrequested : fact.requestedShares = aggregate.intent.requestedShares := by
    by_contra hne
    exact hintent (.inr (.inr (.inr hne)))
  rw [← hrequested]
  by_contra hne
  exact hfilled ⟨hstatus, hne⟩

/-- A terminal status closes the order. -/
lemma applyTerminalFact_terminal
    (h : applyTerminalFact aggregate fact time ledger = .ok (next, ledger'))
    (hstatus : fact.status ∈ BrokerOrderStatus.terminal)
    (hfull : fact.status = .filled → fact.filledShares = aggregate.intent.requestedShares)
    (htracked : Tracked aggregate) (hshares : next.filledShares = fact.filledShares) :
      next.state ∈ OrderState.terminal := by
  unfold applyTerminalFact at h
  split_ifs at h with hsame
  · cases h
    cases hs : fact.status <;> simp_all [BrokerOrderStatus.terminalState, OrderState.terminal]
  have hclosed : ∀ {event}, BrokerStatus event → Closing event.eventId →
      transition aggregate event time ledger = .ok (next, ledger') →
      next.state ∈ OrderState.terminal := by
    intro event hevent hclosing htransition
    have hnew : ∀ {x}, aggregate.apply event = .ok x → x.state ∈ OrderState.terminal := by
      intro x hx
      rcases apply_seen_or_new hx with ⟨rfl, hmem⟩ | ⟨-, hx⟩
      · exact htracked.closed event hmem hclosing
      · rcases applyNew_status hevent hx with hterm | ⟨hnc, -⟩
        · exact hterm
        · exact absurd hclosing hnc
    rcases transition_eq_ok htransition with ⟨rfl, -, same, hsame, hversion⟩ | ⟨happly, -⟩
    · rcases apply_cases hsame with rfl | hadv
      · exact hnew hsame
      · exact absurd (hadv.version.symm.trans hversion) (Nat.succ_ne_self _)
    · exact hnew happly
  cases hs : fact.status with
  | rejected =>
    simp only [hs] at h
    exact hclosed (.rejected _ _) trivial h
  | expired =>
    simp only [hs] at h
    exact hclosed (.expired _ _) trivial h
  | cancelled =>
    simp only [hs] at h
    exact hclosed (.cancelled _ _) trivial h
  | filled =>
    -- FILLED needs no event: its shares are complete, so the order misses none.
    simp only [hs] at h
    cases h
    by_contra hopen
    have hmisses := htracked.misses hopen
    have hcomplete := hfull hs
    omega
  | pendingNew | acknowledged | partiallyFilled | pendingCancel | unknown =>
    rw [hs] at hstatus
    exact absurd hstatus (by decide)

/-- An answered cancel settles the order: it is closed or unknown. -/
theorem recordCancelResult_settled
    (h : recordCancelResult aggregate attempt fact fills time ledger = .ok (next, ledger'))
    (hid : attempt.attemptId.commandKind = .cancel) (hstate : aggregate.state = .cancelRequested)
    (htracked : Tracked aggregate) : next.state ∈ OrderState.terminal ∨ next.state = .unknown := by
  obtain ⟨hfact, hkind, ordered, ledger₀, current, ledger₁, -, heconomics, hrest⟩ :=
    recordReturnedResult_cases h
  have hevolves := applyBrokerEconomics_evolves heconomics
  have hcurrent : current.state = .cancelRequested ∨ current.state = .filled :=
    hevolves.keeps_aggregate (P := fun x => x.state = .cancelRequested ∨ x.state = .filled)
      (fun hecon happly hs => hecon.cancelling happly hs) (.inl hstate)
  have hcurrentTracked : Tracked current := hevolves.keeps_aggregate
    (fun hecon happly hs => BrokerTruth.tracked (.inl hecon) happly hs) htracked
  rcases hrest with ⟨code, hmark⟩ | ⟨hterminal, hstatus, hshares⟩
  · exact .inr (markAttemptUnknown_cancel hkind hid hmark hcurrentTracked hcurrent)
  · refine .inl (applyTerminalFact_terminal hterminal (hstatus rfl) (fun hs => ?_) hcurrentTracked
      hshares)
    rw [hevolves.movesRow.intent]
    exact filledShares_of_factViolation hfact hs

end Ledger

end FirmQuant
