import FirmQuant.Application.ContextTime
import FirmQuant.Execution.ControllerRules

/-!
# The write-ahead record against its own write

`begin_submit` and `begin_cancel` commit the order as SUBMITTING or CANCEL_REQUESTED before the
capability is asked, and the context of the capability counts the orders in these states.  The
count includes the order itself, so its own record is a reason to deny its own write.  This module
follows the composition from the committed record to the gateway: no submission and no cancel of
the controller ever gets there.
-/

namespace FirmQuant

open Effect

namespace Hooks

variable {B : Type} {env : HookEnv B} {ledger : Ledger} {operation : WriteOperation}
  {subject : WriteSubject}

/-! ## What a context counts -/

variable {command : BrokerOrderCommand} {snapshot : BrokerSnapshot}

lemma riskContext_unresolved {planned : PlannedOrder} :
    Returns (fun context => context.unresolvedOrderCount =
      ledger.countStates [.submitting, .cancelRequested, .unknown])
      (riskContext env ledger command planned snapshot) := by
  refine returns_bind fun decision => returns_bind fun ⟨submittedValue, filledValue⟩ => ?_
  refine returns_bind fun submitted => returns_bind fun filled => ?_
  refine returns_bind fun ⟨equityChange, intradayLoss, drawdown⟩ => ?_
  refine returns_bind fun observedHealth => returns_bind fun observedNow => ?_
  refine returns_bind fun receipt => returns_bind fun age => returns_bind fun gone => ?_
  refine returns_bind fun gross => returns_bind fun instrument => returns_bind fun quote => ?_
  refine returns_bind fun marketStatus => returns_bind fun external => ?_
  exact returns_bind fun dataMatches => returns_bind fun configMatches => returns_pure rfl

/-- While an order is unresolved, every gate decision says so. -/
def GateReports (ledger : Ledger) (decision : Option GateDecision) : Prop :=
  0 < ledger.countStates [.submitting, .cancelRequested, .unknown] →
    ∀ d ∈ decision, .unresolvedOrderState ∈ d.reasonCodes

lemma subjectFacts_reports :
    Returns (fun facts => GateReports ledger facts.gateDecision)
      (subjectFacts env ledger operation subject snapshot) := by
  have hnone : ∀ facts : SubjectFacts, facts.gateDecision = none →
      Returns (fun facts => GateReports ledger facts.gateDecision)
        (pure facts : Hooks B SubjectFacts) :=
    fun facts hgate => returns_pure (by simp [GateReports, hgate])
  unfold subjectFacts
  cases subject with
  | nothing => exact hnone _ rfl
  | brokerOrder brokerOrderId =>
    dsimp only
    split
    · unfold cancelFacts
      split
      · exact hnone _ rfl
      · exact returns_bind fun quote => returns_bind fun receipt => hnone _ rfl
    · exact hnone _ rfl
  | command command =>
    dsimp only
    unfold commandFacts
    split
    · exact hnone _ rfl
    · rename_i planned _
      intro s facts s' h
      obtain ⟨context, s₁, hcontext, h⟩ := bind_eq_ok.mp h
      obtain ⟨decision, s₂, hdecision, h⟩ := bind_eq_ok.mp h
      obtain ⟨quote, s₃, -, h⟩ := bind_eq_ok.mp h
      obtain ⟨receipt, s₄, -, h⟩ := bind_eq_ok.mp h
      cases h
      intro hcount d hd
      cases hd
      rw [← riskContext_unresolved _ _ _ hcontext] at hcount
      obtain ⟨halted, hevaluate, -, hmem⟩ := ExecutionRiskGate.evaluate_unresolved
        ⟨command, planned.uquantAuthorizedShares,
          env.feeSchedule.total command.side command.limitPrice command.requestedShares⟩ hcount
      rw [hevaluate] at hdecision
      cases hdecision
      exact hmem

/-- A context carries the counts of the ledger that it was assembled from. -/
lemma contextProvider_counts {context : WriteAuthorizationContext} {s s' : HookState B}
    (h : contextProvider env ledger operation subject s = .ok context s') :
    context.submittingUnresolvedCount = ledger.countStates [.submitting] ∧
      context.unresolvedOrderCount = ledger.countStates [.cancelRequested, .unknown] ∧
      GateReports ledger context.gateDecision := by
  obtain ⟨started, s₀, -, h⟩ := bind_eq_ok.mp h
  obtain ⟨snapshot, s₁, -, h⟩ := bind_eq_ok.mp h
  obtain ⟨facts, s₂, hfacts, h⟩ := bind_eq_ok.mp h
  obtain ⟨observedHealth, s₃, -, h⟩ := bind_eq_ok.mp h
  obtain ⟨marketStatus, s₄, -, h⟩ := bind_eq_ok.mp h
  obtain ⟨configMatches, s₅, -, h⟩ := bind_eq_ok.mp h
  obtain ⟨uquantMatches, s₆, -, h⟩ := bind_eq_ok.mp h
  cases h
  exact ⟨rfl, rfl, subjectFacts_reports _ _ _ hfacts⟩

/-! ## Denied writes -/

lemma countStates_mono {states states' : List OrderState} (h : states ⊆ states')
    (hpos : 0 < ledger.countStates states) : 0 < ledger.countStates states' := by
  refine hpos.trans_le (List.countP_mono_left fun row _ hrow => ?_)
  simpa using h (by simpa using hrow)

/-- A write that the ledger alone denies: every context for it gives a reason of an unresolved
order, so does every gate decision in it, and the capability never reaches the gateway. -/
structure DeniedByLedger (env : HookEnv B) (ledger : Ledger) (operation : WriteOperation)
    (subject : WriteSubject) : Prop where
  reasons : ∀ s context s', contextProvider env ledger operation subject s = .ok context s' →
    (ReasonCode.submittingUnresolved ∈ Authorizer.reasons env.service context operation subject ∨
      .unresolvedOrderState ∈ Authorizer.reasons env.service context operation subject) ∧
    ∀ decision ∈ context.gateDecision, .unresolvedOrderState ∈ decision.reasonCodes
  denied : ∀ s, ∃ codes s', authorize env ledger operation subject s =
    .error (.writeCapabilityDenied codes) s' ∧ s'.gatewayWrites = s.gatewayWrites

lemma keeps_contextProvider {writes : List GatewayWrite} {n : ℕ} :
    Keeps (Frame writes n) (contextProvider env ledger operation subject) := by
  refine keeps_bind keeps_now fun started => keeps_bind (keeps_of_stamps triple_capture)
    fun snapshot => keeps_bind keeps_subjectFacts fun facts => ?_
  refine keeps_bind keeps_health fun observedHealth =>
    keeps_bind (keeps_call_frame _) fun status => ?_
  exact keeps_bind (keeps_call_frame _) fun configMatches =>
    keeps_bind (keeps_call_frame _) fun uquant =>
    keeps_pure

/-- An order in SUBMITTING or CANCEL_REQUESTED denies every write. -/
theorem deniedByLedger (env : HookEnv B) (hcount : 0 < ledger.countStates [.submitting] ∨
    0 < ledger.countStates [.cancelRequested]) : DeniedByLedger env ledger operation subject := by
  have hreasons : ∀ s context s', contextProvider env ledger operation subject s = .ok context s' →
      (ReasonCode.submittingUnresolved ∈ Authorizer.reasons env.service context operation subject ∨
        .unresolvedOrderState ∈ Authorizer.reasons env.service context operation subject) ∧
      ∀ decision ∈ context.gateDecision, .unresolvedOrderState ∈ decision.reasonCodes := by
    intro s context s' h
    obtain ⟨hsubmitting, hunresolved, hgate⟩ := contextProvider_counts h
    rcases hcount with hcount | hcount
    · refine ⟨.inl (Authorizer.submittingUnresolved_mem (hsubmitting ▸ hcount)), hgate ?_⟩
      exact countStates_mono (by simp) hcount
    · refine ⟨.inr (Authorizer.unresolvedOrderState_mem (hunresolved ▸ ?_)), hgate ?_⟩
      all_goals exact countStates_mono (by simp) hcount
  refine ⟨hreasons, fun s => ?_⟩
  have hframe := (keeps_contextProvider : Keeps (Frame s.gatewayWrites s.readings)
    (contextProvider env ledger operation subject)) s ⟨rfl, le_refl _⟩
  unfold authorize
  rw [bind_apply, tryCatch_apply]
  cases hrun : contextProvider env ledger operation subject s with
  | error failure t =>
    rw [hrun] at hframe
    exact ⟨_, t, rfl, hframe.gatewayWrites⟩
  | ok context t =>
    rw [hrun] at hframe
    dsimp only
    rcases (hreasons s context t hrun).1 with hmem | hmem
    all_goals
      rw [Authorizer.authorize_of_mem hmem]
      exact ⟨_, t, rfl, hframe.gatewayWrites⟩

lemma DeniedByLedger.submitOrder (h : DeniedByLedger env ledger .submit (.command command))
    (s : HookState B) :
    ∃ codes s', Hooks.submitOrder env ledger command s =
      .error (.writeCapabilityDenied codes) s' ∧ s'.gatewayWrites = s.gatewayWrites := by
  obtain ⟨codes, s', hrun, hwrites⟩ := h.denied s
  refine ⟨codes, s', ?_, hwrites⟩
  rw [Hooks.submitOrder, bind_apply, hrun]

lemma DeniedByLedger.cancelOrder {brokerOrderId : String}
    (h : DeniedByLedger env ledger .cancel (.brokerOrder brokerOrderId)) (s : HookState B) :
    ∃ codes s', Hooks.cancelOrder env ledger brokerOrderId s =
      .error (.writeCapabilityDenied codes) s' ∧ s'.gatewayWrites = s.gatewayWrites := by
  obtain ⟨codes, s', hrun, hwrites⟩ := h.denied s
  refine ⟨codes, s', ?_, hwrites⟩
  rw [Hooks.cancelOrder, bind_apply, hrun]

end Hooks

namespace LiveController

variable {B : Type} {env : HookEnv B} {config : LiveConfig} {writes : List GatewayWrite}

/-! ## The controller in front of the production capability -/

lemma asPort_gatewayWrites {α : Type} {x : Hooks B α}
    (h : ∀ writes n, Keeps (Hooks.Frame writes n) x) (s : HookState B) :
    (Hooks.asPort x s).2.gatewayWrites = s.gatewayWrites := by
  have hx := h s.gatewayWrites s.readings s ⟨rfl, le_refl _⟩
  unfold Hooks.asPort
  cases hrun : x s with
  | ok a t | error failure t =>
    rw [hrun] at hx
    exact hx.gatewayWrites

/-- The passive steps touch neither the ledger nor the gateway. -/
lemma passive_livePorts (J : Ledger → List GatewayWrite → Prop) :
    Passive (Hooks.livePorts env) fun w => J w.ledger w.outside.gatewayWrites where
  observe _ _ _ hw := hw
  lastMonotonic _ _ hw := hw
  clock _ hw := hw
  monotonicClock _ hw := hw
  sleep _ _ hw := hw
  leaseCheck w hw := by
    have := asPort_gatewayWrites (fun _ _ => Hooks.keeps_call_frame env.ports.leaseCheck) w.outside
    simpa only [Hooks.livePorts, this] using hw
  queryAccount w hw := by
    have := asPort_gatewayWrites (fun _ _ =>
      Hooks.keeps_call_frame env.ports.queryAccount) w.outside
    simpa only [Hooks.livePorts, this] using hw
  queryPositions w hw := by
    have := asPort_gatewayWrites (fun _ _ =>
      Hooks.keeps_call_frame env.ports.queryPositions) w.outside
    simpa only [Hooks.livePorts, this] using hw
  queryOrders w hw := by
    have := asPort_gatewayWrites (fun _ _ => Hooks.keeps_queryOrders env) w.outside
    simpa only [Hooks.livePorts, this] using hw
  queryFills w hw := by
    have := asPort_gatewayWrites (fun _ _ => Hooks.keeps_queryFills env) w.outside
    simpa only [Hooks.livePorts, this] using hw

/-- The gateway was written to exactly as `writes` says. -/
def GatewayAt (writes : List GatewayWrite) (w : World (HookState B)) : Prop :=
  w.outside.gatewayWrites = writes

lemma passive_gatewayAt : Passive (Hooks.livePorts env) (GatewayAt writes) :=
  passive_livePorts fun _ gatewayWrites => gatewayWrites = writes

/-- The controller's call of the capability while an order is SUBMITTING. -/
lemma triple_submitOrder {command : BrokerOrderCommand} :
    Triple (fun w => 0 < w.ledger.countStates [.submitting] ∧ GatewayAt writes w)
      (attempt (submitOrder (Hooks.livePorts env) command))
      (fun result w => (∃ codes, result = .error (.writeCapabilityDenied codes)) ∧
        GatewayAt writes w) (fun _ => False) := by
  intro w ⟨hcount, hwrites⟩
  have hdenied : Hooks.DeniedByLedger env w.ledger .submit (.command command) :=
    Hooks.deniedByLedger env (.inl hcount)
  obtain ⟨codes, s', hrun, hsame⟩ := hdenied.submitOrder w.outside
  have hport : (Hooks.livePorts env).submitOrder w.ledger command w.outside =
      (.error (.writeCapabilityDenied codes), s') := by
    simp only [Hooks.livePorts, Hooks.asPort, hrun]
  rw [attempt_submitOrder, hport]
  exact ⟨⟨codes, rfl⟩, hsame.trans hwrites⟩

variable {planned : PlannedOrder}

/-- A submission through the production capability never reaches the gateway, and its order is
not open afterwards. -/
lemma triple_submitLive {aggregate : OrderAggregate} (hissued : aggregate.Issued) :
    Triple (GatewayAt writes) (submitLive (Hooks.livePorts env) config aggregate planned)
      (fun final w => final.state ∉ OrderState.openStates ∧ GatewayAt writes w)
      (GatewayAt writes) := by
  refine triple_bind passive_gatewayAt.keeps_guard_none fun _ => ?_
  refine triple_bind passive_gatewayAt.idle.keeps_clock fun startedAt => ?_
  have hbegin : Triple (GatewayAt writes)
      (inTransaction (Ledger.beginSubmit aggregate (command aggregate.intent planned) startedAt))
      (fun r w => r.1.state = .submitting ∧ 0 < w.ledger.countStates [.submitting] ∧
        GatewayAt (B := B) writes w) (GatewayAt writes) := by
    intro w hw
    unfold inTransaction
    cases hx : Ledger.beginSubmit aggregate (command aggregate.intent planned) startedAt
      w.ledger with
    | ok r =>
      obtain ⟨hstate, hcount⟩ := Ledger.beginSubmit_counted hissued hx
      exact ⟨hstate, hcount, hw⟩
    | error failure => exact hw
  refine triple_bind hbegin fun ⟨submitting, attempted⟩ => triple_assume fun hstate => ?_
  have hcounted : Passive (Hooks.livePorts env)
      fun w => 0 < w.ledger.countStates [.submitting] ∧ GatewayAt (B := B) writes w :=
    passive_livePorts fun ledger gatewayWrites =>
      0 < ledger.countStates [.submitting] ∧ gatewayWrites = writes
  refine triple_bind (triple_error hcounted.keeps_guard_none
    fun _ h => h.2) fun _ => ?_
  refine triple_bind (triple_error triple_submitOrder
    fun _ h => h.elim) fun result => triple_assume fun ⟨codes, hresult⟩ => ?_
  subst hresult
  refine triple_bind passive_gatewayAt.keeps_guard_none fun _ => ?_
  refine triple_bind passive_gatewayAt.idle.keeps_clock fun occurredAt => ?_
  -- A denied write counts as not accepted.
  rw [if_pos (show classifyWriteFailure (.writeCapabilityDenied codes) = .notAccepted from rfl)]
  intro w hw
  unfold inTransaction
  cases hx : Ledger.resolveSubmitNotAccepted submitting attempted
      (failureEvidence (.writeCapabilityDenied codes)) occurredAt w.ledger with
  | error failure => exact hw
  | ok r => exact ⟨Ledger.resolveSubmitNotAccepted_not_open hstate hx, hw⟩

lemma triple_submitAndFinish {shares : ℕ} :
    Triple (fun w => Unexecuted planned w.ledger ∧ GatewayAt writes w)
      (submitAndFinish (Hooks.livePorts env) config planned shares)
      (fun _ => GatewayAt writes) (GatewayAt writes) := by
  have hat : Passive (Hooks.livePorts env) (GatewayAt writes) := passive_gatewayAt
  have hfresh := hat.and_ledger (Unexecuted planned)
  refine triple_bind (triple_of_keeps_and hfresh.idle.keeps_monotonic) fun submittedMonotonic => ?_
  refine triple_bind (triple_of_keeps_and hfresh.idle.keeps_clock) fun submittedAt => ?_
  refine triple_bind (triple_newAggregate fun _ _ hw => hw) fun armed =>
    triple_assume fun hissued => triple_pre ?_ (fun _ hw => hw.2)
  refine triple_bind (triple_submitLive hissued) fun submitted => triple_assume fun hclosed => ?_
  refine keeps_ite keeps_pure (keeps_ite keeps_pure ?_)
  exact keeps_bind (keeps_finishOpenOrder_of_closed hclosed) fun final => keeps_pure

/-! ## The record denies the write -/

/-- The write that follows a committed write-ahead record is denied because of this record: by
every context and every gate decision for it, and before the gateway is reached.  A run of
`execute` with the production capability therefore writes nothing to the gateway. -/
theorem own_record_denies_write (env : HookEnv B) :
    (∀ aggregate command startedAt ledger next attempt ledger',
      OrderAggregate.Issued aggregate →
      Ledger.beginSubmit aggregate command startedAt ledger = .ok ((next, attempt), ledger') →
      Hooks.DeniedByLedger env ledger' .submit (.command command) ∧
        ∀ s, ∃ codes s', Hooks.submitOrder env ledger' command s =
          .error (.writeCapabilityDenied codes) s' ∧ s'.gatewayWrites = s.gatewayWrites) ∧
    (∀ aggregate brokerOrderId startedAt ledger next attempt ledger',
      OrderAggregate.Issued aggregate → aggregate.brokerOrderId = some brokerOrderId →
      Ledger.beginCancel aggregate startedAt ledger = .ok ((next, attempt), ledger') →
      Hooks.DeniedByLedger env ledger' .cancel (.brokerOrder brokerOrderId) ∧
        ∀ s, ∃ codes s', Hooks.cancelOrder env ledger' brokerOrderId s =
          .error (.writeCapabilityDenied codes) s' ∧ s'.gatewayWrites = s.gatewayWrites) ∧
    ∀ config plan w,
      (finalState (execute (Hooks.livePorts env) config plan w)).outside.gatewayWrites =
      w.outside.gatewayWrites := by
  refine ⟨?_, ?_, fun config plan w =>
    (keeps_execute passive_gatewayAt.idle fun _ _ => triple_submitAndFinish).finalState rfl⟩
  · intro aggregate command startedAt ledger next attempt ledger' hissued hbegin
    have hdenied : Hooks.DeniedByLedger env ledger' .submit (.command command) :=
      Hooks.deniedByLedger env (.inl (Ledger.beginSubmit_counted hissued hbegin).2)
    exact ⟨hdenied, hdenied.submitOrder⟩
  · intro aggregate brokerOrderId startedAt ledger next attempt ledger' hissued _ hbegin
    have hdenied : Hooks.DeniedByLedger env ledger' .cancel (.brokerOrder brokerOrderId) :=
      Hooks.deniedByLedger env (.inr (Ledger.beginCancel_counted hissued hbegin).2)
    exact ⟨hdenied, hdenied.cancelOrder⟩

lemma openLot_issued {armed : OrderAggregate} {ledger : Ledger}
    (h : Desk.openLot planned Ledger.empty = .ok (armed, ledger)) : armed.Issued := by
  obtain ⟨aggregate, ledger₁, happend, harm⟩ := Txn.bind_eq_ok.mp h
  obtain ⟨rfl, -⟩ := Ledger.appendIntent_new rfl happend
  exact Ledger.validateAndArm_issued (.fromIntent _) harm

/-- A SELL that is armed in an otherwise empty ledger: its submission is begun, and denied. -/
theorem own_record_denies_first_sell :
    ∃ ledger', (∃ armed ledger r, Desk.openLot (Desk.lot "A" "600001" .sell) Ledger.empty =
        .ok (armed, ledger) ∧ Ledger.beginSubmit armed
          (Desk.lotCommand (Desk.lot "A" "600001" .sell)) 0 ledger = .ok (r, ledger')) ∧
      Hooks.DeniedByLedger (Desk.openHooks fun _ => 0) ledger' .submit
        (.command (Desk.lotCommand (Desk.lot "A" "600001" .sell))) := by
  have hrun : Txn.commitsWith (fun armed ledger => Txn.commitsWith (fun _ _ => true)
      (Ledger.beginSubmit armed (Desk.lotCommand (Desk.lot "A" "600001" .sell)) 0 ledger))
      (Desk.openLot (Desk.lot "A" "600001" .sell) Ledger.empty) = true := by
    decide +kernel
  obtain ⟨armed, ledger, hopen, hbegin⟩ := Txn.exists_ok_of_commitsWith hrun
  obtain ⟨⟨next, attempt⟩, ledger', hbegun, -⟩ := Txn.exists_ok_of_commitsWith hbegin
  exact ⟨ledger', ⟨armed, ledger, _, hopen, hbegun⟩,
    ((own_record_denies_write _).1 _ _ _ _ _ _ _ (openLot_issued hopen) hbegun).1⟩

/-- The same SELL in a healthy deployment whose clock stands still.  No other order is
unresolved, and before its record is committed nothing speaks against the write; after the commit
the record does, and the gate denies as well. -/
theorem first_sell_denied_by_own_record :
    ∃ armed ledger r ledger' before after s s',
      Desk.openLot (Desk.lot "A" "600001" .sell) Ledger.empty = .ok (armed, ledger) ∧
      ledger.countStates [.submitting, .cancelRequested, .unknown] = 0 ∧
      Hooks.contextProvider (Desk.openHooks fun _ => 0) ledger .submit
        (.command (Desk.lotCommand (Desk.lot "A" "600001" .sell)))
        (Desk.hookState (Desk.fresh 5000 ["600001"])) = .ok before s ∧
      Authorizer.reasons (Desk.openHooks fun _ => 0).service before .submit
        (.command (Desk.lotCommand (Desk.lot "A" "600001" .sell))) = [] ∧
      Ledger.beginSubmit armed (Desk.lotCommand (Desk.lot "A" "600001" .sell)) 0 ledger =
        .ok (r, ledger') ∧
      Hooks.contextProvider (Desk.openHooks fun _ => 0) ledger' .submit
        (.command (Desk.lotCommand (Desk.lot "A" "600001" .sell)))
        (Desk.hookState (Desk.fresh 5000 ["600001"])) = .ok after s' ∧
      Authorizer.reasons (Desk.openHooks fun _ => 0).service after .submit
        (.command (Desk.lotCommand (Desk.lot "A" "600001" .sell))) =
          [.submittingUnresolved, .executionRiskGateDenied] := by
  have hrun : Txn.commitsWith (fun armed ledger =>
      decide (ledger.countStates [.submitting, .cancelRequested, .unknown] = 0) &&
      returnsWith (fun before _ => decide (Authorizer.reasons (Desk.openHooks fun _ => 0).service
        before .submit (.command (Desk.lotCommand (Desk.lot "A" "600001" .sell))) = []))
        (Hooks.contextProvider (Desk.openHooks fun _ => 0) ledger .submit
          (.command (Desk.lotCommand (Desk.lot "A" "600001" .sell)))
          (Desk.hookState (Desk.fresh 5000 ["600001"]))) &&
      Txn.commitsWith (fun _ ledger' => returnsWith (fun after _ => decide
        (Authorizer.reasons (Desk.openHooks fun _ => 0).service after .submit
          (.command (Desk.lotCommand (Desk.lot "A" "600001" .sell))) =
            [.submittingUnresolved, .executionRiskGateDenied]))
        (Hooks.contextProvider (Desk.openHooks fun _ => 0) ledger' .submit
          (.command (Desk.lotCommand (Desk.lot "A" "600001" .sell)))
          (Desk.hookState (Desk.fresh 5000 ["600001"]))))
      (Ledger.beginSubmit armed (Desk.lotCommand (Desk.lot "A" "600001" .sell)) 0 ledger))
      (Desk.openLot (Desk.lot "A" "600001" .sell) Ledger.empty) = true := by
    decide +kernel
  obtain ⟨armed, ledger, hopen, hchecks⟩ := Txn.exists_ok_of_commitsWith hrun
  simp only [Bool.and_eq_true] at hchecks
  obtain ⟨⟨hcount, hbefore⟩, hafter⟩ := hchecks
  obtain ⟨before, s, hbefore, hhealthy⟩ := exists_ok_of_returnsWith hbefore
  obtain ⟨r, ledger', hbegun, hafter⟩ := Txn.exists_ok_of_commitsWith hafter
  obtain ⟨after, s', hafter, hdenied⟩ := exists_ok_of_returnsWith hafter
  exact ⟨armed, ledger, r, ledger', before, after, s, s', hopen, of_decide_eq_true hcount, hbefore,
    of_decide_eq_true hhealthy, hbegun, hafter, of_decide_eq_true hdenied⟩

end LiveController

end FirmQuant
