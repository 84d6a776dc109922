import FirmQuant.Execution.FinalStates
import FirmQuant.Application.Deployment

/-!
# The end of an order's window

An order that the broker has answered is waited for until the end of its window and cancelled
there.  The cancel is a write like any other: the capability authorizes it against the facts of
that moment, the phase of the market among them, and a denied cancel leaves the order resting.
This module follows one order after the other through a run and shows what `execute` leaves
behind when every window ends in time and in a tradable phase.
-/

namespace FirmQuant

open Effect

namespace LiveController

variable {B : Type}

/-! ## The capability -/

/-- `BrokerWriteCapability` in front of a broker: a write is authorized against the context of
its moment, and reaches the broker only then. -/
def capabilityPorts (p : Ports B) (service : ArmService)
    (context : WriteOperation → WriteSubject → B → WriteAuthorizationContext) : Ports B :=
  { p with
    submitOrder := fun ledger command b =>
      match Authorizer.authorize service (context .submit (.command command) b) .submit
          (.command command) with
      | .ok _ => p.submitOrder ledger command b
      | .error failure => (.error failure, b)
    cancelOrder := fun ledger brokerOrderId b =>
      match Authorizer.authorize service (context .cancel (.brokerOrder brokerOrderId) b) .cancel
          (.brokerOrder brokerOrderId) with
      | .ok _ => p.cancelOrder ledger brokerOrderId b
      | .error failure => (.error failure, b) }

/-- The broker does not refuse a cancel that reaches it; a cancel that raises may have been
accepted. -/
def CancelsFaithfully (p : Ports B) : Prop :=
  ∀ ledger brokerOrderId b failure, (p.cancelOrder ledger brokerOrderId b).1 = .error failure →
    classifyWriteFailure failure = .outcomeUnknown

/-- All facts but the phase of the market are healthy for a cancel: in an open market there
would be no reason against it. -/
def HealthyButPhase (service : ArmService) (context : WriteAuthorizationContext)
    (brokerOrderId : String) : Prop :=
  Authorizer.reasons service { context with marketStatus := .open } .cancel
    (.brokerOrder brokerOrderId) = []

instance (service : ArmService) (context : WriteAuthorizationContext) (brokerOrderId : String) :
    Decidable (HealthyButPhase service context brokerOrderId) := inferInstanceAs (Decidable (_ = _))

/-- The phases in which the capability lets a write pass. -/
def tradable : List MarketSessionStatus := [.open, .auction]

/-- With healthy facts a cancel is authorized in a tradable phase. -/
lemma authorize_of_tradable {service : ArmService} {context : WriteAuthorizationContext}
    {brokerOrderId : String} (hhealthy : HealthyButPhase service context brokerOrderId)
    (hphase : context.marketStatus ∈ tradable) :
    Authorizer.authorize service context .cancel (.brokerOrder brokerOrderId) = .ok ⟨⟩ := by
  have hsame : Authorizer.reasons service context .cancel (.brokerOrder brokerOrderId) =
      Authorizer.reasons service { context with marketStatus := .open } .cancel
        (.brokerOrder brokerOrderId) := by
    have hopen : (context.marketStatus ∉ [MarketSessionStatus.open, .auction]) =
        (MarketSessionStatus.open ∉ [MarketSessionStatus.open, .auction]) := by
      simp only [eq_iff_iff, List.mem_cons, true_or, not_true, iff_false, not_not]
      simpa [tradable] using hphase
    unfold Authorizer.reasons Authorizer.marketReasons
    simp only [hopen]
    rfl
  unfold Authorizer.authorize
  rw [if_pos (hsame.trans hhealthy)]

/-! ## The observations of a run -/

section Windows

variable (config : LiveConfig) (service : ArmService)
  (context : WriteOperation → WriteSubject → B → WriteAuthorizationContext)

/-- What the claim on a run is made of: an order that is open at the end of its window is found
before the fence for cancels, and a cancel meets a tradable phase, with all other facts healthy. -/
inductive InTime : Observation B → Prop
  | windowEnd {now : ℚ} : now < config.deadlines.latestCancelInitiation → InTime (.windowEnd now)
  | cancelOrder {outside : B} {brokerOrderId : String} :
      HealthyButPhase service (context .cancel (.brokerOrder brokerOrderId) outside)
        brokerOrderId →
      (context .cancel (.brokerOrder brokerOrderId) outside).marketStatus ∈ tradable →
      InTime (.cancelOrder outside brokerOrderId)
  | submitOrder {ledger : Ledger} {command : BrokerOrderCommand} :
      InTime (.submitOrder ledger command)
  | passive {o : Observation B} : PassiveObservation o → InTime o

/-- Every window ends in time. -/
def WindowsInTime (since : List (Observation B)) : Prop :=
  ∀ o ∈ since, InTime config service context o

end Windows

/-- The states of an order that does not rest at the broker: closed, unknown, or armed again
because its submission was refused. -/
def settledStates : List OrderState := OrderState.terminal ++ [.unknown, .armed]

/-- The execution is in the ledger, and none of its rows rests at the broker. -/
structure Settled (ledger : Ledger) (executionId : ExecutionId) : Prop where
  exists_row : ∃ row ∈ ledger.executionIntents, row.executionId = executionId
  state : ∀ row ∈ ledger.executionIntents, row.executionId = executionId →
    row.state ∈ settledStates

/-- Another order's rows settle an execution or not, whatever happens to this order. -/
lemma Settled.of_otherRows {ledger ledger' : Ledger} {executionId other : ExecutionId}
    (hne : executionId ≠ other) (hrows : ledger'.otherRows other = ledger.otherRows other)
    (h : Settled ledger executionId) : Settled ledger' executionId := by
  have hmem : ∀ row : IntentRow, row.executionId = executionId →
      (row ∈ ledger'.executionIntents ↔ row ∈ ledger.executionIntents) := by
    intro row hid
    have hother : row.executionId ≠ other := hid ▸ hne
    have hiff : row ∈ ledger'.otherRows other ↔ row ∈ ledger.otherRows other := by rw [hrows]
    simpa [Ledger.otherRows, hother] using hiff
  obtain ⟨row, hrow, hid⟩ := h.exists_row
  refine ⟨⟨row, (hmem row hid).mpr hrow, hid⟩, fun row hrow hid => ?_⟩
  exact h.state row ((hmem row hid).mp hrow) hid

/-- An order in a settled state is settled where it is held. -/
lemma Settled.of_holds {ledger : Ledger} {a : OrderAggregate} (hholds : ledger.Holds a)
    (hstate : a.state ∈ settledStates) : Settled ledger a.intent.executionId :=
  ⟨hholds.exists_row, fun row hrow hid => (hholds.current row hrow hid).1 ▸ hstate⟩

/-! ## The assertions of a run -/

section Run

variable {p : Ports B} {config : LiveConfig} {service : ArmService}
  {context : WriteOperation → WriteSubject → B → WriteAuthorizationContext} {n : ℕ}
  {a : OrderAggregate} {fact : Prop}

/-- Between two orders: if the windows ended in time since the first `n` observations, every order
submitted since is settled. -/
structure AllSettled (config : LiveConfig) (service : ArmService)
    (context : WriteOperation → WriteSubject → B → WriteAuthorizationContext) (n : ℕ)
    (ledger : Ledger) (trace : List (Observation B)) : Prop where
  length : n ≤ trace.length
  settled : WindowsInTime config service context (trace.drop n) →
    ∀ stored command, .submitOrder stored command ∈ trace.drop n →
      Settled ledger command.executionId

/-- While the order `a` is at hand: the ledger holds it, and if the windows ended in time, `fact`
is true and every other order is settled. -/
structure AtHand (config : LiveConfig) (service : ArmService)
    (context : WriteOperation → WriteSubject → B → WriteAuthorizationContext) (n : ℕ)
    (a : OrderAggregate) (fact : Prop) (ledger : Ledger) (trace : List (Observation B)) :
    Prop where
  length : n ≤ trace.length
  holds : ledger.Holds a
  fact : WindowsInTime config service context (trace.drop n) → fact
  others : WindowsInTime config service context (trace.drop n) →
    ∀ stored command, .submitOrder stored command ∈ trace.drop n →
      command.executionId ≠ a.intent.executionId → Settled ledger command.executionId

variable {o : Observation B} {fact' : Prop} {planned : PlannedOrder}

lemma windowsInTime_append {since : List (Observation B)} :
    WindowsInTime config service context (since ++ [o]) ↔
      WindowsInTime config service context since ∧ InTime config service context o := by
  simp [WindowsInTime, or_imp, forall_and]

variable {ledger : Ledger} {trace : List (Observation B)}

/-- An observation that submits no other order is evidence of its own being in time. -/
lemma AtHand.observe (h : AtHand config service context n a fact ledger trace)
    (ho : ∀ stored command, o = .submitOrder stored command →
      command.executionId = a.intent.executionId) :
    AtHand config service context n a (fact ∧ InTime config service context o) ledger
      (trace ++ [o]) := by
  have hdrop : (trace ++ [o]).drop n = trace.drop n ++ [o] := List.drop_append_of_le_length h.length
  refine ⟨by simpa using h.length.trans (Nat.le_succ _), h.holds, fun hgood => ?_,
    fun hgood stored command hmem hne => ?_⟩
  · rw [hdrop, windowsInTime_append] at hgood
    exact ⟨h.fact hgood.1, hgood.2⟩
  · rw [hdrop, windowsInTime_append] at hgood
    rw [hdrop, List.mem_append, List.mem_singleton] at hmem
    rcases hmem with hmem | hmem
    · exact h.others hgood.1 stored command hmem hne
    · exact absurd (ho stored command hmem.symm) hne

lemma AtHand.imp (h : AtHand config service context n a fact ledger trace) (himp : fact → fact') :
    AtHand config service context n a fact' ledger trace :=
  ⟨h.length, h.holds, fun hgood => himp (h.fact hgood), h.others⟩

lemma passive_atHand :
    Passive p fun w => AtHand config service context n a fact w.ledger w.trace :=
  passive_of_trace fun _ _ o ho h =>
    (h.observe fun _ _ heq => by rw [heq] at ho; cases ho).imp And.left

lemma AtHand.allSettled
    (h : AtHand config service context n a (a.state ∈ settledStates) ledger trace) :
    AllSettled config service context n ledger trace := by
  refine ⟨h.length, fun hgood stored command hmem => ?_⟩
  by_cases hid : command.executionId = a.intent.executionId
  · rw [hid]
    exact Settled.of_holds h.holds (h.fact hgood)
  · exact h.others hgood stored command hmem hid

lemma passive_allSettled :
    Passive p fun w => AllSettled config service context n w.ledger w.trace := by
  refine passive_of_trace fun ledger trace o ho h => ⟨?_, fun hgood stored command hmem => ?_⟩
  · simpa using h.length.trans (Nat.le_succ _)
  · rw [List.drop_append_of_le_length h.length] at hgood hmem
    rw [windowsInTime_append] at hgood
    rcases List.mem_snoc.mp hmem with hmem | hmem
    · exact h.settled hgood.1 stored command hmem
    · rw [← hmem] at ho
      cases ho

/-- The row of the order at hand is moved. -/
lemma AtHand.moves {next : OrderAggregate} {ledger' : Ledger}
    (h : AtHand config service context n a fact ledger trace)
    (hrow : Ledger.MovesRow (a, ledger) (next, ledger')) (hfact : fact → fact') :
    AtHand config service context n next fact' ledger' trace := by
  refine ⟨h.length, hrow.holds h.holds, fun hgood => hfact (h.fact hgood),
    fun hgood stored command hmem hne => ?_⟩
  rw [hrow.intent] at hne
  exact (h.others hgood stored command hmem hne).of_otherRows hne hrow.otherRows

/-- A repository call that moves the row of the order at hand. -/
lemma achieves_moves {α : Type} {x : LedgerTxn α} (order : α → OrderAggregate) {F : α → Prop}
    (hmoves : ∀ {ledger r ledger'}, x ledger = .ok (r, ledger') →
      Ledger.MovesRow (a, ledger) (order r, ledger'))
    (hfact : ∀ {ledger r ledger'}, x ledger = .ok (r, ledger') → fact → F r) :
    Achieves (fun w : World B => AtHand config service context n a fact w.ledger w.trace)
      (inTransaction x)
      fun r w => AtHand config service context n (order r) (F r) w.ledger w.trace := by
  exact triple_inTransaction (fun w r ledger hx h => h.moves (hmoves hx) (hfact hx))
    fun _ _ => trivial

/-! ## One order -/

/-- An answered order that is not open is settled. -/
lemma Resting.settled (h : Resting a) (hclosed : a.state ∉ OrderState.openStates) :
    a.state ∈ settledStates := by
  have hstate := h.answered
  simp only [OrderAggregate.answered, List.mem_append, List.mem_singleton] at hstate
  simp only [settledStates, List.mem_append, List.mem_cons]
  tauto

/-- The order at hand, as an assertion on the world. -/
abbrev OnOrder (config : LiveConfig) (service : ArmService)
    (context : WriteOperation → WriteSubject → B → WriteAuthorizationContext) (n : ℕ)
    (a : OrderAggregate) (fact : Prop) (w : World B) : Prop :=
  AtHand config service context n a fact w.ledger w.trace

lemma achieves_call (call : Ledger.OrderCall) {F : OrderAggregate → Prop}
    (hfact : ∀ {ledger next ledger'}, call.run a ledger = .ok (next, ledger') → fact → F next) :
    Achieves (OnOrder (B := B) config service context n a fact) (inTransaction (call.run a))
      fun next => OnOrder config service context n next (F next) :=
  achieves_moves (fun next => next) (fun h => (Ledger.OrderCall.evolves h).movesRow) hfact

lemma awaits_resting : Awaits p config
    (fun a => OnOrder config service context n a (Resting a)) fun _ => True where
  idle _ := passive_atHand.idle
  guard _ := passive_atHand.achieves_guard
  reconcile {a _ w _ _ _ _} hx hw := by
    refine hw.moves (Ledger.reconcileBrokerFact_evolves hx).movesRow fun hresting => ?_
    obtain ⟨hanswered, htracked⟩ :=
      Ledger.reconcileBrokerFact_answered hx hresting.answered hresting.tracked
    exact ⟨hanswered, htracked, (Ledger.reconcileBrokerFact_evolves hx).issued
      (fun _ he => he.not_started) hresting.issued⟩
  aside _ _ _ := trivial

variable (hfaithful : CancelsFaithfully p)

include hfaithful

/-- A cancel through the capability: in time and with healthy facts it reaches a faithful broker,
so it is not refused. -/
lemma achieves_cancelOrder {brokerOrderId : String} :
    Achieves (OnOrder config service context n a fact)
      (attempt (cancelOrder (capabilityPorts p service context) brokerOrderId))
      fun result => OnOrder config service context n a (fact ∧ ∀ failure,
        result = .error failure → classifyWriteFailure failure = .outcomeUnknown) := by
  intro w h
  have hnext := h.observe (o := .cancelOrder w.outside brokerOrderId) (by simp)
  have hauthorized : InTime config service context (.cancelOrder w.outside brokerOrderId) →
      Authorizer.authorize service (context .cancel (.brokerOrder brokerOrderId) w.outside) .cancel
        (.brokerOrder brokerOrderId) = .ok ⟨⟩ := by
    intro htime
    cases htime with
    | cancelOrder hhealthy hphase => exact authorize_of_tradable hhealthy hphase
    | passive hpassive => cases hpassive
  rw [attempt_cancelOrder]
  refine hnext.imp fun ⟨hfact, htime⟩ => ⟨hfact, fun failure hfailure => ?_⟩
  refine hfaithful w.ledger brokerOrderId w.outside failure ?_
  simpa only [capabilityPorts, hauthorized htime] using hfailure

/-- A cancel in time settles the order. -/
lemma achieves_cancelLive :
    Achieves (OnOrder config service context n a (Resting a))
      (cancelLive (capabilityPorts p service context) config a)
      fun next => OnOrder config service context n next (next.state ∈ settledStates) := by
  unfold cancelLive
  split
  · exact triple_throw fun _ _ => trivial
  rename_i brokerOrderId _
  have hpassive : Passive (capabilityPorts p service context)
    (OnOrder config service context n a (Resting a)) := passive_atHand
  refine triple_bind hpassive.achieves_guard fun _ => ?_
  refine triple_bind hpassive.idle.keeps_clock.achieves fun startedAt => ?_
  refine triple_bind (achieves_moves Prod.fst (F := fun r =>
    OrderAggregate.Tracked r.1 ∧ r.1.state = .cancelRequested ∧ r.2.commandKind = .cancel ∧
      r.2.attemptId.commandKind = .cancel) (fun h => Ledger.beginCancel_movesRow h)
    fun {_ r _} h hresting => ?_) fun ⟨cancelling, attempted⟩ => ?_
  · obtain ⟨htracked, hstate⟩ := Ledger.beginCancel_tracked hresting.tracked hresting.issued h
    obtain ⟨hkind, hid, -⟩ := Ledger.beginCancel_eq_ok h
    exact ⟨htracked, hstate, hkind, hid⟩
  have hcancelling : ∀ fact, Passive (capabilityPorts p service context)
    (OnOrder config service context n cancelling fact) := fun _ => passive_atHand
  refine triple_bind (hcancelling _).achieves_guard fun _ => ?_
  refine triple_bind (achieves_cancelOrder hfaithful) fun result => ?_
  refine triple_settle (hcancelling _).idle (fun _ _ => trivial) (hcancelling _).achieves_guard
    (fun failure _ hresult hrefused =>
      achieves_call (.resolveCancelNotAccepted ..) fun h hfact => ?_)
    (fun _ _ => achieves_call (.markAttemptUnknown ..) fun h hfact => ?_)
    fun _ _ _ => achieves_call (.recordCancelResult ..) fun h hfact => ?_
  · rw [hfact.2 failure hresult] at hrefused
    cases hrefused
  · obtain ⟨⟨htracked, hstate, hkind, hid⟩, -⟩ := hfact
    rw [Ledger.markAttemptUnknown_cancel hkind hid h htracked (.inl hstate)]
    decide
  · obtain ⟨⟨htracked, hstate, -, hid⟩, -⟩ := hfact
    rw [settledStates, List.mem_append]
    rcases Ledger.recordCancelResult_settled h hid hstate htracked with hterm | hunknown
    · exact .inl hterm
    · rw [hunknown]
      exact .inr (by decide)

lemma achieves_cancelAtWindowEnd :
    Achieves (OnOrder config service context n a (Resting a))
      (cancelAtWindowEnd (capabilityPorts p service context) config a)
      fun next => OnOrder config service context n next (next.state ∈ settledStates) := by
  unfold cancelAtWindowEnd
  split
  swap
  · rename_i hclosed
    exact triple_pure fun _ h => h.imp fun hresting => hresting.settled hclosed
  refine triple_bind passive_atHand.idle.keeps_monotonic.achieves fun now => ?_
  have hnote : Achieves (OnOrder config service context n a (Resting a))
      (observe (.windowEnd now) : Live B PUnit) fun _ => OnOrder config service context n a
        (Resting a ∧ InTime config service context (.windowEnd now)) :=
    fun w h => h.observe (by simp)
  refine triple_bind hnote fun _ => ?_
  split
  · exact triple_pre (achieves_cancelLive hfaithful) (fun _ h => h.imp And.left)
  · rename_i hlate
    refine triple_pure fun _ h => h.imp fun ⟨_, htime⟩ => ?_
    cases htime with
    | windowEnd hnow =>
      exact absurd ⟨hnow, hnow.trans_le config.deadlines.cancel_le_completion⟩ hlate
    | passive hpassive => cases hpassive

/-- When every window ends in time, an answered order is settled when it is finished. -/
lemma achieves_finishOpenOrder {submittedMonotonic : ℚ} {side : Side} :
    Achieves (OnOrder config service context n a (Resting a))
      (finishOpenOrder (capabilityPorts p service context) config a submittedMonotonic side)
      fun next => OnOrder config service context n next (next.state ∈ settledStates) := by
  refine awaits_resting.triple_finishOpenOrder (fun current w hclosed hw => ?_) fun _ =>
    achieves_cancelAtWindowEnd hfaithful
  exact hw.imp fun hresting => hresting.settled hclosed

omit hfaithful

lemma achieves_submitOrder {command : BrokerOrderCommand}
    (hid : command.executionId = a.intent.executionId) :
    Achieves (OnOrder config service context n a fact) (attempt (submitOrder p command))
      fun _ => OnOrder config service context n a fact := by
  intro w h
  rw [attempt_submitOrder]
  refine (h.observe (o := .submitOrder w.ledger command) fun _ _ heq => ?_).imp And.left
  cases heq
  exact hid

/-- A submission leaves the order refused, unknown or answered. -/
lemma achieves_submitLive :
    Achieves (OnOrder config service context n a (Ledger.Opened a ∧ a.Issued))
      (submitLive p config a planned)
      fun next => OnOrder config service context n next
        (next.state = .armed ∨ next.state = .unknown ∨ Resting next) := by
  have hpassive : Passive p (OnOrder config service context n a (Ledger.Opened a ∧ a.Issued)) :=
    passive_atHand
  refine triple_bind hpassive.achieves_guard fun _ => ?_
  refine triple_bind hpassive.idle.keeps_clock.achieves fun startedAt => ?_
  have hbegin : Achieves (OnOrder config service context n a (Ledger.Opened a ∧ a.Issued))
      (inTransaction (Ledger.beginSubmit a (command a.intent planned) startedAt) : Live B _)
      fun r w => r.1.intent = a.intent ∧ OnOrder config service context n r.1
        (Ledger.Opened r.1 ∧ r.1.Issued ∧ r.1.state = .submitting ∧ r.2.commandKind = .submit ∧
          r.2.attemptId.commandKind = .submit) w := by
    refine triple_imp (triple_and (achieves_moves Prod.fst (F := fun r =>
      Ledger.Opened r.1 ∧ r.1.Issued ∧ r.1.state = .submitting ∧ r.2.commandKind = .submit ∧
          r.2.attemptId.commandKind = .submit)
      (fun h => Ledger.beginSubmit_movesRow h) fun {_ r _} h hfact => ?_)
      (?_ : Achieves (fun _ => True) _ fun r _ => r.1.intent = a.intent))
      (fun _ h => ⟨h, trivial⟩) (fun _ _ h => ⟨h.2, h.1⟩) fun _ h => h.1
    · obtain ⟨-, hkind, hid, -⟩ := Ledger.beginSubmit_eq_ok h
      obtain ⟨hopened, hissued, hstate⟩ := Ledger.beginSubmit_opened hfact.1 hfact.2 h
      exact ⟨hopened, hissued, hstate, hkind, hid⟩
    · intro w _
      unfold inTransaction
      cases hx : Ledger.beginSubmit a (command a.intent planned) startedAt w.ledger with
      | error failure => trivial
      | ok r => exact (Ledger.beginSubmit_movesRow hx).intent
  refine triple_bind hbegin fun ⟨submitting, attempted⟩ => triple_assume fun hintent => ?_
  have hsubmitting : ∀ fact, Passive p (OnOrder config service context n submitting fact) :=
    fun _ => passive_atHand
  refine triple_bind (hsubmitting _).achieves_guard fun _ => ?_
  refine triple_bind (achieves_submitOrder ?_) fun result => ?_
  · rw [hintent]
    rfl
  refine triple_settle (hsubmitting _).idle (fun _ _ => trivial) (hsubmitting _).achieves_guard
    (fun _ _ _ _ => achieves_call (.resolveSubmitNotAccepted ..) fun h hfact => ?_)
    (fun _ _ => achieves_call (.markAttemptUnknown ..) fun h hfact => ?_)
    fun _ _ _ => achieves_call (.recordSubmitResult ..) fun h hfact => ?_
  · obtain ⟨hopened, -, hstate, -⟩ := hfact
    exact .inl (Ledger.resolveSubmitNotAccepted_armed h hstate hopened)
  · obtain ⟨hopened, -, hstate, hkind, hid⟩ := hfact
    exact .inr (.inl
      ((Ledger.markAttemptUnknown_submit hkind hid h hopened.tracked).2.2 hopened hstate))
  · obtain ⟨hopened, hissued, hstate, -, hid⟩ := hfact
    obtain ⟨hanswered, htracked⟩ := Ledger.recordSubmitResult_answered h hid hstate hopened
    exact .inr (.inr ⟨hanswered, htracked, Ledger.recordReturnedResult_issued h hissued⟩)

/-- A new order is taken to hand beside the settled ones. -/
lemma achieves_newAggregate {shares : ℕ} {time : DateTime} :
    Achieves (fun w : World B => Unexecuted planned w.ledger ∧
        AllSettled config service context n w.ledger w.trace)
      (newAggregate planned shares time)
      fun armed => OnOrder config service context n armed (Ledger.Opened armed ∧ armed.Issued) := by
  refine triple_openNew (fun _ _ => trivial) fun {_ intent _ _ _ _} hsettled hnew happend harm => ?_
  obtain ⟨hsame, hholds, hother⟩ := Ledger.openNew_movesRow hnew happend harm
  obtain ⟨rfl, -⟩ := Ledger.appendIntent_new hnew happend
  refine ⟨hsettled.length, hholds, fun _ => ⟨Ledger.validateAndArm_opened harm,
    Ledger.validateAndArm_issued (.fromIntent intent) harm⟩,
    fun hgood stored command hmem hne => ?_⟩
  rw [hsame] at hne
  exact (hsettled.settled hgood stored command hmem).of_otherRows hne hother

lemma achieves_submitAndFinish (hfaithful : CancelsFaithfully p) (planned : PlannedOrder)
    (shares : ℕ) :
    Achieves (fun w : World B => Unexecuted planned w.ledger ∧
        AllSettled config service context n w.ledger w.trace)
      (submitAndFinish (capabilityPorts p service context) config planned shares)
      fun _ w => AllSettled config service context n w.ledger w.trace := by
  have hsettled : Passive (capabilityPorts p service context)
      fun w => AllSettled config service context n w.ledger w.trace := passive_allSettled
  have hfresh := hsettled.and_ledger (Unexecuted planned)
  refine triple_bind hfresh.idle.keeps_monotonic.achieves fun submittedMonotonic => ?_
  refine triple_bind hfresh.idle.keeps_clock.achieves fun submittedAt => ?_
  refine triple_bind achieves_newAggregate fun armed => ?_
  refine triple_bind achieves_submitLive fun submitted => ?_
  split
  · rename_i harmed
    exact triple_pure fun _ h => (h.imp fun _ => by rw [harmed]; decide).allSettled
  split
  · rename_i hunknown
    exact triple_pure fun _ h => (h.imp fun _ => by rw [hunknown]; decide).allSettled
  rename_i harmed hunknown
  have hfinish : Achieves (OnOrder config service context n submitted
      (submitted.state = .armed ∨ submitted.state = .unknown ∨ Resting submitted))
      (finishOpenOrder (capabilityPorts p service context) config submitted submittedMonotonic
        planned.side)
      fun next => OnOrder config service context n next (next.state ∈ settledStates) :=
    triple_pre (achieves_finishOpenOrder hfaithful)
      (fun _ h => h.imp fun hfact => (hfact.resolve_left harmed).resolve_left hunknown)
  refine triple_bind hfinish fun final => ?_
  exact triple_pure fun _ h => h.allSettled

end Run

/-! ## The windows of a session -/

/-- `ProductionServiceHooks._execution_deadlines`: the fences of a session in monotonic seconds,
counted back from 14:59:50. -/
def executionDeadlines (settings : ExecutionRuntimeSettings) (now : DateTime)
    (monotonicNow : ℚ) : Except Failure (Option ExecutionDeadlines) :=
  let completionWall :=
    combineShanghai (shanghaiDate now) (14 * hour + 59 * minute + 50 * second)
  let cancelWall := completionWall - seconds 30
  let submitWall := cancelWall - seconds (max settings.sellWindowSeconds settings.buyWindowSeconds)
  if submitWall ≤ now then .ok none
  else
    let latestNewSubmit := monotonicNow + totalSeconds (submitWall - now)
    if h : 0 ≤ latestNewSubmit then
      .ok (some
        { latestNewSubmit := latestNewSubmit
          latestCancelInitiation := monotonicNow + totalSeconds (cancelWall - now)
          absoluteCompletion := monotonicNow + totalSeconds (completionWall - now)
          nonneg := h
          submit_le_cancel := by
            have := seconds_nonneg (max settings.sellWindowSeconds settings.buyWindowSeconds)
            exact add_le_add_right (totalSeconds_mono (by linarith)) _
          cancel_le_completion := by
            have := seconds_nonneg 30
            exact add_le_add_right (totalSeconds_mono (by linarith)) _ })
    else .error (.valueError "execution deadlines cannot be negative")

/-- The windows of a run end where an order can be cancelled: an order that is open at the end of
its window is found before the fence for cancels, and the market is in a tradable phase whenever
a cancel is authorized. -/
structure WindowsTradable (config : LiveConfig)
    (context : WriteOperation → WriteSubject → B → WriteAuthorizationContext)
    (since : List (Observation B)) : Prop where
  fence : ∀ now, .windowEnd now ∈ since → now < config.deadlines.latestCancelInitiation
  phase : ∀ outside brokerOrderId, .cancelOrder outside brokerOrderId ∈ since →
    (context .cancel (.brokerOrder brokerOrderId) outside).marketStatus ∈ tradable

/-- For every plan, broker, clock and course of the market phase: when `execute` returns, and the
windows of the run ended where an order can be cancelled, no submitted order is left resting at
the broker.  All facts but the phase are healthy at the cancels, and the broker does not refuse a
cancel that reaches it. -/
theorem no_order_outlives_window {p : Ports B} {config : LiveConfig} {service : ArmService}
    {context : WriteOperation → WriteSubject → B → WriteAuthorizationContext}
    (hfaithful : CancelsFaithfully p) {plan : ExecutionPlan} {w w' : World B}
    {result : ExecutionSessionResult} {since : List (Observation B)}
    (hrun : execute (capabilityPorts p service context) config plan w = .ok result w')
    (htrace : w'.trace = w.trace ++ since)
    (hhealthy : ∀ outside brokerOrderId, .cancelOrder outside brokerOrderId ∈ since →
      HealthyButPhase service (context .cancel (.brokerOrder brokerOrderId) outside) brokerOrderId)
    (hwindows : WindowsTradable config context since) :
    ∀ ledger command, .submitOrder ledger command ∈ since →
      Settled w'.ledger command.executionId := by
  have hexecute : Achieves (fun w' : World B =>
        AllSettled config service context w.trace.length w'.ledger w'.trace)
      (execute (capabilityPorts p service context) config plan)
      fun _ w' => AllSettled config service context w.trace.length w'.ledger w'.trace :=
    triple_execute passive_allSettled.idle (fun _ _ => trivial) (achieves_submitAndFinish hfaithful)
  have hstart : AllSettled config service context w.trace.length w.ledger w.trace :=
    ⟨le_refl _, by simp⟩
  have hend := hexecute.ok hrun hstart
  have hsince : w'.trace.drop w.trace.length = since := by rw [htrace, List.drop_left]
  have htime : WindowsInTime config service context since := by
    intro o ho
    cases o with
    | windowEnd now => exact .windowEnd (hwindows.fence now ho)
    | cancelOrder outside brokerOrderId =>
      exact .cancelOrder (hhealthy outside brokerOrderId ho)
        (hwindows.phase outside brokerOrderId ho)
    | submitOrder ledger command => exact .submitOrder
    | clock time => exact .passive (.clock time)
    | monotonic time => exact .passive (.monotonic time)
    | sleep duration => exact .passive (.sleep duration)
    | leaseCheck held => exact .passive (.leaseCheck held)
  intro ledger command hmem
  exact hend.settled (hsince.symm ▸ htime) ledger command (hsince.symm ▸ hmem)

/-! ## An order before the break -/

/-- The phases of a trading day: a morning session, a break, an afternoon session. -/
def dayPhase (time : DateTime) : MarketSessionStatus :=
  let sinceMidnight := shanghai time % day
  if sinceMidnight < 9 * hour + 30 * minute then .closed
  else if sinceMidnight < 11 * hour + 30 * minute then .open
  else if sinceMidnight < 13 * hour then .break
  else if sinceMidnight < 15 * hour then .open
  else .closed

/-- A context that is healthy but for the phase, which follows the trading day. -/
def dayContext (rules : DeskRules) (_ : WriteOperation) (subject : WriteSubject) (desk : Desk) :
    WriteAuthorizationContext where
  settings := Desk.liveSettings
  lease := some (Desk.leaseUntil day (by decide))
  binding := Desk.liveBinding
  now := desk.wall rules
  runtimeState := .executing
  brokerHealth := ⟨true, true, true, desk.wall rules, BrokerHealth.up, fun h => h⟩
  startupReconciliationPassed := true
  brokerSnapshotReceivedAt := some (desk.wall rules)
  maxBrokerSnapshotAge := 5 * second
  quoteReceivedAt := some (desk.wall rules)
  maxQuoteAge := 5 * second
  sessionValid := true
  marketStatus := dayPhase (desk.wall rules)
  fingerprintsMatch := true
  killSwitchTripped := false
  unresolvedOrderCount := 0
  submittingUnresolvedCount := 0
  reconciliationMismatch := false
  externalActivityDetected := false
  gateDecision := match subject with
    | .command command => some ⟨.allow, command.requestedShares, []⟩
    | _ => none
  cancelRiskApproved := true
  symbolInCanonicalUniverse := true
  symbolInDeploymentAllowlist := true
  commandWithinUquantIntent := true
  cashAndPositionsSafe := true
  frequencyWithinLimits := true
  clockReceipt := some ⟨desk.wall rules, desk.wall rules, 0⟩

/-- The default windows, polled every 100 seconds. -/
def slowPolls : ExecutionRuntimeSettings :=
  { ExecutionRuntimeSettings.default with
    pollIntervalSeconds := 100
    poll_pos := hundred_pos
    poll_le_max := by decide }

/-- The controller that executes from the given seconds before the fence for submissions. -/
def slowPollConfig (remaining : ℚ) (h : 0 ≤ remaining) : LiveConfig where
  feeSchedule := Desk.noFees
  windowPolicy := ⟨300 * second, 300 * second, 3 * second, 100 * second, fiveMinutes_pos,
    fiveMinutes_pos, threeSeconds_pos, by decide, unhurried.windowPolicy.lifetime_fits, by decide⟩
  deadlines := ⟨remaining, remaining + 300, remaining + 330, h, by linarith, by linarith⟩
  fuel := 5

/-- A desk that starts at a time of day and where orders rest until they are cancelled. -/
def restingFrom (timeOfDay : Duration) : DeskRules :=
  ⟨combineShanghai 0 timeOfDay, false, 0, fun _ _ => []⟩

/-- The execution of one SELL that rests at the broker, from the given time of day. -/
def restingSell (timeOfDay : Duration) (remaining : ℚ) (h : 0 ≤ remaining) :
    EStateM.Result Failure (World Desk) ExecutionSessionResult :=
  execute (capabilityPorts (Desk.ports (restingFrom timeOfDay)) ⟨fun _ => "mac"⟩
      (dayContext (restingFrom timeOfDay)))
    (slowPollConfig remaining h) (Desk.plan [Desk.lot "A" "600001" .sell])
    (Desk.fresh 5000 ["600001"]).world

lemma restingFrom_cancelsFaithfully (timeOfDay : Duration) :
    CancelsFaithfully (Desk.ports (restingFrom timeOfDay)) := by
  intro ledger brokerOrderId desk failure h
  change (Desk.cancel (restingFrom timeOfDay) brokerOrderId desk).1 = .error failure at h
  unfold Desk.cancel at h
  split at h
  · cases h
    rfl
  · cases h

/-- Every end of a window and every cancel of a trace passes its check. -/
def traceAll (windowEnds : ℚ → Bool) (cancels : B → String → Bool)
    (trace : List (Observation B)) : Bool :=
  trace.all fun
    | .windowEnd now => windowEnds now
    | .cancelOrder outside brokerOrderId => cancels outside brokerOrderId
    | _ => true

lemma of_traceAll {windowEnds : ℚ → Bool} {cancels : B → String → Bool}
    {trace : List (Observation B)} (h : traceAll windowEnds cancels trace = true) :
    (∀ now, .windowEnd now ∈ trace → windowEnds now = true) ∧
      ∀ outside brokerOrderId, .cancelOrder outside brokerOrderId ∈ trace →
        cancels outside brokerOrderId = true :=
  ⟨fun _ hmem => List.all_eq_true.mp h _ hmem, fun _ _ hmem => List.all_eq_true.mp h _ hmem⟩

/-- Some submitted order of a trace is in the given state in the ledger. -/
def submittedIn (state : OrderState) (ledger : Ledger) (trace : List (Observation B)) : Bool :=
  trace.any fun
    | .submitOrder _ command => ledger.executionIntents.any fun row =>
        decide (row.executionId = command.executionId) && decide (row.state = state)
    | _ => false

lemma exists_of_submittedIn {state : OrderState} {ledger : Ledger}
    {trace : List (Observation B)} (h : submittedIn state ledger trace = true) :
    ∃ stored command, .submitOrder stored command ∈ trace ∧ ∃ row ∈ ledger.executionIntents,
      row.executionId = command.executionId ∧ row.state = state := by
  obtain ⟨o, ho, hcheck⟩ := List.any_eq_true.mp h
  cases o with
  | submitOrder stored command =>
    obtain ⟨row, hrow, hboth⟩ := List.any_eq_true.mp hcheck
    obtain ⟨hid, hstate⟩ := Bool.and_eq_true_iff.mp hboth
    exact ⟨stored, command, ho, row, hrow, of_decide_eq_true hid, of_decide_eq_true hstate⟩
  | _ => cases hcheck

/-- The facts but for the phase are healthy, by evaluation. -/
def healthyCancel (timeOfDay : Duration) (desk : Desk) (brokerOrderId : String) : Bool :=
  decide (HealthyButPhase ⟨fun _ => "mac"⟩ (dayContext (restingFrom timeOfDay) .cancel
    (.brokerOrder brokerOrderId) desk) brokerOrderId)

/-- A SELL that is submitted at 10:00 is cancelled at the end of its window. -/
theorem morning_sell_settled :
    ∃ result w', restingSell (10 * hour) 17660 (by norm_num) = .ok result w' ∧
      ∃ ledger command, .submitOrder ledger command ∈ w'.trace ∧
        Settled w'.ledger command.executionId := by
  have hrun : returnsWith (fun _ w' => traceAll (fun now => decide (now < 17960))
      (fun desk brokerOrderId => healthyCancel (10 * hour) desk brokerOrderId &&
        decide (dayPhase (desk.wall (restingFrom (10 * hour))) ∈ tradable)) w'.trace &&
      submittedIn .cancelled w'.ledger w'.trace)
      (restingSell (10 * hour) 17660 (by norm_num)) = true := by
    decide +kernel
  obtain ⟨result, w', hok, hcheck⟩ := exists_ok_of_returnsWith hrun
  obtain ⟨hall, hsubmitted⟩ := Bool.and_eq_true_iff.mp hcheck
  obtain ⟨hends, hcancels⟩ := of_traceAll hall
  obtain ⟨ledger, command, hmem, -⟩ := exists_of_submittedIn hsubmitted
  have hboth := fun desk id hcancel => Bool.and_eq_true_iff.mp (hcancels desk id hcancel)
  refine ⟨result, w', hok, ledger, command, hmem, ?_⟩
  refine no_order_outlives_window (restingFrom_cancelsFaithfully (10 * hour)) hok rfl
    (fun desk id hcancel => ?_) ⟨fun now hnow => ?_, fun desk id hcancel => ?_⟩ ledger command hmem
  · exact of_decide_eq_true (hboth desk id hcancel).1
  · have := of_decide_eq_true (hends now hnow)
    change now < 17660 + 300
    linarith
  · exact of_decide_eq_true (hboth desk id hcancel).2

/-- A SELL that is submitted at 11:28, under the deadlines of the day, reaches the end of its
window in the break.  All facts but the phase are healthy when its cancel is authorized, and
`execute` returns with the order acknowledged at the broker. -/
theorem sell_left_resting_in_break :
    executionDeadlines slowPolls (combineShanghai 0 (11 * hour + 28 * minute)) 0 =
        .ok (some (slowPollConfig 12380 (by norm_num)).deadlines) ∧
    CancelsFaithfully (Desk.ports (restingFrom (11 * hour + 28 * minute))) ∧
    ∃ result w', restingSell (11 * hour + 28 * minute) 12380 (by norm_num) = .ok result w' ∧
      (∀ desk brokerOrderId, .cancelOrder desk brokerOrderId ∈ w'.trace →
        HealthyButPhase ⟨fun _ => "mac"⟩ (dayContext (restingFrom (11 * hour + 28 * minute))
          .cancel (.brokerOrder brokerOrderId) desk) brokerOrderId) ∧
      ∃ ledger command, .submitOrder ledger command ∈ w'.trace ∧
        (∃ row ∈ w'.ledger.executionIntents, row.executionId = command.executionId ∧
          row.state = .acknowledged) ∧
        ¬ Settled w'.ledger command.executionId := by
  have hrun : returnsWith (fun _ w' => traceAll (fun _ => true)
      (healthyCancel (11 * hour + 28 * minute)) w'.trace &&
      submittedIn .acknowledged w'.ledger w'.trace)
      (restingSell (11 * hour + 28 * minute) 12380 (by norm_num)) = true := by
    decide +kernel
  obtain ⟨result, w', hok, hcheck⟩ := exists_ok_of_returnsWith hrun
  obtain ⟨hall, hsubmitted⟩ := Bool.and_eq_true_iff.mp hcheck
  obtain ⟨-, hcancels⟩ := of_traceAll hall
  obtain ⟨ledger, command, hmem, row, hrow, hid, hstate⟩ := exists_of_submittedIn hsubmitted
  refine ⟨by decide +kernel, restingFrom_cancelsFaithfully _, result, w', hok,
    fun desk id hcancel => of_decide_eq_true (hcancels desk id hcancel), ledger, command, hmem,
    ⟨row, hrow, hid, hstate⟩, fun hsettled => ?_⟩
  have := hsettled.state row hrow hid
  rw [hstate] at this
  exact absurd this (by decide)

end LiveController

end FirmQuant
