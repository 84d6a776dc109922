import FirmQuant.Risk.SweepGateway

/-!
# Emergency sweeps

Sweeps of `cancel_system_orders` over one ledger, each against a gateway of its own and each cut
anywhere.  Every cancel is written ahead and is the first one for its order.  A sweep whose answers
are consistent with the ledger does not raise, and files every order that it examined once; an
answer that is not raises out of the sweep, since `record_cancel_result` stands outside its `try`
blocks.
-/

namespace FirmQuant

open Effect WriteM Ledger Trace

namespace CancelSweep

variable {ε α β : Type}

/-! ## What sweeps keep -/

@[simp] lemma cancelIds_append (t t' : List SweepEntry) :
    cancelIds (t ++ t') = cancelIds t ++ cancelIds t' := by
  simp [cancelIds]

/-- The row of a candidate. -/
structure SystemRow (ledger : Ledger) (candidate : CancelCandidate) (row : BrokerOrderRow) :
    Prop where
  mem : row ∈ ledger.brokerOrders
  brokerOrderId : row.brokerOrderId = candidate.brokerOrderId
  ownership : row.ownership = .system
  executionId : row.executionId = some candidate.executionId
  clientOrderId : row.clientOrderId = some candidate.clientOrderId
  symbol : row.symbol = candidate.symbol
  side : row.side = candidate.side
  requestedShares : row.requestedShares = candidate.requestedShares
  limitPrice : row.limitPrice = some candidate.limitPrice
  sessionDate : row.sessionDate = candidate.sessionDate

/-- The invariant of sweeps: the tables agree, every cancel obeys the rule and is the first of its
order, and the orders that were cancelled are no longer active. -/
structure Sweeping (prior : List SweepEntry) (ledger : Ledger) (trace : List SweepEntry) :
    Prop where
  recorded : Recorded ledger
  obeys : Obeys CancelRule trace
  once : (cancelIds (prior ++ trace)).Nodup
  closed : ∀ brokerOrderId ∈ cancelIds (prior ++ trace), ∃ executionId aggregate,
    ledger.HasBrokerOrder brokerOrderId executionId ∧
    ledger.load executionId = some aggregate ∧ aggregate.state ∉ OrderState.openStates

section Sweeping

variable {prior trace : List SweepEntry} {ledger ledger' : Ledger} {candidate : CancelCandidate}
  {row : BrokerOrderRow} {aggregate next : OrderAggregate} {attempt : BrokerAttempt}
  {time : DateTime}

lemma SystemRow.hasBrokerOrder (h : SystemRow ledger candidate row) :
    ledger.HasBrokerOrder candidate.brokerOrderId candidate.executionId :=
  ⟨row, h.mem, h.brokerOrderId, h.executionId⟩

lemma SystemRow.grows (h : SystemRow ledger candidate row) (hgrows : Grows ledger ledger') :
    ∃ row', SystemRow ledger' candidate row' := by
  obtain ⟨row', hmem, hsame⟩ := hgrows.brokerOrders row h.mem
  exact ⟨row', hmem, hsame.brokerOrderId.trans h.brokerOrderId, hsame.ownership.trans h.ownership,
    hsame.executionId.trans h.executionId, hsame.clientOrderId.trans h.clientOrderId,
    hsame.symbol.trans h.symbol, hsame.side.trans h.side,
    hsame.requestedShares.trans h.requestedShares, hsame.limitPrice.trans h.limitPrice,
    hsame.sessionDate.trans h.sessionDate⟩

variable {more : List SweepEntry}

/-- Entries that are no cancels obey any rule about cancels. -/
lemma obeys_append_quiet (h : Obeys CancelRule trace)
    (hmore : cancelIds more = []) : Obeys CancelRule (trace ++ more) := by
  induction more using List.reverseRecOn with
  | nil => rwa [List.append_nil]
  | append_singleton more entry ih =>
    rw [cancelIds_append, List.append_eq_nil_iff] at hmore
    rw [← List.append_assoc]
    refine (ih hmore.1).append ?_
    cases entry with
    | cancelOrder brokerOrderId l => simp [cancelIds] at hmore
    | orders | response | fills => trivial

/-- A call on one order, which leaves that order inactive; nothing is seen of it. -/
lemma Sweeping.call (h : Sweeping prior ledger trace) {call : OrderCall}
    {executionId : ExecutionId} (hload : ledger.load executionId = some aggregate)
    (hrecord : call.OnRecord ledger executionId)
    (hrun : call.run aggregate ledger = .ok (next, ledger'))
    (hclosed : next.state ∉ OrderState.openStates) : Sweeping prior ledger' trace := by
  obtain ⟨hrecorded, hnext, hothers, hgrows⟩ := h.recorded.onOrder hload hrecord hrun
  refine ⟨hrecorded, h.obeys, h.once, fun brokerOrderId hmem => ?_⟩
  obtain ⟨e, a, hbroker, ha, hstate⟩ := h.closed brokerOrderId hmem
  by_cases he : e = executionId
  · exact ⟨executionId, next, hgrows.hasBrokerOrder (he ▸ hbroker), hnext, hclosed⟩
  · exact ⟨e, a, hgrows.hasBrokerOrder hbroker, (hothers e he).trans ha, hstate⟩

lemma Sweeping.quiet (h : Sweeping prior ledger trace)
    (hmore : cancelIds more = []) : Sweeping prior ledger (trace ++ more) := by
  have hids : cancelIds (prior ++ (trace ++ more)) = cancelIds (prior ++ trace) := by
    simp [hmore]
  exact ⟨h.recorded, obeys_append_quiet h.obeys hmore, by rw [hids]; exact h.once,
    by rw [hids]; exact h.closed⟩

lemma reportsRow_of_matches (hrow : SystemRow ledger candidate row) {order : BrokerOrderFact}
    (hid : order.brokerOrderId = candidate.brokerOrderId)
    (h : CancelOnlyCapability.matchesCandidate candidate order = true) : ReportsRow row order := by
  unfold CancelOnlyCapability.matchesCandidate at h
  simp only [Bool.and_eq_true, decide_eq_true_eq] at h
  obtain ⟨⟨⟨⟨⟨⟨⟨⟨hstatus, hclient⟩, hsymbol⟩, hside⟩, hshares⟩, hprice⟩, hdate⟩, -⟩, -⟩ := h
  exact ⟨hid.trans hrow.brokerOrderId.symm, hstatus, hclient.trans hrow.clientOrderId.symm,
    hsymbol.trans hrow.symbol.symm, hside.trans hrow.side.symm,
    hshares.trans hrow.requestedShares.symm, by rw [hprice]; exact hrow.limitPrice.symm,
    hdate.trans hrow.sessionDate.symm⟩

/-- An active order was not cancelled before. -/
lemma Sweeping.not_cancelled (h : Sweeping prior ledger trace)
    (hrow : SystemRow ledger candidate row)
    (hload : ledger.load candidate.executionId = some aggregate)
    (hactive : aggregate.state ∈ OrderState.openStates) :
    candidate.brokerOrderId ∉ cancelIds (prior ++ trace) := by
  intro hmem
  obtain ⟨e, a, hbroker, ha, hstate⟩ := h.closed _ hmem
  obtain rfl := h.recorded.owned.brokerOrder_owner hbroker hrow.hasBrokerOrder
  rw [hload] at ha
  cases ha
  exact hstate hactive

end Sweeping

/-! ## One cancel -/

/-- The order of a candidate, found active in the ledger and reported by the broker. -/
structure Found (prior : List SweepEntry) (ledger : Ledger) (trace : List SweepEntry)
    (candidate : CancelCandidate) (aggregate : OrderAggregate) : Prop where
  sweeping : Sweeping prior ledger trace
  row : ∃ row, SystemRow ledger candidate row
  load : ledger.load candidate.executionId = some aggregate
  active : aggregate.state ∈ OrderState.openStates
  broker : aggregate.brokerOrderId = some candidate.brokerOrderId
  reported : ∃ earlier orders order, trace = earlier ++ [.orders orders ledger] ∧
    orders.filter (·.brokerOrderId = candidate.brokerOrderId) = [order] ∧
    CancelOnlyCapability.matchesCandidate candidate order = true

/-- The cancel was written ahead, and `cancel_order` was called. -/
structure Called (prior : List SweepEntry) (ledger : Ledger) (trace : List SweepEntry)
    (candidate : CancelCandidate) (aggregate : OrderAggregate) (attempt : BrokerAttempt) :
    Prop where
  sweeping : Sweeping prior ledger trace
  row : ∃ row, SystemRow ledger candidate row
  load : ledger.load candidate.executionId = some aggregate
  begun : Begun ledger aggregate attempt candidate.brokerOrderId

section Cancel

variable {prior trace : List SweepEntry} {ledger ledger' : Ledger} {candidate : CancelCandidate}
  {aggregate next : OrderAggregate} {attempt : BrokerAttempt} {time : DateTime}

/-- The write-ahead record, before the call. -/
lemma Found.begin (h : Found prior ledger trace candidate aggregate)
    (hrun : Ledger.beginCancel aggregate time ledger = .ok ((next, attempt), ledger')) :
    Called prior ledger' trace candidate next attempt := by
  obtain ⟨row, hrow⟩ := h.row
  obtain ⟨hbegun, hnext, -, hgrows⟩ := h.sweeping.recorded.begun h.load h.broker hrun
  have hcall : (OrderCall.beginCancel time).run aggregate ledger = .ok (next, ledger') :=
    Txn.bind_eq_ok.mpr ⟨_, _, hrun, rfl⟩
  have hrecord : (OrderCall.beginCancel time).OnRecord ledger candidate.executionId := by
    intro other hsettles
    exact hsettles.elim
  exact ⟨h.sweeping.call h.load hrecord hcall (by rw [hbegun.state]; decide),
    hrow.grows hgrows, hnext, hbegun⟩

/-- The call after the write-ahead record obeys the rule, and is the first one for its order. -/
lemma Found.call (h : Found prior ledger trace candidate aggregate)
    (hrun : Ledger.beginCancel aggregate time ledger = .ok ((next, attempt), ledger')) :
    Called prior ledger' (trace ++ [.cancelOrder candidate.brokerOrderId ledger']) candidate next
      attempt := by
  have hcalled := h.begin hrun
  obtain ⟨row, hrow⟩ := h.row
  obtain ⟨earlier, orders, order, htrace, hfilter, hmatches⟩ := h.reported
  have hnew := h.sweeping.not_cancelled hrow h.load h.active
  have hids : cancelIds (prior ++ (trace ++ [.cancelOrder candidate.brokerOrderId ledger'])) =
      cancelIds (prior ++ trace) ++ [candidate.brokerOrderId] := by
    simp [cancelIds]
  have hid : order.brokerOrderId = candidate.brokerOrderId := by
    have hmem : order ∈ orders.filter (·.brokerOrderId = candidate.brokerOrderId) := by
      rw [hfilter]
      exact List.mem_singleton.mpr rfl
    simpa using (List.mem_filter.mp hmem).2
  refine ⟨⟨hcalled.sweeping.recorded, hcalled.sweeping.obeys.append ?_, ?_, ?_⟩, hcalled.row,
    hcalled.load, hcalled.begun⟩
  · obtain ⟨attemptRow, hattempt, hattemptId, -⟩ := hcalled.begun.held
    obtain ⟨command, hfind, -, hpayload⟩ := hcalled.begun.command
    exact ⟨earlier, orders, ledger, htrace, row, hrow.mem, hrow.brokerOrderId, hrow.ownership,
      candidate.executionId, aggregate, hrow.executionId, h.load, h.active, h.broker,
      ⟨order, hfilter, reportsRow_of_matches hrow hid hmatches⟩, time, next, attempt, hrun,
      attemptRow, hattempt, hattemptId, command, List.mem_of_find?_eq_some hfind,
      by simpa using List.find?_some hfind, hpayload⟩
  · rw [hids, ← List.concat_eq_append]
    exact h.sweeping.once.concat hnew
  · intro brokerOrderId hmem
    rw [hids] at hmem
    rcases List.mem_snoc.mp hmem with hold | hlast
    · exact hcalled.sweeping.closed brokerOrderId hold
    · obtain ⟨row', hrow'⟩ := hcalled.row
      rw [hlast]
      exact ⟨candidate.executionId, next, hrow'.hasBrokerOrder, hcalled.load,
        by rw [hcalled.begun.state]; decide⟩

lemma Called.quiet (h : Called prior ledger trace candidate aggregate attempt)
    {more : List SweepEntry} (hmore : cancelIds more = []) :
    Called prior ledger (trace ++ more) candidate aggregate attempt :=
  ⟨h.sweeping.quiet hmore, h.row, h.load, h.begun⟩

end Cancel

/-- A later ledger, in which only the order of the candidate moved. -/
structure Frame (candidate : CancelCandidate) (ledger ledger' : Ledger) : Prop where
  grows : Grows ledger ledger'
  others : ∀ other, other ≠ candidate.executionId → ledger'.load other = ledger.load other

/-- What a cancel leaves that ran to its end. -/
structure Cancelled (prior : List SweepEntry) (ledger : Ledger) (trace : List SweepEntry)
    (candidate : CancelCandidate) (result result' : CancelOnlyResult) (ledger' : Ledger)
    (trace' : List SweepEntry) : Prop where
  sweeping : Sweeping prior ledger' trace'
  frame : Frame candidate ledger ledger'
  kept : ∃ aggregate, ledger'.load candidate.executionId = some aggregate ∧
    aggregate.brokerOrderId = some candidate.brokerOrderId
  calls : cancelIds trace' = cancelIds trace ++ [candidate.brokerOrderId]
  filed : ∃ state, result' =
    CancelOnlyResult.file { result with cancelCalls := result.cancelCalls + 1 }
      candidate.brokerOrderId state

/-- What a sweep leaves that raised or was cut. -/
def Stopped (prior : List SweepEntry) (e : Raised) (ledger : Ledger) (trace : List SweepEntry) :
    Prop :=
  Sweeping prior ledger trace ∧ ∀ failure, e = .exception failure → ¬ AnswersConsistent trace

section Outcome

variable {prior trace : List SweepEntry} {start ledger ledger' : Ledger}
  {candidate : CancelCandidate} {aggregate next : OrderAggregate} {attempt : BrokerAttempt}
  {time : DateTime} {gateway : SweepGateway ε} {mode : Mode} {result : CancelOnlyResult}
  {before : List SweepEntry}

lemma Frame.trans (h : Frame candidate start ledger) (h' : Frame candidate ledger ledger') :
    Frame candidate start ledger' :=
  ⟨h.grows.trans h'.grows, fun other hother =>
    (h'.others other hother).trans (h.others other hother)⟩

lemma Found.frame (h : Found prior ledger trace candidate aggregate)
    (hrun : Ledger.beginCancel aggregate time ledger = .ok ((next, attempt), ledger')) :
    Frame candidate ledger ledger' := by
  obtain ⟨-, -, hothers, hgrows⟩ := h.sweeping.recorded.begun h.load h.broker hrun
  exact ⟨hgrows, hothers⟩

lemma Called.settle (h : Called prior ledger trace candidate aggregate attempt) {call : OrderCall}
    (hsettles : ∀ other, call.Settles other → other = attempt)
    (hrun : call.run aggregate ledger = .ok (next, ledger'))
    (hclosed : next.state ∉ OrderState.openStates) :
    Sweeping prior ledger' trace ∧ Frame candidate ledger ledger' ∧
      ∃ after, ledger'.load candidate.executionId = some after ∧
        after.brokerOrderId = some candidate.brokerOrderId := by
  have hrecord : call.OnRecord ledger candidate.executionId := by
    intro other hother
    rw [hsettles other hother, ← h.sweeping.recorded.agrees.executionId_of_load h.load]
    exact h.begun.held
  obtain ⟨-, hnext, hothers, hgrows⟩ := h.sweeping.recorded.onOrder h.load hrecord hrun
  exact ⟨h.sweeping.call h.load hrecord hrun hclosed, ⟨hgrows, hothers⟩, next, hnext,
    (OrderCall.evolves hrun).brokerOrderId h.begun.broker⟩

/-- An answer that the ledger refuses is not consistent with it. -/
lemma Called.inconsistent (h : Called prior ledger trace candidate aggregate attempt)
    {fact : BrokerOrderFact} {fills : List BrokerFillFact} {failure : Failure}
    (hrun : recordCancelResult aggregate attempt fact
      (fills.filter (·.brokerOrderId = candidate.brokerOrderId)) time ledger = .error failure) :
    ¬ ConsistentAt ledger candidate.brokerOrderId fact fills := by
  intro hconsistent
  obtain ⟨row, hrow⟩ := h.row
  obtain ⟨final, ledger', hok⟩ : ∃ final ledger', recordCancelResult aggregate attempt fact
      (fills.filter (·.brokerOrderId = candidate.brokerOrderId)) time ledger =
        .ok (final, ledger') :=
    h.begun.recordCancelResult_succeeds ⟨row, hrow.mem, hrow.brokerOrderId⟩
      (hconsistent _ _ hrow.hasBrokerOrder h.load)
  rw [hok] at hrun
  cases hrun

/-- The unknown outcome of a call that raised. -/
lemma exits_markUnknown (hframe : Frame candidate start ledger)
    (h : Called prior ledger trace candidate aggregate attempt)
    (hcalls : cancelIds trace = cancelIds before ++ [candidate.brokerOrderId]) :
    Exits (At ledger trace)
      (do
        let occurredAt ← (gateway.capability mode).gateway .clock
        let _ ← CancelOnlyCapability.transaction
          (Ledger.markAttemptUnknown aggregate attempt "CANCEL_CALL_OUTCOME_UNKNOWN" occurredAt)
        return CancelOnlyResult.file { result with cancelCalls := result.cancelCalls + 1 }
          candidate.brokerOrderId .unknown)
      (fun result' => Sees (Cancelled prior start before candidate result result'))
      fun e => Sees (Stopped prior e) := by
  refine exits_bind (Q := fun _ => At ledger trace) ?_ fun occurredAt => ?_
  · refine exits_error exits_clock ?_
    rintro e w ⟨rfl, hledger, htrace⟩
    exact ⟨by rw [hledger, htrace]; exact h.sweeping, fun _ he => by cases he⟩
  refine exits_bind (Q := fun moved w => ∃ ledger', markAttemptUnknown aggregate attempt
      "CANCEL_CALL_OUTCOME_UNKNOWN" occurredAt ledger = .ok (moved, ledger') ∧
        At ledger' trace w) ?_
    fun moved => ?_
  · refine exits_error exits_transaction ?_
    rintro e w ⟨failure, rfl, herror, -⟩
    obtain ⟨final, ledger', hok⟩ : ∃ final ledger', markAttemptUnknown aggregate attempt
        "CANCEL_CALL_OUTCOME_UNKNOWN" occurredAt ledger = .ok (final, ledger') :=
      h.begun.markAttemptUnknown_succeeds _
    rw [hok] at herror
    cases herror
  · refine exits_pure fun w hw => ?_
    obtain ⟨ledger', hrun, hledger, htrace⟩ := hw
    have hclosed := markAttemptUnknown_notOpen h.begun.commandKind (.inl h.begun.state) hrun
    have hcall : (OrderCall.markAttemptUnknown attempt "CANCEL_CALL_OUTCOME_UNKNOWN" occurredAt).run
        aggregate ledger = .ok (moved, ledger') := hrun
    have hsettles : ∀ other, (OrderCall.markAttemptUnknown attempt "CANCEL_CALL_OUTCOME_UNKNOWN"
        occurredAt).Settles other → other = attempt := fun _ hother => hother
    obtain ⟨hsweeping, hframe', hkept⟩ := h.settle hsettles hcall hclosed
    unfold Sees
    rw [hledger, htrace]
    exact ⟨hsweeping, hframe.trans hframe', hkept, hcalls, .unknown, rfl⟩

variable {brokerOrderId : String}

/-- The reported fills of an order; a failing query reports none. -/
lemma exits_reportedFills :
    Exits (At ledger trace)
      (catching (do
        let fills ← (gateway.capability mode).gateway .queryFills
        return fills.filter (·.brokerOrderId = brokerOrderId)) fun _ => return [])
      (fun found w => ∃ fills : List BrokerFillFact,
        found = fills.filter (·.brokerOrderId = brokerOrderId) ∧
        At ledger (trace ++ [.fills fills]) w)
      fun e w => e = .interrupt ∧ At ledger trace w := by
  refine exits_catching (exits_bind exits_observe fun fills => ?_) (fun failure => ?_)
    fun w h => ⟨rfl, h⟩
  · exact exits_pure fun _ h => ⟨fills, rfl, h⟩
  · exact exits_pure fun _ h => ⟨[], rfl, h⟩

variable {response : BrokerOrderFact}

lemma exits_recordResponse :
    Exits (At ledger trace)
      ((gateway.capability mode).recordResponse brokerOrderId aggregate attempt response)
      (fun final w => ∃ fills receivedAt ledger', recordCancelResult aggregate attempt response
        (fills.filter (·.brokerOrderId = brokerOrderId)) receivedAt ledger = .ok (final, ledger') ∧
        At ledger' (trace ++ [.fills fills]) w)
      fun e w => (e = .interrupt ∧ ∃ more, cancelIds more = [] ∧ At ledger (trace ++ more) w) ∨
        ∃ failure fills receivedAt, e = .exception failure ∧
          recordCancelResult aggregate attempt response
            (fills.filter (·.brokerOrderId = brokerOrderId)) receivedAt ledger = .error failure ∧
          At ledger (trace ++ [.fills fills]) w := by
  unfold CancelOnlyCapability.recordResponse
  refine exits_bind (exits_error exits_reportedFills ?_) fun found => ?_
  · rintro e w ⟨rfl, hledger, htrace⟩
    exact .inl ⟨rfl, [], rfl, hledger, by rw [List.append_nil]; exact htrace⟩
  rintro w ⟨fills, rfl, hw⟩
  revert w
  refine exits_bind (Q := fun _ => At ledger (trace ++ [.fills fills])) ?_ fun receivedAt => ?_
  · refine exits_error exits_clock ?_
    rintro e w ⟨rfl, hw⟩
    exact .inl ⟨rfl, _, rfl, hw⟩
  · refine exits_imp exits_transaction (fun _ h => h) ?_ ?_
    · rintro final w ⟨ledger', hrun, hw⟩
      exact ⟨fills, receivedAt, ledger', hrun, hw⟩
    · rintro e w ⟨failure, rfl, hrun, hw⟩
      exact .inr ⟨failure, fills, receivedAt, rfl, hrun, hw⟩

/-- A call of `cancel_order`: the process dies before it, or the call is seen, and then its
answer. -/
lemma exits_observedCancel :
    Exits (At ledger trace) (gateway.observedCancel brokerOrderId)
      (fun response => At ledger
        (trace ++ [.cancelOrder brokerOrderId ledger] ++ [.response response]))
      fun e w => At ledger (trace ++ [.cancelOrder brokerOrderId ledger]) w ∨
        e = .interrupt ∧ At ledger trace w := by
  unfold SweepGateway.observedCancel
  refine exits_get_same fun w hw => ?_
  split
  · exact exits_throw fun _ h => .inr ⟨rfl, h ▸ hw⟩
  refine exits_bind (Q := fun _ => At ledger (trace ++ [.cancelOrder brokerOrderId ledger])) ?_
    fun _ => ?_
  · rintro _ rfl
    obtain ⟨hledger, htrace⟩ := hw
    exact ⟨hledger, by rw [← htrace, ← hledger]⟩
  · refine exits_error exits_observe fun e w h => .inl ?_
    cases e with
    | exception failure =>
      have hseen : At ledger (trace ++ [.cancelOrder brokerOrderId ledger] ++ []) w := h
      rwa [List.append_nil] at hseen
    | interrupt => exact h

/-- A cancel that is written ahead and called: its answer, or none where it raised. -/
lemma exits_call {call : ℕ} :
    Exits (At ledger trace)
      (catching (some <$> scope ((gateway.capability mode).cancelOrder call brokerOrderId))
        fun _ => return none)
      (fun response => At ledger (trace ++ [.cancelOrder brokerOrderId ledger] ++
        (response.map SweepEntry.response).toList))
      fun e w => e = .interrupt ∧
        (At ledger (trace ++ [.cancelOrder brokerOrderId ledger]) w ∨ At ledger trace w) := by
  have hscope : Exits (At ledger trace)
      (scope ((gateway.capability mode).cancelOrder call brokerOrderId))
      (fun response => At ledger
        (trace ++ [.cancelOrder brokerOrderId ledger] ++ [.response response]))
      (fun e w => At ledger (trace ++ [.cancelOrder brokerOrderId ledger]) w ∨
        e = .interrupt ∧ At ledger trace w) := by
    refine exits_scope (S := fun l t => l = ledger ∧ t = trace)
      (Q := fun response l t => l = ledger ∧
        t = trace ++ [.cancelOrder brokerOrderId ledger] ++ [.response response])
      (E := fun e l t => (l = ledger ∧ t = trace ++ [.cancelOrder brokerOrderId ledger]) ∨
        e = .interrupt ∧ l = ledger ∧ t = trace) ?_
    exact exits_observedCancel
  rw [← bind_pure_comp]
  refine exits_catching (exits_bind hscope fun response => exits_pure fun _ h => h)
    (fun failure => exits_pure fun w h => ?_) fun w h => ⟨rfl, h.imp_right And.right⟩
  rcases h with hcalled | ⟨hinterrupt, -⟩
  · exact ⟨hcalled.1, hcalled.2.trans (List.append_nil _).symm⟩
  · cases hinterrupt

/-- The answer of a call is recorded, unless it is inconsistent. -/
lemma exits_settleResponse (hframe : Frame candidate start ledger)
    (h : Called prior ledger (trace ++ [.cancelOrder candidate.brokerOrderId ledger]) candidate
      aggregate attempt)
    (hcalls : cancelIds (trace ++ [.cancelOrder candidate.brokerOrderId ledger]) =
      cancelIds before ++ [candidate.brokerOrderId]) :
    Exits (At ledger (trace ++ [.cancelOrder candidate.brokerOrderId ledger] ++
        [.response response]))
      (do
        let final ← (gateway.capability mode).recordResponse candidate.brokerOrderId aggregate
          attempt response
        return CancelOnlyResult.file { result with cancelCalls := result.cancelCalls + 1 }
          candidate.brokerOrderId final.state)
      (fun result' => Sees (Cancelled prior start before candidate result result'))
      fun e => Sees (Stopped prior e) := by
  have hanswered : Called prior ledger (trace ++ [.cancelOrder candidate.brokerOrderId ledger] ++
      [.response response]) candidate aggregate attempt := h.quiet rfl
  refine exits_bind (exits_error exits_recordResponse ?_)
    fun final => ?_
  · rintro e w (⟨rfl, more, hmore, hledger, htrace⟩ |
      ⟨failure, fills, receivedAt, rfl, hrun, hledger, htrace⟩)
    · refine ⟨?_, fun _ he => by cases he⟩
      rw [hledger, htrace]
      exact (hanswered.quiet hmore).sweeping
    · refine ⟨?_, fun _ _ hconsistent => ?_⟩
      · rw [hledger, htrace]
        exact (hanswered.quiet rfl).sweeping
      · refine h.inconsistent hrun (hconsistent trace _ _ _ _ [] ?_)
        rw [htrace]
        simp
  · refine exits_pure fun w hw => ?_
    obtain ⟨fills, receivedAt, ledger', hrun, hledger, htrace⟩ := hw
    have hcall : (OrderCall.recordCancelResult attempt response
        (fills.filter (·.brokerOrderId = candidate.brokerOrderId)) receivedAt).run
          aggregate ledger =
          .ok (final, ledger') := hrun
    have hsettles : ∀ other, (OrderCall.recordCancelResult attempt response
        (fills.filter (·.brokerOrderId = candidate.brokerOrderId)) receivedAt).Settles other →
          other = attempt := fun _ hother => hother
    have hclosed := recordCancelResult_notOpen hrun h.begun.state
    have hseen : Called prior ledger (trace ++ [.cancelOrder candidate.brokerOrderId ledger] ++
        [.response response] ++ [.fills fills]) candidate aggregate attempt := hanswered.quiet rfl
    obtain ⟨hsweeping, hframe', hkept⟩ := hseen.settle hsettles hcall hclosed
    unfold Sees
    rw [hledger, htrace]
    refine ⟨hsweeping, hframe.trans hframe', hkept, ?_, final.state, rfl⟩
    rw [cancelIds_append, cancelIds_append, hcalls]
    simp [cancelIds]

/-- The cancel of an order that was found active. -/
lemma exits_cancelCandidate {call : ℕ} (h : Found prior ledger trace candidate aggregate) :
    Exits (At ledger trace)
      ((gateway.capability mode).cancelCandidate call candidate aggregate result)
      (fun result' => Sees (Cancelled prior ledger trace candidate result result'))
      fun e => Sees (Stopped prior e) := by
  unfold CancelOnlyCapability.cancelCandidate
  refine exits_bind (Q := fun _ => At ledger trace) ?_ fun startedAt => ?_
  · refine exits_error exits_clock ?_
    rintro e w ⟨rfl, hledger, htrace⟩
    exact ⟨by rw [hledger, htrace]; exact h.sweeping, fun _ he => by cases he⟩
  refine exits_bind (Q := fun begun w => ∃ ledger',
    Ledger.beginCancel aggregate startedAt ledger = .ok (begun, ledger') ∧ At ledger' trace w) ?_ ?_
  · refine exits_error exits_transaction ?_
    rintro e w ⟨failure, rfl, herror, -⟩
    obtain ⟨next, attempt, ledger', hok⟩ : ∃ next attempt ledger',
        Ledger.beginCancel aggregate startedAt ledger = .ok ((next, attempt), ledger') :=
      h.sweeping.recorded.beginCancel_succeeds h.load h.active (by rw [h.broker]; rfl)
    rw [hok] at herror
    cases herror
  rintro ⟨next, attempt⟩ w ⟨ledger', hrun, hw⟩
  revert w
  have hcalled := h.call hrun
  have hframe := h.frame hrun
  have hcalls : cancelIds (trace ++ [.cancelOrder candidate.brokerOrderId ledger']) =
      cancelIds trace ++ [candidate.brokerOrderId] := by
    simp [cancelIds]
  refine exits_bind (exits_error exits_call ?_) fun response => ?_
  · rintro e w ⟨rfl, ⟨hledger, htrace⟩ | ⟨hledger, htrace⟩⟩
    · exact ⟨by rw [hledger, htrace]; exact hcalled.sweeping, fun _ he => by cases he⟩
    · exact ⟨by rw [hledger, htrace]; exact (h.begin hrun).sweeping, fun _ he => by cases he⟩
  cases response with
  | none =>
    have hnone : trace ++ [.cancelOrder candidate.brokerOrderId ledger'] ++
        ((none : Option BrokerOrderFact).map SweepEntry.response).toList =
          trace ++ [.cancelOrder candidate.brokerOrderId ledger'] := List.append_nil _
    rw [hnone]
    exact exits_markUnknown hframe hcalled hcalls
  | some response => exact exits_settleResponse hframe hcalled hcalls

end Outcome

/-! ## One round -/

/-- What one round leaves: its order was not active, it was denied, or it was cancelled. -/
inductive Round (prior : List SweepEntry) (ledger : Ledger) (trace : List SweepEntry)
    (candidate : CancelCandidate) (result result' : CancelOnlyResult) (ledger' : Ledger)
    (trace' : List SweepEntry) : Prop
  | skipped : ¬ Examinable ledger candidate → result' = result → ledger' = ledger →
      trace' = trace → Round prior ledger trace candidate result result' ledger' trace'
  | denied : Examinable ledger candidate →
      result' = { result with
        deniedOrderIds := result.deniedOrderIds ++ [candidate.brokerOrderId] } →
      ledger' = ledger → Sweeping prior ledger trace' → cancelIds trace' = cancelIds trace →
      Round prior ledger trace candidate result result' ledger' trace'
  | cancelled : Examinable ledger candidate →
      Cancelled prior ledger trace candidate result result' ledger' trace' →
      Round prior ledger trace candidate result result' ledger' trace'

section Round

variable {prior trace trace' : List SweepEntry} {ledger ledger' : Ledger}
  {candidate : CancelCandidate} {gateway : SweepGateway ε} {mode : Mode}
  {result result' : CancelOnlyResult}

lemma Cancelled.transport {trace₁ : List SweepEntry} (hids : cancelIds trace₁ = cancelIds trace)
    (h : Cancelled prior ledger trace₁ candidate result result' ledger' trace') :
    Cancelled prior ledger trace candidate result result' ledger' trace' :=
  ⟨h.sweeping, h.frame, h.kept, by rw [← hids]; exact h.calls, h.filed⟩

lemma exits_sweepCandidate {call : ℕ} (h : Sweeping prior ledger trace)
    (hrow : ∃ row, SystemRow ledger candidate row) :
    Exits (At ledger trace) ((gateway.capability mode).sweepCandidate call result candidate)
      (fun result' => Sees (Round prior ledger trace candidate result result'))
      fun e => Sees (Stopped prior e) := by
  unfold CancelOnlyCapability.sweepCandidate
  refine exits_get_same fun w hw => ?_
  obtain ⟨hledger, htrace⟩ := hw
  rw [hledger]
  have hskip (hnot : ¬ Examinable ledger candidate) :
      Exits (fun w' => w' = w) (pure result : WriteM (Observed ε) CancelOnlyResult)
        (fun result' => Sees (Round prior ledger trace candidate result result'))
        fun e => Sees (Stopped prior e) := by
    refine exits_pure fun w' hw' => ?_
    rw [hw']
    exact .skipped hnot rfl hledger htrace
  cases hload : ledger.load candidate.executionId with
  | none =>
    refine hskip ?_
    rintro ⟨aggregate, haggregate, -⟩
    rw [hload] at haggregate
    cases haggregate
  | some aggregate =>
    dsimp only
    split_ifs with hinactive
    · refine hskip ?_
      rintro ⟨other, hother, hactive, hbroker⟩
      rw [hload] at hother
      cases hother
      exact hinactive.elim (· hactive) (· hbroker)
    obtain ⟨hactive, hbroker⟩ := not_or.mp hinactive
    rw [not_not] at hactive hbroker
    have hexaminable : Examinable ledger candidate := ⟨aggregate, hload, hactive, hbroker⟩
    refine exits_bind (Q := Looked ledger trace candidate) ?_ fun current => ?_
    · refine exits_imp exits_currentBrokerOrder (fun w' hw' => ?_) (fun _ _ hw => hw) ?_
      · rw [hw']
        exact ⟨hledger, htrace⟩
      · rintro e w' ⟨rfl, hledger', htrace'⟩
        exact ⟨by rw [hledger', htrace']; exact h, fun _ he => by cases he⟩
    cases current with
    | none =>
      refine exits_pure fun w' hw' => ?_
      obtain ⟨hledger', hids, hseen, -⟩ := hw'
      refine .denied hexaminable rfl hledger' ?_ hids
      rcases hseen with hsame | ⟨orders, horders⟩
      · rwa [hsame]
      · rw [horders]
        exact h.quiet rfl
    | some order =>
      intro w' hw'
      obtain ⟨hledger', hids, -, hreported⟩ := hw'
      obtain ⟨orders, horders, hfilter, hmatches⟩ := hreported order rfl
      have hfound : Found prior ledger (trace ++ [.orders orders ledger]) candidate aggregate :=
        ⟨h.quiet rfl, hrow, hload, hactive, hbroker, trace, orders, order, rfl, hfilter, hmatches⟩
      have hids' : cancelIds (trace ++ [.orders orders ledger]) = cancelIds trace := by
        rw [← horders]
        exact hids
      have hcancel : Exits (At ledger (trace ++ [.orders orders ledger]))
          ((gateway.capability mode).cancelCandidate call candidate aggregate result)
          (fun result' => Sees (Round prior ledger trace candidate result result'))
          (fun e => Sees (Stopped prior e)) :=
        exits_post (exits_cancelCandidate hfound)
          (fun _ _ hw => Round.cancelled hexaminable (hw.transport hids'))
      exact hcancel w' ⟨hledger', horders⟩

end Round

/-! ## A whole sweep -/

lemma systemRow_of_candidateOf {ledger : Ledger} {row : BrokerOrderRow}
    {candidate : CancelCandidate} (hrow : row ∈ ledger.brokerOrders)
    (h : CancelOnlyCapability.candidateOf ledger row = some candidate) :
    SystemRow ledger candidate row := by
  unfold CancelOnlyCapability.candidateOf at h
  split at h
  · rename_i hexecution hclient hprice
    split_ifs at h with hactive
    cases h
    exact ⟨hrow, rfl, hactive.1, hexecution, hclient, rfl, rfl, rfl, hprice, rfl⟩
  · cases h

lemma mem_candidates {ledger : Ledger} {candidate : CancelCandidate}
    (h : candidate ∈ CancelOnlyCapability.candidates ledger) :
    ∃ row, SystemRow ledger candidate row := by
  unfold CancelOnlyCapability.candidates at h
  obtain ⟨row, hrow, hsome⟩ := List.mem_filterMap.mp ((List.perm_insertionSort _ _).mem_iff.mp h)
  exact ⟨row, systemRow_of_candidateOf hrow hsome⟩

lemma nodup_candidates {ledger : Ledger} (h : Owned ledger) :
    ((CancelOnlyCapability.candidates ledger).map (·.brokerOrderId)).Nodup := by
  unfold CancelOnlyCapability.candidates
  rw [((List.perm_insertionSort _ _).map _).nodup_iff]
  refine List.pairwise_map.mpr (List.pairwise_filterMap.mpr ?_)
  refine (List.pairwise_map.mp h.brokerOrders).imp_of_mem fun {row row'} hrow hrow' hne => ?_
  intro candidate hcandidate candidate' hcandidate'
  rwa [← (systemRow_of_candidateOf hrow hcandidate).brokerOrderId,
    ← (systemRow_of_candidateOf hrow' hcandidate').brokerOrderId]

/-- The invariant of the loop, after the candidates that are done. -/
structure Progress (prior : List SweepEntry) (start : Ledger) (done : List CancelCandidate)
    (result : CancelOnlyResult) (ledger : Ledger) (trace : List SweepEntry) : Prop where
  sweeping : Sweeping prior ledger trace
  grows : Grows start ledger
  examinable : ∀ candidate ∈ CancelOnlyCapability.candidates start, candidate ∉ done →
    (Examinable ledger candidate ↔ Examinable start candidate)
  listed : (listed result).Perm ((done.filter (Examinable start)).map (·.brokerOrderId))
  calls : result.cancelCalls = (cancelIds trace).length
  counted : result.cancelCalls = result.cancelledOrderIds.length +
    result.terminalOrderIds.length + result.unknownOrderIds.length

section Progress

variable {prior trace trace' : List SweepEntry} {start ledger ledger' : Ledger}
  {candidate : CancelCandidate} {done : List CancelCandidate} {gateway : SweepGateway ε}
  {mode : Mode} {result result' : CancelOnlyResult}

lemma listed_denied (brokerOrderId : String) :
    (listed { result with deniedOrderIds := result.deniedOrderIds ++ [brokerOrderId] }).Perm
      (listed result ++ [brokerOrderId]) := by
  unfold listed
  rw [List.perm_iff_count]
  intro id
  simp only [List.count_append]
  omega

lemma listed_file (brokerOrderId : String) (state : OrderState) (calls : ℕ) :
    (listed (CancelOnlyResult.file { result with cancelCalls := calls } brokerOrderId state)).Perm
      (listed result ++ [brokerOrderId]) := by
  rw [List.perm_iff_count]
  intro id
  unfold listed CancelOnlyResult.file
  split <;> simp only [List.count_append] <;> omega

lemma counted_file (brokerOrderId : String) (state : OrderState)
    (h : result.cancelCalls = result.cancelledOrderIds.length + result.terminalOrderIds.length +
      result.unknownOrderIds.length) :
    let filed := CancelOnlyResult.file { result with cancelCalls := result.cancelCalls + 1 }
      brokerOrderId state
    filed.cancelCalls = result.cancelCalls + 1 ∧
      filed.cancelCalls = filed.cancelledOrderIds.length + filed.terminalOrderIds.length +
        filed.unknownOrderIds.length := by
  unfold CancelOnlyResult.file
  split
  all_goals
    refine ⟨rfl, ?_⟩
    simp only [List.length_append, List.length_singleton]
    omega

lemma Examinable.brokerOrderId {aggregate : OrderAggregate} (h : Examinable ledger candidate)
    (hload : ledger.load candidate.executionId = some aggregate) :
    aggregate.brokerOrderId = some candidate.brokerOrderId := by
  obtain ⟨other, hother, -, hbroker⟩ := h
  rw [hload] at hother
  cases hother
  exact hbroker

lemma Cancelled.examinable (h : Cancelled prior ledger trace candidate result result'
    ledger' trace')
    (hexaminable : Examinable ledger candidate) {other : CancelCandidate}
    (hother : other.brokerOrderId ≠ candidate.brokerOrderId) :
    Examinable ledger' other ↔ Examinable ledger other := by
  by_cases hexecution : other.executionId = candidate.executionId
  · obtain ⟨after, hafter, hkept⟩ := h.kept
    obtain ⟨before, hbefore, -, hbroker⟩ := hexaminable
    rw [← hexecution] at hafter hbefore
    constructor
    · intro hexamined
      rw [hexamined.brokerOrderId hafter, Option.some_inj] at hkept
      exact absurd hkept hother
    · intro hexamined
      rw [hexamined.brokerOrderId hbefore, Option.some_inj] at hbroker
      exact absurd hbroker hother
  · unfold Examinable
    rw [h.frame.others _ hexecution]

lemma examined_append (hexaminable : Examinable start candidate) :
    ((done ++ [candidate]).filter (Examinable start)).map (·.brokerOrderId) =
      (done.filter (Examinable start)).map (·.brokerOrderId) ++ [candidate.brokerOrderId] := by
  simp [List.filter_append, hexaminable]

lemma Progress.round (h : Progress prior start done result ledger trace)
    (hmem : candidate ∈ CancelOnlyCapability.candidates start) (hnew : candidate ∉ done)
    (hids : ∀ other ∈ CancelOnlyCapability.candidates start,
      other.brokerOrderId = candidate.brokerOrderId → other = candidate)
    (hround : Round prior ledger trace candidate result result' ledger' trace') :
    Progress prior start (done ++ [candidate]) result' ledger' trace' := by
  have hsame := h.examinable candidate hmem hnew
  have hremaining : ∀ other, other ∉ done ++ [candidate] → other ∉ done := by
    intro other hother hdone
    exact hother (List.mem_append_left _ hdone)
  cases hround with
  | skipped hnot hresult hledger htrace =>
    rw [hresult, hledger, htrace]
    refine ⟨h.sweeping, h.grows, fun other hother hdone => h.examinable other hother
      (hremaining other hdone), ?_, h.calls, h.counted⟩
    have hfilter : (done ++ [candidate]).filter (Examinable start) =
        done.filter (Examinable start) := by
      rw [hsame] at hnot
      simp [List.filter_append, hnot]
    rw [hfilter]
    exact h.listed
  | denied hexaminable hresult hledger hsweeping hcalls =>
    rw [hresult, hledger]
    refine ⟨hsweeping, h.grows, fun other hother hdone => h.examinable other hother
      (hremaining other hdone), ?_, by rw [hcalls]; exact h.calls, h.counted⟩
    rw [examined_append (hsame.mp hexaminable)]
    exact (listed_denied _).trans (h.listed.append_right _)
  | cancelled hexaminable hcancelled =>
    obtain ⟨state, hfiled⟩ := hcancelled.filed
    obtain ⟨hcalls, hcounted⟩ := counted_file candidate.brokerOrderId state h.counted
    rw [hfiled]
    refine ⟨hcancelled.sweeping, h.grows.trans hcancelled.frame.grows, fun other hother hdone => ?_,
      ?_, ?_, hcounted⟩
    · rw [← h.examinable other hother (hremaining other hdone)]
      refine hcancelled.examinable hexaminable fun hid => ?_
      rw [hids other hother hid] at hdone
      exact hdone List.mem_concat_self
    · rw [examined_append (hsame.mp hexaminable)]
      exact (listed_file _ _ _).trans (h.listed.append_right _)
    · rw [hcalls, hcancelled.calls, h.calls, List.length_append, List.length_singleton]

end Progress

/-- What a sweep leaves that returned: it went through all candidates, unless its mode forbids
writes. -/
def Finished (prior : List SweepEntry) (start : Ledger) (mode : Mode) (result : CancelOnlyResult)
    (ledger : Ledger) (trace : List SweepEntry) : Prop :=
  mode ∈ [Mode.canary, .live] ∧
      Progress prior start (CancelOnlyCapability.candidates start) result ledger trace ∨
    mode ∉ [Mode.canary, .live] ∧ result = .forbidden ∧ ledger = start ∧ trace = []

section Sweep

variable {prior trace : List SweepEntry} {start ledger : Ledger} {gateway : SweepGateway ε}
  {mode : Mode}

lemma Progress.initial (h : Sweeping prior start []) :
    Progress prior start [] CancelOnlyResult.empty start [] :=
  ⟨h, Grows.refl _, fun _ _ _ => Iff.rfl, List.Perm.refl _, rfl, rfl⟩

/-- A sweep that returns examined every candidate. -/
lemma exits_sweep (gateway : SweepGateway ε) (mode : Mode) (h : Sweeping prior start []) :
    Exits (At start []) (gateway.capability mode).cancelSystemOrders
      (fun result => Sees (Finished prior start mode result))
      fun e => Sees (Stopped prior e) := by
  unfold CancelOnlyCapability.cancelSystemOrders
  have hmode : (gateway.capability mode).mode = mode := rfl
  rw [hmode]
  by_cases hforbidden : mode ∉ [Mode.canary, .live]
  · rw [if_pos hforbidden]
    exact exits_pure fun w hw => .inr ⟨hforbidden, rfl, hw.1, hw.2⟩
  rw [if_neg hforbidden]
  rw [not_not] at hforbidden
  refine exits_bind (Q := fun _ => At start []) (fun _ hw => hw) fun call => ?_
  refine exits_bind (Q := fun _ => At start []) (exits_modify fun _ hw => hw) fun _ => ?_
  refine exits_get_same fun w hw => ?_
  rw [hw.1]
  have hids := nodup_candidates h.recorded.owned
  have hfold : Exits
      (Sees (Progress prior start [] CancelOnlyResult.empty))
      ((CancelOnlyCapability.candidates start).foldlM
        ((gateway.capability mode).sweepCandidate call) CancelOnlyResult.empty)
      (fun result => Sees
        (Progress prior start (CancelOnlyCapability.candidates start) result))
      (fun e => Sees (Stopped prior e)) := by
    refine exits_foldlM (I := fun done result => Sees (Progress prior start done result))
      (fun done candidate rest result hitems => ?_) _
    intro w' hw'
    have hmem : candidate ∈ CancelOnlyCapability.candidates start := by
      rw [hitems]
      exact List.mem_append_right _ List.mem_cons_self
    have hnew : candidate ∉ done := by
      intro hdone
      have hnodup := hids.of_map
      rw [hitems] at hnodup
      exact (List.nodup_append.mp hnodup).2.2 _ hdone _ List.mem_cons_self rfl
    have hprogress : Progress prior start done result w'.store.ledger
      w'.store.environment.trace := hw'
    obtain ⟨row, hrow⟩ := mem_candidates hmem
    exact exits_post (exits_sweepCandidate hprogress.sweeping (hrow.grows hprogress.grows))
      (fun _ _ hround => hprogress.round hmem hnew
        (fun other hother hid => List.inj_on_of_nodup_map hids hother hmem hid) hround)
          w' ⟨rfl, rfl⟩
  refine exits_imp hfold (fun w' hw' => ?_) (fun _ _ hw' => .inl ⟨hforbidden, hw'⟩) fun _ _ he => he
  rw [hw']
  unfold Sees
  rw [hw.1, hw.2]
  exact Progress.initial h

lemma CancelRule.mono {before earlier : List SweepEntry} {entry : SweepEntry}
    (h : CancelRule before entry) : CancelRule (earlier ++ before) entry := by
  cases entry with
  | cancelOrder brokerOrderId ledger =>
    obtain ⟨first, orders, looked, rfl, hrest⟩ := h
    exact ⟨earlier ++ first, orders, looked, by simp, hrest⟩
  | orders | response | fills => trivial

/-- A rule about cancels that both parts of a trace obey. -/
lemma obeys_join (hprior : Obeys CancelRule prior) (htrace : Obeys CancelRule trace) :
    Obeys CancelRule (prior ++ trace) := by
  induction trace using List.reverseRecOn with
  | nil => rwa [List.append_nil]
  | append_singleton trace entry ih =>
    have hbefore : Obeys CancelRule trace := by
      intro before x after hsplit
      exact htrace before x (after ++ [entry]) (by simp [hsplit])
    rw [← List.append_assoc]
    exact (ih hbefore).append (htrace trace entry [] rfl).mono

/-- The next sweep starts where the last one ended. -/
lemma Sweeping.next (h : Sweeping [] ledger prior) : Sweeping prior ledger [] :=
  ⟨h.recorded, obeys_nil, by rw [List.append_nil]; exact h.once,
    by rw [List.append_nil]; exact h.closed⟩

lemma Sweeping.join (h : Sweeping prior ledger trace) (hprior : Obeys CancelRule prior) :
    Sweeping [] ledger (prior ++ trace) :=
  ⟨h.recorded, obeys_join hprior h.obeys, h.once, h.closed⟩

section Once

variable (gateway : SweepGateway ε) (mode : Mode) (binding : Option AccountBinding) (outside : ε)

variable {w : WriteWorld (Observed ε)}

lemma sweep_ok (h : Sweeping [] ledger prior) {result : CancelOnlyResult}
    (hrun : gateway.sweep mode ledger binding outside =
      .ok result w) :
    Sees (Finished prior ledger mode result) w := by
  have hsweep := exits_sweep gateway mode h.next
    ⟨⟨⟨outside, []⟩, ledger, binding⟩, false, 0, []⟩ ⟨rfl, rfl⟩
  unfold SweepGateway.sweep at hrun
  rwa [hrun] at hsweep

lemma sweep_error (h : Sweeping [] ledger prior) {e : Raised}
    (hrun : gateway.sweep mode ledger binding outside = .error e w) : Sees (Stopped prior e) w := by
  have hsweep := exits_sweep gateway mode h.next
    ⟨⟨⟨outside, []⟩, ledger, binding⟩, false, 0, []⟩ ⟨rfl, rfl⟩
  unfold SweepGateway.sweep at hrun
  rwa [hrun] at hsweep

/-- What a sweep leaves, whether it returned, raised or was cut. -/
lemma sweeping_sweep (h : Sweeping [] ledger prior) :
    Sweeping [] (ledgerOf (gateway.sweep mode ledger binding outside))
      (prior ++ traceOf (gateway.sweep mode ledger binding outside)) := by
  cases hrun : gateway.sweep mode ledger binding outside with
  | ok result w =>
    rcases sweep_ok gateway mode binding outside h hrun with
      ⟨-, hprogress⟩ | ⟨-, -, hledger, htrace⟩
    · exact hprogress.sweeping.join h.obeys
    · unfold ledgerOf traceOf
      rw [finalState_ok, hledger, htrace, List.append_nil]
      exact h
  | error e w => exact (sweep_error gateway mode binding outside h hrun).1.join h.obeys

end Once

/-- The invariant of sweeps holds after any number of them. -/
theorem Swept.sweeping (hstart : Written start) (h : Swept start ledger trace) :
    Sweeping [] ledger trace := by
  induction h with
  | start => exact ⟨hstart.recorded, obeys_nil, List.nodup_nil, fun _ hmem => by cases hmem⟩
  | sweep gateway mode binding outside _ ih => exact sweeping_sweep gateway mode binding outside ih

end Sweep

/-- Any number of sweeps cancels every order once, and each cancel is written ahead for an active
SYSTEM order that the broker reports.  After them a sweep raises no exception if the answers to its
cancels are consistent; if it returns, each order that it examined stands once in its lists, and its
calls are those that are filed as cancelled, terminal or unknown. -/
theorem sweep_settles {start ledger : Ledger} {trace : List SweepEntry} (hstart : Written start)
    (hswept : Swept start ledger trace) (gateway : SweepGateway ε) (mode : Mode)
    (binding : Option AccountBinding) (outside : ε) :
    Obeys CancelRule trace ∧ (cancelIds trace).Nodup ∧
      (AnswersConsistent (traceOf (gateway.sweep mode ledger binding outside)) →
        ∀ failure w, gateway.sweep mode ledger binding outside ≠ .error (.exception failure) w) ∧
      ∀ result w, gateway.sweep mode ledger binding outside = .ok result w →
        (mode ∈ [Mode.canary, .live] →
          (listed result).Perm (examinedIds ledger) ∧ (listed result).Nodup ∧
          result.cancelCalls = result.cancelledOrderIds.length + result.terminalOrderIds.length +
            result.unknownOrderIds.length ∧
          result.cancelCalls =
            (cancelIds (traceOf (gateway.sweep mode ledger binding outside))).length) ∧
        (mode ∉ [Mode.canary, .live] → result = .forbidden ∧
          traceOf (gateway.sweep mode ledger binding outside) = []) := by
  have hsweeping := hswept.sweeping hstart
  refine ⟨hsweeping.obeys, hsweeping.once, fun hconsistent failure w hraised => ?_,
    fun result w hreturned => ?_⟩
  · have hstopped := sweep_error gateway mode binding outside hsweeping hraised
    refine hstopped.2 failure rfl ?_
    unfold traceOf at hconsistent
    rwa [hraised] at hconsistent
  · have htrace : traceOf (gateway.sweep mode ledger binding outside) =
        w.store.environment.trace := by
      rw [hreturned]
      rfl
    rw [htrace]
    rcases sweep_ok gateway mode binding outside hsweeping hreturned with
      ⟨hmode, hprogress⟩ | ⟨hmode, hforbidden, -, hquiet⟩
    · have hnodup : (examinedIds ledger).Nodup :=
        (nodup_candidates hsweeping.recorded.owned).sublist (List.filter_sublist.map _)
      exact ⟨fun _ => ⟨hprogress.listed, hprogress.listed.nodup_iff.mpr hnodup,
        hprogress.counted, hprogress.calls⟩, fun hnot => absurd hmode hnot⟩
    · exact ⟨fun hin => absurd hin hmode, fun _ => ⟨hforbidden, hquiet⟩⟩

/-! ## One resting order -/

namespace SweepSample

def payload : IntentPayload where
  decisionId := "decision"
  uquantOrderId := "order"
  symbol := ⟨.sh, "600001"⟩
  side := .buy
  requestedShares := 100
  strategySession := 0
  uquantSourceSha := "uquant"

def command : BrokerOrderCommand where
  executionId := ⟨payload⟩
  idempotencyKey := ⟨payload⟩
  clientOrderId := "order"
  symbol := ⟨.sh, "600001"⟩
  side := .buy
  priceType := .limit
  requestedShares := 100
  limitPrice := ⟨10, ten_pos⟩
  strategySession := 0
  requested_pos := hundred_pos

/-- The order as the broker reports it. -/
def order (status : BrokerOrderStatus) (eventSequence : ℕ) : BrokerOrderFact where
  brokerOrderId := "broker"
  clientOrderId := some "order"
  symbol := ⟨.sh, "600001"⟩
  side := .buy
  priceType := .limit
  status := status
  requestedShares := 100
  filledShares := 0
  limitPrice := ⟨10, ten_pos⟩
  sessionDate := 1
  eventTime := 1
  receivedAt := 1
  eventSequence := eventSequence
  rawPayloadSha256 := "raw"
  requested_pos := hundred_pos
  filled_le_requested := hundred_nonneg

def attempt : BrokerAttempt := ⟨⟨⟨payload⟩, 1, .submit⟩, ⟨payload⟩, 1, .submit⟩

/-- The order is submitted and acknowledged. -/
def calls : List RepositoryCall := [
  .appendIntent ⟨payload, by decide⟩ 0,
  .onOrder ⟨payload⟩ (.validateAndArm 0),
  .onOrder ⟨payload⟩ (.beginSubmit command 0),
  .onOrder ⟨payload⟩ (.recordSubmitResult attempt (order .acknowledged 1) [] 1)]

def ledger : Ledger := calls.foldl perform Ledger.empty

lemma written : Written ledger := by
  unfold ledger calls
  simp only [List.foldl_cons, List.foldl_nil]
  refine .call (.call (.call (.call .empty ?_) ?_) ?_) ?_
  · trivial
  · intro other hother
    exact hother.elim
  · intro other hother
    exact hother.elim
  · rintro _ rfl
    have hrow : ∃ row ∈ ((calls.take 3).foldl perform Ledger.empty).attempts,
        row.attemptId = attempt.attemptId ∧ row.executionId = ⟨payload⟩ := by decide +kernel
    exact hrow

def binding : AccountBinding where
  accountIdHash := "account"
  accountType := .cash
  brokerSnapshotSha256 := "snapshot"
  accountStateSha256 := "state"
  uquantCommit := "commit"
  uquantCodeFingerprint := "code"
  dataHash := "data"
  dataAsOf := "as-of"
  dataSymbols := []
  createdAt := 0

/-- A healthy gateway that reports the resting order and no fills, and answers a cancel with a given
order. -/
def gateway (answer : BrokerOrderFact) : SweepGateway Unit where
  ask
    | .health => pure ⟨true, true, true, 1, BrokerHealth.up, fun h => h⟩
    | .queryAccount => pure ⟨"account", .cash, Money.zero, Money.zero, le_refl _⟩
    | .queryOrders => pure [order .acknowledged 1]
    | .queryFills => pure []
    | .clock => pure 2
  cancelOrder _ := pure answer
  diesBefore _ _ := false
  clock_returns _ _ _ := by
    intro h
    cases h

def sweep (answer : BrokerOrderFact) :
    EStateM.Result Raised (WriteWorld (Observed Unit)) CancelOnlyResult :=
  (gateway answer).sweep .live ledger (some binding) ⟨⟩

/-- The ledger with the cancel written ahead. -/
def begun : Ledger :=
  match (OrderCall.beginCancel 2).run ((ledger.load ⟨payload⟩).get (by decide +kernel)) ledger with
  | .ok (_, ledger) => ledger
  | .error _ => Ledger.empty

/-- The answer that the order is cancelled, at the sequence number that comes next. -/
def answer : BrokerOrderFact := order .cancelled 2

lemma traceOf_sweep : traceOf (sweep answer) =
    [.orders [order .acknowledged 1] ledger, .cancelOrder "broker" begun, .response answer,
      .fills []] := by
  decide +kernel

lemma consistent : ConsistentAt begun "broker" answer [] := by
  intro executionId aggregate hbroker hload
  have howner : ∀ row ∈ begun.brokerOrders, row.executionId = some ⟨payload⟩ := by decide +kernel
  obtain ⟨row, hrow, -, hexecution⟩ := hbroker
  rw [howner row hrow, Option.some_inj] at hexecution
  subst hexecution
  have hchecks : ∀ found ∈ begun.load ⟨payload⟩, factViolation found answer = none ∧
      (∀ row ∈ begun.brokerOrders, orderRegression row answer found.intent.executionId = none) ∧
      Ledger.orderedFills found.intent.executionId answer [] = .ok [] ∧
      provenCumulativeShares found [] = 0 ∧ found.intent.requestedShares = 100 := by
    decide +kernel
  obtain ⟨hfact, horder, hordered, hproven, hrequested⟩ := hchecks aggregate hload
  refine ⟨hfact, fun row hrow _ => horder row hrow, [], hordered,
    ⟨by simp, by simp, by simp⟩, ?_, ?_⟩
  · rw [hproven]
    exact Nat.zero_le _
  · rw [hproven, hrequested]
    intro hzero
    cases hzero

lemma answersConsistent : AnswersConsistent (traceOf (sweep answer)) := by
  intro before brokerOrderId ledger fact fills after hsplit
  rw [traceOf_sweep] at hsplit
  match before with
  | [] => cases hsplit
  | [first] =>
    cases hsplit
    exact consistent
  | first :: second :: rest =>
    have hlength := congrArg List.length hsplit
    simp only [List.length_cons, List.length_append, List.length_nil] at hlength
    omega

theorem sweep_answer_settles :
    (∀ failure w, sweep answer ≠ .error (.exception failure) w) ∧
      ∀ result w, sweep answer = .ok result w →
        (listed result).Perm (examinedIds ledger) ∧ (listed result).Nodup := by
  obtain ⟨-, -, hquiet, hreturned⟩ :=
    sweep_settles written .start (gateway answer) .live (some binding) ⟨⟩
  refine ⟨hquiet answersConsistent, fun result w hrun => ?_⟩
  obtain ⟨hlisted, -⟩ := hreturned result w hrun
  exact ⟨(hlisted (by decide)).1, (hlisted (by decide)).2.1⟩

example : raisesWith (fun _ _ => true) (sweep answer) = false := by decide +kernel

/-- An answer with the sequence number of the acknowledgement raises out of the sweep. -/
theorem stale_answer_raises :
    ¬ ∀ (ledger : Ledger) (gateway : SweepGateway Unit) (mode : Mode)
      (binding : Option AccountBinding) (outside : Unit), Written ledger →
      ∀ failure w, gateway.sweep mode ledger binding outside ≠ .error (.exception failure) w := by
  intro h
  have hraises : raisesWith (fun e _ => e ≠ .interrupt) (sweep (order .cancelled 1)) = true := by
    decide +kernel
  obtain ⟨e, w, hrun, hexception⟩ := exists_error_of_raisesWith hraises
  cases e with
  | interrupt => simp at hexception
  | exception failure => exact h ledger _ .live (some binding) ⟨⟩ written failure w hrun

end SweepSample

end CancelSweep

end FirmQuant
