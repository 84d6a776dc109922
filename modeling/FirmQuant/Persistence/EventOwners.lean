import FirmQuant.Persistence.Agreement
import FirmQuant.Persistence.MonotoneTruth
import FirmQuant.Persistence.Settlement

/-!
# Who owns the events of the ledger

The id of a domain event names an attempt, a broker order or a fill.  In a ledger that was written
by the repository, for attempts that it holds itself, what the id names belongs to the execution of
the event, so one execution never meets the event id of another, and what an event of a fill says is
what the row of the fill says.
-/

namespace FirmQuant

open Effect

namespace Ledger

/-! ## Owners -/

/-- The ledger holds an attempt, for this execution. -/
def HasAttempt (ledger : Ledger) (attemptId : AttemptId) (executionId : ExecutionId) : Prop :=
  ∃ row ∈ ledger.attempts, row.attemptId = attemptId ∧ row.executionId = executionId

/-- The ledger holds a broker order, for this execution. -/
def HasBrokerOrder (ledger : Ledger) (brokerOrderId : String) (executionId : ExecutionId) : Prop :=
  ∃ row ∈ ledger.brokerOrders, row.brokerOrderId = brokerOrderId ∧
    row.executionId = some executionId

/-- The ledger holds a fill, for this execution, and the event reports it as the row has it. -/
def HasFill (ledger : Ledger) (brokerFillId : String) (executionId : ExecutionId)
    (kind : OrderEventKind) : Prop :=
  ∃ row ∈ ledger.fills, row.brokerFillId = brokerFillId ∧ row.executionId = some executionId ∧
    ∃ shares_pos, kind = .fillReported brokerFillId row.brokerOrderId row.shares
      row.price shares_pos

/-- What the id of an event names belongs to the execution, and the event says what events of such
ids say. -/
def Owns (ledger : Ledger) (executionId : ExecutionId) (event : OrderEvent) : Prop :=
  match event.eventId with
  | .validate id | .arm id | .submitStarted id _ | .cancelRequested id _ => id = executionId
  | .unknown attemptId _ | .submitNotAccepted attemptId _ | .cancelNotAccepted attemptId _ =>
    ledger.HasAttempt attemptId executionId
  | .ack brokerOrderId _ => ledger.HasBrokerOrder brokerOrderId executionId ∧
    event.kind = .brokerAcknowledged brokerOrderId
  | .recoveryRejected brokerOrderId _ => ledger.HasBrokerOrder brokerOrderId executionId ∧
    event.kind = .brokerRejected "BROKER_REJECTED"
  | .recoveryExpired brokerOrderId _ => ledger.HasBrokerOrder brokerOrderId executionId ∧
    event.kind = .orderExpired "BROKER_EXPIRED"
  | .recoveryCancelled brokerOrderId _ => ledger.HasBrokerOrder brokerOrderId executionId ∧
    event.kind = .cancelConfirmed (some brokerOrderId)
  | .recoveryUnknown brokerOrderId _ => ledger.HasBrokerOrder brokerOrderId executionId ∧
    event.kind = .submitOutcomeUnknown "BROKER_STATUS_UNKNOWN"
  | .fill brokerFillId => ledger.HasFill brokerFillId executionId event.kind
  | .text _ => False

/-- The tables beside the orders agree on their owners. -/
structure Owned (ledger : Ledger) : Prop where
  brokerOrders : (ledger.brokerOrders.map (·.brokerOrderId)).Nodup
  fills : (ledger.fills.map (·.brokerFillId)).Nodup
  attempts : ∀ row ∈ ledger.attempts, row.attemptId.executionId = row.executionId ∧
    row.attemptId.attemptNumber = row.attemptNumber
  commands : ∀ row ∈ ledger.commands, ∃ attempt ∈ ledger.attempts,
    attempt.attemptId = row.attemptId
  responses : ∀ row ∈ ledger.responses, ∃ attempt ∈ ledger.attempts,
    attempt.attemptId = row.attemptId
  events : ∀ row ∈ ledger.domainEvents, ledger.Owns row.aggregateId row.event

/-- The later ledger holds what the earlier one holds. -/
structure Grows (ledger ledger' : Ledger) : Prop where
  attempts : ∀ {id e}, ledger.HasAttempt id e → ledger'.HasAttempt id e
  brokerOrders : ∀ row ∈ ledger.brokerOrders, ∃ row' ∈ ledger'.brokerOrders, SameIdentity row row'
  fills : ledger.fills ⊆ ledger'.fills

section Owners

variable {ledger ledger' ledger'' : Ledger} {executionId : ExecutionId} {event : OrderEvent}

lemma same_rows (rows : List BrokerOrderRow) :
    ∀ row ∈ rows, ∃ row' ∈ rows, SameIdentity row row' :=
  fun row hrow => ⟨row, hrow, (Later.refl row).identity⟩

lemma Grows.refl (ledger : Ledger) : Grows ledger ledger :=
  ⟨id, same_rows _, List.Subset.refl _⟩

lemma Grows.trans (h : Grows ledger ledger') (h' : Grows ledger' ledger'') :
    Grows ledger ledger'' := by
  refine ⟨fun ha => h'.attempts (h.attempts ha), fun row hrow => ?_,
    List.Subset.trans h.fills h'.fills⟩
  obtain ⟨row', hrow', hsame⟩ := h.brokerOrders row hrow
  obtain ⟨row'', hrow'', hsame'⟩ := h'.brokerOrders row' hrow'
  exact ⟨row'', hrow'', hsame.trans hsame'⟩

lemma Grows.hasBrokerOrder (h : Grows ledger ledger') {brokerOrderId : String}
    (hb : ledger.HasBrokerOrder brokerOrderId executionId) :
    ledger'.HasBrokerOrder brokerOrderId executionId := by
  obtain ⟨row, hrow, hid, howner⟩ := hb
  obtain ⟨row', hrow', hsame⟩ := h.brokerOrders row hrow
  exact ⟨row', hrow', hsame.brokerOrderId.trans hid, hsame.executionId.trans howner⟩

lemma Owns.grows (h : ledger.Owns executionId event) (hgrows : Grows ledger ledger') :
    ledger'.Owns executionId event := by
  have hfill : ∀ {f}, ledger.HasFill f executionId event.kind →
      ledger'.HasFill f executionId event.kind := by
    rintro f ⟨row, hrow, hrest⟩
    exact ⟨row, hgrows.fills hrow, hrest⟩
  obtain ⟨id, kind⟩ := event
  cases id with
  | validate | arm | submitStarted | cancelRequested | text => exact h
  | unknown | submitNotAccepted | cancelNotAccepted => exact hgrows.attempts h
  | ack | recoveryRejected | recoveryExpired | recoveryCancelled | recoveryUnknown =>
    exact ⟨hgrows.hasBrokerOrder h.1, h.2⟩
  | fill => exact hfill h

lemma owned_empty : Owned Ledger.empty := by
  constructor <;> simp [Ledger.empty]

lemma Owned.attempt_owner (h : Owned ledger) {attemptId : AttemptId}
    (hattempt : ledger.HasAttempt attemptId executionId) : attemptId.executionId = executionId := by
  obtain ⟨row, hrow, rfl, rfl⟩ := hattempt
  exact (h.attempts row hrow).1

lemma Owned.brokerOrder_owner (h : Owned ledger) {brokerOrderId : String} {e e' : ExecutionId}
    (he : ledger.HasBrokerOrder brokerOrderId e) (he' : ledger.HasBrokerOrder brokerOrderId e') :
    e = e' := by
  obtain ⟨row, hrow, hid, hexecution⟩ := he
  obtain ⟨row', hrow', hid', hexecution'⟩ := he'
  obtain rfl := List.inj_on_of_nodup_map h.brokerOrders hrow hrow' (hid.trans hid'.symm)
  exact Option.some_inj.mp (hexecution.symm.trans hexecution')

lemma Owned.fill_eq (h : Owned ledger) {row row' : FillRow} (hrow : row ∈ ledger.fills)
    (hrow' : row' ∈ ledger.fills) (hid : row.brokerFillId = row'.brokerFillId) : row = row' :=
  List.inj_on_of_nodup_map h.fills hrow hrow' hid

/-- One event id belongs to one execution. -/
theorem Owned.owner_unique (h : Owned ledger) {e e' : ExecutionId} {event event' : OrderEvent}
    (he : ledger.Owns e event) (he' : ledger.Owns e' event')
    (hid : event.eventId = event'.eventId) : e = e' := by
  obtain ⟨id, kind⟩ := event
  obtain ⟨id', kind'⟩ := event'
  obtain rfl : id = id' := hid
  cases id with
  | validate | arm | submitStarted | cancelRequested => exact he.symm.trans he'
  | unknown | submitNotAccepted | cancelNotAccepted =>
    exact (h.attempt_owner he).symm.trans (h.attempt_owner he')
  | ack | recoveryRejected | recoveryExpired | recoveryCancelled | recoveryUnknown =>
    exact h.brokerOrder_owner he.1 he'.1
  | fill brokerFillId =>
    obtain ⟨row, hrow, hfill, howner, -⟩ := he
    obtain ⟨row', hrow', hfill', howner', -⟩ := he'
    obtain rfl := h.fill_eq hrow hrow' (hfill.trans hfill'.symm)
    exact Option.some_inj.mp (howner.symm.trans howner')
  | text => exact he.elim

end Owners

/-! ## What the steps of a call keep -/

/-- Grown from a ledger, with owners that agree. -/
structure Since (start ledger : Ledger) : Prop where
  owned : Owned ledger
  grows : Grows start ledger

section Steps

variable {start ledger ledger' : Ledger} {executionId : ExecutionId}
  {aggregate next : OrderAggregate}
  {event : OrderEvent} {time : DateTime} {attempt : BrokerAttempt} {fact : BrokerOrderFact}
  {fill : BrokerFillFact} {fills : List BrokerFillFact}

/-- A ledger with the same owners and the same or more events. -/
lemma Owned.of_tables (h : Owned ledger) (hbroker : ledger'.brokerOrders = ledger.brokerOrders)
    (hfills : ledger'.fills = ledger.fills) (hattempts : ledger'.attempts = ledger.attempts)
    (hcommands : ledger'.commands = ledger.commands)
    (hresponses : ledger'.responses = ledger.responses)
    (hevents : ∀ row ∈ ledger'.domainEvents, row ∈ ledger.domainEvents ∨
      ledger.Owns row.aggregateId row.event) : Owned ledger' ∧ Grows ledger ledger' := by
  have hgrows : Grows ledger ledger' := by
    refine ⟨fun ha => ?_, ?_, ?_⟩
    · unfold HasAttempt
      rw [hattempts]
      exact ha
    · rw [hbroker]
      exact same_rows _
    · rw [hfills]
      exact List.Subset.refl _
  refine ⟨⟨?_, ?_, ?_, ?_, ?_, fun row hrow => ?_⟩, hgrows⟩
  · rw [hbroker]
    exact h.brokerOrders
  · rw [hfills]
    exact h.fills
  · rw [hattempts]
    exact h.attempts
  · rw [hcommands, hattempts]
    exact h.commands
  · rw [hresponses, hattempts]
    exact h.responses
  · rcases hevents row hrow with hold | hnew
    · exact (h.events row hold).grows hgrows
    · exact hnew.grows hgrows

lemma owned_transition (h : Owned ledger)
    (howns : ledger.Owns aggregate.intent.executionId event)
    (htransition : transition aggregate event time ledger = .ok (next, ledger')) :
    Owned ledger' ∧ Grows ledger ledger' := by
  rcases transition_eq_ok htransition with ⟨-, rfl, -⟩ | ⟨-, -, -, -, rfl⟩
  · exact ⟨h, Grows.refl _⟩
  · refine h.of_tables rfl rfl rfl rfl rfl fun row hrow => ?_
    rcases List.mem_snoc.mp hrow with hold | hnew
    · exact .inl hold
    · rw [hnew]
      exact .inr howns

lemma yields_transition (haggregate : aggregate.intent.executionId = executionId)
    (howns : start.Owns executionId event) :
    Txn.Yields (Since start) (transition aggregate event time)
      (fun next => next.intent.executionId = executionId) := by
  intro ledger next ledger' hsince h
  obtain ⟨howned, hgrows⟩ := owned_transition hsince.owned
    (by rw [haggregate]; exact howns.grows hsince.grows) h
  exact ⟨⟨howned, hsince.grows.trans hgrows⟩,
    (congrArg ExecutionIntent.executionId (transition_intent h)).trans haggregate⟩

lemma yields_updateAttempt {attemptId : AttemptId} {change : AttemptRow → AttemptRow}
    (hchange : ∀ row, (change row).attemptId = row.attemptId ∧
      (change row).executionId = row.executionId ∧
      (change row).attemptNumber = row.attemptNumber) :
    Txn.Yields (Since start) (updateAttempt attemptId change) (fun _ => True) := by
  intro ledger u ledger' hsince h
  cases h
  set update : AttemptRow → AttemptRow := fun row =>
    if row.attemptId = attemptId then change row else row with hupdate
  have hsame : ∀ row, (update row).attemptId = row.attemptId ∧
      (update row).executionId = row.executionId ∧
      (update row).attemptNumber = row.attemptNumber := by
    intro row
    rw [hupdate]
    dsimp only
    split
    · exact hchange row
    · exact ⟨rfl, rfl, rfl⟩
  have hkept : ∀ {id : AttemptId}, (∃ row ∈ ledger.attempts, row.attemptId = id) →
      ∃ row ∈ ledger.attempts.map update, row.attemptId = id := by
    rintro id ⟨row, hrow, rfl⟩
    exact ⟨update row, List.mem_map_of_mem hrow, (hsame row).1⟩
  have hgrows : Grows ledger { ledger with attempts := ledger.attempts.map update } := by
    refine ⟨?_, same_rows _, List.Subset.refl _⟩
    rintro id e ⟨row, hrow, rfl, rfl⟩
    exact ⟨update row, List.mem_map_of_mem hrow, (hsame row).1, (hsame row).2.1⟩
  refine ⟨⟨⟨hsince.owned.brokerOrders, hsince.owned.fills, ?_,
    fun row hrow => hkept (hsince.owned.commands row hrow),
    fun row hrow => hkept (hsince.owned.responses row hrow),
    fun row hrow => (hsince.owned.events row hrow).grows hgrows⟩,
      hsince.grows.trans hgrows⟩, trivial⟩
  intro row' hrow'
  obtain ⟨row, hrow, rfl⟩ := List.mem_map.mp hrow'
  obtain ⟨hid, hexecution, hnumber⟩ := hsame row
  rw [hid, hexecution, hnumber]
  exact hsince.owned.attempts row hrow

lemma yields_markAttemptUnknown {code : String}
    (haggregate : aggregate.intent.executionId = executionId)
    (hattempt : start.HasAttempt attempt.attemptId executionId) :
    Txn.Yields (Since start) (markAttemptUnknown aggregate attempt code time)
      (fun next => next.intent.executionId = executionId) := by
  unfold markAttemptUnknown
  refine Txn.yields_bind (yields_transition haggregate hattempt) fun next hnext => ?_
  exact Txn.yields_bind (yields_updateAttempt fun _ => ⟨rfl, rfl, rfl⟩) fun _ _ =>
    Txn.yields_pure hnext

lemma yields_conflict {message : Option String} :
    Txn.Yields (Since start) (conflict message) (fun _ => True) := by
  intro ledger u ledger' hsince h
  rw [(conflict_eq_ok h).2]
  exact ⟨hsince, trivial⟩

variable {u : PUnit} {kind : CommandKind}

lemma owned_recordBrokerOrder (h : Owned ledger)
    (hrecord : recordBrokerOrder fact executionId ledger = .ok (u, ledger')) :
    Owned ledger' ∧ Grows ledger ledger' ∧
      ledger'.HasBrokerOrder fact.brokerOrderId executionId := by
  cases recordBrokerOrder_ok hrecord with
  | new hfind =>
    have hgrows : Grows ledger { ledger with
        brokerOrders := ledger.brokerOrders ++ [brokerOrderRow fact executionId] } := by
      refine ⟨id, fun row hrow => ?_, List.Subset.refl _⟩
      exact ⟨row, List.mem_append_left _ hrow, (Later.refl row).identity⟩
    refine ⟨⟨?_, h.fills, h.attempts, h.commands, h.responses,
      fun row hrow => (h.events row hrow).grows hgrows⟩, hgrows, brokerOrderRow fact executionId,
      List.mem_concat_self, rfl, rfl⟩
    exact List.nodup_map_snoc.mpr ⟨h.brokerOrders, fun row hrow hid =>
      List.find?_eq_none.mp hfind row hrow (decide_eq_true hid)⟩
  | again row hfind hid hidentity =>
    set observe : BrokerOrderRow → BrokerOrderRow := fun stored =>
      if stored.brokerOrderId = fact.brokerOrderId then BrokerOrderRow.observe stored fact
      else stored with hobserve
    have hsame : ∀ row, SameIdentity row (observe row) := by
      intro row
      rw [hobserve]
      dsimp only
      split
      · exact ⟨rfl, rfl, rfl, rfl, rfl, rfl, rfl, rfl, rfl⟩
      · exact (Later.refl row).identity
    have hgrows : Grows ledger { ledger with
        brokerOrders := ledger.brokerOrders.map observe } := by
      refine ⟨id, fun row hrow => ?_, List.Subset.refl _⟩
      exact ⟨observe row, List.mem_map_of_mem hrow, hsame row⟩
    refine ⟨⟨?_, h.fills, h.attempts, h.commands, h.responses,
      fun row hrow => (h.events row hrow).grows hgrows⟩, hgrows,
      hgrows.hasBrokerOrder ⟨row, List.mem_of_find?_eq_some hfind, hid, hidentity.1⟩⟩
    have hids : (ledger.brokerOrders.map observe).map (·.brokerOrderId) =
        ledger.brokerOrders.map (·.brokerOrderId) := by
      rw [List.map_map]
      exact List.map_congr_left fun row _ => (hsame row).brokerOrderId
    rw [hids]
    exact h.brokerOrders

lemma yields_completeAttempt (hattempt : start.HasAttempt attempt.attemptId executionId) :
    Txn.Yields (Since start) (completeAttemptIdempotently attempt fact kind time)
      (fun _ => True) := by
  intro ledger u ledger' hsince h
  unfold completeAttemptIdempotently at h
  split at h
  · obtain ⟨_, ledger₁, hmodify, hupdate⟩ := Txn.bind_eq_ok.mp h
    cases hmodify
    obtain ⟨row, hrow, hid, -⟩ := hsince.grows.attempts hattempt
    have hrecorded : Since start { ledger with
        responses := ledger.responses ++ [⟨attempt.attemptId, kind, fact.responsePayload,
          time⟩] } := by
      refine ⟨⟨hsince.owned.brokerOrders, hsince.owned.fills, hsince.owned.attempts,
        hsince.owned.commands, fun response hresponse => ?_, hsince.owned.events⟩,
        hsince.grows.attempts, hsince.grows.brokerOrders, hsince.grows.fills⟩
      rcases List.mem_snoc.mp hresponse with hold | hnew
      · exact hsince.owned.responses response hold
      · rw [hnew]
        exact ⟨row, hrow, hid⟩
    have hcomplete : Txn.Yields (Since start) (updateAttempt attempt.attemptId fun row =>
        { row with
          state := .returned
          completedAt := some time
          brokerOrderId := some fact.brokerOrderId }) (fun _ => True) :=
      yields_updateAttempt fun _ => ⟨rfl, rfl, rfl⟩
    exact hcomplete _ u ledger' hrecorded hupdate
  · split_ifs at h
    cases h
    exact ⟨hsince, trivial⟩

lemma nextAttemptNumber_fresh (h : Owned ledger) :
    ∀ row ∈ ledger.attempts,
      row.attemptId ≠ ⟨executionId, ledger.nextAttemptNumber executionId, kind⟩ := by
  intro row hrow heq
  obtain ⟨hexecution, hnumber⟩ := h.attempts row hrow
  rw [heq] at hexecution hnumber
  have hmem : row.attemptNumber ∈
      (ledger.attempts.filter (·.executionId = executionId)).map (·.attemptNumber) :=
    List.mem_map.mpr ⟨row, List.mem_filter.mpr ⟨hrow, by simpa using hexecution.symm⟩, rfl⟩
  have hle : ∀ (l : List ℕ), ∀ n ∈ l, n ≤ l.foldr max 0 := by
    intro l
    induction l with
    | nil => simp
    | cons m rest ih =>
      intro n hn
      rcases List.mem_cons.mp hn with rfl | hn
      · exact le_max_left _ _
      · exact (ih n hn).trans (le_max_right _ _)
  have hbound := hle _ _ hmem
  have hnext : ledger.nextAttemptNumber executionId = row.attemptNumber := hnumber
  unfold nextAttemptNumber at hnext
  omega

/-- What a new attempt adds. -/
structure Inserted (ledger ledger' : Ledger) (executionId : ExecutionId) (kind : CommandKind)
    (payload : CommandPayload) (attempt : BrokerAttempt) : Prop where
  owner : attempt.executionId = executionId
  commandKind : attempt.commandKind = kind
  attemptKind : attempt.attemptId.commandKind = kind
  held : ledger'.HasAttempt attempt.attemptId executionId
  fresh : ∀ row ∈ ledger.attempts, row.attemptId ≠ attempt.attemptId
  command : ∃ row, ledger'.commands = ledger.commands ++ [row] ∧
    row.attemptId = attempt.attemptId ∧ row.commandKind = kind ∧ row.payload = payload
  responses : ledger'.responses = ledger.responses
  brokerOrders : ledger'.brokerOrders = ledger.brokerOrders
  fillEvidence : ledger'.fillEvidence = ledger.fillEvidence
  aside : Aside ledger ledger'

lemma insertAttempt_inserted {payload : CommandPayload} (h : Owned ledger)
    (hinsert : insertAttempt aggregate kind payload time ledger = .ok (attempt, ledger')) :
    Owned ledger' ∧ Grows ledger ledger' ∧
      Inserted ledger ledger' aggregate.intent.executionId kind payload attempt := by
  unfold insertAttempt at hinsert
  set number := ledger.nextAttemptNumber aggregate.intent.executionId with hnumber
  set attemptId : AttemptId := ⟨aggregate.intent.executionId, number, kind⟩ with hattemptId
  set row : AttemptRow := ⟨attemptId, aggregate.intent.executionId, number, .submitting, time, none,
    none⟩ with hrow
  set command : CommandRow := ⟨attemptId, kind, payload, time⟩ with hcommand
  have hkept : ∀ {id : AttemptId}, (∃ old ∈ ledger.attempts, old.attemptId = id) →
      ∃ old ∈ ledger.attempts ++ [row], old.attemptId = id := by
    rintro id ⟨old, hold, hid⟩
    exact ⟨old, List.mem_append_left _ hold, hid⟩
  have hmem : row ∈ ledger.attempts ++ [row] :=
    List.mem_concat_self
  have hgrows : Grows ledger { ledger with
      attempts := ledger.attempts ++ [row]
      commands := ledger.commands ++ [command] } := by
    refine ⟨?_, same_rows _, List.Subset.refl _⟩
    rintro id e ⟨old, hold, hrest⟩
    exact ⟨old, List.mem_append_left _ hold, hrest⟩
  cases hinsert
  refine ⟨⟨h.brokerOrders, h.fills, ?_, ?_, fun old hold => hkept (h.responses old hold),
    fun old hold => (h.events old hold).grows hgrows⟩, hgrows, rfl, rfl, rfl,
    ⟨row, hmem, rfl, rfl⟩, nextAttemptNumber_fresh h, ⟨command, rfl, rfl, rfl, rfl⟩, rfl, rfl, rfl,
    rfl, rfl, rfl⟩
  · intro old hold
    rcases List.mem_snoc.mp hold with hold | hnew
    · exact h.attempts old hold
    · rw [hnew]
      exact ⟨rfl, rfl⟩
  · intro old hold
    rcases List.mem_snoc.mp hold with hold | hnew
    · exact hkept (h.commands old hold)
    · rw [hnew]
      exact ⟨row, hmem, rfl⟩

/-- A recorded fill is held for its execution, as it was reported. -/
lemma owned_recordFill (h : Owned ledger)
    (hrecord : recordFill fill executionId ledger = .ok (u, ledger')) :
    Owned ledger' ∧ Grows ledger ledger' ∧
      ledger'.HasFill fill.brokerFillId executionId (fillEvent fill).kind := by
  obtain ⟨evidence, ⟨⟨row, hrow, hid, heconomics⟩, rfl⟩ | ⟨hnew, rfl⟩⟩ := recordFill_writes hrecord
  · obtain ⟨howned, hgrows⟩ : Owned { ledger with fillEvidence := evidence } ∧ Grows ledger _ :=
      h.of_tables rfl rfl rfl rfl rfl fun row hrow => .inl hrow
    obtain ⟨horder, howner, -, -, hshares, hprice, -⟩ := heconomics
    refine ⟨howned, hgrows, row, hrow, hid, howner, by rw [hshares]; exact fill.shares_pos, ?_⟩
    simp only [fillEvent, horder, hshares, hprice]
  · have hgrows : Grows ledger { ledger with
        fillEvidence := evidence
        fills := ledger.fills ++ [fillRow fill executionId] } :=
      ⟨id, same_rows _, List.subset_append_left _ _⟩
    refine ⟨⟨h.brokerOrders, List.nodup_map_snoc.mpr ⟨h.fills, fun row hrow hid => ?_⟩, h.attempts,
      h.commands, h.responses, fun row hrow => (h.events row hrow).grows hgrows⟩, hgrows,
      fillRow fill executionId, List.mem_concat_self, rfl, rfl,
      fill.shares_pos, rfl⟩
    exact hnew row hrow hid

lemma yields_applyFills :
    ∀ {aggregate : OrderAggregate}, aggregate.intent.executionId = executionId →
      Txn.Yields (Since start) (applyFills aggregate fills)
        (fun next => next.intent.executionId = executionId) := by
  induction fills with
  | nil => exact fun haggregate => Txn.yields_pure haggregate
  | cons fill rest ih =>
    intro aggregate haggregate ledger next ledger' hsince h
    obtain ⟨u, ledger₁, hrecord, h⟩ := Txn.bind_eq_ok.mp h
    obtain ⟨moved, ledger₂, htransition, h⟩ := Txn.bind_eq_ok.mp h
    obtain ⟨howned, hgrows, hfill⟩ := owned_recordFill hsince.owned hrecord
    have howns : ledger₁.Owns aggregate.intent.executionId (fillEvent fill) := hfill
    obtain ⟨howned', hgrows'⟩ := owned_transition howned howns htransition
    exact ih ((congrArg ExecutionIntent.executionId (transition_intent htransition)).trans
      haggregate) ledger₂ next ledger' ⟨howned', (hsince.grows.trans hgrows).trans hgrows'⟩ h

lemma yields_applyBrokerEconomics (haggregate : aggregate.intent.executionId = executionId)
    (horder : start.HasBrokerOrder fact.brokerOrderId executionId) :
    Txn.Yields (Since start) (applyBrokerEconomics aggregate fact fills time)
      (fun next => next.intent.executionId = executionId) := by
  unfold applyBrokerEconomics
  refine Txn.yields_bind (Q := fun next => next.intent.executionId = executionId) ?_
    fun next hnext => yields_applyFills hnext
  unfold acknowledge
  split_ifs
  · exact yields_transition haggregate ⟨horder, rfl⟩
  · exact Txn.yields_pure haggregate

lemma yields_applyTerminalFact (haggregate : aggregate.intent.executionId = executionId)
    (horder : start.HasBrokerOrder fact.brokerOrderId executionId) :
    Txn.Yields (Since start) (applyTerminalFact aggregate fact time)
      (fun next => next.intent.executionId = executionId) := by
  unfold applyTerminalFact
  split_ifs
  · exact Txn.yields_pure haggregate
  · split
    iterate 3 exact yields_transition haggregate ⟨horder, rfl⟩
    · exact Txn.yields_pure haggregate

/-- What follows the record of a broker order starts from a ledger that holds it. -/
lemma owned_afterBrokerOrder {α : Type} {x : LedgerTxn α} {a : α} {Q : α → Prop} (h : Owned ledger)
    (hx : ∀ start, Grows ledger start → start.HasBrokerOrder fact.brokerOrderId executionId →
      Txn.Yields (Since start) x Q)
    (hrun : (recordBrokerOrder fact executionId >>= fun _ => x) ledger = .ok (a, ledger')) :
    Owned ledger' ∧ Grows ledger ledger' := by
  obtain ⟨u, ledger₁, hrecord, hrest⟩ := Txn.bind_eq_ok.mp hrun
  obtain ⟨howned, hgrows, horder⟩ := owned_recordBrokerOrder h hrecord
  obtain ⟨⟨howned', hgrows'⟩, -⟩ :=
    hx ledger₁ hgrows horder ledger₁ a ledger' ⟨howned, Grows.refl _⟩ hrest
  exact ⟨howned', hgrows.trans hgrows'⟩

end Steps

/-! ## What the calls keep -/

section Calls

variable {ledger ledger' : Ledger} {executionId : ExecutionId} {aggregate next : OrderAggregate}
  {time : DateTime} {attempt : BrokerAttempt} {fact : BrokerOrderFact}
  {fills : List BrokerFillFact}

variable (h : Owned ledger)

include h

lemma owned_reconcileBrokerFact
    (hrun : reconcileBrokerFact aggregate fact fills time ledger = .ok (next, ledger')) :
    Owned ledger' ∧ Grows ledger ledger' := by
  obtain ⟨-, hrun₁⟩ := conflict_bind_eq_ok.mp hrun
  obtain ⟨ordered, -, hrun₂⟩ := Txn.lift_bind_eq_ok.mp hrun₁
  obtain ⟨-, hrun₃⟩ := conflict_bind_eq_ok.mp hrun₂
  refine owned_afterBrokerOrder (Q := fun next => next.intent.executionId =
    aggregate.intent.executionId) h (fun start _ horder => ?_) hrun₃
  refine Txn.yields_bind (yields_applyBrokerEconomics rfl horder) fun current hcurrent => ?_
  refine Txn.yields_bind (Q := fun next => next.intent.executionId =
    aggregate.intent.executionId) ?_ fun final hfinal =>
      Txn.yields_bind yields_conflict fun _ _ => Txn.yields_pure hfinal
  unfold applyQueriedStatus
  split_ifs
  · exact yields_transition hcurrent ⟨horder, rfl⟩
  · exact yields_applyTerminalFact hcurrent horder

lemma owned_recordReturnedResult {kind : CommandKind}
    (hattempt : ledger.HasAttempt attempt.attemptId aggregate.intent.executionId)
    (hrun : recordReturnedResult aggregate attempt fact fills kind time ledger =
      .ok (next, ledger')) : Owned ledger' ∧ Grows ledger ledger' := by
  obtain ⟨-, hrun₁⟩ := conflict_bind_eq_ok.mp hrun
  obtain ⟨held, ledger₂, hget, hrun₂⟩ := Txn.bind_eq_ok.mp hrun₁
  cases hget
  obtain ⟨-, hrun₃⟩ := conflict_bind_eq_ok.mp hrun₂
  obtain ⟨ordered, -, hrun₄⟩ := Txn.lift_bind_eq_ok.mp hrun₃
  obtain ⟨-, hrun₅⟩ := conflict_bind_eq_ok.mp hrun₄
  refine owned_afterBrokerOrder (Q := fun next => next.intent.executionId =
    aggregate.intent.executionId) h (fun start hgrows horder => ?_) hrun₅
  have hheld := hgrows.attempts hattempt
  refine Txn.yields_bind (yields_completeAttempt hheld) fun _ _ => ?_
  refine Txn.yields_bind (yields_applyBrokerEconomics rfl horder) fun current hcurrent => ?_
  unfold applyReturnedStatus
  split_ifs
  iterate 3 exact yields_markAttemptUnknown hcurrent hheld
  · exact Txn.yields_bind (yields_applyTerminalFact hcurrent horder) fun final hfinal =>
      Txn.yields_bind yields_conflict fun _ _ => Txn.yields_pure hfinal

/-- The attempts that a call settles are held by the ledger, for the execution of the call. -/
def OrderCall.OnRecord (ledger : Ledger) (executionId : ExecutionId) (call : OrderCall) : Prop :=
  ∀ attempt, call.Settles attempt → ledger.HasAttempt attempt.attemptId executionId

/-- A settled attempt: a transition by an owned event, and a change of the attempt's row. -/
lemma owned_settled {event : OrderEvent} {change : AttemptRow → AttemptRow}
    {attemptId : AttemptId} {ledger₁ : Ledger} {u : PUnit}
    (htransition : transition aggregate event time ledger = .ok (next, ledger₁))
    (hupdate : updateAttempt attemptId change ledger₁ = .ok (u, ledger'))
    (howns : ledger.Owns aggregate.intent.executionId event)
    (hchange : ∀ row, (change row).attemptId = row.attemptId ∧
      (change row).executionId = row.executionId ∧
      (change row).attemptNumber = row.attemptNumber) : Owned ledger' ∧ Grows ledger ledger' := by
  obtain ⟨howned, hgrows⟩ := owned_transition h howns htransition
  obtain ⟨⟨howned', hgrows'⟩, -⟩ := yields_updateAttempt hchange _ _ _ ⟨howned, hgrows⟩ hupdate
  exact ⟨howned', hgrows'⟩

/-- What a committed `begin_cancel` wrote. -/
lemma beginCancel_inserted
    (hrun : beginCancel aggregate time ledger = .ok ((next, attempt), ledger')) :
    ∃ brokerOrderId ledger₁, aggregate.brokerOrderId = some brokerOrderId ∧
      transition aggregate ⟨.cancelRequested aggregate.intent.executionId
        (aggregate.cancelRequests + 1), .cancelRequested⟩ time ledger = .ok (next, ledger₁) ∧
      Owned ledger₁ ∧ (Owned ledger' ∧ Grows ledger ledger') ∧
        Inserted ledger₁ ledger' aggregate.intent.executionId .cancel
        (.cancel brokerOrderId) attempt := by
  obtain ⟨brokerOrderId, hid, ledger₁, htransition, hinsert⟩ := beginCancel_writes hrun
  have howns : ledger.Owns aggregate.intent.executionId
    ⟨.cancelRequested aggregate.intent.executionId (aggregate.cancelRequests + 1),
      .cancelRequested⟩ := rfl
  obtain ⟨howned, hgrows⟩ := owned_transition h howns htransition
  obtain ⟨howned', hgrows', hinserted⟩ := insertAttempt_inserted howned hinsert
  rw [transition_intent htransition] at hinserted
  exact ⟨brokerOrderId, ledger₁, hid, htransition, howned, ⟨howned', hgrows.trans hgrows'⟩,
    hinserted⟩

lemma owned_beginSubmit {command : BrokerOrderCommand}
    (hrun : beginSubmit aggregate command time ledger = .ok ((next, attempt), ledger')) :
    Owned ledger' ∧ Grows ledger ledger' := by
  obtain ⟨-, -, ledger₁, htransition, hinsert⟩ := beginSubmit_writes hrun
  have howns : ledger.Owns aggregate.intent.executionId
    ⟨.submitStarted aggregate.intent.executionId (aggregate.submitAttempts + 1),
      .submitStarted⟩ := rfl
  obtain ⟨howned, hgrows⟩ := owned_transition h howns htransition
  obtain ⟨howned', hgrows', -⟩ := insertAttempt_inserted howned hinsert
  exact ⟨howned', hgrows.trans hgrows'⟩

lemma owned_validateAndArm (hrun : validateAndArm aggregate time ledger = .ok (next, ledger')) :
    Owned ledger' ∧ Grows ledger ledger' := by
  refine (validateAndArm_keeps (P := fun _ l => Owned l ∧ Grows ledger l) hrun ⟨h, Grows.refl _⟩
    fun {a _ l _ event} hevent hsince htransition => ?_)
  have howns : l.Owns a.intent.executionId event := by
    rcases hevent with rfl | rfl <;> rfl
  obtain ⟨howned, hgrows⟩ := owned_transition hsince.1 howns htransition
  exact ⟨howned, hsince.2.trans hgrows⟩

lemma OrderCall.owned {call : OrderCall}
    (hrecord : call.OnRecord ledger aggregate.intent.executionId)
    (hrun : call.run aggregate ledger = .ok (next, ledger')) :
    Owned ledger' ∧ Grows ledger ledger' := by
  have hfrom : Since ledger ledger := ⟨h, Grows.refl _⟩
  cases call with
  | validateAndArm occurredAt => exact owned_validateAndArm h hrun
  | beginSubmit command startedAt =>
    obtain ⟨⟨moved, attempt⟩, ledger₁, hbegin, hrun⟩ := Txn.bind_eq_ok.mp hrun
    cases hrun
    exact owned_beginSubmit h hbegin
  | beginCancel startedAt =>
    obtain ⟨⟨moved, attempt⟩, ledger₁, hbegin, hrun⟩ := Txn.bind_eq_ok.mp hrun
    cases hrun
    obtain ⟨-, -, -, -, -, howned, -⟩ := beginCancel_inserted h hbegin
    exact howned
  | markAttemptUnknown attempt code occurredAt =>
    obtain ⟨⟨howned, hgrows⟩, -⟩ :=
      yields_markAttemptUnknown rfl (hrecord attempt rfl) _ _ _ hfrom hrun
    exact ⟨howned, hgrows⟩
  | reconcileBrokerFact fact fills receivedAt => exact owned_reconcileBrokerFact h hrun
  | recordSubmitResult attempt fact fills receivedAt
  | recordCancelResult attempt fact fills receivedAt =>
    exact owned_recordReturnedResult h (hrecord attempt rfl) hrun
  | resolveSubmitNotAccepted attempt evidence occurredAt
  | resolveCancelNotAccepted attempt evidence occurredAt =>
    obtain ⟨current, ledger₁, htransition, hrest⟩ := Txn.bind_eq_ok.mp hrun
    obtain ⟨u, ledger₂, hupdate, hpure⟩ := Txn.bind_eq_ok.mp hrest
    cases hpure
    exact owned_settled h htransition hupdate (hrecord attempt rfl) fun _ => ⟨rfl, rfl, rfl⟩

omit h

/-- No call forges a write-ahead event. -/
lemma OrderCall.issued {call : OrderCall} (hissued : aggregate.Issued)
    (hrun : call.run aggregate ledger = .ok (next, ledger')) : next.Issued := by
  cases call with
  | validateAndArm occurredAt => exact validateAndArm_issued hissued hrun
  | beginSubmit command startedAt =>
    obtain ⟨⟨moved, attempt⟩, ledger₁, hbegin, hrun⟩ := Txn.bind_eq_ok.mp hrun
    cases hrun
    obtain ⟨-, -, -, ledger₂, htransition, -⟩ := beginSubmit_eq_ok hbegin
    rcases transition_eq_ok htransition with ⟨rfl, -⟩ | ⟨happly, -⟩
    · exact hissued
    · exact hissued.submitStarted happly
  | beginCancel startedAt =>
    obtain ⟨⟨moved, attempt⟩, ledger₁, hbegin, hrun⟩ := Txn.bind_eq_ok.mp hrun
    cases hrun
    obtain ⟨-, -, ledger₂, htransition, -⟩ := beginCancel_eq_ok hbegin
    rcases transition_eq_ok htransition with ⟨rfl, -⟩ | ⟨happly, -⟩
    · exact hissued
    · exact hissued.cancelRequested happly
  | markAttemptUnknown attempt code occurredAt =>
    obtain ⟨event, ledger₁, hunknown, htransition, -⟩ := markAttemptUnknown_eq_ok hrun
    refine transition_issued htransition hissued ?_ ?_
    · cases hunknown <;> simp
    · cases hunknown <;> simp
  | reconcileBrokerFact fact fills receivedAt =>
    exact (reconcileBrokerFact_evolves hrun).issued (fun e he id n => he.not_started id n) hissued
  | recordSubmitResult attempt fact fills receivedAt
  | recordCancelResult attempt fact fills receivedAt =>
      exact recordReturnedResult_issued hrun hissued
  | resolveSubmitNotAccepted attempt evidence occurredAt
  | resolveCancelNotAccepted attempt evidence occurredAt =>
    obtain ⟨current, ledger₁, htransition, hrun⟩ := Txn.bind_eq_ok.mp hrun
    obtain ⟨_, ledger₂, -, hrun⟩ := Txn.bind_eq_ok.mp hrun
    cases hrun
    exact transition_issued htransition hissued (by simp) (by simp)

end Calls

/-! ## Ledgers that calls have written -/

/-- The tables agree on what the orders are and on what belongs to them. -/
structure Recorded (ledger : Ledger) : Prop where
  agrees : Agrees ledger
  owned : Owned ledger
  issued : ∀ row ∈ ledger.executionIntents, row.aggregate.Issued

section Recorded

variable {ledger ledger' : Ledger} {executionId : ExecutionId} {aggregate next : OrderAggregate}

lemma recorded_empty : Recorded Ledger.empty :=
  ⟨agrees_empty, owned_empty, by simp [Ledger.empty]⟩

lemma Recorded.issued_of_load (h : Recorded ledger)
    (hload : ledger.load executionId = some aggregate) : aggregate.Issued := by
  obtain ⟨row, hrow, rfl⟩ := stored_of_load hload
  exact h.issued row hrow

/-- A row after a call is a row before it, or the row of the order that the call moved. -/
lemma rows_of_movesRow (hmoves : MovesRow (aggregate, ledger) (next, ledger'))
    (hagrees : Agrees ledger') (hstored : Stored ledger' next) {row : IntentRow}
    (hrow : row ∈ ledger'.executionIntents) :
    row.aggregate = next ∨ row ∈ ledger.executionIntents := by
  obtain ⟨own, hown, howns⟩ := hstored
  by_cases hid : row.executionId = aggregate.intent.executionId
  · left
    have hsame : own.executionId = aggregate.intent.executionId := by
      rw [(hagrees.rows own hown).executionId, howns]
      exact congrArg ExecutionIntent.executionId hmoves.intent
    rw [hagrees.row_eq hrow hown (hid.trans hsame.symm), howns]
  · right
    have hother : row ∈ ledger'.otherRows aggregate.intent.executionId :=
      List.mem_filter.mpr ⟨hrow, by simpa using hid⟩
    rw [hmoves.otherRows] at hother
    exact (List.mem_filter.mp hother).1

/-- A committed call on a loaded order. -/
theorem Recorded.onOrder {call : OrderCall} (h : Recorded ledger)
    (hload : ledger.load executionId = some aggregate) (hrecord : call.OnRecord ledger executionId)
    (hrun : call.run aggregate ledger = .ok (next, ledger')) :
    Recorded ledger' ∧ ledger'.load executionId = some next ∧
      (∀ other, other ≠ executionId → ledger'.load other = ledger.load other) ∧
      Grows ledger ledger' := by
  obtain ⟨hagrees, hnext, hothers⟩ := load_of_evolves (OrderCall.evolves hrun) h.agrees hload
  rw [← h.agrees.executionId_of_load hload] at hrecord
  obtain ⟨howned, hgrows⟩ := OrderCall.owned h.owned hrecord hrun
  refine ⟨⟨hagrees, howned, fun row hrow => ?_⟩, hnext, hothers, hgrows⟩
  rcases rows_of_movesRow (OrderCall.evolves hrun).movesRow hagrees (stored_of_load hnext) hrow with
    heq | hold
  · rw [heq]
    exact OrderCall.issued (h.issued_of_load hload) hrun
  · exact h.issued row hold

lemma Recorded.appendIntent {intent : ExecutionIntent} {time : DateTime} (h : Recorded ledger)
    (happend : Ledger.appendIntent intent time ledger = .ok (next, ledger')) :
      Recorded ledger' := by
  have hagrees := (agrees_appendIntent h.agrees happend).1
  unfold Ledger.appendIntent at happend
  split at happend
  · split_ifs at happend
    cases happend
    exact h
  · split_ifs at happend
    cases happend
    refine ⟨hagrees, ?_, fun row hrow => ?_⟩
    · have hadded : Owned { ledger with
            executionIntents := ledger.executionIntents ++ [intentRow intent time] } ∧ _ :=
        h.owned.of_tables rfl rfl rfl rfl rfl fun row hrow => .inl hrow
      exact hadded.1
    rcases List.mem_snoc.mp hrow with hold | hnew
    · exact h.issued row hold
    · rw [hnew]
      exact .fromIntent intent

/-- The attempts that a repository call settles are held by the ledger. -/
def RepositoryCall.OnRecord (ledger : Ledger) : RepositoryCall → Prop
  | .appendIntent _ _ => True
  | .onOrder executionId call => call.OnRecord ledger executionId

/-- The ledgers that sequences of repository calls write, each on attempts that the ledger holds. -/
inductive Written : Ledger → Prop
  | empty : Written Ledger.empty
  | call {ledger : Ledger} {call : RepositoryCall} : Written ledger → call.OnRecord ledger →
      Written (ledger.perform call)

/-- Every written ledger agrees. -/
theorem Written.recorded (h : Written ledger) : Recorded ledger := by
  induction h with
  | empty => exact recorded_empty
  | call _ hrecord ih =>
    refine perform_keeps ih ih.appendIntent fun horder hload hcall => ?_
    rw [horder] at hrecord
    exact (ih.onOrder hload hrecord hcall).1

end Recorded

end Ledger

end FirmQuant
