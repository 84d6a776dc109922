import FirmQuant.Domain.FillConfluence
import FirmQuant.Persistence.Evolution

/-!
# The base repository and its early exits

`ExecutionLedgerRepository` of `persistence/repositories.py`, of which the monotonic repository is
a subclass: `reconcile_broker_fact` and `record_submit_result` as the controller that is not live
and the paper recovery use them.

Both apply the fills of a fact after its acknowledgement.  But a fact with a status of bad news
leaves early: the event of the status is applied, and the fills that came with it are dropped.
-/

namespace FirmQuant

open Effect

namespace BaseLedger

open Ledger (transition fillEvent fillRow brokerOrderRow sameOrderIdentity conflict
  markAttemptUnknown updateAttempt)

/-! ## Rows -/

/-- `_record_broker_order`: only the identity and the sequence are compared. -/
def recordBrokerOrder (fact : BrokerOrderFact) (executionId : ExecutionId) : LedgerTxn PUnit :=
  fun ledger =>
    match ledger.brokerOrders.find? (·.brokerOrderId = fact.brokerOrderId) with
    | none =>
      if fact.clientOrderId.isSome ∧
          ledger.brokerOrders.any (·.clientOrderId = fact.clientOrderId) then
        .error (.integrityError "broker_orders.client_order_id")
      else
        .ok (⟨⟩, { ledger with
          brokerOrders := ledger.brokerOrders ++ [brokerOrderRow fact executionId] })
    | some row =>
      if ¬ sameOrderIdentity row fact executionId then
        .error (.persistenceConflict "broker order identity changed")
      else if row.lastEventSequence.any (fact.eventSequence < ·) then
        .error (.persistenceConflict "broker order event sequence regressed")
      else
        .ok (⟨⟩, { ledger with
          brokerOrders := ledger.brokerOrders.map fun stored =>
            if stored.brokerOrderId = fact.brokerOrderId then
              Ledger.BrokerOrderRow.observe stored fact
            else stored })

/-- `_complete_attempt`.  The id of a response hashes the attempt and the payload. -/
def completeAttempt (attempt : BrokerAttempt) (fact : BrokerOrderFact) (kind : CommandKind)
    (receivedAt : DateTime) : LedgerTxn PUnit := fun ledger =>
  if ledger.responses.any fun row =>
      row.attemptId = attempt.attemptId ∧ row.payload = fact.responsePayload then
    .error (.integrityError "broker_responses.response_id")
  else Ledger.completeAttempt attempt fact kind fact.responsePayload receivedAt ledger

/-- `_record_fill`: a stored fill must be the same in every column. -/
def recordFill (fill : BrokerFillFact) (executionId : ExecutionId) : LedgerTxn PUnit :=
  fun ledger =>
    match ledger.fills.find? (·.brokerFillId = fill.brokerFillId) with
    | some row =>
      if row ≠ fillRow fill executionId then
        .error (.persistenceConflict "broker fill identity collision")
      else .ok (⟨⟩, ledger)
    | none => .ok (⟨⟩, { ledger with fills := ledger.fills ++ [fillRow fill executionId] })

/-! ## Fills -/

/-- The sort key of the fills: execution sequence, fill id. -/
def fillLe (a b : BrokerFillFact) : Prop :=
  a.eventSequence < b.eventSequence ∨
    (a.eventSequence = b.eventSequence ∧ ¬ b.brokerFillId < a.brokerFillId)

instance : DecidableRel fillLe := fun a b => by
  delta fillLe
  infer_instance

/-- The loops over the sorted fills; `refusal` is what a loop checks of a fill by itself. -/
def applyFills (refusal : BrokerFillFact → Option String) :
    OrderAggregate → List BrokerFillFact → LedgerTxn OrderAggregate
  | current, [] => pure current
  | current, fill :: rest => do
    conflict (refusal fill)
    recordFill fill current.intent.executionId
    let next ← transition current (fillEvent fill) fill.eventTime
    applyFills refusal next rest

/-- Whether `reconcile_broker_fact` takes a fill for one of the order. -/
def fillMatches (fact : BrokerOrderFact) (fill : BrokerFillFact) : Prop :=
  fill.brokerOrderId = fact.brokerOrderId ∧ fill.symbol = fact.symbol ∧ fill.side = fact.side ∧
    fill.status = .confirmed

instance (fact : BrokerOrderFact) (fill : BrokerFillFact) : Decidable (fillMatches fact fill) := by
  delta fillMatches
  infer_instance

/-! ## Queried truth -/

/-- The checks of `reconcile_broker_fact`, as the first that fails. -/
def queryViolation (aggregate : OrderAggregate) (fact : BrokerOrderFact)
    (fills : List BrokerFillFact) : Option String :=
  if aggregate.brokerOrderId ∉ [none, some fact.brokerOrderId] then
    some "queried broker order identity changed"
  else if fact.clientOrderId ≠ some aggregate.intent.uquantOrderId ∨
      fact.symbol ≠ aggregate.intent.symbol ∨ fact.side ≠ aggregate.intent.side ∨
      fact.requestedShares ≠ aggregate.intent.requestedShares then
    some "queried broker order contradicts execution intent"
  else if ¬ ∀ fill ∈ fills, fillMatches fact fill then
    some "queried broker fill contradicts mapped order"
  else if (fills.map (·.shares)).sum ≠ fact.filledShares then
    some "queried broker fills do not prove cumulative shares"
  else none

/-- The event of a status for which `reconcile_broker_fact` leaves early. -/
def queryExit (fact : BrokerOrderFact) : Option OrderEvent :=
  match fact.status with
  | .rejected => some
      ⟨.recoveryRejected fact.brokerOrderId fact.eventSequence, .brokerRejected "BROKER_REJECTED"⟩
  | .expired => some
      ⟨.recoveryExpired fact.brokerOrderId fact.eventSequence, .orderExpired "BROKER_EXPIRED"⟩
  | .unknown => some
      ⟨.recoveryUnknown fact.brokerOrderId fact.eventSequence,
        .submitOutcomeUnknown "BROKER_STATUS_UNKNOWN"⟩
  | _ => none

/-- The acknowledgement of a fact. -/
def acknowledge (current : OrderAggregate) (fact : BrokerOrderFact) (receivedAt : DateTime) :
    LedgerTxn OrderAggregate :=
  transition current
    ⟨.ack fact.brokerOrderId fact.eventSequence, .brokerAcknowledged fact.brokerOrderId⟩ receivedAt

/-- `reconcile_broker_fact` does not acknowledge a cancelled order. -/
def acknowledgeUncancelled (current : OrderAggregate) (fact : BrokerOrderFact)
    (receivedAt : DateTime) : LedgerTxn OrderAggregate :=
  if fact.status ≠ .cancelled then acknowledge current fact receivedAt else pure current

/-- The cancellation at the end of `reconcile_broker_fact`. -/
def confirmCancel (current : OrderAggregate) (fact : BrokerOrderFact) (receivedAt : DateTime) :
    LedgerTxn OrderAggregate :=
  if fact.status = .cancelled then
    transition current
      ⟨.recoveryCancelled fact.brokerOrderId fact.eventSequence,
        .cancelConfirmed (some fact.brokerOrderId)⟩ receivedAt
  else pure current

/-- `reconcile_broker_fact`. -/
def reconcileBrokerFact (aggregate : OrderAggregate) (fact : BrokerOrderFact)
    (fills : List BrokerFillFact) (receivedAt : DateTime) : LedgerTxn OrderAggregate := do
  conflict (queryViolation aggregate fact fills)
  recordBrokerOrder fact aggregate.intent.executionId
  match queryExit fact with
  | some event => transition aggregate event receivedAt
  | none => do
    let current ← acknowledgeUncancelled aggregate fact receivedAt
    let filled ← applyFills (fun _ => none) current (fills.insertionSort fillLe)
    let final ← confirmCancel filled fact receivedAt
    conflict (if final.filledShares ≠ fact.filledShares then
      some "recovered aggregate differs from broker cumulative fill" else none)
    pure final

/-! ## Results of submissions -/

/-- The ids of the events that only the base repository writes, by their labels and attempts. -/
abbrev AttemptEventIds := String → AttemptId → String

/-- The statuses for which `record_submit_result` leaves early. -/
def submitExit (ids : AttemptEventIds) (aggregate : OrderAggregate) (attempt : BrokerAttempt)
    (fact : BrokerOrderFact) (receivedAt : DateTime) : Option (LedgerTxn OrderAggregate) :=
  match fact.status with
  | .rejected => some (transition aggregate
      ⟨.text (ids "rejected" attempt.attemptId), .brokerRejected "BROKER_REJECTED"⟩ receivedAt)
  | .unknown => some (markAttemptUnknown aggregate attempt "BROKER_STATUS_UNKNOWN" receivedAt)
  | .cancelled => some (transition aggregate
      ⟨.text (ids "cancelled" attempt.attemptId), .cancelConfirmed (some fact.brokerOrderId)⟩
      receivedAt)
  | .expired => some (transition aggregate
      ⟨.text (ids "expired" attempt.attemptId), .orderExpired "BROKER_EXPIRED"⟩ receivedAt)
  | _ => none

/-- The end of `record_submit_result`, when the fills do not add up to the fact. -/
def missingFill (ids : AttemptEventIds) (current : OrderAggregate) (attempt : BrokerAttempt)
    (receivedAt : DateTime) : LedgerTxn OrderAggregate := do
  updateAttempt attempt.attemptId fun row => { row with state := .unknown }
  transition current ⟨.text (ids "missing-fill" attempt.attemptId),
    .submitOutcomeUnknown "BROKER_FILL_MISSING"⟩ receivedAt

/-- `record_submit_result`. -/
def recordSubmitResult (ids : AttemptEventIds) (aggregate : OrderAggregate)
    (attempt : BrokerAttempt) (fact : BrokerOrderFact) (fills : List BrokerFillFact)
    (receivedAt : DateTime) : LedgerTxn OrderAggregate := do
  recordBrokerOrder fact aggregate.intent.executionId
  completeAttempt attempt fact .submit receivedAt
  match submitExit ids aggregate attempt fact receivedAt with
  | some exit => exit
  | none => do
    let current ← acknowledge aggregate fact receivedAt
    let filled ← applyFills (fun fill => if fill.brokerOrderId ≠ fact.brokerOrderId then
      some "submit result contains fill for another order" else none) current
      (fills.insertionSort fillLe)
    if filled.filledShares ≠ fact.filledShares then missingFill ids filled attempt receivedAt
    else pure filled

/-! ## What becomes of the fills -/

/-- The fill is retained by the aggregate and stored in the table. -/
structure Keeps (aggregate : OrderAggregate) (ledger : Ledger) (fill : BrokerFillFact) : Prop where
  retained : fill.appliedFill ∈ aggregate.fills
  stored : fillRow fill aggregate.intent.executionId ∈ ledger.fills

/-- The report of the fill was applied, but the fill is not retained. -/
structure Forgotten (aggregate : OrderAggregate) (fill : BrokerFillFact) : Prop where
  reported : fillEvent fill ∈ aggregate.appliedEvents
  missing : fill.appliedFill ∉ aggregate.fills

/-- The statuses for which `reconcile_broker_fact` leaves early. -/
def queryExits : List BrokerOrderStatus := [.rejected, .expired, .unknown]

/-- The statuses for which `record_submit_result` leaves early. -/
def submitExits : List BrokerOrderStatus := [.rejected, .unknown, .cancelled, .expired]

/-- Either the status does not leave early, and no fill was forgotten before; or all fills were kept
before. -/
def FillsSafe (exits : List BrokerOrderStatus) (aggregate : OrderAggregate) (ledger : Ledger)
    (fact : BrokerOrderFact) (fills : List BrokerFillFact) : Prop :=
  if fact.status ∈ exits then ∀ fill ∈ fills, Keeps aggregate ledger fill
  else ∀ fill ∈ fills, ¬ Forgotten aggregate fill

section Fills

variable {aggregate current next : OrderAggregate} {ledger ledger₁ ledger' : Ledger}
  {fact : BrokerOrderFact} {fill : BrokerFillFact} {fills : List BrokerFillFact}
  {receivedAt : DateTime} {attempt : BrokerAttempt} {ids : AttemptEventIds}

/-- Nothing was done to the fills. -/
structure SameFills (aggregate : OrderAggregate) (ledger : Ledger) (next : OrderAggregate)
    (ledger' : Ledger) : Prop where
  intent : next.intent = aggregate.intent
  fills : next.fills = aggregate.fills
  stored : ledger'.fills = ledger.fills
  reported : ∀ fill, fillEvent fill ∈ next.appliedEvents ↔ fillEvent fill ∈ aggregate.appliedEvents

lemma SameFills.refl : SameFills aggregate ledger aggregate ledger :=
  ⟨rfl, rfl, rfl, fun _ => Iff.rfl⟩

lemma SameFills.trans {last : OrderAggregate} (h : SameFills aggregate ledger current ledger₁)
    (h' : SameFills current ledger₁ last ledger') : SameFills aggregate ledger last ledger' :=
  ⟨h'.intent.trans h.intent, h'.fills.trans h.fills, h'.stored.trans h.stored,
    fun fill => (h'.reported fill).trans (h.reported fill)⟩

lemma SameFills.keeps_iff (h : SameFills aggregate ledger next ledger') :
    Keeps next ledger' fill ↔ Keeps aggregate ledger fill := by
  constructor
  · rintro ⟨hretained, hstored⟩
    exact ⟨h.fills ▸ hretained, h.intent ▸ h.stored ▸ hstored⟩
  · rintro ⟨hretained, hstored⟩
    refine ⟨h.fills ▸ hretained, ?_⟩
    rw [h.intent, h.stored]
    exact hstored

lemma SameFills.forgotten_iff (h : SameFills aggregate ledger next ledger') :
    Forgotten next fill ↔ Forgotten aggregate fill := by
  constructor
  · rintro ⟨hreported, hmissing⟩
    exact ⟨(h.reported fill).mp hreported, h.fills ▸ hmissing⟩
  · rintro ⟨hreported, hmissing⟩
    exact ⟨(h.reported fill).mpr hreported, h.fills ▸ hmissing⟩

lemma sameFills_aside (h : Ledger.Aside ledger ledger') :
    SameFills aggregate ledger aggregate ledger' := ⟨rfl, rfl, h.fills, fun _ => Iff.rfl⟩

lemma transition_sameFills {event : OrderEvent} (hplain : Ledger.NotFill event)
    (h : transition aggregate event receivedAt ledger = .ok (next, ledger')) :
    SameFills aggregate ledger next ledger' := by
  rcases Ledger.transition_eq_ok h with ⟨rfl, rfl, -⟩ | ⟨happly, -, -, -, rfl⟩
  · exact .refl
  rcases OrderAggregate.apply_notFill hplain.kind happly with rfl | ⟨hadvanced, hfills⟩
  · exact ⟨rfl, rfl, rfl, fun _ => Iff.rfl⟩
  · refine ⟨hadvanced.intent, hfills, rfl, fun fill => ?_⟩
    rw [hadvanced.appliedEvents, List.mem_append, List.mem_singleton]
    constructor
    · rintro (hold | hnew)
      · exact hold
      · exact absurd (congrArg OrderEvent.eventId hnew).symm (hplain.id fill.brokerFillId)
    · exact Or.inl

variable {executionId : ExecutionId} {u : PUnit} {other : BrokerFillFact}

lemma recordBrokerOrder_aside (h : recordBrokerOrder fact executionId ledger = .ok (u, ledger')) :
    Ledger.Aside ledger ledger' := by
  unfold recordBrokerOrder at h
  split at h
  all_goals
    split_ifs at h
    cases h
    exact ⟨rfl, rfl, rfl⟩

lemma completeAttempt_aside {kind : CommandKind}
    (h : completeAttempt attempt fact kind receivedAt ledger = .ok (u, ledger')) :
    Ledger.Aside ledger ledger' := by
  unfold completeAttempt at h
  split_ifs at h
  cases h
  exact ⟨rfl, rfl, rfl⟩

lemma recordFill_stored (h : recordFill fill executionId ledger = .ok (u, ledger')) :
    fillRow fill executionId ∈ ledger'.fills ∧ ledger.fills ⊆ ledger'.fills := by
  unfold recordFill at h
  cases hfind : ledger.fills.find? (·.brokerFillId = fill.brokerFillId) with
  | some row =>
    simp only [hfind] at h
    split_ifs at h with hsame
    cases h
    exact ⟨not_not.mp hsame ▸ List.mem_of_find?_eq_some hfind, List.Subset.refl _⟩
  | none =>
    simp only [hfind] at h
    cases h
    exact ⟨List.mem_concat_self, List.subset_append_left _ _⟩

lemma appliedFill_of_event (h : fillEvent other = fillEvent fill) :
    other.appliedFill = fill.appliedFill :=
  OrderAggregate.fillKind_injective (congrArg OrderEvent.kind h)

lemma event_of_appliedFill (h : other.appliedFill = fill.appliedFill) :
    fillEvent other = fillEvent fill := by
  have hid : other.brokerFillId = fill.brokerFillId := congrArg AppliedFill.brokerFillId h
  have hkind : (fillEvent other).kind = (fillEvent fill).kind :=
    congrArg OrderAggregate.fillKind h
  exact congrArg₂ OrderEvent.mk (congrArg EventId.fill hid) hkind

/-- What the report of a fill does: fills are neither lost nor forgotten, and the fill is retained
unless it was forgotten before. -/
structure Reports (current : OrderAggregate) (ledger : Ledger) (fill : BrokerFillFact)
    (next : OrderAggregate) (ledger' : Ledger) : Prop where
  intent : next.intent = current.intent
  grows : current.fills ⊆ next.fills
  stored : ledger'.fills = ledger.fills
  retained : ¬ Forgotten current fill → fill.appliedFill ∈ next.fills
  forgotten : ∀ other, Forgotten next other ↔ Forgotten current other

lemma transition_reports (h : transition current (fillEvent fill) receivedAt ledger =
    .ok (next, ledger')) : Reports current ledger fill next ledger' := by
  have hkind : (fillEvent fill).kind = OrderAggregate.fillKind fill.appliedFill := rfl
  rcases Ledger.transition_eq_ok h with
    ⟨rfl, rfl, same, hsame, hversion⟩ | ⟨happly, hmoved, -, -, rfl⟩
  · -- Nothing moved, as the report or its fill is known.
    rcases OrderAggregate.apply_fill hkind hsame with ⟨rfl, hknown⟩ | ⟨hadvanced, -⟩
    · refine ⟨rfl, List.Subset.refl _, rfl, fun hkept => ?_, fun _ => Iff.rfl⟩
      by_contra hmissing
      rcases hknown with hreported | hretained
      · exact hkept ⟨hreported, hmissing⟩
      · exact hmissing hretained
    · rw [hadvanced.version] at hversion
      exact absurd hversion (Nat.succ_ne_self _)
  rcases OrderAggregate.apply_fill hkind happly with ⟨rfl, -⟩ | ⟨hadvanced, hfills, -⟩
  · exact absurd rfl hmoved
  refine ⟨hadvanced.intent, fun known hknown => ?_, rfl, fun _ => ?_, fun other => ?_⟩
  · rw [hfills]
    exact List.mem_append_left _ hknown
  · rw [hfills]
    exact List.mem_concat_self
  · have hfresh : fillEvent fill ∉ current.appliedEvents := by
      have hnodup := next.wellFormed.events_nodup
      rw [hadvanced.appliedEvents, List.map_append, List.nodup_append] at hnodup
      exact fun hmem => hnodup.2.2 _ (List.mem_map_of_mem hmem) _
        (List.mem_singleton.mpr rfl) rfl
    constructor
    · rintro ⟨hreported, hmissing⟩
      rw [hfills, List.mem_append, List.mem_singleton, not_or] at hmissing
      rw [hadvanced.appliedEvents, List.mem_append, List.mem_singleton] at hreported
      rcases hreported with hold | hsame
      · exact ⟨hold, hmissing.1⟩
      · exact absurd (appliedFill_of_event hsame) hmissing.2
    · rintro ⟨hreported, hmissing⟩
      refine ⟨?_, ?_⟩
      · rw [hadvanced.appliedEvents]
        exact List.mem_append_left _ hreported
      · rw [hfills, List.mem_append, List.mem_singleton, not_or]
        exact ⟨hmissing, fun hsame => hfresh (event_of_appliedFill hsame ▸ hreported)⟩

/-- What a loop over fills does: all of them are stored, and they are retained unless they were
forgotten before. -/
structure ReportsAll (current : OrderAggregate) (ledger : Ledger) (fills : List BrokerFillFact)
    (next : OrderAggregate) (ledger' : Ledger) : Prop where
  intent : next.intent = current.intent
  grows : current.fills ⊆ next.fills
  stored : ledger.fills ⊆ ledger'.fills
  forgotten : ∀ other, Forgotten next other ↔ Forgotten current other
  keeps : ∀ fill ∈ fills, Keeps next ledger' fill ↔ ¬ Forgotten current fill

lemma applyFills_reportsAll {refusal : BrokerFillFact → Option String}
    (h : applyFills refusal current fills ledger = .ok (next, ledger')) :
    ReportsAll current ledger fills next ledger' := by
  induction fills generalizing current ledger with
  | nil =>
    cases h
    exact ⟨rfl, List.Subset.refl _, List.Subset.refl _, fun _ => Iff.rfl,
      fun fill hfill => by cases hfill⟩
  | cons fill rest ih =>
    obtain ⟨-, hrun⟩ := Ledger.conflict_bind_eq_ok.mp h
    obtain ⟨_, ledger₂, hrecord, hrun⟩ := Txn.bind_eq_ok.mp hrun
    obtain ⟨moved, ledger₃, htransition, hrun⟩ := Txn.bind_eq_ok.mp hrun
    obtain ⟨hstored, hsubset⟩ := recordFill_stored hrecord
    have hreports := transition_reports htransition
    have hrest := ih hrun
    refine ⟨hrest.intent.trans hreports.intent, List.Subset.trans hreports.grows hrest.grows,
      List.Subset.trans hsubset (hreports.stored ▸ hrest.stored),
      fun other => (hrest.forgotten other).trans (hreports.forgotten other), ?_⟩
    intro other hother
    rcases List.mem_cons.mp hother with rfl | hother
    · constructor
      · rintro ⟨hretained, -⟩ hforgotten
        exact ((hrest.forgotten other).mpr ((hreports.forgotten other).mpr hforgotten)).missing
          hretained
      · intro hkept
        refine ⟨hrest.grows (hreports.retained hkept), hrest.stored ?_⟩
        rw [hrest.intent, hreports.intent, hreports.stored]
        exact hstored
    · rw [hrest.keeps other hother, hreports.forgotten]

end Fills

/-! ## The result -/

section Calls

variable {aggregate next : OrderAggregate} {ledger ledger' : Ledger} {fact : BrokerOrderFact}
  {fills : List BrokerFillFact} {receivedAt : DateTime} {attempt : BrokerAttempt}
  {ids : AttemptEventIds}

lemma keeps_all_iff {current filled : OrderAggregate} {ledger₁ ledger₂ : Ledger}
    (hbefore : SameFills aggregate ledger current ledger₁)
    (hloop : ReportsAll current ledger₁ (fills.insertionSort fillLe) filled ledger₂)
    (hafter : SameFills filled ledger₂ next ledger') :
    (∀ fill ∈ fills, Keeps next ledger' fill) ↔ ∀ fill ∈ fills, ¬ Forgotten aggregate fill := by
  refine forall₂_congr fun fill hfill => ?_
  rw [hafter.keeps_iff, hloop.keeps fill ((List.mem_insertionSort _).mpr hfill),
    hbefore.forgotten_iff]

lemma acknowledge_sameFills
    (h : acknowledge aggregate fact receivedAt ledger = .ok (next, ledger')) :
    SameFills aggregate ledger next ledger' :=
  transition_sameFills ⟨by simp, by simp [OrderAggregate.fillKind]⟩ h

lemma confirmCancel_sameFills
    (h : confirmCancel aggregate fact receivedAt ledger = .ok (next, ledger')) :
    SameFills aggregate ledger next ledger' := by
  unfold confirmCancel at h
  split_ifs at h
  · exact transition_sameFills ⟨by simp, by simp [OrderAggregate.fillKind]⟩ h
  · cases h
    exact .refl

lemma queryExit_notFill {event : OrderEvent} (h : queryExit fact = some event) :
    fact.status ∈ queryExits ∧ Ledger.NotFill event := by
  unfold queryExit at h
  split at h
  next hstatus =>
    cases h
    rw [hstatus]
    exact ⟨by decide, by simp, by simp [OrderAggregate.fillKind]⟩
  next hstatus =>
    cases h
    rw [hstatus]
    exact ⟨by decide, by simp, by simp [OrderAggregate.fillKind]⟩
  next hstatus =>
    cases h
    rw [hstatus]
    exact ⟨by decide, by simp, by simp [OrderAggregate.fillKind]⟩
  · cases h

lemma queryExit_eq_none (h : queryExit fact = none) : fact.status ∉ queryExits := by
  unfold queryExit at h
  unfold queryExits
  cases hstatus : fact.status <;> simp [hstatus] at h ⊢

/-- The fills after `reconcile_broker_fact`. -/
lemma reconcile_keeps_iff
    (h : reconcileBrokerFact aggregate fact fills receivedAt ledger = .ok (next, ledger')) :
    (∀ fill ∈ fills, Keeps next ledger' fill) ↔
      FillsSafe queryExits aggregate ledger fact fills := by
  obtain ⟨-, h⟩ := Ledger.conflict_bind_eq_ok.mp h
  obtain ⟨_, ledger₂, hrecord, h⟩ := Txn.bind_eq_ok.mp h
  have hrow : SameFills aggregate ledger aggregate ledger₂ :=
    sameFills_aside (recordBrokerOrder_aside hrecord)
  unfold FillsSafe
  cases hexit : queryExit fact with
  | some event =>
    rw [hexit] at h
    obtain ⟨hstatus, hplain⟩ := queryExit_notFill hexit
    rw [if_pos hstatus]
    exact forall₂_congr fun fill _ => (hrow.trans (transition_sameFills hplain h)).keeps_iff
  | none =>
    rw [hexit] at h
    rw [if_neg (queryExit_eq_none hexit)]
    obtain ⟨current, ledger₃, hack, h⟩ := Txn.bind_eq_ok.mp h
    obtain ⟨filled, ledger₄, hloop, h⟩ := Txn.bind_eq_ok.mp h
    obtain ⟨final, ledger₅, hcancel, h⟩ := Txn.bind_eq_ok.mp h
    obtain ⟨_, ledger₆, hshares, h⟩ := Txn.bind_eq_ok.mp h
    cases h
    rw [(Ledger.conflict_eq_ok hshares).2]
    have hbefore : SameFills aggregate ledger₂ current ledger₃ := by
      unfold acknowledgeUncancelled at hack
      split_ifs at hack
      · exact acknowledge_sameFills hack
      · cases hack
        exact .refl
    exact keeps_all_iff (hrow.trans hbefore) (applyFills_reportsAll hloop)
      (confirmCancel_sameFills hcancel)

lemma submitExit_sameFills {exit : LedgerTxn OrderAggregate}
    (hexit : submitExit ids aggregate attempt fact receivedAt = some exit)
    (h : exit ledger = .ok (next, ledger')) :
    fact.status ∈ submitExits ∧ SameFills aggregate ledger next ledger' := by
  unfold submitExit at hexit
  split at hexit
  next hstatus =>
    cases hexit
    rw [hstatus]
    exact ⟨by decide, transition_sameFills ⟨by simp, by simp [OrderAggregate.fillKind]⟩ h⟩
  next hstatus =>
    cases hexit
    rw [hstatus]
    obtain ⟨event, ledger₁, hunknown, htransition, haside⟩ := Ledger.markAttemptUnknown_eq_ok h
    exact ⟨by decide, (transition_sameFills (Ledger.notFill_outcomeUnknown hunknown)
      htransition).trans (sameFills_aside haside)⟩
  next hstatus =>
    cases hexit
    rw [hstatus]
    exact ⟨by decide, transition_sameFills ⟨by simp, by simp [OrderAggregate.fillKind]⟩ h⟩
  next hstatus =>
    cases hexit
    rw [hstatus]
    exact ⟨by decide, transition_sameFills ⟨by simp, by simp [OrderAggregate.fillKind]⟩ h⟩
  · cases hexit

lemma submitExit_eq_none (h : submitExit ids aggregate attempt fact receivedAt = none) :
    fact.status ∉ submitExits := by
  unfold submitExit at h
  unfold submitExits
  cases hstatus : fact.status <;> simp [hstatus] at h ⊢

lemma missingFill_sameFills
    (h : missingFill ids aggregate attempt receivedAt ledger = .ok (next, ledger')) :
    SameFills aggregate ledger next ledger' := by
  obtain ⟨_, ledger₁, hupdate, h⟩ := Txn.bind_eq_ok.mp h
  have haside : Ledger.Aside ledger ledger₁ := by
    cases hupdate
    exact ⟨rfl, rfl, rfl⟩
  have hplain : Ledger.NotFill ⟨.text (ids "missing-fill" attempt.attemptId),
      .submitOutcomeUnknown "BROKER_FILL_MISSING"⟩ := ⟨by simp, by simp [OrderAggregate.fillKind]⟩
  exact (sameFills_aside haside).trans (transition_sameFills hplain h)

/-- The fills after `record_submit_result`. -/
lemma recordSubmitResult_keeps_iff
    (h : recordSubmitResult ids aggregate attempt fact fills receivedAt ledger =
      .ok (next, ledger')) : (∀ fill ∈ fills, Keeps next ledger' fill) ↔
      FillsSafe submitExits aggregate ledger fact fills := by
  obtain ⟨_, ledger₁, hrecord, h⟩ := Txn.bind_eq_ok.mp h
  obtain ⟨_, ledger₂, hcomplete, h⟩ := Txn.bind_eq_ok.mp h
  have hrows : SameFills aggregate ledger aggregate ledger₂ :=
    (sameFills_aside (recordBrokerOrder_aside hrecord)).trans
      (sameFills_aside (completeAttempt_aside hcomplete))
  unfold FillsSafe
  cases hexit : submitExit ids aggregate attempt fact receivedAt with
  | some exit =>
    rw [hexit] at h
    obtain ⟨hstatus, hsame⟩ := submitExit_sameFills hexit h
    rw [if_pos hstatus]
    exact forall₂_congr fun fill _ => (hrows.trans hsame).keeps_iff
  | none =>
    rw [hexit] at h
    rw [if_neg (submitExit_eq_none hexit)]
    obtain ⟨current, ledger₃, hack, h⟩ := Txn.bind_eq_ok.mp h
    obtain ⟨filled, ledger₄, hloop, h⟩ := Txn.bind_eq_ok.mp h
    refine keeps_all_iff (hrows.trans (acknowledge_sameFills hack)) (applyFills_reportsAll hloop) ?_
    split_ifs at h
    · exact missingFill_sameFills h
    · cases h
      exact .refl

/-- Whenever a call of the base repository returns, all fills that it was given are retained and
stored exactly if the status of the fact does not leave early and none of them was forgotten before,
or if all of them were kept before. -/
theorem fills_kept_iff (ids : AttemptEventIds) (aggregate next : OrderAggregate)
    (attempt : BrokerAttempt) (fact : BrokerOrderFact) (fills : List BrokerFillFact)
    (receivedAt : DateTime) (ledger ledger' : Ledger) :
    (reconcileBrokerFact aggregate fact fills receivedAt ledger = .ok (next, ledger') →
      ((∀ fill ∈ fills, Keeps next ledger' fill) ↔
        FillsSafe queryExits aggregate ledger fact fills)) ∧
    (recordSubmitResult ids aggregate attempt fact fills receivedAt ledger = .ok (next, ledger') →
      ((∀ fill ∈ fills, Keeps next ledger' fill) ↔
        FillsSafe submitExits aggregate ledger fact fills)) :=
  ⟨reconcile_keeps_iff, recordSubmitResult_keeps_iff⟩

end Calls

namespace Sample

/-- An order for two shares. -/
def intent : ExecutionIntent :=
  ⟨⟨"decision", "order", ⟨.sh, "600001"⟩, .buy, 2, 0, "uquant"⟩, Nat.two_pos⟩

def price : Price := ⟨10, ten_pos⟩

def command : BrokerOrderCommand :=
  ⟨intent.executionId, intent.idempotencyKey, "order", intent.symbol, .buy, .limit, 2, price, 0,
    Nat.two_pos⟩

/-- What the broker reports of the order. -/
def fact (status : BrokerOrderStatus) (filledShares eventSequence : ℕ) (h : filledShares ≤ 2) :
    BrokerOrderFact where
  brokerOrderId := "broker"
  clientOrderId := some "order"
  symbol := intent.symbol
  side := .buy
  priceType := .limit
  status := status
  requestedShares := 2
  filledShares := filledShares
  limitPrice := price
  sessionDate := 0
  eventTime := 0
  receivedAt := 0
  eventSequence := eventSequence
  rawPayloadSha256 := "order"
  requested_pos := Nat.two_pos
  filled_le_requested := h

/-- A confirmed fill of one share. -/
def fill : BrokerFillFact where
  brokerFillId := "fill"
  brokerOrderId := "broker"
  symbol := intent.symbol
  side := .buy
  status := .confirmed
  shares := 1
  price := price
  commission := Money.zero
  stampDuty := Money.zero
  transferFee := Money.zero
  sessionDate := 0
  eventTime := 0
  receivedAt := 0
  eventSequence := 1
  rawPayloadSha256 := "fill"
  shares_pos := Nat.one_pos

def ids : AttemptEventIds := fun label _ => label

/-- The order is at the broker, and its submission has not been answered. -/
def submission : LedgerTxn (OrderAggregate × BrokerAttempt) := do
  let planned ← Ledger.appendIntent intent 0
  let armed ← Ledger.validateAndArm planned 0
  Ledger.beginSubmit armed command 0

/-- The answer to the submission, with the fill. -/
def answered (status : BrokerOrderStatus) : LedgerTxn OrderAggregate := do
  let (submitted, attempt) ← submission
  recordSubmitResult ids submitted attempt (fact status 1 1 (by decide)) [fill] 0

/-- The order is acknowledged without fills. -/
def acknowledged : LedgerTxn OrderAggregate := do
  let (submitted, attempt) ← submission
  recordSubmitResult ids submitted attempt (fact .acknowledged 0 1 (by decide)) [] 0

/-- The broker is asked for the acknowledged order, which has a fill by then. -/
def queried (status : BrokerOrderStatus) : LedgerTxn OrderAggregate := do
  let order ← acknowledged
  reconcileBrokerFact order (fact status 1 2 (by decide)) [fill] 0

instance (aggregate : OrderAggregate) (ledger : Ledger) (fill : BrokerFillFact) :
    Decidable (Keeps aggregate ledger fill) :=
  decidable_of_iff (fill.appliedFill ∈ aggregate.fills ∧
    fillRow fill aggregate.intent.executionId ∈ ledger.fills)
    ⟨fun h => ⟨h.1, h.2⟩, fun h => ⟨h.retained, h.stored⟩⟩

/-- A call that returns, with a check of what it returns. -/
lemma exists_of_check (call : LedgerTxn OrderAggregate) (check : OrderAggregate × Ledger → Prop)
    [DecidablePred check] (h : ((call Ledger.empty).toOption.any fun r => check r) = true) :
    ∃ next ledger', call Ledger.empty = .ok (next, ledger') ∧ check (next, ledger') := by
  obtain ⟨r, hcall, hr⟩ := exists_of_any h
  exact ⟨r.1, r.2, hcall, of_decide_eq_true hr⟩

end Sample

section

open Sample

/-- A queried partial fill is kept. -/
theorem partial_fill_kept : ∃ next ledger', queried .partiallyFilled Ledger.empty =
    .ok (next, ledger') ∧ Keeps next ledger' fill := by
  obtain ⟨order, ledger, horder, hnew⟩ := exists_of_check acknowledged
    (fun r => fillEvent fill ∉ r.1.appliedEvents) (by decide +kernel)
  obtain ⟨next, ledger', hrun, -⟩ := exists_of_check (queried .partiallyFilled)
    (fun r => r.1.filledShares = 1) (by decide +kernel)
  obtain ⟨order', ledger₁, horder', hquery⟩ := Txn.bind_eq_ok.mp hrun
  cases horder.symm.trans horder'
  refine ⟨next, ledger', hrun, ((fills_kept_iff ids order next ⟨⟨intent.executionId, 1, .submit⟩,
    intent.executionId, 1, .submit⟩ (fact .partiallyFilled 1 2 (by decide)) [fill] 0 ledger
    ledger').1 hquery).mpr ?_ fill (List.mem_singleton.mpr rfl)⟩
  rw [FillsSafe, if_neg (by decide)]
  intro other hother hforgotten
  rw [List.mem_singleton.mp hother] at hforgotten
  exact hnew hforgotten.reported

/-- The fill that an expired order brings is dropped by `reconcile_broker_fact`, and the fill that a
cancelled order brings is dropped by `record_submit_result`. -/
theorem closing_fills_dropped :
    (∃ next ledger', queried .expired Ledger.empty = .ok (next, ledger') ∧
      fillMatches (fact .expired 1 2 (by decide)) fill ∧ ¬ Keeps next ledger' fill) ∧
    ∃ next ledger', answered .cancelled Ledger.empty = .ok (next, ledger') ∧
      fillMatches (fact .cancelled 1 1 (by decide)) fill ∧ ¬ Keeps next ledger' fill := by
  refine ⟨exists_of_check _ (fun r => fillMatches _ fill ∧ ¬ Keeps r.1 r.2 fill) ?_,
    exists_of_check _ (fun r => fillMatches _ fill ∧ ¬ Keeps r.1 r.2 fill) ?_⟩
  · decide +kernel
  · decide +kernel

end

end BaseLedger

end FirmQuant
