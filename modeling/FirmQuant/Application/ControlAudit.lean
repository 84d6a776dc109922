import FirmQuant.Application.RiskReducing
import FirmQuant.Persistence.WriterLease

/-!
# Audit events of controls

A control appends its audit event unless its id is known.  Runs of the process follow one another on
one database, each with a lease of its own, and a control that has returned must have an event that
no other control has.
-/

namespace FirmQuant

open Effect

namespace RuntimeTables

variable {J : RuntimeTables → Prop}

/-- An assertion that whatever a control writes preserves. -/
structure ControlStable (J : RuntimeTables → Prop) : Prop where
  save : ∀ mode previous current time, current.state.writable = false →
    Txn.Preserves J (saveRuntime mode previous current time)
  revoke : ∀ time reason, Txn.Preserves J (revokeArmLeases time reason)
  risk : ∀ row, Txn.Preserves J (insertRiskEventOnce row)
  audit : ∀ command identity payload time,
    Txn.Preserves J (appendAuditOnce (RuntimeControl.controlRow command identity payload time))

/-- An event with the id of a control is one that a control appends. -/
def ControlRow (row : RuntimeAuditRow) : Prop :=
  ∀ command identity, row.auditEventId = .control command identity → row.category = .runtimeControl

/-- The audit events are those of before and further ones. -/
def Extends (before : List RuntimeAuditRow) (t : RuntimeTables) : Prop :=
  ∃ extra, t.auditEvents = before ++ extra ∧ ∀ row ∈ extra, ControlRow row

variable {before : List RuntimeAuditRow} {row : RuntimeAuditRow} {time : DateTime}

lemma Extends.append {t t' : RuntimeTables} (h : Extends before t) (hrow : ControlRow row)
    (hevents : t'.auditEvents = t.auditEvents ++ [row]) : Extends before t' := by
  obtain ⟨extra, hextra, hrows⟩ := h
  refine ⟨extra ++ [row], by rw [hevents, hextra, List.append_assoc], fun other hother => ?_⟩
  rcases List.mem_snoc.mp hother with hother | hother
  · exact hrows other hother
  · rw [hother]
    exact hrow

section Preserves

variable (haudit : ∀ t, J t → J { t with auditEvents := t.auditEvents ++ [row] })

include haudit

lemma preserves_appendAudit : Txn.Preserves J (appendAudit row) := by
  intro t _ t' ht h
  unfold appendAudit at h
  split at h
  · cases h
    exact haudit t ht
  · split_ifs at h
    cases h
    exact ht

lemma preserves_appendAuditOnce : Txn.Preserves J (appendAuditOnce row) := by
  intro t u t' ht h
  unfold appendAuditOnce at h
  split_ifs at h
  · cases h
    exact ht
  · exact preserves_appendAudit haudit t u t' ht h

end Preserves

lemma preserves_revokeArmLeases {reason : String}
    (hleases : ∀ t leases, J t → J { t with armLeases := leases }) :
    Txn.Preserves J (revokeArmLeases time reason) := by
  intro t _ t' ht h
  cases h
  exact hleases t _ ht

lemma preserves_insertRiskEventOnce {risk : RiskEventRow}
    (hrisks : ∀ t risks, J t → J { t with riskEvents := risks }) :
    Txn.Preserves J (insertRiskEventOnce risk) := by
  intro t _ t' ht h
  unfold insertRiskEventOnce at h
  split_ifs at h
  · cases h
    exact ht
  · cases h
    exact hrisks t _ ht

/-- A save writes the status, the leases and two events. -/
lemma preserves_saveRuntime {mode : Mode} {previous current : RuntimeStatus}
    (hstatus : ∀ t, J t → J { t with runtimeState := some ⟨mode, current, time⟩ })
    (hleases : ∀ t leases, J t → J { t with armLeases := leases })
    (hrevoked : ∀ t count, J t → J { t with auditEvents := t.auditEvents ++
      [⟨.haltArmRevoke mode current.revision, .arm, "session-coordinator",
        .armRevoked mode current.revision count, time⟩] })
    (htransition : ∀ t, J t → J { t with
      auditEvents := t.auditEvents ++ [transitionRow mode current time] }) :
    Txn.Preserves J (saveRuntime mode previous current time) := by
  refine Txn.preserves_bind (fun t _ t' ht h => ?_) fun _ =>
    Txn.preserves_bind ?_ fun _ => preserves_appendAudit htransition
  · unfold setRuntime at h
    split at h <;> split_ifs at h <;> cases h <;> exact hstatus t ht
  · unfold revokeOnHalt auditHaltRevocation
    split_ifs
    · refine Txn.preserves_bind (preserves_revokeArmLeases hleases) fun count => ?_
      split_ifs
      · exact Txn.preserves_pure
      · exact preserves_appendAudit (hrevoked · count)
    · exact Txn.preserves_pure

/-- Controls only append to the audit events. -/
lemma controlStable_extends (before : List RuntimeAuditRow) : ControlStable (Extends before) where
  save _ _ _ _ _ := preserves_saveRuntime (fun _ h => h) (fun _ _ h => h)
    (fun _ _ h => h.append (by rintro _ _ ⟨⟩) rfl) fun _ h => h.append (by rintro _ _ ⟨⟩) rfl
  revoke _ _ := preserves_revokeArmLeases fun _ _ h => h
  risk _ := preserves_insertRiskEventOnce fun _ _ h => h
  audit _ _ _ _ := preserves_appendAuditOnce fun _ h => h.append (fun _ _ _ => rfl) rfl

end RuntimeTables

namespace RuntimeControl

open Runtime RuntimeTables

variable {B : Type} {p : ExecutorPorts B} {config : ExecutorConfig} {J : RuntimeTables → Prop}
  {frame : RuntimeStatus × ℕ}

/-! ## What a control keeps and what it adds -/

variable {status : RuntimeStatus}

variable {reason : String} {command : ControlCommand} {identity : ControlIdentity}

lemma keeps_transitionIf (hJ : ControlStable J) {c : Prop} [Decidable c] {target : RuntimeState}
    {blockers : Finset String} (htarget : target.writable = false) :
    Keeps (OnTables J frame) (transitionIf p config c status target reason blockers) :=
  keeps_ite (keeps_saveTransition (fun _ _ h _ => hJ.save _ _ _ _ (h.state ▸ htarget)) keeps_call)
    keeps_pure

lemma keeps_revokeArm (hJ : ControlStable J) {time : DateTime} :
    Keeps (OnTables J frame) (revokeArm p time reason) :=
  keeps_bind keeps_call fun _ => keeps_inTransaction (hJ.revoke time reason)

lemma keeps_load : Keeps (OnTables J frame) (load p config) :=
  keeps_bind keeps_call fun _ => keeps_loadRuntime

lemma keeps_haltTransitions (hJ : ControlStable J) :
    Keeps (OnTables J frame) (haltTransitions p config status) :=
  keeps_bind (keeps_transitionIf hJ rfl) fun _ =>
    keeps_bind (keeps_transitionIf hJ rfl) fun _ => keeps_transitionIf hJ rfl

lemma keeps_disarmTransitions (hJ : ControlStable J) :
    Keeps (OnTables J frame) (disarmTransitions p config status) :=
  keeps_ite keeps_pure (keeps_bind (keeps_transitionIf hJ rfl) fun _ => keeps_transitionIf hJ rfl)

lemma keeps_stopTransitions (hJ : ControlStable J) :
    Keeps (OnTables J frame) (stopTransitions p config status) :=
  keeps_bind (keeps_transitionIf hJ rfl) fun _ => keeps_transitionIf hJ rfl

lemma keeps_sweep : Keeps (OnTables J frame) (sweep p config) := by
  refine keeps_ite keeps_pure (keeps_ite keeps_throw ?_)
  refine keeps_bind keeps_call fun result => ?_
  exact keeps_bind (keeps_modify fun w hw => hw) fun _ => keeps_pure

/-- The audit event of a control is there. -/
def HasEvent (command : ControlCommand) (identity : ControlIdentity) (t : RuntimeTables) : Prop :=
  ∃ row ∈ t.auditEvents, row.auditEventId = .control command identity

lemma triple_audit (hJ : ControlStable J) {payload : RuntimeAuditPayload} {time : DateTime} :
    Triple (OnTables (B := B) J frame)
      (inTransaction (appendAuditOnce (controlRow command identity payload time)))
      (fun _ w => OnTables J frame w ∧ HasEvent command identity w.tables) (OnTables J frame) := by
  refine triple_inTransaction (fun w u t ht hw => ?_) fun _ _ _ hw => hw
  refine ⟨⟨hJ.audit command identity payload time w.tables u t hw.1 ht, hw.2⟩, ?_⟩
  unfold appendAuditOnce at ht
  split_ifs at ht with hknown
  · cases ht
    obtain ⟨row, hrow, hid⟩ := List.any_eq_true.mp hknown
    exact ⟨row, hrow, of_decide_eq_true hid⟩
  · rw [appendAudit_fresh fun other hother hid => hknown
      (List.any_eq_true.mpr ⟨other, hother, by simpa using hid⟩)] at ht
    cases ht
    exact ⟨_, List.mem_concat_self, rfl⟩

/-- A control that returns has its event, and it keeps what all its writes preserve. -/
lemma triple_perform (hJ : ControlStable J) {reasonSha256 : Option String} :
    Triple (OnTables J frame) (perform p config command identity reasonSha256)
      (fun _ w => OnTables J frame w ∧ HasEvent command identity w.tables) (OnTables J frame) := by
  cases command with
  | halt =>
    refine triple_bind keeps_call fun time => ?_
    refine triple_bind (keeps_revokeArm hJ) fun revoked => ?_
    refine triple_bind keeps_load fun status => ?_
    refine triple_bind (keeps_haltTransitions hJ) fun current => ?_
    unfold appendHaltEvidence
    refine triple_bind (triple_bind (keeps_inTransaction (hJ.risk _)) fun _ => triple_audit hJ)
      fun _ => triple_pure fun w hw => hw
  | disarm =>
    refine triple_bind keeps_call fun time => ?_
    refine triple_bind (keeps_revokeArm hJ) fun revoked => ?_
    refine triple_bind keeps_load fun status => ?_
    refine triple_bind (keeps_disarmTransitions hJ) fun current => ?_
    exact triple_bind (triple_audit hJ) fun _ => triple_pure fun w hw => hw
  | cancelSystemOrders =>
    refine triple_bind keeps_call fun time => ?_
    refine triple_bind keeps_sweep fun result => ?_
    exact triple_bind (triple_audit hJ) fun _ => triple_pure fun w hw => hw
  | stop =>
    refine triple_bind keeps_call fun time => ?_
    refine triple_bind (keeps_revokeArm hJ) fun revoked => ?_
    refine triple_bind keeps_load fun status => ?_
    refine triple_bind (keeps_stopTransitions hJ) fun current => ?_
    refine triple_bind (keeps_modify fun w hw => hw) fun _ => ?_
    exact triple_bind (triple_audit hJ) fun _ => triple_pure fun w hw => hw

end RuntimeControl

/-! ## Runs of the process on one database -/

/-- A run of the process: its lease and what its executor is built with. -/
structure ControlRun where
  lease : WriterLease
  mode : Mode
  hasBroker : Bool

/-- The configuration of the executor of a run. -/
def ControlRun.config (run : ControlRun) : ExecutorConfig :=
  ⟨run.mode, run.lease.generation, run.hasBroker⟩

/-- The row of the lease, the process with the tables, the run under way, and the controls that
have returned so far. -/
structure ControlRuns (B : Type) where
  row : Option WriterLeaseRow
  process : RuntimeProcess B
  run : Option ControlRun
  completed : List (ControlCommand × ControlIdentity)

namespace ControlRuns

open RuntimeControl RuntimeTables

variable {B : Type}

/-- One step, with the source of an internal stop.  Request ids are distinct. -/
inductive Step (p : ExecutorPorts B) : ControlRuns B → Option String → ControlRuns B → Prop
  | acquire {s : ControlRuns B} {a : Acquisition} {now : DateTime} {row : WriterLeaseRow}
      {mode : Mode} {hasBroker : Bool} {cached : RuntimeStatus} {executions : ℕ} {outside : B}
      (hidle : s.run = none) (hrow : WriterLease.acquireRow a now s.row = .ok row) :
      Step p s none { s with
        row := some row
        run := some ⟨.ofRow a row, mode, hasBroker⟩
        process := ⟨s.process.tables, false, 0, cached, executions, outside⟩ }
  | renew {s : ControlRuns B} {run : ControlRun} {row : WriterLeaseRow} {now : DateTime}
      (hrun : s.run = some run) (hrow : s.row = some row) (howns : run.lease.owns row = true) :
      Step p s none { s with row := some (run.lease.renewedRow now row) }
  | release {s : ControlRuns B} {run : ControlRun} (hrun : s.run = some run) :
      Step p s none { s with row := run.lease.releasedRow s.row, run := none }
  | crash {s : ControlRuns B} : Step p s none { s with run := none }
  | control {s : ControlRuns B} {run : ControlRun} {request : ControlRequest}
      {execution : ControlExecution} {process : RuntimeProcess B} (hrun : s.run = some run)
      (hdistinct : ∀ command, (command, .request request.requestId) ∉ s.completed)
      (hcall : execute p run.config request s.process = .ok execution process) :
      Step p s none { s with
        process := process
        completed := s.completed ++ [(request.command, .request request.requestId)] }
  | internalStop {s : ControlRuns B} {run : ControlRun} {source : String}
      {execution : ControlExecution} {process : RuntimeProcess B} (hrun : s.run = some run)
      (hcall : executeInternalStop p run.config source s.process = .ok execution process) :
      Step p s (some source) { s with
        process := process
        completed := s.completed ++ [(.stop, .internalStop source run.lease.generation)] }
  /-- Other work of the process, and the part of a control that an exception or a crash leaves. -/
  | other {s : ControlRuns B} {process : RuntimeProcess B}
      (hextends : Extends s.process.tables.auditEvents process.tables) :
      Step p s none { s with process := process }

/-- Before the first run. -/
structure Fresh (s : ControlRuns B) : Prop where
  run : s.run = none
  completed : s.completed = []
  rows : ∀ row ∈ s.process.tables.auditEvents, ControlRow row

/-- Each control that has returned has a RUNTIME_CONTROL event of its own. -/
def OwnEvents (s : ControlRuns B) : Prop :=
  s.completed.Nodup ∧ ∀ call ∈ s.completed, ∃ row ∈ s.process.tables.auditEvents,
    row.auditEventId = .control call.1 call.2 ∧ row.category = .runtimeControl

/-- A step that is no internal stop, or is the first of its source under its generation. -/
def FirstStep (p : ExecutorPorts B) (s s' : ControlRuns B) : Prop :=
  ∃ source, Step p s source s' ∧ ∀ text ∈ source, ∀ run, s.run = some run →
    (.stop, .internalStop text run.lease.generation) ∉ s.completed

/-- Own events, among events that are rightly categorized. -/
def Recorded (s : ControlRuns B) : Prop :=
  s.OwnEvents ∧ ∀ row ∈ s.process.tables.auditEvents, ControlRow row

section Runs

variable {p : ExecutorPorts B} {s s' : ControlRuns B} {process : RuntimeProcess B}

lemma Recorded.extend (h : Recorded s)
    (hextends : Extends s.process.tables.auditEvents process.tables) :
    Recorded { s with process := process } := by
  obtain ⟨extra, hevents, hextra⟩ := hextends
  refine ⟨⟨h.1.1, fun call hcall => ?_⟩, fun row hrow => ?_⟩
  · obtain ⟨row, hrow, hid, hcategory⟩ := h.1.2 call hcall
    refine ⟨row, ?_, hid, hcategory⟩
    change row ∈ process.tables.auditEvents
    rw [hevents]
    exact List.mem_append_left _ hrow
  · change row ∈ process.tables.auditEvents at hrow
    rw [hevents] at hrow
    rcases List.mem_append.mp hrow with hrow | hrow
    · exact h.2 row hrow
    · exact hextra row hrow

variable {command : ControlCommand} {identity : ControlIdentity}

/-- One more control, under an id that is new, with its event. -/
lemma Recorded.complete (h : Recorded s) (hnew : (command, identity) ∉ s.completed)
    (hextends : Extends s.process.tables.auditEvents process.tables)
    (hevent : HasEvent command identity process.tables) :
    Recorded { s with process := process, completed := s.completed ++ [(command, identity)] } := by
  obtain ⟨⟨hnodup, hevents⟩, hrows⟩ := h.extend hextends
  refine ⟨⟨?_, fun call hcall => ?_⟩, hrows⟩
  · rw [List.nodup_append]
    refine ⟨hnodup, List.nodup_singleton _, fun call hcall other hother => ?_⟩
    rw [List.mem_singleton.mp hother]
    exact fun hsame => hnew (hsame ▸ hcall)
  · rcases List.mem_snoc.mp hcall with hcall | rfl
    · exact hevents call hcall
    · obtain ⟨row, hrow, hid⟩ := hevent
      exact ⟨row, hrow, hid, hrows row hrow command identity hid⟩

/-- What a control that returned has done. -/
lemma extends_of_perform {config : ExecutorConfig} {reasonSha256 : Option String}
    {execution : ControlExecution} {before : RuntimeProcess B}
    (h : perform p config command identity reasonSha256 before = .ok execution process) :
    Extends before.tables.auditEvents process.tables ∧
      HasEvent command identity process.tables := by
  have hperformed := (triple_perform (controlStable_extends before.tables.auditEvents)).ok h
    ⟨⟨[], (List.append_nil _).symm, by simp⟩, rfl⟩
  exact ⟨hperformed.1.1, hperformed.2⟩

lemma Recorded.next (h : Recorded s) (hstep : FirstStep p s s') : Recorded s' := by
  obtain ⟨source, hstep, hfirst⟩ := hstep
  cases hstep with
  | acquire hidle hrow => exact h
  | renew hrun hrow howns => exact h
  | release hrun => exact h
  | crash => exact h
  | control hrun hdistinct hcall =>
    obtain ⟨_, asserted, hassert, hperform⟩ := bind_eq_ok.mp hcall
    obtain ⟨hextends, hevent⟩ := extends_of_perform hperform
    have hsame : asserted.tables = s.process.tables := Runtime.tables_of_call hassert
    rw [hsame] at hextends
    exact h.complete (hdistinct _) hextends hevent
  | @internalStop run source execution process hrun hcall =>
    unfold executeInternalStop at hcall
    split_ifs at hcall with hcanonical
    · obtain ⟨hextends, hevent⟩ := extends_of_perform hcall
      exact h.complete (hfirst source rfl run hrun) hextends hevent
    · cases hcall
  | other hextends => exact h.extend hextends

end Runs

namespace Sample

/-- What each run asks for. -/
def acquisition : Acquisition := LeaseSystem.Sample.acquisition

/-- The source of a process signal. -/
def signal : String := "PROCESS_SIGNAL"

def start : ControlRuns DateTime := ⟨none, ⟨.empty, false, 0, .initial, 0, 10⟩, none, []⟩

/-- The run of the first generation. -/
def run : ControlRun := ⟨.ofRow acquisition ⟨"daemon", "host", 7, 30 * second, 1⟩, .live, true⟩

/-- A run of the first generation, on these tables. -/
def running (tables : RuntimeTables) (completed : List (ControlCommand × ControlIdentity)) :
    ControlRuns DateTime :=
  ⟨some ⟨"daemon", "host", 7, 30 * second, 1⟩, ⟨tables, false, 0, .initial, 0, 10⟩,
    some run, completed⟩

/-- The process after an internal stop. -/
def stopped (tables : RuntimeTables) : RuntimeProcess DateTime :=
  finalState (executeInternalStop RuntimeControl.Sample.ports run.config signal
    ⟨tables, false, 0, .initial, 0, 10⟩)

lemma step_acquire (process : RuntimeProcess DateTime)
    (completed : List (ControlCommand × ControlIdentity)) :
    Step RuntimeControl.Sample.ports ⟨none, process, none, completed⟩ none
      (running process.tables completed) := by
  have hrow : WriterLease.acquireRow acquisition 0 none =
      .ok ⟨"daemon", "host", 7, 30 * second, 1⟩ := by
    decide
  exact .acquire rfl hrow

/-- The internal stop of a run, if it returns. -/
lemma step_stop (tables : RuntimeTables) (completed : List (ControlCommand × ControlIdentity))
    (hreturns : returnsWith (fun _ _ => true) (executeInternalStop RuntimeControl.Sample.ports
      run.config signal ⟨tables, false, 0, .initial, 0, 10⟩) = true) :
    Step RuntimeControl.Sample.ports (running tables completed) (some signal)
      ⟨some ⟨"daemon", "host", 7, 30 * second, 1⟩, stopped tables, some run,
        completed ++ [(.stop, .internalStop signal 1)]⟩ := by
  obtain ⟨execution, hcall⟩ := exists_ok_finalState hreturns
  exact @Step.internalStop _ _ (running tables completed) run signal execution _ rfl hcall

lemma step_release (process : RuntimeProcess DateTime)
    (completed : List (ControlCommand × ControlIdentity)) :
    Step RuntimeControl.Sample.ports
      ⟨some ⟨"daemon", "host", 7, 30 * second, 1⟩, process, some run, completed⟩ none
      ⟨none, process, none, completed⟩ := by
  have hrow : run.lease.releasedRow (some ⟨"daemon", "host", 7, 30 * second, 1⟩) = none := by
    decide
  have hrelease := @Step.release _ RuntimeControl.Sample.ports ⟨some ⟨"daemon", "host", 7,
    30 * second, 1⟩, process, some run, completed⟩ run rfl
  rwa [hrow] at hrelease

lemma fresh_start : Fresh start := ⟨rfl, rfl, by simp [start, RuntimeTables.empty]⟩

end Sample

end ControlRuns

end FirmQuant
