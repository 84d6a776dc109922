import FirmQuant.Application.OperatorCommands
import FirmQuant.Application.ProductionHooks

/-!
# The kill switch

A HALT trips the kill switch, and only a resume may reset it.  Operator commands, controls and the
hooks route the status through transitions that rewrite its blockers; most of them also ask the risk
events.  Between a HALT and the next resume no status may be stored in which the broker can be
written to, unless the kill switch is among its blockers.
-/

namespace FirmQuant

open Effect

/-! ## Calls and the system -/

/-- A call that may change the stored status, with the ports it meets. -/
inductive KillSwitchCall (B : Type)
  | operatorHalt (p : OperatorPorts B) (config : OperatorConfig) (reason : Option String)
  | operatorDisarm (p : OperatorPorts B) (config : OperatorConfig) (reason : Option String)
  | operatorReconcile (p : OperatorPorts B) (config : OperatorConfig)
  | operatorResume (p : OperatorPorts B) (config : OperatorConfig)
  | control (p : ExecutorPorts B) (config : ExecutorConfig) (request : ControlRequest)
  | internalStop (p : ExecutorPorts B) (config : ExecutorConfig) (source : String)
  | finalizeStop (p : ExecutorPorts B) (config : ExecutorConfig)
  | startup (p : HooksPorts B) (mode : Mode)
  | cycle (p : HooksPorts B) (mode : Mode) (time : DateTime)
  | halt (p : HooksPorts B) (mode : Mode) (reasonCode : String)
  /-- A new process: an executor and hooks that load the status. -/
  | restart (p : HooksPorts B) (mode : Mode)

/-- The state at the end of the HALT: how many audit events there were, and how often the hooks had
begun to execute orders. -/
structure KillSwitchTrip where
  events : ℕ
  executions : ℕ

/-- The process, and the HALT that no resume has followed. -/
structure KillSwitchSystem (B : Type) where
  process : RuntimeProcess B
  trip : Option KillSwitchTrip

namespace KillSwitchCall

variable {B : Type}

/-- What a call runs. -/
def perform : KillSwitchCall B → Runtime B PUnit
  | operatorHalt p config reason => do let _ ← OperatorCommands.halt p config reason
  | operatorDisarm p config reason => do let _ ← OperatorCommands.disarm p config reason
  | operatorReconcile p config => do let _ ← OperatorCommands.reconcile p config
  | operatorResume p config => do let _ ← OperatorCommands.resume p config
  | control p config request => do let _ ← RuntimeControl.execute p config request
  | internalStop p config source => do let _ ← RuntimeControl.executeInternalStop p config source
  | finalizeStop p config => do let _ ← RuntimeControl.finalizeStop p config
  | startup p mode => do let _ ← ProductionHooks.startup p mode
  | cycle p mode time => do let _ ← ProductionHooks.cycle p mode time
  | halt p mode reasonCode => ProductionHooks.halt p mode reasonCode
  | restart p mode => do
    modify fun w => { w with stopPending := false, cancelCalls := 0 }
    ProductionHooks.load p mode

/-- Whether the call is a HALT. -/
def trips : KillSwitchCall B → Bool
  | operatorHalt .. => true
  | control _ _ request => request.command = .halt
  | _ => false

/-- Whether the call is a resume. -/
def resets : KillSwitchCall B → Bool
  | operatorResume .. => true
  | _ => false

/-- A startup is made from HALTED or STOPPING, or on a copy of the status that is not the stored
one, and an operator's reconciliation from HALTED or STOPPING, or where the risk events show the
kill switch. -/
def Respects (w : RuntimeProcess B) : KillSwitchCall B → Prop
  | startup .. =>
    w.cached.state = .halted ∨ w.cached.state = .stopping ∨ w.cached ≠ w.tables.status
  | operatorReconcile .. =>
    w.tables.status.state = .halted ∨ w.tables.status.state = .stopping ∨
      w.tables.killSwitchTripped w.tables.status = true
  | _ => True

end KillSwitchCall

namespace KillSwitchSystem

variable {B : Type}

/-- The HALT to remember after a call that has returned. -/
def tripAfter (call : KillSwitchCall B) (process : RuntimeProcess B)
    (trip : Option KillSwitchTrip) : Option KillSwitchTrip :=
  if call.resets = true then none
  else if call.trips = true then
    some (trip.getD ⟨process.tables.auditEvents.length, process.executions⟩)
  else trip

/-- The system after a call; one that raises is not completed. -/
def next (s : KillSwitchSystem B) (call : KillSwitchCall B) : KillSwitchSystem B :=
  match call.perform s.process with
  | .ok _ process => ⟨process, tripAfter call process s.trip⟩
  | .error _ process => ⟨process, s.trip⟩

/-- A status in which nothing can be written to the broker, or that carries the kill switch. -/
def Blocked (status : RuntimeStatus) : Prop :=
  status.state.writable = true → killSwitch ∈ status.blockers

instance (status : RuntimeStatus) : Decidable (Blocked status) :=
  inferInstanceAs (Decidable (_ → _))

/-- Since the HALT only blocked statuses were stored, and no execution of orders was begun. -/
def Sticky (s : KillSwitchSystem B) : Prop :=
  ∀ trip, s.trip = some trip →
    Blocked s.process.tables.status ∧
    (∀ mode status time,
      RuntimeTables.transitionRow mode status time ∈ s.process.tables.auditEvents.drop trip.events →
      Blocked status) ∧
    s.process.executions = trip.executions

/-- A call that respects the kill switch while it is tripped. -/
inductive Step : KillSwitchSystem B → KillSwitchSystem B → Prop
  | call {s : KillSwitchSystem B} (call : KillSwitchCall B)
      (hrespects : s.trip ≠ none → call.Respects s.process) : Step s (s.next call)

end KillSwitchSystem

/-! ## Quiet tables -/

namespace RuntimeTables

/-- Nothing can be written to the broker in the stored status, nor could it in one that was stored
after the first audit events. -/
structure Quiet (events : ℕ) (t : RuntimeTables) : Prop where
  stored : t.status.state.writable = false
  rows : ∀ mode status time, transitionRow mode status time ∈ t.auditEvents.drop events →
    status.state.writable = false

section Quiet

variable {events : ℕ} {t t' : RuntimeTables} {row : RuntimeAuditRow}

/-- A row that reports no status in which the broker can be written to. -/
def QuietRow (row : RuntimeAuditRow) : Prop :=
  ∀ mode status time, row = transitionRow mode status time → status.state.writable = false

lemma Quiet.append (h : Quiet events t) (hrow : QuietRow row) :
    Quiet events { t with auditEvents := t.auditEvents ++ [row] } where
  stored := h.stored
  rows := by
    intro mode status time hmem
    rw [List.drop_append, List.mem_append] at hmem
    rcases hmem with hmem | hmem
    · exact h.rows mode status time hmem
    · exact hrow mode status time (List.mem_singleton.mp (List.mem_of_mem_drop hmem)).symm

lemma quiet_appendAudit (hrow : QuietRow row) : Txn.Preserves (Quiet events) (appendAudit row) :=
  preserves_appendAudit fun _ h => h.append hrow

lemma quiet_appendAuditOnce (hrow : QuietRow row) :
    Txn.Preserves (Quiet events) (appendAuditOnce row) :=
  preserves_appendAuditOnce fun _ h => h.append hrow

variable {time : DateTime} {previous current : RuntimeStatus}

lemma quiet_revokeArmLeases {reason : String} :
    Txn.Preserves (Quiet events) (revokeArmLeases time reason) :=
  preserves_revokeArmLeases fun _ _ h => ⟨h.stored, h.rows⟩

lemma quiet_saveRuntime {mode : Mode} (hcurrent : current.state.writable = false) :
    Txn.Preserves (Quiet events) (saveRuntime mode previous current time) := by
  refine preserves_saveRuntime (fun _ h => ⟨hcurrent, h.rows⟩) (fun _ _ h => ⟨h.stored, h.rows⟩)
    (fun _ _ h => h.append fun _ _ _ h => by cases h) fun _ h => h.append fun _ status' _ h => ?_
  have hpayload := congrArg RuntimeAuditRow.payload h
  rw [transitionRow, transitionRow, RuntimeAuditPayload.transition.injEq] at hpayload
  rw [← hpayload.2]
  exact hcurrent

lemma quiet_insertRiskEvent {risk : RiskEventRow} :
    Txn.Preserves (Quiet events) (insertRiskEvent risk) := by
  intro t _ t' hquiet h
  unfold insertRiskEvent at h
  split_ifs at h
  cases h
  exact ⟨hquiet.stored, hquiet.rows⟩

lemma controlStable_quiet (events : ℕ) : ControlStable (Quiet events) where
  save _ _ _ _ hcurrent := quiet_saveRuntime hcurrent
  revoke _ _ := quiet_revokeArmLeases
  risk _ := preserves_insertRiskEventOnce fun _ _ h => ⟨h.stored, h.rows⟩
  audit _ _ _ _ := quiet_appendAuditOnce fun _ _ _ h => by cases h

end Quiet

end RuntimeTables

/-! ## What each call keeps -/

namespace Runtime

open RuntimeTables RuntimeStatus

variable {B : Type} {J : RuntimeTables → Prop} {frame : RuntimeStatus × ℕ}

variable {status : RuntimeStatus} {target : RuntimeState} {blockers : Finset String}
  {time : Runtime B DateTime}

lemma triple_saveTransition {p : RuntimePorts B} {mode : Mode} {reason : String}
    (htime : Keeps (OnTables J frame) time) :
    Triple (OnTables J frame) (saveTransition p mode status target reason blockers time)
      (fun _ _ => True) (OnTables J frame) := by
  refine triple_bind keeps_raising fun current => ?_
  refine triple_bind (Q := fun _ _ => True) ?_ fun _ => triple_pure fun _ _ => trivial
  unfold saveIfChanged
  by_cases hsame : current = status
  · rw [if_pos hsame]
    exact triple_pure fun _ _ => trivial
  · rw [if_neg hsame]
    refine triple_bind htime fun createdAt => ?_
    exact triple_bind keeps_call fun _ =>
      triple_inTransaction (fun _ _ _ _ _ => trivial) fun _ _ _ hw => hw

/-- What is stored after a transition of what was stored. -/
lemma achieves_saveTransition {p : RuntimePorts B} {mode : Mode} {reason : String}
    (htime : Achieves (fun w => w.tables.status = status) time
      fun _ w => w.tables.status = status) :
    Achieves (fun w => w.tables.status = status)
      (saveTransition p mode status target reason blockers time)
      fun current w => current.state = target ∧ w.tables.status = current := by
  refine triple_bind (Q := fun current w => current.state = target ∧ w.tables.status = status)
    (triple_raising (fun w current hcurrent hw => ⟨(follows_of_transition hcurrent).state, hw⟩)
      fun _ _ _ _ => trivial) fun current => ?_
  refine triple_assume fun htarget => ?_
  refine triple_bind (Q := fun _ w => w.tables.status = current) ?_
    fun _ => triple_pure fun w hw => ⟨htarget, hw⟩
  unfold saveIfChanged
  by_cases hsame : current = status
  · rw [if_pos hsame, hsame]
    exact triple_pure fun w hw => hw
  · rw [if_neg hsame]
    refine triple_bind htime fun createdAt => ?_
    refine triple_bind (Q := fun _ _ => True)
      (triple_call (fun _ _ _ _ _ => trivial) fun _ _ _ _ _ => trivial) fun _ => ?_
    exact triple_inTransaction (fun w u t ht _ => (saveRuntime_eq_ok ht).2.2.1)
      fun _ _ _ _ => trivial

/-- A copy of the status that is not what is stored. -/
def Stale (J : RuntimeTables → Prop) (cached : RuntimeStatus) (t : RuntimeTables) : Prop :=
  J t ∧ cached ≠ t.status

end Runtime

namespace ProductionHooks

open Runtime RuntimeTables RuntimeStatus

variable {B : Type} {p : HooksPorts B} {mode : Mode} {J : RuntimeTables → Prop}
  {cached : RuntimeStatus} {executions : ℕ}

variable {target : RuntimeState} {reason : String} {blockers : Finset String}

/-- A transition from a copy that is not what is stored raises, or it changes nothing. -/
lemma stale_transition :
    Triple (OnTables (Stale J cached) (cached, executions))
      (transition p mode target reason blockers)
      (fun _ w => target = cached.state ∧ OnTables (Stale J cached) (cached, executions) w)
      (OnTables (Stale J cached) (cached, executions)) := by
  refine triple_get_bind fun s hs => ?_
  have hcached : s.cached = cached := congrArg Prod.fst hs.2
  rw [hcached]
  refine triple_bind (Q := fun current w => (target = cached.state ∧ current = cached) ∧
    OnTables (Stale J cached) (cached, executions) w) ?_ fun current => ?_
  · refine triple_bind (Q := fun current w => current.state = target ∧
      OnTables (Stale J cached) (cached, executions) w)
      (triple_raising (fun w current hcurrent hw => ⟨(follows_of_transition hcurrent).state, hw⟩)
        fun _ _ _ hw => hw) fun current => ?_
    refine triple_assume fun htarget => ?_
    unfold saveIfChanged
    by_cases hsame : current = cached
    · rw [if_pos hsame]
      exact triple_bind keeps_pure fun _ =>
        triple_pure fun w hw => ⟨⟨by rw [← htarget, hsame], hsame⟩, hw⟩
    · rw [if_neg hsame]
      refine triple_bind (Q := fun _ _ => False) ?_ fun _ => triple_pure fun _ hw => hw.elim
      refine triple_bind keeps_call fun createdAt => ?_
      refine triple_bind keeps_call fun _ => ?_
      refine triple_inTransaction (fun w u t ht hw => ?_) fun _ _ _ hw => hw
      exact hw.1.2 (saveRuntime_eq_ok ht).2.1.symm
  · refine triple_assume fun hcurrent => ?_
    refine triple_modify fun w hw => ⟨hcurrent.1, hw.1, ?_⟩
    have hframe := hw.2
    rw [Prod.mk.injEq] at hframe ⊢
    exact ⟨hcurrent.2, hframe.2⟩

lemma stale_keeps_transition :
    Keeps (OnTables (Stale J cached) (cached, executions))
      (transition p mode target reason blockers) :=
  triple_post stale_transition (fun _ _ h => h.2)

/-- A transition to another state raises. -/
lemma stale_transition_raises (htarget : target ≠ cached.state) :
    Triple (OnTables (Stale J cached) (cached, executions))
      (transition p mode target reason blockers) (fun _ _ => False)
      (OnTables (Stale J cached) (cached, executions)) :=
  triple_post stale_transition (fun _ _ h => htarget h.1)

lemma stale_keeps_transitionWhen {c : RuntimeState → Bool} :
    Keeps (OnTables (Stale J cached) (cached, executions))
      (transitionWhen p mode c target reason) :=
  keeps_get_bind fun _ _ => keeps_ite stale_keeps_transition keeps_pure

lemma stale_keeps_halt {reasonCode : String} :
    Keeps (OnTables (Stale J cached) (cached, executions)) (halt p mode reasonCode) := by
  refine keeps_get_bind fun s hs => ?_
  have hcached : s.cached = cached := congrArg Prod.fst hs.2
  by_cases hhalted : s.cached.state = .halted
  · rw [if_pos hhalted]
    exact keeps_pure
  · rw [if_neg hhalted]
    rw [hcached] at hhalted
    refine triple_bind (Q := fun _ _ => False) ?_ fun _ _ hw => hw.elim
    exact triple_bind stale_keeps_transitionWhen fun _ =>
      stale_transition_raises fun h => hhalted h.symm

lemma stale_keeps_startup :
    Keeps (OnTables (Stale J cached) (cached, executions)) (startup p mode) := by
  have hhaltingOn : ∀ {α : Type} {x : Runtime B α} {reason code : String},
      Keeps (OnTables (Stale J cached) (cached, executions)) x →
      Keeps (OnTables (Stale J cached) (cached, executions)) (haltingOn p mode x reason code) :=
    fun hx => keeps_tryCatch hx fun _ => keeps_bind stale_keeps_transition fun _ => keeps_throw
  refine keeps_bind keeps_call fun _ => keeps_get_bind fun _ _ => ?_
  refine keeps_bind keeps_refuse fun _ => ?_
  refine keeps_bind (keeps_bind stale_keeps_transitionWhen fun _ => stale_keeps_transitionWhen)
    fun _ => ?_
  refine keeps_bind keeps_call fun recovery => ?_
  refine keeps_bind (keeps_ite (keeps_bind stale_keeps_transition fun _ => keeps_throw) keeps_pure)
    fun _ => ?_
  refine keeps_bind keeps_call fun incomplete => ?_
  refine keeps_bind ?_ fun _ => ?_
  · unfold recoverClose
    cases incomplete with
    | none => exact keeps_pure
    | some session => exact keeps_bind (hhaltingOn keeps_call) fun _ => keeps_pure
  · refine keeps_bind keeps_call fun _ => ?_
    refine keeps_bind (hhaltingOn keeps_call) fun receipt => ?_
    exact keeps_bind stale_keeps_transition fun _ => keeps_pure

/-- A cycle on a stale copy executes nothing. -/
lemma stale_keeps_cycle {time : DateTime} :
    Keeps (OnTables (Stale J cached) (cached, executions)) (cycle p mode time) := by
  refine keeps_get_bind fun s hs => ?_
  have hcached : s.cached = cached := congrArg Prod.fst hs.2
  rw [hcached]
  unfold refuse
  by_cases hready : cached.state = .ready
  · rw [if_neg (not_not.mpr hready)]
    refine keeps_bind keeps_pure fun _ => keeps_bind keeps_call fun day => ?_
    unfold dayCycle
    cases day with
    | uncovered => exact keeps_bind stale_keeps_halt fun _ => keeps_throw
    | closed => exact keeps_pure
    | trading =>
      refine keeps_bind keeps_call fun market => ?_
      have hclosed : Keeps (OnTables (Stale J cached) (cached, executions))
          (closeStep p mode time) :=
        triple_bind (stale_transition_raises (by rw [hready]; decide)) fun _ _ hw => hw.elim
      have hopen : Keeps (OnTables (Stale J cached) (cached, executions))
          (executionStep p mode time) :=
        keeps_bind keeps_call fun deadline => keeps_ite
          (triple_bind (stale_transition_raises (by rw [hready]; decide)) fun _ _ hw => hw.elim)
          keeps_pure
      unfold tradingCycle
      split
      · exact hopen
      · exact keeps_ite hclosed keeps_pure
      · exact keeps_pure
  · rw [if_pos hready]
    exact triple_bind (Q := fun _ _ => False) (triple_throw fun _ hw => hw) fun _ _ hw => hw.elim

end ProductionHooks

namespace OperatorCommands

open Runtime RuntimeTables RuntimeStatus

variable {B : Type} {p : OperatorPorts B} {config : OperatorConfig} {events : ℕ}
  {frame : RuntimeStatus × ℕ}

variable {status : RuntimeStatus} {blockers : Finset String}

variable {mode : Mode} {reason : String} {time : DateTime}

lemma quiet_transitionIf {c : Prop} [Decidable c] {target : RuntimeState}
    (htarget : target.writable = false) :
    Keeps (OnTables (Quiet events) frame)
      (transitionIf p c mode status target reason blockers time) :=
  keeps_ite (keeps_saveTransition (fun _ _ h _ => quiet_saveRuntime (h.state ▸ htarget)) keeps_pure)
    keeps_pure

lemma quiet_transitionHalted :
    Keeps (OnTables (Quiet events) frame) (transitionHalted p mode status reason blockers time) :=
  keeps_bind (quiet_transitionIf rfl) fun _ => keeps_bind (quiet_transitionIf rfl) fun _ =>
    quiet_transitionIf rfl

lemma quiet_control : Keeps (OnTables (Quiet events) frame) (control p config) :=
  keeps_bind keeps_call fun _ => keeps_get_bind fun _ _ => keeps_bind keeps_call fun _ => keeps_pure

lemma quiet_halt {reason : Option String} :
    Keeps (OnTables (Quiet events) frame) (halt p config reason) := by
  refine keeps_bind keeps_call fun time => keeps_bind quiet_control fun stored => ?_
  refine keeps_bind (keeps_inTransaction quiet_revokeArmLeases) fun _ => ?_
  refine keeps_bind quiet_transitionHalted fun status => ?_
  refine keeps_bind (keeps_bind keeps_call fun _ => keeps_pure) fun id => ?_
  refine keeps_bind (keeps_inTransaction ?_) fun _ => keeps_pure
  exact Txn.preserves_bind quiet_insertRiskEvent fun _ =>
    quiet_appendAudit fun _ _ _ h => by cases h

lemma quiet_appendOperatorAudit {command : OperatorCommand} {payload : RuntimeAuditPayload} :
    Keeps (OnTables (Quiet events) frame) (appendOperatorAudit p command payload time) :=
  keeps_bind keeps_call fun _ => keeps_bind (keeps_bind keeps_call fun _ => keeps_pure) fun _ =>
    keeps_inTransaction (quiet_appendAudit fun _ _ _ h => by cases h)

lemma quiet_disarm {reason : Option String} :
    Keeps (OnTables (Quiet events) frame) (disarm p config reason) := by
  refine keeps_bind keeps_call fun time => keeps_bind quiet_control fun stored => ?_
  refine keeps_get_bind fun w _ => ?_
  refine keeps_bind (keeps_inTransaction quiet_revokeArmLeases) fun revoked => ?_
  refine keeps_bind (keeps_ite keeps_pure ?_) fun status =>
    keeps_bind quiet_appendOperatorAudit fun _ => keeps_pure
  exact keeps_bind (quiet_transitionIf rfl) fun _ => quiet_transitionIf rfl

lemma quiet_haltAndDeny {reasonCode : String} :
    Keeps (OnTables (Quiet events) frame)
      (haltAndDeny p mode status reason blockers reasonCode) :=
  keeps_bind keeps_call fun _ => keeps_bind quiet_transitionHalted fun _ => keeps_throw

lemma quiet_callReconciler {command : String} {kept : Finset String → Finset String} :
    Keeps (OnTables (Quiet events) frame) (callReconciler p mode status command kept) := by
  refine keeps_bind (keeps_tryCatch (keeps_bind keeps_call fun _ => keeps_pure)
    fun _ => keeps_pure) fun answer => ?_
  unfold acceptEvidence
  split
  · exact keeps_pure
  · exact quiet_haltAndDeny
  · exact quiet_haltAndDeny

lemma quiet_resume : Triple (OnTables (Quiet events) frame) (resume p config) (fun _ _ => True)
    (OnTables (Quiet events) frame) := by
  refine triple_bind keeps_call fun _ => triple_bind keeps_refuse fun _ => ?_
  refine triple_bind keeps_call fun time => triple_bind quiet_control fun stored => ?_
  refine triple_bind keeps_refuse fun _ => triple_get_bind fun w _ => ?_
  refine triple_bind (keeps_bind keeps_call fun _ => keeps_pure) fun id => ?_
  refine triple_bind (keeps_inTransaction (Txn.preserves_bind quiet_revokeArmLeases fun _ =>
    quiet_appendAudit fun _ _ _ h => by cases h)) fun _ => ?_
  refine triple_bind (quiet_transitionIf rfl) fun status => ?_
  refine triple_bind quiet_callReconciler fun reconciliation => ?_
  refine triple_bind (keeps_ite keeps_pure quiet_haltAndDeny) fun reconciliation => ?_
  refine triple_bind keeps_call fun createdAt => ?_
  refine triple_bind (keeps_ite ?_ quiet_appendOperatorAudit) fun _ => ?_
  · refine keeps_bind (keeps_bind keeps_call fun _ => keeps_pure) fun id => ?_
    exact keeps_inTransaction (Txn.preserves_bind quiet_insertRiskEvent fun _ =>
      quiet_appendAudit fun _ _ _ h => by cases h)
  · unfold transitionIf
    rw [if_pos trivial]
    exact triple_saveTransition keeps_pure

/-- A reconciliation does not lead to READY from HALTED, nor where the kill switch is shown. -/
lemma quiet_reconcile {t : RuntimeTables} (ht : Quiet events t)
    (hrespects : t.status.state = .halted ∨ t.status.state = .stopping ∨
      t.killSwitchTripped t.status = true) :
    Triple (OnTables (· = t) frame) (reconcile p config)
      (fun _ => OnTables (Quiet events) frame) (OnTables (Quiet events) frame) := by
  have hquiet : ∀ w : RuntimeProcess B, OnTables (· = t) frame w →
      OnTables (Quiet events) frame w := fun w hw => ⟨hw.1.symm ▸ ht, hw.2⟩
  have hread : (t.runtimeFromRow config.fallbackMode).2 = t.status := by
    unfold runtimeFromRow status
    cases t.runtimeState <;> rfl
  have hcontrol : Triple (OnTables (· = t) frame) (control p config)
      (fun stored w => stored.2 = t.status ∧ OnTables (· = t) frame w)
      (OnTables (· = t) frame) := by
    refine triple_bind keeps_call fun _ => triple_get_bind fun w hw => ?_
    refine triple_bind keeps_call fun _ => triple_pure fun w' hw' => ⟨?_, hw'⟩
    rw [hw.1]
    exact hread
  have hload : ∀ {α : Type} {x : Runtime B α} {Q : α → RuntimeProcess B → Prop},
      Triple (OnTables (· = t) frame) x Q (OnTables (· = t) frame) →
      Triple (OnTables (· = t) frame) x Q (OnTables (Quiet events) frame) :=
    fun hx => triple_error hx hquiet
  refine triple_bind (hload keeps_refuse) fun _ => triple_bind (hload keeps_call) fun time => ?_
  refine triple_bind (hload hcontrol) fun stored => triple_assume fun hstored => ?_
  refine triple_get_bind fun w hw => ?_
  rw [hw.1, hstored]
  unfold refuse
  by_cases hstopping : t.status.state = .stopping
  · rw [if_pos hstopping]
    exact triple_bind (Q := fun _ _ => False) (triple_throw hquiet) fun _ _ hw => hw.elim
  · rw [if_neg hstopping]
    refine triple_bind (Q := fun _ => OnTables (Quiet events) frame) (triple_pure hquiet)
      fun _ => ?_
    refine keeps_bind (quiet_transitionIf rfl) fun first => ?_
    refine keeps_bind (quiet_transitionIf rfl) fun second => ?_
    refine keeps_bind quiet_callReconciler fun reconciliation => keeps_bind keeps_call fun now => ?_
    have hhalts : reconciliation.passed = false ∨ t.killSwitchTripped t.status = true ∨
        decide (t.status.state = .halted) = true := by
      rcases hrespects with h | h | h
      · exact .inr (.inr (decide_eq_true h))
      · exact absurd h hstopping
      · exact .inr (.inl h)
    rw [if_pos hhalts]
    exact quiet_transitionHalted

end OperatorCommands

/-! ## A completed HALT -/

namespace RuntimeTables

/-- A transaction leaves the stored status. -/
def KeepsStatus {α : Type} (x : RuntimeTxn α) : Prop :=
  ∀ status : RuntimeStatus, Txn.Preserves (fun t : RuntimeTables => t.status = status) x

lemma keepsStatus_appendAudit (row : RuntimeAuditRow) : KeepsStatus (appendAudit row) :=
  fun _ => preserves_appendAudit fun _ h => h

lemma keepsStatus_appendAuditOnce (row : RuntimeAuditRow) : KeepsStatus (appendAuditOnce row) :=
  fun _ => preserves_appendAuditOnce fun _ h => h

lemma keepsStatus_insertRiskEventOnce (row : RiskEventRow) :
    KeepsStatus (insertRiskEventOnce row) :=
  fun _ => preserves_insertRiskEventOnce fun _ _ h => h

lemma keepsStatus_insertRiskEvent (row : RiskEventRow) : KeepsStatus (insertRiskEvent row) := by
  intro status t _ t' ht h
  unfold insertRiskEvent at h
  split_ifs at h
  cases h
  exact ht

lemma keepsStatus_revokeArmLeases (time : DateTime) (reason : String) :
    KeepsStatus (revokeArmLeases time reason) :=
  fun _ => preserves_revokeArmLeases fun _ _ h => h

end RuntimeTables

/-- The stored status of the process. -/
def Stores {B : Type} (status : RuntimeStatus) (w : RuntimeProcess B) : Prop :=
  w.tables.status = status

section Completed

open Runtime RuntimeTables

variable {B α : Type} {status : RuntimeStatus}

lemma stores_call {port : B → Except Failure α × B} :
    Achieves (Stores status) (call port) fun _ => Stores status :=
  triple_call (fun _ _ _ _ hw => hw) fun _ _ _ _ _ => trivial

lemma stores_inTransaction {x : RuntimeTxn α} (hx : KeepsStatus x) :
    Achieves (Stores (B := B) status) (inTransaction x) fun _ => Stores status :=
  triple_inTransaction (fun w a t ht hw => hx status w.tables a t hw ht) fun _ _ _ _ => trivial

variable {p : RuntimePorts B} {mode : Mode} {target : RuntimeState} {reason : String}
  {blockers : Finset String} {time : Runtime B DateTime}

lemma stores_saveIf {c : Prop} [Decidable c]
    (htime : Achieves (Stores status) time fun _ => Stores status) :
    Achieves (Stores status)
      (if c then saveTransition p mode status target reason blockers time else pure status)
      fun current => Stores current := by
  by_cases hc : c
  · rw [if_pos hc]
    exact triple_post (achieves_saveTransition htime) (fun _ _ h => h.2)
  · rw [if_neg hc]
    exact triple_pure fun w hw => hw

lemma stores_saveLast (htime : Achieves (Stores status) time fun _ => Stores status) :
    Achieves (Stores status)
      (if True then saveTransition p mode status target reason blockers time else pure status)
      fun current w => current.state = target ∧ Stores current w := by
  rw [if_pos trivial]
  exact achieves_saveTransition htime

end Completed

lemma RuntimeControl.achieves_halt {B : Type} {p : ExecutorPorts B} {config : ExecutorConfig}
    {identity : ControlIdentity} {reasonSha256 : Option String} :
    Achieves (fun _ : RuntimeProcess B => True)
      (RuntimeControl.halt p config identity reasonSha256)
      fun _ w => w.tables.status.state = .halted := by
  refine triple_bind achieves_true fun time => triple_bind achieves_true fun revoked => ?_
  refine triple_bind (Q := fun current => Stores current) ?_ fun current => ?_
  · refine triple_bind achieves_true fun _ => triple_bind achieves_true fun _ => ?_
    refine triple_get_same fun s _ => ?_
    refine Runtime.triple_raising (fun w current hcurrent hw => ?_) fun _ _ _ _ => trivial
    unfold Runtime.readRuntime at hcurrent
    split_ifs at hcurrent
    cases hcurrent
    rw [hw]
    rfl
  · refine triple_bind (Q := fun current w => current.state = .halted ∧ Stores current w) ?_
      fun current => triple_assume fun hhalted => ?_
    · exact triple_bind (stores_saveIf stores_call) fun second =>
        triple_bind (stores_saveIf stores_call) fun third => stores_saveLast stores_call
    · refine triple_bind (triple_bind
        (stores_inTransaction (RuntimeTables.keepsStatus_insertRiskEventOnce _)) fun _ =>
        stores_inTransaction (RuntimeTables.keepsStatus_appendAuditOnce _)) fun _ => ?_
      exact triple_pure fun w hw => by rw [hw, hhalted]

lemma OperatorCommands.achieves_halt {B : Type} {p : OperatorPorts B} {config : OperatorConfig}
    {reason : Option String} :
    Achieves (fun _ : RuntimeProcess B => True) (OperatorCommands.halt p config reason)
      fun _ w => w.tables.status.state = .halted := by
  refine triple_bind achieves_true fun time => ?_
  refine triple_bind (Q := fun stored => Stores stored.2) ?_ fun stored => ?_
  · refine triple_bind achieves_true fun _ => triple_get_same fun s _ => ?_
    have hread : Stores (s.tables.runtimeFromRow config.fallbackMode).2 s := by
      unfold Stores RuntimeTables.runtimeFromRow RuntimeTables.status
      cases s.tables.runtimeState <;> rfl
    exact triple_at hread (triple_bind stores_call fun _ => triple_pure fun w hw => hw)
  · refine triple_bind
      (stores_inTransaction (RuntimeTables.keepsStatus_revokeArmLeases _ _)) fun _ => ?_
    refine triple_bind (Q := fun current w => current.state = .halted ∧ Stores current w) ?_
      fun current => triple_assume fun hhalted => ?_
    · exact triple_bind (stores_saveIf (triple_pure fun _ hw => hw)) fun second =>
        triple_bind (stores_saveIf (triple_pure fun _ hw => hw)) fun third =>
          stores_saveLast (triple_pure fun _ hw => hw)
    · refine triple_bind (Q := fun _ => Stores current)
        (triple_bind stores_call fun _ => triple_pure fun _ hw => hw) fun id => ?_
      refine triple_bind (stores_inTransaction fun status => Txn.preserves_bind
        (RuntimeTables.keepsStatus_insertRiskEvent _ status) fun _ =>
        RuntimeTables.keepsStatus_appendAudit _ status) fun _ => ?_
      exact triple_pure fun w hw => by rw [hw, hhalted]

/-! ## Runs -/

namespace KillSwitchSystem

open Runtime RuntimeTables

variable {B α : Type} {events executions : ℕ}

/-- Quiet tables, and no further execution of orders. -/
def Resting (events executions : ℕ) (w : RuntimeProcess B) : Prop :=
  Quiet events w.tables ∧ w.executions = executions

variable {x : Runtime B α} {w : RuntimeProcess B}

/-- What holds whatever the copy of the hooks is. -/
lemma resting_of_tables {Q : α → RuntimeProcess B → Prop}
    (hx : ∀ frame, Triple (OnTables (Quiet events) frame) x Q (OnTables (Quiet events) frame)) :
    Triple (Resting events executions) x Q (Resting events executions) := by
  intro w hw
  exact triple_error (hx (w.cached, w.executions))
    (fun _ hu => ⟨hu.1, (congrArg Prod.snd hu.2).trans hw.2⟩) w ⟨hw.1, rfl⟩

lemma resting_of_keeps (hx : ∀ frame, Keeps (OnTables (Quiet events) frame) x) :
    Keeps (Resting events executions) x := by
  intro w hw
  exact triple_imp (hx (w.cached, w.executions)) (fun _ h => h)
    (fun _ _ hu => ⟨hu.1, (congrArg Prod.snd hu.2).trans hw.2⟩)
    (fun _ hu => ⟨hu.1, (congrArg Prod.snd hu.2).trans hw.2⟩) w ⟨hw.1, rfl⟩

/-- On a copy that is not what is stored. -/
lemma resting_of_stale
    (hx : Keeps (OnTables (Stale (Quiet events) w.cached) (w.cached, w.executions)) x)
    (hw : Resting events executions w) (hstale : w.cached ≠ w.tables.status) :
    Triple (fun u => u = w) x (fun _ => Resting events executions) (Resting events executions) :=
  triple_at (P := OnTables (Stale (Quiet events) w.cached) (w.cached, w.executions))
    ⟨⟨hw.1, hstale⟩, rfl⟩ (triple_imp hx (fun _ h => h)
      (fun _ _ hu => ⟨hu.1.1, (congrArg Prod.snd hu.2).trans hw.2⟩)
      fun _ hu => ⟨hu.1.1, (congrArg Prod.snd hu.2).trans hw.2⟩)

variable {p : HooksPorts B} {mode : Mode}

lemma resting_hooksTransition {target : RuntimeState}
    {reason : String} {blockers : Finset String} (htarget : target.writable = false) :
    Keeps (Resting events executions)
      (ProductionHooks.transition p mode target reason blockers) :=
  keeps_get_bind fun _ _ => keeps_bind (resting_of_keeps fun _ =>
    keeps_saveTransition (fun _ _ h _ => quiet_saveRuntime (h.state ▸ htarget)) keeps_call) fun _ =>
      keeps_modify fun _ hw => hw

lemma resting_hooksHalt {reasonCode : String} :
    Keeps (Resting events executions) (ProductionHooks.halt p mode reasonCode) := by
  refine keeps_get_bind fun _ _ => keeps_ite keeps_pure ?_
  refine keeps_bind (keeps_bind ?_ fun _ => resting_hooksTransition rfl) fun _ => ?_
  · exact keeps_get_bind fun _ _ => keeps_ite (resting_hooksTransition rfl) keeps_pure
  · exact resting_of_keeps fun _ => keeps_bind keeps_call fun _ => keeps_bind keeps_call fun _ =>
      keeps_inTransaction (quiet_appendAuditOnce fun _ _ _ h => by cases h)

lemma resting_load :
    Keeps (Resting events executions) (ProductionHooks.load p mode) :=
  keeps_bind (resting_of_keeps fun _ => keeps_call) fun _ =>
    keeps_bind (resting_of_keeps fun _ => keeps_loadRuntime) fun _ => keeps_modify fun _ hw => hw

lemma resting_perform {p : ExecutorPorts B} {config : ExecutorConfig} {command : ControlCommand}
    {identity : ControlIdentity} {reasonSha256 : Option String} :
    Keeps (Resting events executions)
      (RuntimeControl.perform p config command identity reasonSha256) :=
  resting_of_keeps fun _ =>
    triple_post (RuntimeControl.triple_perform (controlStable_quiet events))
      (fun _ _ h => h.1)

lemma resting_startup (hw : Resting events executions w)
    (hrespects : (KillSwitchCall.startup p mode).Respects w) :
    Triple (fun u => u = w) (ProductionHooks.startup p mode) (fun _ => Resting events executions)
      (Resting events executions) := by
  by_cases hstale : w.cached ≠ w.tables.status
  · exact resting_of_stale ProductionHooks.stale_keeps_startup hw hstale
  · have hrefused : w.cached.state = .halted ∨ w.cached.state = .stopping := by
      rcases hrespects with h | h | h
      · exact .inl h
      · exact .inr h
      · exact absurd h hstale
    refine triple_imp (P := OnTables (Quiet events) (w.cached, w.executions))
      (Q := fun _ _ => False)
      (E := OnTables (Quiet events) (w.cached, w.executions)) ?_ ?_ (fun _ _ h => h.elim) ?_
    · refine triple_bind keeps_call fun _ => triple_get_bind fun s hs => ?_
      have hcached : s.cached = w.cached := congrArg Prod.fst hs.2
      rw [← hcached] at hrefused
      unfold refuse
      rw [if_pos hrefused]
      exact triple_bind (Q := fun _ _ => False) (triple_throw fun _ h => h) fun _ _ h => h.elim
    · rintro u rfl
      exact ⟨hw.1, rfl⟩
    · exact fun _ hu => ⟨hu.1, (congrArg Prod.snd hu.2).trans hw.2⟩

/-- A cycle starts from READY, which is not what is stored. -/
lemma resting_cycle {time : DateTime} :
    Keeps (Resting events executions) (ProductionHooks.cycle p mode time) := by
  intro w hw
  by_cases hready : w.cached.state = .ready
  · have hstale : w.cached ≠ w.tables.status := by
      intro hsame
      have hstored := hw.1.stored
      rw [← hsame, hready] at hstored
      cases hstored
    exact resting_of_stale ProductionHooks.stale_keeps_cycle hw hstale w rfl
  · unfold ProductionHooks.cycle
    rw [get_bind_apply, bind_apply]
    unfold refuse
    rw [if_pos hready]
    exact hw

/-- A call that respects the kill switch leaves the system at rest, unless it is a resume that
returns. -/
lemma resting_call (call : KillSwitchCall B) (hw : Resting events executions w)
    (hrespects : call.Respects w) :
    Triple (fun u => u = w) call.perform
      (fun _ u => call.resets = false → Resting events executions u)
      (Resting events executions) := by
  have hkeeps : ∀ {α : Type} {x : Runtime B α}, Keeps (Resting events executions) x →
      Triple (fun u => u = w) (do let _ ← x) (fun _ u => call.resets = false →
        Resting events executions u) (Resting events executions) :=
    fun hx => triple_bind (triple_at hw hx) fun _ => triple_pure fun _ hu _ => hu
  cases call with
  | operatorHalt p config reason =>
    exact hkeeps (resting_of_keeps fun _ => OperatorCommands.quiet_halt)
  | operatorDisarm p config reason =>
    exact hkeeps (resting_of_keeps fun _ => OperatorCommands.quiet_disarm)
  | operatorReconcile p config =>
    have hreconcile := @OperatorCommands.quiet_reconcile B p config events
      (w.cached, w.executions) w.tables hw.1 hrespects
    refine triple_bind (Q := fun _ => Resting events executions) ?_
      fun _ => triple_pure fun _ hu _ => hu
    refine triple_imp hreconcile ?_ ?_ ?_
    · rintro u rfl
      exact ⟨rfl, rfl⟩
    · exact fun _ _ hu => ⟨hu.1, (congrArg Prod.snd hu.2).trans hw.2⟩
    · exact fun _ hu => ⟨hu.1, (congrArg Prod.snd hu.2).trans hw.2⟩
  | operatorResume p config =>
    refine triple_bind (triple_at hw (resting_of_tables fun _ => OperatorCommands.quiet_resume))
      fun _ => triple_pure fun _ _ hresets => ?_
    cases hresets
  | control p config request =>
    exact hkeeps (keeps_bind (resting_of_keeps fun _ => keeps_call) fun _ => resting_perform)
  | internalStop p config source =>
    exact hkeeps (keeps_ite resting_perform keeps_throw)
  | finalizeStop p config =>
    refine hkeeps (resting_of_keeps fun _ => keeps_bind keeps_call fun _ => ?_)
    refine keeps_bind RuntimeControl.keeps_load fun _ => ?_
    refine keeps_bind (RuntimeControl.keeps_transitionIf (controlStable_quiet events) rfl)
      fun _ => ?_
    exact keeps_bind (keeps_modify fun _ hu => hu) fun _ => keeps_pure
  | startup p mode =>
    exact triple_bind (resting_startup hw hrespects) fun _ => triple_pure fun _ hu _ => hu
  | cycle p mode time => exact hkeeps resting_cycle
  | halt p mode reasonCode =>
    exact triple_post (triple_at hw resting_hooksHalt) (fun _ _ h _ => h)
  | restart p mode =>
    exact triple_post (triple_at hw (keeps_bind (keeps_modify fun _ hu => hu) fun _ =>
      resting_load)) (fun _ _ h _ => h)

lemma halted_of_trips {call : KillSwitchCall B} (htrips : call.trips = true)
    {w' : RuntimeProcess B} (hcall : call.perform w = .ok ⟨⟩ w') :
    w'.tables.status.state = .halted := by
  cases call with
  | operatorHalt p config reason =>
    have hhalt : Achieves (fun _ : RuntimeProcess B => True)
        (KillSwitchCall.operatorHalt p config reason).perform
        fun _ u => u.tables.status.state = .halted :=
      triple_bind OperatorCommands.achieves_halt fun _ => triple_pure fun _ hu => hu
    exact hhalt.ok hcall trivial
  | control p config request =>
    have hcommand : request.command = .halt := of_decide_eq_true htrips
    have hhalt : Achieves (fun _ : RuntimeProcess B => True)
        (KillSwitchCall.control p config request).perform
        fun _ u => u.tables.status.state = .halted := by
      refine triple_bind (triple_bind achieves_true fun _ => ?_) fun _ => triple_pure fun _ hu => hu
      rw [hcommand]
      exact RuntimeControl.achieves_halt
    exact hhalt.ok hcall trivial
  | _ => cases htrips

/-- Since the HALT that is remembered, the system has been at rest. -/
def Held (s : KillSwitchSystem B) : Prop :=
  ∀ trip, s.trip = some trip → Resting trip.events trip.executions s.process

variable {s : KillSwitchSystem B}

lemma Held.sticky (h : s.Held) : s.Sticky := by
  intro trip htrip
  obtain ⟨hquiet, hexecutions⟩ := h trip htrip
  refine ⟨fun hwritable => ?_, fun mode status time hrow hwritable => ?_, hexecutions⟩
  · rw [hquiet.stored] at hwritable
    cases hwritable
  · rw [hquiet.rows mode status time hrow] at hwritable
    cases hwritable

lemma Held.next {s' : KillSwitchSystem B} (h : s.Held) (hstep : Step s s') : s'.Held := by
  obtain ⟨call, hrespects⟩ := hstep
  have hkept : ∀ trip, s.trip = some trip → Triple (fun u => u = s.process) call.perform
      (fun _ u => call.resets = false → Resting trip.events trip.executions u)
      (Resting trip.events trip.executions) :=
    fun trip htrip => resting_call call (h trip htrip) (hrespects (by simp [htrip]))
  intro trip htrip
  unfold KillSwitchSystem.next at htrip ⊢
  cases hcall : call.perform s.process with
  | ok u process =>
    rw [hcall] at htrip
    simp only [tripAfter] at htrip
    split_ifs at htrip with hresets htrips
    · cases hbefore : s.trip with
      | none =>
        rw [hbefore] at htrip
        cases htrip
        refine ⟨⟨?_, ?_⟩, rfl⟩
        · rw [halted_of_trips htrips hcall]
          rfl
        · intro mode status time hrow
          change _ ∈ process.tables.auditEvents.drop process.tables.auditEvents.length at hrow
          rw [List.drop_length] at hrow
          cases hrow
      | some earlier =>
        rw [hbefore] at htrip
        cases htrip
        exact (hkept earlier hbefore).ok hcall rfl (by simpa using hresets)
    · exact (hkept _ htrip).ok hcall rfl (by simpa using hresets)
  | error failure process =>
    rw [hcall] at htrip
    have hraised := hkept _ htrip s.process rfl
    rw [hcall] at hraised
    exact hraised

/-- If no startup and no operator's reconciliation bypasses the kill switch, it is sticky. -/
theorem kill_switch_sticky {s₀ s : KillSwitchSystem B} (hstart : s₀.trip = none)
    (hrun : Relation.ReflTransGen Step s₀ s) : s.Sticky := by
  have hheld : s.Held := by
    induction hrun with
    | refl =>
      intro trip htrip
      rw [hstart] at htrip
      cases htrip
    | tail _ hstep ih => exact ih.next hstep
  exact hheld.sticky

namespace Sample

/-- Hooks of which recovery and reconciliation pass. -/
def hooks : HooksPorts DateTime where
  clock b := (b, b + 1)
  assertCurrent b := (.ok ⟨⟩, b)
  recover b := (.ok ⟨false, ∅⟩, b)
  latestIncompleteSession b := (.ok none, b)
  closeSession _ b := (.ok (0, 0), b)
  prepare b := (.ok ⟨⟩, b)
  reconcileStartup b := (.ok "receipt", b)
  tradingDay _ b := (.ok .trading, b)
  marketStatus b := (.ok .open, b)
  executionDeadlines _ b := (.ok true, b)
  execute _ b := (.ok (.executed 1), b)
  postClose _ := false
  appendEvent b := (.ok none, b)
  heartbeatFacts b := (.ok ⟨⟩, b)

/-- A live session, before any HALT. -/
def start : KillSwitchSystem DateTime := ⟨RuntimeControl.Sample.process, none⟩

/-- A control of the session. -/
def control (command : ControlCommand) : KillSwitchCall DateTime :=
  .control RuntimeControl.Sample.ports ⟨.live, 1, true⟩ (RuntimeControl.Sample.request command)

def restart : KillSwitchCall DateTime := .restart hooks .live

def startup : KillSwitchCall DateTime := .startup hooks .live

/-- After a HALT and a restart. -/
def halted : KillSwitchSystem DateTime := (start.next (control .halt)).next restart

/-- After a HALT, a DISARM, a restart and a startup. -/
def disarmed : KillSwitchSystem DateTime :=
  (((start.next (control .halt)).next (control .disarm)).next restart).next startup

end Sample

/-- A startup of the halted session is refused. -/
theorem halt_survives_restart : (Sample.halted.next Sample.startup).Sticky := by
  have hhalted : Sample.halted.process.cached.state = .halted := by decide
  have hrun : Relation.ReflTransGen Step Sample.start (Sample.halted.next Sample.startup) :=
    ((Relation.ReflTransGen.single ⟨Sample.control .halt, fun _ => trivial⟩).tail
      ⟨Sample.restart, fun _ => trivial⟩).tail ⟨Sample.startup, fun _ => .inl hhalted⟩
  exact kill_switch_sticky rfl hrun

/-- After a DISARM the kill switch is still among the blockers of the stored status, but a startup
replaces them and leads to READY. -/
theorem startup_clears_kill_switch :
    Sample.disarmed.trip ≠ none ∧ Sample.disarmed.process.tables.status.state = .ready ∧
    ¬ Sample.disarmed.Sticky := by
  have htrip : ∃ trip, Sample.disarmed.trip = some trip :=
    Option.isSome_iff_exists.mp (by decide)
  have hready : Sample.disarmed.process.tables.status.state = .ready := by decide
  have hclear : ¬ Blocked Sample.disarmed.process.tables.status := by decide
  obtain ⟨trip, htrip⟩ := htrip
  refine ⟨by simp [htrip], hready, fun hsticky => ?_⟩
  exact hclear (hsticky trip htrip).1

end KillSwitchSystem

end FirmQuant
