import FirmQuant.Application.RuntimeRules

/-!
# Risk-reducing controls succeed

HALT, DISARM and STOP go through from every status that legal transitions lead to, by a chain of
legal transitions of which each is audited once.  They revoke every arm lease and end in a state in
which nothing can be written to the broker.
-/

namespace FirmQuant

open Effect

namespace RuntimeControl

open Runtime RuntimeTables RuntimeStatus

variable {B : Type} {p : ExecutorPorts B} {config : ExecutorConfig}
  {origin status : RuntimeStatus}

/-! ## Chains of transitions -/

lemma canonical_kept (status : RuntimeStatus) :
    ∀ blocker ∈ keptKillSwitch status, canonicalText blocker = true := by
  intro blocker hblocker
  unfold keptKillSwitch at hblocker
  split_ifs at hblocker with hmem
  · obtain rfl := Finset.mem_singleton.mp hblocker
    exact status.blockers_canonical _ hmem
  · simp at hblocker

lemma canonical_tripped (status : RuntimeStatus) :
    ∀ blocker ∈ insert killSwitch status.blockers, canonicalText blocker = true := by
  intro blocker hblocker
  rcases Finset.mem_insert.mp hblocker with rfl | hmem
  · decide
  · exact status.blockers_canonical _ hmem

lemma canonical_empty : ∀ blocker ∈ (∅ : Finset String), canonicalText blocker = true := by
  simp

variable (hheld : Held p.toRuntimePorts)

include hheld

variable {reason : String} {blockers : Finset String}

/-- A transition that is made under a condition, and is legal then. -/
lemma succeeds_transitionIf {c : Prop} [Decidable c] {target : RuntimeState}
    (hlegal : c → target = status.state ∨ target ∈ runtimeTransitions status.state)
    (hreason : canonicalText reason = true)
    (hblockers : ∀ blocker ∈ blockers, canonicalText blocker = true) :
    Succeeds (Settled config.mode origin status)
      (transitionIf p config c status target reason blockers)
      fun current w => Settled config.mode origin current w ∧
        (c → current.state = target) ∧ (¬ c → current = status) := by
  unfold transitionIf
  by_cases hc : c
  · rw [if_pos hc]
    refine triple_post (succeeds_saveTransition hheld
      (succeeds_now fun w b hw => hw.outside b) (hlegal hc) hreason hblockers)
        (fun current w hw => ⟨hw.1, fun _ => hw.2.state, absurd hc⟩)
  · rw [if_neg hc]
    exact triple_pure fun w hw => ⟨hw, fun h => absurd h hc, fun _ => rfl⟩

/-- A transition that leaves a state. -/
lemma succeeds_leave {left target : RuntimeState}
    (hlegal : target ∈ runtimeTransitions left) (hreason : canonicalText reason = true)
    (hblockers : ∀ blocker ∈ blockers, canonicalText blocker = true) :
    Succeeds (Settled config.mode origin status)
      (transitionIf p config (status.state = left) status target reason blockers)
      fun current w => Settled config.mode origin current w ∧
        (current.state = target ∨ current = status ∧ status.state ≠ left) := by
  refine triple_post (succeeds_transitionIf hheld (fun h => .inr (h ▸ hlegal)) hreason hblockers)
    fun current w hw => ⟨hw.1, ?_⟩
  by_cases hleft : status.state = left
  · exact .inl (hw.2.1 hleft)
  · exact .inr ⟨hw.2.2 hleft, hleft⟩

/-- A transition to a state, where the status is not in it. -/
lemma succeeds_reach {target : RuntimeState}
    (hlegal : status.state ≠ target → target ∈ runtimeTransitions status.state)
    (hreason : canonicalText reason = true)
    (hblockers : ∀ blocker ∈ blockers, canonicalText blocker = true) :
    Succeeds (Settled config.mode origin status)
      (transitionIf p config (status.state ≠ target) status target reason blockers)
      fun current w => Settled config.mode origin current w ∧ current.state = target := by
  refine triple_post (succeeds_transitionIf hheld (fun h => .inr (hlegal h)) hreason hblockers)
    fun current w hw => ⟨hw.1, ?_⟩
  by_cases htarget : status.state = target
  · rw [hw.2.2 (not_not.mpr htarget)]
    exact htarget
  · exact hw.2.1 htarget

/-- The chain of a HALT is legal from every state. -/
lemma succeeds_haltTransitions :
    Succeeds (Settled config.mode origin status) (haltTransitions p config status)
      fun current w => Settled config.mode origin current w ∧ current.state = .halted := by
  unfold haltTransitions
  refine triple_bind (succeeds_leave hheld (by decide) (by decide) canonical_empty)
    fun second => triple_assume_right fun hsecond => ?_
  refine triple_bind (succeeds_leave hheld (by decide) (by decide) canonical_empty)
    fun third => triple_assume_right fun hthird => ?_
  have hlegal : RuntimeState.halted = third.state ∨ .halted ∈ runtimeTransitions third.state := by
    rcases hthird with hthird | ⟨rfl, hthird⟩
    · rw [hthird]
      decide
    · rcases hsecond with hsecond | ⟨rfl, hsecond⟩
      · exact absurd hsecond hthird
      · cases h : third.state <;> simp_all [runtimeTransitions]
  exact triple_post (succeeds_transitionIf (c := True) hheld (fun _ => hlegal) (by decide)
    (canonical_tripped third)) fun current w hw => ⟨hw.1, hw.2.1 trivial⟩

/-- The chain of a DISARM is legal from every state. -/
lemma succeeds_disarmTransitions :
    Succeeds (Settled config.mode origin status) (disarmTransitions p config status)
      fun current w => Settled config.mode origin current w ∧ current.state = .disarmed := by
  unfold disarmTransitions
  by_cases hdisarmed : status.state = .disarmed
  · rw [if_pos hdisarmed]
    exact triple_pure fun w hw => ⟨hw, hdisarmed⟩
  · rw [if_neg hdisarmed]
    have hlegal : status.state ≠ .stopping → .stopping ∈ runtimeTransitions status.state := by
      intro hstopping
      cases h : status.state <;> simp_all [runtimeTransitions]
    refine triple_bind (succeeds_reach hheld hlegal (by decide) status.blockers_canonical)
      fun second => triple_assume_right fun hsecond => ?_
    exact triple_post (succeeds_transitionIf (c := True) hheld
      (fun _ => .inr (by simp [hsecond, runtimeTransitions])) (by decide) (canonical_kept second))
      fun current w hw => ⟨hw.1, hw.2.1 trivial⟩

/-- The chain of a STOP is legal from every state. -/
lemma succeeds_stopTransitions :
    Succeeds (Settled config.mode origin status) (stopTransitions p config status)
      fun current w => Settled config.mode origin current w ∧ current.state = .stopping := by
  unfold stopTransitions
  refine triple_bind (succeeds_leave hheld (by decide) (by decide) canonical_empty)
    fun second => triple_assume_right fun hsecond => ?_
  refine succeeds_reach hheld (fun hstopping => ?_) (by decide) second.blockers_canonical
  rcases hsecond with hsecond | ⟨rfl, hsecond⟩
  · rw [hsecond]
    decide
  · cases h : second.state <;> simp_all [runtimeTransitions]

/-! ## Whole controls -/

/-- The tables before a control. -/
def Before (mode : Mode) (origin : RuntimeStatus) (w : RuntimeProcess B) : Prop :=
  Audited mode w.tables ∧ w.tables.status = origin

lemma succeeds_revokeArm (time : DateTime) (reason : String) :
    Succeeds (Before config.mode origin) (revokeArm p time reason)
      fun _ => Settled config.mode origin origin := by
  unfold revokeArm
  refine triple_bind (succeeds_assertCurrent hheld fun w b hw => hw) fun _ => ?_
  refine triple_inTransaction (fun w count t ht hw => ?_) fun w failure hfailure hw => ?_
  · cases ht
    refine ⟨?_, unrevoked_revoke time reason w.tables, hw.2, .inl rfl⟩
    exact hw.1.of_same rfl rfl
  · cases hfailure

lemma succeeds_load :
    Succeeds (Settled config.mode origin status) (load p config)
      fun result w => result = status ∧ Settled config.mode origin status w :=
  triple_bind (succeeds_assertCurrent hheld fun w b hw => hw.outside b) fun _ =>
    succeeds_loadRuntime hheld

omit hheld

lemma unrelated_control (command : ControlCommand) (identity : ControlIdentity)
    (payload : RuntimeAuditPayload) (time : DateTime) :
    Unrelated (controlRow command identity payload time) := by
  constructor <;> intro mode revision h <;> cases h

lemma succeeds_appendAuditOnce {row : RuntimeAuditRow} (hrow : Unrelated row) :
    Succeeds (Settled config.mode origin status)
      (inTransaction (appendAuditOnce row) : Runtime B PUnit)
      fun _ => Settled config.mode origin status := by
  refine triple_inTransaction (fun w u t ht hw => ?_) fun w failure hfailure _ => ?_
  · rcases appendAuditOnce_eq row w.tables with h | h <;> rw [h] at ht <;> cases ht
    · exact ⟨hw.audited, hw.unrevoked, hw.stored, hw.advanced⟩
    · exact ⟨hw.audited.of_append rfl rfl (by simpa using hrow), hw.unrevoked, hw.stored,
        hw.advanced⟩
  · rcases appendAuditOnce_eq row w.tables with h | h <;> rw [h] at hfailure <;> cases hfailure

lemma keeps_stopPending {x : RuntimeTxn PUnit} (stopPending : Bool) :
    Keeps (fun w : RuntimeProcess B => w.stopPending = stopPending) (inTransaction x) :=
  triple_inTransaction (fun _ _ _ _ hw => hw) fun _ _ _ hw => hw

lemma succeeds_insertRiskEventOnce {row : RiskEventRow} :
    Succeeds (Settled config.mode origin status)
      (inTransaction (insertRiskEventOnce row) : Runtime B PUnit)
      fun _ => Settled config.mode origin status := by
  refine triple_inTransaction (fun w u t ht hw => ?_) fun w failure hfailure _ => ?_
  · unfold insertRiskEventOnce at ht
    split_ifs at ht <;> cases ht <;>
      exact ⟨hw.audited.of_same rfl rfl, hw.unrevoked, hw.stored, hw.advanced⟩
  · unfold insertRiskEventOnce at hfailure
    split_ifs at hfailure

/-- What holds after a control that came to an end. -/
def Reduced (mode : Mode) (origin : RuntimeStatus) (w : RuntimeProcess B) : Prop :=
  ∃ status, Settled mode origin status w ∧ status.state.writable = false

/-- The leases are revoked and the status is read before a control makes its transitions. -/
lemma succeeds_begun {α : Type} (hheld : Held p.toRuntimePorts)
    {x : DateTime → ℕ → RuntimeStatus → Runtime B α} {Q : α → RuntimeProcess B → Prop}
    (h : ∀ time revoked, Succeeds (Settled config.mode origin origin) (x time revoked origin) Q) :
    Succeeds (Before config.mode origin) (do
      let time ← now p.toRuntimePorts
      let revoked ← revokeArm p time reason
      let status ← load p config
      x time revoked status) Q := by
  refine triple_bind (succeeds_now fun w b hw => hw) fun time => ?_
  refine triple_bind (succeeds_revokeArm hheld time _) fun revoked => ?_
  refine triple_bind (succeeds_load hheld) fun status => triple_assume fun hstatus => ?_
  subst hstatus
  exact h time revoked

lemma succeeds_halt (hheld : Held p.toRuntimePorts) (identity : ControlIdentity)
    (reasonSha256 : Option String) :
    Succeeds (Before config.mode origin) (halt p config identity reasonSha256)
      fun _ => Reduced config.mode origin := by
  refine succeeds_begun hheld fun time revoked => ?_
  refine triple_bind (succeeds_haltTransitions hheld)
    fun current => triple_assume_right fun hcurrent => ?_
  refine triple_bind (triple_bind succeeds_insertRiskEventOnce fun _ =>
    succeeds_appendAuditOnce (unrelated_control ..)) fun _ => ?_
  exact triple_pure fun w hw => ⟨current, hw, by rw [hcurrent]; rfl⟩

lemma succeeds_disarm (hheld : Held p.toRuntimePorts) (identity : ControlIdentity)
    (reasonSha256 : Option String) :
    Succeeds (Before config.mode origin) (disarm p config identity reasonSha256)
      fun _ => Reduced config.mode origin := by
  refine succeeds_begun hheld fun time revoked => ?_
  refine triple_bind (succeeds_disarmTransitions hheld)
    fun current => triple_assume_right fun hcurrent => ?_
  refine triple_bind (succeeds_appendAuditOnce (unrelated_control ..)) fun _ => ?_
  exact triple_pure fun w hw => ⟨current, hw, by rw [hcurrent]; rfl⟩

lemma succeeds_stop (hheld : Held p.toRuntimePorts) (identity : ControlIdentity)
    (reasonSha256 : Option String) :
    Succeeds (Before config.mode origin) (stop p config identity reasonSha256)
      fun execution w => execution.stop = true ∧ w.stopPending = true ∧
        ∃ status, Settled config.mode origin status w ∧ status.state = .stopping := by
  refine succeeds_begun hheld fun time revoked => ?_
  refine triple_bind (succeeds_stopTransitions hheld)
    fun current => triple_assume_right fun hcurrent => ?_
  refine triple_bind (Q := fun _ w => Settled config.mode origin current w ∧ w.stopPending = true)
    (triple_modify fun w hw => ⟨⟨hw.audited, hw.unrevoked, hw.stored, hw.advanced⟩, rfl⟩)
    fun _ => ?_
  refine triple_bind (Q := fun _ w => Settled config.mode origin current w ∧ w.stopPending = true)
    ?_ fun _ => triple_pure fun w hw => ⟨rfl, hw.2, current, hw.1, hcurrent⟩
  exact triple_error (triple_and (succeeds_appendAuditOnce (unrelated_control ..))
    (keeps_stopPending true)) fun _ h => h.1

/-- HALT, DISARM and STOP return from every status that legal transitions lead to.  The revision
grows or the status is the same, no arm lease and no writable state is left, and each revision has
exactly one audit event. -/
theorem control_succeeds {mode : Mode} {generation : ℕ} {hasBroker : Bool}
    (hheld : Held p.toRuntimePorts) {w : RuntimeProcess B}
    (hreached : RuntimeTables.Reached mode w.tables)
    (request : ControlRequest) (hcommand : request.command ≠ .cancelSystemOrders) :
    ∃ execution w', execute p ⟨mode, generation, hasBroker⟩ request w = .ok execution w' ∧
      (w'.tables.status = w.tables.status ∨
        w.tables.status.revision < w'.tables.status.revision) ∧
      w'.tables.status.state.writable = false ∧
      w'.tables.unrevoked = [] ∧
      Audited mode w'.tables := by
  have hperform : Succeeds (Before mode w.tables.status)
      (perform p ⟨mode, generation, hasBroker⟩ request.command (.request request.requestId)
        request.reasonSha256) fun _ => Reduced mode w.tables.status := by
    unfold perform
    cases hrequest : request.command with
    | halt => exact @succeeds_halt B p ⟨mode, generation, hasBroker⟩ _ hheld _ _
    | disarm => exact @succeeds_disarm B p ⟨mode, generation, hasBroker⟩ _ hheld _ _
    | cancelSystemOrders => exact absurd hrequest hcommand
    | stop =>
      refine triple_post (@succeeds_stop B p ⟨mode, generation, hasBroker⟩ _ hheld _ _)
        (fun _ w hw => ?_)
      obtain ⟨-, -, status, hsettled, hstopping⟩ := hw
      exact ⟨status, hsettled, by rw [hstopping]; rfl⟩
  have hexecute : Succeeds (Before mode w.tables.status)
      (execute p ⟨mode, generation, hasBroker⟩ request) fun _ => Reduced mode w.tables.status := by
    unfold execute
    exact triple_bind (succeeds_assertCurrent hheld fun w b hw => hw) fun _ => hperform
  obtain ⟨execution, w', hrun, status, hsettled, hwritable⟩ :=
    hexecute.exists_ok ⟨hreached.audited, rfl⟩
  refine ⟨execution, w', hrun, ?_, ?_, hsettled.unrevoked, hsettled.audited⟩
  · rw [hsettled.stored]
    exact hsettled.advanced
  · rw [hsettled.stored]
    exact hwritable

namespace Sample

/-- A clock that ticks at each reading, and a lease that is held. -/
def ports : ExecutorPorts DateTime where
  clock b := (b, b + 1)
  assertCurrent b := (.ok ⟨⟩, b)
  cancelSystemOrders b := (.ok .forbidden, b)

def starting : RuntimeStatus :=
  ⟨.starting, 1, "production runtime starting", ∅, by decide,
    RuntimeStatus.initial.blockers_canonical⟩

def reconciling : RuntimeStatus :=
  ⟨.reconciling, 2, "production startup recovery", ∅, by decide, starting.blockers_canonical⟩

def ready : RuntimeStatus :=
  ⟨.ready, 3, "production startup reconciliation passed", ∅, by decide, starting.blockers_canonical⟩

/-- The tables after a startup, with an arm lease. -/
def tables : RuntimeTables :=
  afterSave .live ready 2 (afterSave .live reconciling 1 (afterSave .live starting 0
    { RuntimeTables.empty with armLeases := [⟨"lease", none, none⟩] }))

lemma reached_tables : RuntimeTables.Reached .live tables := by
  have hstarting : RuntimeStatus.initial.transition .starting starting.reason ∅ = .ok starting := by
    decide
  have hreconciling : starting.transition .reconciling reconciling.reason ∅ = .ok reconciling := by
    decide
  have hready : reconciling.transition .ready ready.reason ∅ = .ok ready := by
    decide
  have hempty : RuntimeTables.Reached .live
      { RuntimeTables.empty with armLeases := [⟨"lease", none, none⟩] } :=
    .unstarted rfl (by simp [RuntimeTables.empty])
  exact ((hempty.next hstarting (by decide)).next hreconciling
    (by decide)).next hready (by decide +kernel)

/-- A process in a live session. -/
def process : RuntimeProcess DateTime := ⟨tables, false, 0, ready, 0, 10⟩

def request (command : ControlCommand) : ControlRequest where
  requestId := ⟨"request"⟩
  command := command
  createdAt := 0
  expiresAt := 100
  hostHash := "host"
  reasonSha256 := none
  expires_after := by decide
  ttl_le := by decide

end Sample

/-- A HALT of a live session. -/
theorem session_halted : ∃ execution w',
    execute Sample.ports ⟨.live, 1, true⟩ (Sample.request .halt) Sample.process =
      .ok execution w' ∧
    (w'.tables.status = Sample.process.tables.status ∨
      Sample.process.tables.status.revision < w'.tables.status.revision) ∧
    w'.tables.status.state.writable = false ∧ w'.tables.unrevoked = [] ∧
    Audited .live w'.tables :=
  control_succeeds (fun b => ⟨b, rfl⟩) Sample.reached_tables (Sample.request .halt) (by decide)

end RuntimeControl

end FirmQuant
