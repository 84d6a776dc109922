import FirmQuant.Application.ProductionHooks

/-!
# The copy of the runtime status

The hooks keep a copy of the stored status and write every transition from the copy.  While nothing
else writes the status the copy stays true, and a halt of the hooks goes through.
-/

namespace FirmQuant

open Effect

/-- An exception that the daemon meets with a halt, rather than pass it on. -/
def Failure.ordinary : Failure → Bool
  | .productionDaemonHalted _ | .writerLeaseLost | .outOfFuel => false
  | _ => true

/-- A port raises such exceptions only. -/
def RaisesOrdinary {B α : Type} (port : B → Except Failure α × B) : Prop :=
  ∀ b failure b', port b = (.error failure, b') → failure.ordinary = true

/-- The ports of the hooks raise exceptions that the daemon meets with a halt, and what they answer
is well formed. -/
structure HooksPorts.Ordinary {B : Type} (p : HooksPorts B) : Prop where
  recover : RaisesOrdinary p.recover
  latestIncompleteSession : RaisesOrdinary p.latestIncompleteSession
  closeSession : ∀ session, RaisesOrdinary (p.closeSession session)
  prepare : RaisesOrdinary p.prepare
  reconcileStartup : RaisesOrdinary p.reconcileStartup
  tradingDay : ∀ time, RaisesOrdinary (p.tradingDay time)
  marketStatus : RaisesOrdinary p.marketStatus
  executionDeadlines : ∀ time, RaisesOrdinary (p.executionDeadlines time)
  execute : ∀ time, RaisesOrdinary (p.execute time)
  appendEvent : RaisesOrdinary p.appendEvent
  heartbeatFacts : RaisesOrdinary p.heartbeatFacts

/-! ## Exceptions of transactions and transitions -/

namespace RuntimeTables

variable {status current : RuntimeStatus} {failure : Failure} {row : RuntimeAuditRow}
  {t : RuntimeTables} {time : DateTime}

variable {target : RuntimeState} {blockers : Finset String}

lemma ordinary_transition {reason : String}
    (h : status.transition target reason blockers = .error failure) : failure.ordinary = true := by
  unfold RuntimeStatus.transition at h
  split_ifs at h <;> cases h <;> rfl

lemma ordinary_appendAudit (h : appendAudit row t = .error failure) : failure.ordinary = true := by
  unfold appendAudit at h
  split at h
  · cases h
  · split_ifs at h
    cases h
    rfl

lemma ordinary_appendAuditOnce (h : appendAuditOnce row t = .error failure) :
    failure.ordinary = true := by
  unfold appendAuditOnce at h
  split_ifs at h
  exact ordinary_appendAudit h

lemma ordinary_saveRuntime {mode : Mode} {previous : RuntimeStatus}
    (h : saveRuntime mode previous current time t = .error failure) : failure.ordinary = true := by
  unfold saveRuntime at h
  rcases Txn.bind_eq_error.mp h with hset | ⟨_, t₁, -, h⟩
  · unfold setRuntime at hset
    split at hset <;> split_ifs at hset <;> cases hset <;> rfl
  · rcases Txn.bind_eq_error.mp h with hrevoke | ⟨_, t₂, -, happend⟩
    · unfold revokeOnHalt auditHaltRevocation at hrevoke
      split_ifs at hrevoke
      · rcases Txn.bind_eq_error.mp hrevoke with hnone | ⟨count, t₂, -, haudit⟩
        · cases hnone
        · split_ifs at haudit
          · cases haudit
          · exact ordinary_appendAudit haudit
      · cases hrevoke
    · exact ordinary_appendAudit happend

lemma Audited.save {mode : Mode} {reason : String}
    {t' : RuntimeTables} {u : PUnit} (h : Audited mode t)
    (hfollows : RuntimeStatus.Follows status current target reason blockers)
    (hne : current ≠ status) (hsave : saveRuntime mode status current time t = .ok (u, t')) :
    Audited mode t' := by
  have hstatus : t.status = status := (saveRuntime_eq_ok hsave).2.1
  have hrevision : current.revision = t.status.revision + 1 := by
    rw [hstatus]
    exact hfollows.ne_revision hne
  rw [← hstatus, saveRuntime_audited h hrevision] at hsave
  cases hsave
  exact h.afterSave hrevision

end RuntimeTables

/-! ## Rules -/

namespace Runtime

open RuntimeTables RuntimeStatus

variable {B α : Type} {p : RuntimePorts B} {mode : Mode}

/-- An exception that the daemon meets with a halt, where an assertion still holds. -/
def Fails (I : RuntimeProcess B → Prop) (failure : Failure) (w : RuntimeProcess B) : Prop :=
  failure.ordinary = true ∧ I w

/-- An assertion that the outside does not matter to. -/
def Internal (I : RuntimeProcess B → Prop) : Prop := ∀ w b, I w → I { w with outside := b }

variable {I : RuntimeProcess B → Prop}

lemma exits_port {port : B → Except Failure α × B} (hI : Internal I) (hport : RaisesOrdinary port) :
    Exits I (call port) (fun _ => I) (Fails I) :=
  exits_call (fun w _ b _ hw => hI w b hw) fun w _ b h hw => ⟨hport _ _ _ h, hI w b hw⟩

lemma exits_assertCurrent (hheld : Held p) (hI : Internal I) :
    Exits I (assertCurrent p) (fun _ => I) (Fails I) := by
  refine exits_port hI fun b failure b' h => ?_
  obtain ⟨b'', hb⟩ := hheld b
  rw [hb] at h
  cases h

lemma exits_now (hI : Internal I) : Exits I (now p) (fun _ => I) (Fails I) :=
  exits_port hI fun _ _ _ h => by cases h

/-- A transition, by what a save of it brings about. -/
lemma exits_saveTransition {status : RuntimeStatus} {target : RuntimeState} {reason : String}
    {blockers : Finset String} {Q : RuntimeStatus → RuntimeProcess B → Prop} (hheld : Held p)
    (hI : Internal I) (hsame : ∀ w, I w → Follows status status target reason blockers → Q status w)
    (hsave : ∀ w current time t u, I w → Follows status current target reason blockers →
      current ≠ status → RuntimeTables.saveRuntime mode status current time w.tables = .ok (u, t) →
      Q current { w with tables := t }) :
    Exits I (saveTransition p mode status target reason blockers (now p)) Q (Fails I) := by
  refine exits_bind (Q := fun current w => Follows status current target reason blockers ∧ I w)
    (exits_raising (fun w current h hw => ⟨follows_of_transition h, hw⟩)
      fun w failure h hw => ⟨ordinary_transition h, hw⟩) fun current => ?_
  refine exits_assume fun hfollows => ?_
  refine exits_bind (Q := fun _ => Q current) ?_ fun _ => exits_pure fun _ hw => hw
  unfold saveIfChanged
  by_cases hne : current = status
  · rw [if_pos hne]
    subst hne
    exact exits_pure fun w hw => hsame w hw hfollows
  · rw [if_neg hne]
    refine exits_bind (exits_now hI) fun time => ?_
    refine exits_bind (exits_assertCurrent hheld hI) fun _ => ?_
    exact exits_inTransaction (fun w u t h hw => hsave w current time t u hw hfollows hne h)
      fun w failure h hw => ⟨ordinary_saveRuntime h, hw⟩

end Runtime

/-! ## A copy that is true -/

namespace ProductionHooks

open Runtime RuntimeTables RuntimeStatus

variable {B α β : Type} {p : HooksPorts B} {mode : Mode}

/-- The copy is what is stored, or both are HALTED; no stop is under way, and what is HALTED has a
blocker. -/
structure Coherent (mode : Mode) (w : RuntimeProcess B) : Prop where
  audited : Audited mode w.tables
  running : w.stopPending = false
  copy : w.cached = w.tables.status ∨
    (w.cached.state = .halted ∧ w.tables.status.state = .halted)
  stopping : w.tables.status.state ≠ .stopping
  blocked : w.tables.status.state = .halted → w.tables.status.blockers ≠ ∅

lemma internal_coherent : Internal (Coherent (B := B) mode) := fun _ _ hw =>
  ⟨hw.audited, hw.running, hw.copy, hw.stopping, hw.blocked⟩

variable {w : RuntimeProcess B} {target : RuntimeState} {reason : String}
  {blockers : Finset String}

lemma Coherent.state_eq (h : Coherent mode w) :
    w.cached.state = w.tables.status.state := by
  rcases h.copy with hcopy | ⟨hcached, hstored⟩
  · rw [hcopy]
  · rw [hcached, hstored]

/-- The program keeps the copy true, and raises only what the daemon meets with a halt. -/
def KeepsCoherent (mode : Mode) (x : Runtime B α) : Prop :=
  Exits (Coherent mode) x (fun _ => Coherent mode) (Fails (Coherent mode))

variable {x : Runtime B α} {failure : Failure} {reasonCode : String}

lemma KeepsCoherent.seq {f : α → Runtime B β} (hx : KeepsCoherent mode x)
    (hf : ∀ a, KeepsCoherent mode (f a)) : KeepsCoherent mode (x >>= f) := exits_bind hx hf

lemma keepsCoherent_pure {a : α} : KeepsCoherent mode (pure a : Runtime B α) :=
  exits_pure fun _ hw => hw

lemma keepsCoherent_throw (h : failure.ordinary = true) :
    KeepsCoherent mode (throw failure : Runtime B α) := exits_throw fun _ hw => ⟨h, hw⟩

lemma keepsCoherent_refuse {c : Prop} [Decidable c] (h : failure.ordinary = true) :
    KeepsCoherent mode (refuse c failure : Runtime B PUnit) :=
  exits_ite (keepsCoherent_throw h) keepsCoherent_pure

lemma keepsCoherent_port {port : B → Except Failure α × B} (h : RaisesOrdinary port) :
    KeepsCoherent mode (call port) := exits_port internal_coherent h

/-- A handler that raises again, or something of its own. -/
lemma KeepsCoherent.guard {handler : Failure → Runtime B α} (hx : KeepsCoherent mode x)
    (hhandler : ∀ failure, failure.ordinary = true → KeepsCoherent mode (handler failure)) :
    KeepsCoherent mode (tryCatch x handler) :=
  exits_tryCatch hx fun failure => exits_assume fun hordinary => hhandler failure hordinary

/-- A saved transition, with the copy that the hooks then take. -/
lemma Coherent.saved {status current : RuntimeStatus} {time : DateTime} {t : RuntimeTables}
    {u : PUnit} (hw : Coherent mode w) (htarget : target ≠ .stopping)
    (hblockers : target = .halted → blockers ≠ ∅)
    (hfollows : Follows status current target reason blockers) (hne : current ≠ status)
    (h : RuntimeTables.saveRuntime mode status current time w.tables = .ok (u, t)) :
    Coherent mode { w with tables := t, cached := current } := by
  have hstatus : t.status = current := (saveRuntime_eq_ok h).2.2.1
  refine ⟨hw.audited.save hfollows hne h, hw.running, .inl hstatus.symm, ?_, ?_⟩
  · change t.status.state ≠ .stopping
    rw [hstatus, hfollows.state]
    exact htarget
  · intro hhalted
    change t.status.state = .halted at hhalted
    change t.status.blockers ≠ ∅
    rw [hstatus] at hhalted ⊢
    rw [hfollows.blockers]
    exact hblockers (hfollows.state.symm.trans hhalted)

variable (hheld : Held p.toRuntimePorts) (htarget : target ≠ .stopping)

include hheld htarget

lemma keepsCoherent_transition (hblockers : target = .halted → blockers ≠ ∅) :
    KeepsCoherent mode (transition p mode target reason blockers) := by
  refine exits_get_same fun s hs => ?_
  have hI : Internal fun w : RuntimeProcess B => Coherent mode w ∧ w.cached = s.cached :=
    fun w b hw => ⟨internal_coherent w b hw.1, hw.2⟩
  refine exits_imp (P := fun w => Coherent mode w ∧ w.cached = s.cached) (E := Fails _)
    (exits_bind (exits_saveTransition
      (Q := fun current w => Coherent mode { w with cached := current }) hheld hI
      (fun w hw _ => ?_) fun w current time t u hw hfollows hne h =>
        hw.1.saved htarget hblockers hfollows hne h)
      fun current => exits_modify fun w hw => hw) ?_ (fun _ _ h => h) fun _ _ h => ⟨h.1, h.2.1⟩
  · rw [← hw.2]
    exact hw.1
  · rintro w rfl
    exact ⟨hs, rfl⟩

lemma keepsCoherent_transitionWhen {c : RuntimeState → Bool} (hrunning : target ≠ .halted) :
    KeepsCoherent mode (transitionWhen p mode c target reason) := by
  refine exits_get_same fun s hs => ?_
  refine exits_imp (P := Coherent mode) (exits_ite (keepsCoherent_transition hheld htarget
    fun h => absurd h hrunning) keepsCoherent_pure) ?_ (fun _ _ h => h) fun _ _ h => h
  rintro w rfl
  exact hs

/-! ## Halts -/

/-- A true copy of a status that is HALTED. -/
def Halted (mode : Mode) (w : RuntimeProcess B) : Prop :=
  Coherent mode w ∧ w.tables.status.state = .halted

/-- A copy that is what is stored, and in this state. -/
def Copies (mode : Mode) (state : RuntimeState) (w : RuntimeProcess B) : Prop :=
  Coherent mode w ∧ w.cached = w.tables.status ∧ w.cached.state = state

/-- A legal transition of a true copy goes through. -/
lemma succeeds_transition {state : RuntimeState} (hblockers : target = .halted → blockers ≠ ∅)
    (hmoves : target ≠ state) (hlegal : target ∈ runtimeTransitions state)
    (hreason : canonicalText reason = true)
    (hcanonical : ∀ blocker ∈ blockers, canonicalText blocker = true) :
    Succeeds (Copies mode state) (transition p mode target reason blockers)
      fun _ => Copies mode target := by
  refine triple_get_same fun s hs => ?_
  obtain ⟨hcoherent, hcopy, hstate⟩ := hs
  obtain ⟨current, hcurrent⟩ : ∃ current, s.cached.transition target reason blockers =
      .ok current := exists_transition (.inr (hstate ▸ hlegal)) hreason hcanonical
  have hfollows := follows_of_transition hcurrent
  have hne : current ≠ s.cached := by
    intro hsame
    rw [← hfollows.state, hsame, hstate] at hmoves
    exact hmoves rfl
  have hI : Internal fun w : RuntimeProcess B =>
      Coherent mode w ∧ w.tables.status = s.cached ∧ w.cached = s.cached :=
    fun w b hw => ⟨internal_coherent w b hw.1, hw.2⟩
  refine triple_imp (P := fun w => Coherent mode w ∧ w.tables.status = s.cached ∧
    w.cached = s.cached) (E := fun _ => False) (triple_bind (Q := fun result w =>
      result = current ∧ Coherent mode { w with cached := current } ∧ w.tables.status = current) ?_
      fun result => triple_assume fun hresult => triple_modify fun w hw => ?_) ?_ (fun _ _ h => h)
      fun _ h => h
  · unfold saveTransition
    rw [hcurrent]
    refine triple_bind (Q := fun result w => result = current ∧ Coherent mode w ∧
      w.tables.status = s.cached ∧ w.cached = s.cached)
      (triple_raising (fun w a ha hw => ⟨(Except.ok.inj ha).symm, hw⟩)
        fun w failure hfailure _ => by cases hfailure) fun result => triple_assume fun hresult => ?_
    subst hresult
    unfold saveIfChanged
    rw [if_neg hne]
    refine triple_bind (Q := fun _ w => Coherent mode { w with cached := result } ∧
      w.tables.status = result) ?_ fun _ => triple_pure fun w hw => ⟨rfl, hw⟩
    refine triple_bind (succeeds_now hI) fun time => ?_
    refine triple_bind (succeeds_assertCurrent hheld hI) fun _ => ?_
    have hrevision : ∀ w : RuntimeProcess B, w.tables.status = s.cached →
        result.revision = w.tables.status.revision + 1 := by
      intro w hw
      rw [hw]
      exact hfollows.ne_revision hne
    refine triple_inTransaction (fun w u t ht hw => ?_) fun w failure hfailure hw => ?_
    · exact ⟨hw.1.saved htarget hblockers hfollows hne ht, (saveRuntime_eq_ok ht).2.2.1⟩
    · have hsaved : RuntimeTables.saveRuntime mode w.tables.status result time w.tables =
          .ok (⟨⟩, afterSave mode result time w.tables) :=
        saveRuntime_audited hw.1.audited (hrevision w hw.2.1)
      rw [hw.2.1] at hsaved
      rw [hsaved] at hfailure
      cases hfailure
  · subst hresult
    exact ⟨hw.1, hw.2.symm, hfollows.state⟩
  · rintro w rfl
    exact ⟨hcoherent, hcopy.symm, rfl⟩

omit hheld htarget

/-- An event about no revision of the status. -/
lemma Coherent.append {row : RuntimeAuditRow} (hw : Coherent mode w) (hrow : Unrelated row) :
    Coherent mode
      { w with tables := { w.tables with auditEvents := w.tables.auditEvents ++ [row] } } :=
  ⟨hw.audited.of_append rfl rfl (by simpa using hrow), hw.running, hw.copy, hw.stopping, hw.blocked⟩

lemma exits_auditHalt (R : RuntimeStatus → Prop) :
    Exits (fun w => Coherent mode w ∧ R w.tables.status) (auditHalt p mode reason)
      (fun _ w => Coherent mode w ∧ R w.tables.status)
      (Fails fun w => Coherent mode w ∧ R w.tables.status) := by
  have hI : Internal fun w : RuntimeProcess B => Coherent mode w ∧ R w.tables.status :=
    fun w b hw => ⟨internal_coherent w b hw.1, hw.2⟩
  refine exits_bind (exits_now hI) fun haltedAt => exits_bind (exits_now hI) fun createdAt => ?_
  refine exits_inTransaction (fun w u t h hw => ?_) fun w failure h hw =>
    ⟨ordinary_appendAuditOnce h, hw⟩
  rcases appendAuditOnce_eq (haltRow mode reason haltedAt createdAt) w.tables with hrun | hrun <;>
    rw [hrun] at h <;> cases h
  · exact hw
  · refine ⟨hw.1.append ?_, hw.2⟩
    constructor <;> intro otherMode revision hid <;> cases hid

/-- A halt from a true copy leaves HALTED behind, even if it then fails to append its event. -/
lemma exits_halt (hheld : Held p.toRuntimePorts)
    (hreason : canonicalText (haltReason reasonCode) = true) :
    Exits (Coherent mode) (halt p mode reasonCode) (fun _ => Halted mode)
      (Fails (Halted mode)) := by
  refine exits_get_same fun s hs => ?_
  by_cases hhalted : s.cached.state = .halted
  · rw [if_pos hhalted]
    refine exits_pure ?_
    rintro w rfl
    exact ⟨hs, hs.state_eq.symm.trans hhalted⟩
  · rw [if_neg hhalted]
    refine exits_bind ?_ fun _ => exits_auditHalt fun status => status.state = .halted
    have hcopy : s.cached = s.tables.status := hs.copy.resolve_right fun h => hhalted h.1
    have hcanonical : ∀ blocker ∈ ({haltReason reasonCode} : Finset String),
        canonicalText blocker = true := by simpa using hreason
    have hlast : ∀ state, state ≠ .halted → state ≠ .disarmed → state ≠ .stopping →
        Succeeds (Copies mode state) (transition p mode .halted "production runtime halted"
          {haltReason reasonCode}) fun _ => Copies mode .halted := by
      intro state hne hdisarmed hstopping
      refine succeeds_transition hheld (by decide) (fun _ => by simp) hne.symm ?_
        (by decide) hcanonical
      cases state <;> simp_all [runtimeTransitions]
    have hstopping : s.cached.state ≠ .stopping := hs.state_eq ▸ hs.stopping
    have hhalts : Triple (fun w => w = s) (haltTransitions p mode (haltReason reasonCode))
        (fun _ => Copies mode .halted) fun _ => False := by
      unfold haltTransitions transitionWhen
      by_cases hdisarmed : s.cached.state = .disarmed
      · refine triple_bind (Q := fun _ => Copies mode .starting) (triple_get_same fun r hr => ?_)
          fun _ => hlast .starting (by decide) (by decide) (by decide)
        rw [hr, if_pos (by simpa using hdisarmed)]
        refine triple_at (P := Copies mode .disarmed) ⟨hs, hcopy, hdisarmed⟩ ?_
        exact succeeds_transition hheld (by decide) (fun h => by cases h) (by decide) (by decide)
          (by decide) (by simp)
      · refine triple_bind (Q := fun _ => Copies mode s.cached.state)
          (triple_get_same fun r hr => ?_)
          fun _ => hlast s.cached.state hhalted hdisarmed hstopping
        rw [hr, if_neg (by simpa using hdisarmed)]
        refine triple_pure ?_
        rintro w rfl
        exact ⟨hs, hcopy, rfl⟩
    exact exits_imp hhalts (fun _ h => h)
      (fun _ w hw => ⟨hw.1, by rw [← hw.2.1]; exact hw.2.2⟩) fun _ _ h => h.elim

lemma keepsCoherent_halt (hheld : Held p.toRuntimePorts) :
    KeepsCoherent mode (halt p mode reasonCode) := by
  refine exits_get_same fun s hs => ?_
  refine exits_imp (P := Coherent mode) (exits_ite keepsCoherent_pure ?_) ?_ (fun _ _ h => h)
    fun _ _ h => h
  · refine exits_bind ((keepsCoherent_transitionWhen hheld (by decide) (by decide)).seq fun _ =>
      keepsCoherent_transition hheld (by decide) fun _ => by simp) fun _ => ?_
    exact exits_imp (exits_auditHalt fun _ => True) (fun _ h => ⟨h, trivial⟩) (fun _ _ h => h.1)
      fun _ _ h => ⟨h.1, h.2.1⟩
  · rintro w rfl
    exact hs

/-! ## Startups, cycles, events and heartbeats -/

section Programs

variable (hheld : Held p.toRuntimePorts) (hports : p.Ordinary)

include hheld hports

omit hports in
lemma keepsCoherent_haltingOn {code : String} (hx : KeepsCoherent mode x) :
    KeepsCoherent mode (haltingOn p mode x reason code) :=
  hx.guard fun _ _ => (keepsCoherent_transition hheld (by decide) fun _ => by simp).seq fun _ =>
    keepsCoherent_throw rfl

lemma keepsCoherent_startup : KeepsCoherent mode (startup p mode) := by
  refine KeepsCoherent.seq (exits_assertCurrent hheld internal_coherent) fun _ => ?_
  refine exits_get_same fun s hs => ?_
  refine exits_imp (P := Coherent mode) (KeepsCoherent.seq (keepsCoherent_refuse rfl) fun _ => ?_)
    ?_ (fun _ _ h => h) fun _ _ h => h
  · refine KeepsCoherent.seq ((keepsCoherent_transitionWhen hheld (by decide) (by decide)).seq
      fun _ => keepsCoherent_transitionWhen hheld (by decide) (by decide)) fun _ => ?_
    refine (keepsCoherent_port hports.recover).seq fun recovery => ?_
    refine KeepsCoherent.seq (exits_ite ?_ keepsCoherent_pure) fun _ => ?_
    · refine (keepsCoherent_transition hheld (by decide) fun _ => ?_).seq fun _ =>
        keepsCoherent_throw rfl
      split_ifs with hempty
      · simp
      · exact hempty
    · refine (keepsCoherent_port hports.latestIncompleteSession).seq fun incomplete => ?_
      refine KeepsCoherent.seq ?_ fun _ => ?_
      · unfold recoverClose
        cases incomplete with
        | none => exact keepsCoherent_pure
        | some session =>
          exact (keepsCoherent_haltingOn hheld
            (keepsCoherent_port (hports.closeSession session))).seq fun _ => keepsCoherent_pure
      · refine (keepsCoherent_port hports.prepare).seq fun _ => ?_
        refine (keepsCoherent_haltingOn hheld
          (keepsCoherent_port hports.reconcileStartup)).seq fun receipt => ?_
        exact (keepsCoherent_transition hheld (by decide) fun h => by cases h).seq fun _ =>
          keepsCoherent_pure
  · rintro w rfl
    exact hs

variable {time : DateTime}

lemma keepsCoherent_executionStep :
    KeepsCoherent mode (executionStep p mode time) := by
  refine (keepsCoherent_port (hports.executionDeadlines time)).seq fun deadline => ?_
  refine exits_ite ?_ keepsCoherent_pure
  refine (keepsCoherent_transition hheld (by decide) fun h => by cases h).seq fun _ => ?_
  refine KeepsCoherent.seq (KeepsCoherent.guard ?_ fun failure hordinary => ?_) fun executions => ?_
  · refine KeepsCoherent.seq (exits_modify fun w hw =>
      ⟨hw.audited, hw.running, hw.copy, hw.stopping, hw.blocked⟩) fun _ => ?_
    refine (keepsCoherent_port (hports.execute time)).seq fun outcome => ?_
    unfold finishExecution
    cases outcome with
    | executed executions => exact keepsCoherent_pure
    | blocked reason => exact (keepsCoherent_halt hheld).seq fun _ => keepsCoherent_throw rfl
  · unfold executionFailed
    exact exits_ite (keepsCoherent_throw hordinary)
      ((keepsCoherent_halt hheld).seq fun _ => keepsCoherent_throw hordinary)
  · exact (keepsCoherent_transition hheld (by decide) fun h => by cases h).seq fun _ =>
      keepsCoherent_pure

lemma keepsCoherent_closeStep : KeepsCoherent mode (closeStep p mode time) := by
  refine (keepsCoherent_transition hheld (by decide) fun h => by cases h).seq fun _ => ?_
  refine KeepsCoherent.seq (KeepsCoherent.guard
    (keepsCoherent_port (hports.closeSession time)) fun failure hordinary => ?_) fun counts => ?_
  · exact (keepsCoherent_halt hheld).seq fun _ => keepsCoherent_throw hordinary
  · exact (keepsCoherent_transition hheld (by decide) fun h => by cases h).seq fun _ =>
      keepsCoherent_pure

lemma keepsCoherent_cycle : KeepsCoherent mode (cycle p mode time) := by
  refine exits_get_same fun s hs => ?_
  refine exits_imp (P := Coherent mode) (KeepsCoherent.seq (keepsCoherent_refuse rfl) fun _ =>
    (keepsCoherent_port (hports.tradingDay time)).seq fun day => ?_) ?_ (fun _ _ h => h)
    fun _ _ h => h
  · unfold dayCycle
    cases day with
    | uncovered => exact (keepsCoherent_halt hheld).seq fun _ => keepsCoherent_throw rfl
    | closed => exact keepsCoherent_pure
    | trading =>
      refine (keepsCoherent_port hports.marketStatus).seq fun market => ?_
      unfold tradingCycle
      split
      · exact keepsCoherent_executionStep hheld hports
      · exact exits_ite (keepsCoherent_closeStep hheld hports) keepsCoherent_pure
      · exact keepsCoherent_pure
  · rintro w rfl
    exact hs

lemma keepsCoherent_handleEvent : KeepsCoherent mode (handleEvent p mode) := by
  refine (keepsCoherent_port hports.appendEvent).seq fun pending => ?_
  unfold haltForEvent
  cases pending with
  | none => exact keepsCoherent_pure
  | some reason => exact (keepsCoherent_halt hheld).seq fun _ => keepsCoherent_throw rfl

omit hheld in
/-- A heartbeat carries the state that is stored. -/
lemma exits_heartbeat {observed : ProductionHeartbeat} (before : RuntimeProcess B) :
    Exits (fun w => Coherent mode w ∧ w = before) (heartbeat p observed)
      (fun _ w => Coherent mode w ∧ ∃ row, w.tables.heartbeat = some row ∧
        row.runtimeState = w.tables.status.state)
      (Fails fun w => Coherent mode w ∧ w.tables.heartbeat = before.tables.heartbeat) := by
  refine exits_bind (Q := fun _ => Coherent mode) (exits_call (fun w _ b _ hw =>
    internal_coherent w b hw.1) fun w failure b h hw =>
      ⟨hports.heartbeatFacts _ _ _ h, internal_coherent w b hw.1, by rw [hw.2]⟩) fun _ => ?_
  refine exits_get_same fun s hs => ?_
  refine exits_inTransaction (fun w u t h hw => ?_) fun w failure h _ => by cases h
  cases h
  subst hw
  exact ⟨⟨hs.audited.of_same rfl rfl, hs.running, hs.copy, hs.stopping, hs.blocked⟩, _, rfl,
    hs.state_eq⟩

end Programs

end ProductionHooks

/-! ## Controls beside the hooks -/

namespace RuntimeControl

open Runtime RuntimeTables RuntimeStatus

variable {B : Type} {p : ExecutorPorts B} {config : ExecutorConfig}
  {R : RuntimeStatus → Prop} {fields : RuntimeStatus × Bool}

/-- The stored status satisfies `R`, and the fields that a control may change are these. -/
def Rests (mode : Mode) (R : RuntimeStatus → Prop) (fields : RuntimeStatus × Bool)
    (w : RuntimeProcess B) : Prop :=
  Audited mode w.tables ∧ R w.tables.status ∧ (w.cached, w.stopPending) = fields

variable {mode : Mode} {request : ControlRequest}

lemma internal_rests : Internal (Rests (B := B) mode R fields) := fun _ _ hw => hw

lemma exits_revokeArm (hheld : Held p.toRuntimePorts) {time : DateTime} {reason : String} :
    Exits (Rests config.mode R fields) (revokeArm p time reason)
      (fun _ => Rests config.mode R fields) (Fails (Rests config.mode R fields)) := by
  refine exits_bind (exits_assertCurrent hheld internal_rests) fun _ => ?_
  refine exits_inTransaction (fun w count t h hw => ?_) fun w failure h _ => by cases h
  cases h
  exact ⟨hw.1.of_same rfl rfl, hw.2⟩

lemma exits_load (hheld : Held p.toRuntimePorts) :
    Exits (Rests config.mode R fields) (load p config)
      (fun status w => R status ∧ Rests config.mode R fields w)
      (Fails (Rests config.mode R fields)) := by
  iterate 2 refine exits_bind (exits_assertCurrent hheld internal_rests) fun _ => ?_
  refine exits_get_same fun s hs => exits_raising (fun w status h hw => ?_) fun w failure h hw => ?_
  · unfold readRuntime at h
    split_ifs at h
    cases h
    subst hw
    exact ⟨hs.2.1, hs⟩
  · unfold readRuntime at h
    split_ifs at h
    cases h
    subst hw
    exact ⟨rfl, hs⟩

lemma exits_appendAuditOnce {row : RuntimeAuditRow} (hrow : Unrelated row) :
    Exits (Rests (B := B) mode R fields) (inTransaction (appendAuditOnce row))
      (fun _ => Rests mode R fields) (Fails (Rests mode R fields)) := by
  refine exits_inTransaction (fun w u t h hw => ?_) fun w failure h hw =>
    ⟨ordinary_appendAuditOnce h, hw⟩
  rcases appendAuditOnce_eq row w.tables with hrun | hrun <;> rw [hrun] at h <;> cases h
  · exact hw
  · exact ⟨hw.1.of_append rfl rfl (by simpa using hrow), hw.2⟩

/-- A status that is HALTED, with a blocker. -/
def HaltedStatus (status : RuntimeStatus) : Prop := status.state = .halted ∧ status.blockers ≠ ∅

variable {identity : ControlIdentity} {reasonSha256 : Option String}

lemma exits_haltAgain (hheld : Held p.toRuntimePorts) :
    Exits (Rests config.mode HaltedStatus fields) (halt p config identity reasonSha256)
      (fun execution w => execution.stop = false ∧ Rests config.mode HaltedStatus fields w)
      (Fails (Rests config.mode HaltedStatus fields)) := by
  refine exits_bind (exits_now internal_rests) fun time => ?_
  refine exits_bind (exits_revokeArm hheld) fun revoked => ?_
  refine exits_bind (exits_load hheld) fun status => exits_assume fun hstatus => ?_
  refine exits_bind (Q := fun _ => Rests config.mode HaltedStatus fields) ?_ fun current => ?_
  · unfold haltTransitions transitionIf
    rw [if_neg (by rw [hstatus.1]; decide), pure_bind, if_neg (by rw [hstatus.1]; decide),
      pure_bind, if_pos trivial]
    refine exits_saveTransition hheld internal_rests (fun w hw _ => hw)
      fun w current time t u hw hfollows hne h => ⟨hw.1.save hfollows hne h, ?_, hw.2.2⟩
    rw [(saveRuntime_eq_ok h).2.2.1]
    refine ⟨hfollows.state, ?_⟩
    rw [hfollows.blockers]
    exact Finset.insert_ne_empty _ _
  · unfold appendHaltEvidence
    refine exits_bind (exits_bind ?_ fun _ => exits_appendAuditOnce (unrelated_control ..)) fun _ =>
      exits_pure fun w hw => ⟨rfl, hw⟩
    refine exits_inTransaction (fun w u t h hw => ?_) fun w failure h _ => ?_
    · unfold insertRiskEventOnce at h
      split_ifs at h <;> cases h <;> exact ⟨hw.1.of_same rfl rfl, hw.2⟩
    · unfold insertRiskEventOnce at h
      split_ifs at h

lemma exits_disarmAgain (hheld : Held p.toRuntimePorts)
    (hR : ∀ status, R status → status.state = .disarmed) :
    Exits (Rests config.mode R fields) (disarm p config identity reasonSha256)
      (fun execution w => execution.stop = false ∧ Rests config.mode R fields w)
      (Fails (Rests config.mode R fields)) := by
  refine exits_bind (exits_now internal_rests) fun time => ?_
  refine exits_bind (exits_revokeArm hheld) fun revoked => ?_
  refine exits_bind (exits_load hheld) fun status => exits_assume fun hstatus => ?_
  unfold disarmTransitions
  rw [if_pos (hR status hstatus)]
  refine exits_bind (Q := fun _ => Rests config.mode R fields) (exits_pure fun _ hw => hw)
    fun current => ?_
  exact exits_bind (exits_appendAuditOnce (unrelated_control ..)) fun _ =>
    exits_pure fun w hw => ⟨rfl, hw⟩

lemma exits_cancel (hcancel : RaisesOrdinary p.cancelSystemOrders) {identity : ControlIdentity}
    {reasonSha256 : Option String} :
    Exits (Rests config.mode R fields) (cancel p config identity reasonSha256)
      (fun execution w => execution.stop = false ∧ Rests config.mode R fields w)
      (Fails (Rests config.mode R fields)) := by
  refine exits_bind (exits_now internal_rests) fun time => ?_
  refine exits_bind (Q := fun _ => Rests config.mode R fields) ?_ fun result =>
    exits_bind (exits_appendAuditOnce (unrelated_control ..)) fun _ =>
      exits_pure fun w hw => ⟨rfl, hw⟩
  refine exits_ite (exits_pure fun _ hw => hw) (exits_ite (exits_throw fun _ hw => ⟨rfl, hw⟩) ?_)
  refine exits_bind (exits_port internal_rests hcancel) fun result => ?_
  exact exits_bind (Q := fun _ => Rests config.mode R fields) (exits_modify fun _ hw => hw)
    fun _ => exits_pure fun _ hw => hw

/-- The controls that leave the copy of the hooks true: a HALT of what is HALTED, a DISARM of what
is DISARMED, and those that write no status or end the run. -/
def harmless : ControlCommand → RuntimeState → Bool
  | .halt, state => state = .halted
  | .disarm, state => state = .disarmed
  | _, _ => true

/-- A stop was stored, and it is to be finished. -/
def Stopped (mode : Mode) (w : RuntimeProcess B) : Prop :=
  Audited mode w.tables ∧ w.tables.status.state = .stopping ∧ w.stopPending = true

lemma Stopped.of_rests {cached : RuntimeStatus} {w : RuntimeProcess B}
    (h : Rests mode (fun status => status.state = .stopping) (cached, true) w) :
    Stopped mode w := ⟨h.1, h.2.1, congrArg Prod.snd h.2.2⟩

/-- A stop goes through from every status. -/
lemma succeeds_stopped (hheld : Held p.toRuntimePorts) {identity : ControlIdentity}
    {reasonSha256 : Option String} :
    Succeeds (fun w => Audited config.mode w.tables) (stop p config identity reasonSha256)
      fun execution w => execution.stop = true ∧ Stopped config.mode w := by
  intro w hw
  refine triple_post (@succeeds_stop B p config w.tables.status hheld identity reasonSha256)
    (fun execution t ht => ?_) w ⟨hw, rfl⟩
  obtain ⟨hstop, hpending, status, hsettled, hstopping⟩ := ht
  exact ⟨hstop, hsettled.audited, by rw [hsettled.stored]; exact hstopping, hpending⟩

/-- What holds after a control that returned. -/
def AfterControl (mode : Mode) (stop : Bool) (w : RuntimeProcess B) : Prop :=
  if stop = true then Stopped mode w else ProductionHooks.Coherent mode w

variable {command : ControlCommand} {s : RuntimeProcess B}

/-- A control that leaves the copy true, or ends the run. -/
lemma exits_perform (hheld : Held p.toRuntimePorts) (hcancel : RaisesOrdinary p.cancelSystemOrders)
    (hs : ProductionHooks.Coherent config.mode s)
    (hharmless : harmless command s.tables.status.state = true) :
    Exits (fun w => w = s) (perform p config command identity reasonSha256)
      (fun execution w => (execution.stop = true → command = .stop) ∧
        AfterControl config.mode execution.stop w)
      (Fails (ProductionHooks.Coherent config.mode)) := by
  have hstays : ∀ {execution : ControlExecution} {w : RuntimeProcess B}, execution.stop = false →
      ProductionHooks.Coherent config.mode w → (execution.stop = true → command = .stop) ∧
        AfterControl config.mode execution.stop w := by
    intro execution w hstop hw
    unfold AfterControl
    rw [hstop]
    exact ⟨fun h => absurd h (by decide), hw⟩
  have hrests : ∀ {R : RuntimeStatus → Prop}, R s.tables.status → ∀ w, w = s →
      Rests config.mode R (s.cached, s.stopPending) w := by
    rintro R hR w rfl
    exact ⟨hs.audited, hR, rfl⟩
  have hcoherent : ∀ w : RuntimeProcess B,
    Rests config.mode (· = s.tables.status) (s.cached, s.stopPending) w →
      ProductionHooks.Coherent config.mode w := by
    rintro w ⟨haudited, hstatus, hfields⟩
    rw [Prod.mk.injEq] at hfields
    exact ⟨haudited, hfields.2.trans hs.running, by rw [hfields.1, hstatus]; exact hs.copy,
      by rw [hstatus]; exact hs.stopping, by rw [hstatus]; exact hs.blocked⟩
  cases command with
  | halt =>
    have hhalted : s.tables.status.state = .halted := of_decide_eq_true hharmless
    have hagain : ∀ w : RuntimeProcess B,
      Rests config.mode HaltedStatus (s.cached, s.stopPending) w →
        ProductionHooks.Coherent config.mode w := by
      rintro w ⟨haudited, hstatus, hfields⟩
      rw [Prod.mk.injEq] at hfields
      refine ⟨haudited, hfields.2.trans hs.running, .inr ⟨?_, hstatus.1⟩, ?_, fun _ => hstatus.2⟩
      · rw [hfields.1, hs.state_eq, hhalted]
      · rw [hstatus.1]
        decide
    exact exits_imp (exits_haltAgain hheld) (hrests ⟨hhalted, hs.blocked hhalted⟩)
      (fun execution w hw => hstays hw.1 (hagain w hw.2)) fun _ w hw => ⟨hw.1, hagain w hw.2⟩
  | disarm =>
    have hdisarmed : s.tables.status.state = .disarmed := of_decide_eq_true hharmless
    exact exits_imp (exits_disarmAgain (R := (· = s.tables.status)) hheld
      fun status h => by rw [h, hdisarmed]) (hrests rfl)
      (fun execution w hw => hstays hw.1 (hcoherent w hw.2))
      fun _ w hw => ⟨hw.1, hcoherent w hw.2⟩
  | cancelSystemOrders =>
    exact exits_imp (exits_cancel (R := (· = s.tables.status)) hcancel) (hrests rfl)
      (fun execution w hw => hstays hw.1 (hcoherent w hw.2))
      fun _ w hw => ⟨hw.1, hcoherent w hw.2⟩
  | stop =>
    refine exits_imp (succeeds_stopped hheld) ?_ (fun execution w hw => ?_) fun _ _ h => h.elim
    · rintro w rfl
      exact hs.audited
    · unfold AfterControl
      rw [if_pos hw.1]
      exact ⟨fun _ => rfl, hw.2⟩

lemma exits_performStopped (hheld : Held p.toRuntimePorts)
    (hcancel : RaisesOrdinary p.cancelSystemOrders) (hs : Stopped config.mode s)
    (hharmless : harmless command s.tables.status.state = true) :
    Exits (fun w => w = s) (perform p config command identity reasonSha256)
      (fun _ => Stopped config.mode) (Fails fun _ => True) := by
  obtain ⟨haudited, hstopping, hpending⟩ := hs
  cases command with
  | halt | disarm => exact absurd (of_decide_eq_true hharmless) (by rw [hstopping]; decide)
  | cancelSystemOrders =>
    refine exits_imp (@exits_cancel B p config (fun status => status.state = .stopping)
      (s.cached, true) hcancel _ _) ?_ (fun _ w hw => .of_rests hw.2)
      fun _ _ h => ⟨h.1, trivial⟩
    rintro w rfl
    exact ⟨haudited, hstopping, by rw [hpending]⟩
  | stop =>
    refine exits_imp (succeeds_stopped hheld) ?_ (fun _ _ hw => hw.2) fun _ _ h => h.elim
    rintro w rfl
    exact haudited

lemma exits_execute (hheld : Held p.toRuntimePorts) (hcancel : RaisesOrdinary p.cancelSystemOrders)
    :
    Exits (fun w => ProductionHooks.Coherent config.mode w ∧
        harmless request.command w.tables.status.state = true)
      (execute p config request)
      (fun execution w => (execution.stop = true → request.command = .stop) ∧
        AfterControl config.mode execution.stop w)
      (Fails (ProductionHooks.Coherent config.mode)) := by
  refine exits_imp (P := fun w => ProductionHooks.Coherent config.mode w ∧
    harmless request.command w.tables.status.state = true) (exits_bind (exits_error
    (exits_assertCurrent hheld fun w b hw => ⟨ProductionHooks.internal_coherent w b hw.1, hw.2⟩)
      fun _ _ h => ⟨h.1, h.2.1⟩) fun _ => ?_) (fun _ h => h)
    (fun _ _ h => h) fun _ _ h => h
  exact fun w hw => exits_perform hheld hcancel hw.1 hw.2 w rfl

lemma exits_executeStopped (hheld : Held p.toRuntimePorts)
    (hcancel : RaisesOrdinary p.cancelSystemOrders) :
    Exits (fun w => Stopped config.mode w ∧
        harmless request.command w.tables.status.state = true)
      (execute p config request) (fun _ => Stopped config.mode) (Fails fun _ => True) := by
  refine exits_bind (exits_error (exits_assertCurrent hheld (I := fun w => Stopped config.mode w ∧
    harmless request.command w.tables.status.state = true) fun w b hw => hw) fun _ _ h =>
      ⟨h.1, trivial⟩) fun _ => ?_
  exact fun w hw => exits_performStopped hheld hcancel hw.1 hw.2 w rfl

/-- Finishing a stop raises nothing that passes for a halt. -/
lemma exits_finalizeStop (hheld : Held p.toRuntimePorts) :
    Exits (fun w => Audited config.mode w.tables) (finalizeStop p config) (fun _ _ => True)
      (Fails fun _ => True) := by
  have hI : Internal fun w : RuntimeProcess B => Audited config.mode w.tables := fun _ _ hw => hw
  refine exits_imp (P := fun w => Audited config.mode w.tables)
    (E := Fails fun w => Audited config.mode w.tables) ?_ (fun _ h => h) (fun _ _ h => h)
    fun _ _ h => ⟨h.1, trivial⟩
  refine exits_bind (exits_assertCurrent hheld hI) fun _ => ?_
  refine exits_bind (Q := fun _ w => Audited config.mode w.tables) ?_ fun status => ?_
  · refine exits_bind (exits_assertCurrent hheld hI) fun _ => ?_
    refine exits_bind (exits_assertCurrent hheld hI) fun _ => ?_
    refine exits_get_same fun s hs => exits_raising ?_ fun w failure h hw => ?_
    · rintro w status - rfl
      exact hs
    · unfold readRuntime at h
      split_ifs at h
      cases h
      exact ⟨rfl, by rw [hw]; exact hs⟩
  · refine exits_bind (Q := fun _ w => Audited config.mode w.tables) (exits_ite
      (exits_saveTransition hheld hI (fun w hw _ => hw)
        fun w current time t u hw hfollows hne h => hw.save hfollows hne h)
      (exits_pure fun _ hw => hw)) fun _ => ?_
    exact exits_bind (Q := fun _ w => Audited config.mode w.tables) (exits_modify fun _ hw => hw)
      fun _ => exits_pure fun _ _ => trivial

end RuntimeControl

end FirmQuant
