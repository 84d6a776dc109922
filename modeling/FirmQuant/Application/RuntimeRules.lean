import Mathlib.Data.List.Range
import FirmQuant.Application.RuntimeControl

/-!
# Rules for the stored runtime status

What one `save_runtime` does to the tables, and the tables that legal transitions lead to: each
revision of the status has exactly one audit event.  Risk-reducing controls succeed on all of them.
-/

namespace FirmQuant

open Effect

namespace RuntimeTables

/-! ## Audit events of transitions -/

/-- The revision that an audit event reports. -/
def revisionOf (mode : Mode) (row : RuntimeAuditRow) : Option ℕ :=
  match row.auditEventId with
  | .runtime rowMode revision => if rowMode = mode then some revision else none
  | _ => none

/-- The revisions that have an audit event, one for each event. -/
def revisions (mode : Mode) (t : RuntimeTables) : List ℕ :=
  t.auditEvents.filterMap (revisionOf mode)

/-- The audit events and the stored status agree. -/
structure Audited (mode : Mode) (t : RuntimeTables) : Prop where
  hasMode : t.HasMode mode
  /-- Each revision up to the stored one has exactly one event. -/
  revisions : t.revisions mode = List.range' 1 t.status.revision
  /-- The event of a revision is the one that a save appends. -/
  rows : ∀ row ∈ t.auditEvents, ∀ revision, row.auditEventId = .runtime mode revision →
    ∃ status time, row = transitionRow mode status time
  revocations : ∀ row ∈ t.auditEvents, ∀ revision, row.auditEventId = .haltArmRevoke mode revision →
    revision ≤ t.status.revision

section Save

variable {mode : Mode} {t t' : RuntimeTables} {previous current : RuntimeStatus} {time : DateTime}
  {row : RuntimeAuditRow}

lemma mem_revisions {revision : ℕ} : revision ∈ t.revisions mode ↔
    ∃ row ∈ t.auditEvents, row.auditEventId = .runtime mode revision := by
  unfold revisions
  rw [List.mem_filterMap]
  refine exists_congr fun row => and_congr_right fun _ => ?_
  unfold revisionOf
  cases row.auditEventId <;> simp

lemma appendAudit_fresh (hfresh : ∀ other ∈ t.auditEvents, other.auditEventId ≠ row.auditEventId) :
    appendAudit row t = .ok (⟨⟩, { t with auditEvents := t.auditEvents ++ [row] }) := by
  have hfind : t.auditEvents.find? (·.auditEventId = row.auditEventId) = none := by
    rw [List.find?_eq_none]
    simpa using hfresh
  unfold appendAudit
  rw [hfind]

lemma appendAuditOnce_eq (row : RuntimeAuditRow) (t : RuntimeTables) :
    appendAuditOnce row t = .ok (⟨⟩, t) ∨
      appendAuditOnce row t = .ok (⟨⟩, { t with auditEvents := t.auditEvents ++ [row] }) := by
  unfold appendAuditOnce
  by_cases hknown : t.auditEvents.any (·.auditEventId = row.auditEventId) = true
  · exact .inl (if_pos hknown)
  · rw [if_neg hknown]
    refine .inr (appendAudit_fresh fun other hother hid => hknown ?_)
    exact List.any_eq_true.mpr ⟨other, hother, by simpa using hid⟩

@[simp] lemma revoked_revokedAt (now : DateTime) (reason : String) (lease : ArmLeaseRow) :
    (revoked now reason lease).revokedAt ≠ none := by
  unfold revoked
  cases h : lease.revokedAt with
  | none => simp
  | some other => simp [h]

lemma unrevoked_revoke (now : DateTime) (reason : String) (t : RuntimeTables) :
    unrevoked { t with armLeases := t.armLeases.map (revoked now reason) } = [] := by
  unfold unrevoked
  rw [List.filter_eq_nil_iff]
  intro lease hlease
  obtain ⟨other, -, rfl⟩ := List.mem_map.mp hlease
  simp

/-- The event that a halt adds for the leases it has revoked. -/
def revocationRows (mode : Mode) (current : RuntimeStatus) (time : DateTime)
    (t : RuntimeTables) : List RuntimeAuditRow :=
  if current.state = .halted ∧ t.unrevoked ≠ [] then
    [⟨.haltArmRevoke mode current.revision, .arm, "session-coordinator",
      .armRevoked mode current.revision t.unrevoked.length, time⟩]
  else []

/-- The tables after a save. -/
def afterSave (mode : Mode) (current : RuntimeStatus) (time : DateTime) (t : RuntimeTables) :
    RuntimeTables :=
  { t with
    runtimeState := some ⟨mode, current, time⟩
    armLeases := if current.state = .halted then
        t.armLeases.map (revoked time "runtime entered HALTED")
      else t.armLeases
    auditEvents := t.auditEvents ++ revocationRows mode current time t ++
      [transitionRow mode current time] }

@[simp] lemma afterSave_status : (afterSave mode current time t).status = current := rfl

lemma afterSave_unrevoked (h : t.unrevoked = []) :
    (afterSave mode current time t).unrevoked = [] := by
  unfold afterSave
  by_cases hhalted : current.state = .halted
  · simp only [if_pos hhalted]
    exact unrevoked_revoke time _ { t with
      runtimeState := some ⟨mode, current, time⟩
      auditEvents := t.auditEvents ++ revocationRows mode current time t ++
        [transitionRow mode current time] }
  · simp only [if_neg hhalted]
    exact h

/-- A save compares the stored status, and keeps nothing if it is another one. -/
lemma saveRuntime_eq_ok {u : PUnit} (h : saveRuntime mode previous current time t = .ok (u, t')) :
    t.HasMode mode ∧ t.status = previous ∧ t'.status = current ∧ t'.HasMode mode := by
  unfold saveRuntime at h
  obtain ⟨_, t₁, hset, h⟩ := Txn.bind_eq_ok.mp h
  obtain ⟨_, t₂, hrevoke, happend⟩ := Txn.bind_eq_ok.mp h
  have hrow : t₁.runtimeState = some ⟨mode, current, time⟩ ∧ t.HasMode mode ∧
      t.status = previous := by
    unfold setRuntime at hset
    cases hrow : t.runtimeState with
    | none =>
      simp only [hrow] at hset
      split_ifs at hset with hprevious
      cases hset
      exact ⟨rfl, by simp [HasMode, hrow], by simpa [status, hrow, eq_comm] using hprevious⟩
    | some row =>
      simp only [hrow] at hset
      split_ifs at hset with hother
      push Not at hother
      cases hset
      exact ⟨rfl, by simpa [HasMode, hrow] using hother.1, by simpa [status, hrow] using hother.2⟩
  have happended : ∀ (row : RuntimeAuditRow) (s s' : RuntimeTables) (u : PUnit),
      appendAudit row s = .ok (u, s') → s'.runtimeState = s.runtimeState := by
    intro row s s' u happend
    unfold appendAudit at happend
    split at happend
    · cases happend
      rfl
    · split_ifs at happend
      cases happend
      rfl
  have hsame : t₂.runtimeState = t₁.runtimeState := by
    unfold revokeOnHalt auditHaltRevocation at hrevoke
    split_ifs at hrevoke
    · obtain ⟨count, t₃, hcount, haudit⟩ := Txn.bind_eq_ok.mp hrevoke
      cases hcount
      split_ifs at haudit
      · cases haudit
        rfl
      · have hsame := happended _ _ _ _ haudit
        exact hsame
    · cases hrevoke
      rfl
  have hlast := (happended _ _ _ _ happend).trans (hsame.trans hrow.1)
  exact ⟨hrow.2.1, hrow.2.2, by simp [status, hlast], by simp [HasMode, hlast]⟩

/-- The next revision of the stored status can be saved. -/
lemma saveRuntime_audited (haudited : Audited mode t)
    (hrevision : current.revision = t.status.revision + 1) :
    saveRuntime mode t.status current time t = .ok (⟨⟩, afterSave mode current time t) := by
  have hset : setRuntime mode t.status current time t =
      .ok (⟨⟩, { t with runtimeState := some ⟨mode, current, time⟩ }) := by
    have hmode := haudited.hasMode
    unfold setRuntime
    cases hrow : t.runtimeState with
    | none => simp [status, hrow]
    | some row =>
      have hrowMode := hmode row hrow
      simp [status, hrow, hrowMode]
  have hfreshRevoke : ∀ other ∈ t.auditEvents,
      other.auditEventId ≠ .haltArmRevoke mode current.revision := by
    intro other hother hid
    have := haudited.revocations other hother _ hid
    omega
  have hfresh : ∀ other ∈ t.auditEvents, other.auditEventId ≠ .runtime mode current.revision := by
    intro other hother hid
    have hmem : current.revision ∈ t.revisions mode := mem_revisions.mpr ⟨other, hother, hid⟩
    rw [haudited.revisions, List.mem_range'_1] at hmem
    omega
  have hrevoke : revokeOnHalt mode current time
      { t with runtimeState := some ⟨mode, current, time⟩ } =
      .ok (⟨⟩, { t with
        runtimeState := some ⟨mode, current, time⟩
        armLeases := if current.state = .halted then
            t.armLeases.map (revoked time "runtime entered HALTED")
          else t.armLeases
        auditEvents := t.auditEvents ++ revocationRows mode current time t }) := by
    unfold revokeOnHalt
    by_cases hhalted : current.state = .halted
    · rw [if_pos hhalted, Txn.bind_eq_ok]
      refine ⟨_, _, rfl, ?_⟩
      unfold auditHaltRevocation
      have hsame : unrevoked { t with runtimeState := some ⟨mode, current, time⟩ } = t.unrevoked :=
        rfl
      rw [hsame]
      by_cases hnone : t.unrevoked = []
      · simp [hnone, revocationRows, hhalted]
      · rw [if_neg (by simpa using hnone), appendAudit_fresh (by simpa using hfreshRevoke)]
        simp [revocationRows, hhalted, hnone]
    · simp [hhalted, revocationRows]
  unfold saveRuntime
  rw [Txn.bind_eq_ok]
  refine ⟨_, _, hset, ?_⟩
  rw [Txn.bind_eq_ok]
  refine ⟨_, _, hrevoke, ?_⟩
  rw [appendAudit_fresh]
  · rfl
  · intro other hother
    rcases List.mem_append.mp hother with hother | hother
    · exact hfresh other hother
    · unfold revocationRows at hother
      split_ifs at hother
      · obtain rfl := List.mem_singleton.mp hother
        simp [transitionRow]
      · cases hother

lemma revisions_afterSave (hrevisions : t.revisions mode = List.range' 1 t.status.revision)
    (hrevision : current.revision = t.status.revision + 1) :
    (afterSave mode current time t).revisions mode = List.range' 1 current.revision := by
  have hrevoked : (revocationRows mode current time t).filterMap (revisionOf mode) = [] := by
    unfold revocationRows
    split_ifs <;> rfl
  have hlast : [transitionRow mode current time].filterMap (revisionOf mode) =
      [current.revision] := by
    simp [revisionOf, transitionRow]
  unfold revisions at hrevisions ⊢
  unfold afterSave
  rw [List.filterMap_append, List.filterMap_append, hrevisions, hrevoked, hlast, hrevision,
    List.append_nil, List.range'_concat]
  simp [Nat.add_comm]

/-- The next revision comes with its event. -/
lemma Audited.afterSave (haudited : Audited mode t)
    (hrevision : current.revision = t.status.revision + 1) :
    Audited mode (afterSave mode current time t) where
  hasMode := by simp [HasMode, RuntimeTables.afterSave]
  revisions := revisions_afterSave haudited.revisions hrevision
  rows := by
    intro row hrow revision hid
    rcases List.mem_snoc.mp hrow with hrow | rfl
    · rcases List.mem_append.mp hrow with hrow | hrow
      · exact haudited.rows row hrow revision hid
      · unfold revocationRows at hrow
        split_ifs at hrow
        · obtain rfl := List.mem_singleton.mp hrow
          cases hid
        · cases hrow
    · exact ⟨current, time, rfl⟩
  revocations := by
    intro row hrow revision hid
    rw [afterSave_status]
    rcases List.mem_snoc.mp hrow with hrow | rfl
    · rcases List.mem_append.mp hrow with hrow | hrow
      · have := haudited.revocations row hrow revision hid
        omega
      · unfold revocationRows at hrow
        split_ifs at hrow
        · obtain rfl := List.mem_singleton.mp hrow
          cases hid
          exact le_refl _
        · cases hrow
    · cases hid

/-- An event that belongs to no revision of the status. -/
def Unrelated (row : RuntimeAuditRow) : Prop :=
  (∀ mode revision, row.auditEventId ≠ .runtime mode revision) ∧
    ∀ mode revision, row.auditEventId ≠ .haltArmRevoke mode revision

/-- The tables may change otherwise: what counts is the stored status and the events about it. -/
lemma Audited.of_append {extra : List RuntimeAuditRow} (haudited : Audited mode t)
    (hstate : t'.runtimeState = t.runtimeState) (hevents : t'.auditEvents = t.auditEvents ++ extra)
    (hextra : ∀ row ∈ extra, Unrelated row) : Audited mode t' where
  hasMode := by
    have hmode := haudited.hasMode
    unfold HasMode at hmode ⊢
    rwa [hstate]
  revisions := by
    have hnone : extra.filterMap (revisionOf mode) = [] := by
      rw [List.filterMap_eq_nil_iff]
      intro row hrow
      have hid := (hextra row hrow).1
      unfold revisionOf
      cases h : row.auditEventId <;> simp_all
    have hstatus : t'.status = t.status := by simp [status, hstate]
    have hrevisions := haudited.revisions
    unfold RuntimeTables.revisions at hrevisions ⊢
    rw [hevents, List.filterMap_append, hnone, List.append_nil, hrevisions, hstatus]
  rows := by
    intro row hrow revision hid
    rw [hevents] at hrow
    rcases List.mem_append.mp hrow with hrow | hrow
    · exact haudited.rows row hrow revision hid
    · exact absurd hid ((hextra row hrow).1 mode revision)
  revocations := by
    intro row hrow revision hid
    have hstatus : t'.status = t.status := by simp [status, hstate]
    rw [hevents] at hrow
    rw [hstatus]
    rcases List.mem_append.mp hrow with hrow | hrow
    · exact haudited.revocations row hrow revision hid
    · exact absurd hid ((hextra row hrow).2 mode revision)

/-- The tables may change where neither the status nor an event is. -/
lemma Audited.of_same (haudited : Audited mode t) (hstate : t'.runtimeState = t.runtimeState)
    (hevents : t'.auditEvents = t.auditEvents) : Audited mode t' :=
  haudited.of_append hstate (hevents.trans (List.append_nil _).symm) (by simp)

end Save

/-! ## Tables that legal transitions lead to -/

/-- The tables that saves of legal transitions in one mode lead to, from tables without a status.
Anything else may be written in between, but for the status and the events about it. -/
inductive Reached (mode : Mode) : RuntimeTables → Prop
  | unstarted {t : RuntimeTables} (hstate : t.runtimeState = none)
      (hevents : ∀ row ∈ t.auditEvents, Unrelated row) : Reached mode t
  | saved {t t' : RuntimeTables} {target : RuntimeState} {reason : String}
      {blockers : Finset String} {current : RuntimeStatus} {time : DateTime} {u : PUnit}
      (hreached : Reached mode t)
      (htransition : t.status.transition target reason blockers = .ok current)
      (hchanged : current ≠ t.status)
      (hsave : saveRuntime mode t.status current time t = .ok (u, t')) : Reached mode t'
  | other {t t' : RuntimeTables} {extra : List RuntimeAuditRow} (hreached : Reached mode t)
      (hstate : t'.runtimeState = t.runtimeState)
      (hevents : t'.auditEvents = t.auditEvents ++ extra)
      (hextra : ∀ row ∈ extra, Unrelated row) : Reached mode t'

lemma Reached.audited {mode : Mode} {t : RuntimeTables} (h : Reached mode t) :
    Audited mode t := by
  induction h with
  | @unstarted t hstate hevents =>
    have hnone : t.status = .initial := by simp [status, hstate]
    have hempty : Audited mode { t with auditEvents := [] } := by
      constructor
      · simp [HasMode, hstate]
      · have hzero : RuntimeStatus.initial.revision = 0 := rfl
        simp [revisions, status, hstate, hzero]
      · simp
      · simp
    exact hempty.of_append rfl (by simp) hevents
  | saved hreached htransition hchanged hsave ih =>
    have hrevision := (RuntimeStatus.follows_of_transition htransition).ne_revision hchanged
    rw [saveRuntime_audited ih hrevision] at hsave
    cases hsave
    exact ih.afterSave hrevision
  | other _ hstate hevents hextra ih => exact ih.of_append hstate hevents hextra

lemma Reached.next {mode : Mode} {t : RuntimeTables} {target : RuntimeState} {reason : String}
    {blockers : Finset String} {current : RuntimeStatus} {time : DateTime} (h : Reached mode t)
    (htransition : t.status.transition target reason blockers = .ok current)
    (hchanged : current ≠ t.status) : Reached mode (afterSave mode current time t) :=
  .saved h htransition hchanged (saveRuntime_audited h.audited
    ((RuntimeStatus.follows_of_transition htransition).ne_revision hchanged))

end RuntimeTables

/-! ## Rules for the programs of the process -/

namespace Runtime

open RuntimeTables RuntimeStatus

variable {B α : Type} {P E : RuntimeProcess B → Prop} {Q : α → RuntimeProcess B → Prop}

variable {port : B → Except Failure α × B}

lemma exits_call {E : Failure → RuntimeProcess B → Prop}
    (h : ∀ w a b, port w.outside = (.ok a, b) → P w → Q a { w with outside := b })
    (hE : ∀ w failure b, port w.outside = (.error failure, b) → P w →
      E failure { w with outside := b }) : Exits P (call port) Q E := by
  intro w hw
  unfold call
  rcases hport : port w.outside with ⟨_ | _, b⟩
  · exact hE w _ b hport hw
  · exact h w _ b hport hw

lemma exits_inTransaction {x : RuntimeTxn α} {E : Failure → RuntimeProcess B → Prop}
    (h : ∀ w a t, x w.tables = .ok (a, t) → P w → Q a { w with tables := t })
    (hE : ∀ w failure, x w.tables = .error failure → P w → E failure w) :
    Exits P (inTransaction x) Q E := by
  intro w hw
  unfold inTransaction
  cases hx : x w.tables with
  | ok r => exact h w r.1 r.2 hx hw
  | error failure => exact hE w failure hx hw

lemma exits_raising {x : Except Failure α} {E : Failure → RuntimeProcess B → Prop}
    (h : ∀ w a, x = .ok a → P w → Q a w) (hE : ∀ w failure, x = .error failure → P w →
      E failure w) :
    Exits P (raising x) Q E := by
  intro w hw
  unfold raising
  cases hx : x with
  | ok a => exact h w a hx hw
  | error failure => exact hE w failure hx hw

lemma triple_call (h : ∀ w a b, port w.outside = (.ok a, b) → P w → Q a { w with outside := b })
    (hE : ∀ w failure b, port w.outside = (.error failure, b) → P w → E { w with outside := b }) :
    Triple P (call port) Q E := exits_call h hE

lemma triple_inTransaction {x : RuntimeTxn α}
    (h : ∀ w a t, x w.tables = .ok (a, t) → P w → Q a { w with tables := t })
    (hE : ∀ w failure, x w.tables = .error failure → P w → E w) :
    Triple P (inTransaction x) Q E := exits_inTransaction h hE

lemma triple_raising {x : Except Failure α} (h : ∀ w a, x = .ok a → P w → Q a w)
    (hE : ∀ w failure, x = .error failure → P w → E w) : Triple P (raising x) Q E :=
  exits_raising h hE

lemma tables_of_call {w w' : RuntimeProcess B} {a : α} (h : call port w = .ok a w') :
    w'.tables = w.tables := by
  unfold call at h
  split at h <;> cases h
  rfl

/-! ### Assertions on the tables -/

section OnTables

variable {J : RuntimeTables → Prop} {frame : RuntimeStatus × ℕ}

/-- An assertion on the tables of the process, while the hooks are at rest. -/
def OnTables (J : RuntimeTables → Prop) (frame : RuntimeStatus × ℕ) (w : RuntimeProcess B) : Prop :=
  J w.tables ∧ (w.cached, w.executions) = frame

lemma keeps_call : Keeps (OnTables J frame) (call port) :=
  triple_call (fun _ _ _ _ hw => hw) fun _ _ _ _ hw => hw

lemma keeps_raising {x : Except Failure α} : Keeps (OnTables (B := B) J frame) (raising x) :=
  triple_raising (fun _ _ _ hw => hw) fun _ _ _ hw => hw

lemma keeps_inTransaction {x : RuntimeTxn α} (hx : Txn.Preserves J x) :
    Keeps (OnTables (B := B) J frame) (inTransaction x) :=
  triple_inTransaction (fun w a t ht hw => ⟨hx w.tables a t hw.1 ht, hw.2⟩) fun _ _ _ hw => hw

lemma keeps_saveTransition {p : RuntimePorts B} {mode : Mode} {status : RuntimeStatus}
    {target : RuntimeState} {reason : String} {blockers : Finset String} {time : Runtime B DateTime}
    (hsave : ∀ current time, Follows status current target reason blockers → current ≠ status →
      Txn.Preserves J (RuntimeTables.saveRuntime mode status current time))
    (htime : Keeps (OnTables J frame) time) :
    Keeps (OnTables J frame) (saveTransition p mode status target reason blockers time) := by
  refine triple_bind (Q := fun current w => Follows status current target reason blockers ∧
    OnTables J frame w) (triple_raising (fun w current hcurrent hw =>
      ⟨follows_of_transition hcurrent, hw⟩) fun _ _ _ hw => hw) fun current => ?_
  refine triple_assume fun hfollows => ?_
  refine keeps_bind ?_ fun _ => keeps_pure
  unfold saveIfChanged
  by_cases hsame : current = status
  · rw [if_pos hsame]
    exact keeps_pure
  · rw [if_neg hsame]
    refine keeps_bind htime fun createdAt => ?_
    exact keeps_bind keeps_call fun _ => keeps_inTransaction (hsave _ _ hfollows hsame)

lemma keeps_loadRuntime {p : RuntimePorts B} {mode : Mode} :
    Keeps (OnTables J frame) (loadRuntime p mode) :=
  keeps_bind keeps_call fun _ => keeps_get_bind fun _ _ => keeps_raising

end OnTables

/-- The writer lease is held: `assert_current` does not raise. -/
def Held (p : RuntimePorts B) : Prop := ∀ b, ∃ b', p.assertCurrent b = (.ok ⟨⟩, b')

/-- The stored status, after no arm lease was left, with all its revisions audited.  It is the one
at the origin, or it has a later revision. -/
structure Settled (mode : Mode) (origin status : RuntimeStatus) (w : RuntimeProcess B) :
    Prop where
  audited : Audited mode w.tables
  unrevoked : w.tables.unrevoked = []
  stored : w.tables.status = status
  advanced : status = origin ∨ origin.revision < status.revision

section Settled

variable {p : RuntimePorts B} {mode : Mode} {origin status : RuntimeStatus}
  {target : RuntimeState} {reason : String} {blockers : Finset String} {time : Runtime B DateTime}

lemma succeeds_assertCurrent (hheld : Held p) (hP : ∀ w b, P w → P { w with outside := b }) :
    Succeeds P (assertCurrent p) fun _ => P := by
  refine triple_call (fun w _ b _ hw => hP w b hw) fun w failure b hport _ => ?_
  obtain ⟨b', hb'⟩ := hheld w.outside
  rw [hb'] at hport
  cases hport

lemma succeeds_now (hP : ∀ w b, P w → P { w with outside := b }) :
    Succeeds P (now p) fun _ => P := by
  refine triple_call (fun w _ b _ hw => hP w b hw) fun w failure b hport _ => ?_
  cases hport

lemma Settled.outside {w : RuntimeProcess B} (h : Settled mode origin status w) (b : B) :
    Settled mode origin status { w with outside := b } :=
  ⟨h.audited, h.unrevoked, h.stored, h.advanced⟩

/-- A legal transition of the stored status goes through. -/
lemma succeeds_saveTransition (hheld : Held p)
    (htime : Succeeds (Settled mode origin status) time fun _ => Settled mode origin status)
    (hlegal : target = status.state ∨ target ∈ runtimeTransitions status.state)
    (hreason : canonicalText reason = true)
    (hblockers : ∀ blocker ∈ blockers, canonicalText blocker = true) :
    Succeeds (Settled mode origin status)
      (saveTransition p mode status target reason blockers time)
      fun current w => Settled mode origin current w ∧
        Follows status current target reason blockers := by
  obtain ⟨current, hcurrent⟩ := exists_transition hlegal hreason hblockers
  have hfollows := follows_of_transition hcurrent
  unfold saveTransition
  rw [hcurrent]
  refine triple_bind (Q := fun result w => result = current ∧ Settled mode origin status w)
    (triple_raising (fun w a ha hw => ⟨(Except.ok.inj ha).symm, hw⟩)
      fun w failure hfailure _ => by cases hfailure) fun result => ?_
  refine triple_assume fun hresult => ?_
  subst hresult
  refine triple_bind (Q := fun _ => Settled mode origin result) ?_
    fun _ => triple_pure fun w hw => ⟨hw, hfollows⟩
  unfold saveIfChanged
  by_cases hsame : result = status
  · rw [if_pos hsame, hsame]
    exact triple_pure fun w hw => hw
  · rw [if_neg hsame]
    have hrevision := hfollows.ne_revision hsame
    refine triple_bind htime fun createdAt => ?_
    refine triple_bind (succeeds_assertCurrent hheld fun w b hw => hw.outside b) fun _ => ?_
    refine triple_inTransaction (fun w u t ht hw => ?_) fun w failure hfailure hw => ?_
    · have hstored := hw.stored
      rw [← hstored] at ht hrevision
      rw [saveRuntime_audited hw.audited hrevision] at ht
      cases ht
      have hnext : status.revision < result.revision := by
        rw [hrevision, hstored]
        omega
      refine ⟨hw.audited.afterSave hrevision, afterSave_unrevoked hw.unrevoked, rfl, .inr ?_⟩
      rcases hw.advanced with rfl | hlt
      · exact hnext
      · omega
    · have hstored := hw.stored
      rw [← hstored] at hfailure hrevision
      rw [saveRuntime_audited hw.audited hrevision] at hfailure
      cases hfailure

lemma succeeds_loadRuntime (hheld : Held p) :
    Succeeds (Settled mode origin status) (loadRuntime p mode)
      fun result w => result = status ∧ Settled mode origin status w := by
  refine triple_bind (succeeds_assertCurrent hheld fun w b hw => hw.outside b) fun _ => ?_
  refine triple_get_bind fun s hs => ?_
  refine triple_raising (fun w result hresult hw => ?_) fun w failure hfailure hw => ?_
  · unfold readRuntime at hresult
    rw [if_pos hs.audited.hasMode, hs.stored] at hresult
    exact ⟨(Except.ok.inj hresult).symm, hw⟩
  · unfold readRuntime at hfailure
    rw [if_pos hs.audited.hasMode] at hfailure
    cases hfailure

end Settled

end Runtime

end FirmQuant
