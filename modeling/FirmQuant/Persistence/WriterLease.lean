import Mathlib.Logic.Function.Basic
import Mathlib.Logic.Relation
import FirmQuant.Foundation.Trace
import FirmQuant.Domain.States

/-!
# The writer lease

`WriterLease` of `persistence/writer_lease.py`.  A lease is a file lock of the operating system, a
row of the database that expires, and an object that remembers that it was once found lost.

The system has any number of handles in any number of processes.  Clock readings, transactions and
the file lock are steps of their own, so that the calls of all processes interleave at each of them.
The file lock has one holder and is freed when the holder closes it or its process crashes; the
clock is shared and does not go back.
-/

namespace FirmQuant

/-! ## One lease -/

/-- The row of `writer_leases`, by the columns that are read. -/
structure WriterLeaseRow where
  owner : String
  hostHash : String
  processId : ℕ
  expiresAt : DateTime
  generation : ℕ
  deriving DecidableEq

/-- What `acquire` is called with, after its checks, and what it asks the system for. -/
structure Acquisition where
  owner : String
  hostHash : String
  processId : ℕ
  ttl : Duration
  owner_canonical : canonicalText owner = true
  owner_short : owner.length ≤ 128
  ttl_bounds : 5 * second ≤ ttl ∧ ttl ≤ 5 * minute

/-- A `WriterLease`. -/
structure WriterLease where
  owner : String
  hostHash : String
  processId : ℕ
  generation : ℕ
  expiresAt : DateTime
  ttl : Duration
  /-- `_active`. -/
  active : Bool
  /-- `_lost`. -/
  lost : Bool

namespace WriterLease

/-- The row that the transaction of `acquire` leaves, for a clock reading before it. -/
def acquireRow (a : Acquisition) (now : DateTime) :
    Option WriterLeaseRow → Except String WriterLeaseRow
  | none => .ok ⟨a.owner, a.hostHash, a.processId, now + a.ttl, 1⟩
  | some existing =>
    if now < existing.expiresAt then .error "database writer lease has not expired"
    else .ok ⟨a.owner, a.hostHash, a.processId, now + a.ttl, existing.generation + 1⟩

/-- The lease that `acquire` returns for its row. -/
def ofRow (a : Acquisition) (row : WriterLeaseRow) : WriterLease where
  owner := a.owner
  hostHash := a.hostHash
  processId := a.processId
  generation := row.generation
  expiresAt := row.expiresAt
  ttl := a.ttl
  active := true
  lost := false

/-- The stored row names this lease. -/
def owns (l : WriterLease) (row : WriterLeaseRow) : Bool :=
  row.owner = l.owner && row.hostHash = l.hostHash && row.processId = l.processId &&
    row.generation = l.generation

/-- What `assert_current` and `renew` demand of the stored row, for a clock reading before it. -/
def checkRow (l : WriterLease) (now : DateTime) : Option WriterLeaseRow → Except String Unit
  | none => .error "writer lease generation or owner changed"
  | some row =>
    if l.owns row = false then .error "writer lease generation or owner changed"
    else if row.expiresAt ≤ now then .error "writer lease expired"
    else .ok ()

/-- `assert_current` at once. -/
def assertCurrent (l : WriterLease) (now : DateTime) (row : Option WriterLeaseRow) :
    Except String Unit :=
  if l.active = false then .error "writer lease is no longer active"
  else if l.lost = true then .error "writer lease was previously lost"
  else l.checkRow now row

/-- The row that `renew` leaves.  Its `UPDATE` names the row that the same transaction has read. -/
def renewedRow (l : WriterLease) (now : DateTime) (row : WriterLeaseRow) : WriterLeaseRow :=
  { row with expiresAt := now + l.ttl }

/-- The row that the `DELETE` of `release` leaves. -/
def releasedRow (l : WriterLease) : Option WriterLeaseRow → Option WriterLeaseRow
  | none => none
  | some row => if l.owns row then none else some row

end WriterLease

/-! ## All leases on one database -/

/-- Where a call on a lease is. -/
inductive LeasePhase
  | idle
  /-- `assert_current` after its clock reading. -/
  | checking (now : DateTime)
  /-- `renew` after its clock reading. -/
  | renewing (now : DateTime)
  /-- `release` after its transaction. -/
  | releasing

/-- The state of a handle on the lock file. -/
inductive HandleState
  /-- The file is locked; then the clock is read. -/
  | acquiring (a : Acquisition) (now : Option DateTime)
  | held (l : WriterLease) (phase : LeasePhase)
  /-- The file was closed without a lease, or the process is gone. -/
  | gone

/-- The states in which a handle has the file lock. -/
def HandleState.locks : HandleState → Bool
  | .acquiring .. => true
  | .held l _ => l.active
  | .gone => false

/-- A call past its first checks is made on a lease that passed them, at a time that was read. -/
def HandleState.Timely (time : DateTime) : HandleState → Prop
  | .acquiring _ now => ∀ reading ∈ now, reading ≤ time
  | .held l (.checking now) => l.active = true ∧ l.lost = false ∧ now ≤ time
  | .held l (.renewing now) => l.active = true ∧ l.lost = false ∧ now ≤ time
  | .held l .releasing => l.active = true
  | .held _ .idle => True
  | .gone => True

/-- A lease that is given up, and no check of it is under way. -/
def HandleState.failed : HandleState → Prop
  | .held l .idle => l.active = false ∨ l.lost = true
  | .held l .releasing => l.lost = true
  | .gone => True
  | _ => False

/-- A handle and the process that has it. -/
structure LeaseHandle where
  process : ℕ
  state : HandleState

/-- What is recorded of the calls. -/
inductive LeaseEvent
  | acquired (handle : ℕ) (time : DateTime)
  | passed (handle : ℕ) (time : DateTime)
  | renewed (handle : ℕ) (time : DateTime)
  | failed (handle : ℕ) (time : DateTime)
  deriving DecidableEq

/-- The clock, the row, the holder of the file lock, the handles, and the trace. -/
structure LeaseSystem where
  time : DateTime
  row : Option WriterLeaseRow
  lock : Option ℕ
  handles : ℕ → Option LeaseHandle
  trace : List LeaseEvent

namespace LeaseSystem

/-- The system with another state of a handle. -/
def setHandle (s : LeaseSystem) (handle process : ℕ) (state : HandleState) : LeaseSystem :=
  { s with handles := Function.update s.handles handle (some ⟨process, state⟩) }

/-- The system with one more event. -/
def record (s : LeaseSystem) (event : LeaseEvent) : LeaseSystem :=
  { s with trace := s.trace ++ [event] }

/-- A handle after the crash of a process. -/
def crashed (process : ℕ) (h : LeaseHandle) : LeaseHandle :=
  if h.process = process then { h with state := .gone } else h

/-- The file lock after the crash of a process. -/
def lockAfterCrash (s : LeaseSystem) (process : ℕ) : Option ℕ :=
  s.lock.filter fun handle => (s.handles handle).all fun h => h.process ≠ process

/-- The system after the crash of a process. -/
def crash (s : LeaseSystem) (process : ℕ) : LeaseSystem :=
  { s with
    lock := s.lockAfterCrash process
    handles := fun handle => (s.handles handle).map (crashed process) }

/-- The file lock after a handle has given it up. -/
def unlock (s : LeaseSystem) : LeaseSystem := { s with lock := none }

/-- One step of the system. -/
inductive Step : LeaseSystem → LeaseSystem → Prop
  | tick {s : LeaseSystem} {time : DateTime} (hle : s.time ≤ time) :
      Step s { s with time := time }
  /-- `acquire` locks the file; if it is locked already, the call raises and nothing changes. -/
  | lockFile {s : LeaseSystem} {handle process : ℕ} {a : Acquisition}
      (hunused : s.handles handle = none) (hfree : s.lock = none) :
      Step s { s.setHandle handle process (.acquiring a none) with lock := some handle }
  | readClock {s : LeaseSystem} {handle process : ℕ} {a : Acquisition}
      (hstate : s.handles handle = some ⟨process, .acquiring a none⟩) :
      Step s (s.setHandle handle process (.acquiring a (some s.time)))
  | acquire {s : LeaseSystem} {handle process : ℕ} {a : Acquisition} {now : DateTime}
      {row : WriterLeaseRow} (hstate : s.handles handle = some ⟨process, .acquiring a (some now)⟩)
      (hrow : WriterLease.acquireRow a now s.row = .ok row) :
      Step s (({ s with row := some row }.setHandle handle process
        (.held (.ofRow a row) .idle)).record (.acquired handle s.time))
  | acquireFails {s : LeaseSystem} {handle process : ℕ} {a : Acquisition} {now : DateTime}
      {message : String} (hstate : s.handles handle = some ⟨process, .acquiring a (some now)⟩)
      (hrow : WriterLease.acquireRow a now s.row = .error message) :
      Step s (s.setHandle handle process .gone).unlock
  /-- `assert_current` and `renew` on a lease that is released or lost. -/
  | refuse {s : LeaseSystem} {handle process : ℕ} {l : WriterLease}
      (hstate : s.handles handle = some ⟨process, .held l .idle⟩)
      (hlost : l.active = false ∨ l.lost = true) :
      Step s (s.record (.failed handle s.time))
  | beginCheck {s : LeaseSystem} {handle process : ℕ} {l : WriterLease}
      (hstate : s.handles handle = some ⟨process, .held l .idle⟩)
      (hactive : l.active = true) (hkept : l.lost = false) :
      Step s (s.setHandle handle process (.held l (.checking s.time)))
  | pass {s : LeaseSystem} {handle process : ℕ} {l : WriterLease} {now : DateTime}
      (hstate : s.handles handle = some ⟨process, .held l (.checking now)⟩)
      (hrow : l.checkRow now s.row = .ok ()) :
      Step s ((s.setHandle handle process (.held l .idle)).record (.passed handle s.time))
  | fail {s : LeaseSystem} {handle process : ℕ} {l : WriterLease} {now : DateTime}
      {message : String}
      (hstate : s.handles handle = some ⟨process, .held l (.checking now)⟩ ∨
        s.handles handle = some ⟨process, .held l (.renewing now)⟩)
      (hrow : l.checkRow now s.row = .error message) :
      Step s ((s.setHandle handle process (.held { l with lost := true } .idle)).record
        (.failed handle s.time))
  | beginRenew {s : LeaseSystem} {handle process : ℕ} {l : WriterLease}
      (hstate : s.handles handle = some ⟨process, .held l .idle⟩)
      (hactive : l.active = true) (hkept : l.lost = false) :
      Step s (s.setHandle handle process (.held l (.renewing s.time)))
  | renew {s : LeaseSystem} {handle process : ℕ} {l : WriterLease} {now : DateTime}
      {row : WriterLeaseRow} (hstate : s.handles handle = some ⟨process, .held l (.renewing now)⟩)
      (hstored : s.row = some row) (hrow : l.checkRow now s.row = .ok ()) :
      Step s (({ s with row := some (l.renewedRow now row) }.setHandle handle process
        (.held { l with expiresAt := now + l.ttl } .idle)).record (.renewed handle s.time))
  /-- The transaction of `release`, which deletes the row unless it is told not to, or fails. -/
  | beginRelease {s : LeaseSystem} {handle process : ℕ} {l : WriterLease} (removed : Bool)
      (hstate : s.handles handle = some ⟨process, .held l .idle⟩) (hactive : l.active = true) :
      Step s ({ s with row := if removed then l.releasedRow s.row else s.row }.setHandle
        handle process (.held l .releasing))
  | release {s : LeaseSystem} {handle process : ℕ} {l : WriterLease}
      (hstate : s.handles handle = some ⟨process, .held l .releasing⟩) :
      Step s (s.setHandle handle process (.held { l with active := false } .idle)).unlock
  | crash {s : LeaseSystem} (process : ℕ) : Step s (s.crash process)

/-- Before any handle is opened; a row may be left of leases before. -/
structure Fresh (s : LeaseSystem) : Prop where
  lock : s.lock = none
  handles : ∀ handle, s.handles handle = none
  trace : s.trace = []

/-- `assert_current` of the lease of this handle passes now. -/
def Passes (s : LeaseSystem) (handle : ℕ) : Prop :=
  ∃ process l phase, s.handles handle = some ⟨process, .held l phase⟩ ∧
    l.assertCurrent s.time s.row = .ok ()

/-! ## What every step keeps -/

/-- What holds of a handle: it has the lock if it needs it, and it has not passed after it failed.
-/
structure SoundHandle (s : LeaseSystem) (handle : ℕ) (h : LeaseHandle) : Prop where
  locked : h.state.locks = true → s.lock = some handle
  timely : h.state.Timely s.time
  failed : ∀ time, .failed handle time ∈ s.trace → h.state.failed

/-- A check that passed is not one of a lease that had failed. -/
def NotAgain (before : List LeaseEvent) (event : LeaseEvent) : Prop :=
  ∀ handle time failedAt, event = .passed handle time → .failed handle failedAt ∉ before

/-- The invariant. -/
structure Sound (s : LeaseSystem) : Prop where
  handles : ∀ handle h, s.handles handle = some h → s.SoundHandle handle h
  unused : ∀ handle time, s.handles handle = none → .failed handle time ∉ s.trace
  trace : Trace.Obeys NotAgain s.trace

section Steps

variable {s s' : LeaseSystem} {handle process : ℕ} {state : HandleState} {event : LeaseEvent}

lemma timely_mono {time time' : DateTime} (hle : time ≤ time') (h : state.Timely time) :
    state.Timely time' := by
  cases state with
  | acquiring a now => exact fun reading hreading => (h reading hreading).trans hle
  | held l phase =>
    cases phase with
    | checking now | renewing now => exact ⟨h.1, h.2.1, h.2.2.trans hle⟩
    | releasing => exact h
    | idle => trivial
  | gone => trivial

/-- A step of one handle keeps what holds of the others, if it does not take their lock. -/
lemma Sound.step (hs : Sound s)
    (hhandles : s'.handles = Function.update s.handles handle (some ⟨process, state⟩))
    (htime : s'.time = s.time)
    (hlock : ∀ other, other ≠ handle → s.lock = some other → s'.lock = some other)
    (hself : s'.SoundHandle handle ⟨process, state⟩)
    (hfailed : ∀ other time, other ≠ handle → .failed other time ∈ s'.trace →
      .failed other time ∈ s.trace)
    (htrace : Trace.Obeys NotAgain s'.trace) : Sound s' where
  handles := by
    intro other h hother
    rw [hhandles] at hother
    by_cases hsame : other = handle
    · subst hsame
      rw [Function.update_self] at hother
      cases hother
      exact hself
    · rw [Function.update_of_ne hsame] at hother
      have hsound := hs.handles other h hother
      refine ⟨fun hlocks => hlock other hsame (hsound.locked hlocks), ?_, ?_⟩
      · rw [htime]
        exact hsound.timely
      · exact fun time htime => hsound.failed time (hfailed other time hsame htime)
  unused := by
    intro other time hother
    rw [hhandles] at hother
    by_cases hsame : other = handle
    · subst hsame
      simp at hother
    · rw [Function.update_of_ne hsame] at hother
      exact fun hmem => hs.unused other time hother (hfailed other time hsame hmem)
  trace := htrace

/-- A check that passed is recorded of a lease that has not failed. -/
lemma Sound.record_passed (hs : Sound s) (hstate : s.handles handle = some ⟨process, state⟩)
    (hkept : ¬ state.failed) (time : DateTime) :
    Trace.Obeys NotAgain (s.trace ++ [.passed handle time]) := by
  refine hs.trace.append ?_
  intro other at' failedAt hevent hmem
  cases hevent
  exact hkept ((hs.handles handle _ hstate).failed failedAt hmem)

lemma Sound.record_other (hs : Sound s) (hevent : ∀ handle time, event ≠ .passed handle time) :
    Trace.Obeys NotAgain (s.trace ++ [event]) :=
  hs.trace.append fun other time _ h => absurd h (hevent other time)

lemma Sound.unlock_other (hs : Sound s) (hstate : s.handles handle = some ⟨process, state⟩)
    (hlocks : state.locks = true) {lock : Option ℕ} :
    ∀ other, other ≠ handle → s.lock = some other → lock = some other := by
  intro other hne hlock
  rw [(hs.handles handle _ hstate).locked hlocks] at hlock
  exact absurd (Option.some.inj hlock).symm hne

variable {state' : HandleState}

variable {row : Option WriterLeaseRow}

/-- The new state of a handle, when the trace and the lock are the same. -/
lemma SoundHandle.move (h : s.SoundHandle handle ⟨process, state⟩)
    (hlocks : state'.locks = true → state.locks = true) (htimely : state'.Timely s.time)
    (hfailed : state.failed → state'.failed) :
    ({ s with row := row }.setHandle handle process state').SoundHandle handle
      ⟨process, state'⟩ :=
  ⟨fun hlocked => h.locked (hlocks hlocked), htimely, fun time htime =>
    hfailed (h.failed time htime)⟩

/-- The new state of a handle after one more event, which is no failure. -/
lemma SoundHandle.recorded {h : LeaseHandle} (hsound : s.SoundHandle handle h)
    (hevent : ∀ time, event ≠ .failed handle time) : (s.record event).SoundHandle handle h := by
  refine ⟨hsound.locked, hsound.timely, fun time htime => hsound.failed time ?_⟩
  rcases List.mem_snoc.mp htime with htime | htime
  · exact htime
  · exact absurd htime.symm (hevent time)

/-- Failures of other handles are as old as before. -/
lemma failed_of_record (hevent : ∀ other time, other ≠ handle → event ≠ .failed other time) :
    ∀ other time, other ≠ handle → .failed other time ∈ (s.record event).trace →
      .failed other time ∈ s.trace := by
  intro other time hne hmem
  rcases List.mem_snoc.mp hmem with hmem | hmem
  · exact hmem
  · exact absurd hmem.symm (hevent other time hne)

lemma Sound.acquire (hs : Sound s) {a : Acquisition} {now : DateTime} {row : WriterLeaseRow}
    (hstate : s.handles handle = some ⟨process, .acquiring a (some now)⟩) :
    Sound (({ s with row := some row }.setHandle handle process
      (.held (.ofRow a row) .idle)).record (.acquired handle s.time)) := by
  have hself : ({ s with row := some row }.setHandle handle process
      (.held (.ofRow a row) .idle)).SoundHandle handle ⟨process, .held (.ofRow a row) .idle⟩ :=
    (hs.handles handle _ hstate).move (fun _ => rfl) trivial fun h => h.elim
  exact hs.step rfl rfl (fun _ _ h => h) (hself.recorded (by simp))
    (failed_of_record (by simp)) (hs.record_other (by simp))

lemma Sound.fail (hs : Sound s) {l : WriterLease} {phase : LeasePhase}
    (hstate : s.handles handle = some ⟨process, .held l phase⟩)
    (hactive : l.active = true) :
    Sound ((s.setHandle handle process (.held { l with lost := true } .idle)).record
      (.failed handle s.time)) := by
  have hself := hs.handles handle _ hstate
  refine hs.step rfl rfl (fun _ _ h => h) ?_ (failed_of_record ?_) (hs.record_other (by simp))
  · exact ⟨fun _ => hself.locked hactive, trivial, fun _ _ => .inr rfl⟩
  · intro other time hne h
    cases h
    exact hne rfl

/-- The system moves to another state of one handle, without an event. -/
lemma Sound.move (hs : Sound s) (hstate : s.handles handle = some ⟨process, state⟩)
    (hlocks : state'.locks = true → state.locks = true) (htimely : state'.Timely s.time)
    (hfailed : state.failed → state'.failed) :
    Sound ({ s with row := row }.setHandle handle process state') :=
  hs.step rfl rfl (fun _ _ h => h) ((hs.handles handle _ hstate).move hlocks htimely hfailed)
    (fun _ _ _ h => h) hs.trace

lemma Sound.unlock (hs : Sound s) (hstate : s.handles handle = some ⟨process, state⟩)
    (hlocks : state.locks = true) (hfree : state'.locks = false) (htimely : state'.Timely s.time)
    (hfailed : state.failed → state'.failed) :
    Sound (s.setHandle handle process state').unlock := by
  have hself := hs.handles handle _ hstate
  refine hs.step rfl rfl (hs.unlock_other hstate hlocks) ?_ (fun _ _ _ h => h) hs.trace
  refine ⟨fun h => ?_, htimely, fun time htime => hfailed (hself.failed time htime)⟩
  rw [hfree] at h
  cases h

lemma Sound.crash (hs : Sound s) (process : ℕ) : Sound (s.crash process) where
  handles := by
    intro handle h hh
    obtain ⟨h, hbefore, rfl⟩ := Option.map_eq_some_iff.mp hh
    have hsound := hs.handles handle h hbefore
    unfold crashed
    by_cases hgone : h.process = process
    · rw [if_pos hgone]
      exact ⟨fun hlocks => absurd hlocks (by simp [HandleState.locks]), trivial, fun _ _ => trivial⟩
    · rw [if_neg hgone]
      refine ⟨fun hlocks => ?_, hsound.timely, hsound.failed⟩
      have hlock := hsound.locked hlocks
      simp [LeaseSystem.crash, lockAfterCrash, hlock, hbefore, hgone]
  unused := by
    intro handle time hh
    exact hs.unused handle time (Option.map_eq_none_iff.mp hh)
  trace := hs.trace

lemma Sound.next (hs : Sound s) (hstep : Step s s') : Sound s' := by
  cases hstep with
  | tick hle =>
    refine ⟨fun handle h hh => ?_, hs.unused, hs.trace⟩
    have hsound := hs.handles handle h hh
    exact ⟨hsound.locked, timely_mono hle hsound.timely, hsound.failed⟩
  | @lockFile handle process a hunused hfree =>
    refine hs.step rfl rfl (fun other _ hlock => ?_) ?_ (fun _ _ _ h => h) hs.trace
    · rw [hfree] at hlock
      cases hlock
    · refine ⟨fun _ => rfl, by simp [HandleState.Timely], fun time htime => ?_⟩
      exact absurd htime (hs.unused handle time hunused)
  | readClock hstate =>
    exact hs.move hstate (fun h => h) (by simp [HandleState.Timely]) fun h => h.elim
  | acquire hstate hrow => exact hs.acquire hstate
  | acquireFails hstate hrow =>
    exact hs.unlock hstate rfl rfl trivial fun h => h.elim
  | @refuse handle process l hstate hlost =>
    refine ⟨fun other h hh => ?_, fun other time hh hmem => ?_, hs.record_other (by simp)⟩
    · have hsound := hs.handles other h hh
      refine ⟨hsound.locked, hsound.timely, fun time htime => ?_⟩
      rcases List.mem_snoc.mp htime with htime | htime
      · exact hsound.failed time htime
      · cases htime
        obtain rfl : h = ⟨process, .held l .idle⟩ := Option.some.inj (hh.symm.trans hstate)
        exact hlost
    · rcases List.mem_snoc.mp hmem with hmem | hmem
      · exact hs.unused other time hh hmem
      · cases hmem
        exact absurd (hh.symm.trans hstate) (by simp)
  | beginCheck hstate hactive hkept | beginRenew hstate hactive hkept =>
    refine hs.move hstate (fun h => h) ⟨hactive, hkept, le_refl _⟩ fun h => ?_
    rcases h with h | h
    · exact absurd (hactive.symm.trans h) (by simp)
    · exact absurd (hkept.symm.trans h) (by simp)
  | @pass handle process l now hstate hrow =>
    have hself : (s.setHandle handle process (.held l .idle)).SoundHandle handle
        ⟨process, .held l .idle⟩ :=
      (hs.handles handle _ hstate).move (fun h => h) trivial fun h => h.elim
    exact hs.step rfl rfl (fun _ _ h => h) (hself.recorded (by simp)) (failed_of_record (by simp))
      (hs.record_passed hstate (fun h => h) s.time)
  | fail hstate hrow =>
    rcases hstate with hstate | hstate
    all_goals exact hs.fail hstate (hs.handles _ _ hstate).timely.1
  | @renew handle process l now row hstate hstored hrow =>
    have hself : ({ s with row := some (l.renewedRow now row) }.setHandle handle process
        (.held { l with expiresAt := now + l.ttl } .idle)).SoundHandle handle
        ⟨process, .held { l with expiresAt := now + l.ttl } .idle⟩ :=
      (hs.handles handle _ hstate).move (fun h => h) trivial fun h => h.elim
    exact hs.step rfl rfl (fun _ _ h => h) (hself.recorded (by simp)) (failed_of_record (by simp))
      (hs.record_other (by simp))
  | beginRelease removed hstate hactive =>
    refine hs.move hstate (fun h => h) hactive fun h => ?_
    rcases h with h | h
    · exact absurd (hactive.symm.trans h) (by simp)
    · exact h
  | release hstate =>
    exact hs.unlock hstate (hs.handles _ _ hstate).timely rfl trivial fun _ => .inl rfl
  | crash process => exact hs.crash process

lemma sound_of_fresh (h : Fresh s) : Sound s where
  handles := by
    intro handle other hother
    rw [h.handles handle] at hother
    cases hother
  unused := by
    intro handle time _
    rw [h.trace]
    simp
  trace := by
    rw [h.trace]
    exact Trace.obeys_nil

lemma Sound.run (hs : Sound s) (hrun : Relation.ReflTransGen Step s s') : Sound s' := by
  induction hrun with
  | refl => exact hs
  | tail _ hstep ih => exact ih.next hstep

lemma Sound.lock_of_passes (hs : Sound s) (h : s.Passes handle) : s.lock = some handle := by
  obtain ⟨process, l, phase, hstate, hpasses⟩ := h
  refine (hs.handles handle _ hstate).locked ?_
  unfold WriterLease.assertCurrent at hpasses
  split_ifs at hpasses with hactive
  simpa [HandleState.locks] using hactive

end Steps

/-! ## The row of an active lease -/

section Recorded

variable {s s' : LeaseSystem} {handle process : ℕ} {state : HandleState}

/-- The stored row is the one of this lease. -/
def StoredFor (row : Option WriterLeaseRow) (l : WriterLease) : Prop :=
  ∃ stored, row = some stored ∧ l.owns stored = true ∧ stored.expiresAt = l.expiresAt

/-- The row of an active lease is stored until its release. -/
def Recorded (s : LeaseSystem) : Prop :=
  ∀ handle process l phase, s.handles handle = some ⟨process, .held l phase⟩ →
    l.active = true → phase ≠ .releasing → StoredFor s.row l

/-- Only the holder of the lock writes the row. -/
lemma Recorded.step (hs : Sound s) (h : Recorded s) {row : Option WriterLeaseRow}
    (hhandles : s'.handles = Function.update s.handles handle (some ⟨process, state⟩))
    (hrow : s'.row = row) (hkept : row = s.row ∨ s.lock = some handle)
    (hself : ∀ l phase, state = .held l phase → l.active = true → phase ≠ .releasing →
      StoredFor row l) : Recorded s' := by
  intro other otherProcess l phase hother hactive hphase
  rw [hrow]
  rw [hhandles] at hother
  by_cases hsame : other = handle
  · subst hsame
    rw [Function.update_self] at hother
    cases hother
    exact hself l phase rfl hactive hphase
  · rw [Function.update_of_ne hsame] at hother
    rcases hkept with rfl | hlock
    · exact h other otherProcess l phase hother hactive hphase
    · have hmine := (hs.handles other _ hother).locked hactive
      rw [hlock] at hmine
      exact absurd (Option.some.inj hmine).symm hsame

lemma storedFor_acquired {a : Acquisition} {now : DateTime} {before : Option WriterLeaseRow}
    {row : WriterLeaseRow} (h : WriterLease.acquireRow a now before = .ok row) :
    StoredFor (some row) (.ofRow a row) := by
  refine ⟨row, rfl, ?_, rfl⟩
  unfold WriterLease.acquireRow at h
  cases before with
  | none =>
    cases h
    simp [WriterLease.owns, WriterLease.ofRow]
  | some existing =>
    dsimp only at h
    split_ifs at h
    cases h
    simp [WriterLease.owns, WriterLease.ofRow]

lemma Recorded.next (hs : Sound s) (h : Recorded s) (hstep : Step s s') : Recorded s' := by
  cases hstep with
  | tick hle => exact h
  | refuse hstate hlost => exact h
  | lockFile hunused hfree | readClock hstate
  | acquireFails hstate hrow => exact h.step hs rfl rfl (.inl rfl) (by simp)
  | acquire hstate hrow =>
    refine h.step hs rfl rfl (.inr ((hs.handles _ _ hstate).locked rfl)) ?_
    intro l phase hl _ _
    cases hl
    exact storedFor_acquired hrow
  | beginCheck hstate hactive hkept | beginRenew hstate hactive hkept =>
    refine h.step hs rfl rfl (.inl rfl) fun l phase hl _ _ => ?_
    cases hl
    exact h _ _ _ _ hstate hactive (by simp)
  | pass hstate hrow =>
    refine h.step hs rfl rfl (.inl rfl) fun l phase hl hactive _ => ?_
    cases hl
    exact h _ _ _ _ hstate hactive (by simp)
  | @fail handle process l now message hstate hrow =>
    refine h.step hs rfl rfl (.inl rfl) fun l' phase hl hactive _ => ?_
    cases hl
    have hsame : l.active = true := hactive
    rcases hstate with hstate | hstate
    all_goals
      obtain ⟨stored, hstored, howns, hexpiry⟩ := h _ _ _ _ hstate hsame (by simp)
      exact ⟨stored, hstored, howns, hexpiry⟩
  | @renew handle process l now row hstate hstored hrow =>
    have hsound := hs.handles _ _ hstate
    refine h.step hs rfl rfl (.inr (hsound.locked hsound.timely.1)) fun l' phase hl _ _ => ?_
    cases hl
    refine ⟨_, rfl, ?_, rfl⟩
    obtain ⟨stored, hsame, howns, -⟩ := h _ _ _ _ hstate hsound.timely.1 (by simp)
    obtain rfl : row = stored := Option.some.inj (hstored.symm.trans hsame)
    exact howns
  | beginRelease removed hstate hactive =>
    refine h.step hs rfl rfl (.inr ((hs.handles _ _ hstate).locked hactive)) ?_
    intro l phase hl _ hphase
    cases hl
    exact absurd rfl hphase
  | release hstate =>
    refine h.step hs rfl rfl (.inl rfl) fun l phase hl hactive _ => ?_
    cases hl
    cases hactive
  | crash process =>
    intro other otherProcess l phase hother hactive hphase
    obtain ⟨kept, hkept, hcrashed⟩ := Option.map_eq_some_iff.mp hother
    unfold crashed at hcrashed
    split_ifs at hcrashed
    · cases hcrashed
    · subst hcrashed
      exact h other otherProcess l phase hkept hactive hphase

lemma Recorded.run (hs : Sound s) (h : Recorded s) (hrun : Relation.ReflTransGen Step s s') :
    Recorded s' := by
  induction hrun with
  | refl => exact h
  | tail hbefore hstep ih => exact ih.next (hs.run hbefore) hstep

lemma recorded_of_fresh (h : Fresh s) : Recorded s := by
  intro handle process l phase hstate
  rw [h.handles handle] at hstate
  cases hstate

end Recorded

/-! ## After a crash -/

section Crash

variable {s s' : LeaseSystem} {row : WriterLeaseRow} {before : List LeaseEvent}

/-- The events since some time. -/
def Since (before : List LeaseEvent) (P : LeaseEvent → Prop) (s : LeaseSystem) : Prop :=
  ∃ later, s.trace = before ++ later ∧ ∀ event ∈ later, P event

/-- An event that no acquisition before the time is. -/
def NotAcquiredBefore (time : DateTime) (event : LeaseEvent) : Prop :=
  ∀ handle acquiredAt, event = .acquired handle acquiredAt → time ≤ acquiredAt

/-- The row is stored and no lease is active, so that nobody writes another row. -/
structure Blocked (row : WriterLeaseRow) (s : LeaseSystem) : Prop where
  row : s.row = some row
  leases : ∀ handle process l phase, s.handles handle = some ⟨process, .held l phase⟩ →
    l.active = false ∧ phase = .idle

/-- What a crash leaves: the row blocks, or it has expired. -/
structure CrashKept (row : WriterLeaseRow) (before : List LeaseEvent) (s : LeaseSystem) :
    Prop where
  state : Blocked row s ∨ row.expiresAt ≤ s.time
  since : Since before (NotAcquiredBefore row.expiresAt) s

lemma Since.record {P : LeaseEvent → Prop} {event : LeaseEvent} (h : Since before P s)
    (hevent : P event) : Since before P (s.record event) := by
  obtain ⟨later, htrace, hlater⟩ := h
  refine ⟨later ++ [event], by simp [LeaseSystem.record, htrace], fun other hother => ?_⟩
  rcases List.mem_snoc.mp hother with hother | hother
  · exact hlater other hother
  · rw [hother]
    exact hevent

variable {handle process : ℕ}

/-- A handle that has no lease moves, or gets none. -/
lemma Blocked.move {state : HandleState} {lock : Option ℕ}
    (h : Blocked row s) (hstate : ∀ l phase, state = .held l phase → l.active = false ∧
      phase = .idle) : Blocked row { s.setHandle handle process state with lock := lock } where
  row := h.row
  leases := by
    intro other otherProcess l phase hother
    change Function.update s.handles handle (some ⟨process, state⟩) other = _ at hother
    by_cases hsame : other = handle
    · subst hsame
      rw [Function.update_self] at hother
      cases hother
      exact hstate l phase rfl
    · rw [Function.update_of_ne hsame] at hother
      exact h.leases other otherProcess l phase hother

variable {l : WriterLease} {phase : LeasePhase}

lemma Blocked.idle (h : Blocked row s)
    (hstate : s.handles handle = some ⟨process, .held l phase⟩) (hphase : phase ≠ .idle) : False :=
  hphase (h.leases handle process l phase hstate).2

lemma time_le_of_step (hstep : Step s s') : s.time ≤ s'.time := by
  cases hstep with
  | tick hle => exact hle
  | _ => exact le_refl _

/-- A step after the expiry acquires after it, too. -/
lemma Since.step {time : DateTime} (h : Since before (NotAcquiredBefore time) s)
    (hexpired : time ≤ s.time) (hstep : Step s s') :
    Since before (NotAcquiredBefore time) s' := by
  cases hstep with
  | acquire => exact Since.record (s := LeaseSystem.setHandle _ _ _ _) h (by
      intro handle acquiredAt hevent
      cases hevent
      exact hexpired)
  | refuse => exact h.record (by simp [NotAcquiredBefore])
  | pass | fail => exact Since.record (s := s.setHandle _ _ _) h (by simp [NotAcquiredBefore])
  | renew => exact Since.record (s := LeaseSystem.setHandle _ _ _ _) h (by simp [NotAcquiredBefore])
  | _ => exact h

/-- A blocked system stays blocked, but for an acquisition after the expiry. -/
lemma CrashKept.next_blocked (hs : Sound s) (h : Blocked row s)
    (hsince : Since before (NotAcquiredBefore row.expiresAt) s) (hstep : Step s s') :
    CrashKept row before s' := by
  cases hstep with
  | tick hle => exact ⟨.inl ⟨h.row, h.leases⟩, hsince⟩
  | lockFile hunused hfree | readClock hstate
  | acquireFails hstate hrow => exact ⟨.inl (h.move (by simp)), hsince⟩
  | @acquire handle process a now acquired hstate hrow =>
    have hearly : ¬ now < row.expiresAt := by
      intro hlt
      rw [h.row] at hrow
      simp [WriterLease.acquireRow, hlt] at hrow
    have hread : now ≤ s.time := (hs.handles handle _ hstate).timely now rfl
    have hexpired : row.expiresAt ≤ s.time := (not_lt.mp hearly).trans hread
    exact ⟨.inr hexpired, hsince.step hexpired (.acquire hstate hrow)⟩
  | refuse hstate hlost =>
    exact ⟨.inl ⟨h.row, h.leases⟩, hsince.record (by simp [NotAcquiredBefore])⟩
  | beginCheck hstate hactive hkept | beginRenew hstate hactive hkept
  | beginRelease removed hstate hactive =>
    rw [(h.leases _ _ _ _ hstate).1] at hactive
    cases hactive
  | pass hstate hrow | renew hstate hstored hrow
  | release hstate => exact (h.idle hstate (by simp)).elim
  | fail hstate hrow =>
    rcases hstate with hstate | hstate
    · exact (h.idle hstate (by simp)).elim
    · exact (h.idle hstate (by simp)).elim
  | crash process =>
    refine ⟨.inl ⟨h.row, fun handle other l phase hother => ?_⟩, hsince⟩
    obtain ⟨kept, hkept, hcrashed⟩ := Option.map_eq_some_iff.mp hother
    unfold crashed at hcrashed
    split_ifs at hcrashed
    · cases hcrashed
    · subst hcrashed
      exact h.leases handle other l phase hkept

lemma CrashKept.next (hs : Sound s) (h : CrashKept row before s) (hstep : Step s s') :
    CrashKept row before s' := by
  rcases h.state with hblocked | hexpired
  · exact .next_blocked hs hblocked h.since hstep
  · exact ⟨.inr (hexpired.trans (time_le_of_step hstep)), h.since.step hexpired hstep⟩

lemma CrashKept.run (hs : Sound s) (h : CrashKept row before s)
    (hrun : Relation.ReflTransGen Step s s') : CrashKept row before s' := by
  induction hrun with
  | refl => exact h
  | tail hbefore hstep ih => exact ih.next (hs.run hbefore) hstep

/-- The crash of a process with an active lease blocks the others. -/
lemma Sound.blocked_of_crash (hs : Sound s)
    (hstate : s.handles handle = some ⟨process, .held l phase⟩) (hactive : l.active = true)
    (hrow : s.row = some row) : Blocked row (s.crash process) where
  row := hrow
  leases := by
    intro other otherProcess l' phase' hother
    obtain ⟨h, hbefore, hcrashed⟩ := Option.map_eq_some_iff.mp hother
    unfold crashed at hcrashed
    split_ifs at hcrashed with hsame
    · cases hcrashed
    · subst hcrashed
      have hsound := hs.handles other _ hbefore
      have hinactive : l'.active = false := by
        by_contra hnot
        rw [Bool.not_eq_false] at hnot
        have hlock := hsound.locked hnot
        rw [(hs.handles handle _ hstate).locked hactive] at hlock
        obtain rfl := Option.some.inj hlock
        rw [hstate] at hbefore
        cases hbefore
        exact hsame rfl
      refine ⟨hinactive, ?_⟩
      have htimely := hsound.timely
      cases phase' with
      | idle => rfl
      | checking now | renewing now => exact absurd (hinactive.symm.trans htimely.1) (by simp)
      | releasing => exact absurd (hinactive.symm.trans htimely) (by simp)

end Crash

/-- At every instant at most one lease passes `assert_current`; a lease that failed a check does not
pass one afterwards; and after the crash of a process with an active lease nobody acquires before
the expiry that is stored, which is the one of the lease unless its release has begun. -/
theorem single_writer {s₀ s : LeaseSystem} (hfresh : Fresh s₀)
    (hrun : Relation.ReflTransGen Step s₀ s) :
    (∀ handle handle', s.Passes handle → s.Passes handle' → handle = handle') ∧
    Trace.Obeys NotAgain s.trace ∧
    ∀ handle process l phase, s.handles handle = some ⟨process, .held l phase⟩ →
      l.active = true →
      (phase ≠ .releasing → StoredFor s.row l) ∧
      ∀ row s', s.row = some row → Relation.ReflTransGen Step (s.crash process) s' →
        Since s.trace (NotAcquiredBefore row.expiresAt) s' := by
  have hs : Sound s := (sound_of_fresh hfresh).run hrun
  refine ⟨fun handle handle' hpasses hpasses' => ?_, hs.trace, ?_⟩
  · have hlock := hs.lock_of_passes hpasses
    have hlock' := hs.lock_of_passes hpasses'
    rw [hlock] at hlock'
    exact Option.some.inj hlock'
  · intro handle process l phase hstate hactive
    have hrecorded := (recorded_of_fresh hfresh).run (sound_of_fresh hfresh) hrun
    refine ⟨hrecorded handle process l phase hstate hactive, fun row s' hrow hafter => ?_⟩
    have hblocked := hs.blocked_of_crash hstate hactive hrow
    have hkept : CrashKept row s.trace (s.crash process) :=
      ⟨.inl hblocked, [], (List.append_nil _).symm, by simp⟩
    exact (hkept.run (hs.crash process) hafter).since

namespace Sample

/-- What the daemon asks for. -/
def acquisition : Acquisition :=
  ⟨"daemon", "host", 7, 30 * second, by decide, by decide +kernel, by decide⟩

def start : LeaseSystem := ⟨0, none, none, fun _ => none, []⟩

def row : WriterLeaseRow := ⟨"daemon", "host", 7, 30 * second, 1⟩

/-- The lease of the first handle is acquired by process 1. -/
def held : LeaseSystem where
  time := 0
  row := some row
  lock := some 0
  handles := Function.update (fun _ => none) 0 (some ⟨1, .held (.ofRow acquisition row) .idle⟩)
  trace := [.acquired 0 0]

/-- The first handle has locked the file, and reads the clock. -/
def locking (now : Option DateTime) : LeaseSystem where
  time := 0
  row := none
  lock := some 0
  handles := Function.update (fun _ => none) 0 (some ⟨1, .acquiring acquisition now⟩)
  trace := []

lemma run_held : Relation.ReflTransGen Step start held := by
  have hlock : Step start (locking none) := .lockFile rfl rfl
  have hstate : ∀ now, (locking now).handles 0 = some ⟨1, .acquiring acquisition now⟩ := by
    simp [locking]
  have hclock : Step (locking none) (locking (some 0)) := by
    have hsame : locking (some 0) =
        (locking none).setHandle 0 1 (.acquiring acquisition (some 0)) := by
      simp [setHandle, locking]
    rw [hsame]
    exact .readClock (hstate none)
  have hacquire : Step (locking (some 0)) held := by
    have hsame : held = (LeaseSystem.setHandle { locking (some 0) with row := some row } 0 1
        (.held (.ofRow acquisition row) .idle)).record (.acquired 0 0) := by
      simp [held, LeaseSystem.record, setHandle, locking]
    rw [hsame]
    exact .acquire (hstate (some 0)) (by decide)
  exact ((Relation.ReflTransGen.single hlock).tail hclock).tail hacquire

end Sample

/-- The lease of the sample passes, no other does, and its crash blocks for thirty seconds. -/
theorem held_alone : Sample.held.Passes 0 ∧ (∀ handle, Sample.held.Passes handle → handle = 0) ∧
    ∀ s', Relation.ReflTransGen Step (Sample.held.crash 1) s' →
      Since Sample.held.trace (NotAcquiredBefore (30 * second)) s' := by
  have hstate : Sample.held.handles 0 =
      some ⟨1, .held (.ofRow Sample.acquisition Sample.row) .idle⟩ := by
    simp [Sample.held]
  have hpasses : Sample.held.Passes 0 := ⟨1, _, _, hstate, by decide⟩
  obtain ⟨hone, -, hcrash⟩ := single_writer ⟨rfl, fun _ => rfl, rfl⟩ Sample.run_held
  exact ⟨hpasses, fun handle h => hone handle 0 h hpasses,
    fun s' => (hcrash 0 1 _ _ hstate rfl).2 _ s' rfl⟩

end LeaseSystem

end FirmQuant
