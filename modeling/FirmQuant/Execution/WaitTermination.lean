import FirmQuant.Execution.Deadlines
import Mathlib.Algebra.Order.Group.MinMax

/-!
# The wait for an order ends

`_wait_until_deadline` polls until the order is closed, a deadline has passed or a step raises.
On a monotonic clock that a sleep moves on by at least its duration, each poll either covers a
whole poll interval or reaches the deadline.  The polls still possible are therefore bounded by
the distance to the deadline, in poll intervals, and `_finish_open_order` adds at most the one
poll of the minimum lifetime.

A loop that runs out of fuel has polled as often as it was given fuel.  A run that polls `n` times
and is the same for every fuel above `n` is thus a run of the loop of the source, which has none.
-/

namespace FirmQuant

open Effect

namespace LiveController

variable {B : Type} {p : Ports B} {config : LiveConfig}

/-! ## Polls -/

/-- The number of polls in a trace: each starts with a sleep. -/
def polls (trace : List (Observation B)) : ℕ :=
  trace.countP fun
    | .sleep _ => true
    | _ => false

/-- The trace has `n` polls. -/
def Polled (n : ℕ) (w : World B) : Prop := polls w.trace = n

lemma polls_sleep {trace : List (Observation B)} {duration : ℚ} :
    polls (trace ++ [.sleep duration]) = polls trace + 1 := by
  simp [polls]

namespace Polled

variable {n : ℕ} {w : World B}

/-- Only a sleep counts. -/
lemma append (h : Polled n w) {o : Observation B} (ho : ∀ duration, o ≠ .sleep duration) :
    Polled n { w with trace := w.trace ++ [o] } := by
  cases o with
  | sleep duration => exact absurd rfl (ho duration)
  | _ => simpa [Polled, polls] using h

variable {a : OrderAggregate}

lemma keeps_call {α : Type} {port : B → Except Failure α × B} : Keeps (Polled n) (call port) :=
  LiveController.keeps_call fun _ hw => hw

lemma keeps_clock : Keeps (Polled n) (clock p) :=
  keeps_bind keeps_call fun _ => keeps_bind (keeps_modify fun _ hw => hw.append (by simp)) fun _ =>
    keeps_pure

lemma keeps_commit {α : Type} {x : LedgerTxn α} : Keeps (Polled n) (inTransaction x : Live B α) :=
  keeps_inTransaction fun _ _ _ _ hw => hw

lemma keeps_monotonic : Keeps (Polled n) (monotonic p) :=
  triple_monotonic_of (fun _ _ _ hw => hw.append (by simp)) fun _ _ hw => hw.append (by simp)

lemma keeps_cancelOrder {brokerOrderId : String} : Keeps (Polled n) (cancelOrder p brokerOrderId) :=
  triple_cancelOrder_of fun _ _ hw => hw.append (by simp)

lemma triple_sleep {duration : ℚ} {E : World B → Prop} :
    Triple (Polled n) (sleep p duration) (fun _ => Polled (n + 1)) E :=
  fun _ hw => polls_sleep.trans (congrArg (· + 1) hw)

lemma keeps_guard {aggregate : Option OrderAggregate} :
    Keeps (Polled n) (guard p config aggregate) := by
  refine triple_guard_of (fun _ _ hw => hw.append (by simp)) (fun _ _ hw => hw.append (by simp)) ?_
  refine triple_pre (P := Polled n) ?_ fun w' ⟨w, _, hw, hw'⟩ => hw' ▸ hw.append (by simp)
  exact triple_cancelOnlyAfterLeaseLoss (fun _ hw => hw) (fun _ _ _ _ hw => hw.append (by simp))
    fun w _ _ time _ _ _ _ _ _ hw =>
      (hw.append (o := .monotonic time) (by simp)).append (by simp)

lemma keeps_refreshOpenOrder : Keeps (Polled n) (refreshOpenOrder p config a) := by
  unfold refreshOpenOrder
  split
  · exact keeps_pure
  refine keeps_bind keeps_guard fun _ => keeps_bind keeps_call fun orders => ?_
  split
  · exact keeps_pure
  · refine keeps_bind (keeps_bind keeps_call fun _ => keeps_pure) fun fills => ?_
    exact keeps_bind keeps_guard fun _ => keeps_bind keeps_clock fun _ => keeps_commit
  · exact keeps_throw

lemma keeps_cancelLive : Keeps (Polled n) (cancelLive p config a) := by
  unfold cancelLive
  split
  · exact keeps_throw
  refine keeps_bind keeps_guard fun _ => keeps_bind keeps_clock fun startedAt => ?_
  refine keeps_bind keeps_commit fun ⟨cancelling, attempted⟩ => keeps_bind keeps_guard fun _ => ?_
  refine keeps_bind (keeps_attempt keeps_cancelOrder) fun result => ?_
  split
  · refine keeps_bind keeps_guard fun _ => keeps_bind keeps_clock fun occurredAt => ?_
    exact keeps_ite keeps_commit keeps_commit
  · refine keeps_bind (keeps_bind (keeps_attempt (keeps_bind keeps_call fun _ => keeps_pure))
      fun answer => ?_) fun fills => ?_
    · split <;> exact keeps_pure
    · exact keeps_bind keeps_guard fun _ => keeps_bind keeps_clock fun _ => keeps_commit

lemma keeps_cancelAtWindowEnd : Keeps (Polled n) (cancelAtWindowEnd p config a) := by
  refine keeps_ite (keeps_bind keeps_monotonic fun now => ?_) keeps_pure
  refine keeps_bind (keeps_modify fun _ hw => hw.append (by simp)) fun _ => ?_
  exact keeps_ite keeps_cancelLive keeps_pure

end Polled

/-! ## The clock -/

/-- The next reading of the monotonic clock. -/
def reading (p : Ports B) (b : B) : ℚ := (p.monotonicClock b).1

/-- The monotonic clock never goes back, and a sleep moves it on by at least its duration. -/
structure KeepsTime (p : Ports B) : Prop where
  sleep : ∀ b duration, reading p b + duration ≤ reading p (p.sleep duration b)
  monotonicClock : ∀ b, reading p b ≤ reading p (p.monotonicClock b).2
  clock : ∀ b, reading p b ≤ reading p (p.clock b).2
  leaseCheck : ∀ b, reading p b ≤ reading p (p.leaseCheck b).2
  queryAccount : ∀ b, reading p b ≤ reading p (p.queryAccount b).2
  queryPositions : ∀ b, reading p b ≤ reading p (p.queryPositions b).2
  queryOrders : ∀ b, reading p b ≤ reading p (p.queryOrders b).2
  queryFills : ∀ b, reading p b ≤ reading p (p.queryFills b).2

/-- The trace has `n` polls, and the clock has reached `time`. -/
def PolledAt (p : Ports B) (n : ℕ) (time : ℚ) (w : World B) : Prop :=
  Polled n w ∧ time ≤ reading p w.outside

namespace KeepsTime

variable (h : KeepsTime p) {n : ℕ} {time : ℚ} {a : OrderAggregate}

include h

/-- What does not sleep leaves the clock no earlier: such a program is the same on ports that
sleep for no time. -/
lemma passive : Passive { p with sleep := fun _ b => b } fun w => time ≤ reading p w.outside where
  observe _ _ _ hw := hw
  lastMonotonic _ _ hw := hw
  clock _ hw := hw.trans (h.clock _)
  monotonicClock _ hw := hw.trans (h.monotonicClock _)
  sleep _ _ hw := hw
  leaseCheck _ hw := hw.trans (h.leaseCheck _)
  queryAccount _ hw := hw.trans (h.queryAccount _)
  queryPositions _ hw := hw.trans (h.queryPositions _)
  queryOrders _ hw := hw.trans (h.queryOrders _)
  queryFills _ hw := hw.trans (h.queryFills _)

lemma triple_guard {aggregate : Option OrderAggregate} :
    Triple (PolledAt p n time) (guard p config aggregate) (fun _ => PolledAt p n time)
      (Polled n) := by
  have htime : Achieves (fun w => time ≤ reading p w.outside) (guard p config aggregate)
      fun _ w => time ≤ reading p w.outside := h.passive.achieves_guard
  exact triple_error (triple_and Polled.keeps_guard htime) fun _ hw => hw.1

lemma triple_refreshOpenOrder :
    Triple (PolledAt p n time) (refreshOpenOrder p config a) (fun _ => PolledAt p n time)
      (Polled n) := by
  have hawaits : Awaits { p with sleep := fun _ b => b } config
      (fun _ w => time ≤ reading p w.outside) fun _ => True :=
    ⟨fun _ => h.passive.idle, fun _ => h.passive.achieves_guard, fun _ hw => hw,
      fun _ _ _ => trivial⟩
  have htime : Achieves (fun w => time ≤ reading p w.outside) (refreshOpenOrder p config a)
      fun _ w => time ≤ reading p w.outside := hawaits.triple_refreshOpenOrder
  exact triple_error (triple_and Polled.keeps_refreshOpenOrder htime) fun _ hw => hw.1

/-- A sleep is counted, and the clock reaches its end. -/
lemma triple_sleep {duration : ℚ} :
    Triple (PolledAt p n time) (LiveController.sleep p duration)
      (fun _ => PolledAt p (n + 1) (time + duration)) (Polled (n + 1)) := fun w hw =>
  ⟨polls_sleep.trans (congrArg (· + 1) hw.1),
    (add_le_add_left hw.2 duration).trans (h.sleep w.outside duration)⟩

lemma triple_monotonic : Triple (PolledAt p n time) (monotonic p)
    (fun now w => time ≤ now ∧ PolledAt p n now w) (Polled n) :=
  triple_monotonic_of
    (fun w _ hread hw => ⟨hread ▸ hw.2, hw.1.append (by simp), hread ▸ h.monotonicClock w.outside⟩)
    fun _ _ hw => hw.1.append (by simp)

end KeepsTime

/-! ## Rounds of the loop -/

/-- One round of the loop of `_wait_until_deadline`: the order after a poll, or nothing when the
loop is left. -/
def pollRound (p : Ports B) (config : LiveConfig) (deadline : ℚ) (current : OrderAggregate) :
    Live B (Option OrderAggregate) :=
  if current.state ∉ OrderState.openStates then pure none
  else do
    guard p config (some current)
    let now ← monotonic p
    if deadline ≤ now ∨ config.deadlines.absoluteCompletion ≤ now then pure none
    else do
      let remaining := min (totalSeconds config.windowPolicy.pollInterval)
        (min (deadline - now) (config.deadlines.absoluteCompletion - now))
      if remaining ≤ 0 then pure none
      else do
        sleep p remaining
        let next ← refreshOpenOrder p config current
        pure (some next)

lemma waitUntilDeadline_succ {deadline : ℚ} {fuel : ℕ} {current : OrderAggregate} :
    waitUntilDeadline p config deadline (fuel + 1) current = (do
      match ← pollRound p config deadline current with
      | none => pure current
      | some next => waitUntilDeadline p config deadline fuel next) := by
  unfold pollRound
  rw [waitUntilDeadline]
  split
  · rfl
  · simp only [bind_assoc]
    refine congrArg _ (funext fun _ => congrArg _ (funext fun now => ?_))
    split_ifs <;> simp

variable {deadline : ℚ} {current : OrderAggregate} {n k : ℕ} {w : World B}

/-- The deadline at which the wait gives up is at most `k` poll intervals away. -/
def Within (p : Ports B) (config : LiveConfig) (deadline : ℚ) (k : ℕ) (w : World B) : Prop :=
  min deadline config.deadlines.absoluteCompletion ≤
    reading p w.outside + k * totalSeconds config.windowPolicy.pollInterval

lemma totalSeconds_poll_pos (config : LiveConfig) :
    0 < totalSeconds config.windowPolicy.pollInterval :=
  div_pos (by exact_mod_cast config.windowPolicy.poll_pos) (by norm_num)

/-- A round ends the wait without a poll, or polls once when the deadline is still ahead, and is
then one poll interval closer to it. -/
lemma KeepsTime.triple_pollRound (h : KeepsTime p) :
    Triple (fun w => Polled n w ∧ Within p config deadline k w)
      (pollRound p config deadline current)
      (fun next w => match next with
        | none => Polled n w
        | some _ => ∃ j, k = j + 1 ∧ Polled (n + 1) w ∧ Within p config deadline j w)
      (fun w => Polled n w ∨ 0 < k ∧ Polled (n + 1) w) := by
  intro w ⟨hpolled, hwithin⟩
  suffices hround : Triple (PolledAt p n (reading p w.outside))
      (pollRound p config deadline current) _ _ from hround w ⟨hpolled, le_refl _⟩
  unfold pollRound
  split
  · exact triple_pure fun _ hw => hw.1
  refine triple_bind (triple_error h.triple_guard fun _ hw => .inl hw) fun _ => ?_
  refine triple_bind (triple_error h.triple_monotonic fun _ hw => .inl hw) fun now => ?_
  refine triple_assume fun hnow => ?_
  split
  · exact triple_pure fun _ hw => hw.1
  dsimp only
  split
  · exact triple_pure fun _ hw => hw.1
  rename_i hahead hrest
  rw [not_or, not_le, not_le] at hahead
  have hk : k ≠ 0 := by
    rintro rfl
    rw [Within, Nat.cast_zero, zero_mul, add_zero] at hwithin
    exact absurd (hwithin.trans hnow) (not_le.mpr (lt_min hahead.1 hahead.2))
  obtain ⟨j, rfl⟩ := Nat.exists_eq_succ_of_ne_zero hk
  refine triple_bind (triple_error h.triple_sleep fun _ hw => .inr ⟨j.succ_pos, hw⟩) fun _ => ?_
  refine triple_bind (triple_error h.triple_refreshOpenOrder fun _ hw => .inr ⟨j.succ_pos, hw⟩)
    fun next => ?_
  refine triple_pure fun t ⟨hcount, htime⟩ => ⟨j, rfl, hcount, ?_⟩
  rw [min_sub_sub_right] at htime
  rw [Within, Nat.cast_succ, add_one_mul] at hwithin
  unfold Within
  have hpoll := mul_nonneg j.cast_nonneg (totalSeconds_poll_pos config).le
  rcases min_choice (totalSeconds config.windowPolicy.pollInterval)
    (min deadline config.deadlines.absoluteCompletion - now) with hmin | hmin
  · rw [hmin] at htime
    linarith
  · rw [hmin] at htime
    linarith

/-- The runs from `w`, by their fuel, are one run with at most `k` polls: any fuel above the number
of its polls is enough for it. -/
def EndsWithin (k : ℕ) (w : World B) (x : ℕ → Live B OrderAggregate) : Prop :=
  ∃ n ≤ k, ∃ r, Polled (polls w.trace + n) (finalState r) ∧ ∀ fuel, n < fuel → x fuel w = r

/-- By induction on the number of poll intervals before the deadline. -/
lemma KeepsTime.waitUntilDeadline_endsWithin (h : KeepsTime p)
    (hwithin : Within p config deadline k w) :
    EndsWithin k w (waitUntilDeadline p config deadline · current) := by
  induction k using Nat.strong_induction_on generalizing current w with
  | _ k ih =>
    have hround := @h.triple_pollRound _ _ _ deadline current _ k w ⟨rfl, hwithin⟩
    cases hx : pollRound p config deadline current w with
    | error failure t =>
      rw [hx] at hround
      obtain ⟨m, hm, hcount⟩ : ∃ m ≤ k, Polled (polls w.trace + m) t := by
        rcases hround with ht | ⟨hk, ht⟩
        · exact ⟨0, k.zero_le, ht⟩
        · exact ⟨1, hk, ht⟩
      refine ⟨m, hm, .error failure t, hcount, fun fuel hfuel => ?_⟩
      obtain ⟨rest, rfl⟩ := Nat.exists_eq_add_of_lt hfuel
      simp only [waitUntilDeadline_succ, bind_apply, hx]
    | ok next t =>
      rw [hx] at hround
      cases next with
      | none =>
        refine ⟨0, k.zero_le, .ok current t, hround, fun fuel hfuel => ?_⟩
        obtain ⟨rest, rfl⟩ := Nat.exists_eq_add_of_lt hfuel
        simp only [waitUntilDeadline_succ, bind_apply, hx]
        rfl
      | some next =>
        obtain ⟨j, rfl, hcount, hnear⟩ := hround
        obtain ⟨m, hm, r, hr, hrun⟩ := @ih j j.lt_succ_self next _ hnear
        refine ⟨m + 1, Nat.succ_le_succ hm, r, ?_, fun fuel hfuel => ?_⟩
        · rwa [hcount, add_assoc, add_comm 1] at hr
        obtain ⟨rest, rfl⟩ := Nat.exists_eq_add_of_lt hfuel
        simp only [waitUntilDeadline_succ, bind_apply, hx]
        exact hrun _ (by omega)

/-! ## The polls of a window -/

/-- The poll intervals that fit into the window of an order, rounded up. -/
def windowPolls (config : LiveConfig) (side : Side) : ℕ :=
  ⌈totalSeconds (config.windowPolicy.windowFor side) /
    totalSeconds config.windowPolicy.pollInterval⌉₊

variable {submittedMonotonic : ℚ}

lemma within_window {side : Side} (hsubmitted : submittedMonotonic ≤ reading p w.outside) :
    Within p config (orderDeadline config submittedMonotonic side) (windowPolls config side) w := by
  have hwindow := (div_le_iff₀ (totalSeconds_poll_pos config)).mp
    (Nat.le_ceil (totalSeconds (config.windowPolicy.windowFor side) /
      totalSeconds config.windowPolicy.pollInterval))
  have hdeadline : min (orderDeadline config submittedMonotonic side)
      config.deadlines.absoluteCompletion ≤
      submittedMonotonic + totalSeconds (config.windowPolicy.windowFor side) :=
    (min_le_left _ _).trans (min_le_left _ _)
  exact hdeadline.trans (add_le_add hsubmitted hwindow)

/-- What follows the loop in `_finish_open_order`. -/
def afterWait (p : Ports B) (config : LiveConfig) (submittedMonotonic : ℚ)
    (current : OrderAggregate) : Live B OrderAggregate :=
  if current.state ∉ OrderState.openStates then pure current
  else do
    let rested ← awaitMinimumLifetime p config submittedMonotonic current
    cancelAtWindowEnd p config rested

/-- After the loop there is at most one more poll. -/
lemma triple_afterWait :
    Triple (Polled n) (afterWait p config submittedMonotonic current)
      (fun _ w => ∃ m ≤ 1, Polled (n + m) w) (fun w => ∃ m ≤ 1, Polled (n + m) w) := by
  have hnone : ∀ w : World B, Polled n w → ∃ m ≤ 1, Polled (n + m) w :=
    fun _ hw => ⟨0, Nat.zero_le 1, hw⟩
  have honce : ∀ w : World B, Polled (n + 1) w → ∃ m ≤ 1, Polled (n + m) w :=
    fun _ hw => ⟨1, le_refl 1, hw⟩
  unfold afterWait
  split
  · exact triple_pure hnone
  refine triple_bind (Q := fun _ w => ∃ m ≤ 1, Polled (n + m) w) ?_ fun rested w ⟨m, hm, hw⟩ =>
    triple_imp Polled.keeps_cancelAtWindowEnd (fun _ h => h) (fun _ _ h => ⟨m, hm, h⟩)
      (fun _ h => ⟨m, hm, h⟩) w hw
  refine triple_bind (triple_error Polled.keeps_monotonic hnone) fun now => ?_
  split
  swap
  · exact triple_pure hnone
  dsimp only
  split
  · refine triple_bind Polled.triple_sleep fun _ => ?_
    exact triple_imp Polled.keeps_refreshOpenOrder (fun _ h => h) (fun _ => honce) honce
  · exact triple_pure hnone

/-- The fuel of a configuration is that of its loops. -/
lemma finishOpenOrder_fuel {side : Side} {fuel : ℕ} :
    finishOpenOrder p { config with fuel := fuel } current submittedMonotonic side = (do
      afterWait p config submittedMonotonic (← waitUntilDeadline p config
        (orderDeadline config submittedMonotonic side) fuel current)) := by
  have hwait : ∀ fuel' deadline (a : OrderAggregate),
      waitUntilDeadline p { config with fuel := fuel } deadline fuel' a =
        waitUntilDeadline p config deadline fuel' a := by
    intro fuel' deadline
    induction fuel' with
    | zero => exact fun _ => rfl
    | succ fuel' ih =>
      intro a
      rw [waitUntilDeadline_succ, waitUntilDeadline_succ]
      refine congrArg _ (funext fun next => ?_)
      cases next with
      | none => rfl
      | some next => exact ih next
  rw [← hwait]
  rfl

/-- On a monotonic clock that a sleep moves on by at least its duration, and for an order whose
submission is no later than the next reading, both waits end: `_wait_until_deadline` polls at most
as often as poll intervals fit into the window, rounded up, and `_finish_open_order` at most once
more. -/
theorem finite_polls (h : KeepsTime p) (aggregate : OrderAggregate) (submittedMonotonic : ℚ)
    (side : Side) (w : World B) (hsubmitted : submittedMonotonic ≤ reading p w.outside) :
    EndsWithin (windowPolls config side) w (waitUntilDeadline p config
      (orderDeadline config submittedMonotonic side) · aggregate) ∧
    EndsWithin (windowPolls config side + 1) w fun fuel =>
      finishOpenOrder p { config with fuel := fuel } aggregate submittedMonotonic side := by
  have hwait : EndsWithin (windowPolls config side) w (waitUntilDeadline p config
      (orderDeadline config submittedMonotonic side) · aggregate) :=
    h.waitUntilDeadline_endsWithin (within_window hsubmitted)
  refine ⟨hwait, ?_⟩
  obtain ⟨n, hn, r, hr, hrun⟩ := hwait
  cases r with
  | error failure t =>
    refine ⟨n, Nat.le_succ_of_le hn, .error failure t, hr, fun fuel hfuel => ?_⟩
    simp only [finishOpenOrder_fuel, bind_apply, hrun fuel hfuel]
  | ok current t =>
    obtain ⟨m, hm, hcount⟩ := triple_afterWait.finalState hr
    refine ⟨n + m, Nat.add_le_add hn hm, afterWait p config submittedMonotonic current t,
      by rwa [← add_assoc], fun fuel hfuel => ?_⟩
    simp only [finishOpenOrder_fuel, bind_apply, hrun fuel (by omega)]

/-- An acknowledged SELL. -/
def acknowledgedSell : OrderAggregate where
  toAggregateData := { OrderAggregate.fromIntent
      ⟨⟨"decision", "A", ⟨.sh, "600001"⟩, .sell, 100, 0, "uquant"⟩, by norm_num⟩ with
    state := .acknowledged
    brokerOrderId := some "broker-A" }
  valid := by decide

/-- An order that the desk never fills is waited for to the end of its window. -/
theorem finite_polls_desk :
    EndsWithin (windowPolls unhurried .sell) morning (waitUntilDeadline
      (Desk.ports Desk.filling) unhurried (orderDeadline unhurried 0 .sell) · acknowledgedSell) ∧
    EndsWithin (windowPolls unhurried .sell + 1) morning fun fuel =>
      finishOpenOrder (Desk.ports Desk.filling) { unhurried with fuel := fuel } acknowledgedSell 0
        .sell :=
  finite_polls ⟨fun _ _ => le_refl _, fun _ => le_refl _, fun _ => le_refl _, fun _ => le_refl _,
    fun _ => le_refl _, fun _ => le_refl _, fun _ => le_refl _, fun _ => le_refl _⟩
    acknowledgedSell 0 .sell morning (le_refl _)

end LiveController

end FirmQuant
