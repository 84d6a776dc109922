import Mathlib.Data.Int.ConditionallyCompleteOrder
import FirmQuant.Application.Deployment
import Mathlib.Order.Monotone.Basic

/-!
# The clock readings behind an authorization context

`context_provider` fixes the time of a context by its first reading of the wall clock and only
then asks the broker, whose answers carry later readings.  This module follows the readings
through the assembly of a context: nothing on the way writes to the gateway, and every
observation is stamped with a reading of its own, health with the last one.
-/

namespace FirmQuant

open Effect

namespace Hooks

variable {B : Type} {env : HookEnv B} {writes : List GatewayWrite} {n : ℕ}

/-! ## The frame of an assembly -/

/-- The gateway was written to exactly as `writes` says, and `n` readings are over. -/
structure Frame (writes : List GatewayWrite) (n : ℕ) (s : HookState B) : Prop where
  gatewayWrites : s.gatewayWrites = writes
  readings : n ≤ s.readings

/-- An assertion that further readings do not disturb. -/
def Stable (I : HookState B → Prop) : Prop :=
  ∀ s t, I s → t.gatewayWrites = s.gatewayWrites → s.readings ≤ t.readings → I t

variable {I : HookState B → Prop} {α : Type} {x : Hooks B α} {symbol : Symbol} {ledger : Ledger}
  {snapshot : BrokerSnapshot} {operation : WriteOperation} {subject : WriteSubject}

lemma Stable.keeps (hI : Stable I) (h : ∀ writes n, Keeps (Frame writes n) x) : Keeps I x := by
  intro s hs
  have hx := h s.gatewayWrites s.readings s ⟨rfl, le_refl _⟩
  cases hrun : x s with
  | ok a t | error e t =>
    rw [hrun] at hx
    exact hI s t hs hx.gatewayWrites hx.readings

/-- A time is a reading of the wall clock, made after the first `n` readings. -/
def Stamped (env : HookEnv B) (writes : List GatewayWrite) (n : ℕ) (time : DateTime)
    (s : HookState B) : Prop :=
  Frame writes n s ∧ ∃ k, n ≤ k ∧ k < s.readings ∧ time = env.wallClock k

variable {time : DateTime} {context : WriteAuthorizationContext}

lemma stable_stamped : Stable (Stamped env writes n time) := by
  intro s t ⟨hframe, k, hk, hlt, htime⟩ hwrites hle
  exact ⟨⟨hwrites.trans hframe.gatewayWrites, hframe.readings.trans hle⟩, k, hk,
    hlt.trans_le hle, htime⟩

lemma triple_stamped (h : ∀ writes n, Keeps (Frame writes n) x) :
    Triple (Stamped env writes n time) x (fun _ => Stamped env writes n time)
      (Frame writes n) :=
  triple_error (stable_stamped.keeps h) fun _ hs => hs.1

lemma keeps_of_stamps {time : α → DateTime}
    (h : Triple (Frame writes n) x (fun a => Stamped env writes n (time a)) (Frame writes n)) :
    Keeps (Frame writes n) x :=
  triple_post h (fun _ _ hs => hs.1)

lemma keeps_call (hI : ∀ s b, I s → I { s with outside := b }) {port : B → Except Failure α × B} :
    Keeps I (call port) := by
  intro s hs
  unfold call
  cases h : port s.outside with
  | mk result outside =>
    cases result with
    | ok a | error failure => exact hI s outside hs

lemma keeps_call_frame (port : B → Except Failure α × B) :
    Keeps (Frame writes n) (call port) :=
  keeps_call fun _ _ hs => ⟨hs.gatewayWrites, hs.readings⟩

lemma triple_now :
    Triple (Frame writes n) (now env) (Stamped env writes n) (Frame writes n) :=
  fun s hs => ⟨⟨hs.gatewayWrites, hs.readings.trans (Nat.le_succ _)⟩, s.readings, hs.readings,
    Nat.lt_succ_self _, rfl⟩

lemma keeps_now : Keeps (Frame writes n) (now env) := keeps_of_stamps triple_now

lemma keeps_lift {x : Except Failure α} :
    Keeps I (lift x) := by
  cases x with
  | ok a => exact keeps_pure
  | error failure => exact keeps_throw

/-! ## Readings and queries -/

lemma keeps_monotonic : Keeps (Frame writes n) (monotonic env) := by
  refine keeps_bind (keeps_call_frame _) fun observed => keeps_bind keeps_get fun last => ?_
  refine keeps_ite keeps_throw (keeps_bind ?_ fun _ => keeps_pure)
  exact keeps_modify fun s hs => ⟨hs.gatewayWrites, hs.readings⟩

/-- A time is the last reading made so far, and not among the first `n`. -/
def LastStamped (env : HookEnv B) (n : ℕ) (time : DateTime) (s : HookState B) : Prop :=
  ∃ k, n ≤ k ∧ s.readings = k + 1 ∧ time = env.wallClock k

lemma triple_health_last :
    Triple (Frame writes n) (health env) (fun observed => LastStamped env n observed.observedAt)
      (Frame writes n) := by
  refine triple_bind (keeps_call_frame _) fun ⟨connected, readable, writable⟩ => ?_
  refine triple_bind (Q := fun time => LastStamped env n time) ?_ fun observedAt =>
    triple_pure fun _ h => h
  exact fun s hs => ⟨s.readings, hs.readings, rfl, rfl⟩

lemma keeps_health : Keeps (Frame writes n) (health env) :=
  keeps_bind (keeps_call_frame _) fun ⟨_, _, _⟩ => keeps_bind keeps_now fun _ => keeps_pure

lemma keeps_queryOrders (env : HookEnv B) : Keeps (Frame writes n) (queryOrders env) :=
  keeps_bind keeps_now fun _ => keeps_call_frame _

lemma keeps_queryFills (env : HookEnv B) : Keeps (Frame writes n) (queryFills env) :=
  keeps_bind keeps_now fun _ => keeps_call_frame _

lemma keeps_queryInstrument :
    Keeps (Frame writes n) (queryInstrument env symbol) :=
  keeps_bind keeps_now fun _ => keeps_bind (keeps_call_frame _) fun _ => keeps_pure

/-- A quote is stamped before the tick is asked for. -/
lemma triple_queryQuote :
    Triple (Frame writes n) (queryQuote env symbol)
      (fun quote => Stamped env writes n quote.receivedAt) (Frame writes n) := by
  refine triple_bind triple_now fun receivedAt => ?_
  exact triple_bind (triple_stamped fun _ _ => keeps_call_frame _) fun fact =>
    triple_pure fun _ h => h

lemma keeps_queryQuote : Keeps (Frame writes n) (queryQuote env symbol) :=
  keeps_of_stamps triple_queryQuote

/-- A clock receipt carries the reading made before its quote. -/
lemma triple_clockReceipt :
    Triple (Frame writes n) (clockReceipt env symbol)
      (fun receipt => Stamped env writes n receipt.systemTime) (Frame writes n) := by
  refine triple_bind triple_now fun systemTime => ?_
  refine triple_bind (triple_stamped fun _ _ => keeps_queryQuote) fun quote => ?_
  cases hverify : ClockGuard.verify (seconds env.settings.execution.maxClockDriftSeconds)
      systemTime quote.eventTime with
  | some receipt =>
    refine triple_pure fun s h => ?_
    rwa [ClockGuard.verify_systemTime hverify]
  | none => exact triple_throw fun s h => h.1

lemma keeps_clockReceipt : Keeps (Frame writes n) (clockReceipt env symbol) :=
  keeps_of_stamps triple_clockReceipt

lemma keeps_disconnectDuration {connected : Bool} :
    Keeps (Frame writes n) (disconnectDuration env connected) := by
  refine keeps_bind keeps_monotonic fun observed => keeps_ite ?_ ?_
  · exact keeps_bind (keeps_modify fun s hs => ⟨hs.gatewayWrites, hs.readings⟩) fun _ => keeps_pure
  · refine keeps_bind keeps_get fun s => keeps_bind ?_ fun _ => keeps_pure
    exact keeps_modify fun s hs => ⟨hs.gatewayWrites, hs.readings⟩

/-! ## The snapshot -/

lemma keeps_readSnapshot : Keeps (Frame writes n) (readSnapshot env) :=
  keeps_bind (keeps_call_frame _) fun _ => keeps_bind (keeps_call_frame _) fun _ =>
    keeps_bind (keeps_queryOrders env) fun _ =>
      keeps_bind (keeps_queryFills env) fun _ => keeps_pure

/-- A snapshot is stamped after its second read, however often it is retried. -/
lemma triple_captureSnapshot (attempts : ℕ) :
    Triple (Frame writes n) (captureSnapshot env attempts)
      (fun snapshot => Stamped env writes n snapshot.capturedAt) (Frame writes n) := by
  induction attempts with
  | zero => exact triple_throw fun _ h => h
  | succ attempts ih =>
    refine triple_bind keeps_readSnapshot fun first => ?_
    refine triple_bind keeps_readSnapshot fun second => ?_
    split
    · exact triple_throw fun _ h => h
    split
    · exact ih
    refine triple_bind triple_now fun capturedAt => ?_
    cases hsnap : snapshotOf second capturedAt with
    | ok snapshot =>
      refine triple_pure fun s h => ?_
      unfold snapshotOf at hsnap
      split_ifs at hsnap
      cases hsnap
      exact h
    | error failure => exact triple_throw fun s h => h.1

lemma triple_capture :
    Triple (Frame writes n) (capture env)
      (fun snapshot => Stamped env writes n snapshot.capturedAt) (Frame writes n) := by
  refine triple_bind (triple_captureSnapshot 3) fun snapshot => ?_
  exact triple_bind (triple_stamped fun _ _ => keeps_call_frame _) fun _ => triple_pure fun _ h => h

lemma keeps_decisionRisk : Keeps (Frame writes n) (decisionRisk env) := by
  unfold decisionRisk
  split
  · exact keeps_pure
  · exact keeps_throw

lemma keeps_riskContext {command : BrokerOrderCommand} {planned : PlannedOrder} :
    Keeps (Frame writes n) (riskContext env ledger command planned snapshot) := by
  refine keeps_bind keeps_decisionRisk fun decision => ?_
  refine keeps_bind keeps_lift fun ⟨submittedValue, filledValue⟩ => ?_
  refine keeps_bind keeps_lift fun submitted => keeps_bind keeps_lift fun filled => ?_
  refine keeps_bind (keeps_call_frame _) fun ⟨equityChange, intradayLoss, drawdown⟩ => ?_
  refine keeps_bind keeps_health fun observedHealth => ?_
  refine keeps_bind keeps_now fun observedNow => keeps_bind keeps_clockReceipt fun receipt => ?_
  refine keeps_bind keeps_lift fun age => keeps_bind keeps_disconnectDuration fun gone => ?_
  refine keeps_bind keeps_lift fun gross => keeps_bind keeps_queryInstrument fun instrument => ?_
  refine keeps_bind keeps_queryQuote fun quote => keeps_bind (keeps_call_frame _) fun status => ?_
  refine keeps_bind (keeps_queryOrders env) fun external =>
    keeps_bind (keeps_call_frame _) fun data => ?_
  exact keeps_bind (keeps_call_frame _) fun configMatches => keeps_pure

/-! ## The subject of a write -/

lemma keeps_subjectFacts :
    Keeps (Frame writes n) (subjectFacts env ledger operation subject snapshot) := by
  unfold subjectFacts
  cases subject with
  | nothing => exact keeps_pure
  | brokerOrder brokerOrderId =>
    refine keeps_ite ?_ keeps_pure
    unfold cancelFacts
    split
    · exact keeps_pure
    · exact keeps_bind keeps_queryQuote fun _ => keeps_bind keeps_clockReceipt fun _ => keeps_pure
  | command command =>
    dsimp only
    unfold commandFacts
    split
    · exact keeps_pure
    · exact keeps_bind keeps_riskContext fun _ => keeps_bind keeps_lift fun _ =>
        keeps_bind keeps_queryQuote fun _ => keeps_bind keeps_clockReceipt fun _ => keeps_pure

/-- The quote time and the clock receipt of a write are stamped. -/
def SubjectStamped (env : HookEnv B) (writes : List GatewayWrite) (n : ℕ) (facts : SubjectFacts)
    (s : HookState B) : Prop :=
  Stamped env writes n facts.quoteTime s ∧
    ∀ receipt ∈ facts.clockReceipt, Stamped env writes n receipt.systemTime s

/-- A quote and a clock receipt, asked for one after the other. -/
lemma triple_quoteAndReceipt {facts : QuoteFact → ClockReceipt → SubjectFacts}
    (hquote : ∀ quote receipt, (facts quote receipt).quoteTime = quote.receivedAt)
    (hreceipt : ∀ quote receipt, (facts quote receipt).clockReceipt = some receipt) :
    Triple (Frame writes n)
      (do let quote ← queryQuote env symbol
          let receipt ← clockReceipt env symbol
          pure (facts quote receipt))
      (SubjectStamped env writes n) (Frame writes n) := by
  refine triple_bind triple_queryQuote fun quote => ?_
  have hquoteKept : Triple (Stamped env writes n quote.receivedAt) (clockReceipt env symbol)
      (fun _ => Stamped env writes n quote.receivedAt) (Frame writes n) :=
    triple_stamped fun _ _ => keeps_clockReceipt
  refine triple_bind (triple_imp (triple_and hquoteKept triple_clockReceipt)
    (fun s h => ⟨h, h.1⟩) (fun _ _ h => h) fun _ h => h.1)
    fun receipt => triple_pure fun s h => ⟨?_, ?_⟩
  · rw [hquote]
    exact h.1
  · intro r hr
    rw [hreceipt] at hr
    cases hr
    exact h.2

lemma triple_subjectFacts :
    Triple (Stamped env writes n snapshot.capturedAt)
      (subjectFacts env ledger operation subject snapshot) (SubjectStamped env writes n)
      (Frame writes n) := by
  -- Without a planned or a known order, the time of the snapshot stands for the quote.
  have hnone : ∀ facts : SubjectFacts, facts.quoteTime = snapshot.capturedAt →
      facts.clockReceipt = none → Triple (Stamped env writes n snapshot.capturedAt)
        (pure facts : Hooks B SubjectFacts) (SubjectStamped env writes n) (Frame writes n) := by
    intro facts htime hreceipt
    exact triple_pure fun s h => ⟨htime ▸ h, by simp [hreceipt]⟩
  have hframe : ∀ s : HookState B, Stamped env writes n snapshot.capturedAt s → Frame writes n s :=
    fun s h => h.1
  unfold subjectFacts
  cases subject with
  | nothing => exact hnone _ rfl rfl
  | brokerOrder brokerOrderId =>
    dsimp only
    split
    · unfold cancelFacts
      split
      · exact hnone _ rfl rfl
      · exact triple_pre (triple_quoteAndReceipt (fun _ _ => rfl) fun _ _ => rfl) hframe
    · exact hnone _ rfl rfl
  | command command =>
    dsimp only
    unfold commandFacts
    split
    · exact hnone _ rfl rfl
    · refine triple_pre (triple_bind keeps_riskContext fun context =>
        triple_bind keeps_lift fun decision =>
          triple_quoteAndReceipt (fun _ _ => rfl) fun _ _ => rfl) hframe

/-! ## The context -/

/-- The readings behind a context that was assembled after `first` readings. -/
structure ContextStamped (env : HookEnv B) (first : ℕ) (context : WriteAuthorizationContext)
    (s : HookState B) : Prop where
  now : context.now = env.wallClock first
  health : LastStamped env (first + 1) context.brokerHealth.observedAt s
  snapshot : ∃ k, first ≤ k ∧ k < s.readings ∧
    context.brokerSnapshotReceivedAt = some (env.wallClock k)
  quote : ∃ k, first ≤ k ∧ k < s.readings ∧ context.quoteReceivedAt = some (env.wallClock k)
  receipt : ∀ receipt ∈ context.clockReceipt,
    ∃ k, first ≤ k ∧ k < s.readings ∧ receipt.systemTime = env.wallClock k

/-- The time of a context is its first reading; everything else in it is stamped later, and its
health carries the last reading of all. -/
theorem contextProvider_stamped {s s' : HookState B}
    (h : contextProvider env ledger operation subject s = .ok context s') :
    ContextStamped env s.readings context s' := by
  obtain ⟨started, s₀, hnow, h⟩ := bind_eq_ok.mp h
  cases hnow
  obtain ⟨snapshot, s₁, hcapture, h⟩ := bind_eq_ok.mp h
  obtain ⟨facts, s₂, hfacts, h⟩ := bind_eq_ok.mp h
  obtain ⟨observedHealth, s₃, hhealth, h⟩ := bind_eq_ok.mp h
  have hsnapshot : Stamped env s.gatewayWrites (s.readings + 1) snapshot.capturedAt s₁ :=
    triple_capture.ok hcapture ⟨rfl, le_refl _⟩
  have hsubject : SubjectStamped env s.gatewayWrites (s.readings + 1) facts s₂ :=
    triple_subjectFacts.ok hfacts hsnapshot
  have hlast := triple_health_last.ok hhealth hsubject.1.1
  obtain ⟨marketStatus, s₄, hmarket, h⟩ := bind_eq_ok.mp h
  obtain ⟨configMatches, s₅, hconfig, h⟩ := bind_eq_ok.mp h
  obtain ⟨uquantMatches, s₆, huquant, h⟩ := bind_eq_ok.mp h
  cases h
  -- The last three queries read no clock.
  have hquiet : s'.readings = s₃.readings := by
    have hsame : ∀ {α : Type} {port : B → Except Failure α × B},
        Keeps (fun t : HookState B => t.readings = s₃.readings) (call port) :=
      keeps_call fun _ _ h => h
    exact hsame.ok huquant (hsame.ok hconfig (hsame.ok hmarket rfl))
  have hfacts' : ∀ {time : DateTime}, Stamped env s.gatewayWrites (s.readings + 1) time s₂ →
      ∃ k, s.readings ≤ k ∧ k < s'.readings ∧ time = env.wallClock k := by
    intro time htime
    obtain ⟨-, k, hk, hlt, heq⟩ :=
      (stable_stamped.keeps fun _ _ => keeps_health).ok hhealth htime
    exact ⟨k, by omega, hquiet ▸ hlt, heq⟩
  obtain ⟨last, hle, hreadings, htime⟩ := hlast
  refine ⟨rfl, ⟨last, hle, hquiet.trans hreadings, htime⟩, ?_, ?_, fun receipt hreceipt =>
    hfacts' (hsubject.2 receipt hreceipt)⟩
  · obtain ⟨k, hk, hlt, heq⟩ :=
      hfacts' ((stable_stamped.keeps fun _ _ => keeps_subjectFacts).ok hfacts hsnapshot)
    exact ⟨k, hk, hlt, congrArg some heq⟩
  · obtain ⟨k, hk, hlt, heq⟩ := hfacts' hsubject.1
    exact ⟨k, hk, hlt, congrArg some heq⟩

/-- Nothing in a context was observed after the time of the context. -/
structure NotFromFuture (context : WriteAuthorizationContext) : Prop where
  health : context.brokerHealth.observedAt ≤ context.now
  snapshot : ∀ time ∈ context.brokerSnapshotReceivedAt, time ≤ context.now
  quote : ∀ time ∈ context.quoteReceivedAt, time ≤ context.now
  receipt : ∀ receipt ∈ context.clockReceipt, receipt.systemTime ≤ context.now

/-- The reasons that `authorize` gives for an observation after the time of its context. -/
def futureReasons : List ReasonCode :=
  [.brokerHealthTimeInFuture, .brokerSnapshotTimeInFuture, .quoteTimeInFuture,
    .clockReceiptTimeInFuture]

/-- Without an observation from the future, `authorize` gives none of the reasons for one. -/
lemma futureReason_notMem (h : NotFromFuture context) {service : ArmService} {reason : ReasonCode}
    (hreason : reason ∈ futureReasons) :
    reason ∉ Authorizer.reasons service context operation subject := by
  have hage : ∀ {observed : DateTime} {maximum : Duration} {stale future : ReasonCode},
      observed ≤ context.now → stale ∉ futureReasons →
      reason ∉ Authorizer.ageReasons observed context.now maximum stale future := by
    intro observed maximum stale future hle hstale hmem
    rcases Authorizer.mem_ageReasons.mp hmem with ⟨hlt, -⟩ | ⟨-, -, rfl⟩
    · exact not_lt.mpr hle hlt
    · exact hstale hreason
  have hother : ∀ codes : List ReasonCode, (∀ r ∈ codes, r ∉ futureReasons) → reason ∉ codes :=
    fun codes hcodes hmem => hcodes reason hmem hreason
  intro hmem
  simp only [Authorizer.reasons, List.mem_append] at hmem
  rcases hmem with ((((hmem | hmem) | hmem) | hmem) | hmem) | hmem
  · rcases Authorizer.mem_authorityReasons hmem with hmem | ⟨rfl, -⟩ | hmem
    · exact hother _ (by decide) hmem
    · exact absurd hreason (by decide)
    · exact hage h.health (by decide) hmem
  · rcases Authorizer.mem_receiptReasons hmem with rfl | rfl | ⟨receipt, hreceipt, hmem⟩
    · exact absurd hreason (by decide)
    · exact absurd hreason (by decide)
    · exact hage (h.receipt receipt hreceipt) (by decide) hmem
  · rcases Authorizer.mem_freshnessReasons.mp hmem with ⟨-, rfl⟩ | ⟨time, htime, hmem⟩
    · exact absurd hreason (by decide)
    · exact hage (h.snapshot time htime) (by decide) hmem
  · rcases Authorizer.mem_freshnessReasons.mp hmem with ⟨-, rfl⟩ | ⟨time, htime, hmem⟩
    · exact absurd hreason (by decide)
    · exact hage (h.quote time htime) (by decide) hmem
  · simp only [futureReasons, List.mem_cons, List.not_mem_nil, or_false] at hreason
    rcases hreason with rfl | rfl | rfl | rfl <;> simp [Authorizer.marketReasons] at hmem
  · exact hother _ (by decide) (Authorizer.mem_operationReasons hmem)

/-- A context is free of the future exactly when the clock stood still while it was
assembled, from its first reading to its last. -/
theorem context_notFromFuture_iff {ledger : Ledger} {operation : WriteOperation}
    {subject : WriteSubject} {context : WriteAuthorizationContext} {s s' : HookState B}
    (hclock : Monotone env.wallClock)
    (h : contextProvider env ledger operation subject s = .ok context s') :
    (NotFromFuture context ∧ ∀ reason ∈ futureReasons,
        reason ∉ Authorizer.reasons env.service context operation subject) ↔
      env.wallClock (s'.readings - 1) = env.wallClock s.readings := by
  have hstamps := contextProvider_stamped h
  obtain ⟨last, hle, hreadings, hhealth⟩ := hstamps.health
  have hlast : s'.readings - 1 = last := by omega
  rw [hlast]
  constructor
  · rintro ⟨hpast, -⟩
    refine le_antisymm ?_ (hclock (by omega))
    rw [← hhealth, ← hstamps.now]
    exact hpast.health
  · intro hstill
    -- Every reading of the assembly lies between two equal ones.
    have hthen : ∀ k, k < s'.readings → env.wallClock k ≤ context.now := by
      intro k hk
      rw [hstamps.now, ← hstill]
      exact hclock (by omega)
    have hpast : NotFromFuture context := by
      refine ⟨?_, ?_, ?_, ?_⟩
      · rw [hhealth]
        exact hthen last (by omega)
      · obtain ⟨k, -, hk, heq⟩ := hstamps.snapshot
        simpa [heq] using hthen k hk
      · obtain ⟨k, -, hk, heq⟩ := hstamps.quote
        simpa [heq] using hthen k hk
      · intro receipt hreceipt
        obtain ⟨k, -, hk, heq⟩ := hstamps.receipt receipt hreceipt
        rw [heq]
        exact hthen k hk
    exact ⟨hpast, fun reason hreason => futureReason_notMem hpast hreason⟩

/-- A clock that stands still: the context of a submission is assembled and lies in the past. -/
theorem context_notFromFuture_of_still :
    ∃ context s', contextProvider (Desk.openHooks fun _ => 0) Ledger.empty .submit
        (.command (Desk.lotCommand (Desk.lot "A" "600001" .sell)))
        (Desk.hookState (Desk.fresh 5000 ["600001"])) = .ok context s' ∧
      NotFromFuture context := by
  have hrun : returnsWith (fun _ _ => true) (contextProvider (Desk.openHooks fun _ => 0)
      Ledger.empty .submit (.command (Desk.lotCommand (Desk.lot "A" "600001" .sell)))
      (Desk.hookState (Desk.fresh 5000 ["600001"]))) = true := by
    decide +kernel
  obtain ⟨context, s', hok, -⟩ := exists_ok_of_returnsWith hrun
  exact ⟨context, s', hok, ((context_notFromFuture_iff monotone_const hok).mpr rfl).1⟩

/-- A clock that advances by a microsecond between readings: all four observations of the same
submission come from the future of its context, and the submission is denied for it. -/
theorem context_fromFuture_of_advancing :
    ∃ context s', contextProvider (Desk.openHooks fun n => n) Ledger.empty .submit
        (.command (Desk.lotCommand (Desk.lot "A" "600001" .sell)))
        (Desk.hookState (Desk.fresh 5000 ["600001"])) = .ok context s' ∧
      ¬ NotFromFuture context ∧
      Authorizer.reasons (Desk.openHooks fun n => n).service context .submit
        (.command (Desk.lotCommand (Desk.lot "A" "600001" .sell))) =
          [.brokerHealthTimeInFuture, .clockReceiptTimeInFuture, .brokerSnapshotTimeInFuture,
            .quoteTimeInFuture] := by
  have hrun : returnsWith (fun context _ => decide (context.now < context.brokerHealth.observedAt ∧
      Authorizer.reasons (Desk.openHooks fun n => n).service context .submit
        (.command (Desk.lotCommand (Desk.lot "A" "600001" .sell))) =
          [.brokerHealthTimeInFuture, .clockReceiptTimeInFuture, .brokerSnapshotTimeInFuture,
            .quoteTimeInFuture])) (contextProvider (Desk.openHooks fun n => n)
      Ledger.empty .submit (.command (Desk.lotCommand (Desk.lot "A" "600001" .sell)))
      (Desk.hookState (Desk.fresh 5000 ["600001"]))) = true := by
    decide +kernel
  obtain ⟨context, s', hok, hcheck⟩ := exists_ok_of_returnsWith hrun
  obtain ⟨hlate, hreasons⟩ := of_decide_eq_true hcheck
  exact ⟨context, s', hok, fun hpast => not_lt.mpr hpast.health hlate, hreasons⟩

end Hooks

end FirmQuant
