import FirmQuant.Risk.CancelOnly

/-!
# No unauthorized broker write

Whatever calls are made, one after another or one inside another, the SDK is asked to write inside a
scope only, and a scope is closed wherever its call ends.
-/

namespace FirmQuant

open Effect WriteM Trace

namespace WriteScopes

variable {ε α β : Type}

/-! ## Programs of callers -/

/-- A program of the callers: it does what it likes outside the running context, and makes any calls
at any point.  The SDK, the gateway and the provider of contexts are such programs. -/
inductive Client : {α : Type} → WriteM ε α → Prop
  | outside {α : Type} (x : EStateM Raised (Store ε) α) : Client (outside x)
  | bind {α β : Type} {x : WriteM ε α} {f : α → WriteM ε β} :
    Client x → (∀ a, Client (f a)) → Client (x >>= f)
  | tryCatch {α : Type} {x : WriteM ε α} {handler : Raised → WriteM ε α} :
    Client x → (∀ e, Client (handler e)) → Client (tryCatch x handler)
  | submitDirectly {ρ : Type} (broker : ProductionXtQuantBroker ε ρ)
      (command : BrokerOrderCommand) :
    (∀ {α : Type} (request : SdkRequest ρ α), Client (broker.sdk request)) →
      Client (broker.submitDirectly command)
  | cancelDirectly {ρ : Type} (broker : ProductionXtQuantBroker ε ρ) (brokerOrderId : String) :
    (∀ {α : Type} (request : SdkRequest ρ α), Client (broker.sdk request)) →
      Client (broker.cancelDirectly brokerOrderId)
  | submitOrder {ρ : Type} (capability : BrokerWriteCapability ε ρ) (command : BrokerOrderCommand) :
    (∀ {α : Type} (request : SdkRequest ρ α), Client (capability.gateway.sdk request)) →
      (∀ operation subject, Client (capability.contextProvider operation subject)) →
        Client (capability.submitOrder command)
  | cancelOrder {ρ : Type} (capability : BrokerWriteCapability ε ρ) (brokerOrderId : String) :
    (∀ {α : Type} (request : SdkRequest ρ α), Client (capability.gateway.sdk request)) →
      (∀ operation subject, Client (capability.contextProvider operation subject)) →
        Client (capability.cancelOrder brokerOrderId)
  | cancelSystemOrders {ρ : Type} (broker : ProductionXtQuantBroker ε ρ)
    (capability : CancelOnlyCapability ε) :
    (∀ {α : Type} (request : SdkRequest ρ α), Client (broker.sdk request)) →
      (∀ {α : Type} (request : GatewayRequest α), Client (capability.gateway request)) →
        capability.cancelOrder = broker.cancelOrder → Client capability.cancelSystemOrders

/-! ## Scopes in a trace -/

def WriteEntry.isOpening : WriteEntry → Bool
  | .scopeOpened => true
  | _ => false

def WriteEntry.isClosing : WriteEntry → Bool
  | .scopeClosed => true
  | _ => false

/-- The number of open scopes after a trace. -/
def depth (trace : List WriteEntry) : ℤ :=
  trace.countP WriteEntry.isOpening - trace.countP WriteEntry.isClosing

lemma depth_append (trace rest : List WriteEntry) :
    depth (trace ++ rest) = depth trace + depth rest := by
  unfold depth
  rw [List.countP_append, List.countP_append]
  push_cast
  ring

@[simp] lemma depth_closed : depth [.scopeClosed] = -1 := rfl

/-- A submit was requested of the capability, a context was built after that, and `authorize` passed
it: no denial rule held, and the gate authorized the shares of the command. -/
def SubmitAuthorized (call : ℕ) (command : BrokerOrderCommand) (before : List WriteEntry) : Prop :=
  ∃ earlier provided checked later service context decision,
    before = earlier ++ .requested call .submit (.command command) :: (provided ++
      .contextBuilt call context :: (checked ++ .authorized call service context :: later)) ∧
    Authorizer.reasons service context .submit (.command command) = [] ∧
    context.gateDecision = some decision ∧ decision.authorizedShares = command.requestedShares

/-- A write was requested of the broker itself while a scope was open. -/
def DirectInScope (call : ℕ) (before : List WriteEntry) : Prop :=
  ∃ earlier later, before = earlier ++ .requestedDirectly call :: later ∧ 0 < depth earlier

/-- What the entries before a write of the SDK say. -/
def WriteRule (before : List WriteEntry) : WriteEntry → Prop
  | .orderStock call command =>
    0 < depth before ∧ (SubmitAuthorized call command before ∨ DirectInScope call before)
  | .cancelOrderStock _ _ => 0 < depth before
  | _ => True

lemma SubmitAuthorized.mono {call : ℕ} {command : BrokerOrderCommand}
    {before after : List WriteEntry}
    (h : SubmitAuthorized call command before) (hgrows : before <+: after) :
    SubmitAuthorized call command after := by
  obtain ⟨rest, rfl⟩ := hgrows
  obtain ⟨earlier, provided, checked, later, service, context, decision, rfl, hrest⟩ := h
  exact ⟨earlier, provided, checked, later ++ rest, service, context, decision, by simp, hrest⟩

lemma DirectInScope.mono {call : ℕ} {before after : List WriteEntry}
    (h : DirectInScope call before) (hgrows : before <+: after) : DirectInScope call after := by
  obtain ⟨rest, rfl⟩ := hgrows
  obtain ⟨earlier, later, rfl, hdepth⟩ := h
  exact ⟨earlier, later ++ rest, by simp, hdepth⟩

/-! ## What every program keeps -/

/-- The flag says whether a scope is open, and the writes so far obey the rule. -/
structure Coherent (w : WriteWorld ε) : Prop where
  nonneg : 0 ≤ depth w.trace
  flag : w.writeAuthorized = true ↔ 0 < depth w.trace
  obeys : Obeys WriteRule w.trace

/-- What a program leaves: the same open scopes, and a longer trace. -/
structure Extends (w w' : WriteWorld ε) : Prop where
  coherent : Coherent w'
  flag : w'.writeAuthorized = w.writeAuthorized
  depth : depth w'.trace = depth w.trace
  grows : w.trace <+: w'.trace

namespace Extends

variable {w w' w'' : WriteWorld ε}

lemma refl (h : Coherent w) : Extends w w := ⟨h, rfl, rfl, List.prefix_refl _⟩

lemma trans (h : Extends w w') (h' : Extends w' w'') : Extends w w'' :=
  ⟨h'.coherent, h'.flag.trans h.flag, h'.depth.trans h.depth, h.grows.trans h'.grows⟩

end Extends

/-- Started in this very state, a program leaves the scopes as they were. -/
def GuardedAt (w : WriteWorld ε) (x : WriteM ε α) : Prop := Extends w (finalState (x w))

/-- The same in every coherent state. -/
def Guarded (x : WriteM ε α) : Prop := ∀ w, Coherent w → GuardedAt w x

section Guarded

variable {w : WriteWorld ε}

lemma guardedAt_pure {a : α} (hw : Coherent w) : GuardedAt w (pure a : WriteM ε α) :=
  Extends.refl hw

lemma guardedAt_throw {e : Raised} (hw : Coherent w) : GuardedAt w (throw e : WriteM ε α) :=
  Extends.refl hw

lemma guardedAt_raise {e : Failure} (hw : Coherent w) : GuardedAt w (raise e : WriteM ε α) :=
  Extends.refl hw

lemma guardedAt_lift {x : Except Failure α} (hw : Coherent w) : GuardedAt w (lift x) := by
  cases x with
  | ok a => exact guardedAt_pure hw
  | error e => exact guardedAt_raise hw

variable {x : WriteM ε α}

/-- A sequence, whose second part starts where the first one returned. -/
lemma guardedAt_bind {f : α → WriteM ε β} (hx : GuardedAt w x)
    (hf : ∀ a w', x w = .ok a w' → Extends w w' → GuardedAt w' (f a)) : GuardedAt w (x >>= f) := by
  unfold GuardedAt at hx ⊢
  rw [bind_apply]
  cases h : x w with
  | ok a w' =>
    rw [h] at hx
    exact hx.trans (hf a w' h hx)
  | error e w' =>
    rw [h] at hx
    exact hx

lemma guardedAt_tryCatch {handler : Raised → WriteM ε α} (hx : GuardedAt w x)
    (hh : ∀ e w', Extends w w' → GuardedAt w' (handler e)) :
    GuardedAt w (tryCatch x handler) := by
  unfold GuardedAt at hx ⊢
  rw [tryCatch_apply]
  cases h : x w with
  | ok a w' =>
    rw [h] at hx
    exact hx
  | error e w' =>
    rw [h] at hx
    exact hx.trans (hh e w' hx)

lemma guardedAt_catching {handler : Failure → WriteM ε α} (hx : GuardedAt w x)
    (hh : ∀ e w', Extends w w' → GuardedAt w' (handler e)) :
    GuardedAt w (catching x handler) := by
  refine guardedAt_tryCatch hx fun e w' hw' => ?_
  cases e with
  | exception e => exact hh e w' hw'
  | interrupt => exact guardedAt_throw hw'.coherent

lemma guardedAt_get {f : WriteWorld ε → WriteM ε α} (h : GuardedAt w (f w)) :
    GuardedAt w (get >>= f) := h

lemma guarded_outside (x : EStateM Raised (Store ε) α) : Guarded (outside x) := by
  intro w hw
  unfold GuardedAt outside
  cases x w.store with
  | ok a store
  | error e store => exact ⟨⟨hw.nonneg, hw.flag, hw.obeys⟩, rfl, rfl, List.prefix_refl _⟩

/-- An entry that opens and closes nothing, and obeys the rule. -/
lemma guardedAt_log {entry : WriteEntry} (hw : Coherent w) (hentry : depth [entry] = 0)
    (hrule : WriteRule w.trace entry) : GuardedAt w (log entry) := by
  have hdepth : depth (w.trace ++ [entry]) = depth w.trace := by
    rw [depth_append, hentry, add_zero]
  have hcoherent : Coherent { w with trace := w.trace ++ [entry] } := {
    nonneg := hw.nonneg.trans_eq hdepth.symm
    flag := by
      rw [hdepth]
      exact hw.flag
    obeys := hw.obeys.append hrule }
  exact ⟨hcoherent, rfl, hdepth, List.prefix_append _ _⟩

lemma guardedAt_newCall (hw : Coherent w) : GuardedAt w (newCall : WriteM ε ℕ) :=
  ⟨⟨hw.nonneg, hw.flag, hw.obeys⟩, rfl, rfl, List.prefix_refl _⟩

/-- The state in a scope that was just opened. -/
def opened (w : WriteWorld ε) : WriteWorld ε :=
  { w with writeAuthorized := true, trace := w.trace ++ [.scopeOpened] }

lemma coherent_opened (hw : Coherent w) : Coherent (opened w) := by
  have hdepth : depth (w.trace ++ [.scopeOpened]) = depth w.trace + 1 := depth_append _ _
  have hnonneg := hw.nonneg
  exact {
    nonneg := by
      change 0 ≤ depth (w.trace ++ [.scopeOpened])
      omega
    flag := by
      change true = true ↔ 0 < depth (w.trace ++ [.scopeOpened])
      rw [hdepth]
      simp only [true_iff]
      omega
    obeys := hw.obeys.append trivial }

/-- Closing a scope restores what was there before it was opened. -/
lemma extends_closed {w' : WriteWorld ε} (hw : Coherent w) (h : Extends (opened w) w') :
    Extends w { w' with
      writeAuthorized := w.writeAuthorized, trace := w'.trace ++ [.scopeClosed] } := by
  have hopened : depth (opened w).trace = depth w.trace + 1 := depth_append _ _
  have hdepth : depth (w'.trace ++ [.scopeClosed]) = depth w.trace := by
    rw [depth_append, h.depth, hopened, depth_closed]
    ring
  have hcoherent : Coherent { w' with
      writeAuthorized := w.writeAuthorized, trace := w'.trace ++ [.scopeClosed] } := {
    nonneg := hw.nonneg.trans_eq hdepth.symm
    flag := by
      rw [hdepth]
      exact hw.flag
    obeys := h.coherent.obeys.append trivial }
  exact ⟨hcoherent, rfl, hdepth,
    ((List.prefix_append _ _).trans h.grows).trans (List.prefix_append _ _)⟩

/-- **Scopes are closed.**  What runs in a scope leaves it closed, whether it returns or raises. -/
lemma guardedAt_scope (hw : Coherent w) (hx : Coherent (opened w) → GuardedAt (opened w) x) :
    GuardedAt w (scope x) := by
  have hbody : Extends (opened w) (finalState (x (opened w))) := hx (coherent_opened hw)
  have hclosed := extends_closed hw hbody
  have hrun : finalState (scope x w) = { finalState (x (opened w)) with
      writeAuthorized := w.writeAuthorized
      trace := (finalState (x (opened w))).trace ++ [.scopeClosed] } := by
    change finalState ((tryCatch x (fun e => closeScope w.writeAuthorized >>= fun _ => throw e) >>=
      fun a => closeScope w.writeAuthorized >>= fun _ => pure a) (opened w)) = _
    rw [bind_apply, tryCatch_apply]
    cases x (opened w) with
    | ok a w' => rfl
    | error e w' => rfl
  unfold GuardedAt
  rw [hrun]
  exact hclosed

end Guarded

/-! ## The calls -/

section Calls

variable {ρ : Type} {w : WriteWorld ε} {broker : ProductionXtQuantBroker ε ρ} {call : ℕ}

variable (hsdk : ∀ {α : Type} (request : SdkRequest ρ α), Guarded (broker.sdk request))

include hsdk

lemma guardedAt_confirmation (orderId : ℕ) : Guarded (broker.confirmation orderId) := by
  intro w hw
  refine guardedAt_bind (guardedAt_catching (hsdk _ w hw) fun _ _ h => guardedAt_raise h.coherent)
    fun raw w₁ _ h₁ => ?_
  cases raw with
  | none => exact guardedAt_raise h₁.coherent
  | some raw =>
    exact guardedAt_catching (hsdk _ w₁ h₁.coherent) fun _ _ h => guardedAt_raise h.coherent

variable {command : BrokerOrderCommand}

/-- A submit reaches the SDK in a scope only, and then for a reason. -/
lemma guardedAt_submit (hw : Coherent w) (hreason : w.writeAuthorized = true →
      SubmitAuthorized call command w.trace ∨ DirectInScope call w.trace) :
    GuardedAt w (broker.submitOrder call command) := by
  refine guardedAt_bind (guarded_outside _ w hw) fun _ w₁ _ h₁ => guardedAt_get ?_
  split
  · exact guardedAt_raise h₁.coherent
  next hflag =>
    have hopen : w₁.writeAuthorized = true := by simpa using hflag
    refine guardedAt_bind (hsdk _ w₁ h₁.coherent) fun _ w₂ _ h₂ => ?_
    refine guardedAt_bind (guardedAt_lift h₂.coherent) fun remark w₃ _ h₃ => ?_
    refine guardedAt_bind (guardedAt_catching ?_ fun _ _ h => guardedAt_raise h.coherent)
      fun orderId w₄ _ h₄ => ?_
    · -- the SDK is asked in a scope that is as open as it was when the flag was read
      refine guardedAt_bind (guardedAt_lift h₃.coherent) fun _ w₄ _ h₄ => ?_
      have hgrows := ((h₁.trans h₂).trans h₃).trans h₄
      have hflag₄ : w₄.writeAuthorized = true := by
        rw [h₄.flag, h₃.flag, h₂.flag, hopen]
      have hrule : WriteRule w₄.trace (.orderStock call command) := by
        refine ⟨h₄.coherent.flag.mp hflag₄, ?_⟩
        exact (hreason (h₁.flag.symm.trans hopen)).imp (·.mono hgrows.grows) (·.mono hgrows.grows)
      exact guardedAt_bind (guardedAt_log h₄.coherent rfl hrule) fun _ w₅ _ h₅ =>
        hsdk _ w₅ h₅.coherent
    · split
      · exact guardedAt_raise h₄.coherent
      next orderId =>
        split
        · exact guardedAt_raise h₄.coherent
        · refine guardedAt_bind (guardedAt_confirmation hsdk _ w₄ h₄.coherent) fun fact
            w₅ _ h₅ => ?_
          split
          · exact guardedAt_raise h₅.coherent
          · exact guardedAt_pure h₅.coherent

lemma guarded_cancel (brokerOrderId : String) :
    Guarded (broker.cancelOrder call brokerOrderId) := by
  intro w hw
  refine guardedAt_bind (guarded_outside _ w hw) fun _ w₁ _ h₁ => guardedAt_get ?_
  split
  · exact guardedAt_raise h₁.coherent
  next hflag =>
    have hopen : w₁.writeAuthorized = true := by simpa using hflag
    split
    · exact guardedAt_raise h₁.coherent
    next orderId _ =>
      have hrule : WriteRule w₁.trace (.cancelOrderStock call orderId) :=
        h₁.coherent.flag.mp hopen
      refine guardedAt_bind (guardedAt_catching ?_ fun _ _ h => guardedAt_raise h.coherent)
        fun result w₂ _ h₂ => ?_
      · exact guardedAt_bind (guardedAt_log h₁.coherent rfl hrule) fun _ w₂ _ h₂ =>
          hsdk _ w₂ h₂.coherent
      · split
        · exact guardedAt_raise h₂.coherent
        · split
          · exact guardedAt_raise h₂.coherent
          · exact guardedAt_confirmation hsdk _ w₂ h₂.coherent

omit hsdk

lemma log_ok {entry : WriteEntry} {u : PUnit} {w' : WriteWorld ε} (h : log entry w = .ok u w') :
    w'.trace = w.trace ++ [entry] := by
  cases h
  rfl

lemma guarded_submitDirectly
    (hsdk : ∀ {α : Type} (request : SdkRequest ρ α), Guarded (broker.sdk request))
    (command : BrokerOrderCommand) : Guarded (broker.submitDirectly command) := by
  intro w hw
  refine guardedAt_bind (guardedAt_newCall hw) fun call w₁ _ h₁ => ?_
  refine guardedAt_bind (guardedAt_log h₁.coherent rfl trivial) fun _ w₂ hlog h₂ => ?_
  refine guardedAt_submit hsdk h₂.coherent fun hopen => .inr ?_
  have hopen₁ : 0 < depth w₁.trace := h₁.coherent.flag.mp (h₂.flag.symm.trans hopen)
  exact ⟨w₁.trace, [], log_ok hlog, hopen₁⟩

lemma guarded_cancelDirectly
    (hsdk : ∀ {α : Type} (request : SdkRequest ρ α), Guarded (broker.sdk request))
    (brokerOrderId : String) : Guarded (broker.cancelDirectly brokerOrderId) := by
  intro w hw
  refine guardedAt_bind (guardedAt_newCall hw) fun call w₁ _ h₁ => ?_
  refine guardedAt_bind (guardedAt_log h₁.coherent rfl trivial) fun _ w₂ _ h₂ => ?_
  exact guarded_cancel hsdk brokerOrderId w₂ h₂.coherent

variable {capability : BrokerWriteCapability ε ρ}

/-- What `authorize` leaves, with what it found when it returned. -/
lemma guardedAt_authorize {operation : WriteOperation} {subject : WriteSubject}
    (hprovider : ∀ operation subject, Guarded (capability.contextProvider operation subject)) :
    Guarded (capability.authorize call operation subject) := by
  intro w hw
  refine guardedAt_bind (guardedAt_catching (hprovider _ _ w hw) fun _ _ h =>
    guardedAt_raise h.coherent) fun context w₁ _ h₁ => ?_
  refine guardedAt_bind (guardedAt_log h₁.coherent rfl trivial) fun _ w₂ _ h₂ => ?_
  refine guardedAt_bind (guardedAt_lift h₂.coherent) fun _ w₃ _ h₃ => ?_
  exact guardedAt_log h₃.coherent rfl trivial

/-- A gate that raises no reason has authorized the very shares of the command. -/
lemma gate_of_reasons {service : ArmService} {context : WriteAuthorizationContext}
    (h : Authorizer.reasons service context .submit (.command command) = []) :
    ∃ decision, context.gateDecision = some decision ∧
      decision.authorizedShares = command.requestedShares := by
  have hgate : Authorizer.submitGateReasons context.gateDecision (.command command) = [] := by
    rw [List.eq_nil_iff_forall_not_mem] at h ⊢
    intro reason hmem
    refine h reason ?_
    unfold Authorizer.reasons Authorizer.operationReasons
    simp only [List.mem_append]
    exact .inr (.inr hmem)
  unfold Authorizer.submitGateReasons at hgate
  cases hdecision : context.gateDecision with
  | none =>
    rw [hdecision] at hgate
    cases hgate
  | some decision =>
    rw [hdecision] at hgate
    refine ⟨decision, rfl, ?_⟩
    simp only at hgate
    split at hgate
    · cases hgate
    · by_contra hne
      simp [flag, hne] at hgate

lemma authorize_ok {u : PUnit} {w' : WriteWorld ε} {earlier : List WriteEntry}
    (hprovider : ∀ operation subject, Guarded (capability.contextProvider operation subject))
    (hw : Coherent w)
    (hrequested : w.trace = earlier ++ [.requested call .submit (.command command)])
    (h : capability.authorize call .submit (.command command) w = .ok u w') :
    SubmitAuthorized call command w'.trace := by
  unfold BrokerWriteCapability.authorize at h
  obtain ⟨context, w₁, hcontext, hrest⟩ := bind_eq_ok.mp h
  obtain ⟨⟨⟩, w₂, hbuilt, hrest⟩ := bind_eq_ok.mp hrest
  obtain ⟨⟨⟩, w₃, hchecked, hlog⟩ := bind_eq_ok.mp hrest
  have hprovided : Extends w (finalState (catching
    (capability.contextProvider .submit (.command command))
      (fun _ => raise (.writeCapabilityDenied [.authorizationContextUnavailable])) w)) :=
    guardedAt_catching (hprovider _ _ w hw) fun _ _ h => guardedAt_raise h.coherent
  rw [hcontext] at hprovided
  obtain ⟨provided, hgrows⟩ := hprovided.grows
  have hreasons : Authorizer.reasons capability.armService context .submit (.command command) = [] ∧
      w₃ = w₂ := by
    unfold Authorizer.authorize at hchecked
    split at hchecked
    next hnil =>
      cases hchecked
      exact ⟨hnil, rfl⟩
    · cases hchecked
  obtain ⟨hnil, rfl⟩ := hreasons
  obtain ⟨decision, hdecision, hshares⟩ := gate_of_reasons hnil
  refine ⟨earlier, provided, [], [], capability.armService, context, decision, ?_, hnil, hdecision,
    hshares⟩
  rw [log_ok hlog, log_ok hbuilt]
  change w.trace ++ provided = w₁.trace at hgrows
  rw [← hgrows, hrequested]
  simp

lemma guarded_submitOrder
    (hsdk : ∀ {α : Type} (request : SdkRequest ρ α), Guarded (capability.gateway.sdk request))
    (hprovider : ∀ operation subject, Guarded (capability.contextProvider operation subject))
    (command : BrokerOrderCommand) : Guarded (capability.submitOrder command) := by
  intro w hw
  refine guardedAt_bind (guardedAt_newCall hw) fun call w₁ _ h₁ => ?_
  refine guardedAt_bind (guardedAt_log h₁.coherent rfl trivial) fun _ w₂ hlog h₂ => ?_
  refine guardedAt_bind (guardedAt_authorize hprovider w₂ h₂.coherent) fun _ w₃ hauthorize h₃ => ?_
  have hauthorized := authorize_ok hprovider h₂.coherent (log_ok hlog) hauthorize
  exact guardedAt_scope h₃.coherent fun hopened =>
    guardedAt_submit hsdk hopened fun _ => .inl (hauthorized.mono (List.prefix_append _ _))

lemma guarded_cancelOrder
    (hsdk : ∀ {α : Type} (request : SdkRequest ρ α), Guarded (capability.gateway.sdk request))
    (hprovider : ∀ operation subject, Guarded (capability.contextProvider operation subject))
    (brokerOrderId : String) : Guarded (capability.cancelOrder brokerOrderId) := by
  intro w hw
  refine guardedAt_bind (guardedAt_newCall hw) fun call w₁ _ h₁ => ?_
  refine guardedAt_bind (guardedAt_log h₁.coherent rfl trivial) fun _ w₂ _ h₂ => ?_
  refine guardedAt_bind (guardedAt_authorize hprovider w₂ h₂.coherent) fun _ w₃ _ h₃ => ?_
  exact guardedAt_scope h₃.coherent fun hopened => guarded_cancel hsdk brokerOrderId _ hopened

end Calls

/-! ## The sweep -/

section Sweep

variable {w : WriteWorld ε} {capability : CancelOnlyCapability ε}

open CancelOnlyCapability

lemma guarded_transaction (x : LedgerTxn α) : Guarded (transaction x : WriteM ε α) := by
  intro w hw
  unfold GuardedAt transaction
  cases x w.store.ledger with
  | ok p => exact ⟨⟨hw.nonneg, hw.flag, hw.obeys⟩, rfl, rfl, List.prefix_refl _⟩
  | error e => exact Extends.refl hw

variable (hgateway : ∀ {α : Type} (request : GatewayRequest α),
  Guarded (capability.gateway request))

include hgateway

lemma guarded_currentBrokerOrder (candidate : CancelCandidate) :
    Guarded (capability.currentBrokerOrder candidate) := by
  have hmatches : Guarded (capability.currentMatches candidate) := by
    intro w hw
    refine guardedAt_bind (hgateway _ w hw) fun health w₁ _ h₁ => ?_
    split
    · exact guardedAt_pure h₁.coherent
    · refine guardedAt_get ?_
      split
      · exact guardedAt_pure h₁.coherent
      · refine guardedAt_bind (hgateway _ w₁ h₁.coherent) fun account w₂ _ h₂ => ?_
        split
        · exact guardedAt_pure h₂.coherent
        · exact guardedAt_bind (hgateway _ w₂ h₂.coherent) fun _ w₃ _ h₃ =>
            guardedAt_pure h₃.coherent
  intro w hw
  refine guardedAt_bind (guardedAt_catching (hmatches w hw) fun _ _ h => guardedAt_pure h.coherent)
    fun found w₁ _ h₁ => ?_
  split <;> exact guardedAt_pure h₁.coherent

lemma guarded_recordResponse (brokerOrderId : String) (cancelling : OrderAggregate)
    (attempt : BrokerAttempt) (response : BrokerOrderFact) :
    Guarded (capability.recordResponse brokerOrderId cancelling attempt response) := by
  intro w hw
  refine guardedAt_bind (guardedAt_catching ?_ fun _ _ h => guardedAt_pure h.coherent)
    fun fills w₁ _ h₁ => ?_
  · exact guardedAt_bind (hgateway _ w hw) fun _ _ _ h => guardedAt_pure h.coherent
  · exact guardedAt_bind (hgateway _ w₁ h₁.coherent) fun _ w₂ _ h₂ =>
      guarded_transaction _ w₂ h₂.coherent

lemma guarded_cancelCandidate
    (hcancel : ∀ call brokerOrderId, Guarded (capability.cancelOrder call brokerOrderId))
    (call : ℕ) (candidate : CancelCandidate) (aggregate : OrderAggregate)
    (result : CancelOnlyResult) :
    Guarded (capability.cancelCandidate call candidate aggregate result) := by
  intro w hw
  refine guardedAt_bind (hgateway _ w hw) fun startedAt w₁ _ h₁ => ?_
  refine guardedAt_bind (guarded_transaction _ w₁ h₁.coherent) fun begun w₂ _ h₂ => ?_
  refine guardedAt_bind (guardedAt_catching ?_ fun _ _ h => guardedAt_pure h.coherent)
    fun response w₃ _ h₃ => ?_
  · exact guardedAt_bind (guardedAt_scope h₂.coherent fun hopened => hcancel _ _ _ hopened)
      fun _ _ _ h => guardedAt_pure h.coherent
  · cases response with
    | none =>
      refine guardedAt_bind (hgateway _ w₃ h₃.coherent) fun occurredAt w₄ _ h₄ => ?_
      exact guardedAt_bind (guarded_transaction _ w₄ h₄.coherent) fun _ _ _ h =>
        guardedAt_pure h.coherent
    | some response =>
      exact guardedAt_bind (guarded_recordResponse hgateway _ _ _ _ w₃ h₃.coherent) fun _ _ _ h =>
        guardedAt_pure h.coherent

lemma guarded_sweepCandidate
    (hcancel : ∀ call brokerOrderId, Guarded (capability.cancelOrder call brokerOrderId))
    (call : ℕ) (result : CancelOnlyResult) (candidate : CancelCandidate) :
    Guarded (capability.sweepCandidate call result candidate) := by
  intro w hw
  refine guardedAt_get ?_
  split
  · exact guardedAt_pure hw
  · split
    · exact guardedAt_pure hw
    · refine guardedAt_bind (guarded_currentBrokerOrder hgateway candidate w hw)
        fun current w₁ _ h₁ => ?_
      split
      · exact guardedAt_pure h₁.coherent
      · exact guarded_cancelCandidate hgateway hcancel _ _ _ _ w₁ h₁.coherent

lemma guarded_cancelSystemOrders
    (hcancel : ∀ call brokerOrderId, Guarded (capability.cancelOrder call brokerOrderId)) :
    Guarded capability.cancelSystemOrders := by
  have hsweep : ∀ (call : ℕ) (found : List CancelCandidate) (result : CancelOnlyResult),
      Guarded (found.foldlM (capability.sweepCandidate call) result) := by
    intro call found
    induction found with
    | nil => exact fun result w hw => guardedAt_pure hw
    | cons candidate found ih =>
      intro result w hw
      rw [List.foldlM_cons]
      exact guardedAt_bind (guarded_sweepCandidate hgateway hcancel _ _ _ w hw)
        fun result w₁ _ h₁ => ih result w₁ h₁.coherent
  intro w hw
  unfold cancelSystemOrders
  split
  · exact guardedAt_pure hw
  · refine guardedAt_bind (guardedAt_newCall hw) fun call w₁ _ h₁ => ?_
    refine guardedAt_bind (guardedAt_log h₁.coherent rfl trivial) fun _ w₂ _ h₂ => ?_
    exact guardedAt_get (hsweep _ _ _ w₂ h₂.coherent)

end Sweep

/-! ## Any calls in any order -/

/-- **Run.**  Whatever the callers do, the scopes are left as they were. -/
lemma Client.guarded {x : WriteM ε α} (h : Client x) : Guarded x := by
  induction h with
  | outside x => exact guarded_outside x
  | bind _ _ ihx ihf =>
    exact fun w hw => guardedAt_bind (ihx w hw) fun a w' _ h => ihf a w' h.coherent
  | tryCatch _ _ ihx ihh =>
    exact fun w hw => guardedAt_tryCatch (ihx w hw) fun e w' h => ihh e w' h.coherent
  | submitDirectly broker command _ ih => exact guarded_submitDirectly ih command
  | cancelDirectly broker brokerOrderId _ ih => exact guarded_cancelDirectly ih brokerOrderId
  | submitOrder capability command _ _ ihsdk ihprovider =>
    exact guarded_submitOrder ihsdk ihprovider command
  | cancelOrder capability brokerOrderId _ _ ihsdk ihprovider =>
    exact guarded_cancelOrder ihsdk ihprovider brokerOrderId
  | cancelSystemOrders broker capability _ _ hcancel ihsdk ihgateway =>
    refine guarded_cancelSystemOrders ihgateway fun call brokerOrderId => ?_
    rw [hcancel]
    exact guarded_cancel ihsdk brokerOrderId

/-- A running context before any call. -/
def started (store : Store ε) : WriteWorld ε := ⟨store, false, 0, []⟩

lemma coherent_start (store : Store ε) : Coherent (started store) :=
  ⟨le_rfl, by simp [started, depth], obeys_nil⟩

/-- A write that raised and of which the SDK saw nothing. -/
def Refused (w : WriteWorld ε) (r : EStateM.Result Raised (WriteWorld ε) α) : Prop :=
  ∃ e w', r = .error e w' ∧ w'.trace = w.trace

lemma submit_refused {ρ : Type} (broker : ProductionXtQuantBroker ε ρ) (call : ℕ)
    (command : BrokerOrderCommand) {w : WriteWorld ε} (hw : w.writeAuthorized = false) :
    Refused w (broker.submitOrder call command w) := by
  unfold ProductionXtQuantBroker.submitOrder
  rw [bind_apply]
  unfold outside
  cases broker.requireConnected w.store with
  | error e store => exact ⟨e, _, rfl, rfl⟩
  | ok u store =>
    simp only [get_bind_apply, hw, if_true]
    exact ⟨_, _, rfl, rfl⟩

lemma cancel_refused {ρ : Type} (broker : ProductionXtQuantBroker ε ρ) (call : ℕ)
    (brokerOrderId : String) {w : WriteWorld ε} (hw : w.writeAuthorized = false) :
    Refused w (broker.cancelOrder call brokerOrderId w) := by
  unfold ProductionXtQuantBroker.cancelOrder
  rw [bind_apply]
  unfold outside
  cases broker.requireConnected w.store with
  | error e store => exact ⟨e, _, rfl, rfl⟩
  | ok u store =>
    simp only [get_bind_apply, hw, if_true]
    exact ⟨_, _, rfl, rfl⟩

/-- **No unauthorized write.**  After any calls, nested in any way and ended in any way: every write
of the SDK was made in a scope, every submit was authorized for its very shares on a context that
was built after it was requested, or was made on the broker directly from inside an open scope, and
the broker refuses whatever comes next without a scope. -/
theorem writes_authorized {x : WriteM ε α} (hx : Client x) (store : Store ε) :
    Obeys WriteRule (finalState (x (started store))).trace ∧
      depth (finalState (x (started store))).trace = 0 ∧
      (∀ {ρ : Type} (broker : ProductionXtQuantBroker ε ρ) (call : ℕ)
        (command : BrokerOrderCommand),
        Refused (finalState (x (started store)))
          (broker.submitOrder call command (finalState (x (started store))))) ∧
      ∀ {ρ : Type} (broker : ProductionXtQuantBroker ε ρ) (call : ℕ) (brokerOrderId : String),
        Refused (finalState (x (started store)))
          (broker.cancelOrder call brokerOrderId (finalState (x (started store)))) := by
  have hrun : Extends (started store) (finalState (x (started store))) :=
    hx.guarded _ (coherent_start store)
  have hclosed : (finalState (x (started store))).writeAuthorized = false := hrun.flag
  exact ⟨hrun.coherent.obeys, hrun.depth, fun broker call command =>
    submit_refused broker call command hclosed,
    fun broker call brokerOrderId => cancel_refused broker call brokerOrderId hclosed⟩

/-! ## A call from inside a scope -/

namespace ScopeSample

def payload : IntentPayload where
  decisionId := "decision"
  uquantOrderId := "order"
  symbol := ⟨.sh, "600001"⟩
  side := .buy
  requestedShares := 100
  strategySession := 1
  uquantSourceSha := "uquant"

def command : BrokerOrderCommand where
  executionId := ⟨payload⟩
  idempotencyKey := ⟨payload⟩
  clientOrderId := "order"
  symbol := ⟨.sh, "600001"⟩
  side := .buy
  priceType := .limit
  requestedShares := 100
  limitPrice := ⟨10, ten_pos⟩
  strategySession := 1
  requested_pos := hundred_pos

def binding : ArmBinding := ⟨.live, "host", "account", "firmquant", "uquant", "config"⟩

/-- A key whose codes are all the same. -/
def armService : ArmService := ⟨fun _ => "mac"⟩

/-- A context with nothing to deny. -/
def context : WriteAuthorizationContext where
  settings := {
    mode := .live
    liveTradingEnabled := true
    programTradingReportConfirmed := true
    brokerApiAuthorized := true
    execution := .default }
  lease := some {
    leaseId := "lease"
    binding := binding
    issuedAt := 0
    expiresAt := 10
    leaseMac := "mac"
    issued_before_expiry := by norm_num }
  binding := binding
  now := 1
  runtimeState := .executing
  brokerHealth := {
    connected := true
    readHealthy := true
    writeHealthy := true
    observedAt := 1
    disconnected_unhealthy := BrokerHealth.up
    write_needs_read h := h }
  startupReconciliationPassed := true
  brokerSnapshotReceivedAt := some 1
  maxBrokerSnapshotAge := 5
  quoteReceivedAt := some 1
  maxQuoteAge := 5
  sessionValid := true
  marketStatus := .open
  fingerprintsMatch := true
  killSwitchTripped := false
  unresolvedOrderCount := 0
  submittingUnresolvedCount := 0
  reconciliationMismatch := false
  externalActivityDetected := false
  gateDecision := some ⟨.allow, 100, []⟩
  cancelRiskApproved := true
  symbolInCanonicalUniverse := true
  symbolInDeploymentAllowlist := true
  commandWithinUquantIntent := true
  cashAndPositionsSafe := true
  frequencyWithinLimits := true
  clockReceipt := some ⟨1, 1, 0⟩

lemma authorize_command :
    Authorizer.authorize armService context .submit (.command command) = .ok ⟨⟩ := by
  have hreasons : Authorizer.reasons armService context .submit (.command command) = [] := by
    decide +kernel
  unfold Authorizer.authorize
  rw [if_pos hreasons]

/-- An SDK that answers nothing of use. -/
def quietSdk : {α : Type} → SdkRequest Unit α → WriteM Unit α
  | _, .constants => outside (pure ⟨⟩)
  | _, .orderStock _ _ => outside (pure none)
  | _, .cancelOrderStock _ => outside (pure none)
  | _, .queryStockOrder _ => outside (pure none)
  | _, .order _ => outside (throw .interrupt)

def quietBroker : ProductionXtQuantBroker Unit Unit where
  requireConnected := pure ⟨⟩
  sdkPrice _ := .ok ⟨⟩
  clientOrderTag orderId := .ok orderId
  sdk := quietSdk

/-- An SDK from which the broker is called again while it is asked to write. -/
def reentrantSdk : {α : Type} → SdkRequest Unit α → WriteM Unit α
  | _, .orderStock _ _ => do
    let _ ← quietBroker.submitDirectly command
    outside (pure none)
  | _, .constants => outside (pure ⟨⟩)
  | _, .cancelOrderStock _ => outside (pure none)
  | _, .queryStockOrder _ => outside (pure none)
  | _, .order _ => outside (throw .interrupt)

/-- The write capability over a broker with this SDK. -/
def capability (sdk : {α : Type} → SdkRequest Unit α → WriteM Unit α) :
    BrokerWriteCapability Unit Unit where
  armService := armService
  contextProvider _ _ := outside (pure context)
  gateway := { quietBroker with sdk := sdk }

def store : Store Unit := ⟨⟨⟩, .empty, none⟩

lemma client_quietSdk (request : SdkRequest Unit α) : Client (quietSdk request) := by
  cases request with
  | constants => exact Client.outside (pure PUnit.unit)
  | orderStock _ _ | cancelOrderStock _ | queryStockOrder _ => exact Client.outside (pure none)
  | order _ => exact Client.outside (throw .interrupt)

lemma client_reentrantSdk (request : SdkRequest Unit α) :
    Client (reentrantSdk request) := by
  cases request with
  | orderStock other remark =>
    exact .bind (.submitDirectly quietBroker command client_quietSdk) fun _ =>
      Client.outside (pure none)
  | constants => exact Client.outside (pure PUnit.unit)
  | cancelOrderStock _ | queryStockOrder _ => exact Client.outside (pure none)
  | order _ => exact Client.outside (throw .interrupt)

/-- A submit through the capability reaches the SDK, in a trace that obeys the rule. -/
theorem quiet_submit_authorized :
    Client ((capability quietSdk).submitOrder command) ∧
      Obeys WriteRule (finalState ((capability quietSdk).submitOrder command
        (started store))).trace :=
  have hclient : Client ((capability quietSdk).submitOrder command) :=
    .submitOrder _ _ client_quietSdk fun _ _ => Client.outside (pure context)
  ⟨hclient, (writes_authorized hclient store).1⟩

/-- The trace of a submit whose SDK calls the broker again. -/
lemma reentrant_trace :
    (finalState ((capability reentrantSdk).submitOrder command (started store))).trace =
      [.requested 0 .submit (.command command), .contextBuilt 0 context,
        .authorized 0 armService context, .scopeOpened, .orderStock 0 command,
        .requestedDirectly 1, .orderStock 1 command, .scopeClosed] := by
  have hauthorize : ∀ w : WriteWorld Unit,
      (capability reentrantSdk).authorize 0 .submit (.command command) w =
        .ok ⟨⟩ { w with trace :=
          w.trace ++ [.contextBuilt 0 context] ++ [.authorized 0 armService context] } := by
    intro w
    change (lift (Authorizer.authorize armService context .submit (.command command)) >>= fun _ =>
      log (.authorized 0 armService context))
        { w with trace := w.trace ++ [.contextBuilt 0 context] } = _
    rw [authorize_command]
    rfl
  change (finalState (((capability reentrantSdk).authorize 0 .submit (.command command) >>= fun _ =>
    scope ((capability reentrantSdk).gateway.submitOrder 0 command)) _)).trace = _
  rw [bind_apply, hauthorize]
  rfl

/-- The second submit was made in the scope of the first one, and nothing authorized it. -/
theorem reentrant_submit_unauthorized : ¬ ∀ (ε α : Type) (x : WriteM ε α) (store : Store ε),
    Client x → Obeys (fun before entry =>
      match entry with
      | .orderStock call command => SubmitAuthorized call command before
      | _ => True) (finalState (x (started store))).trace := by
  intro h
  have hclient : Client ((capability reentrantSdk).submitOrder command) :=
    .submitOrder _ _ client_reentrantSdk fun _ _ => Client.outside (pure context)
  have hobeys := h _ _ _ store hclient
  rw [reentrant_trace] at hobeys
  have hsecond : SubmitAuthorized 1 command [.requested 0 .submit (.command command),
      .contextBuilt 0 context, .authorized 0 armService context, .scopeOpened,
      .orderStock 0 command, .requestedDirectly 1] :=
    hobeys _ (.orderStock 1 command) [.scopeClosed] rfl
  obtain ⟨earlier, provided, checked, later, service, built, decision, hbefore, -⟩ := hsecond
  have hmem : WriteEntry.requested 1 .submit (.command command) ∈ [
      WriteEntry.requested 0 .submit (.command command), .contextBuilt 0 context,
        .authorized 0 armService context, .scopeOpened, .orderStock 0 command,
        .requestedDirectly 1] := by
    rw [hbefore]
    simp
  simp at hmem

end ScopeSample

end WriteScopes

end FirmQuant
