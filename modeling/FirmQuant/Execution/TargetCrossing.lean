import FirmQuant.Execution.Sizing

/-!
# Orders and their targets

A BUY is sized from the gap between the position of the moment and its target.  A SELL is sized from
the authorization of the plan: nothing compares it with the target again.  So a submitted BUY never
crosses its target, and a submitted SELL stays above its target exactly when the authorization, the
position and the sellable shares allow no more than the gap.
-/

namespace FirmQuant

open Effect

namespace ExecutionController

/-! ## Submissions -/

/-- The whole quantity of the command leaves the position of its sizing on its side of the target.
-/
def Submission.KeepsTarget (e : Submission) : Prop :=
  ∃ sizing ∈ e.sizing, match sizing.planned.side with
    | .buy => heldShares sizing.position + e.command.requestedShares ≤
        sizing.planned.targetShares
    | .sell => sizing.planned.targetShares + e.command.requestedShares ≤
        heldShares sizing.position

/-- A SELL is a liquidation, or every whole number of units that the authorization, the position and
the sellable shares allow leaves the target. -/
def Sizing.Spares (sizing : Sizing) : Prop :=
  sizing.planned.side = .sell → sizing.planned.targetShares = 0 ∨
    ∀ held ∈ sizing.position, ∀ n, sizing.planned.tradingUnit ∣ n →
      n ≤ sizing.planned.uquantAuthorizedShares → n ≤ held.totalShares →
      n ≤ held.sellableShares → sizing.planned.targetShares + n ≤ held.totalShares

/-- What a sizing allows a command. -/
def Sizing.Sizes (sizing : Sizing) (n : ℕ) : Prop :=
  match sizing.planned.side with
  | .buy => n ≤ wantedShares sizing.planned sizing.position
  | .sell => n = (sellShares sizing.planned sizing.position).1

/-- The command of an order for a number of shares. -/
structure CommandOf (planned : PlannedOrder) (n : ℕ) (command : BrokerOrderCommand) : Prop where
  order : command.clientOrderId = planned.uquantOrderId
  symbol : command.symbol = planned.symbol
  side : command.side = planned.side
  shares : command.requestedShares = n

/-- The command is the one of the order that was sized, with shares that the sizing allows. -/
structure Submission.Sized (e : Submission) (sizing : Sizing) : Prop where
  recorded : e.sizing = some sizing
  command : CommandOf sizing.planned e.command.requestedShares e.command
  sizes : sizing.Sizes e.command.requestedShares

/-- The shares of a SELL that is not a liquidation are the most whole units that are allowed. -/
lemma sellShares_greatest {planned : PlannedOrder} {held : BrokerPositionFact}
    (htarget : planned.targetShares ≠ 0) :
    planned.tradingUnit ∣ (sellShares planned (some held)).1 ∧
      (sellShares planned (some held)).1 ≤ min planned.uquantAuthorizedShares
        (min held.totalShares held.sellableShares) ∧
      ∀ n, planned.tradingUnit ∣ n → n ≤ min planned.uquantAuthorizedShares
        (min held.totalShares held.sellableShares) → n ≤ (sellShares planned (some held)).1 := by
  have hpartial : ¬ (min planned.uquantAuthorizedShares
      (min held.totalShares held.sellableShares) = held.totalShares ∧
        planned.targetShares = 0) := fun h => htarget h.2
  have hshares : (sellShares planned (some held)).1 = min planned.uquantAuthorizedShares
      (min held.totalShares held.sellableShares) - min planned.uquantAuthorizedShares
        (min held.totalShares held.sellableShares) % planned.tradingUnit := by
    unfold sellShares
    simp only
    rw [if_neg hpartial]
  rw [hshares]
  exact ⟨dvd_sub_mod _ _, Nat.sub_le _ _, fun n hunit hle => le_sub_mod hunit hle⟩

lemma sellShares_le {planned : PlannedOrder} {held : BrokerPositionFact} :
    (sellShares planned (some held)).1 ≤ held.totalShares := by
  have hmin : min planned.uquantAuthorizedShares (min held.totalShares held.sellableShares) ≤
      held.totalShares := (min_le_right _ _).trans (min_le_left _ _)
  unfold sellShares
  dsimp only
  split
  · exact hmin
  · exact (Nat.sub_le _ _).trans hmin

lemma Submission.Sized.keepsTarget_iff {e : Submission} {sizing : Sizing} (h : e.Sized sizing) :
    e.KeepsTarget ↔ sizing.Spares := by
  have hpos := e.command.requested_pos
  have hsizes := h.sizes
  have hkeeps : e.KeepsTarget ↔ match sizing.planned.side with
      | .buy => heldShares sizing.position + e.command.requestedShares ≤
          sizing.planned.targetShares
      | .sell => sizing.planned.targetShares + e.command.requestedShares ≤
          heldShares sizing.position := by
    unfold KeepsTarget
    rw [h.recorded]
    simp only [Option.mem_some_iff, exists_eq_left']
  rw [hkeeps]
  cases hside : sizing.planned.side with
  | buy =>
    simp only [Sizing.Sizes, hside] at hsizes
    have hle := (@wantedShares_le sizing.planned sizing.position).2
    constructor
    · intro _ hsell
      rw [hside] at hsell
      cases hsell
    · intro _
      change heldShares sizing.position + e.command.requestedShares ≤ _
      omega
  | sell =>
    simp only [Sizing.Sizes, hside] at hsizes
    cases hposition : sizing.position with
    | none =>
      rw [hposition] at hsizes
      exact absurd hsizes hpos.ne'
    | some held =>
      rw [hposition] at hsizes
      change sizing.planned.targetShares + e.command.requestedShares ≤ held.totalShares ↔ _
      by_cases htarget : sizing.planned.targetShares = 0
      · have hle : e.command.requestedShares ≤ held.totalShares := by
          rw [hsizes]
          exact sellShares_le
        exact iff_of_true (by omega) fun _ => .inl htarget
      · obtain ⟨hunit, hmost, hgreatest⟩ := @sellShares_greatest _ held htarget
        rw [← hsizes] at hunit hmost hgreatest
        constructor
        · intro hle _
          right
          intro other hother n hn hauthorized htotal hsellable
          rw [hposition] at hother
          cases hother
          have := hgreatest n hn (le_min hauthorized (le_min htotal hsellable))
          omega
        · intro hspares
          rcases hspares hside with hzero | hall
          · exact absurd hzero htarget
          · exact hall held hposition _ hunit (hmost.trans (min_le_left _ _))
              (hmost.trans ((min_le_right _ _).trans (min_le_left _ _)))
              (hmost.trans ((min_le_right _ _).trans (min_le_right _ _)))

/-! ## Runs -/

section Runs

variable {B : Type} (g : Gateway B) (config : Config)

/-- What is known of the last sizing and of the submissions. -/
def Known (P : Option Sizing → List Submission → Prop) (s : State B) : Prop :=
  P s.sizing s.submissions

/-- Every submission was sized for one of the orders. -/
def AllSized (orders : List PlannedOrder) (submissions : List Submission) : Prop :=
  ∀ e ∈ submissions, ∃ sizing, sizing.planned ∈ orders ∧ e.Sized sizing

/-- No order is at hand. -/
abbrev Between (orders : List PlannedOrder) : State B → Prop :=
  Known fun _ submissions => AllSized orders submissions

/-- The last sizing is of an order and allows it its shares. -/
abbrev SizedFor (orders : List PlannedOrder) (planned : PlannedOrder) (n : ℕ) : State B → Prop :=
  Known fun sizing submissions => AllSized orders submissions ∧
    ∃ position, sizing = some ⟨planned, position⟩ ∧ Sizing.Sizes ⟨planned, position⟩ n

variable {orders : List PlannedOrder}

variable {P : Option Sizing → List Submission → Prop}

variable {α : Type} {planned : PlannedOrder} {st : LoopState} {aggregate : OrderAggregate} {n : ℕ}

lemma keeps_call {port : B → Except Failure α × B} : Keeps (Known P) (call port) := by
  intro s hs
  unfold call
  cases hport : port s.outside with
  | mk answer b =>
    cases answer with
    | ok a => exact hs
    | error failure => exact hs

lemma keeps_inTransaction {x : LedgerTxn α} :
    Keeps (Known P : State B → Prop) (inTransaction x) := by
  intro s hs
  unfold inTransaction
  cases hx : x s.ledger with
  | ok r => exact hs
  | error failure => exact hs

lemma keeps_attempt {I : State B → Prop} {x : Run B α} (h : Keeps I x) :
    Keeps I (attempt x) :=
  keeps_tryCatch (keeps_bind h fun _ => keeps_pure) fun _ => keeps_pure

lemma keeps_brokerFills {brokerOrderId : String} :
    Keeps (Known P) (brokerFills g brokerOrderId) := by
  refine keeps_bind (keeps_attempt keeps_call) fun result => ?_
  split
  · exact keeps_pure
  · exact keeps_pure

lemma keeps_afterSell :
    Keeps (Known P) (afterSell g planned st) := by
  unfold afterSell
  split
  · exact keeps_pure
  · exact keeps_bind keeps_call fun _ => keeps_pure

lemma keeps_cancel :
    Keeps (Known P) (cancel g config aggregate) := by
  unfold cancel
  split
  · exact keeps_throw
  · refine keeps_bind keeps_call fun startedAt => keeps_bind keeps_inTransaction fun r => ?_
    refine keeps_bind (keeps_attempt keeps_call) fun result => ?_
    split
    · exact keeps_bind keeps_call fun _ => keeps_inTransaction
    · exact keeps_bind (keeps_brokerFills g) fun _ =>
        keeps_bind keeps_call fun _ => keeps_inTransaction

lemma keeps_cancelAtEnd :
    Keeps (Known P) (cancelAtEnd g config aggregate) :=
  keeps_ite (keeps_bind (keeps_cancel g config) fun _ => keeps_pure) keeps_pure

/-- The shares of an order come from the facts that were recorded for it. -/
lemma triple_sharesForCurrentFacts :
    Triple (Between orders) (sharesForCurrentFacts g config planned)
      (fun r => SizedFor orders planned r.1) (Between orders) := by
  refine triple_bind (Q := fun _ => Between orders) keeps_call fun positions => ?_
  dsimp only
  set position := positionOf planned positions with hposition
  -- The facts are recorded before the branches, and stay while the cash is asked for.
  have hsized : ∀ {n : ℕ} {s : State B}, Sizing.Sizes ⟨planned, position⟩ n →
      Known (fun sizing submissions => AllSized orders submissions ∧
        sizing = some ⟨planned, position⟩) s → SizedFor orders planned n s :=
    fun hsizes hs => ⟨hs.1, position, hs.2, hsizes⟩
  refine triple_bind (Q := fun _ => Known fun sizing submissions =>
    AllSized orders submissions ∧ sizing = some ⟨planned, position⟩)
    (triple_modify fun s hs => ⟨hs, rfl⟩) fun _ => ?_
  cases hside : planned.side with
  | sell =>
    refine triple_pure fun s hs => hsized ?_ hs
    simp only [Sizing.Sizes, hside]
  | buy =>
    dsimp only
    split_ifs with hwanted
    · refine triple_pure fun s hs => hsized ?_ hs
      simp only [Sizing.Sizes, hside]
      exact Nat.zero_le _
    · refine triple_bind (triple_error keeps_call
        fun _ hs => hs.1) fun account => ?_
      cases hbuy : buyShares config.feeSchedule planned (wantedShares planned position)
          account.availableCash.value with
      | error failure => exact triple_throw fun s hs => hs.1
      | ok sized =>
        refine triple_pure fun s hs => hsized ?_ hs
        simp only [Sizing.Sizes, hside]
        exact (buyShares_eq_ok account.availableCash.nonneg hbuy).2.1

/-- A new order is submitted with the command of the planned order, for the shares that it was
sized to. -/
lemma triple_newAggregate {time : DateTime} :
    Triple (SizedFor orders planned n : State B → Prop) (newAggregate planned n time)
      (fun armed s => CommandOf planned n (LiveController.command armed.intent planned) ∧
        SizedFor orders planned n s) (Between orders) := by
  unfold newAggregate
  split
  · exact triple_throw fun _ hs => hs.1
  · next intent hintent =>
    have hpayload := ExecutionIntent.create_eq_ok hintent
    intro s hs
    unfold inTransaction
    cases hx : (do
        let aggregate ← Ledger.appendIntent intent time
        Ledger.validateAndArm aggregate time : LedgerTxn OrderAggregate) s.ledger with
    | error failure => exact hs.1
    | ok r =>
      obtain ⟨aggregate, ledger, happend, harm⟩ := Txn.bind_eq_ok.mp hx
      have hsame : aggregate.intent = intent := by
        unfold Ledger.appendIntent at happend
        split at happend
        · split_ifs at happend with hexisting
          cases happend
          exact hexisting
        · split_ifs at happend
          cases happend
          rfl
      have harmed := congrArg ExecutionIntent.toIntentPayload
        ((Ledger.validateAndArm_intent harm).trans hsame)
      have hfields := harmed.trans hpayload
      refine ⟨⟨?_, ?_, ?_, ?_⟩, hs⟩
      · exact congrArg IntentPayload.uquantOrderId hfields
      · exact congrArg IntentPayload.symbol hfields
      · exact congrArg IntentPayload.side hfields
      · exact congrArg IntentPayload.requestedShares hfields

variable {command : BrokerOrderCommand}

variable (hplanned : planned ∈ orders)

include hplanned

/-- The command that is submitted is sized by the facts that were recorded last. -/
lemma triple_submitOrder (hcommand : CommandOf planned n command) :
    Triple (SizedFor orders planned n) (submitOrder g command) (fun _ => Between orders)
      (Between orders) := by
  refine triple_bind (Q := fun _ => Between orders) (triple_modify fun s hs => ?_)
    fun _ => keeps_call
  obtain ⟨hall, position, hsizing, hsizes⟩ := hs
  have hshares := hcommand.shares
  subst hshares
  intro e he
  rcases List.mem_append.mp he with he | he
  · exact hall e he
  · rw [List.mem_singleton] at he
    subst he
    exact ⟨⟨planned, position⟩, hplanned, hsizing, hcommand, hsizes⟩

lemma triple_submit (hcommand : CommandOf planned n command) :
    Triple (SizedFor orders planned n) (submit g config aggregate command)
      (fun _ => Between orders) (Between orders) := by
  have hkeeps : ∀ {α : Type} {x : Run B α}, Keeps (SizedFor orders planned n) x →
      Triple (SizedFor orders planned n) x (fun _ => SizedFor orders planned n)
        (Between orders) := fun hx =>
    triple_error hx fun _ hs => hs.1
  refine triple_bind (hkeeps keeps_call) fun startedAt => ?_
  refine triple_bind (hkeeps keeps_inTransaction) fun r => ?_
  have hattempt : Triple (SizedFor orders planned n) (attempt (submitOrder g command))
      (fun _ => Between orders) (Between orders) :=
    triple_tryCatch (triple_bind (triple_submitOrder g hplanned hcommand) fun _ => keeps_pure)
      fun _ => keeps_pure
  refine triple_bind hattempt fun result => ?_
  split
  · exact keeps_bind keeps_call fun _ => keeps_inTransaction
  · exact keeps_bind (keeps_brokerFills g) fun _ =>
      keeps_bind keeps_call fun _ => keeps_inTransaction

lemma triple_submitSized {reason : OutcomeReason} :
    Triple (SizedFor orders planned n) (submitSized g config planned n reason st)
      (fun _ => Between orders) (Between orders) := by
  refine triple_bind (Q := fun _ => SizedFor orders planned n)
    (triple_error keeps_call fun _ hs => hs.1) fun now => ?_
  refine triple_bind triple_newAggregate fun armed => triple_assume fun hcommand => ?_
  refine triple_bind (triple_submit g config hplanned hcommand) fun submitted => ?_
  exact keeps_bind (keeps_cancelAtEnd g config) fun r => keeps_afterSell g

lemma keeps_executeOrder :
    Keeps (Between orders) (executeOrder g config st planned) := by
  refine keeps_ite keeps_pure (keeps_get_bind fun s hs => ?_)
  split
  · exact keeps_afterSell g
  · refine triple_bind (triple_sharesForCurrentFacts g config) fun r => ?_
    dsimp only
    split_ifs
    · have hkept : Keeps (Between orders) (afterSell g planned { st with outcomes :=
          st.outcomes ++ [LiveController.blockedOutcome planned r.2] }) := keeps_afterSell g
      exact triple_pre hkept (fun _ hs => hs.1)
    · exact triple_submitSized g config hplanned

omit hplanned

lemma keeps_execute {plan : ExecutionPlan} :
    Keeps (Between plan.orders) (execute g config plan) := by
  refine keeps_bind keeps_call fun opening => ?_
  refine keeps_bind (exits_foldlM (I := fun _ _ => Between plan.orders)
    (fun done item rest st horders => keeps_executeOrder g config ?_) _) fun st => ?_
  · rw [horders]
    exact List.mem_append_right done List.mem_cons_self
  · exact keeps_bind keeps_call fun ending => keeps_pure

/-- In every run, returned or cut by an exception, each submission is that of a planned order after
its sizing, and it keeps the target exactly when the facts of the sizing spare the target.  A BUY
always does. -/
theorem target_kept_iff (plan : ExecutionPlan) (s : State B) (hstart : s.submissions = []) :
    ∀ e ∈ (finalState (execute g config plan s)).submissions,
      ∃ sizing, sizing.planned ∈ plan.orders ∧ e.Sized sizing ∧
        (e.KeepsTarget ↔ sizing.Spares) := by
  have hbetween : Between plan.orders s := by
    unfold Between Known AllSized
    rw [hstart]
    exact fun e he => absurd he List.not_mem_nil
  intro e he
  obtain ⟨sizing, hplanned, hsized⟩ := (keeps_execute g config).finalState hbetween e he
  exact ⟨sizing, hplanned, hsized, hsized.keepsTarget_iff⟩

end Runs

/-! ### Two reductions -/

namespace Sample

/-- A reduction from 300 shares to 100. -/
def reduction : PlannedOrder :=
  { Desk.lot "A" "600000" .sell with
    uquantAuthorizedShares := 200
    currentShares := 300
    targetShares := 100
    authorized_pos := by norm_num }

/-- A desk that holds shares of one symbol. -/
def holder (shares : ℕ) : Desk :=
  { Desk.fresh 0 [] with
    positions := [⟨⟨.sh, "600000"⟩, shares, shares, none, Money.zero, le_rfl⟩] }

/-- The run of the reduction before a desk. -/
def reduce (shares : ℕ) : State Desk :=
  finalState (execute (gateway Desk.filling) config (Desk.plan [reduction]) (start (holder shares)))

end Sample

/-- With the position of the plan the reduction stops at its target. -/
theorem planned_reduction_kept : (Sample.reduce 300).submissions.length = 1 ∧
    ∀ e ∈ (Sample.reduce 300).submissions, ∃ sizing,
      sizing.planned ∈ (Desk.plan [Sample.reduction]).orders ∧ e.Sized sizing ∧
        (e.KeepsTarget ↔ sizing.Spares) := by
  refine ⟨by decide +kernel, target_kept_iff _ _ _ _ rfl⟩

/-- After 100 shares were sold elsewhere, the reduction sells the other 200. -/
theorem reduction_crosses_target :
    ¬ ∀ (plan : ExecutionPlan) (s : State Desk), s.submissions = [] →
      ∀ e ∈ (finalState (execute (Sample.gateway Desk.filling) Sample.config plan s)).submissions,
        e.KeepsTarget := by
  intro h
  have hrun : (Sample.reduce 200).submissions.any (fun e => e.command.requestedShares = 200 ∧
      e.sizing.any (fun sizing => sizing.planned = Sample.reduction ∧
        heldShares sizing.position = 200)) = true := by
    decide +kernel
  obtain ⟨e, he, hcheck⟩ := List.any_eq_true.mp hrun
  obtain ⟨hshares, hsizing⟩ := of_decide_eq_true hcheck
  obtain ⟨sizing, hsome, hkept⟩ := h (Desk.plan [Sample.reduction]) (Sample.start _) rfl e he
  rw [Option.mem_def.mp hsome] at hsizing
  obtain ⟨hplanned, hheld⟩ := of_decide_eq_true hsizing
  rw [hplanned] at hkept
  change 100 + e.command.requestedShares ≤ heldShares sizing.position at hkept
  omega

end ExecutionController

end FirmQuant
