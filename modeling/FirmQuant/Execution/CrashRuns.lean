import FirmQuant.Execution.ControllerRules
import FirmQuant.Execution.SellFirst
import FirmQuant.Persistence.CrashPoints

/-!
# Runs, crashes and recoveries on one ledger

A ledger outlives the process that writes to it.  A run of `execute` may be cut after any commit
and after any write to the broker; recovery then works on what the run left, may be cut as well,
and another run follows.  `Reach` collects the ledgers that come about in this way, together with
the submissions that the broker was asked for until then.

A new run looks for the economic identity of an order before it sizes it.  Every identity that was
ever submitted is in the ledger, since no call removes a row or relabels it; so it is submitted
once.
-/

namespace FirmQuant

open Effect

/-! ## Submissions -/

/-- A call of `capability.submit_order`, with the ledger of that moment. -/
structure Submission where
  ledger : Ledger
  command : BrokerOrderCommand

/-- The economic identity of an order, `(decision_id, uquant_order_id)`. -/
def ExecutionId.economicId (executionId : ExecutionId) : String × String :=
  (executionId.payload.decisionId, executionId.payload.uquantOrderId)

/-- The economic identity that a submission is for. -/
def Submission.economicId (submission : Submission) : String × String :=
  submission.command.executionId.economicId

/-- The ledger of the call holds the order as SUBMITTING, and a SUBMIT attempt for exactly the
command of the call. -/
structure Submission.WrittenAhead (submission : Submission) : Prop where
  order : ∃ row ∈ submission.ledger.executionIntents,
    row.executionId = submission.command.executionId ∧
      (row.decisionId, row.uquantOrderId) = submission.economicId ∧
      row.state = .submitting ∧ row.aggregate.state = .submitting
  attempt : ∃ row ∈ submission.ledger.attempts,
    row.executionId = submission.command.executionId ∧ row.state = .submitting ∧
      ∃ command ∈ submission.ledger.commands, command.attemptId = row.attemptId ∧
        command.commandKind = .submit ∧ command.payload = .submit submission.command

namespace LiveController

variable {B : Type}

/-- The submissions of a trace. -/
def submissionsMade (trace : List (Observation B)) : List Submission :=
  trace.filterMap fun
    | .submitOrder ledger command => some ⟨ledger, command⟩
    | _ => none

lemma submissionsMade_append_of_ne {trace : List (Observation B)} {o : Observation B}
    (ho : ∀ ledger command, o ≠ .submitOrder ledger command) :
    submissionsMade (trace ++ [o]) = submissionsMade trace := by
  cases o with
  | submitOrder ledger command => exact absurd rfl (ho ledger command)
  | _ => simp [submissionsMade]

lemma submissionsMade_append_submitOrder (trace : List (Observation B)) (ledger : Ledger)
    (command : BrokerOrderCommand) :
    submissionsMade (trace ++ [.submitOrder ledger command]) =
      submissionsMade trace ++ [⟨ledger, command⟩] := by
  simp [submissionsMade]

/-- The ledgers in which a run of `execute` may leave the database, with the submissions that it
made until then: at its end, or at one of its crash points. -/
def Leaves (p : Ports B) (config : LiveConfig) (plan : ExecutionPlan) (ledger : Ledger)
    (outside : B) (lastMonotonic : Option ℚ) (ledger' : Ledger) (made : List Submission) : Prop :=
  let final := finalState (execute p config plan ⟨ledger, outside, lastMonotonic, [], []⟩)
  (ledger', made) = (final.ledger, submissionsMade final.trace) ∨
    ∃ point ∈ final.crashPoints, (ledger', made) = (point.1, submissionsMade point.2)

/-! ## Assertions at every crash point -/

/-- The assertion `S` on the ledger and the trace holds now and at each crash point so far. -/
def Enduring (S : Ledger → List (Observation B) → Prop) (w : World B) : Prop :=
  S w.ledger w.trace ∧ ∀ point ∈ w.crashPoints, S point.1 point.2

section Enduring

variable {S : Ledger → List (Observation B) → Prop} {w : World B}

/-- What the ledger and the trace satisfy after a write holds at the crash point of that write. -/
lemma Enduring.crashPoint {ledger : Ledger} {trace : List (Observation B)} (h : Enduring S w)
    (hS : S ledger trace) :
    Enduring S (World.crashPoint { w with ledger := ledger, trace := trace }) := by
  refine ⟨hS, fun point hpoint => ?_⟩
  rcases List.mem_snoc.mp hpoint with hpoint | hpoint
  · exact h.2 point hpoint
  · rw [hpoint]
    exact hS

/-- An assertion that bears all observations but submissions. -/
lemma quiet_enduring
    (hS : ∀ ledger trace o, (∀ stored command, o ≠ .submitOrder stored command) →
      S ledger trace → S ledger (trace ++ [o])) : Quiet (Enduring S) where
  outside _ _ hw := hw
  lastMonotonic _ _ hw := hw
  observe w o ho hw := ⟨hS _ _ o ho hw.1, hw.2⟩
  crashPoint _ hw := hw.crashPoint hw.1

/-- Beside a fact on the ledger and the trace that bears them as well. -/
lemma quiet_enduring_and {K : Ledger → List (Observation B) → Prop}
    (hS : ∀ ledger trace o, (∀ stored command, o ≠ .submitOrder stored command) →
      S ledger trace → S ledger (trace ++ [o]))
    (hK : ∀ ledger trace o, (∀ stored command, o ≠ .submitOrder stored command) →
      K ledger trace → K ledger (trace ++ [o])) :
    Quiet fun w : World B => Enduring S w ∧ K w.ledger w.trace where
  outside _ _ hw := hw
  lastMonotonic _ _ hw := hw
  observe w o ho hw := ⟨(quiet_enduring hS).observe w o ho hw.1, hK _ _ o ho hw.2⟩
  crashPoint w hw := ⟨(quiet_enduring hS).crashPoint w hw.1, hw.2⟩

/-- An assertion that a run keeps at every crash point holds wherever the run leaves the ledger. -/
lemma Leaves.of_keeps {p : Ports B} {config : LiveConfig} {plan : ExecutionPlan}
    {ledger ledger' : Ledger} {outside : B} {lastMonotonic : Option ℚ} {made : List Submission}
    {R : Ledger → List Submission → Prop}
    (hx : Keeps (Enduring fun ledger trace => R ledger (submissionsMade trace))
      (execute p config plan))
    (h : Leaves p config plan ledger outside lastMonotonic ledger' made) (hR : R ledger []) :
    R ledger' made := by
  have hfinal := hx.finalState (s := ⟨ledger, outside, lastMonotonic, [], []⟩)
    ⟨hR, fun point hpoint => by cases hpoint⟩
  rcases h with h | ⟨point, hpoint, h⟩
  · obtain ⟨rfl, rfl⟩ := Prod.mk.inj h
    exact hfinal.1
  · obtain ⟨rfl, rfl⟩ := Prod.mk.inj h
    exact hfinal.2 point hpoint

end Enduring

end LiveController

/-! ## Reachable ledgers -/

/-- The ledgers that runs, crashes and recoveries bring about, with the submissions made so far.
A run has any ports, configuration and plan; a recovery finds any account operations and any
account file, and its repository is that of the production service. -/
inductive Reach : Ledger → List Submission → Prop
  | start : Reach Ledger.empty []
  | execute {B : Type} {ledger ledger' : Ledger} {made more : List Submission} (p : Ports B)
      (config : LiveConfig) (plan : ExecutionPlan) (outside : B) (lastMonotonic : Option ℚ) :
      Reach ledger made →
      LiveController.Leaves p config plan ledger outside lastMonotonic ledger' more →
      Reach ledger' (made ++ more)
  | recover {E : Type} {database database' : Database} {file file' : AccountFile}
      {made : List Submission} (service : RecoveryService E) (outside : E) :
      service.orders = Recovery.monotonicRepository → Reach database.ledger made →
      Installation.Leaves (Recovery.recover service) database file outside database' file' →
      Reach database'.ledger made

/-! ## Economic identities -/

namespace Ledger

variable {ledger ledger' : Ledger} {aggregate next : OrderAggregate}

/-- The execution and the economic identity of each row. -/
def labels (ledger : Ledger) : List (ExecutionId × String × String) :=
  ledger.executionIntents.map fun row => (row.executionId, row.decisionId, row.uquantOrderId)

/-- Every row is labelled with the economic identity of its execution. -/
def Labelled (ledger : Ledger) : Prop :=
  ∀ label ∈ ledger.labels, label.2 = label.1.economicId

lemma transition_labels {event : OrderEvent} {occurredAt : DateTime}
    (h : transition aggregate event occurredAt ledger = .ok (next, ledger')) :
    ledger'.labels = ledger.labels := by
  rcases transition_eq_ok h with ⟨-, rfl, -⟩ | ⟨-, -, -, -, rfl⟩
  · rfl
  · exact map_advanceIntent fun _ => rfl

/-- No call on an order adds, removes or relabels a row. -/
lemma Evolves.labels {allowed : OrderEvent → Prop} {s t : OrderAggregate × Ledger}
    (h : Evolves allowed s t) : t.2.labels = s.2.labels := by
  refine h.keeps (P := fun _ ledger => ledger.labels = s.2.labels) ?_ ?_ rfl
  · exact fun _ htransition hlabels => (transition_labels htransition).trans hlabels
  · intro a before after hrows hlabels
    unfold Ledger.labels at hlabels ⊢
    rw [hrows]
    exact hlabels

lemma findEconomicOrder_eq_none {decisionId uquantOrderId : String} :
    ledger.findEconomicOrder decisionId uquantOrderId = none ↔
      ∀ label ∈ ledger.labels, label.2 ≠ (decisionId, uquantOrderId) := by
  simp [findEconomicOrder, Ledger.labels]

/-- A new intent is labelled with its own economic identity. -/
lemma labels_appendIntent {intent : ExecutionIntent} {occurredAt : DateTime}
    (hnew : ledger.findEconomicOrder intent.decisionId intent.uquantOrderId = none)
    (h : appendIntent intent occurredAt ledger = .ok (next, ledger')) :
    ledger'.labels = ledger.labels ++ [(intent.executionId, intent.executionId.economicId)] := by
  obtain ⟨-, -, rfl⟩ := appendIntent_new hnew h
  simp [Ledger.labels, intentRow, ExecutionId.economicId, ExecutionIntent.executionId]

/-- A committed write-ahead record of an issued order: the order is SUBMITTING, with an attempt
for the command. -/
lemma beginSubmit_writtenAhead {command : BrokerOrderCommand} {startedAt : DateTime}
    {attempt : BrokerAttempt} (hissued : aggregate.Issued) (hlabels : ledger.Labelled)
    (h : beginSubmit aggregate command startedAt ledger = .ok ((next, attempt), ledger')) :
    command.executionId = aggregate.intent.executionId ∧
      Submission.WrittenAhead ⟨ledger', command⟩ := by
  obtain ⟨-, hcommand, ledger₁, htransition, hinsert⟩ := beginSubmit_writes h
  have hdata := fun a' => @OrderAggregate.apply_submitStarted aggregate a' hissued.numbered
    aggregate.intent.executionId
  -- The event of the record is new to an issued order, so its row was moved.
  have hmoved : ∃ row ∈ ledger₁.executionIntents, row.executionId = command.executionId ∧
      row.state = .submitting ∧ row.aggregate.state = .submitting := by
    rcases transition_eq_ok htransition with ⟨-, -, same, hsame, hversion⟩
      | ⟨happly, -, hholds, -, rfl⟩
    · rw [hdata same hsame] at hversion
      exact absurd hversion (Nat.succ_ne_self _)
    · obtain ⟨row, hrow, hmatch⟩ := hholds
      have hsubmitting : next.state = .submitting := by
        rw [hdata next happly]
        rfl
      refine ⟨IntentRow.advance row next startedAt, ?_, hmatch.1.trans hcommand.symm,
        hsubmitting, hsubmitting⟩
      exact List.mem_map.mpr ⟨row, hrow, by rw [if_pos hmatch]⟩
  have hintent : next.intent = aggregate.intent := transition_intent htransition
  have hlabels₁ : ledger₁.Labelled := by
    rw [Labelled, transition_labels htransition]
    exact hlabels
  unfold insertAttempt at hinsert
  cases hinsert
  refine ⟨hcommand, ⟨?_, ?_⟩⟩
  · obtain ⟨row, hrow, hrowId, hrowState, hrowAggregate⟩ := hmoved
    have hlabel := hlabels₁ _ (List.mem_map.mpr ⟨row, hrow, rfl⟩)
    refine ⟨row, hrow, hrowId, ?_, hrowState, hrowAggregate⟩
    rw [Submission.economicId, ← hrowId]
    exact hlabel
  · refine ⟨_, List.mem_concat_self, ?_, rfl, _,
      List.mem_concat_self, rfl, rfl, rfl⟩
    exact (congrArg ExecutionIntent.executionId hintent).trans hcommand.symm

end Ledger

/-! ## One submission per economic order -/

/-- Every submission was written ahead, no two are for one economic order, and the ledger knows
the order of each. -/
structure SubmittedOnce (ledger : Ledger) (made : List Submission) : Prop where
  labelled : ledger.Labelled
  once : (made.map Submission.economicId).Nodup
  writtenAhead : ∀ submission ∈ made, submission.WrittenAhead
  known : ∀ submission ∈ made, ∃ label ∈ ledger.labels, label.2 = submission.economicId

namespace SubmittedOnce

variable {ledger ledger' : Ledger} {made : List Submission}

/-- The labels of the ledger are all that the submissions are held against. -/
lemma of_labels (h : SubmittedOnce ledger made) (hlabels : ledger'.labels = ledger.labels) :
    SubmittedOnce ledger' made := by
  obtain ⟨hlabelled, honce, hahead, hknown⟩ := h
  exact ⟨by rw [Ledger.Labelled, hlabels]; exact hlabelled, honce, hahead,
    by rw [hlabels]; exact hknown⟩

/-- A new order, which nothing was submitted for. -/
lemma append {label : ExecutionId × String × String} (h : SubmittedOnce ledger made)
    (hlabel : label.2 = label.1.economicId) (hlabels : ledger'.labels = ledger.labels ++ [label]) :
    SubmittedOnce ledger' made := by
  obtain ⟨hlabelled, honce, hahead, hknown⟩ := h
  refine ⟨?_, honce, hahead, fun submission hsubmission => ?_⟩
  · intro other hother
    rw [hlabels, List.mem_append, List.mem_singleton] at hother
    rcases hother with hother | rfl
    · exact hlabelled other hother
    · exact hlabel
  · obtain ⟨other, hother, heq⟩ := hknown submission hsubmission
    exact ⟨other, by rw [hlabels]; exact List.mem_append_left _ hother, heq⟩

/-- The submission of an order that the ledger knows and that was never submitted. -/
lemma submit {command : BrokerOrderCommand} (h : SubmittedOnce ledger made)
    (hahead : Submission.WrittenAhead ⟨ledger, command⟩)
    (hnew : command.executionId.economicId ∉ made.map Submission.economicId)
    (hknown : ∃ label ∈ ledger.labels, label.2 = command.executionId.economicId) :
    SubmittedOnce ledger (made ++ [⟨ledger, command⟩]) := by
  refine ⟨h.labelled, ?_, fun submission hsubmission => ?_, fun submission hsubmission => ?_⟩
  · exact List.nodup_map_snoc.mpr ⟨h.once, fun submission hsubmission heq =>
      hnew (List.mem_map.mpr ⟨submission, hsubmission, heq⟩)⟩
  · rcases List.mem_snoc.mp hsubmission with hsubmission | hsubmission
    · exact h.writtenAhead submission hsubmission
    · rw [hsubmission]
      exact hahead
  · rcases List.mem_snoc.mp hsubmission with hsubmission | hsubmission
    · exact h.known submission hsubmission
    · rw [hsubmission]
      exact hknown

end SubmittedOnce

namespace LiveController

variable {B : Type} {made : List Submission}

/-- The submissions of the run so far, behind those before it, at every crash point. -/
abbrev OnceSoFar (B : Type) (made : List Submission) : World B → Prop :=
  Enduring fun ledger trace => SubmittedOnce ledger (made ++ submissionsMade trace)

/-- The order of an economic identity is in the ledger and was not submitted so far. -/
structure Unsubmitted (made : List Submission) (economicId : String × String) (ledger : Ledger)
    (trace : List (Observation B)) : Prop where
  known : ∃ label ∈ ledger.labels, label.2 = economicId
  new : economicId ∉ (made ++ submissionsMade trace).map Submission.economicId

lemma Unsubmitted.observe {economicId : String × String} {ledger : Ledger}
    {trace : List (Observation B)} {o : Observation B}
    (ho : ∀ stored command, o ≠ .submitOrder stored command)
    (h : Unsubmitted made economicId ledger trace) :
    Unsubmitted made economicId ledger (trace ++ [o]) := by
  refine ⟨h.known, ?_⟩
  rw [submissionsMade_append_of_ne ho]
  exact h.new

/-- Along an order: the armed order is issued and unsubmitted, its record is written ahead of the
call, and after the call it is among the submissions. -/
lemma course_onceSoFar : Course (OnceSoFar B made)
    (fun a w => OnceSoFar B made w ∧
      (a.Issued ∧ Unsubmitted made a.intent.executionId.economicId w.ledger w.trace))
    (fun _ command w => OnceSoFar B made w ∧ (Submission.WrittenAhead ⟨w.ledger, command⟩ ∧
      Unsubmitted made command.executionId.economicId w.ledger w.trace))
    (fun _ => OnceSoFar B made) := by
  have hquiet : ∀ (ledger : Ledger) (trace : List (Observation B)) (o : Observation B),
      (∀ stored command, o ≠ .submitOrder stored command) →
      SubmittedOnce ledger (made ++ submissionsMade trace) →
      SubmittedOnce ledger (made ++ submissionsMade (trace ++ [o])) := by
    intro ledger trace o ho h
    rw [submissionsMade_append_of_ne ho]
    exact h
  have hbetween : Quiet (OnceSoFar B made) := quiet_enduring hquiet
  refine ⟨hbetween, fun a => ?_, fun a command => ?_, ⟨fun _ => hbetween, ?_, fun _ _ hw => hw⟩,
    fun _ _ hw => hw.1, fun _ _ _ hw => hw.1, ?_, ?_, ?_⟩
  · exact quiet_enduring_and (K := fun ledger trace =>
      a.Issued ∧ Unsubmitted made a.intent.executionId.economicId ledger trace) hquiet
      fun _ _ _ ho hK => ⟨hK.1, hK.2.observe ho⟩
  · exact quiet_enduring_and (K := fun ledger trace => Submission.WrittenAhead ⟨ledger, command⟩ ∧
      Unsubmitted made command.executionId.economicId ledger trace) hquiet
      fun _ _ _ ho hK => ⟨hK.1, hK.2.observe ho⟩
  · intro a next w ledger call hcall hw
    exact hw.crashPoint (hw.1.of_labels (Ledger.OrderCall.evolves hcall).labels)
  · intro intent time w first ledger₁ armed ledger hnew happend harm hw
    have hfresh := Ledger.findEconomicOrder_eq_none.mp hnew
    have hlabels : ledger.labels =
        w.ledger.labels ++ [(intent.executionId, intent.executionId.economicId)] :=
      (Ledger.validateAndArm_evolves harm :
        Ledger.Evolves (Ledger.CallEvent fun _ => True) _ _).labels.trans
        (Ledger.labels_appendIntent hnew happend)
    obtain ⟨rfl, -⟩ := Ledger.appendIntent_new hnew happend
    have hintent : armed.intent = intent := Ledger.validateAndArm_intent harm
    refine ⟨hw.crashPoint (hw.1.append rfl hlabels),
      Ledger.validateAndArm_issued (.fromIntent intent) harm, ?_⟩
    rw [hintent]
    have hlabel : (intent.executionId, intent.executionId.economicId) ∈ ledger.labels := by
      rw [hlabels]
      exact List.mem_concat_self
    refine ⟨⟨_, hlabel, rfl⟩, fun hsubmitted => ?_⟩
    obtain ⟨submission, hsubmission, heq⟩ := List.mem_map.mp hsubmitted
    obtain ⟨label, hlabel, hsame⟩ := hw.1.known submission hsubmission
    exact hfresh label hlabel (hsame.trans heq)
  · intro a command time w next attempt ledger hbegin ⟨hw, hissued, hunsubmitted⟩
    have hlabels : ledger.labels = w.ledger.labels := (Ledger.beginSubmit_evolves hbegin :
      Ledger.Evolves (Ledger.CallEvent fun _ => True) _ _).labels
    obtain ⟨hcommand, hahead⟩ := Ledger.beginSubmit_writtenAhead hissued hw.1.labelled hbegin
    refine ⟨hw.crashPoint (hw.1.of_labels hlabels), hahead, ?_⟩
    rw [hcommand]
    exact ⟨by rw [World.crashPoint, hlabels]; exact hunsubmitted.known, hunsubmitted.new⟩
  · intro a command w ⟨hw, hahead, hunsubmitted⟩
    refine hw.crashPoint ?_
    rw [submissionsMade_append_submitOrder, ← List.append_assoc]
    exact hw.1.submit hahead hunsubmitted.new hunsubmitted.known

end LiveController

/-! ## Every run -/

/-- Along all runs, crashes and recoveries. -/
lemma submittedOnce_of_reach {ledger : Ledger} {made : List Submission} (h : Reach ledger made) :
    SubmittedOnce ledger made := by
  induction h with
  | start => exact ⟨by simp [Ledger.Labelled, Ledger.labels,
      Ledger.empty], by simp, by simp, by simp⟩
  | @execute B ledger ledger' made more p config plan outside lastMonotonic _ hleaves ih =>
    refine hleaves.of_keeps (R := fun ledger more => SubmittedOnce ledger (made ++ more))
      LiveController.course_onceSoFar.keeps_execute ?_
    rw [List.append_nil]
    exact ih
  | @recover E database database' file file' made service outside horders _ hleaves ih =>
    have hkeeps := Recovery.keeps_recover_ledger (R := fun ledger => SubmittedOnce ledger made)
      horders fun call _ hcall hR => hR.of_labels (Ledger.OrderCall.evolves hcall).labels
    exact hleaves.of_keeps hkeeps ih

/-- Over any sequence of runs of `execute` on one ledger, each of them cut after any commit or
broker call, with recoveries in between: no economic order is submitted twice, and every
submission finds its order SUBMITTING in the ledger, with a SUBMIT attempt for its command. -/
theorem one_submission_per_economic_order {ledger : Ledger} {made : List Submission}
    (h : Reach ledger made) :
    (made.map Submission.economicId).Nodup ∧ ∀ submission ∈ made, submission.WrittenAhead :=
  ⟨(submittedOnce_of_reach h).once, (submittedOnce_of_reach h).writtenAhead⟩

namespace LiveController

/-- The execution of one SELL on a given ledger. -/
def sellRun (ledger : Ledger) : World Desk :=
  finalState (execute (Desk.ports Desk.filling) unhurried
    (Desk.plan [Desk.lot "A" "600001" .sell]) ⟨ledger, Desk.fresh 5000 ["600001"], none, [], []⟩)

/-- A run is cut behind its submission, and the next run on the same ledger submits nothing. -/
theorem cut_submission_not_repeated :
    ∃ ledger made, Reach ledger made ∧ made.length = 1 ∧
      (made.map Submission.economicId).Nodup ∧ ∀ submission ∈ made, submission.WrittenAhead := by
  have hcut : ∃ point ∈ (sellRun Ledger.empty).crashPoints,
      (submissionsMade point.2).length = 1 ∧
        (submissionsMade point.2 ++ submissionsMade (sellRun point.1).trace).length = 1 := by
    decide +kernel
  obtain ⟨point, hpoint, -, hlength⟩ := hcut
  have hfirst : Reach point.1 ([] ++ submissionsMade point.2) :=
    .execute _ _ _ _ _ .start (.inr ⟨point, hpoint, rfl⟩)
  have hsecond : Reach (sellRun point.1).ledger
      (submissionsMade point.2 ++ submissionsMade (sellRun point.1).trace) :=
    .execute _ _ _ _ _ hfirst (.inl rfl)
  exact ⟨_, _, hsecond, hlength, one_submission_per_economic_order hsecond⟩

end LiveController

end FirmQuant
