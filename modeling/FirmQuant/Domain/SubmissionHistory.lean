import FirmQuant.Domain.OrderHistory
import FirmQuant.Foundation.Effect

/-!
# The submissions of an order

A second submission of an order is safe only after it is known that the first one was not
accepted.  The events say so by `SubmitNotAccepted` and `UnknownResolvedNotAccepted`, which return
the order to ARMED.

The aggregate itself lets more through: `OrderArmed` returns an order to ARMED from SUBMITTING and
UNKNOWN, `SubmitStarted` is accepted again in SUBMITTING, and an order with a broker order id or a
fill can be returned to ARMED from UNKNOWN.  `Careful` excludes these three steps.
-/

namespace FirmQuant

namespace OrderAggregate

variable {a a' : OrderAggregate} {event : OrderEvent}

/-! ## Lists of events -/

/-- The event starts a submission. -/
def Submits (event : OrderEvent) : Prop := event.kind = .submitStarted

/-- The event says that a submission was not accepted. -/
def NotAccepted (event : OrderEvent) : Prop :=
  (∃ evidence, event.kind = .submitNotAccepted evidence) ∨
    ∃ evidence, event.kind = .unknownResolvedNotAccepted evidence

/-- Between any two submissions there is an event by which the first was not accepted. -/
def Separated (events : List OrderEvent) : Prop :=
  ∀ before first between second after,
    events = before ++ first :: (between ++ second :: after) → Submits first → Submits second →
      ∃ event ∈ between, NotAccepted event

/-- The last submission was not taken back. -/
def OpenSubmission (events : List OrderEvent) : Prop :=
  ∃ before first after, events = before ++ first :: after ∧ Submits first ∧
    ∀ event ∈ after, ¬ NotAccepted event

variable {events : List OrderEvent} {s : OrderState}

lemma Separated.append (h : Separated events) (hopen : Submits event → ¬ OpenSubmission events) :
    Separated (events ++ [event]) := by
  intro before first between second after hsplit hfirst hsecond
  have hsplit' : events ++ [event] = (before ++ first :: between) ++ second :: after := by
    rw [hsplit]
    simp
  rcases Trace.concat_eq_append_cons hsplit' with ⟨-, rfl, hevents⟩ | ⟨rest, -, hevents⟩
  · by_contra hnone
    push Not at hnone
    exact hopen hsecond ⟨before, first, between, hevents, hfirst, hnone⟩
  · exact h before first between second rest (by rw [hevents]; simp) hfirst hsecond

/-- An open submission is opened by the last event, or it was open and the last event does not
take it back. -/
lemma openSubmission_append (h : OpenSubmission (events ++ [event])) :
    Submits event ∨ (OpenSubmission events ∧ ¬ NotAccepted event) := by
  obtain ⟨before, first, after, hsplit, hfirst, hafter⟩ := h
  rcases Trace.concat_eq_append_cons hsplit with ⟨-, rfl, -⟩ | ⟨rest, rfl, hevents⟩
  · exact .inl hfirst
  · refine .inr ⟨⟨before, first, rest, hevents, hfirst, fun e he => hafter e (by simp [he])⟩, ?_⟩
    exact hafter event (by simp)

/-! ## How an order comes to its early states -/

/-- The states in front of an answer of the broker. -/
def early : List OrderState := [.planned, .validated, .armed, .submitting]

/-- The event that moves an order to an early state, and the state. -/
inductive EntersEarly (event : OrderEvent) : OrderState → Prop
  | validated : event.kind = .orderValidated → EntersEarly event .validated
  | armed : event.kind = .orderArmed → EntersEarly event .armed
  | notAccepted : NotAccepted event → EntersEarly event .armed
  | submitting : Submits event → EntersEarly event .submitting

/-- What a new event did that leaves the order in an early state. -/
structure Entered (a : OrderAggregate) (event : OrderEvent) (a' : OrderAggregate) : Prop where
  enters : EntersEarly event a'.state
  legal : a'.state = a.state ∨ a'.state ∈ OrderState.transitions a.state
  brokerOrderId : a'.brokerOrderId = a.brokerOrderId
  fills : a'.fills = a.fills
  appliedEvents : a'.appliedEvents = a.appliedEvents ++ [event]

lemma entered_of_updated {target : OrderState} {change : AggregateData → AggregateData}
    (hplain : PlainChange change) (henters : EntersEarly event target)
    (h : a.updated event target none change = .ok a') : Entered a event a' := by
  obtain ⟨hlegal, -, hdata⟩ := updated_eq_ok h
  refine ⟨by rw [hdata]; exact henters, by rw [hdata]; exact hlegal, by rw [hdata]; rfl, ?_,
    by rw [hdata]; rfl⟩
  rw [hdata]
  exact (hplain.keepsEconomics a.toAggregateData).1

/-- A new event that leaves the order in an early state is one of four kinds, or a fill that the
order has seen. -/
lemma entered_of_early (h : a.applyNew event = .ok a') (hearly : a'.state ∈ early) :
    a' = a ∨ Entered a event a' := by
  have hother : ∀ {target : OrderState} {id : Option String}
      {change : AggregateData → AggregateData}, target ∉ early →
      a.updated event target id change = .ok a' → a' = a ∨ Entered a event a' := by
    intro target id change htarget hupd
    rw [(updated_eq_ok hupd).2.2] at hearly
    exact absurd hearly htarget
  have hlate : ∀ {states : List OrderState}, (∀ s ∈ states, s ∉ early) → a.state ∈ states →
      a.state ∉ early := fun hstates hmem => hstates a.state hmem
  unfold applyNew at h
  cases hk : event.kind with
  | orderValidated =>
    simp only [hk] at h
    exact .inr <| entered_of_updated .nothing (.validated hk) h
  | orderArmed =>
    simp only [hk] at h
    exact .inr <| entered_of_updated .nothing (.armed hk) h
  | submitStarted =>
    simp only [hk] at h
    exact .inr <| entered_of_updated .submitAttempt (.submitting hk) h
  | submitNotAccepted evidence =>
    simp only [hk] at h
    split_ifs at h
    exact .inr <| entered_of_updated .nothing (.notAccepted (.inl ⟨evidence, hk⟩)) h
  | submitOutcomeUnknown code =>
    simp only [hk] at h
    split_ifs at h with hstate
    · exact hother (hlate (by decide) hstate) h
    · exact hother (by decide) h
  | unknownResolvedNotAccepted evidence =>
    simp only [hk] at h
    exact .inr <| entered_of_updated .nothing (.notAccepted (.inr ⟨evidence, hk⟩)) h
  | brokerAcknowledged id =>
    simp only [hk] at h
    split_ifs at h with hsent hopen hclosed
    · exact hother (by decide) h
    · exact hother (hlate (by decide) hopen) h
    · exact hother (hlate (by decide) hclosed) h
    · exact hother (by decide) h
  | fillReported fillId orderId shares price hpos =>
    simp only [hk] at h
    rcases applyFill_cases h with ⟨hsame, -⟩ | ⟨hclosed, hupd⟩ | ⟨-, hupd⟩
    · exact .inl hsame
    · exact hother (hlate (by decide) hclosed) hupd
    · refine hother ?_ hupd
      unfold fillTarget
      split_ifs <;> decide
  | cancelRequested =>
    simp only [hk] at h
    split_ifs at h
    exact hother (by decide) h
  | cancelNotAccepted evidence =>
    simp only [hk] at h
    split_ifs at h
    · exact hother (by decide) h
    · exact hother (by decide) h
  | cancelOutcomeUnknown code =>
    simp only [hk] at h
    split_ifs at h with hopen hunknown
    · exact hother (by decide) h
    · rw [hunknown] at h
      exact hother (by decide) h
  | cancelConfirmed id =>
    simp only [hk] at h
    split_ifs at h with hid hfilled
    · rw [hfilled] at h
      exact hother (by decide) h
    · exact hother (by decide) h
  | brokerRejected code =>
    simp only [hk] at h
    split_ifs at h with hclosed
    · exact hother (hlate (by decide) hclosed) h
    · exact hother (by decide) h
  | orderExpired code =>
    simp only [hk] at h
    exact hother (by decide) h

/-! ## Careful steps -/

/-- The broker has answered for the order. -/
def Accepted (a : OrderAggregate) : Prop := a.brokerOrderId ≠ none ∨ a.fills ≠ []

/-- The step is none of the three that lead to a second submission: a submission in SUBMITTING, a
plain arming in SUBMITTING or UNKNOWN, and a release of an accepted order. -/
structure Careful (a : OrderAggregate) (event : OrderEvent) : Prop where
  submission : Submits event → a.state ≠ .submitting
  arming : event.kind = .orderArmed → a.state ∉ [OrderState.submitting, .unknown]
  release : NotAccepted event → a.state ∈ [OrderState.submitting, .unknown] → ¬ Accepted a

/-- The invariant of careful steps: an order that the broker has not been asked about, or not yet
answered for, has no sign of acceptance, and in front of a submission no other one is open. -/
structure Solo (a : OrderAggregate) : Prop where
  unanswered : a.state ∈ early → ¬ Accepted a
  closed : a.state ∈ [OrderState.planned, .validated, .armed] → ¬ OpenSubmission a.appliedEvents
  separated : Separated a.appliedEvents

lemma solo_fromIntent (intent : ExecutionIntent) : Solo (fromIntent intent) where
  unanswered _ h := by simp [Accepted, fromIntent] at h
  closed _ h := by
    obtain ⟨before, first, after, hsplit, -⟩ := h
    simp [fromIntent] at hsplit
  separated before first between second after hsplit := by simp [fromIntent] at hsplit

/-- State `s'` can follow state `s`. -/
def Follows (s s' : OrderState) : Prop := s' = s ∨ s' ∈ OrderState.transitions s

instance (s s' : OrderState) : Decidable (Follows s s') :=
  inferInstanceAs (Decidable (s' = s ∨ s' ∈ OrderState.transitions s))

/-- The only way back to an early state leads from UNKNOWN to ARMED. -/
lemma Follows.early {s' : OrderState} (h : Follows s s') (hs : s ∉ early) (hs' : s' ∈ early) :
    s = .unknown ∧ s' = .armed := by
  revert h hs hs'
  cases s <;> cases s' <;> decide

lemma Follows.validated (h : Follows s .validated) :
    s ∈ [OrderState.planned, .validated, .armed] := by
  revert h
  cases s <;> decide

lemma Follows.armed (h : Follows s .armed) :
    s ∈ [OrderState.planned, .validated, .armed] ∨ s ∈ [OrderState.submitting, .unknown] := by
  revert h
  cases s <;> decide

lemma Follows.submitting (h : Follows s .submitting) :
    s = .armed ∨ s = .submitting := by
  revert h
  cases s <;> decide

lemma EntersEarly.eq_submitting (h : EntersEarly event s) (hsubmits : Submits event) :
    s = .submitting := by
  unfold Submits at hsubmits
  cases h with
  | validated hk | armed hk => rw [hk] at hsubmits; cases hsubmits
  | notAccepted hnot =>
    rcases hnot with ⟨evidence, hk⟩ | ⟨evidence, hk⟩
    · rw [hk] at hsubmits; cases hsubmits
    · rw [hk] at hsubmits; cases hsubmits
  | submitting _ => rfl

section Step

variable (h : Entered a event a') (ha : Solo a) (hcareful : Careful a event)

include h ha hcareful

lemma Entered.not_accepted (hearly : a'.state ∈ early) : ¬ Accepted a' := by
  have hsame : Accepted a' ↔ Accepted a := by
    rw [Accepted, Accepted, h.brokerOrderId, h.fills]
  rw [hsame]
  by_cases hbefore : a.state ∈ early
  · exact ha.unanswered hbefore
  -- The order comes back from UNKNOWN to ARMED, which only a release does.
  obtain ⟨hunknown, harmed⟩ := Follows.early h.legal hbefore hearly
  have hpending : a.state ∈ [OrderState.submitting, .unknown] := by
    rw [hunknown]
    decide
  have henters := h.enters
  rw [harmed] at henters
  cases henters with
  | armed hk => exact absurd hpending (hcareful.arming hk)
  | notAccepted hnot => exact hcareful.release hnot hpending

/-- A submission that a careful step accepts follows no open one. -/
lemma Entered.not_open_of_submits (hsubmits : Submits event) :
    ¬ OpenSubmission a.appliedEvents := by
  have hlegal : Follows a.state .submitting := h.enters.eq_submitting hsubmits ▸ h.legal
  rcases hlegal.submitting with harmed | hsubmitting
  · exact ha.closed (by rw [harmed]; decide)
  · exact absurd hsubmitting (hcareful.submission hsubmits)

/-- After a careful step an order that can be submitted has no open submission. -/
lemma Entered.not_open (hstate : a'.state ∈ [OrderState.planned, .validated, .armed]) :
    ¬ OpenSubmission a'.appliedEvents := by
  intro hopen
  rw [h.appliedEvents] at hopen
  have hlegal : Follows a.state a'.state := h.legal
  have henters := h.enters
  rcases openSubmission_append hopen with hsubmits | ⟨hbefore, hkept⟩
  · rw [henters.eq_submitting hsubmits] at hstate
    exact absurd hstate (by decide)
  have hnot : a.state ∉ [OrderState.planned, .validated, .armed] :=
    fun hmem => ha.closed hmem hbefore
  generalize a'.state = s at henters hlegal hstate
  cases henters with
  | validated _ => exact hnot hlegal.validated
  | armed hk => exact hcareful.arming hk (hlegal.armed.resolve_left hnot)
  | notAccepted hreleased => exact hkept hreleased
  | submitting _ => exact absurd hstate (by decide)

end Step

lemma Solo.apply (ha : Solo a) (hcareful : a.Unseen event → Careful a event)
    (h : a.apply event = .ok a') : Solo a' := by
  rcases apply_cases h with rfl | hadvanced
  · exact ha
  unfold OrderAggregate.apply at h
  split at h
  · cases h
  · cases h
    exact ha
  rename_i hseen
  have hcareful := hcareful (unseen_of_eventSeen hseen)
  by_cases hearly : a'.state ∈ early
  · rcases entered_of_early h hearly with rfl | hentered
    · exact ha
    refine ⟨fun _ => hentered.not_accepted ha hcareful hearly, hentered.not_open ha hcareful, ?_⟩
    rw [hentered.appliedEvents]
    exact ha.separated.append (hentered.not_open_of_submits ha hcareful)
  · -- An order that is not early after the step was not submitted by it.
    have hplanned : a'.state ∉ [OrderState.planned, .validated, .armed] := by
      revert hearly
      cases a'.state <;> decide
    have hother : ¬ Submits event := by
      intro hsubmits
      simp only [applyNew, show event.kind = .submitStarted from hsubmits] at h
      rw [(updated_eq_ok h).2.2] at hearly
      exact hearly (by change OrderState.submitting ∈ early; decide)
    refine ⟨fun hmem => absurd hmem hearly, fun hmem => absurd hmem hplanned, ?_⟩
    rw [hadvanced.appliedEvents]
    exact ha.separated.append fun hsubmits => absurd hsubmits hother

/-! ## Runs of accepted events -/

/-- Apply a sequence of events, each of which is accepted. -/
def applyAll (a : OrderAggregate) : List OrderEvent → Except Failure OrderAggregate
  | [] => .ok a
  | event :: rest =>
    match a.apply event with
    | .error failure => .error failure
    | .ok next => next.applyAll rest

variable {first second : List OrderEvent}

lemma applyAll_cons {events : List OrderEvent} : a.applyAll (event :: events) = .ok a' ↔
    ∃ next, a.apply event = .ok next ∧ next.applyAll events = .ok a' := by
  rw [applyAll]
  cases a.apply event <;> simp

lemma applyAll_append (h : a.applyAll (first ++ second) = .ok a') :
    ∃ b, a.applyAll first = .ok b ∧ b.applyAll second = .ok a' := by
  induction first generalizing a with
  | nil => exact ⟨a, rfl, h⟩
  | cons event rest ih =>
    obtain ⟨next, happly, h⟩ := applyAll_cons.mp h
    obtain ⟨b, hfirst, hsecond⟩ := ih h
    exact ⟨b, applyAll_cons.mpr ⟨next, happly, hfirst⟩, hsecond⟩

/-- Every step of the run is careful. -/
def CarefulRun (a : OrderAggregate) (events : List OrderEvent) : Prop :=
  ∀ before event after b, events = before ++ event :: after → a.applyAll before = .ok b →
    b.Unseen event → Careful b event

lemma CarefulRun.of_append (h : CarefulRun a (first ++ second)) :
    CarefulRun a first := by
  intro before event after b hsplit hrun
  exact h before event (after ++ second) b (by rw [hsplit]; simp) hrun

/-- The invariant along a careful run, by induction on its events. -/
lemma Solo.applyAll {events : List OrderEvent} (ha : Solo a) (hcareful : CarefulRun a events)
    (h : a.applyAll events = .ok a') : Solo a' := by
  induction events generalizing a with
  | nil =>
    cases h
    exact ha
  | cons event rest ih =>
    obtain ⟨next, happly, h⟩ := applyAll_cons.mp h
    refine ih (ha.apply (hcareful [] event rest a rfl rfl) happly) ?_ h
    intro before e after b hsplit hrun
    refine hcareful (event :: before) e after b (by rw [hsplit]; rfl) ?_
    exact applyAll_cons.mpr ⟨next, happly, hrun⟩

/-- A submission is accepted in ARMED or SUBMITTING only. -/
lemma state_of_submits (hunseen : a.Unseen event) (hsubmits : Submits event)
    (h : a.apply event = .ok a') : a.state = .armed ∨ a.state = .submitting := by
  rw [apply_of_not_seen hunseen] at h
  simp only [applyNew, show event.kind = .submitStarted from hsubmits] at h
  exact Follows.submitting (updated_eq_ok h).1

/-- In every run of accepted events whose steps are careful: between any two submissions there is
an event by which the first was not accepted, and no submission is accepted once the order has a
broker order id or a fill. -/
theorem no_double_submission {intent : ExecutionIntent} {events : List OrderEvent}
    {a : OrderAggregate} (hrun : (fromIntent intent).applyAll events = .ok a)
    (hcareful : CarefulRun (fromIntent intent) events) :
    Separated a.appliedEvents ∧
    ∀ before event after b, events = before ++ event :: after →
      (fromIntent intent).applyAll before = .ok b → b.Unseen event → Submits event →
        ¬ Accepted b := by
  refine ⟨((solo_fromIntent intent).applyAll hcareful hrun).separated, ?_⟩
  intro before event after b hsplit hbefore hunseen hsubmits
  subst hsplit
  have hsolo : Solo b := (solo_fromIntent intent).applyAll hcareful.of_append hbefore
  obtain ⟨c, hc, hrest⟩ := applyAll_append hrun
  obtain rfl : b = c := by
    rw [hbefore] at hc
    cases hc
    rfl
  refine hsolo.unanswered ?_
  rw [OrderAggregate.applyAll] at hrest
  cases happly : b.apply event with
  | error failure =>
    rw [happly] at hrest
    cases hrest
  | ok next =>
    rcases state_of_submits hunseen hsubmits happly with hstate | hstate
    · rw [hstate]
      decide
    · rw [hstate]
      decide

/-! ## Concrete runs -/

instance : DecidablePred Submits := fun event =>
  inferInstanceAs (Decidable (event.kind = .submitStarted))

instance : DecidablePred NotAccepted := fun event =>
  match hk : event.kind with
  | .submitNotAccepted evidence => isTrue (.inl ⟨evidence, hk⟩)
  | .unknownResolvedNotAccepted evidence => isTrue (.inr ⟨evidence, hk⟩)
  | .orderValidated | .orderArmed | .submitStarted | .brokerAcknowledged _
  | .submitOutcomeUnknown _ | .fillReported .. | .cancelRequested | .cancelNotAccepted _
  | .cancelOutcomeUnknown _ | .cancelConfirmed _ | .brokerRejected _ | .orderExpired _ =>
    isFalse (by simp [NotAccepted, hk])

instance (a : OrderAggregate) : Decidable (Accepted a) :=
  inferInstanceAs (Decidable (a.brokerOrderId ≠ none ∨ a.fills ≠ []))

instance (a : OrderAggregate) (event : OrderEvent) : Decidable (Careful a event) :=
  decidable_of_iff ((Submits event → a.state ≠ .submitting) ∧
      (event.kind = .orderArmed → a.state ∉ [OrderState.submitting, .unknown]) ∧
      (NotAccepted event → a.state ∈ [OrderState.submitting, .unknown] → ¬ Accepted a))
    ⟨fun h => ⟨h.1, h.2.1, h.2.2⟩, fun h => ⟨h.submission, h.arming, h.release⟩⟩

/-- Whether every step of a run is careful. -/
def runsCarefully (a : OrderAggregate) : List OrderEvent → Bool
  | [] => true
  | event :: rest =>
    decide (Careful a event) &&
      match a.apply event with
      | .error _ => true
      | .ok next => runsCarefully next rest

lemma carefulRun_of_runsCarefully (h : runsCarefully a events = true) : CarefulRun a events := by
  induction events generalizing a with
  | nil =>
    intro before event after b hsplit
    simp at hsplit
  | cons first rest ih =>
    rw [runsCarefully, Bool.and_eq_true_iff] at h
    intro before event after b hsplit hrun
    cases before with
    | nil =>
      obtain ⟨rfl, rfl⟩ : first = event ∧ rest = after := by simpa using hsplit
      cases hrun
      exact fun _ => of_decide_eq_true h.1
    | cons e before =>
      obtain ⟨rfl, hrest⟩ : first = e ∧ rest = before ++ event :: after := by simpa using hsplit
      obtain ⟨next, happly, hrun⟩ := applyAll_cons.mp hrun
      have hnext := h.2
      rw [happly] at hnext
      exact ih hnext before event after b hrest hrun

/-- The evidence of a refused submission. -/
def refusal : FailureEvidence := ⟨"BrokerWriteNotAccepted", []⟩

/-- A submission that was refused and made again. -/
theorem resubmission_after_refusal :
    ∃ a, (fromIntent oneShare).applyAll (submission ++
        [plainEvent "refused" (.submitNotAccepted refusal),
          plainEvent "submitted again" .submitStarted]) = .ok a ∧
      a.submitAttempts = 2 ∧ Separated a.appliedEvents := by
  have hrun : ((fromIntent oneShare).applyAll (submission ++
      [plainEvent "refused" (.submitNotAccepted refusal),
        plainEvent "submitted again" .submitStarted])).toOption.map (·.submitAttempts) =
          some 2 := by
    decide
  obtain ⟨a, hok, hattempts⟩ := Effect.exists_of_map hrun
  refine ⟨a, hok, hattempts, (no_double_submission hok ?_).1⟩
  exact carefulRun_of_runsCarefully (by decide)

/-- An order that is armed again while its submission is under way is submitted twice, with no
word of the first submission; and an order that the broker has acknowledged is submitted again
after its outcome became unknown and was resolved as not accepted. -/
theorem order_submitted_twice :
    (∃ a, (fromIntent oneShare).applyAll (submission ++
        [plainEvent "armed again" .orderArmed, plainEvent "submitted again" .submitStarted]) =
          .ok a ∧ ¬ Separated a.appliedEvents) ∧
    ∃ b a, (fromIntent oneShare).applyAll (submission ++
        [plainEvent "ack" (.brokerAcknowledged "broker"),
          plainEvent "timeout" (.submitOutcomeUnknown "BROKER_TIMEOUT"),
          plainEvent "resolved" (.unknownResolvedNotAccepted refusal)]) = .ok b ∧
      Accepted b ∧ b.Unseen (plainEvent "submitted again" .submitStarted) ∧
      b.apply (plainEvent "submitted again" .submitStarted) = .ok a := by
  constructor
  · have hrun : ((fromIntent oneShare).applyAll (submission ++
        [plainEvent "armed again" .orderArmed,
          plainEvent "submitted again" .submitStarted])).toOption.map (·.appliedEvents) =
        some ([plainEvent "validated" .orderValidated, plainEvent "armed" .orderArmed] ++
          plainEvent "submitted" .submitStarted :: ([plainEvent "armed again" .orderArmed] ++
            plainEvent "submitted again" .submitStarted :: [])) := by
      decide
    obtain ⟨a, hok, happlied⟩ := Effect.exists_of_map hrun
    refine ⟨a, hok, fun hseparated => ?_⟩
    obtain ⟨e, he, hnot⟩ := hseparated _ _ _ _ _ happlied rfl rfl
    rw [List.mem_singleton.mp he] at hnot
    exact absurd hnot (by decide)
  · have hrun : ((fromIntent oneShare).applyAll (submission ++
        [plainEvent "ack" (.brokerAcknowledged "broker"),
          plainEvent "timeout" (.submitOutcomeUnknown "BROKER_TIMEOUT"),
          plainEvent "resolved" (.unknownResolvedNotAccepted refusal)])).toOption.any (fun b =>
        decide (Accepted b) &&
          b.appliedEvents.all (fun e => e.eventId ≠ .text "submitted again") &&
          (b.apply (plainEvent "submitted again" .submitStarted)).toOption.isSome) = true := by
      decide
    obtain ⟨b, hok, hchecks⟩ := Effect.exists_of_any hrun
    simp only [Bool.and_eq_true, decide_eq_true_eq, List.all_eq_true] at hchecks
    obtain ⟨⟨haccepted, hunseen⟩, hagain⟩ := hchecks
    cases happly : b.apply (plainEvent "submitted again" .submitStarted) with
    | error failure =>
      rw [happly] at hagain
      cases hagain
    | ok a => exact ⟨b, a, hok, haccepted, hunseen, happly⟩

end OrderAggregate

end FirmQuant
