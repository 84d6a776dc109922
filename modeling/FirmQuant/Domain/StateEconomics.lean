import FirmQuant.Domain.SubmissionHistory

/-!
# What the state of an order says about its shares

An acknowledged order has no fill, and an open order that has some of its shares is partially
filled, awaits the answer to a cancel, or is unknown.  One kind of step breaks this: an order that
became unknown after a fill is acknowledged, armed or resolved as not accepted, which is applied
without a look at its fills.
-/

namespace FirmQuant

namespace OrderAggregate

variable {a a' : OrderAggregate} {event : OrderEvent}

/-- The states of an open order that has some of its shares. -/
def partialStates : List OrderState := [.partiallyFilled, .cancelRequested, .unknown]

/-- The state agrees with the shares. -/
structure StateAgrees (a : OrderAggregate) : Prop where
  acknowledged : a.state = .acknowledged → a.filledShares = 0
  partly : a.state ∉ OrderState.terminal → 0 < a.filledShares →
    a.filledShares < a.intent.requestedShares → a.state ∈ partialStates

/-- The events that take an unknown order to a state without fills; an acknowledgement is for the
broker order that is known. -/
inductive Resets (a : OrderAggregate) : OrderEventKind → Prop
  | armed : Resets a .orderArmed
  | notAccepted (evidence : FailureEvidence) : Resets a (.unknownResolvedNotAccepted evidence)
  | acknowledged (id : String) (known : a.brokerOrderId = none ∨ a.brokerOrderId = some id) :
      Resets a (.brokerAcknowledged id)

/-- A new event resets an unknown order that has fills. -/
structure Forgets (a : OrderAggregate) (event : OrderEvent) : Prop where
  unknown : a.state = .unknown
  filled : 0 < a.filledShares
  unseen : a.Unseen event
  resets : Resets a event.kind

/-! ## Steps that keep the agreement -/

/-- An order that has some of its shares is closed or in one of the states for that. -/
def Covered (a : OrderAggregate) : Prop :=
  0 < a.filledShares → a.state ∈ OrderState.terminal ∨ a.state ∈ partialStates

lemma covered_fromIntent (intent : ExecutionIntent) : Covered (fromIntent intent) := by
  intro hfilled
  exact absurd hfilled (lt_irrefl 0)

lemma Covered.stateAgrees (h : Covered a) : StateAgrees a := by
  constructor
  · intro hstate
    by_contra hne
    rcases h (Nat.pos_of_ne_zero hne) with hterminal | hpart
    · rw [hstate] at hterminal
      exact absurd hterminal (by decide)
    · rw [hstate] at hpart
      exact absurd hpart (by decide)
  · intro hopen hfilled _
    exact (h hfilled).resolve_left hopen

/-- The states that say that there is no fill. -/
lemma early_or_acknowledged {s : OrderState} (hopen : s ∉ OrderState.terminal)
    (hpart : s ∉ partialStates) : s ∈ early ∨ s = .acknowledged := by
  revert hopen hpart
  cases s <;> decide

/-- How an order becomes acknowledged. -/
lemma acknowledged_cases (h : a.applyNew event = .ok a') (hstate : a'.state = .acknowledged) :
    a.state = .acknowledged ∨ a.filledShares = 0 ∨
      a.state ∈ [OrderState.submitting, .unknown, .planned, .validated, .armed] ∧
        ∃ id, event.kind = .brokerAcknowledged id := by
  have hother : ∀ {target : OrderState} {id : Option String}
      {change : AggregateData → AggregateData}, target ≠ .acknowledged →
      ¬ a.updated event target id change = .ok a' := by
    intro target id change htarget hupd
    rw [updated_state hupd] at hstate
    exact htarget hstate
  have hsame : ∀ {id : Option String} {change : AggregateData → AggregateData},
      a.updated event a.state id change = .ok a' → a.state = .acknowledged := by
    intro id change hupd
    rw [← updated_state hupd, hstate]
  unfold applyNew at h
  cases hk : event.kind with
  | orderValidated | orderArmed | submitStarted | unknownResolvedNotAccepted evidence
  | orderExpired code =>
    simp only [hk] at h
    exact absurd h (hother (by decide))
  | submitNotAccepted evidence | cancelRequested =>
    simp only [hk] at h
    split_ifs at h
    exact absurd h (hother (by decide))
  | submitOutcomeUnknown code | cancelOutcomeUnknown code | cancelConfirmed id
  | brokerRejected code =>
    simp only [hk] at h
    split_ifs at h
    all_goals
      first
      | exact .inl (hsame h)
      | exact absurd h (hother (by decide))
  | brokerAcknowledged id =>
    simp only [hk] at h
    split_ifs at h with hsent hopen hclosed
    · refine .inr (.inr ⟨?_, id, rfl⟩)
      revert hsent
      cases a.state <;> decide
    · exact .inl (hsame h)
    · exact .inl (hsame h)
    · refine .inr (.inr ⟨?_, id, rfl⟩)
      revert hsent hopen hclosed
      cases a.state <;> decide
  | fillReported fillId orderId shares price hpos =>
    simp only [hk] at h
    rcases applyFill_cases h with ⟨rfl, -⟩ | ⟨-, hupd⟩ | ⟨-, hupd⟩
    · exact .inl hstate
    · exact .inl (hsame hupd)
    · refine absurd hupd (hother ?_)
      unfold fillTarget
      split_ifs <;> decide
  | cancelNotAccepted evidence =>
    simp only [hk] at h
    split_ifs at h with hrequested hfilled
    · exact absurd h (hother (by decide))
    · exact .inr (.inl (by omega))

/-- A new event that leads to a state without fills, from one with fills, forgets them. -/
lemma forgets_of_applyNew (hunseen : a.Unseen event) (h : a.applyNew event = .ok a')
    (hfilled : 0 < a.filledShares) (hpart : a.state ∈ partialStates)
    (hstate : a'.state ∈ early ∨ a'.state = .acknowledged) : Forgets a event := by
  rcases hstate with hearly | hacknowledged
  · rcases entered_of_early h hearly with rfl | hentered
    · exfalso
      revert hearly hpart
      cases a'.state <;> decide
    -- Of the states with fills only UNKNOWN leads to an early one, and only to ARMED.
    have hunknown : a.state = .unknown ∧ a'.state = .armed := by
      have hlegal := hentered.legal
      revert hlegal hearly hpart
      cases a.state <;> cases a'.state <;> decide
    refine ⟨hunknown.1, hfilled, hunseen, ?_⟩
    have henters := hentered.enters
    rw [hunknown.2] at henters
    cases henters with
    | armed hkind =>
      rw [hkind]
      exact .armed
    | notAccepted hkind =>
      rcases hkind with ⟨evidence, hkind⟩ | ⟨evidence, hkind⟩
      · simp only [applyNew, hkind] at h
        rw [if_pos (by rw [hunknown.1]; decide)] at h
        cases h
      · rw [hkind]
        exact .notAccepted evidence
  · rcases acknowledged_cases h hacknowledged with hsame | hnone | ⟨hopen, id, hkind⟩
    · rw [hsame] at hpart
      exact absurd hpart (by decide)
    · omega
    have hunknown : a.state = .unknown := by
      revert hopen hpart
      cases a.state <;> decide
    refine ⟨hunknown, hfilled, hunseen, ?_⟩
    simp only [applyNew, hkind] at h
    rw [if_pos (by rw [hunknown]; decide)] at h
    have hid := (updated_eq_ok h).2.1
    rw [hkind]
    refine .acknowledged id ?_
    cases hknown : a.brokerOrderId with
    | none => exact .inl rfl
    | some known =>
      rw [hknown] at hid
      exact .inr (hid rfl rfl)

lemma apply_covered (h : a.apply event = .ok a') (ha : Covered a) (hnot : ¬ Forgets a event) :
    Covered a' := by
  have hadvanced := apply_cases h
  unfold apply at h
  split at h
  · cases h
  · cases h
    exact ha
  rename_i hseen
  have hunseen := unseen_of_eventSeen hseen
  rcases hadvanced with rfl | hadv
  · exact ha
  intro hfilled
  by_contra hlost
  rw [not_or] at hlost
  have hstate := early_or_acknowledged hlost.1 hlost.2
  rcases hadv.economics with ⟨-, hsame⟩ | ⟨fill, hkind, -⟩
  · rw [hsame] at hfilled
    rcases ha hfilled with hterminal | hpart
    · -- Nothing leaves a closed state.
      rcases hadv.state with heq | hmoved
      · exact hlost.1 (heq ▸ hterminal)
      · rw [OrderState.transitions_terminal hterminal] at hmoved
        cases hmoved
    · exact hnot (forgets_of_applyNew hunseen h hfilled hpart hstate)
  · have hfill : a.applyFill event fill = .ok a' := by
      unfold applyNew at h
      rw [hkind] at h
      exact h
    rcases applyFill_cases hfill with ⟨rfl, -⟩ | ⟨hclosed, hupd⟩ | ⟨-, hupd⟩
    · have hversion := hadv.version
      omega
    · refine hlost.1 ?_
      rw [updated_state hupd]
      revert hclosed
      cases a.state <;> decide
    · rw [updated_state hupd] at hlost
      unfold fillTarget at hlost
      split_ifs at hlost
      · exact hlost.1 (by decide)
      · exact hlost.2 (by decide)
      · exact hlost.2 (by decide)

/-! ## Steps that break it -/

/-- An event that forgets the fills is accepted, and the state that it leads to says that there are
none. -/
lemma Forgets.breaks (h : Forgets a event) (hmisses : MissesShares a) :
    ∃ a', a.apply event = .ok a' ∧ ¬ StateAgrees a' := by
  have hmissing : a.filledShares < a.intent.requestedShares :=
    hmisses (by rw [h.unknown]; decide)
  have hbreaks : ∀ {target : OrderState} {id : Option String} {a' : OrderAggregate},
      target ∈ [OrderState.armed, .acknowledged] →
      a.updated event target id (fun d => d) = .ok a' → ¬ StateAgrees a' := by
    intro target id a' htarget hupd hagrees
    have hdata := (updated_eq_ok hupd).2.2
    have hstate : a'.state = target := updated_state hupd
    have hshares : a'.filledShares = a.filledShares := by rw [hdata]; rfl
    have hintent : a'.intent = a.intent := by rw [hdata]; rfl
    have hpart := hagrees.partly
    rw [hstate, hshares, hintent] at hpart
    have hmem := hpart (by revert htarget; cases target <;> decide) h.filled hmissing
    revert htarget hmem
    cases target <;> decide
  rw [apply_of_not_seen h.unseen]
  have harmed : ∃ a', a.updated event .armed none id = .ok a' :=
    updated_plain h.unseen .nothing (.inr (by rw [h.unknown]; decide)) (.inr (by decide)) (.inl rfl)
  have hacknowledged : ∀ id, a.brokerOrderId = none ∨ a.brokerOrderId = some id →
      ∃ a', a.updated event .acknowledged (some id) (fun d => d) = .ok a' := fun id hknown =>
    updated_plain h.unseen .nothing (.inr (by rw [h.unknown]; decide)) (.inr (by decide))
      (.inr hknown)
  obtain ⟨eventId, kind⟩ := event
  have hresets : Resets a kind := h.resets
  cases hresets with
  | armed | notAccepted evidence =>
    obtain ⟨a', hupd⟩ := harmed
    exact ⟨a', hupd, hbreaks (by decide) hupd⟩
  | acknowledged id hknown =>
    obtain ⟨a', hupd⟩ := hacknowledged id hknown
    refine ⟨a', ?_, hbreaks (by decide) hupd⟩
    simp only [applyNew, h.unknown]
    rw [if_pos (by decide)]
    exact hupd

/-! ## Histories -/

lemma history_append (intent : ExecutionIntent) (before after : List OrderEvent) :
    history intent (before ++ after) = after.foldl feed (history intent before) := by
  unfold history
  rw [List.foldl_append]

/-- For every history: the state agrees with the shares at every point if and only if no event
resets the order while it is unknown with fills. -/
theorem state_agrees_iff (intent : ExecutionIntent) (events : List OrderEvent) :
    (∀ before, before <+: events → StateAgrees (history intent before)) ↔
      ∀ before event, before ++ [event] <+: events → ¬ Forgets (history intent before) event := by
  constructor
  · intro hagrees before event hprefix hforgets
    obtain ⟨a', happly, hbroken⟩ := hforgets.breaks (reached_history intent before).misses
    have hnext := hagrees _ hprefix
    rw [history_append] at hnext
    have hfeed : [event].foldl feed (history intent before) = a' := by
      change feed _ event = a'
      unfold feed
      rw [happly]
    exact hbroken (hfeed ▸ hnext)
  · intro hkept before hprefix
    refine Covered.stateAgrees ?_
    induction before using List.reverseRecOn with
    | nil => exact covered_fromIntent intent
    | append_singleton before event ih =>
      have hcovered := ih ((List.prefix_append _ _).trans hprefix)
      rw [history_append]
      exact feed_keeps (fun next happly => apply_covered happly hcovered (hkept _ _ hprefix))
        hcovered

/-- An order that became unknown after a fill, and is then acknowledged with that fill. -/
theorem acknowledged_with_fill :
    ¬ ∀ (intent : ExecutionIntent) (events : List OrderEvent),
      StateAgrees (history intent events) := by
  intro h
  have hagrees := h ⟨⟨"decision", "order", ⟨.sh, "600001"⟩, .buy, 2, 0, "uquant"⟩, by decide⟩
    (submission ++ [plainEvent "ack" (.brokerAcknowledged "broker"),
      fillReport (.text "fill") lateFill, plainEvent "unknown" (.submitOutcomeUnknown "TIMEOUT"),
      plainEvent "again" (.brokerAcknowledged "broker")])
  exact absurd (hagrees.acknowledged (by decide)) (by decide +kernel)

end OrderAggregate

end FirmQuant
