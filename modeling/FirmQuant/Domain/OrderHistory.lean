import Mathlib.Data.List.Nodup
import FirmQuant.Domain.Orders
import FirmQuant.Foundation.Trace

/-!
# Histories of an order

Events reach an aggregate in any order and any number of times.  `feed` applies one event and
leaves the aggregate as it was when the event is refused; a history is the aggregate that a
sequence of events leaves of a new order.

The first part shows that the checks of the constructor are never reached by an event: an event is
refused before an aggregate is built, or the built aggregate passes.  The second part is about the
economics of a whole history, and the third about its closing states and late fills.
-/

namespace FirmQuant

namespace OrderAggregate

variable {a a' b : OrderAggregate} {event : OrderEvent}

/-! ## Refusals -/

/-- An event that an aggregate has not seen. -/
def Unseen (a : OrderAggregate) (event : OrderEvent) : Prop :=
  ∀ e ∈ a.appliedEvents, e.eventId ≠ event.eventId

/-- The failure is raised by a check in front of the constructor. -/
def RefusedBefore (failure : Failure) : Prop := ∃ message, failure = .domainTransitionError message

variable {target : OrderState} {brokerOrderId : Option String}
  {change : AggregateData → AggregateData} {failure : Failure}

/-- An update fails in the constructor only with fields that are not well formed. -/
lemma updated_refusedBefore (hwell : (a.updatedData event target brokerOrderId change).WellFormed)
    (h : a.updated event target brokerOrderId change = .error failure) : RefusedBefore failure := by
  unfold updated at h
  split_ifs at h with htarget hid
  · cases h
    exact ⟨_, rfl⟩
  · cases h
    exact ⟨_, rfl⟩
  · have hvalid := AggregateData.violation_eq_none.mpr hwell
    unfold build at h
    split at h
    · cases h
    · rename_i hsome
      rw [hvalid] at hsome
      cases hsome

variable {d : AggregateData} {fill : AppliedFill}

lemma nodup_withAnomaly {anomaly : Anomaly} (h : d.anomalies.Nodup) :
    (withAnomaly anomaly d).anomalies.Nodup := by
  unfold withAnomaly
  split_ifs with hmem
  · exact h
  · change (d.anomalies ++ [anomaly]).Nodup
    rw [← List.concat_eq_append]
    exact h.concat hmem

lemma PlainChange.nodup_anomalies (h : PlainChange change) (hd : d.anomalies.Nodup) :
    (change d).anomalies.Nodup := by
  cases h with
  | nothing => exact hd
  | submitAttempt => exact hd
  | cancelRequest => exact hd
  | anomaly anomaly => exact nodup_withAnomaly hd

lemma nodup_appliedEvents (hunseen : a.Unseen event) :
    ((a.appliedEvents ++ [event]).map (·.eventId)).Nodup :=
  List.nodup_map_snoc.mpr ⟨a.wellFormed.events_nodup, hunseen⟩

/-- An unseen event leaves well-formed fields, if what it changes them to is. -/
lemma wellFormed_change (hunseen : a.Unseen event)
    {fills : List AppliedFill} {shares : ℕ} (hfills : (change a.toAggregateData).fills = fills)
    (hfilled : (change a.toAggregateData).filledShares = shares)
    (hanomalies : (change a.toAggregateData).anomalies.Nodup)
    (hsum : (fills.map (·.shares)).sum = shares) (hids : (fills.map (·.brokerFillId)).Nodup)
    (hle : shares ≤ a.intent.requestedShares)
    (hfull : target = .filled → shares = a.intent.requestedShares)
    (hproper : target = .partiallyFilled → 0 < shares ∧ shares < a.intent.requestedShares) :
    (a.updatedData event target brokerOrderId change).WellFormed := by
  subst hfills hfilled
  exact ⟨hsum, hids, nodup_appliedEvents hunseen, hanomalies, hle, hfull, hproper⟩

/-- An unseen event that is no fill leaves well-formed fields, if its target fits the shares. -/
lemma wellFormed_updatedData (hunseen : a.Unseen event) (hplain : PlainChange change)
    (hfull : target = .filled → a.filledShares = a.intent.requestedShares)
    (hproper : target = .partiallyFilled →
      0 < a.filledShares ∧ a.filledShares < a.intent.requestedShares) :
    (a.updatedData event target brokerOrderId change).WellFormed := by
  obtain ⟨hfills, hfilled, -⟩ := hplain.keepsEconomics a.toAggregateData
  have hwell := a.wellFormed
  exact wellFormed_change hunseen hfills hfilled (hplain.nodup_anomalies hwell.anomalies_nodup)
    hwell.filled_eq hwell.fills_nodup hwell.filled_le hfull hproper

/-- An unseen fill leaves well-formed fields, if its id is new, its shares fit and its target fits
the shares. -/
lemma wellFormed_withFill (fill : AppliedFill) (hunseen : a.Unseen event)
    (hfills : (change a.toAggregateData).fills = a.fills ++ [fill])
    (hfilled : (change a.toAggregateData).filledShares = a.filledShares + fill.shares)
    (hanomalies : (change a.toAggregateData).anomalies.Nodup)
    (hnew : ∀ f ∈ a.fills, f.brokerFillId ≠ fill.brokerFillId)
    (hfits : a.filledShares + fill.shares ≤ a.intent.requestedShares)
    (hfull : target = .filled → a.filledShares + fill.shares = a.intent.requestedShares)
    (hproper : target = .partiallyFilled →
      a.filledShares + fill.shares ≠ a.intent.requestedShares) :
    (a.updatedData event target brokerOrderId change).WellFormed := by
  have hwell := a.wellFormed
  refine wellFormed_change hunseen hfills hfilled hanomalies ?_
    (List.nodup_map_snoc.mpr ⟨hwell.fills_nodup, hnew⟩) hfits hfull fun htarget => ?_
  · rw [List.map_append, List.sum_append, hwell.filled_eq]
    simp
  · have hpos := fill.shares_pos
    have hne := hproper htarget
    omega

lemma wellFormed_lateFill (hunseen : a.Unseen event)
    (hnew : ∀ f ∈ a.fills, f.brokerFillId ≠ fill.brokerFillId)
    (hfits : a.filledShares + fill.shares ≤ a.intent.requestedShares)
    (hlate : a.state ∈ [OrderState.cancelled, .rejected, .expired]) :
    (a.updatedData event a.state (some fill.brokerOrderId) fun d =>
      withAnomaly (.lateFillAfter a.state)
        { withFill fill d with lateFillInvestigationRequired := true }).WellFormed := by
  have heconomics := keepsEconomics_withAnomaly (.lateFillAfter a.state)
    { withFill fill a.toAggregateData with lateFillInvestigationRequired := true }
  refine wellFormed_withFill fill hunseen heconomics.1 heconomics.2.1
    (nodup_withAnomaly a.wellFormed.anomalies_nodup) hnew hfits ?_ ?_
  all_goals
    intro hstate
    rw [hstate] at hlate
    exact absurd hlate (by decide)

lemma wellFormed_openFill (hunseen : a.Unseen event)
    (hnew : ∀ f ∈ a.fills, f.brokerFillId ≠ fill.brokerFillId)
    (hfits : a.filledShares + fill.shares ≤ a.intent.requestedShares) :
    (a.updatedData event (a.fillTarget fill) (some fill.brokerOrderId)
      (withFill fill)).WellFormed := by
  refine wellFormed_withFill fill hunseen rfl rfl a.wellFormed.anomalies_nodup hnew hfits ?_ ?_
  all_goals
    intro htarget
    unfold fillTarget at htarget
    split_ifs at htarget with hfull
    exact hfull

/-- A fill is refused before the constructor, or the constructor passes. -/
lemma applyFill_refusedBefore (hunseen : a.Unseen event)
    (h : a.applyFill event fill = .error failure) : RefusedBefore failure := by
  unfold applyFill at h
  split at h
  · split_ifs at h
    cases h
    exact ⟨_, rfl⟩
  rename_i hfind
  have hnew : ∀ f ∈ a.fills, f.brokerFillId ≠ fill.brokerFillId := by
    intro f hf
    simpa using List.find?_eq_none.mp hfind f hf
  split_ifs at h with hearly hexceeds hlate
  · cases h
    exact ⟨_, rfl⟩
  · cases h
    exact ⟨_, rfl⟩
  · exact updated_refusedBefore (wellFormed_lateFill hunseen hnew (not_lt.mp hexceeds) hlate) h
  · exact updated_refusedBefore (wellFormed_openFill hunseen hnew (not_lt.mp hexceeds)) h

section Plain

variable {target : OrderState} {brokerOrderId : Option String}
  {change : AggregateData → AggregateData} {failure : Failure}

/-- An update to a state that says nothing about the shares. -/
lemma updated_refusedBefore_of_free (hunseen : a.Unseen event) (hplain : PlainChange change)
    (hfree : target ∉ [OrderState.filled, .partiallyFilled])
    (h : a.updated event target brokerOrderId change = .error failure) : RefusedBefore failure := by
  refine updated_refusedBefore (wellFormed_updatedData hunseen hplain ?_ ?_) h
  all_goals
    rintro rfl
    exact absurd hfree (by decide)

lemma updated_refusedBefore_of_same (hunseen : a.Unseen event) (hplain : PlainChange change)
    (h : a.updated event a.state brokerOrderId change = .error failure) : RefusedBefore failure :=
  updated_refusedBefore (wellFormed_updatedData hunseen hplain a.wellFormed.filled_full
    a.wellFormed.partial_proper) h

end Plain

/-- A new event is refused before the constructor, or the constructor passes. -/
lemma applyNew_refusedBefore (hunseen : a.Unseen event) (hmisses : MissesShares a)
    (h : a.applyNew event = .error failure) : RefusedBefore failure := by
  have hfree : ∀ {target : OrderState} {id : Option String}
    {change : AggregateData → AggregateData},
      PlainChange change → target ∉ [OrderState.filled, .partiallyFilled] →
      a.updated event target id change = .error failure → RefusedBefore failure :=
    fun hplain htarget => updated_refusedBefore_of_free hunseen hplain htarget
  have hsame : ∀ {id : Option String} {change : AggregateData → AggregateData},
      PlainChange change → a.updated event a.state id change = .error failure →
      RefusedBefore failure :=
    fun hplain => updated_refusedBefore_of_same hunseen hplain
  have hcheck : ∀ {message : String},
      (Except.error (.domainTransitionError message) : Except Failure OrderAggregate) =
        .error failure → RefusedBefore failure := by
    intro message herror
    cases herror
    exact ⟨message, rfl⟩
  unfold applyNew at h
  cases hk : event.kind with
  | orderValidated | orderArmed | unknownResolvedNotAccepted evidence | orderExpired code =>
    simp only [hk] at h
    exact hfree .nothing (by decide) h
  | submitStarted =>
    simp only [hk] at h
    exact hfree .submitAttempt (by decide) h
  | submitNotAccepted evidence =>
    simp only [hk] at h
    split_ifs at h
    · exact hcheck h
    · exact hfree .nothing (by decide) h
  | submitOutcomeUnknown code =>
    simp only [hk] at h
    split_ifs at h
    · exact hsame .nothing h
    · exact hfree .nothing (by decide) h
  | brokerAcknowledged id =>
    simp only [hk] at h
    split_ifs at h
    · exact hfree .nothing (by decide) h
    · exact hsame .nothing h
    · exact hsame (.anomaly _) h
    · exact hfree .nothing (by decide) h
  | fillReported fillId orderId shares price hpos =>
    simp only [hk] at h
    exact applyFill_refusedBefore hunseen h
  | cancelRequested =>
    simp only [hk] at h
    split_ifs at h
    · exact hcheck h
    · exact hfree .cancelRequest (by decide) h
  | cancelNotAccepted evidence =>
    simp only [hk] at h
    split_ifs at h with hstate hfilled
    · exact hcheck h
    · -- The order is open, so it misses shares, and it has some.
      have hopen : a.filledShares < a.intent.requestedShares := by
        refine hmisses ?_
        rw [not_not.mp hstate]
        decide
      refine updated_refusedBefore (wellFormed_updatedData hunseen .nothing ?_
        fun _ => ⟨hfilled, hopen⟩) h
      intro hne
      cases hne
    · exact hfree .nothing (by decide) h
  | cancelOutcomeUnknown code =>
    simp only [hk] at h
    split_ifs at h
    · exact hfree .nothing (by decide) h
    · exact hsame .nothing h
    · exact hcheck h
  | cancelConfirmed id =>
    simp only [hk] at h
    split_ifs at h
    · exact hcheck h
    · exact hsame (.anomaly _) h
    · exact hfree .nothing (by decide) h
  | brokerRejected code =>
    simp only [hk] at h
    split_ifs at h
    · exact hsame (.anomaly _) h
    · exact hfree .nothing (by decide) h

lemma unseen_of_eventSeen (h : a.eventSeen event = .ok false) : a.Unseen event := by
  unfold eventSeen at h
  split at h
  · rename_i hfind
    intro e he
    simpa using List.find?_eq_none.mp hfind e he
  · split_ifs at h
    cases h

/-- An event is refused before the constructor, or the constructor passes: every refusal is a
`DomainTransitionError`. -/
lemma apply_refusedBefore (hmisses : MissesShares a)
    (h : a.apply event = .error failure) : RefusedBefore failure := by
  unfold apply at h
  split at h
  · rename_i hseen
    cases h
    unfold eventSeen at hseen
    split at hseen
    · cases hseen
    · split_ifs at hseen
      cases hseen
      exact ⟨_, rfl⟩
  · cases h
  · rename_i hseen
    exact applyNew_refusedBefore (unseen_of_eventSeen hseen) hmisses h

/-! ## Accepted updates -/

/-- An update to a legal state, for no other broker order, with fields that are well formed. -/
lemma updated_succeeds (hlegal : target = a.state ∨ target ∈ OrderState.transitions a.state)
    (hid : brokerOrderId = none ∨ a.brokerOrderId = none ∨ a.brokerOrderId = brokerOrderId)
    (hwell : (a.updatedData event target brokerOrderId change).WellFormed) :
    ∃ a', a.updated event target brokerOrderId change = .ok a' := by
  have htarget : ¬ (target ≠ a.state ∧ target ∉ OrderState.transitions a.state) := by
    rintro ⟨hne, hnot⟩
    exact hlegal.elim hne hnot
  have hsame : ¬ (a.brokerOrderId.isSome ∧ brokerOrderId.isSome ∧
      a.brokerOrderId ≠ brokerOrderId) := by
    rintro ⟨hknown, hsome, hne⟩
    rcases hid with rfl | hnone | heq
    · cases hsome
    · rw [hnone] at hknown
      cases hknown
    · exact hne heq
  unfold updated
  rw [if_neg htarget, if_neg hsame]
  unfold build
  split
  · exact ⟨_, rfl⟩
  · rename_i message hviolation
    rw [AggregateData.violation_eq_none.mpr hwell] at hviolation
    cases hviolation

/-- A plain update to a state that no share count depends on. -/
lemma updated_plain (hunseen : a.Unseen event) (hplain : PlainChange change)
    (hlegal : target = a.state ∨ target ∈ OrderState.transitions a.state)
    (hfree : target = a.state ∨ target ∉ [OrderState.filled, .partiallyFilled])
    (hid : brokerOrderId = none ∨ a.brokerOrderId = none ∨ a.brokerOrderId = brokerOrderId) :
    ∃ a', a.updated event target brokerOrderId change = .ok a' := by
  refine updated_succeeds hlegal hid (wellFormed_updatedData hunseen hplain ?_ ?_)
  · rintro rfl
    rcases hfree with hsame | hfree
    · exact a.wellFormed.filled_full hsame.symm
    · exact absurd hfree (by decide)
  · rintro rfl
    rcases hfree with hsame | hfree
    · exact a.wellFormed.partial_proper hsame.symm
    · exact absurd hfree (by decide)

/-- A known event with the same id says the same. -/
lemma apply_of_seen (h : event ∈ a.appliedEvents) : a.apply event = .ok a := by
  have hfind : a.appliedEvents.find? (·.eventId = event.eventId) = some event := by
    cases hfound : a.appliedEvents.find? (·.eventId = event.eventId) with
    | none => simpa using List.find?_eq_none.mp hfound event h
    | some existing =>
      have hid : existing.eventId = event.eventId := by simpa using List.find?_some hfound
      rw [List.inj_on_of_nodup_map a.wellFormed.events_nodup
        (List.mem_of_find?_eq_some hfound) h hid]
  simp only [apply, eventSeen, hfind, if_true]

/-! ## The economics of a history -/

/-- Apply an event, or leave the aggregate as it was when the event is refused. -/
def feed (a : OrderAggregate) (event : OrderEvent) : OrderAggregate :=
  match a.apply event with
  | .ok next => next
  | .error _ => a

/-- The aggregate that a sequence of events leaves of a new order. -/
def history (intent : ExecutionIntent) (events : List OrderEvent) : OrderAggregate :=
  events.foldl feed (fromIntent intent)

/-- What holds of every aggregate of a history. -/
structure Sound (intent : ExecutionIntent) (a : OrderAggregate) : Prop where
  intent_eq : a.intent = intent
  filled_eq : a.filledShares = (a.fills.map (·.shares)).sum
  filled_le : a.filledShares ≤ intent.requestedShares
  fills_nodup : (a.fills.map (·.brokerFillId)).Nodup
  events_nodup : (a.appliedEvents.map (·.eventId)).Nodup
  version_eq : a.version = a.appliedEvents.length
  full_terminal : a.filledShares = intent.requestedShares → a.state ∈ OrderState.terminal
  /-- No event fails in the constructor. -/
  refusedBefore : ∀ event failure, a.apply event = .error failure → RefusedBefore failure

/-- What never shrinks or changes along a history. -/
structure Grows (a b : OrderAggregate) : Prop where
  filledShares : a.filledShares ≤ b.filledShares
  fills : a.fills ⊆ b.fills
  appliedEvents : a.appliedEvents ⊆ b.appliedEvents
  brokerOrderId : a.brokerOrderId.isSome → b.brokerOrderId = a.brokerOrderId

/-- The invariant of a history. -/
structure Reached (intent : ExecutionIntent) (a : OrderAggregate) : Prop where
  intent_eq : a.intent = intent
  version_eq : a.version = a.appliedEvents.length
  misses : MissesShares a

lemma reached_fromIntent (intent : ExecutionIntent) : Reached intent (fromIntent intent) :=
  ⟨rfl, rfl, missesShares_fromIntent intent⟩

variable {intent : ExecutionIntent} {P : OrderAggregate → Prop} {id : EventId}

lemma Reached.apply (ha : Reached intent a) (h : a.apply event = .ok a') : Reached intent a' := by
  have hmisses := apply_missesShares h ha.misses
  rcases apply_cases h with rfl | hadv
  · exact ha
  · refine ⟨hadv.intent.trans ha.intent_eq, ?_, hmisses⟩
    rw [hadv.version, hadv.appliedEvents, List.length_append, ha.version_eq]
    rfl

lemma feed_keeps (hP : ∀ next, a.apply event = .ok next → P next) (ha : P a) :
    P (a.feed event) := by
  unfold feed
  split
  · rename_i next happly
    exact hP next happly
  · exact ha

lemma foldl_feed_keeps (hP : ∀ {a event next}, a.apply event = .ok next → P a → P next)
    (events : List OrderEvent) (ha : P a) : P (events.foldl feed a) := by
  induction events generalizing a with
  | nil => exact ha
  | cons event rest ih => exact ih (feed_keeps (fun next happly => hP happly ha) ha)

lemma reached_history (intent : ExecutionIntent) (events : List OrderEvent) :
    Reached intent (history intent events) :=
  foldl_feed_keeps (fun happly ha => ha.apply happly) events (reached_fromIntent intent)

lemma Reached.sound (ha : Reached intent a) : Sound intent a where
  intent_eq := ha.intent_eq
  filled_eq := a.wellFormed.filled_eq.symm
  filled_le := ha.intent_eq ▸ a.wellFormed.filled_le
  fills_nodup := a.wellFormed.fills_nodup
  events_nodup := a.wellFormed.events_nodup
  version_eq := ha.version_eq
  full_terminal hfull := by
    by_contra hopen
    have hlt := ha.misses hopen
    rw [ha.intent_eq] at hlt
    omega
  refusedBefore _ _ h := apply_refusedBefore ha.misses h

lemma Grows.refl (a : OrderAggregate) : Grows a a :=
  ⟨le_refl _, List.Subset.refl _, List.Subset.refl _, fun _ => rfl⟩

lemma Grows.trans {c : OrderAggregate} (h₁ : Grows a b) (h₂ : Grows b c) : Grows a c := by
  refine ⟨h₁.filledShares.trans h₂.filledShares, List.Subset.trans h₁.fills h₂.fills,
    List.Subset.trans h₁.appliedEvents h₂.appliedEvents, fun hsome => ?_⟩
  have hb := h₁.brokerOrderId hsome
  rw [← hb] at hsome ⊢
  exact h₂.brokerOrderId hsome

lemma grows_apply (h : a.apply event = .ok a') : Grows a a' := by
  rcases apply_cases h with rfl | hadv
  · exact Grows.refl a'
  refine ⟨?_, ?_, ?_, hadv.brokerOrderId⟩
  · rcases hadv.economics with ⟨-, hfilled⟩ | ⟨fill, -, -, hfilled, -⟩
    · exact hfilled.ge
    · rw [hfilled]
      exact Nat.le_add_right _ _
  · rcases hadv.economics with ⟨hfills, -⟩ | ⟨fill, -, hfills, -⟩
    · exact hfills ▸ List.Subset.refl _
    · rw [hfills]
      exact List.subset_append_left _ _
  · rw [hadv.appliedEvents]
    exact List.subset_append_left _ _

lemma grows_foldl (a : OrderAggregate) (events : List OrderEvent) :
    Grows a (events.foldl feed a) :=
  foldl_feed_keeps (fun happly hgrows => hgrows.trans (grows_apply happly)) events (Grows.refl a)

/-- For every intent and every sequence of events, refused ones among them: the aggregate is sound
at every point, no event fails in the constructor there, and nothing that was recorded is lost at
any later point. -/
theorem history_sound (intent : ExecutionIntent) (before after : List OrderEvent) :
    Sound intent (history intent before) ∧
      Grows (history intent before) (history intent (before ++ after)) := by
  refine ⟨(reached_history intent before).sound, ?_⟩
  rw [history, history, List.foldl_append]
  exact grows_foldl _ after

/-! ## Closed orders and late fills -/

/-- What an aggregate was marked with. -/
structure Remembers (d d' : AggregateData) : Prop where
  anomalies : d.anomalies ⊆ d'.anomalies
  lateFill : d.lateFillInvestigationRequired = true → d'.lateFillInvestigationRequired = true

lemma Remembers.trans {d' d'' : AggregateData} (h₁ : Remembers d d') (h₂ : Remembers d' d'') :
    Remembers d d'' :=
  ⟨List.Subset.trans h₁.anomalies h₂.anomalies, fun h => h₂.lateFill (h₁.lateFill h)⟩

lemma remembers_withAnomaly (anomaly : Anomaly) (d : AggregateData) :
    Remembers d (withAnomaly anomaly d) := by
  unfold withAnomaly
  split
  · exact ⟨List.Subset.refl _, fun h => h⟩
  · exact ⟨List.subset_append_left _ _, fun h => h⟩

lemma mem_withAnomaly (anomaly : Anomaly) (d : AggregateData) :
    anomaly ∈ (withAnomaly anomaly d).anomalies := by
  unfold withAnomaly
  split
  · assumption
  · simp

lemma PlainChange.remembers (h : PlainChange change)
    (d : AggregateData) : Remembers d (change d) := by
  cases h with
  | nothing | submitAttempt | cancelRequest => exact ⟨List.Subset.refl _, fun h => h⟩
  | anomaly anomaly => exact remembers_withAnomaly anomaly d

lemma apply_remembers (h : a.apply event = .ok a') :
    Remembers a.toAggregateData a'.toAggregateData := by
  have hself : Remembers a.toAggregateData a.toAggregateData :=
    ⟨List.Subset.refl _, fun h => h⟩
  unfold apply at h
  split at h
  · cases h
  · cases h
    exact hself
  rcases applyNew_cases h with ⟨target, id, change, hplain, hupd⟩ | ⟨fill, -, hfill⟩
  · have hmarks := hplain.remembers a.toAggregateData
    rw [(updated_eq_ok hupd).2.2]
    exact ⟨hmarks.anomalies, hmarks.lateFill⟩
  rcases applyFill_cases hfill with ⟨rfl, -⟩ | ⟨-, hupd⟩ | ⟨-, hupd⟩
  · exact hself
  · have hmarks := remembers_withAnomaly (.lateFillAfter a.state)
      { withFill fill a.toAggregateData with lateFillInvestigationRequired := true }
    rw [(updated_eq_ok hupd).2.2]
    exact ⟨hmarks.anomalies, fun _ => hmarks.lateFill rfl⟩
  · rw [(updated_eq_ok hupd).2.2]
    exact ⟨List.Subset.refl _, fun h => h⟩

lemma applied_of_apply (hplain : ∀ fill, event.kind ≠ fillKind fill) (h : a.apply event = .ok a') :
    event ∈ a'.appliedEvents := by
  rcases apply_seen_or_new h with ⟨rfl, hseen⟩ | ⟨-, hnew⟩
  · exact hseen
  rcases applyNew_cases hnew with ⟨target, id, change, -, hupd⟩ | ⟨fill, hkind, -⟩
  · rw [(updated_eq_ok hupd).2.2]
    exact List.mem_concat_self
  · exact absurd hkind (hplain fill)

/-- What a closing event says of the order from then on. -/
structure Closings (a : OrderAggregate) : Prop where
  rejected : ∀ e ∈ a.appliedEvents, ∀ reasonCode, e.kind = .brokerRejected reasonCode →
    a.state ∈ OrderState.terminal
  expired : ∀ e ∈ a.appliedEvents, ∀ reasonCode, e.kind = .orderExpired reasonCode →
    a.state = .expired
  cancelled : ∀ e ∈ a.appliedEvents, ∀ brokerOrderId, e.kind = .cancelConfirmed brokerOrderId →
    a.state ∈ [OrderState.cancelled, .filled]

/-- Every accepted event keeps `Closings`: a closed order stays in its state. -/
theorem apply_closings (h : a.apply event = .ok a') (ha : Closings a) : Closings a' := by
  rcases apply_seen_or_new h with ⟨rfl, -⟩ | ⟨-, hnew⟩
  · exact ha
  have hmem : ∀ e ∈ a'.appliedEvents, e ∈ a.appliedEvents ∨ e = event := by
    intro e he
    rcases apply_cases h with rfl | hadvanced
    · exact .inl he
    · rwa [hadvanced.appliedEvents, List.mem_append, List.mem_singleton] at he
  have hstays : a.state ∈ OrderState.terminal → a'.state = a.state := apply_terminal h
  constructor
  · intro e he reasonCode hkind
    rcases hmem e he with hold | rfl
    · have hterminal := ha.rejected e hold reasonCode hkind
      rwa [hstays hterminal]
    · simp only [applyNew, hkind] at hnew
      split_ifs at hnew with hterminal
      · rwa [updated_state hnew]
      · rw [updated_state hnew]
        decide
  · intro e he reasonCode hkind
    rcases hmem e he with hold | rfl
    · have hexpired := ha.expired e hold reasonCode hkind
      rwa [hstays (by rw [hexpired]; decide)]
    · simp only [applyNew, hkind] at hnew
      exact updated_state hnew
  · intro e he brokerOrderId hkind
    rcases hmem e he with hold | rfl
    · have hcancelled := ha.cancelled e hold brokerOrderId hkind
      rwa [hstays (by revert hcancelled; cases a.state <;> decide)]
    · simp only [applyNew, hkind] at hnew
      split_ifs at hnew with hnone hfilled
      · rw [updated_state hnew, hfilled]
        decide
      · rw [updated_state hnew]
        decide

lemma closings_fromIntent (intent : ExecutionIntent) : Closings (fromIntent intent) := by
  constructor <;> intro e he <;> cases he

lemma Issued.closings (h : Issued a) : Closings a := by
  induction h with
  | fromIntent intent => exact closings_fromIntent intent
  | submitStarted _ happly ih | cancelRequested _ happly ih
  | other _ _ _ happly ih => exact apply_closings happly ih

lemma Issued.missesShares (h : Issued a) : MissesShares a := by
  induction h with
  | fromIntent intent => exact missesShares_fromIntent intent
  | submitStarted _ happly ih | cancelRequested _ happly ih
  | other _ _ _ happly ih => exact apply_missesShares happly ih

/-- The report of a fill. -/
def fillReport (id : EventId) (fill : AppliedFill) : OrderEvent :=
  ⟨id, .fillReported fill.brokerFillId fill.brokerOrderId fill.shares fill.price fill.shares_pos⟩

/-- A fill that a submitted order has not seen, of its own broker order if that is known, and whose
shares fit in the remaining quantity. -/
structure FillFits (a : OrderAggregate) (id : EventId) (fill : AppliedFill) : Prop where
  submitted : a.state ∉ [OrderState.planned, .validated, .armed]
  unseen : a.Unseen (fillReport id fill)
  newFill : ∀ f ∈ a.fills, f.brokerFillId ≠ fill.brokerFillId
  sameOrder : a.brokerOrderId = none ∨ a.brokerOrderId = some fill.brokerOrderId
  remaining : a.filledShares + fill.shares ≤ a.intent.requestedShares

/-- The state that a fill moves an open order to can be reached. -/
lemma FillFits.fillTarget_legal (h : FillFits a id fill)
    (hopen : a.state ∉ [OrderState.cancelled, .rejected, .expired]) :
    a.fillTarget fill = a.state ∨ a.fillTarget fill ∈ OrderState.transitions a.state := by
  have hmissing : a.state ≠ .filled := by
    intro hfilled
    have hfull := a.wellFormed.filled_full hfilled
    have hpos := fill.shares_pos
    have hremaining := h.remaining
    omega
  have hsubmitted := h.submitted
  unfold fillTarget
  cases hstate : a.state with
  | planned | validated | armed =>
    rw [hstate] at hsubmitted
    exact absurd hsubmitted (by decide)
  | cancelled | rejected | expired =>
    rw [hstate] at hopen
    exact absurd hopen (by decide)
  | filled => exact absurd hstate hmissing
  | submitting | acknowledged | partiallyFilled | unknown =>
    rw [if_neg (by decide : ¬ _ = OrderState.cancelRequested)]
    split_ifs <;> decide
  | cancelRequested =>
    rw [if_pos rfl]
    split_ifs <;> decide

/-- A fill that fits is accepted and retained; after a close it marks the order. -/
lemma apply_fillReport (h : FillFits a id fill) :
    ∃ a', a.apply (fillReport id fill) = .ok a' ∧ a'.fills = a.fills ++ [fill] ∧
      (a.state ∈ [OrderState.cancelled, .rejected, .expired] →
        a'.lateFillInvestigationRequired = true ∧ .lateFillAfter a.state ∈ a'.anomalies) := by
  have hfind : a.fills.find? (·.brokerFillId = fill.brokerFillId) = none :=
    List.find?_eq_none.mpr fun f hf => by simpa using h.newFill f hf
  have hnew : a.apply (fillReport id fill) = a.applyFill (fillReport id fill) fill :=
    apply_of_not_seen h.unseen
  rw [hnew]
  unfold applyFill
  simp only [hfind, if_neg h.submitted, if_neg (not_lt.mpr h.remaining)]
  by_cases hlate : a.state ∈ [OrderState.cancelled, .rejected, .expired]
  · rw [if_pos hlate]
    obtain ⟨a', happly⟩ := updated_succeeds (.inl rfl) (.inr h.sameOrder)
      (wellFormed_lateFill h.unseen h.newFill h.remaining hlate)
    have hdata := (updated_eq_ok happly).2.2
    refine ⟨a', happly, ?_, fun _ => ⟨?_, ?_⟩⟩
    · rw [hdata]
      exact (keepsEconomics_withAnomaly _ _).1
    · rw [hdata]
      exact (remembers_withAnomaly _ _).lateFill rfl
    · rw [hdata]
      exact mem_withAnomaly _ _
  · rw [if_neg hlate]
    obtain ⟨a', happly⟩ := updated_succeeds (h.fillTarget_legal hlate) (.inr h.sameOrder)
      (wellFormed_openFill h.unseen h.newFill h.remaining)
    have hdata := (updated_eq_ok happly).2.2
    refine ⟨a', happly, ?_, fun hclosed => absurd hclosed hlate⟩
    rw [hdata]
    rfl

/-- For every history: a closed order stays in its state whatever follows; and a fill that fits a
submitted order is accepted and retained for good.  After CANCELLED, REJECTED or EXPIRED it also
marks the order for investigation with the anomaly of that state, and no later event clears the
marks. -/
theorem closed_order_keeps_late_fills (intent : ExecutionIntent) (events later : List OrderEvent) :
    ((history intent events).state ∈ OrderState.terminal →
      (history intent (events ++ later)).state = (history intent events).state) ∧
    ∀ id fill, FillFits (history intent events) id fill →
      ∃ a', (history intent events).apply (fillReport id fill) = .ok a' ∧
        fill ∈ (later.foldl feed a').fills ∧
        ((history intent events).state ∈ [OrderState.cancelled, .rejected, .expired] →
          (later.foldl feed a').lateFillInvestigationRequired = true ∧
            .lateFillAfter (history intent events).state ∈ (later.foldl feed a').anomalies) := by
  constructor
  · intro hterminal
    rw [history, List.foldl_append]
    have hkept := foldl_feed_keeps (P := fun b => b.state = (history intent events).state)
      (fun happly hb => (apply_terminal happly (hb ▸ hterminal)).trans hb) later rfl
    exact hkept
  · intro id fill hfits
    obtain ⟨a', happly, hfills, hlate⟩ := apply_fillReport hfits
    have hremembers : Remembers a'.toAggregateData (later.foldl feed a').toAggregateData :=
      foldl_feed_keeps (P := fun b => Remembers a'.toAggregateData b.toAggregateData)
        (fun happly hb => hb.trans (apply_remembers happly)) later
        ⟨List.Subset.refl _, fun h => h⟩
    refine ⟨a', happly, (grows_foldl a' later).fills (by simp [hfills]), fun hclosed => ?_⟩
    obtain ⟨hflag, hanomaly⟩ := hlate hclosed
    exact ⟨hremembers.lateFill hflag, hremembers.anomalies hanomaly⟩

/-- An order for one share. -/
def oneShare : ExecutionIntent :=
  ⟨⟨"decision", "order", ⟨.sh, "600001"⟩, .buy, 1, 0, "uquant"⟩, by decide⟩

/-- An event with a plain id. -/
def plainEvent (id : String) (kind : OrderEventKind) : OrderEvent := ⟨.text id, kind⟩

/-- The events up to the first submission. -/
def submission : List OrderEvent :=
  [plainEvent "validated" .orderValidated, plainEvent "armed" .orderArmed,
    plainEvent "submitted" .submitStarted]

/-- A fill of one share of an order. -/
def lateFill : AppliedFill := ⟨"fill", "broker", 1, ⟨10, by norm_num⟩, by decide⟩

/-- A fill that arrives after the cancel of its order was confirmed. -/
theorem late_fill_after_cancel_kept :
    (history oneShare (submission ++ [plainEvent "ack" (.brokerAcknowledged "broker"),
      plainEvent "cancelled" (.cancelConfirmed none)])).state = .cancelled ∧
    ∃ a', (history oneShare (submission ++ [plainEvent "ack" (.brokerAcknowledged "broker"),
        plainEvent "cancelled" (.cancelConfirmed none)])).apply
          (fillReport (.text "late") lateFill) = .ok a' ∧
      lateFill ∈ a'.fills ∧ a'.lateFillInvestigationRequired = true ∧
      .lateFillAfter .cancelled ∈ a'.anomalies := by
  have hstate : (history oneShare (submission ++ [plainEvent "ack" (.brokerAcknowledged "broker"),
      plainEvent "cancelled" (.cancelConfirmed none)])).state = .cancelled := by
    decide
  refine ⟨hstate, ?_⟩
  obtain ⟨a', happly, hfill, hlate⟩ := (closed_order_keeps_late_fills oneShare (submission ++
    [plainEvent "ack" (.brokerAcknowledged "broker"),
      plainEvent "cancelled" (.cancelConfirmed none)]) []).2 (.text "late") lateFill
    ⟨by decide, by unfold Unseen; decide +kernel, by decide +kernel, by decide +kernel,
      by decide⟩
  rw [hstate] at hlate
  exact ⟨a', happly, hfill, hlate (by decide)⟩

end OrderAggregate

end FirmQuant
