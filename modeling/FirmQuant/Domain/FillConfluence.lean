import Mathlib.Algebra.Order.BigOperators.Group.List
import Mathlib.Data.List.Dedup
import Mathlib.Data.List.Perm.Subperm
import FirmQuant.Domain.SubmissionHistory

/-!
# Fills in any order

Reports of fills reach an order late, twice and out of order.  As long as their identities do not
contradict each other and their shares fit, every arrangement of them is accepted and leaves the
same shares, fills and state.

The state after a run depends on the state before it and on the shares alone (`stateAfter`); that
each report keeps this is the invariant `Absorbed`.
-/

namespace FirmQuant

namespace OrderAggregate

variable {a b b' : OrderAggregate}

/-! ## Reports -/

/-- A report of a fill, under the id of its event. -/
structure FillReport where
  id : EventId
  fill : AppliedFill
  deriving DecidableEq

/-- The event of a report. -/
def FillReport.event (report : FillReport) : OrderEvent := fillReport report.id report.fill

/-- The reported fills that an order has not retained, each once. -/
def newFills (a : OrderAggregate) (reports : List FillReport) : List AppliedFill :=
  (reports.map (·.fill)).dedup.filter (· ∉ a.fills)

/-- The reports contradict neither each other nor a submitted order. -/
structure Consistent (a : OrderAggregate) (reports : List FillReport) : Prop where
  submitted : a.state ∉ [OrderState.planned, .validated, .armed]
  /-- One event id, one report. -/
  events : ∀ r ∈ reports, ∀ r' ∈ reports, r.id = r'.id → r.fill = r'.fill
  applied : ∀ e ∈ a.appliedEvents, ∀ r ∈ reports, e.eventId = r.id → e = r.event
  /-- One fill id, one fill. -/
  fills : ∀ r ∈ reports, ∀ r' ∈ reports, r.fill.brokerFillId = r'.fill.brokerFillId →
    r.fill = r'.fill
  retained : ∀ f ∈ a.fills, ∀ r ∈ reports, f.brokerFillId = r.fill.brokerFillId → f = r.fill
  /-- All reports are of the broker order of the aggregate. -/
  sameOrder : ∀ r ∈ reports, ∀ r' ∈ reports, r.fill.brokerOrderId = r'.fill.brokerOrderId
  knownOrder : ∀ r ∈ reports,
    a.brokerOrderId = none ∨ a.brokerOrderId = some r.fill.brokerOrderId
  remaining : a.filledShares + ((newFills a reports).map (·.shares)).sum ≤ a.intent.requestedShares

/-! ## What a history retains -/

/-- Every applied report of a fill retained the fill. -/
def RetainsReports (a : OrderAggregate) : Prop :=
  ∀ e ∈ a.appliedEvents, ∀ fill, e.kind = fillKind fill → fill ∈ a.fills

lemma fillKind_injective {fill fill' : AppliedFill} (h : fillKind fill = fillKind fill') :
    fill = fill' := by
  cases fill
  cases fill'
  simpa [fillKind] using h

lemma apply_retainsReports {event : OrderEvent} (h : a.apply event = .ok b)
    (ha : RetainsReports a) : RetainsReports b := by
  by_cases hfill : ∃ fill, event.kind = fillKind fill
  · obtain ⟨fill, hkind⟩ := hfill
    rcases apply_fill hkind h with ⟨rfl, -⟩ | ⟨hadv, hfills, -⟩
    · exact ha
    intro e he other hother
    rw [hadv.appliedEvents, List.mem_append, List.mem_singleton] at he
    rw [hfills, List.mem_append, List.mem_singleton]
    rcases he with he | rfl
    · exact .inl (ha e he other hother)
    · exact .inr (fillKind_injective (hother.symm.trans hkind))
  · have hplain : ∀ fill, event.kind ≠ fillKind fill := fun fill hkind => hfill ⟨fill, hkind⟩
    rcases apply_notFill hplain h with rfl | ⟨hadv, hfills⟩
    · exact ha
    intro e he other hother
    rw [hadv.appliedEvents, List.mem_append, List.mem_singleton] at he
    rw [hfills]
    rcases he with he | rfl
    · exact ha e he other hother
    · exact absurd hother (hplain other)

lemma retainsReports_history (intent : ExecutionIntent) (events : List OrderEvent) :
    RetainsReports (history intent events) :=
  foldl_feed_keeps (fun happly ha => apply_retainsReports happly ha) events
    fun e he => by cases he

/-! ## One report -/

/-- The state that fills lead to, by the shares that they complete. -/
def stateAfter (a : OrderAggregate) (filled : ℕ) : OrderState :=
  if filled = a.filledShares ∨ a.state ∈ [OrderState.cancelled, .rejected, .expired] then a.state
  else if filled = a.intent.requestedShares then .filled
  else if a.state = .cancelRequested then .cancelRequested
  else .partiallyFilled

/-- What a fill that fits does. -/
structure Filled (a : OrderAggregate) (report : FillReport) (b : OrderAggregate) : Prop where
  advanced : Advanced a report.event b
  fills : b.fills = a.fills ++ [report.fill]
  filledShares : b.filledShares = a.filledShares + report.fill.shares
  brokerOrderId : b.brokerOrderId = some report.fill.brokerOrderId
  state : b.state = if a.state ∈ [OrderState.cancelled, .rejected, .expired] then a.state
    else a.fillTarget report.fill

/-- An accepted report of a fill changes nothing, or does what a fill that fits does. -/
lemma apply_filled {report : FillReport} (h : a.apply report.event = .ok b) :
    b = a ∨ Filled a report b := by
  have hkind : report.event.kind = fillKind report.fill := rfl
  rcases apply_fill hkind h with ⟨rfl, -⟩ | ⟨hadvanced, hfills, hnew⟩
  · exact .inl rfl
  have hnot : report.fill ∉ a.fills := fun hmem => hnew _ hmem rfl
  have hshares : b.filledShares = a.filledShares + report.fill.shares := by
    rw [← b.wellFormed.filled_eq, ← a.wellFormed.filled_eq, hfills]
    simp
  have hfill : a.applyFill report.event report.fill = .ok b := by
    rcases apply_seen_or_new h with ⟨rfl, -⟩ | ⟨hunseen, -⟩
    · simp at hfills
    · rw [← h]
      exact (apply_of_not_seen hunseen).symm
  refine .inr ?_
  rcases applyFill_cases hfill with ⟨-, hmem⟩ | ⟨hclosed, hupd⟩ | ⟨hopen, hupd⟩
  · exact absurd hmem hnot
  · refine ⟨hadvanced, hfills, hshares, ?_, ?_⟩
    · rw [(updated_eq_ok hupd).2.2]
      rfl
    · rw [if_pos hclosed]
      exact updated_state hupd
  · refine ⟨hadvanced, hfills, hshares, ?_, ?_⟩
    · rw [(updated_eq_ok hupd).2.2]
      rfl
    · rw [if_neg hopen]
      exact updated_state hupd

lemma apply_fits {report : FillReport} (h : FillFits a report.id report.fill) :
    ∃ b, a.apply report.event = .ok b ∧ Filled a report b := by
  obtain ⟨b, happly, hfills, -⟩ := apply_fillReport h
  rcases apply_filled happly with rfl | hfilled
  · simp at hfills
  · exact ⟨b, happly, hfilled⟩

/-! ## The course of fills -/

/-- What fills make of the state of an order. -/
structure FillCourse (a b : OrderAggregate) : Prop where
  intent : b.intent = a.intent
  filled_le : a.filledShares ≤ b.filledShares
  state : b.state = stateAfter a b.filledShares

namespace FillCourse

variable {report : FillReport}

lemma refl (a : OrderAggregate) : FillCourse a a := ⟨rfl, le_refl _, by simp [stateAfter]⟩

/-- The order is closed if it was closed before. -/
lemma closed_iff (h : FillCourse a b) :
    b.state ∈ [OrderState.cancelled, .rejected, .expired] ↔
      a.state ∈ [OrderState.cancelled, .rejected, .expired] := by
  rw [h.state]
  unfold stateAfter
  by_cases hclosed : a.state ∈ [OrderState.cancelled, .rejected, .expired]
  · rw [if_pos (Or.inr hclosed)]
  · split_ifs <;> simp_all

/-- Below the request, the order is in CANCEL_REQUESTED if it was so before. -/
lemma cancelRequested_iff (h : FillCourse a b)
    (hmissing : b.filledShares ≠ a.intent.requestedShares) :
    b.state = .cancelRequested ↔ a.state = .cancelRequested := by
  rw [h.state]
  unfold stateAfter
  rw [if_neg hmissing]
  split_ifs with _ hcancel
  · exact Iff.rfl
  · simp [hcancel]
  · simp [hcancel]

lemma filled (h : FillCourse a b) (hfilled : Filled b report b') : FillCourse a b' := by
  have hintent := hfilled.advanced.intent.trans h.intent
  have hle := h.filled_le
  have hpos := report.fill.shares_pos
  have hbound := b'.wellFormed.filled_le
  rw [hintent, hfilled.filledShares] at hbound
  have hmissing : b.filledShares ≠ a.intent.requestedShares := by omega
  have hmore : b.filledShares + report.fill.shares ≠ a.filledShares := by omega
  refine ⟨hintent, by rw [hfilled.filledShares]; omega, ?_⟩
  rw [hfilled.state, hfilled.filledShares]
  by_cases hclosed : a.state ∈ [OrderState.cancelled, .rejected, .expired]
  · have hstate : b.state = a.state := by
      rw [h.state]
      exact if_pos (.inr hclosed)
    rw [if_pos (h.closed_iff.mpr hclosed), hstate]
    exact (if_pos (.inr hclosed)).symm
  · rw [if_neg (mt h.closed_iff.mp hclosed)]
    unfold fillTarget stateAfter
    rw [h.intent, if_neg (not_or.mpr ⟨hmore, hclosed⟩)]
    simp only [h.cancelRequested_iff hmissing]

lemma apply (h : FillCourse a b) (happly : b.apply report.event = .ok b') : FillCourse a b' := by
  rcases apply_filled happly with rfl | hfilled
  · exact h
  · exact h.filled hfilled

end FillCourse

/-! ## A run of reports -/

/-- What reports made of an order. -/
structure Absorbed (a : OrderAggregate) (reports : List FillReport) (b : OrderAggregate) :
    Prop where
  intent : b.intent = a.intent
  fills : ∀ fill, fill ∈ b.fills ↔ fill ∈ a.fills ∨ ∃ r ∈ reports, r.fill = fill
  events : ∀ e ∈ b.appliedEvents, e ∈ a.appliedEvents ∨ ∃ r ∈ reports, e = r.event
  brokerOrderId : b.brokerOrderId = a.brokerOrderId ∨
    ∃ r ∈ reports, b.brokerOrderId = some r.fill.brokerOrderId
  state : b.state = stateAfter a b.filledShares
  retains : RetainsReports b

lemma Absorbed.start (h : RetainsReports a) : Absorbed a [] a where
  intent := rfl
  fills fill := by simp
  events e he := .inl he
  brokerOrderId := .inl rfl
  state := by simp [stateAfter]
  retains := h

/-- Fills have different ids, so that a list of fills has no fill twice. -/
lemma fills_nodup (a : OrderAggregate) : a.fills.Nodup := a.wellFormed.fills_nodup.of_map

/-- The shares of fills that are all among others. -/
lemma sum_shares_le {fills fills' : List AppliedFill} (hnodup : fills.Nodup)
    (hsubset : fills ⊆ fills') : (fills.map (·.shares)).sum ≤ (fills'.map (·.shares)).sum := by
  obtain ⟨between, hperm, hsublist⟩ := hnodup.subperm hsubset
  rw [← (hperm.map _).sum_eq]
  exact (hsublist.map _).sum_le_sum fun _ _ => Nat.zero_le _

section Run

variable {reports seen : List FillReport} {report : FillReport}

variable (h : Absorbed a seen b)

include h

lemma Absorbed.filled_le : a.filledShares ≤ b.filledShares := by
  rw [← a.wellFormed.filled_eq, ← b.wellFormed.filled_eq]
  exact sum_shares_le a.fills_nodup fun fill hfill => (h.fills fill).mpr (.inl hfill)

lemma Absorbed.course : FillCourse a b := ⟨h.intent, h.filled_le, h.state⟩

/-- A report that was not retained fits in the shares that remain. -/
lemma Absorbed.fits_remaining (hc : Consistent a reports) (hseen : seen ⊆ reports)
    (hreport : report ∈ reports) (hnew : report.fill ∉ b.fills) :
    b.filledShares + report.fill.shares ≤ a.intent.requestedShares := by
  have hnodup : (b.fills ++ [report.fill]).Nodup := by
    rw [← List.concat_eq_append]
    exact b.fills_nodup.concat hnew
  have hsubset : b.fills ++ [report.fill] ⊆ a.fills ++ newFills a reports := by
    have hmem : ∀ r ∈ reports, r.fill ∈ a.fills ++ newFills a reports := by
      intro r hr
      by_cases hold : r.fill ∈ a.fills
      · exact List.mem_append_left _ hold
      · refine List.mem_append_right _ (List.mem_filter.mpr ⟨?_, by simpa using hold⟩)
        exact List.mem_dedup.mpr (List.mem_map_of_mem hr)
    intro fill hfill
    rw [List.mem_append, List.mem_singleton] at hfill
    rcases hfill with hfill | rfl
    · rcases (h.fills fill).mp hfill with hold | ⟨r, hr, rfl⟩
      · exact List.mem_append_left _ hold
      · exact hmem r (hseen hr)
    · exact hmem report hreport
  have hsum := sum_shares_le hnodup hsubset
  have hremaining := hc.remaining
  rw [List.map_append, List.map_append, List.sum_append, List.sum_append, a.wellFormed.filled_eq,
    b.wellFormed.filled_eq] at hsum
  simpa using hsum.trans hremaining

/-- A report that was not applied and whose fill was not retained fits. -/
lemma Absorbed.fillFits (hc : Consistent a reports) (hseen : seen ⊆ reports)
    (hreport : report ∈ reports) (hunseen : b.Unseen report.event) (hnew : report.fill ∉ b.fills) :
    FillFits b report.id report.fill := by
  have hremaining := h.fits_remaining hc hseen hreport hnew
  refine ⟨?_, hunseen, ?_, ?_, h.intent ▸ hremaining⟩
  · rw [h.state]
    have hsubmitted := hc.submitted
    unfold stateAfter
    split_ifs
    · exact hsubmitted
    · decide
    · decide
    · decide
  · intro f hf hid
    rcases (h.fills f).mp hf with hold | ⟨r, hr, rfl⟩
    · exact hnew (hc.retained f hold report hreport hid ▸ hf)
    · exact hnew (hc.fills r (hseen hr) report hreport hid ▸ hf)
  · rcases h.brokerOrderId with hsame | ⟨r, hr, hid⟩
    · rw [hsame]
      exact hc.knownOrder report hreport
    · rw [hid, hc.sameOrder r (hseen hr) report hreport]
      exact .inr rfl

lemma Absorbed.absorb (hc : Consistent a reports) (hseen : seen ⊆ reports)
    (hreport : report ∈ reports) :
    ∃ b', b.apply report.event = .ok b' ∧ Absorbed a (seen ++ [report]) b' := by
  have hmore : ∀ {P : FillReport → Prop}, (∃ r ∈ seen, P r) → ∃ r ∈ seen ++ [report], P r :=
    fun ⟨r, hr, hP⟩ => ⟨r, List.mem_append_left _ hr, hP⟩
  -- A known report, or a known fill, changes nothing.
  have hknown (hmem : report.fill ∈ b.fills) : Absorbed a (seen ++ [report]) b := by
    refine ⟨h.intent, fun fill => ⟨fun hfill => ?_, fun hfill => ?_⟩, fun e he => ?_, ?_, h.state,
      h.retains⟩
    · exact ((h.fills fill).mp hfill).imp_right hmore
    · rcases hfill with hold | ⟨r, hr, rfl⟩
      · exact (h.fills fill).mpr (.inl hold)
      · rw [List.mem_append, List.mem_singleton] at hr
        rcases hr with hr | rfl
        · exact (h.fills _).mpr (.inr ⟨r, hr, rfl⟩)
        · exact hmem
    · exact (h.events e he).imp_right hmore
    · exact h.brokerOrderId.imp_right hmore
  by_cases hmem : report.event ∈ b.appliedEvents
  · exact ⟨b, apply_of_seen hmem, hknown (h.retains _ hmem report.fill rfl)⟩
  have hunseen : b.Unseen report.event := by
    intro e he hid
    rcases h.events e he with hold | ⟨r, hr, rfl⟩
    · exact hmem (hc.applied e hold report hreport hid ▸ he)
    · have hid' : r.id = report.id := hid
      have hfill := hc.events r (hseen hr) report hreport hid'
      have hevent : r.event = report.event := by
        unfold FillReport.event
        rw [hid', hfill]
      exact hmem (hevent ▸ he)
  by_cases hold : report.fill ∈ b.fills
  · refine ⟨b, ?_, hknown hold⟩
    rw [apply_of_not_seen hunseen]
    change b.applyFill report.event report.fill = .ok b
    unfold applyFill
    cases hfind : b.fills.find? (·.brokerFillId = report.fill.brokerFillId) with
    | none => simpa using List.find?_eq_none.mp hfind report.fill hold
    | some existing =>
      have hid : existing.brokerFillId = report.fill.brokerFillId := by
        simpa using List.find?_some hfind
      have hsame : existing = report.fill := List.inj_on_of_nodup_map b.wellFormed.fills_nodup
        (List.mem_of_find?_eq_some hfind) hold hid
      exact if_pos hsame
  · obtain ⟨b', happly, hfilled⟩ := apply_fits (h.fillFits hc hseen hreport hunseen hold)
    have hstate := (h.course.filled hfilled).state
    refine ⟨b', happly, hfilled.advanced.intent.trans h.intent, fun fill => ?_, fun e he => ?_, ?_,
      hstate, apply_retainsReports happly h.retains⟩
    · rw [hfilled.fills, List.mem_append, List.mem_singleton, h.fills fill, or_assoc]
      simp [or_and_right, exists_or, eq_comm]
    · rw [hfilled.advanced.appliedEvents, List.mem_append, List.mem_singleton] at he
      rcases he with he | rfl
      · exact (h.events e he).imp_right hmore
      · exact .inr ⟨report, by simp, rfl⟩
    · exact .inr ⟨report, by simp, hfilled.brokerOrderId⟩

lemma Absorbed.applyAll (hc : Consistent a reports) (hseen : seen ⊆ reports)
    {rest : List FillReport} (hrest : rest ⊆ reports) :
    ∃ b', b.applyAll (rest.map FillReport.event) = .ok b' ∧ Absorbed a (seen ++ rest) b' := by
  induction rest generalizing seen b with
  | nil => exact ⟨b, rfl, by rwa [List.append_nil]⟩
  | cons report rest ih =>
    have hreport : report ∈ reports := hrest (List.mem_cons_self)
    obtain ⟨next, happly, hnext⟩ := h.absorb hc hseen hreport
    have hseen' : seen ++ [report] ⊆ reports := by
      intro r hr
      rw [List.mem_append, List.mem_singleton] at hr
      rcases hr with hr | rfl
      · exact hseen hr
      · exact hreport
    obtain ⟨b', hrun, hb'⟩ := ih hnext hseen' (fun r hr => hrest (List.mem_cons_of_mem _ hr))
    refine ⟨b', ?_, by rwa [List.append_assoc] at hb'⟩
    rw [List.map_cons, OrderAggregate.applyAll, happly]
    exact hrun

end Run

/-- For every history: reports that are consistent with it and with each other are accepted in any
order, with any duplicates and under any event ids, and every arrangement of the same fills leaves
the same shares, the same fills and the same state. -/
theorem fills_confluent (intent : ExecutionIntent) (events : List OrderEvent)
    {reports reports' : List FillReport} (h : Consistent (history intent events) reports)
    (h' : Consistent (history intent events) reports')
    (hsame : ∀ fill, (∃ r ∈ reports, r.fill = fill) ↔ ∃ r ∈ reports', r.fill = fill) :
    ∃ b b', (history intent events).applyAll (reports.map FillReport.event) = .ok b ∧
      (history intent events).applyAll (reports'.map FillReport.event) = .ok b' ∧
      (∀ r ∈ reports, r.fill ∈ b.fills) ∧ b.filledShares = b'.filledShares ∧
      b.fills.Perm b'.fills ∧ b.state = b'.state := by
  have hstart := Absorbed.start (retainsReports_history intent events)
  obtain ⟨b, hrun, hb⟩ := hstart.applyAll h (List.nil_subset _) (List.Subset.refl reports)
  obtain ⟨b', hrun', hb'⟩ := hstart.applyAll h' (List.nil_subset _) (List.Subset.refl reports')
  have hperm : b.fills.Perm b'.fills := by
    refine (List.perm_ext_iff_of_nodup b.fills_nodup b'.fills_nodup).mpr fun fill => ?_
    rw [hb.fills, hb'.fills]
    exact or_congr_right (hsame fill)
  have hshares : b.filledShares = b'.filledShares := by
    rw [← b.wellFormed.filled_eq, ← b'.wellFormed.filled_eq]
    exact (hperm.map _).sum_eq
  refine ⟨b, b', hrun, hrun', fun r hr => ?_, hshares, hperm, ?_⟩
  · exact (hb.fills r.fill).mpr (.inr ⟨r, hr, rfl⟩)
  · rw [hb.state, hb'.state, hshares]

namespace ConfluenceSample

/-- An order for two shares that awaits the answer to its submission. -/
def intent : ExecutionIntent :=
  ⟨⟨"decision", "order", ⟨.sh, "600001"⟩, .buy, 2, 0, "uquant"⟩, by decide⟩

def first : AppliedFill := ⟨"first", "broker", 1, ⟨10, ten_pos⟩, Nat.one_pos⟩

def second : AppliedFill := ⟨"second", "broker", 1, ⟨11, eleven_pos⟩, Nat.one_pos⟩

/-- The first fill comes twice, under two ids. -/
def reports : List FillReport := [⟨.text "1", first⟩, ⟨.text "2", second⟩, ⟨.text "3", first⟩]

def reports' : List FillReport := [⟨.text "2", second⟩, ⟨.text "1", first⟩]

lemma consistent : Consistent (history intent submission) reports where
  submitted := by decide
  events := by decide
  applied := by decide
  fills := by decide
  retained := by decide
  sameOrder := by decide
  knownOrder := by decide
  remaining := by decide

lemma consistent' : Consistent (history intent submission) reports' where
  submitted := by decide
  events := by decide
  applied := by decide
  fills := by decide
  retained := by decide
  sameOrder := by decide
  knownOrder := by decide
  remaining := by decide

theorem duplicated_fill_absorbed :
    ∃ b b', (history intent submission).applyAll (reports.map FillReport.event) = .ok b ∧
      (history intent submission).applyAll (reports'.map FillReport.event) = .ok b' ∧
      (∀ r ∈ reports, r.fill ∈ b.fills) ∧ b.filledShares = b'.filledShares ∧
      b.fills.Perm b'.fills ∧ b.state = b'.state :=
  fills_confluent intent submission consistent consistent' fun fill => by
    simp [reports, reports']
    tauto

end ConfluenceSample

end OrderAggregate

end FirmQuant
