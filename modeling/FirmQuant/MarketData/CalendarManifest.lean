import FirmQuant.MarketData.Generations

/-!
# The trading calendar

`AuthoritativeTradingCalendar` of `market_data/calendar.py` and the check of an update of
`market_data/calendar_manifest.py`.  Along accepted updates a calendar says nothing new about a date
that was used and that it covered: coverage only grows, and the sessions up to a used date stay.
-/

namespace FirmQuant

open Effect

/-- The errors of calendars and of their updates. -/
structure CalendarError where
  message : String
  deriving DecidableEq, Repr

/-- `AuthoritativeTradingCalendar`. -/
structure TradingCalendar where
  source : String
  sourceSha256 : Digest
  coveredFrom : Date
  coveredThrough : Date
  tradingSessions : List Date
  deriving DecidableEq

/-- `sha256` of calendars. -/
structure CalendarEnvironment where
  calendar : TradingCalendar → Digest

/-- `sessions == tuple(sorted(set(sessions)))`. -/
def areSessions (sessions : List Date) : Bool := sessions.Pairwise (· < ·)

/-- The checks of `AuthoritativeTradingCalendar.__post_init__`. -/
def TradingCalendar.validate (calendar : TradingCalendar) : Except CalendarError PUnit := do
  refuse (calendar.source = "" ∨ GenerationStore.isStripped calendar.source = false)
    ⟨"calendar source must be canonical text"⟩
  refuse (isSha256 calendar.sourceSha256 = false)
    ⟨"calendar source digest must be lowercase SHA-256"⟩
  refuse (calendar.coveredThrough < calendar.coveredFrom) ⟨"calendar coverage end precedes start"⟩
  refuse (∃ session ∈ calendar.tradingSessions,
      ¬ (calendar.coveredFrom ≤ session ∧ session ≤ calendar.coveredThrough))
    ⟨"trading session is outside declared coverage"⟩
  refuse (areSessions calendar.tradingSessions = false)
    ⟨"trading sessions must be sorted and unique"⟩

namespace TradingCalendar

variable {calendar calendar' : TradingCalendar} {session : Date}

/-- The error of `_require_coverage`. -/
def outside : CalendarError := ⟨"date is outside authoritative calendar coverage"⟩

/-- `covered_from <= session <= covered_through`. -/
def Covers (calendar : TradingCalendar) (session : Date) : Prop :=
  calendar.coveredFrom ≤ session ∧ session ≤ calendar.coveredThrough

instance : Decidable (calendar.Covers session) := inferInstanceAs (Decidable (_ ∧ _))

/-- `is_trading_session`. -/
def isTradingSession (calendar : TradingCalendar) (session : Date) : Except CalendarError Bool := do
  refuse (¬ calendar.Covers session) outside
  return session ∈ calendar.tradingSessions

/-- `previous_trading_session`. -/
def previousTradingSession (calendar : TradingCalendar) (session : Date) :
    Except CalendarError Date := do
  refuse (¬ calendar.Covers session) outside
  match calendar.tradingSessions.reverse.find? (· < session) with
  | some candidate => return candidate
  | none => throw ⟨"previous session is outside authoritative calendar coverage"⟩

end TradingCalendar

/-- `CalendarUpdateReceipt`. -/
structure CalendarUpdateReceipt where
  previousSha256 : Digest
  proposedSha256 : Digest
  usedThrough : Date
  coveredThrough : Date
  deriving DecidableEq

/-- `validate_calendar_update`. -/
def validateCalendarUpdate (env : CalendarEnvironment) (current proposed : TradingCalendar)
    (usedThrough : Date) : Except CalendarError CalendarUpdateReceipt := do
  refuse (current.coveredFrom < proposed.coveredFrom)
    ⟨"proposed calendar drops prior authoritative coverage"⟩
  refuse (proposed.coveredThrough < current.coveredThrough)
    ⟨"proposed calendar shortens authoritative coverage"⟩
  refuse (¬ (proposed.coveredFrom ≤ usedThrough ∧ usedThrough ≤ proposed.coveredThrough))
    ⟨"proposed calendar does not cover already used sessions"⟩
  refuse (current.tradingSessions.filter (· ≤ usedThrough) ≠
      proposed.tradingSessions.filter (· ≤ usedThrough))
    ⟨"proposed calendar rewrites an already used session"⟩
  return ⟨env.calendar current, env.calendar proposed, usedThrough, proposed.coveredThrough⟩

/-! ## Accepted updates -/

/-- A calendar with a used-through date, and an accepted update of it with a later one. -/
def CalendarStep (env : CalendarEnvironment) (c c' : TradingCalendar × Date) : Prop :=
  c.2 ≤ c'.2 ∧ ∃ receipt, validateCalendarUpdate env c.1 c'.1 c'.2 = .ok receipt

/-- The calendars of accepted updates, after one that is used through a date. -/
def CalendarHistory (env : CalendarEnvironment) (first : TradingCalendar) (used : Date)
    (updates : List (TradingCalendar × Date)) : Prop :=
  ((first, used) :: updates).IsChain (CalendarStep env)

namespace TradingCalendar

/-- A later calendar covers what an earlier one does, and has its sessions up to a date. -/
structure Extends (used : Date) (c c' : TradingCalendar) : Prop where
  covers : ∀ session, c.Covers session → c'.Covers session
  earlier : c.tradingSessions.filter (· ≤ used) = c'.tradingSessions.filter (· ≤ used)

variable {env : CalendarEnvironment} {c c' c'' : TradingCalendar} {used session : Date}

lemma Extends.trans (h : Extends used c c') (h' : Extends used c' c'') : Extends used c c'' where
  covers session hsession := h'.covers session (h.covers session hsession)
  earlier := h.earlier.trans h'.earlier

/-- The sessions up to a date are among those up to a later date. -/
lemma filter_used {through : Date} (h : used ≤ through) (sessions : List Date) :
    (sessions.filter (· ≤ through)).filter (· ≤ used) = sessions.filter (· ≤ used) := by
  rw [List.filter_filter]
  refine List.filter_congr fun session _ => ?_
  by_cases hsession : session ≤ used
  · simp [hsession, hsession.trans h]
  · simp [hsession]

/-- An accepted update extends the calendar, up to any date that was used. -/
lemma extends_of_step {d d' : Date} (h : CalendarStep env (c, d) (c', d')) (hused : used ≤ d) :
    Extends used c c' := by
  obtain ⟨hle, receipt, haccept⟩ := h
  unfold validateCalendarUpdate at haccept
  obtain ⟨_, hfrom, haccept⟩ := bind_ok_iff.mp haccept
  obtain ⟨_, hthrough, haccept⟩ := bind_ok_iff.mp haccept
  obtain ⟨_, -, haccept⟩ := bind_ok_iff.mp haccept
  obtain ⟨_, hsessions, -⟩ := bind_ok_iff.mp haccept
  have hfrom := not_lt.mp (refuse_eq_ok.mp hfrom)
  have hthrough := not_lt.mp (refuse_eq_ok.mp hthrough)
  have hsame := not_not.mp (refuse_eq_ok.mp hsessions)
  have hearlier : c.tradingSessions.filter (· ≤ used) = c'.tradingSessions.filter (· ≤ used) := by
    have hfilter := filter_used (hused.trans hle)
    rw [← hfilter, hsame, hfilter]
  exact ⟨fun session hsession => ⟨hfrom.trans hsession.1, hsession.2.trans hthrough⟩, hearlier⟩

/-- A calendar that is used through a date is followed by one that extends it up to that date. -/
def Follows (used : Date) (d d' : TradingCalendar × Date) : Prop :=
  used ≤ d.2 → used ≤ d'.2 ∧ Extends used d.1 d'.1

instance : Trans (Follows used) (Follows used) (Follows used) where
  trans h h' hused := ⟨(h' (h hused).1).1, (h hused).2.trans (h' (h hused).1).2⟩

/-- Along a history a later calendar extends an earlier one. -/
lemma pairwise_extends {updates : List (TradingCalendar × Date)}
    (h : CalendarHistory env c used updates) :
    ((c, used) :: updates).Pairwise fun d d' => Extends used d.1 d'.1 := by
  have hfollows : ((c, used) :: updates).Pairwise (Follows used) :=
    List.IsChain.pairwise (List.IsChain.imp (fun _ _ hstep hused =>
      ⟨hused.trans hstep.1, extends_of_step hstep hused⟩) h)
  have hused : ∀ d ∈ (c, used) :: updates, used ≤ d.2 := by
    intro d hd
    rcases List.mem_cons.mp hd with rfl | hd
    · exact le_rfl
    · exact (List.rel_of_pairwise_cons hfollows hd le_rfl).1
  exact hfollows.imp_of_mem fun hd _ hextends => (hextends (hused _ hd)).2

/-! ## The answers -/

lemma isTradingSession_of_covers (h : c.Covers session) :
    c.isTradingSession session = .ok (session ∈ c.tradingSessions) := by
  unfold isTradingSession refuse
  rw [if_neg (not_not_intro h)]
  rfl

lemma isTradingSession_outside (h : ¬ c.Covers session) :
    c.isTradingSession session = .error outside := by
  unfold isTradingSession refuse
  rw [if_pos h]
  rfl

lemma previousTradingSession_outside (h : ¬ c.Covers session) :
    c.previousTradingSession session = .error outside := by
  unfold previousTradingSession refuse
  rw [if_pos h]
  rfl

lemma covers_of_validate {u : PUnit} (h : c.validate = .ok u) (hs : session ∈ c.tradingSessions) :
    c.Covers session := by
  unfold validate at h
  iterate 3 obtain ⟨_, -, h⟩ := bind_ok_iff.mp h
  obtain ⟨_, hcover, -⟩ := bind_ok_iff.mp h
  by_contra hnot
  exact refuse_eq_ok.mp hcover ⟨session, hs, hnot⟩

namespace Extends

/-- A used date is a session of both calendars or of none. -/
lemma mem_iff (h : Extends used c c') (hused : session ≤ used) :
    session ∈ c.tradingSessions ↔ session ∈ c'.tradingSessions := by
  have hmem : session ∈ c.tradingSessions.filter (· ≤ used) ↔
      session ∈ c'.tradingSessions.filter (· ≤ used) := by rw [h.earlier]
  simpa [hused] using hmem

/-- The last session before a used date is one of those up to it. -/
lemma find_filter (hused : session ≤ used) (sessions : List Date) :
    sessions.reverse.find? (· < session) =
      (sessions.filter (· ≤ used)).reverse.find? (· < session) := by
  rw [← List.filter_reverse, List.find?_filter]
  congr 1
  funext candidate
  by_cases hbefore : candidate < session
  · simp [hbefore, hbefore.le.trans hused]
  · simp [hbefore]

/-- Both calendars answer alike about a used date that the first one covers. -/
lemma isTradingSession_eq (h : Extends used c c') (hused : session ≤ used)
    (hcover : c.Covers session) : c'.isTradingSession session = c.isTradingSession session := by
  rw [isTradingSession_of_covers hcover, isTradingSession_of_covers (h.covers _ hcover)]
  simp only [h.mem_iff hused]

lemma previousTradingSession_eq (h : Extends used c c') (hused : session ≤ used)
    (hcover : c.Covers session) :
    c'.previousTradingSession session = c.previousTradingSession session := by
  unfold previousTradingSession
  rw [find_filter hused c.tradingSessions, find_filter hused c'.tradingSessions, h.earlier]
  simp only [refuse, not_not_intro hcover, not_not_intro (h.covers _ hcover), if_false]

/-- A used date that the first calendar does not cover is no session of the other. -/
lemma isTradingSession_uncovered {u : PUnit} (h : Extends used c c') (hvalid : c.validate = .ok u)
    (hused : session ≤ used) (hcover : ¬ c.Covers session) :
    c'.isTradingSession session = .error outside ∨ c'.isTradingSession session = .ok false := by
  by_cases hcover' : c'.Covers session
  · have hnot : session ∉ c'.tradingSessions := fun hmem =>
      hcover (covers_of_validate hvalid ((h.mem_iff hused).mpr hmem))
    right
    rw [isTradingSession_of_covers hcover']
    simp [hnot]
  · exact .inl (isTradingSession_outside hcover')

end Extends

/-- **Calendar history is stable.**  Along accepted updates with used-through dates that do not
decrease, every later calendar covers what an earlier one covers and says the same about each date
up to the first of those dates; where the earlier one raises, the later one raises the same or
knows of no session. -/
theorem answers_stable {updates : List (TradingCalendar × Date)}
    (hhistory : CalendarHistory env c used updates)
    (hvalid : ∀ d ∈ (c, used) :: updates, d.1.validate = .ok ⟨⟩) :
    ((c, used) :: updates).Pairwise fun d d' => ∀ session ≤ used,
      (d.1.Covers session → d'.1.Covers session ∧
        d'.1.isTradingSession session = d.1.isTradingSession session ∧
        d'.1.previousTradingSession session = d.1.previousTradingSession session) ∧
      (¬ d.1.Covers session →
        d.1.isTradingSession session = .error outside ∧
        d.1.previousTradingSession session = .error outside ∧
        (d'.1.isTradingSession session = .error outside ∨
          d'.1.isTradingSession session = .ok false)) := by
  refine (pairwise_extends hhistory).imp_of_mem fun hd _ h session hused => ⟨?_, ?_⟩
  · intro hcover
    exact ⟨h.covers _ hcover, h.isTradingSession_eq hused hcover,
      h.previousTradingSession_eq hused hcover⟩
  · intro hcover
    exact ⟨isTradingSession_outside hcover, previousTradingSession_outside hcover,
      h.isTradingSession_uncovered (hvalid _ hd) hused hcover⟩

namespace Sample

def digest : Digest := "0123456789abcdef0123456789abcdef0123456789abcdef0123456789abcdef"

def environment : CalendarEnvironment := ⟨fun _ => digest⟩

/-- A calendar with a coverage and sessions. -/
def calendar (coveredFrom coveredThrough : Date) (tradingSessions : List Date) : TradingCalendar :=
  ⟨"exchange", digest, coveredFrom, coveredThrough, tradingSessions⟩

/-- The first update begins a day earlier, and the second one moves a session that is not used. -/
def updates : List (TradingCalendar × Date) :=
  [(calendar 1 6 [2, 3, 5], 3), (calendar 1 9 [2, 3, 6, 8], 4)]

lemma history : CalendarHistory environment (calendar 2 6 [2, 3, 5]) 3 updates :=
  .cons_cons ⟨le_rfl, _, rfl⟩ (.cons_cons ⟨by decide, _, rfl⟩ (.singleton _))

lemma valid : ∀ d ∈ (calendar 2 6 [2, 3, 5], (3 : Date)) :: updates, d.1.validate = .ok ⟨⟩ := by
  simp only [updates, List.forall_mem_cons]
  exact ⟨rfl, rfl, rfl, List.forall_mem_nil _⟩

end Sample

/-- The calendars of the sample agree about the session before the third day. -/
theorem answers_stable_sample :
    (Sample.calendar 1 9 [2, 3, 6, 8]).previousTradingSession 3 =
      (Sample.calendar 2 6 [2, 3, 5]).previousTradingSession 3 := by
  have h := answers_stable Sample.history Sample.valid
  have hlast := List.rel_of_pairwise_cons h
    (List.mem_cons_of_mem _ List.mem_cons_self) 3 le_rfl
  exact (hlast.1 (by decide)).2.2

/-- The day by which the first update begins earlier is outside of the first calendar, and no
session of the second one. -/
theorem earlier_coverage_answers :
    CalendarHistory Sample.environment (Sample.calendar 2 6 [2, 3, 5]) 3 Sample.updates ∧
      (∀ d ∈ (Sample.calendar 2 6 [2, 3, 5], (3 : Date)) :: Sample.updates,
        d.1.validate = .ok ⟨⟩) ∧
      (Sample.calendar 2 6 [2, 3, 5]).isTradingSession 1 = .error outside ∧
      (Sample.calendar 1 6 [2, 3, 5]).isTradingSession 1 = .ok false :=
  ⟨Sample.history, Sample.valid, rfl, rfl⟩

end TradingCalendar

end FirmQuant
