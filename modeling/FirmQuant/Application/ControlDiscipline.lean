import FirmQuant.Application.ControlSteps
import FirmQuant.Foundation.StableSort

/-!
# The discipline of the control channel

Whatever requests come in and wherever a call is cut off, a request is not handled once it has a
receipt, a receipt is never written over, and the requests of one batch are handled in the order
of their priorities.

The requests that a batch may still handle have no receipt, and the batch writes no receipt for
them by refusing a file: the listing has each name once.
-/

namespace FirmQuant

namespace ControlInbox

/-! ## What the trace tells -/

/-- The receipts that were written. -/
def receiptsOf (trace : List ControlEvent) : List ControlReceipt :=
  trace.filterMap fun
    | .receipted written => some written
    | _ => none

/-- The requests that the last batch has handled. -/
def batch (trace : List ControlEvent) : List ControlRequest :=
  trace.foldl (fun handled event => match event with
    | .started => []
    | .invoked request => handled ++ [request]
    | _ => handled) []

lemma receiptsOf_append (trace more : List ControlEvent) :
    receiptsOf (trace ++ more) = receiptsOf trace ++ receiptsOf more :=
  List.filterMap_append

@[simp] lemma batch_started (trace : List ControlEvent) : batch (trace ++ [.started]) = [] := by
  simp [batch]

@[simp] lemma batch_invoked (trace : List ControlEvent) (request : ControlRequest) :
    batch (trace ++ [.invoked request]) = batch trace ++ [request] := by
  simp [batch]

@[simp] lemma batch_receipted (trace : List ControlEvent) (written : ControlReceipt) :
    batch (trace ++ [.receipted written]) = batch trace := by
  simp [batch]

lemma mem_batch {past middle : List ControlEvent} {request : ControlRequest}
    (h : .started ∉ middle) : request ∈ batch (past ++ .invoked request :: middle) := by
  induction middle using List.reverseRecOn with
  | nil => simp
  | append_singleton middle event ih =>
    rw [List.mem_append, not_or] at h
    have hmem := ih h.1
    have hsplit : past ++ .invoked request :: (middle ++ [event]) =
        (past ++ .invoked request :: middle) ++ [event] := by simp
    rw [hsplit]
    cases event with
    | started => simp at h
    | invoked other =>
      rw [batch_invoked]
      exact List.mem_append_left _ hmem
    | receipted written =>
      rw [batch_receipted]
      exact hmem
    | returned | raised => simpa [batch] using hmem

/-- The rule of the trace, with the receipts that were there before it: nothing is handled that has
a receipt, in no batch is a request handled after one that comes later in the order, and no receipt
is written where there is one. -/
def Rule (receipts : List ControlReceipt) (past : List ControlEvent) : ControlEvent → Prop
  | .invoked request =>
    .request request.requestId ∉ (receipts ++ receiptsOf past).map (·.receiptId) ∧
      ∀ earlier ∈ batch past, before earlier request
  | .receipted written => written.receiptId ∉ (receipts ++ receiptsOf past).map (·.receiptId)
  | _ => True

/-! ## What a batch knows -/

namespace Consumer

/-- The requests that the batch may still handle. -/
def held : Consumer → List ControlRequest
  | .idle => []
  | .listing _ => []
  | .sifting _ _ pending => pending
  | .rejecting _ _ pending _ _ => pending
  | .removing _ _ pending _ => pending
  | .executing rest => rest
  | .completing _ _ rest => rest
  | .clearing _ rest => rest

/-- The names that the batch may still refuse. -/
def names : Consumer → List ControlFileName
  | .sifting _ entries _ => entries
  | .rejecting _ entries _ name _ => name :: entries
  | .removing _ entries _ _ => entries
  | _ => []

/-- The receipt that the batch writes next is of the file that it refuses, or of the request that
it has handled. -/
def WritesOwn : Consumer → Prop
  | .rejecting _ _ _ name written => ∀ id, written.receiptId = .request id → name = .request id
  | .completing request written rest => written.receiptId = .request request.requestId ∧
      request.requestId ∉ rest.map (·.requestId)
  | _ => True

/-- The requests to be handled are in order, after those of the batch that were handled. -/
def Ordered (handled : List ControlRequest) : Consumer → Prop
  | .idle => True
  | .listing _ => handled = []
  | .sifting _ _ _ => handled = []
  | .rejecting _ _ _ _ _ => handled = []
  | .removing _ _ _ _ => handled = []
  | .executing rest => rest.Pairwise before ∧
      ∀ earlier ∈ handled, ∀ later ∈ rest, before earlier later
  | .completing _ _ rest => rest.Pairwise before ∧
      ∀ earlier ∈ handled, ∀ later ∈ rest, before earlier later
  | .clearing _ rest => rest.Pairwise before ∧
      ∀ earlier ∈ handled, ∀ later ∈ rest, before earlier later

end Consumer

/-- The batch fits the receipts. -/
structure Fit (receipts : List ControlReceipt) (consumer : Consumer) : Prop where
  held_nodup : (consumer.held.map (·.requestId)).Nodup
  held_fresh : ∀ request ∈ consumer.held, .request request.requestId ∉ receipts.map (·.receiptId)
  names_nodup : consumer.names.Nodup
  apart : ∀ request ∈ consumer.held, .request request.requestId ∉ consumer.names
  writesOwn : consumer.WritesOwn

/-- The invariant of the system, with the receipts that were there before it. -/
structure Disciplined (receipts : List ControlReceipt) (s : ControlSystem) : Prop where
  names : (s.directories.inbox.map (·.name)).Nodup
  receipts_eq : s.directories.receipts = receipts ++ receiptsOf s.trace
  receipts_nodup : (s.directories.receipts.map (·.receiptId)).Nodup
  fit : Fit s.directories.receipts s.consumer
  ordered : s.consumer.Ordered (batch s.trace)
  obeys : Trace.Obeys (Rule receipts) s.trace

/-! ## The order -/

lemma before_total (a b : ControlRequest) : before a b ∨ before b a :=
  SortKey.total (SortKey.total
    ((String.le_total ..).imp String.not_lt.mpr String.not_lt.mpr))

lemma before_trans {a b c : ControlRequest} (hab : before a b) (hbc : before b c) : before a c := by
  refine SortKey.trans (SortKey.trans fun hid hid' => ?_) hab hbc
  rw [String.not_lt] at hid hid' ⊢
  exact String.le_trans hid hid'

lemma pairwise_sorted (pending : List ControlRequest) :
    (pending.insertionSort before).Pairwise before := by
  have : Std.Total before := ⟨before_total⟩
  have : IsTrans ControlRequest before := ⟨fun _ _ _ => before_trans⟩
  exact List.pairwise_insertionSort before pending

/-! ## Steps -/

section Steps

variable {hostHash : String} {receipts : List ControlReceipt} {s s' : ControlSystem}

variable {directories : ControlDirectories} {request : ControlRequest}

lemma receipt_eq_none {id : ReceiptId} :
    receipt directories id = none ↔ id ∉ directories.receipts.map (·.receiptId) := by
  unfold receipt
  rw [List.find?_eq_none, List.mem_map]
  constructor
  · rintro h ⟨existing, hmem, heq⟩
    exact h existing hmem (decide_eq_true heq)
  · intro h existing hmem heq
    exact h ⟨existing, hmem, of_decide_eq_true heq⟩

variable {written : ControlReceipt} {time : DateTime} {file : InboxFile} {name : ControlFileName}
  {consumer : Consumer}

/-- A receipt is written where there is none, or it is there already. -/
lemma record_cases {directories' : ControlDirectories}
    (h : record written directories = some directories') :
    (receipt directories written.receiptId = none ∧
      directories' = { directories with receipts := directories.receipts ++ [written] }) ∨
    (receipt directories written.receiptId = some written ∧ directories' = directories) := by
  unfold record at h
  split at h
  next hnone =>
    cases h
    exact .inl ⟨hnone, rfl⟩
  next existing hexisting =>
    split at h
    next hsame =>
      cases h
      exact .inr ⟨hsame ▸ hexisting, rfl⟩
    · cases h

lemma file_of_load (h : load hostHash time file = .ok request) :
    file.name = .request request.requestId ∧ file.content = .request request := by
  unfold load at h
  split_ifs at h
  split at h
  · cases h
  next hcontent =>
    split_ifs at h with hhost htime hexpired hname
    cases h
    exact ⟨not_not.mp hname, hcontent⟩

/-- The file of a request that is valid at this time is accepted. -/
lemma load_of_valid (hhost : request.hostHash = hostHash)
    (hcreated : request.createdAt ≤ time) (hexpires : time < request.expiresAt) :
    load hostHash time (requestFile request) = .ok request := by
  unfold load requestFile
  simp only [reduceCtorEq, if_false, Bool.true_eq_false]
  rw [if_neg (not_not.mpr hhost), if_neg (not_lt.mpr hcreated), if_neg (not_le.mpr hexpires),
    if_neg (not_not.mpr rfl)]

lemma rejection_own {reason : ControlRefusal} {rawHash : Option RawIdentity}
    {processedAt : DateTime} {id : RequestId}
    (h : (rejection name reason rawHash processedAt).receiptId = .request id) :
    name = .request id := by
  cases name with
  | request other =>
    cases h
    rfl
  | other text => cases h

lemma nodup_removeFile (h : (directories.inbox.map (·.name)).Nodup) :
    ((removeFile name directories).inbox.map (·.name)).Nodup :=
  h.sublist (List.filter_sublist.map _)

lemma nodup_addFile (h : (directories.inbox.map (·.name)).Nodup)
    (hnew : ∀ other ∈ directories.inbox, other.name ≠ file.name) :
    ((addFile file directories).inbox.map (·.name)).Nodup :=
  List.nodup_map_snoc.mpr ⟨h, hnew⟩

/-- The directories never have two files of one name. -/
lemma nodup_enqueues (h : Enqueues hostHash s s')
    (hs : (s.directories.inbox.map (·.name)).Nodup) :
    (s'.directories.inbox.map (·.name)).Nodup := by
  have hwrite : ∀ name content, ((writeFile name content s.directories).inbox.map (·.name)) =
      s.directories.inbox.map (·.name) := by
    intro name content
    unfold writeFile
    rw [List.map_map]
    refine List.map_congr_left fun file _ => ?_
    dsimp only [Function.comp]
    split <;> rfl
  cases h with
  | begin request temporary hclock hhost hfresh hreceipt hfile => exact hs
  | renameFails hwriters hphase hfile => exact hs
  | create hwriters hphase hfile => exact nodup_addFile hs hfile
  | writePart reason bytes hwriters hphase | write hwriters hphase =>
    dsimp only
    rw [hwrite]
    exact hs
  | rename hwriters hphase hfile =>
    refine nodup_addFile (nodup_removeFile (nodup_removeFile hs)) fun other hother => ?_
    exact of_decide_eq_true (List.mem_filter.mp hother).2

lemma fit_idle : Fit receipts .idle where
  held_nodup := List.nodup_nil
  held_fresh _ h := by cases h
  names_nodup := List.nodup_nil
  apart _ h := by cases h
  writesOwn := trivial

/-- A batch that holds no more and refuses no more than before. -/
lemma Fit.weaken {consumer' : Consumer} (h : Fit receipts consumer)
    (hheld : consumer'.held.Sublist consumer.held)
    (hnames : consumer'.names.Sublist consumer.names) (hwrites : consumer'.WritesOwn) :
    Fit receipts consumer' where
  held_nodup := h.held_nodup.sublist (hheld.map _)
  held_fresh request hmem := h.held_fresh request (hheld.subset hmem)
  names_nodup := h.names_nodup.sublist hnames
  apart request hmem hname := h.apart request (hheld.subset hmem) (hnames.subset hname)
  writesOwn := hwrites

/-- One more receipt, of no request that the batch holds. -/
lemma Fit.receipted (h : Fit receipts consumer)
    (hother : ∀ request ∈ consumer.held, written.receiptId ≠ .request request.requestId) :
    Fit (receipts ++ [written]) consumer where
  held_nodup := h.held_nodup
  held_fresh request hmem := by
    rw [List.map_append, List.mem_append, not_or]
    refine ⟨h.held_fresh request hmem, fun heq => hother request hmem ?_⟩
    exact (List.mem_singleton.mp heq).symm
  names_nodup := h.names_nodup
  apart := h.apart
  writesOwn := h.writesOwn

/-- A step that changes neither the receipts nor what is observed. -/
lemma Disciplined.unobserved (h : Disciplined receipts s)
    (hnames : (s'.directories.inbox.map (·.name)).Nodup)
    (hreceipts : s'.directories.receipts = s.directories.receipts) (htrace : s'.trace = s.trace)
    (hfit : Fit s.directories.receipts s'.consumer)
    (hordered : s'.consumer.Ordered (batch s.trace)) : Disciplined receipts s' := by
  obtain ⟨⟨_, _⟩, _, _, _, _⟩ := s'
  subst hreceipts htrace
  exact ⟨hnames, h.receipts_eq, h.receipts_nodup, hfit, hordered, h.obeys⟩

/-- A step with one observation that is no receipt. -/
lemma Disciplined.observed (h : Disciplined receipts s) {event : ControlEvent}
    (hdirectories : s'.directories = s.directories) (htrace : s'.trace = s.trace ++ [event])
    (hreceipt : receiptsOf [event] = []) (hrule : Rule receipts s.trace event)
    (hfit : Fit s.directories.receipts s'.consumer)
    (hordered : s'.consumer.Ordered (batch (s.trace ++ [event]))) : Disciplined receipts s' := by
  obtain ⟨_, _, _, _, _⟩ := s'
  subst hdirectories htrace
  refine ⟨h.names, ?_, h.receipts_nodup, hfit, hordered, h.obeys.append hrule⟩
  rw [receiptsOf_append, hreceipt, List.append_nil, h.receipts_eq]

lemma Disciplined.recorded (h : Disciplined receipts s)
    (hrecord : record written s.directories = some directories)
    (hdirectories : s'.directories = directories)
    (htrace : s'.trace = s.trace ++ recorded written s.directories)
    (hfit : Fit s.directories.receipts s'.consumer)
    (hother : ∀ request ∈ s'.consumer.held, written.receiptId ≠ .request request.requestId)
    (hordered : s'.consumer.Ordered (batch s.trace)) : Disciplined receipts s' := by
  obtain ⟨_, _, _, _, _⟩ := s'
  subst hdirectories
  unfold ControlInbox.recorded at htrace
  rcases record_cases hrecord with ⟨hnone, rfl⟩ | ⟨hsome, rfl⟩
  · have hnew := receipt_eq_none.mp hnone
    rw [if_pos hnone] at htrace
    subst htrace
    refine ⟨h.names, ?_, ?_, hfit.receipted hother, ?_, h.obeys.append ?_⟩
    · rw [receiptsOf_append, ← List.append_assoc, ← h.receipts_eq]
      rfl
    · exact List.nodup_map_snoc.mpr ⟨h.receipts_nodup, fun old hold heq =>
        hnew (heq ▸ List.mem_map_of_mem hold)⟩
    · rw [batch_receipted]
      exact hordered
    · unfold Rule
      rw [← h.receipts_eq]
      exact hnew
  · rw [if_neg (by rw [hsome]; simp), List.append_nil] at htrace
    exact h.unobserved h.names rfl htrace hfit hordered

/-- The consumer takes over a request that it has loaded. -/
lemma Fit.accept {time : DateTime} {name : ControlFileName} {entries : List ControlFileName}
    {pending : List ControlRequest} (h : Fit receipts (.sifting time (name :: entries) pending))
    (hname : name = .request request.requestId)
    (hreceipt : .request request.requestId ∉ receipts.map (·.receiptId)) :
    Fit receipts (.sifting time entries (pending ++ [request])) := by
  have hnodup := List.nodup_cons.mp h.names_nodup
  refine ⟨?_, ?_, hnodup.2, ?_, trivial⟩
  · refine List.nodup_map_snoc.mpr ⟨h.held_nodup, fun other hother hsame => ?_⟩
    refine h.apart other hother (List.mem_cons.mpr (.inl ?_))
    rw [hname, hsame]
  · intro other hother
    rcases List.mem_snoc.mp hother with hother | rfl
    · exact h.held_fresh other hother
    · exact hreceipt
  · intro other hother hmem
    rcases List.mem_snoc.mp hother with hother | rfl
    · exact h.apart other hother (List.mem_cons_of_mem _ hmem)
    · exact hnodup.1 (hname ▸ hmem)

variable (h : Disciplined receipts s)

include h

lemma Disciplined.consumes (hstep : Consumes hostHash s s') :
    Disciplined receipts s' := by
  have hfit := h.fit
  have hordered := h.ordered
  cases hstep with
  | start time hidle hclock =>
    refine h.observed rfl rfl rfl trivial ?_ (by rw [batch_started]; rfl)
    exact ⟨List.nodup_nil, by simp [Consumer.held],
      List.nodup_nil, by simp [Consumer.held], trivial⟩
  | list hconsumer hentries =>
    rw [hconsumer] at hordered
    refine h.unobserved h.names rfl rfl ?_ hordered
    exact ⟨List.nodup_nil, by simp [Consumer.held], hentries.nodup_iff.mpr h.names,
      by simp [Consumer.held], trivial⟩
  | skip hconsumer hfile | answered hconsumer hfile hload hreceipt hsame =>
    rw [hconsumer] at hfit hordered
    exact h.unobserved h.names rfl rfl
      (hfit.weaken (List.Sublist.refl _) (List.sublist_cons_self _ _) trivial) hordered
  | refuse processedAt hconsumer hfile hload hclock
  | collide processedAt hconsumer hfile hload hreceipt hother hclock =>
    rw [hconsumer] at hfit hordered
    exact h.unobserved h.names rfl rfl (hfit.weaken (List.Sublist.refl _) (List.Sublist.refl _)
      fun _ => rejection_own) hordered
  | accept hconsumer hfile hload hreceipt =>
    rw [hconsumer] at hfit hordered
    exact h.unobserved h.names rfl rfl
      (hfit.accept (file_of_load hload).1 (receipt_eq_none.mp hreceipt)) hordered
  | reject hconsumer hrecord =>
    rw [hconsumer] at hfit hordered
    refine h.recorded hrecord rfl rfl
      (hfit.weaken (List.Sublist.refl _) (List.sublist_cons_self _ _) trivial) ?_ hordered
    intro request hmem heq
    exact hfit.apart request hmem (List.mem_cons.mpr (.inl (hfit.writesOwn _ heq).symm))
  | rejectFails hconsumer hrecord | completeFails hconsumer hrecord =>
    exact h.observed rfl rfl rfl trivial fit_idle trivial
  | remove hconsumer | clear hconsumer =>
    rw [hconsumer] at hfit hordered
    exact h.unobserved (nodup_removeFile h.names) rfl rfl
      (hfit.weaken (List.Sublist.refl _) (List.Sublist.refl _) trivial) hordered
  | @sort time pending hconsumer =>
    rw [hconsumer] at hfit hordered
    have hperm : (pending.insertionSort before).Perm pending := List.perm_insertionSort _ _
    refine h.unobserved h.names rfl rfl ⟨?_, ?_, List.nodup_nil, ?_, trivial⟩ ⟨?_, ?_⟩
    · exact (hperm.map _).nodup_iff.mpr hfit.held_nodup
    · exact fun request hmem => hfit.held_fresh request (hperm.mem_iff.mp hmem)
    · exact fun request hmem hname => by cases hname
    · exact pairwise_sorted pending
    · intro earlier hearlier
      have hnone : batch s.trace = [] := hordered
      rw [hnone] at hearlier
      cases hearlier
  | @invoke request rest outcome processedAt hconsumer hclock =>
    rw [hconsumer] at hfit hordered
    obtain ⟨hsorted, hearlier⟩ := hordered
    rw [List.pairwise_cons] at hsorted
    have hnodup := hfit.held_nodup
    rw [Consumer.held, List.map_cons, List.nodup_cons] at hnodup
    have hhead : request ∈ request :: rest := List.mem_cons_self
    refine h.observed rfl rfl rfl ⟨?_, fun earlier hmem => hearlier earlier hmem request hhead⟩
      (hfit.weaken (List.sublist_cons_self _ _) (List.Sublist.refl _) ⟨rfl, hnodup.1⟩) ?_
    · rw [← h.receipts_eq]
      exact hfit.held_fresh request hhead
    · refine ⟨hsorted.2, ?_⟩
      rw [batch_invoked]
      intro earlier hmem later hlater
      rcases List.mem_snoc.mp hmem with hmem | rfl
      · exact hearlier earlier hmem later (List.mem_cons_of_mem _ hlater)
      · exact hsorted.1 later hlater
  | complete hconsumer hrecord =>
    rw [hconsumer] at hfit hordered
    refine h.recorded hrecord rfl rfl
      (hfit.weaken (List.Sublist.refl _) (List.Sublist.refl _) trivial) ?_ hordered
    intro request hmem heq
    obtain ⟨hid, hrest⟩ := hfit.writesOwn
    rw [ReceiptId.request.inj (hid.symm.trans heq)] at hrest
    exact hrest (List.mem_map_of_mem hmem)
  | finish hconsumer => exact h.observed rfl rfl rfl trivial fit_idle trivial

lemma Disciplined.breaks (hstep : Breaks s s') :
    Disciplined receipts s' := by
  cases hstep with
  | consumer => exact h.unobserved h.names rfl rfl fit_idle trivial
  | writer hwriters => exact h.unobserved h.names rfl rfl h.fit h.ordered
  | @handler request rest hconsumer =>
    have hfit := h.fit
    have hordered := h.ordered
    rw [hconsumer] at hfit hordered
    have hhead : request ∈ request :: rest := List.mem_cons_self
    -- The call of the handler is observed, and then that it raises.
    have hinvoked : Disciplined receipts { s with
        consumer := .idle
        trace := s.trace ++ [.invoked request] } := by
      refine h.observed rfl rfl rfl
        ⟨?_, fun earlier hmem => hordered.2 earlier hmem request hhead⟩ fit_idle trivial
      rw [← h.receipts_eq]
      exact hfit.held_fresh request hhead
    have htrace : s.trace ++ [.invoked request, .raised] =
        (s.trace ++ [.invoked request]) ++ [.raised] := by simp
    exact hinvoked.observed rfl htrace rfl trivial fit_idle trivial

lemma Disciplined.step (hstep : Step hostHash s s') :
    Disciplined receipts s' := by
  cases hstep with
  | enqueues hstep =>
    have hnames := nodup_enqueues hstep h.names
    cases hstep with
    | begin | create | writePart | write | rename
    | renameFails => exact h.unobserved hnames rfl rfl h.fit h.ordered
  | consumes hstep => exact h.consumes hstep
  | breaks hstep => exact h.breaks hstep

lemma Disciplined.run (hrun : Run hostHash s s') :
    Disciplined receipts s' := by
  induction hrun with
  | refl => exact h
  | tail _ hstep ih => exact ih.step hstep

omit h

lemma receipts_step (hstep : Step hostHash s s') :
    s.directories.receipts <+: s'.directories.receipts := by
  have hrecord : ∀ {written directories}, record written s.directories = some directories →
      s.directories.receipts <+: directories.receipts := by
    intro written directories hrecord
    rcases record_cases hrecord with ⟨-, rfl⟩ | ⟨-, rfl⟩
    · exact List.prefix_append _ _
    · exact List.prefix_rfl
  cases hstep with
  | enqueues hstep | breaks hstep => cases hstep <;> exact List.prefix_rfl
  | consumes hstep =>
    cases hstep with
    | reject _ h | complete _ h => exact hrecord h
    | _ => exact List.prefix_rfl

lemma receipts_run (hrun : Run hostHash s s') :
    s.directories.receipts <+: s'.directories.receipts := by
  induction hrun with
  | refl => exact List.prefix_rfl
  | tail _ hstep ih => exact ih.trans (receipts_step hstep)

end Steps

/-! ## The result -/

/-- In every run from directories with distinct names and receipts: no request is handled after its
receipt, there is at most one receipt under an id and it stays, and in one batch requests are
handled in the order of priority, creation and id, so that a HALT comes before any other command. -/
theorem handling_disciplined {hostHash : String} {directories : ControlDirectories}
    {clock : DateTime} {s : ControlSystem}
    (hnames : (directories.inbox.map (·.name)).Nodup)
    (hreceipts : (directories.receipts.map (·.receiptId)).Nodup)
    (hrun : Run hostHash (.start directories clock) s) :
    (∀ past written middle request future,
      s.trace = past ++ .receipted written :: middle ++ .invoked request :: future →
      written.receiptId ≠ .request request.requestId) ∧
    ((s.directories.receipts.map (·.receiptId)).Nodup ∧
      s.directories.receipts = directories.receipts ++ receiptsOf s.trace ∧
      ∀ s', Run hostHash s s' → s.directories.receipts <+: s'.directories.receipts) ∧
    ∀ past earlier middle later future,
      s.trace = past ++ .invoked earlier :: middle ++ .invoked later :: future →
      .started ∉ middle →
      before earlier later ∧ (later.command = .halt → earlier.command = .halt) := by
  have hstart : Disciplined directories.receipts (.start directories clock) :=
    ⟨hnames, (List.append_nil _).symm, hreceipts, fit_idle, trivial, Trace.obeys_nil⟩
  have h := hstart.run hrun
  refine ⟨?_, ⟨h.receipts_nodup, h.receipts_eq, fun _ hrun' => receipts_run hrun'⟩, ?_⟩
  · intro past written middle request future htrace heq
    obtain ⟨hnew, -⟩ := h.obeys _ _ _ htrace
    refine hnew (List.mem_map.mpr ⟨written, List.mem_append_right _ ?_, heq⟩)
    rw [receiptsOf_append]
    exact List.mem_append_right _ List.mem_cons_self
  · intro past earlier middle later future htrace hmiddle
    obtain ⟨-, hearlier⟩ := h.obeys _ _ _ htrace
    have hbefore := hearlier earlier (mem_batch hmiddle)
    refine ⟨hbefore, fun hhalt => ?_⟩
    rcases hbefore with hlt | ⟨heq, -⟩
    · rw [hhalt] at hlt
      exact absurd hlt (Nat.not_lt_zero _)
    · rw [hhalt] at heq
      revert heq
      cases earlier.command <;> decide

namespace Sample

/-- A request that is valid from 0 on for a minute. -/
def request (digest : String) (command : ControlCommand) : ControlRequest where
  requestId := ⟨digest⟩
  command := command
  createdAt := 0
  expiresAt := minute
  hostHash := "host"
  reasonSha256 := none
  expires_after := by decide
  ttl_le := by decide

/-- A STOP and a HALT in the inbox. -/
def directories : ControlDirectories :=
  ⟨[requestFile (request "a" .stop), requestFile (request "b" .halt)], []⟩

end Sample

section

open Sample

/-- A HALT is handled before the STOP that was listed before it. -/
theorem halt_handled_first : ∃ s outcome,
    Run "host" (.start directories 0) s ∧
    s.trace = [.started, .invoked (request "b" .halt),
      .receipted (completion (request "b" .halt) outcome 1), .invoked (request "a" .stop)] ∧
    before (request "b" .halt) (request "a" .stop) := by
  have hrun : ∃ s, Run "host" (.start directories 0) s ∧
      s.trace = [.started, .invoked (request "b" .halt), .receipted (completion
        (request "b" .halt) (.refused .expired) 1), .invoked (request "a" .stop)] := by
    refine ⟨?last, ?run, ?trace⟩
    case run =>
      refine .head (.consumes (.start 1 rfl (by decide))) ?_
      refine .head (.consumes (.list rfl (List.Perm.refl _))) ?_
      refine .head (.consumes (@Consumes.accept _ _ _ (requestFile (request "a" .stop)) _ _ _ rfl
        List.mem_cons_self rfl rfl)) ?_
      refine .head (.consumes (@Consumes.accept _ _ _ (requestFile (request "b" .halt)) _ _ _ rfl
        (List.mem_cons_of_mem _ List.mem_cons_self) rfl rfl)) ?_
      refine .head (.consumes (.sort rfl)) ?_
      refine .head (.consumes (.invoke (.refused .expired) 1 rfl (by decide))) ?_
      refine .head (.consumes (.complete rfl rfl)) ?_
      refine .head (.consumes (.clear rfl)) ?_
      refine .head (.consumes (.invoke (.refused .expired) 1 rfl (by decide))) ?_
      exact .refl
    case trace => rfl
  obtain ⟨s, hrun, htrace⟩ := hrun
  refine ⟨s, .refused .expired, hrun, htrace, ?_⟩
  have hnames : (directories.inbox.map (·.name)).Nodup := by decide
  have horder := (handling_disciplined hnames List.nodup_nil hrun).2.2
  exact (horder [.started] _ [.receipted _] _ [] htrace (by simp)).1

end

end ControlInbox

end FirmQuant
