import FirmQuant.Application.ControlDiscipline

/-!
# Requests that come in while the inbox is processed

One process puts a request into the inbox while another one processes the inbox.  The temporary
file of the request stands in the inbox, where a listing sees it: `process_pending` refuses it and
unlinks it, and the rename that should put the request in place finds nothing.  A request that is
in place can be refused too, when it was created after the call had read the clock.

As long as neither happens, the rename succeeds, and the request stays in the inbox until it was
handled once.
-/

namespace FirmQuant

namespace ControlInbox

/-! ## What the consumer is about to do -/

namespace Consumer

/-- The file that the consumer is about to unlink, or to answer and unlink. -/
def doomed : Consumer → List ControlFileName
  | .rejecting _ _ _ name _ => [name]
  | .removing _ _ _ name => [name]
  | .completing request _ _ => [.request request.requestId]
  | .clearing request _ => [.request request.requestId]
  | _ => []

/-- The files that the consumer has loaded and not yet dealt with. -/
def concerns (consumer : Consumer) : List ControlFileName :=
  consumer.doomed ++ consumer.held.map fun request => .request request.requestId

end Consumer

/-- The number of times that the handler was called with a request of this id. -/
def invocations (id : RequestId) (trace : List ControlEvent) : ℕ :=
  trace.countP fun
    | .invoked request => request.requestId = id
    | _ => false

/-- `process_pending` is not about to load a file that it must not refuse: the temporary file of a
request, or a request at a time at which it is not yet created or expired. -/
def Calm (s : ControlSystem) : Prop :=
  ∀ time entries pending, ∀ file ∈ s.directories.inbox,
    s.consumer = .sifting time (file.name :: entries) pending → ∀ writer ∈ s.writers,
      file.name ≠ writer.temporaryName ∧
      (file.name = writer.targetName →
        writer.request.createdAt ≤ time ∧ time < writer.request.expiresAt)

lemma calm_of_not_loading {s : ControlSystem} (h : ∀ time name entries pending,
    s.consumer ≠ .sifting time (name :: entries) pending) : Calm s :=
  fun time entries pending file _ hconsumer => absurd hconsumer (h time file.name entries pending)

/-- A step of a run of the two calls in which no process crashes and the handler returns. -/
def CalmStep (hostHash : String) (s s' : ControlSystem) : Prop :=
  Calm s ∧ (Enqueues hostHash s s' ∨ Consumes hostHash s s')

/-! ## Where a request is -/

/-- Nobody but its own call knows of a request. -/
structure Private (s : ControlSystem) (writer : Writer) : Prop where
  receipt : .request writer.request.requestId ∉ s.directories.receipts.map (·.receiptId)
  target : ∀ file ∈ s.directories.inbox, file.name ≠ writer.targetName
  unknown : writer.targetName ∉ s.consumer.concerns
  untouched : writer.temporaryName ∉ s.consumer.concerns
  unhandled : invocations writer.request.requestId s.trace = 0

/-- The request is in the inbox and not yet handled. -/
structure Waiting (s : ControlSystem) (writer : Writer) : Prop where
  file : requestFile writer.request ∈ s.directories.inbox
  receipt : .request writer.request.requestId ∉ s.directories.receipts.map (·.receiptId)
  kept : writer.targetName ∉ s.consumer.doomed
  held : ∀ request ∈ s.consumer.held, request.requestId = writer.request.requestId →
    request = writer.request
  unhandled : invocations writer.request.requestId s.trace = 0

/-- The handler has returned; the receipt is to be written. -/
structure InHand (s : ControlSystem) (writer : Writer) : Prop where
  file : requestFile writer.request ∈ s.directories.inbox
  receipt : .request writer.request.requestId ∉ s.directories.receipts.map (·.receiptId)
  consumer : ∃ outcome processedAt rest, s.consumer =
    .completing writer.request (completion writer.request outcome processedAt) rest
  handled : invocations writer.request.requestId s.trace = 1

/-- The request was handled once and has its receipt. -/
structure Handled (s : ControlSystem) (writer : Writer) : Prop where
  receipt : ∃ outcome processedAt,
    completion writer.request outcome processedAt ∈ s.directories.receipts
  released : ∀ request ∈ s.consumer.held, request.requestId ≠ writer.request.requestId
  handled : invocations writer.request.requestId s.trace = 1

/-- Where the request of a call is in each phase of the call. -/
def Tracked (s : ControlSystem) (writer : Writer) : Prop :=
  match writer.phase with
  | .opened => Private s writer ∧ ∀ file ∈ s.directories.inbox, file.name ≠ writer.temporaryName
  | .created => Private s writer ∧ ∃ file ∈ s.directories.inbox, file.name = writer.temporaryName
  | .written => Private s writer ∧ ∃ file ∈ s.directories.inbox, file.name = writer.temporaryName
  | .renamed => Waiting s writer ∨ InHand s writer ∨ Handled s writer
  | .failed => False
  | .crashed => False

/-- The invariant of calm runs. -/
structure Watched (receipts : List ControlReceipt) (hostHash : String) (s : ControlSystem) :
    Prop where
  disciplined : Disciplined receipts s
  hosts : ∀ writer ∈ s.writers, writer.request.hostHash = hostHash
  ids : (s.writers.map (·.request.requestId)).Nodup
  temporaries : (s.writers.map (·.temporary)).Nodup
  distinct : ∀ request ∈ s.consumer.held, .request request.requestId ∉ s.consumer.doomed
  present : ∀ name ∈ s.consumer.concerns, (∃ file ∈ s.directories.inbox, file.name = name) ∨
    ∃ writer ∈ s.writers, name = writer.temporaryName
  answered : ∀ request, .invoked request ∈ s.trace →
    .request request.requestId ∈ s.directories.receipts.map (·.receiptId) ∨
    ∃ other written rest, s.consumer = .completing other written rest ∧
      other.requestId = request.requestId
  writers : ∀ writer ∈ s.writers, Tracked s writer

/-! ## Steps of the consumer -/

section Consumes

variable {hostHash : String} {receipts : List ControlReceipt} {s s' : ControlSystem}

/-- The file is the next one that the consumer loads. -/
def Loads (s : ControlSystem) (file : InboxFile) : Prop :=
  file ∈ s.directories.inbox ∧
    ∃ time entries pending, s.consumer = .sifting time (file.name :: entries) pending

/-- What a step of the consumer leaves as it is: it removes and answers only the file that is
doomed, it takes up only the file that it loads, and it handles only what it holds. -/
structure Moves (s s' : ControlSystem) : Prop where
  writers : s'.writers = s.writers
  inbox : ∀ file ∈ s'.directories.inbox, file ∈ s.directories.inbox
  removed : ∀ file ∈ s.directories.inbox, file.name ∉ s.consumer.doomed →
    file ∈ s'.directories.inbox
  receipts : ∀ id, .request id ∉ s.consumer.doomed →
    .request id ∉ s.directories.receipts.map (·.receiptId) →
    .request id ∉ s'.directories.receipts.map (·.receiptId)
  concerns : ∀ name ∈ s'.consumer.concerns, name ∈ s.consumer.concerns ∨
    ∃ file, Loads s file ∧ file.name = name
  invocations : ∀ id, (∀ request ∈ s.consumer.held, request.requestId ≠ id) →
    invocations id s'.trace = invocations id s.trace

variable (id : RequestId) (trace : List ControlEvent)

include id trace

@[simp] lemma invocations_invoked (request : ControlRequest) :
    invocations id (trace ++ [.invoked request]) =
      invocations id trace + if request.requestId = id then 1 else 0 := by
  unfold invocations
  rw [List.countP_append, List.countP_singleton]
  simp

@[simp] lemma invocations_recorded (written : ControlReceipt) (directories : ControlDirectories) :
    invocations id (trace ++ recorded written directories) = invocations id trace := by
  unfold invocations recorded
  split <;> simp

@[simp] lemma invocations_started :
    invocations id (trace ++ [.started]) = invocations id trace := by
  simp [invocations]

@[simp] lemma invocations_returned :
    invocations id (trace ++ [.returned]) = invocations id trace := by
  simp [invocations]

@[simp] lemma invocations_raised :
    invocations id (trace ++ [.raised]) = invocations id trace := by
  simp [invocations]

omit id trace

variable {written : ControlReceipt} {request : ControlRequest} {writer : Writer}

variable {consumer : Consumer} {rest : List ControlRequest}

lemma Consumer.doomed_subset {name : ControlFileName} (h : name ∈ consumer.doomed) :
    name ∈ consumer.concerns := List.mem_append_left _ h

lemma Consumer.held_subset (h : request ∈ consumer.held) :
    .request request.requestId ∈ consumer.concerns :=
  List.mem_append_right _ (List.mem_map_of_mem h)

/-- The file that the consumer is about to unlink it was about to unlink before, or it has loaded
the file and does not take up its request, or it handles its request. -/
lemma doomed_of_consumes (hstep : Consumes hostHash s s') {name : ControlFileName}
    (hname : name ∈ s'.consumer.doomed) : name ∈ s.consumer.doomed ∨
    (∃ time file entries pending, s.consumer = .sifting time (file.name :: entries) pending ∧
      file ∈ s.directories.inbox ∧ file.name = name ∧ ∀ request,
        load hostHash time file = .ok request →
          receipt s.directories (.request request.requestId) ≠ none) ∨
    ∃ request rest, s.consumer = .executing (request :: rest) ∧
      .request request.requestId = name := by
  cases hstep with
  | refuse _ hconsumer hfile hload =>
    refine .inr (.inl ⟨_, _, _, _, hconsumer, hfile, (List.mem_singleton.mp hname).symm, ?_⟩)
    exact fun request hok => by cases hload.symm.trans hok
  | answered hconsumer hfile hload hreceipt | collide _ hconsumer hfile hload hreceipt =>
    refine .inr (.inl ⟨_, _, _, _, hconsumer, hfile, (List.mem_singleton.mp hname).symm, ?_⟩)
    intro request hok hnone
    cases hload.symm.trans hok
    cases hreceipt.symm.trans hnone
  | reject hconsumer | complete hconsumer =>
    rw [hconsumer]
    exact .inl hname
  | invoke _ _ hconsumer =>
    exact .inr (.inr ⟨_, _, hconsumer, (List.mem_singleton.mp hname).symm⟩)
  | _ => cases hname

/-- What the consumer holds after a step it held before, or it has loaded it and there is no
receipt. -/
lemma held_of_consumes (hstep : Consumes hostHash s s') (hrequest : request ∈ s'.consumer.held) :
    request ∈ s.consumer.held ∨
      receipt s.directories (.request request.requestId) = none ∧ ∃ time file entries pending,
        s.consumer = .sifting time (file.name :: entries) pending ∧
        file ∈ s.directories.inbox ∧ load hostHash time file = .ok request := by
  cases hstep with
  | start | list | rejectFails | completeFails | finish => cases hrequest
  | skip hconsumer | refuse _ hconsumer | answered hconsumer | collide _ hconsumer
  | reject hconsumer | remove hconsumer | complete hconsumer | clear hconsumer =>
    rw [hconsumer]
    exact .inl hrequest
  | accept hconsumer hfile hload hreceipt =>
    rcases List.mem_snoc.mp hrequest with hrequest | rfl
    · rw [hconsumer]
      exact .inl hrequest
    · exact .inr ⟨hreceipt, _, _, _, _, hconsumer, hfile, hload⟩
  | sort hconsumer =>
    rw [hconsumer]
    exact .inl ((List.mem_insertionSort _).mp hrequest)
  | invoke _ _ hconsumer =>
    rw [hconsumer]
    exact .inl (List.mem_cons_of_mem _ hrequest)

/-- The handler is called with the first request of those that are sorted. -/
lemma invocations_of_consumes (hstep : Consumes hostHash s s') {id : RequestId}
    (hother : ∀ request rest, s.consumer = .executing (request :: rest) →
      request.requestId ≠ id) : invocations id s'.trace = invocations id s.trace := by
  cases hstep with
  | invoke _ _ hconsumer =>
    rw [invocations_invoked, if_neg (hother _ _ hconsumer), Nat.add_zero]
  | start | rejectFails | completeFails | finish | reject | complete => simp
  | _ => rfl

lemma inbox_of_record {directories directories' : ControlDirectories}
    (h : record written directories = some directories') :
    directories'.inbox = directories.inbox := by
  rcases record_cases h with ⟨-, rfl⟩ | ⟨-, rfl⟩ <;> rfl

/-- Every step of the consumer is such a move. -/
lemma moves_of_consumes (hown : s.consumer.WritesOwn) (hstep : Consumes hostHash s s') :
    Moves s s' where
  writers := by cases hstep <;> rfl
  inbox file hfile := by
    cases hstep with
    | reject _ hrecord | complete _ hrecord => exact inbox_of_record hrecord ▸ hfile
    | remove | clear => exact List.mem_of_mem_filter hfile
    | _ => exact hfile
  removed file hfile hkept := by
    cases hstep with
    | reject _ hrecord | complete _ hrecord => exact (inbox_of_record hrecord).symm ▸ hfile
    | remove hconsumer | clear hconsumer =>
      rw [hconsumer] at hkept
      refine List.mem_filter.mpr ⟨hfile, decide_eq_true fun hname => ?_⟩
      exact hkept (List.mem_singleton.mpr hname)
    | _ => exact hfile
  receipts id hkept hnew := by
    have hrecord : ∀ {written directories}, record written s.directories = some directories →
        written.receiptId ≠ .request id →
        .request id ∉ directories.receipts.map (·.receiptId) := by
      intro written directories hrecord hother
      rcases record_cases hrecord with ⟨-, rfl⟩ | ⟨-, rfl⟩
      · rw [List.map_append, List.mem_append, not_or]
        exact ⟨hnew, fun hid => hother (List.mem_singleton.mp hid).symm⟩
      · exact hnew
    cases hstep with
    | reject hconsumer hwrite =>
      rw [hconsumer] at hown hkept
      exact hrecord hwrite fun hid => hkept (List.mem_singleton.mpr (hown id hid).symm)
    | complete hconsumer hwrite =>
      rw [hconsumer] at hown hkept
      refine hrecord hwrite fun hid => hkept (List.mem_singleton.mpr ?_)
      exact congrArg _ (ReceiptId.request.inj (hid.symm.trans hown.1))
    | _ => exact hnew
  concerns name hname := by
    rcases List.mem_append.mp hname with hname | hname
    · rcases doomed_of_consumes hstep hname with hname | ⟨time, file, entries, pending, hconsumer,
        hfile, hname, -⟩ | ⟨request, rest, hconsumer, rfl⟩
      · exact .inl (Consumer.doomed_subset hname)
      · exact .inr ⟨file, ⟨hfile, time, entries, pending, hconsumer⟩, hname⟩
      · refine .inl (Consumer.held_subset ?_)
        rw [hconsumer]
        exact List.mem_cons_self
    · obtain ⟨request, hrequest, rfl⟩ := List.mem_map.mp hname
      rcases held_of_consumes hstep hrequest with hrequest | ⟨-, time, file, entries, pending,
        hconsumer, hfile, hload⟩
      · exact .inl (Consumer.held_subset hrequest)
      · exact .inr ⟨file, ⟨hfile, time, entries, pending, hconsumer⟩, (file_of_load hload).1⟩
  invocations id hid := by
    refine invocations_of_consumes hstep fun request rest hconsumer => hid request ?_
    rw [hconsumer]
    exact List.mem_cons_self

lemma Private.moves (h : Private s writer) (hmoves : Moves s s')
    (hcalm : ∀ file, Loads s file → file.name ≠ writer.temporaryName) : Private s' writer where
  receipt := hmoves.receipts _ (fun hdoomed => h.unknown (Consumer.doomed_subset hdoomed)) h.receipt
  target file hfile := h.target file (hmoves.inbox file hfile)
  unknown hname := by
    rcases hmoves.concerns _ hname with hname | ⟨file, hloads, hname⟩
    · exact h.unknown hname
    · exact h.target file hloads.1 hname
  untouched hname := by
    rcases hmoves.concerns _ hname with hname | ⟨file, hloads, hname⟩
    · exact h.untouched hname
    · exact hcalm file hloads hname
  unhandled := by
    rw [hmoves.invocations _ fun request hheld hid => h.unknown ?_]
    · exact h.unhandled
    · rw [Writer.targetName, ← hid]
      exact Consumer.held_subset hheld

/-- The file of a request that is in place is loaded as this request. -/
lemma Waiting.load {time : DateTime} {file : InboxFile} {entries : List ControlFileName}
    {pending : List ControlRequest} (h : Waiting s writer)
    (hnames : (s.directories.inbox.map (·.name)).Nodup) (hcalm : Calm s)
    (hwriter : writer ∈ s.writers) (hhost : writer.request.hostHash = hostHash)
    (hconsumer : s.consumer = .sifting time (file.name :: entries) pending)
    (hfile : file ∈ s.directories.inbox) (hname : file.name = writer.targetName) :
    load hostHash time file = .ok writer.request := by
  obtain ⟨hcreated, hexpires⟩ := (hcalm _ _ _ file hfile hconsumer writer hwriter).2 hname
  rw [List.inj_on_of_nodup_map hnames hfile h.file hname]
  exact load_of_valid hhost hcreated hexpires

/-- A request in place that the consumer neither dooms nor handles in this step. -/
lemma Waiting.moves (h : Waiting s writer) (hmoves : Moves s s')
    (hkept : writer.targetName ∉ s'.consumer.doomed)
    (hheld : ∀ request ∈ s'.consumer.held, request.requestId = writer.request.requestId →
      request = writer.request) (htrace : invocations writer.request.requestId s'.trace =
      invocations writer.request.requestId s.trace) : Waiting s' writer where
  file := hmoves.removed _ h.file h.kept
  receipt := hmoves.receipts _ h.kept h.receipt
  kept := hkept
  held := hheld
  unhandled := htrace.trans h.unhandled

lemma Waiting.consumes (h : Waiting s writer) (hdisciplined : Disciplined receipts s)
    (hcalm : Calm s) (hwriter : writer ∈ s.writers) (hhost : writer.request.hostHash = hostHash)
    (hstep : Consumes hostHash s s') : Waiting s' writer ∨ InHand s' writer := by
  have hload : ∀ {time : DateTime} {file : InboxFile} {entries : List ControlFileName}
      {pending : List ControlRequest},
      s.consumer = .sifting time (file.name :: entries) pending → file ∈ s.directories.inbox →
      file.name = writer.targetName →
      ControlInbox.load hostHash time file = .ok writer.request :=
    fun hconsumer hfile => h.load hdisciplined.names hcalm hwriter hhost hconsumer hfile
  by_cases hturn : ∃ request rest, s.consumer = .executing (request :: rest) ∧
      request.requestId = writer.request.requestId
  · obtain ⟨request, rest, hconsumer, hid⟩ := hturn
    have hheld := h.held request
    rw [hconsumer] at hheld
    obtain rfl := hheld List.mem_cons_self hid
    cases hstep with
    | invoke outcome processedAt hinvokes =>
      cases hconsumer.symm.trans hinvokes
      refine .inr ⟨h.file, h.receipt, ⟨outcome, processedAt, rest, rfl⟩, ?_⟩
      rw [invocations_invoked, if_pos rfl, h.unhandled]
    | start _ hidle | list hidle | skip hidle | refuse _ hidle | accept hidle | answered hidle
    | collide _ hidle | reject hidle | rejectFails hidle | remove hidle | sort hidle
    | complete hidle | completeFails hidle | clear hidle
    | finish hidle => cases hconsumer.symm.trans hidle
  · have hother : ∀ request rest, s.consumer = .executing (request :: rest) →
        request.requestId ≠ writer.request.requestId :=
      fun request rest hconsumer hid => hturn ⟨request, rest, hconsumer, hid⟩
    refine .inl (h.moves (moves_of_consumes hdisciplined.fit.writesOwn hstep) ?_ ?_
      (invocations_of_consumes hstep hother))
    · intro hname
      rcases doomed_of_consumes hstep hname with hname | ⟨time, file, entries, pending, hconsumer,
        hfile, hname, hanswered⟩ | ⟨request, rest, hconsumer, hname⟩
      · exact h.kept hname
      · exact hanswered _ (hload hconsumer hfile hname) (receipt_eq_none.mpr h.receipt)
      · exact hother request rest hconsumer (ControlFileName.request.inj hname)
    · intro request hrequest hid
      rcases held_of_consumes hstep hrequest with hrequest | ⟨-, time, file, entries, pending,
        hconsumer, hfile, haccepted⟩
      · exact h.held request hrequest hid
      · have hname : file.name = writer.targetName := by
          rw [(file_of_load haccepted).1, hid]
          rfl
        exact Except.ok.inj (haccepted.symm.trans (hload hconsumer hfile hname))

/-- After the handler has returned, the receipt is written or this fails. -/
lemma consumes_completing (hcompleting : s.consumer = .completing request written rest)
    (hstep : Consumes hostHash s s') :
    (∃ directories, record written s.directories = some directories ∧ s' = { s with
      directories := directories
      consumer := .clearing request rest
      trace := s.trace ++ recorded written s.directories }) ∨
    (record written s.directories = none ∧ s' = { s with
      consumer := .idle
      trace := s.trace ++ [.raised] }) := by
  cases hstep with
  | complete hconsumer hrecord =>
    cases hcompleting.symm.trans hconsumer
    exact .inl ⟨_, hrecord, rfl⟩
  | completeFails hconsumer hrecord =>
    cases hcompleting.symm.trans hconsumer
    exact .inr ⟨hrecord, rfl⟩
  | start _ hconsumer | list hconsumer | skip hconsumer | refuse _ hconsumer | accept hconsumer
  | answered hconsumer | collide _ hconsumer | reject hconsumer | rejectFails hconsumer
  | remove hconsumer | sort hconsumer | invoke _ _ hconsumer | clear hconsumer
  | finish hconsumer => cases hcompleting.symm.trans hconsumer

/-- Then there is a receipt under the id of the request. -/
lemma receipted_of_completing (hcompleting : s.consumer = .completing request written rest)
    (hstep : Consumes hostHash s s') :
    written.receiptId ∈ s'.directories.receipts.map (·.receiptId) := by
  rcases consumes_completing hcompleting hstep with ⟨directories, hrecord, rfl⟩ | ⟨hrecord, rfl⟩
  · refine List.mem_map.mpr ⟨written, ?_, rfl⟩
    rcases record_cases hrecord with ⟨-, rfl⟩ | ⟨hsome, rfl⟩
    · exact List.mem_append_right _ (List.mem_singleton_self _)
    · exact List.mem_of_find?_eq_some hsome
  · by_contra hnone
    unfold record at hrecord
    rw [receipt_eq_none.mpr hnone] at hrecord
    cases hrecord

lemma InHand.consumes (h : InHand s writer) (hown : s.consumer.WritesOwn)
    (hstep : Consumes hostHash s s') : Handled s' writer := by
  obtain ⟨outcome, processedAt, rest, hcompleting⟩ := h.consumer
  have hnone : ControlInbox.receipt s.directories
      (completion writer.request outcome processedAt).receiptId = none :=
    receipt_eq_none.mpr h.receipt
  rcases consumes_completing hcompleting hstep with ⟨directories, hrecord, rfl⟩ | ⟨hrecord, rfl⟩
  · rw [hcompleting] at hown
    have hdirectories : directories.receipts =
        s.directories.receipts ++ [completion writer.request outcome processedAt] := by
      rcases record_cases hrecord with ⟨-, rfl⟩ | ⟨hsome, -⟩
      · rfl
      · cases hnone.symm.trans hsome
    refine ⟨⟨outcome, processedAt, ?_⟩, ?_, ?_⟩
    · dsimp only
      rw [hdirectories]
      exact List.mem_append_right _ (List.mem_singleton_self _)
    · intro request hheld hid
      exact hown.2 (hid ▸ List.mem_map_of_mem hheld)
    · rw [invocations_recorded]
      exact h.handled
  · unfold record at hrecord
    rw [hnone] at hrecord
    cases hrecord

lemma Handled.consumes (h : Handled s writer) (hown : s.consumer.WritesOwn)
    (hstep : Consumes hostHash s s') : Handled s' writer := by
  obtain ⟨outcome, processedAt, hreceipt⟩ := h.receipt
  have hmoves := moves_of_consumes hown hstep
  refine ⟨⟨outcome, processedAt, ?_⟩, ?_, ?_⟩
  · exact (receipts_step (.consumes hstep)).subset hreceipt
  · intro request hheld hid
    rcases held_of_consumes hstep hheld with hheld | ⟨hnone, -⟩
    · exact h.released request hheld hid
    · rw [hid] at hnone
      exact receipt_eq_none.mp hnone (List.mem_map_of_mem hreceipt)
  · rw [hmoves.invocations _ h.released]
    exact h.handled

lemma Tracked.consumes (h : Tracked s writer) (hdisciplined : Disciplined receipts s)
    (hcalm : Calm s) (hwriter : writer ∈ s.writers) (hhost : writer.request.hostHash = hostHash)
    (hstep : Consumes hostHash s s') :
    Tracked s' writer := by
  have hown := hdisciplined.fit.writesOwn
  have hmoves := moves_of_consumes hown hstep
  have hloads : ∀ file, Loads s file → file.name ≠ writer.temporaryName := by
    rintro file ⟨hfile, time, entries, pending, hconsumer⟩
    exact (hcalm time entries pending file hfile hconsumer writer hwriter).1
  -- The temporary file is not doomed, so that it stays.
  have hstays : Private s writer →
      (∃ file ∈ s.directories.inbox, file.name = writer.temporaryName) →
      ∃ file ∈ s'.directories.inbox, file.name = writer.temporaryName := by
    rintro hprivate ⟨file, hfile, hname⟩
    refine ⟨file, hmoves.removed file hfile fun hdoomed => hprivate.untouched ?_, hname⟩
    exact Consumer.doomed_subset (hname ▸ hdoomed)
  unfold Tracked at h ⊢
  cases hphase : writer.phase with
  | opened =>
    rw [hphase] at h
    exact ⟨h.1.moves hmoves hloads, fun file hfile => h.2 file (hmoves.inbox file hfile)⟩
  | created | written =>
    rw [hphase] at h
    exact ⟨h.1.moves hmoves hloads, hstays h.1 h.2⟩
  | renamed =>
    rw [hphase] at h
    rcases h with h | h | h
    · rcases h.consumes hdisciplined hcalm hwriter hhost hstep with h | h
      · exact .inl h
      · exact .inr (.inl h)
    all_goals exact .inr (.inr (h.consumes hown hstep))
  | failed | crashed =>
    rw [hphase] at h
    exact h

/-- The consumer does not hold the request that is doomed. -/
lemma distinct_of_consumes (hfit : Fit receipts s.consumer)
    (h : ∀ request ∈ s.consumer.held, .request request.requestId ∉ s.consumer.doomed)
    (hstep : Consumes hostHash s s') :
    ∀ request ∈ s'.consumer.held, .request request.requestId ∉ s'.consumer.doomed := by
  have hhead : ∀ {time name entries pending}, s.consumer = .sifting time (name :: entries) pending →
      ∀ request ∈ pending, ControlFileName.request request.requestId ∉ [name] := by
    intro time name entries pending hconsumer request hmem hname
    rw [hconsumer] at hfit
    exact hfit.apart request hmem (List.mem_cons.mpr (.inl (List.mem_singleton.mp hname)))
  cases hstep with
  | refuse _ hconsumer | answered hconsumer | collide _ hconsumer => exact hhead hconsumer
  | reject hconsumer | complete hconsumer =>
    rw [hconsumer] at h
    exact h
  | invoke _ _ hconsumer =>
    rw [hconsumer] at hfit
    have hnodup := hfit.held_nodup
    rw [Consumer.held, List.map_cons, List.nodup_cons] at hnodup
    intro request hmem hname
    have hid := ControlFileName.request.inj (List.mem_singleton.mp hname)
    exact hnodup.1 (hid ▸ List.mem_map_of_mem hmem)
  | _ => exact fun request _ hname => by cases hname

/-- The file of a request that the consumer holds is there. -/
lemma present_of_consumes (hown : s.consumer.WritesOwn)
    (hdistinct : ∀ request ∈ s.consumer.held, .request request.requestId ∉ s.consumer.doomed)
    (h : ∀ name ∈ s.consumer.concerns, (∃ file ∈ s.directories.inbox, file.name = name) ∨
      ∃ writer ∈ s.writers, name = writer.temporaryName)
    (hstep : Consumes hostHash s s') :
    ∀ name ∈ s'.consumer.concerns, (∃ file ∈ s'.directories.inbox, file.name = name) ∨
      ∃ writer ∈ s'.writers, name = writer.temporaryName := by
  have hmoves := moves_of_consumes hown hstep
  intro name hname
  have hbefore : (∃ file ∈ s.directories.inbox, file.name = name) ∨
      ∃ writer ∈ s.writers, name = writer.temporaryName := by
    rcases hmoves.concerns name hname with hname | ⟨file, hloads, hfile⟩
    · exact h name hname
    · exact .inl ⟨file, hloads.1, hfile⟩
  rcases hbefore with ⟨file, hfile, rfl⟩ | hwriter
  · refine .inl ⟨file, ?_, rfl⟩
    -- Only two steps unlink a file, and then it is not held.
    cases hstep with
    | reject _ hrecord | complete _ hrecord =>
      rcases record_cases hrecord with ⟨-, rfl⟩ | ⟨-, rfl⟩ <;> exact hfile
    | remove hconsumer | clear hconsumer =>
      rw [hconsumer] at hdistinct
      obtain ⟨request, hrequest, hid⟩ := List.mem_map.mp hname
      refine hmoves.removed file hfile ?_
      rw [hconsumer, ← hid]
      exact hdistinct request hrequest
    | _ => exact hfile
  · rw [hmoves.writers]
    exact .inr hwriter

/-- The handler is called only in the step that takes the request in hand. -/
lemma invoked_of_consumes (hstep : Consumes hostHash s s') {request : ControlRequest}
    (hinvoked : .invoked request ∈ s'.trace) : .invoked request ∈ s.trace ∨
      ∃ written rest, s'.consumer = .completing request written rest := by
  have hrecorded : ∀ written directories,
      .invoked request ∈ s.trace ++ recorded written directories → .invoked request ∈ s.trace := by
    intro written directories hmem
    rcases List.mem_append.mp hmem with hmem | hmem
    · exact hmem
    · unfold recorded at hmem
      split at hmem <;> simp at hmem
  cases hstep with
  | invoke =>
    rcases List.mem_snoc.mp hinvoked with hinvoked | hinvoked
    · exact .inl hinvoked
    · cases hinvoked
      exact .inr ⟨_, _, rfl⟩
  | reject | complete => exact .inl (hrecorded _ _ hinvoked)
  | _ => exact .inl (by simpa using hinvoked)

/-- Every request that was handled has a receipt or is in hand. -/
lemma answered_of_consumes (hown : s.consumer.WritesOwn)
    (h : ∀ request, .invoked request ∈ s.trace →
      .request request.requestId ∈ s.directories.receipts.map (·.receiptId) ∨
      ∃ other written rest, s.consumer = .completing other written rest ∧
        other.requestId = request.requestId)
    (hstep : Consumes hostHash s s') : ∀ request, .invoked request ∈ s'.trace →
      .request request.requestId ∈ s'.directories.receipts.map (·.receiptId) ∨
      ∃ other written rest, s'.consumer = .completing other written rest ∧
        other.requestId = request.requestId := by
  intro request hinvoked
  rcases invoked_of_consumes hstep hinvoked with hinvoked | ⟨written, rest, hcompleting⟩
  · rcases h request hinvoked with hreceipt | ⟨other, written, rest, hcompleting, hid⟩
    · exact .inl (((receipts_step (.consumes hstep)).map _).subset hreceipt)
    · have hreceipt := receipted_of_completing hcompleting hstep
      rw [hcompleting] at hown
      rw [hown.1, hid] at hreceipt
      exact .inl hreceipt
  · exact .inr ⟨request, written, rest, hcompleting, rfl⟩

lemma Watched.consumes (h : Watched receipts hostHash s) (hcalm : Calm s)
    (hstep : Consumes hostHash s s') : Watched receipts hostHash s' := by
  have hfit := h.disciplined.fit
  have hmoves := moves_of_consumes hfit.writesOwn hstep
  refine ⟨h.disciplined.consumes hstep, ?_, ?_, ?_, distinct_of_consumes hfit h.distinct hstep,
    present_of_consumes hfit.writesOwn h.distinct h.present hstep,
    answered_of_consumes hfit.writesOwn h.answered hstep, ?_⟩
  · rw [hmoves.writers]
    exact h.hosts
  · rw [hmoves.writers]
    exact h.ids
  · rw [hmoves.writers]
    exact h.temporaries
  · rw [hmoves.writers]
    exact fun writer hwriter => (h.writers writer hwriter).consumes h.disciplined hcalm hwriter
      (h.hosts writer hwriter) hstep

end Consumes

/-! ## Steps of the other calls -/

section Enqueues

variable {hostHash : String} {receipts : List ControlReceipt} {s s' : ControlSystem}

/-- The two systems differ in files of one call of `enqueue` only. -/
structure Beside (writer : Writer) (s s' : ControlSystem) : Prop where
  receipts : s'.directories.receipts = s.directories.receipts
  consumer : s'.consumer = s.consumer
  trace : s'.trace = s.trace
  inbox : ∀ file, file.name ≠ writer.temporaryName → file.name ≠ writer.targetName →
    (file ∈ s'.directories.inbox ↔ file ∈ s.directories.inbox)

variable {writer : Writer} {name : ControlFileName} {directories : ControlDirectories}
  {file : InboxFile}

/-- Nobody learns of a request by a change of files that are not the request's. -/
lemma Private.beside (phase : WriterPhase) (h : Private s writer)
    (hreceipts : s'.directories.receipts = s.directories.receipts)
    (hconsumer : s'.consumer = s.consumer) (htrace : s'.trace = s.trace)
    (htarget : ∀ file ∈ s'.directories.inbox, file.name = writer.targetName →
      file ∈ s.directories.inbox) : Private s' { writer with phase := phase } where
  receipt := hreceipts ▸ h.receipt
  target file hfile hname := h.target file (htarget file hfile hname) hname
  unknown := hconsumer ▸ h.unknown
  untouched := hconsumer ▸ h.untouched
  unhandled := htrace ▸ h.unhandled

variable {other : Writer} {first last : List Writer} {content : FileContent}

/-- Where the request of one call is does not depend on the files of another one. -/
lemma Tracked.beside (h : Tracked s other) (hbeside : Beside writer s s')
    (hid : other.request.requestId ≠ writer.request.requestId)
    (htemporary : other.temporary ≠ writer.temporary) : Tracked s' other := by
  obtain ⟨hreceipts, hconsumer, htrace, hinbox⟩ := hbeside
  have htarget : ∀ file, file.name = other.targetName →
      (file ∈ s'.directories.inbox ↔ file ∈ s.directories.inbox) := by
    intro file hname
    refine hinbox file ?_ ?_ <;> rw [hname]
    · exact nofun
    · exact fun heq => hid (ControlFileName.request.inj heq)
  have htemporary : ∀ file, file.name = other.temporaryName →
      (file ∈ s'.directories.inbox ↔ file ∈ s.directories.inbox) := by
    intro file hname
    refine hinbox file ?_ ?_ <;> rw [hname]
    · exact fun heq => htemporary (ControlFileName.other.inj heq)
    · exact nofun
  have hprivate : Private s other → Private s' other := fun hprivate =>
    hprivate.beside other.phase hreceipts hconsumer htrace fun file hfile hname =>
      (htarget file hname).mp hfile
  have hexists : (∃ file ∈ s.directories.inbox, file.name = other.temporaryName) →
      ∃ file ∈ s'.directories.inbox, file.name = other.temporaryName := by
    rintro ⟨file, hfile, hname⟩
    exact ⟨file, (htemporary file hname).mpr hfile, hname⟩
  unfold Tracked at h ⊢
  cases hphase : other.phase with
  | opened =>
    rw [hphase] at h
    refine ⟨hprivate h.1, fun file hfile hname => ?_⟩
    exact h.2 file ((htemporary file hname).mp hfile) hname
  | created | written =>
    rw [hphase] at h
    exact ⟨hprivate h.1, hexists h.2⟩
  | renamed =>
    rw [hphase] at h
    rcases h with h | h | h
    · exact .inl ⟨(htarget _ rfl).mpr h.file, hreceipts ▸ h.receipt, hconsumer ▸ h.kept,
        hconsumer ▸ h.held, htrace ▸ h.unhandled⟩
    · exact .inr (.inl ⟨(htarget _ rfl).mpr h.file, hreceipts ▸ h.receipt,
        hconsumer ▸ h.consumer, htrace ▸ h.handled⟩)
    · exact .inr (.inr ⟨hreceipts ▸ h.receipt, hconsumer ▸ h.released, htrace ▸ h.handled⟩)
  | failed | crashed =>
    rw [hphase] at h
    exact h

/-- What is different for each of the calls is different for this one and the others. -/
lemma apart_of_nodup {β : Type} {f : Writer → β} (hnodup : ((first ++ writer :: last).map f).Nodup)
    (hother : other ∈ first ++ last) :
    f other ≠ f writer := by
  rw [List.map_append, List.map_cons, List.nodup_middle, ← List.map_append,
    List.nodup_cons] at hnodup
  intro heq
  exact hnodup.1 (heq ▸ List.mem_map_of_mem hother)

/-- A call of `enqueue` that is on its way takes a step. -/
lemma Watched.advance (phase : WriterPhase) (h : Watched receipts hostHash s)
    (hdisciplined : Disciplined receipts s') (hwriters : s.writers = first ++ writer :: last)
    (hwriters' : s'.writers = first ++ { writer with phase := phase } :: last)
    (hbeside : Beside writer s s')
    (htarget : (∃ file ∈ s.directories.inbox, file.name = writer.targetName) →
      ∃ file ∈ s'.directories.inbox, file.name = writer.targetName)
    (hown : Tracked s' { writer with phase := phase }) : Watched receipts hostHash s' := by
  have hids := h.ids
  have htemporaries := h.temporaries
  have hhosts := h.hosts
  rw [hwriters] at hids htemporaries hhosts
  have hothers : ∀ other ∈ first ++ last, other ∈ s.writers := by
    intro other hother
    rw [hwriters]
    exact List.perm_middle.mem_iff.mpr (List.mem_cons_of_mem _ hother)
  have hcases : ∀ other ∈ s'.writers,
      other = { writer with phase := phase } ∨ other ∈ first ++ last := by
    intro other hother
    rw [hwriters'] at hother
    exact List.mem_cons.mp (List.perm_middle.mem_iff.mp hother)
  have htemporary : ∀ name, (∃ other ∈ s.writers, name = other.temporaryName) →
      ∃ other ∈ s'.writers, name = other.temporaryName := by
    rintro name ⟨other, hother, hname⟩
    rw [hwriters] at hother
    rw [hwriters']
    rcases List.mem_cons.mp (List.perm_middle.mem_iff.mp hother) with rfl | hother
    · exact ⟨_, List.perm_middle.mem_iff.mpr List.mem_cons_self, hname⟩
    · exact ⟨other, List.perm_middle.mem_iff.mpr (List.mem_cons_of_mem _ hother), hname⟩
  refine ⟨hdisciplined, ?_, ?_, ?_, ?_, ?_, ?_, ?_⟩
  · intro other hother
    rcases hcases other hother with rfl | hother
    · exact hhosts writer (List.mem_append_right _ List.mem_cons_self)
    · exact h.hosts other (hothers other hother)
  · rw [hwriters', List.map_append, List.map_cons]
    rw [List.map_append, List.map_cons] at hids
    exact hids
  · rw [hwriters', List.map_append, List.map_cons]
    rw [List.map_append, List.map_cons] at htemporaries
    exact htemporaries
  · rw [hbeside.consumer]
    exact h.distinct
  · rw [hbeside.consumer]
    intro name hname
    rcases h.present name hname with ⟨file, hfile, rfl⟩ | hwriter
    · by_cases htemp : file.name = writer.temporaryName
      · refine .inr (htemporary _ ⟨writer, ?_, htemp⟩)
        rw [hwriters]
        exact List.mem_append_right _ List.mem_cons_self
      · by_cases htarg : file.name = writer.targetName
        · rw [htarg]
          exact .inl (htarget ⟨file, hfile, htarg⟩)
        · exact .inl ⟨file, (hbeside.inbox file htemp htarg).mpr hfile, rfl⟩
    · exact .inr (htemporary name hwriter)
  · rw [hbeside.consumer, hbeside.receipts, hbeside.trace]
    exact h.answered
  · intro other hother
    rcases hcases other hother with rfl | hother
    · exact hown
    · exact (h.writers other (hothers other hother)).beside hbeside
        (apart_of_nodup hids hother) (apart_of_nodup htemporaries hother)

/-- A new call is watched, as its names are new. -/
lemma Watched.begin {request : ControlRequest} {temporary : String}
    (h : Watched receipts hostHash s) (hdisciplined : Disciplined receipts s')
    (hhost : request.hostHash = hostHash)
    (hfresh : ∀ writer ∈ s.writers, writer.request.requestId ≠ request.requestId ∧
      writer.temporary ≠ temporary)
    (hreceipt : receipt s.directories (.request request.requestId) = none)
    (hfile : ∀ file ∈ s.directories.inbox, file.name ≠ .request request.requestId ∧
      file.name ≠ .other temporary)
    (hs' : s' = { s with
      writers := s.writers ++ [⟨request, temporary, .opened⟩]
      clock := request.createdAt }) : Watched receipts hostHash s' := by
  subst hs'
  have hunknown : .request request.requestId ∉ s.consumer.concerns := by
    intro hname
    rcases h.present _ hname with ⟨file, hmem, hname⟩ | ⟨writer, _, hname⟩
    · exact (hfile file hmem).1 hname
    · cases hname
  have huntouched : .other temporary ∉ s.consumer.concerns := by
    intro hname
    rcases h.present _ hname with ⟨file, hmem, hname⟩ | ⟨writer, hwriter, hname⟩
    · exact (hfile file hmem).2 hname
    · exact (hfresh writer hwriter).2 (ControlFileName.other.inj hname).symm
  have hunhandled : invocations request.requestId s.trace = 0 := by
    refine List.countP_eq_zero.mpr fun event hevent hcounted => ?_
    cases event with
    | invoked other =>
      have hid : other.requestId = request.requestId := of_decide_eq_true hcounted
      rcases h.answered other hevent with hanswered | ⟨head, written, rest, hcompleting, hhead⟩
      · rw [hid] at hanswered
        exact receipt_eq_none.mp hreceipt hanswered
      · refine hunknown (Consumer.doomed_subset ?_)
        rw [hcompleting, Consumer.doomed, hhead, hid]
        exact List.mem_singleton_self _
    | _ => cases hcounted
  refine ⟨hdisciplined, ?_, ?_, ?_, h.distinct, ?_, h.answered, ?_⟩
  · intro other hother
    rcases List.mem_snoc.mp hother with hother | rfl
    · exact h.hosts other hother
    · exact hhost
  · exact List.nodup_map_snoc.mpr ⟨h.ids, fun other hother => (hfresh other hother).1⟩
  · exact List.nodup_map_snoc.mpr ⟨h.temporaries, fun other hother => (hfresh other hother).2⟩
  · intro name hname
    rcases h.present name hname with hfile | ⟨writer, hwriter, hname⟩
    · exact .inl hfile
    · exact .inr ⟨writer, List.mem_append_left _ hwriter, hname⟩
  · intro other hother
    rcases List.mem_snoc.mp hother with hother | rfl
    · have hbeside : Beside ⟨request, temporary, .opened⟩ s { s with
          writers := s.writers ++ [⟨request, temporary, .opened⟩]
          clock := request.createdAt } := ⟨rfl, rfl, rfl, fun _ _ _ => Iff.rfl⟩
      exact (h.writers other hother).beside hbeside (hfresh other hother).1 (hfresh other hother).2
    · exact ⟨⟨receipt_eq_none.mp hreceipt, fun file hmem => (hfile file hmem).1, hunknown,
        huntouched, hunhandled⟩, fun file hmem => (hfile file hmem).2⟩

lemma mem_writeFile (hname : file.name ≠ name) :
    file ∈ (writeFile name content directories).inbox ↔ file ∈ directories.inbox := by
  unfold writeFile
  rw [List.mem_map]
  constructor
  · rintro ⟨old, hold, rfl⟩
    by_cases hcase : old.name = name
    · rw [if_pos hcase] at hname
      exact absurd hcase hname
    · rw [if_neg hcase]
      exact hold
  · intro hfile
    exact ⟨file, hfile, if_neg hname⟩

lemma exists_writeFile (h : ∃ file ∈ directories.inbox, file.name = name) :
    ∃ file ∈ (writeFile name content directories).inbox, file.name = name := by
  obtain ⟨file, hfile, hname⟩ := h
  refine ⟨_, List.mem_map_of_mem hfile, ?_⟩
  rw [if_pos hname]
  exact hname

lemma mem_removeFile (hname : file.name ≠ name) :
    file ∈ (removeFile name directories).inbox ↔ file ∈ directories.inbox := by
  unfold removeFile
  rw [List.mem_filter]
  exact and_iff_left (decide_eq_true hname)

lemma mem_addFile {added : InboxFile} (hname : file.name ≠ added.name) :
    file ∈ (addFile added directories).inbox ↔ file ∈ directories.inbox := by
  unfold addFile
  rw [List.mem_append, List.mem_singleton]
  refine or_iff_left ?_
  rintro rfl
  exact hname rfl

lemma Watched.enqueues (h : Watched receipts hostHash s) (hstep : Enqueues hostHash s s') :
    Watched receipts hostHash s' := by
  have hdisciplined := h.disciplined.step (.enqueues hstep)
  have htracked : ∀ {first last : List Writer} {writer : Writer},
      s.writers = first ++ writer :: last → Tracked s writer := by
    intro first last writer hwriters
    refine h.writers writer ?_
    rw [hwriters]
    exact List.mem_append_right _ List.mem_cons_self
  have htarget : ∀ {writer : Writer} {file : InboxFile}, file.name = writer.targetName →
      file.name ≠ writer.temporaryName := by
    intro writer file hname htemp
    cases hname.symm.trans htemp
  cases hstep with
  | begin request temporary hclock hhost hfresh hreceipt hfile =>
    exact h.begin hdisciplined hhost hfresh hreceipt hfile rfl
  | @create first last writer hwriters hphase hfile =>
    have htracked := htracked hwriters
    simp only [Tracked, hphase] at htracked
    have hnew : ∀ file, file.name = writer.targetName → (file ∈ (addFile (temporaryFile
        writer.temporary false (.undecodable .malformedJson "")) s.directories).inbox ↔
          file ∈ s.directories.inbox) :=
      fun file hname => mem_addFile (htarget hname)
    refine h.advance _ hdisciplined hwriters rfl
      ⟨rfl, rfl, rfl, fun file htemp _ => mem_addFile htemp⟩ ?_ ⟨?_, ?_⟩
    · rintro ⟨file, hmem, hname⟩
      exact ⟨file, (hnew file hname).mpr hmem, hname⟩
    · exact htracked.1.beside _ rfl rfl rfl fun file hmem hname => (hnew file hname).mp hmem
    · exact ⟨_, List.mem_append_right _ (List.mem_singleton_self _), rfl⟩
  | @writePart first last writer reason bytes hwriters hphase =>
    have htracked := htracked hwriters
    simp only [Tracked, hphase] at htracked
    refine h.advance writer.phase hdisciplined hwriters hwriters
      ⟨rfl, rfl, rfl, fun file htemp _ => mem_writeFile htemp⟩ ?_ ?_
    · rintro ⟨file, hmem, hname⟩
      exact ⟨file, (mem_writeFile (htarget hname)).mpr hmem, hname⟩
    · rw [hphase]
      exact ⟨htracked.1.beside _ rfl rfl rfl fun file hmem hname =>
        (mem_writeFile (htarget hname)).mp hmem, exists_writeFile htracked.2⟩
  | @write first last writer hwriters hphase =>
    have htracked := htracked hwriters
    simp only [Tracked, hphase] at htracked
    refine h.advance _ hdisciplined hwriters rfl
      ⟨rfl, rfl, rfl, fun file htemp _ => mem_writeFile htemp⟩ ?_ ⟨?_, ?_⟩
    · rintro ⟨file, hmem, hname⟩
      exact ⟨file, (mem_writeFile (htarget hname)).mpr hmem, hname⟩
    · exact htracked.1.beside _ rfl rfl rfl fun file hmem hname =>
        (mem_writeFile (htarget hname)).mp hmem
    · exact exists_writeFile htracked.2
  | @rename first last writer hwriters hphase hfile =>
    have htracked := htracked hwriters
    simp only [Tracked, hphase] at htracked
    have hadded : requestFile writer.request ∈ (addFile (requestFile writer.request)
        (removeFile writer.targetName (removeFile writer.temporaryName s.directories))).inbox :=
      List.mem_append_right _ (List.mem_singleton_self _)
    refine h.advance _ hdisciplined hwriters rfl ⟨rfl, rfl, rfl, ?_⟩ ?_ (.inl ?_)
    · intro file htemp htarg
      rw [mem_addFile htarg, mem_removeFile htarg, mem_removeFile htemp]
    · exact fun _ => ⟨_, hadded, rfl⟩
    · -- Nobody has known of the request before.
      have hprivate := htracked.1
      refine ⟨hadded, hprivate.receipt, ?_, ?_, hprivate.unhandled⟩
      · exact fun hdoomed => hprivate.unknown (Consumer.doomed_subset hdoomed)
      · intro request hheld hid
        refine absurd (Consumer.held_subset hheld) ?_
        rw [hid]
        exact hprivate.unknown
  | @renameFails first last writer hwriters hphase hfile =>
    have htracked := htracked hwriters
    simp only [Tracked, hphase] at htracked
    obtain ⟨file, hmem, hname⟩ := htracked.2
    exact absurd hname (hfile file hmem)

end Enqueues

/-! ## The result -/

lemma watched_of_run {hostHash : String} {directories : ControlDirectories} {clock : DateTime}
    {s : ControlSystem} (hnames : (directories.inbox.map (·.name)).Nodup)
    (hreceipts : (directories.receipts.map (·.receiptId)).Nodup)
    (hrun : Relation.ReflTransGen (CalmStep hostHash) (.start directories clock) s) :
    Watched directories.receipts hostHash s := by
  induction hrun with
  | refl =>
    refine ⟨⟨hnames, (List.append_nil _).symm, hreceipts, fit_idle, trivial, Trace.obeys_nil⟩,
      ?_, List.nodup_nil, List.nodup_nil, ?_, ?_, ?_, ?_⟩
    · exact fun writer hwriter => by cases hwriter
    · exact fun request hheld => by cases hheld
    · exact fun name hname => by cases hname
    · exact fun request hinvoked => by cases hinvoked
    · exact fun writer hwriter => by cases hwriter
  | tail _ hstep ih =>
    obtain ⟨hcalm, hstep | hstep⟩ := hstep
    · exact ih.enqueues hstep
    · exact ih.consumes hcalm hstep

/-- In every interleaving of calls of `enqueue` with a process that processes the inbox, as long as
this process loads no temporary file of a call and no request outside its time: no rename fails,
and a request that is in place stays there or was handled once and has its receipt. -/
theorem calm_enqueue_kept {hostHash : String} {directories : ControlDirectories}
    {clock : DateTime} {s : ControlSystem}
    (hnames : (directories.inbox.map (·.name)).Nodup)
    (hreceipts : (directories.receipts.map (·.receiptId)).Nodup)
    (hrun : Relation.ReflTransGen (CalmStep hostHash) (.start directories clock) s) :
    ∀ writer ∈ s.writers, writer.phase ≠ .failed ∧
      (writer.phase = .renamed → requestFile writer.request ∈ s.directories.inbox ∨
        invocations writer.request.requestId s.trace = 1 ∧ ∃ outcome processedAt,
          completion writer.request outcome processedAt ∈ s.directories.receipts) := by
  intro writer hwriter
  have htracked := (watched_of_run hnames hreceipts hrun).writers writer hwriter
  unfold Tracked at htracked
  constructor
  · intro hphase
    rw [hphase] at htracked
    exact htracked
  · intro hphase
    rw [hphase] at htracked
    rcases htracked with hwaiting | hhand | hhandled
    · exact .inl hwaiting.file
    · exact .inl hhand.file
    · exact .inr ⟨hhandled.handled, hhandled.receipt⟩

section

open Sample

/-- A request that is put in place after the clock is read and before the directory is listed is
handled once. -/
theorem late_enqueue_handled : ∃ s, Relation.ReflTransGen (CalmStep "host") (.start ⟨[], []⟩ 0) s ∧
    ∃ writer ∈ s.writers, writer.request = request "a" .halt ∧ s.directories.inbox = [] ∧
      invocations writer.request.requestId s.trace = 1 ∧ ∃ outcome processedAt,
        completion writer.request outcome processedAt ∈ s.directories.receipts := by
  have hrun : ∃ s, Relation.ReflTransGen (CalmStep "host") (.start ⟨[], []⟩ 0) s ∧
      s.writers = [⟨request "a" .halt, "tmp", .renamed⟩] ∧ s.directories.inbox = [] := by
    refine ⟨?last, ?run, ?writers, ?inbox⟩
    case run =>
      refine .head ⟨calm_of_not_loading nofun, .inl (.begin (request "a" .halt) "tmp" (le_refl _)
        rfl (by simp [ControlSystem.start]) rfl (by simp [ControlSystem.start]))⟩ ?_
      refine .head ⟨calm_of_not_loading nofun, .inl (@Enqueues.create _ _ [] [] _ rfl rfl
        (by simp [ControlSystem.start]))⟩ ?_
      refine .head ⟨calm_of_not_loading nofun, .inl (@Enqueues.write _ _ [] [] _ rfl rfl)⟩ ?_
      refine .head ⟨calm_of_not_loading nofun, .inr (.start 1 rfl (by decide))⟩ ?_
      refine .head ⟨calm_of_not_loading nofun, .inl (@Enqueues.rename _ _ [] [] _ rfl rfl
        ⟨_, List.mem_cons_self, rfl⟩)⟩ ?_
      refine .head ⟨calm_of_not_loading nofun, .inr (.list rfl (List.Perm.refl _))⟩ ?_
      refine .head ⟨?_, .inr (@Consumes.accept _ _ _ (requestFile (request "a" .halt)) _ _ _ rfl
        List.mem_cons_self rfl rfl)⟩ ?_
      · intro time entries pending file hfile hconsumer writer hwriter
        obtain rfl : file = requestFile (request "a" .halt) := List.mem_singleton.mp hfile
        cases hconsumer
        obtain rfl := List.mem_singleton.mp hwriter
        exact ⟨nofun, fun _ => by decide⟩
      refine .head ⟨calm_of_not_loading nofun, .inr (.sort rfl)⟩ ?_
      refine .head ⟨calm_of_not_loading nofun,
        .inr (.invoke (.refused .expired) 1 rfl (by decide))⟩ ?_
      refine .head ⟨calm_of_not_loading nofun, .inr (.complete rfl rfl)⟩ ?_
      refine .head ⟨calm_of_not_loading nofun, .inr (.clear rfl)⟩ ?_
      exact .refl
    case writers => rfl
    case inbox => rfl
  obtain ⟨s, hrun, hwriters, hinbox⟩ := hrun
  have hwriter : ⟨request "a" .halt, "tmp", .renamed⟩ ∈ s.writers := by
    rw [hwriters]
    exact List.mem_singleton_self _
  refine ⟨s, hrun, _, hwriter, rfl, hinbox, ?_⟩
  have hnames : ((⟨[], []⟩ : ControlDirectories).inbox.map (·.name)).Nodup := List.nodup_nil
  rcases (calm_enqueue_kept hnames List.nodup_nil hrun _ hwriter).2 rfl with hfile | hhandled
  · rw [hinbox] at hfile
    cases hfile
  · exact hhandled

/-- A consumer that lists the directory while a call of `enqueue` writes its temporary file
destroys the file, and the call fails. -/
theorem listed_enqueue_destroyed : ∃ s,
    Relation.ReflTransGen (fun s s' => Enqueues "host" s s' ∨ Consumes "host" s s')
      (.start ⟨[], []⟩ 0) s ∧
    ∃ writer ∈ s.writers, writer.request = request "a" .halt ∧ writer.phase = .failed ∧
      s.directories.inbox = [] ∧ invocations writer.request.requestId s.trace = 0 := by
  refine ⟨?last, ?run, ?lost⟩
  case run =>
    refine .head (.inl (.begin (request "a" .halt) "tmp" (le_refl _)
      rfl (by simp [ControlSystem.start]) rfl (by simp [ControlSystem.start]))) ?_
    refine .head (.inl (@Enqueues.create _ _ [] [] _ rfl rfl (by simp [ControlSystem.start]))) ?_
    refine .head (.inr (.start 1 rfl (by decide))) ?_
    refine .head (.inr (.list rfl (List.Perm.refl _))) ?_
    refine .head (.inr (@Consumes.refuse _ _ _ (temporaryFile "tmp" false
      (.undecodable .malformedJson "")) _ _ _ _ 1 rfl List.mem_cons_self rfl (le_refl _))) ?_
    refine .head (.inr (.reject rfl rfl)) ?_
    refine .head (.inl (@Enqueues.write _ _ [] [] _ rfl rfl)) ?_
    refine .head (.inr (.remove rfl)) ?_
    refine .head (.inl (@Enqueues.renameFails _ _ [] [] _ rfl rfl ?_)) ?_
    · exact fun file hfile => by cases hfile
    exact .refl
  case lost => exact ⟨_, List.mem_singleton_self _, rfl, rfl, rfl, rfl⟩

end

end ControlInbox

end FirmQuant
