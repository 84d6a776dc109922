import FirmQuant.Application.ControlDiscipline

/-!
# Restarts of the control channel

A crash between the receipt of a request and its removal leaves the request in the inbox beside its
receipt.  `process_pending` then looks at the request before it looks at the receipt.  A request
that it still accepts is removed.  A request that has expired in the meantime is refused, and so is
again a file that was refused before the crash; the receipt of the refusal is not the one that is
there, and the call raises.  Since the file stays, every later call raises too.
-/

namespace FirmQuant

open Effect

namespace ControlInbox

/-! ## Where the files come from -/

/-- The requests of the calls of `enqueue`. -/
def ControlSystem.requests (s : ControlSystem) : List ControlRequest := s.writers.map (·.request)

/-- A receipt under the id of a request is of that request. -/
def AnswersOne (requests : List ControlRequest) (written : ControlReceipt) : Prop :=
  ∀ id, written.receiptId = .request id → ∃ request ∈ requests, request.requestId = id ∧
    written.requestSha256 = .content (.request request)

/-- The batch handles requests and writes receipts of requests. -/
def Consumer.HandlesOnly (requests : List ControlRequest) (consumer : Consumer) : Prop :=
  (∀ request ∈ consumer.held, request ∈ requests) ∧
    match consumer with
    | .rejecting _ _ _ _ written => AnswersOne requests written
    | .completing _ written _ => AnswersOne requests written
    | _ => True

/-- Every file with the name of a request is the file of that request, and every receipt under the
id of a request is of that request. -/
structure Sourced (hostHash : String) (s : ControlSystem) : Prop where
  requests : ∀ request ∈ s.requests, request.hostHash = hostHash ∧ request.createdAt ≤ s.clock
  nodup : (s.requests.map (·.requestId)).Nodup
  inbox : ∀ file ∈ s.directories.inbox, ∀ id, file.name = .request id →
    ∃ request ∈ s.requests, request.requestId = id ∧ file = requestFile request
  receipts : ∀ written ∈ s.directories.receipts, AnswersOne s.requests written
  consumer : s.consumer.HandlesOnly s.requests

section Steps

variable {hostHash : String} {s s' : ControlSystem}

variable {requests requests' : List ControlRequest} {request : ControlRequest}

lemma AnswersOne.mono {written : ControlReceipt}
    (h : AnswersOne requests written) (hsub : ∀ request ∈ requests, request ∈ requests') :
    AnswersOne requests' written := by
  intro id hid
  obtain ⟨request, hmem, hrequest⟩ := h id hid
  exact ⟨request, hsub request hmem, hrequest⟩

lemma Consumer.HandlesOnly.mono {consumer : Consumer}
    (h : consumer.HandlesOnly requests) (hsub : ∀ request ∈ requests, request ∈ requests') :
    consumer.HandlesOnly requests' := by
  refine ⟨fun request hmem => hsub request (h.1 request hmem), ?_⟩
  cases consumer with
  | rejecting time entries pending name written
  | completing request written rest => exact h.2.mono hsub
  | _ => trivial

/-- A step that leaves the requests, with files and receipts from the same sources. -/
lemma Sourced.of_same (h : Sourced hostHash s) (hrequests : s'.requests = s.requests)
    (hclock : s.clock ≤ s'.clock)
    (hinbox : ∀ file ∈ s'.directories.inbox, ∀ id, file.name = .request id →
      ∃ request ∈ s.requests, request.requestId = id ∧ file = requestFile request)
    (hreceipts : ∀ written ∈ s'.directories.receipts, AnswersOne s.requests written)
    (hconsumer : s'.consumer.HandlesOnly s.requests) : Sourced hostHash s' := by
  constructor <;> rw [hrequests]
  · exact fun request hmem => ⟨(h.requests request hmem).1,
      (h.requests request hmem).2.trans hclock⟩
  · exact h.nodup
  · exact hinbox
  · exact hreceipts
  · exact hconsumer

lemma requests_replaced {first last : List Writer} {writer : Writer} (phase : WriterPhase)
    (h : s.writers = first ++ writer :: last) :
    (first ++ { writer with phase := phase } :: last).map (·.request) = s.requests := by
  rw [ControlSystem.requests, h]
  simp

lemma Sourced.enqueues (h : Sourced hostHash s) (hstep : Enqueues hostHash s s') :
    Sourced hostHash s' := by
  have hwrite : ∀ {temporary : String} {content : FileContent},
      ∀ file ∈ (writeFile (.other temporary) content s.directories).inbox, ∀ id,
        file.name = .request id →
        ∃ request ∈ s.requests, request.requestId = id ∧ file = requestFile request := by
    intro temporary content file hfile id hname
    obtain ⟨old, hold, rfl⟩ := List.mem_map.mp hfile
    by_cases hcase : old.name = .other temporary
    · rw [if_pos hcase] at hname
      cases hcase.symm.trans hname
    · rw [if_neg hcase] at hname ⊢
      exact h.inbox old hold id hname
  cases hstep with
  | begin request temporary hclock hhost hfresh hreceipt hfile =>
    have hrequests : ∀ other ∈ s.requests, other ∈ s.requests ++ [request] :=
      fun other hother => List.mem_append_left _ hother
    have hall : ControlSystem.requests { s with
        writers := s.writers ++ [⟨request, temporary, .opened⟩]
        clock := request.createdAt } = s.requests ++ [request] := by
      simp [ControlSystem.requests]
    constructor <;> rw [hall]
    · intro other hother
      rcases List.mem_snoc.mp hother with hother | hother
      · exact ⟨(h.requests other hother).1, (h.requests other hother).2.trans hclock⟩
      · rw [hother]
        exact ⟨hhost, le_refl _⟩
    · refine List.nodup_map_snoc.mpr ⟨h.nodup, fun other hother => ?_⟩
      obtain ⟨writer, hwriter, rfl⟩ := List.mem_map.mp hother
      exact (hfresh writer hwriter).1
    · intro file hmem id hname
      obtain ⟨other, hother, hrest⟩ := h.inbox file hmem id hname
      exact ⟨other, hrequests other hother, hrest⟩
    · exact fun written hmem => (h.receipts written hmem).mono hrequests
    · exact h.consumer.mono hrequests
  | create hwriters hphase hfile =>
    refine h.of_same (requests_replaced _ hwriters) (le_refl _) ?_ h.receipts h.consumer
    intro file hmem id hname
    rcases List.mem_snoc.mp hmem with hmem | hmem
    · exact h.inbox file hmem id hname
    · rw [hmem] at hname
      cases hname
  | writePart reason bytes hwriters hphase =>
    exact h.of_same rfl (le_refl _) hwrite h.receipts h.consumer
  | write hwriters hphase =>
    exact h.of_same (requests_replaced _ hwriters) (le_refl _) hwrite h.receipts h.consumer
  | @rename first last writer hwriters hphase hfile =>
    refine h.of_same (requests_replaced _ hwriters) (le_refl _) ?_ h.receipts h.consumer
    intro file hmem id hname
    rcases List.mem_snoc.mp hmem with hmem | rfl
    · have hold := List.mem_of_mem_filter (List.mem_of_mem_filter hmem)
      exact h.inbox file hold id hname
    · cases hname
      refine ⟨writer.request, ?_, rfl, rfl⟩
      rw [ControlSystem.requests, hwriters]
      simp
  | renameFails hwriters hphase hfile =>
    exact h.of_same (requests_replaced _ hwriters) (le_refl _) h.inbox h.receipts h.consumer

/-- The file of a request is refused with the digest of the request. -/
lemma load_requestFile {time : DateTime} {reason : ControlRefusal} {rawHash : Option RawIdentity}
    (h : load hostHash time (requestFile request) = .error (reason, rawHash)) :
    rawHash = some (.content (.request request)) := by
  unfold load requestFile at h
  simp only [reduceCtorEq, if_false, Bool.true_eq_false] at h
  split_ifs at h <;> cases h <;> rfl

/-- A loaded request is one of the requests, and the file is its file. -/
lemma Sourced.loaded (h : Sourced hostHash s) {time : DateTime} {file : InboxFile}
    (hfile : file ∈ s.directories.inbox) (hload : load hostHash time file = .ok request) :
    request ∈ s.requests ∧ file = requestFile request := by
  obtain ⟨hname, hcontent⟩ := file_of_load hload
  obtain ⟨other, hother, -, rfl⟩ := h.inbox file hfile _ hname
  obtain rfl : other = request := FileContent.request.inj hcontent
  exact ⟨hother, rfl⟩

lemma Sourced.consumes (h : Sourced hostHash s) (hstep : Consumes hostHash s s') :
    Sourced hostHash s' := by
  have hconsumer := h.consumer
  have hremove : ∀ {name}, ∀ file ∈ (removeFile name s.directories).inbox, ∀ id,
      file.name = .request id →
      ∃ request ∈ s.requests, request.requestId = id ∧ file = requestFile request :=
    fun file hmem => h.inbox file (List.mem_of_mem_filter hmem)
  have hrecord : ∀ {written directories}, record written s.directories = some directories →
      AnswersOne s.requests written → directories.inbox = s.directories.inbox ∧
        ∀ other ∈ directories.receipts, AnswersOne s.requests other := by
    intro written directories hrecord hwritten
    rcases record_cases hrecord with ⟨-, rfl⟩ | ⟨-, rfl⟩
    · refine ⟨rfl, fun other hother => ?_⟩
      rcases List.mem_snoc.mp hother with hother | hother
      · exact h.receipts other hother
      · rw [hother]
        exact hwritten
    · exact ⟨rfl, h.receipts⟩
  cases hstep with
  | start time hidle hclock =>
    exact h.of_same rfl hclock h.inbox h.receipts ⟨by simp [Consumer.held], trivial⟩
  | list hlisting hentries | rejectFails hrejecting hwrite | completeFails hcompleting hwrite
  | finish hexecuting =>
    exact h.of_same rfl (le_refl _) h.inbox h.receipts ⟨by simp [Consumer.held], trivial⟩
  | skip hsifting hfile | answered hsifting hfile hload hreceipt hsame =>
    rw [hsifting] at hconsumer
    exact h.of_same rfl (le_refl _) h.inbox h.receipts ⟨hconsumer.1, trivial⟩
  | @refuse time file entries pending reason rawHash processedAt hsifting hfile hload hclock =>
    rw [hsifting] at hconsumer
    refine h.of_same rfl hclock h.inbox h.receipts ⟨hconsumer.1, fun id hid => ?_⟩
    obtain ⟨request, hmem, hrequest, hsame⟩ := h.inbox file hfile id (rejection_own hid)
    refine ⟨request, hmem, hrequest, ?_⟩
    rw [hsame] at hload
    rw [load_requestFile hload]
    rfl
  | @accept time file entries pending request hsifting hfile hload hreceipt =>
    rw [hsifting] at hconsumer
    refine h.of_same rfl (le_refl _) h.inbox h.receipts ⟨fun other hother => ?_, trivial⟩
    rcases List.mem_snoc.mp hother with hother | hother
    · exact hconsumer.1 other hother
    · rw [hother]
      exact (h.loaded hfile hload).1
  | collide processedAt hsifting hfile hload hreceipt hother hclock =>
    rw [hsifting] at hconsumer
    refine h.of_same rfl hclock h.inbox h.receipts ⟨hconsumer.1, fun id hid => ?_⟩
    have hname := (file_of_load hload).1.symm.trans (rejection_own hid)
    exact ⟨_, (h.loaded hfile hload).1, ControlFileName.request.inj hname, rfl⟩
  | reject hrejecting hwrite =>
    rw [hrejecting] at hconsumer
    obtain ⟨hinbox, hreceipts⟩ := hrecord hwrite hconsumer.2
    exact h.of_same rfl (le_refl _) (hinbox ▸ h.inbox) hreceipts ⟨hconsumer.1, trivial⟩
  | remove hremoving =>
    rw [hremoving] at hconsumer
    exact h.of_same rfl (le_refl _) hremove h.receipts ⟨hconsumer.1, trivial⟩
  | sort hsifting =>
    rw [hsifting] at hconsumer
    refine h.of_same rfl (le_refl _) h.inbox h.receipts ⟨fun request hmem => ?_, trivial⟩
    exact hconsumer.1 request ((List.mem_insertionSort _).mp hmem)
  | @invoke request rest outcome processedAt hexecuting hclock =>
    rw [hexecuting] at hconsumer
    refine h.of_same rfl hclock h.inbox h.receipts
      ⟨fun other hother => hconsumer.1 other (List.mem_cons_of_mem _ hother), fun id hid => ?_⟩
    exact ⟨request, hconsumer.1 request List.mem_cons_self, ReceiptId.request.inj hid, rfl⟩
  | complete hcompleting hwrite =>
    rw [hcompleting] at hconsumer
    obtain ⟨hinbox, hreceipts⟩ := hrecord hwrite hconsumer.2
    exact h.of_same rfl (le_refl _) (hinbox ▸ h.inbox) hreceipts ⟨hconsumer.1, trivial⟩
  | clear hclearing =>
    rw [hclearing] at hconsumer
    exact h.of_same rfl (le_refl _) hremove h.receipts ⟨hconsumer.1, trivial⟩

lemma Sourced.breaks (h : Sourced hostHash s) (hstep : Breaks s s') : Sourced hostHash s' := by
  cases hstep with
  | consumer | handler hexecuting =>
    exact h.of_same rfl (le_refl _) h.inbox h.receipts ⟨by simp [Consumer.held], trivial⟩
  | writer hwriters =>
    exact h.of_same (requests_replaced _ hwriters) (le_refl _) h.inbox h.receipts h.consumer

lemma sourced_of_run {clock : DateTime} (hrun : Run hostHash (.start ⟨[], []⟩ clock) s) :
    Sourced hostHash s := by
  induction hrun with
  | refl =>
    refine ⟨?_, List.nodup_nil, ?_, ?_, ?_, trivial⟩
    · exact fun request hmem => by cases hmem
    · exact fun file hmem => by cases hmem
    · exact fun written hmem => by cases hmem
    · exact fun request hmem => by cases hmem
  | tail _ hstep ih =>
    cases hstep with
    | enqueues hstep => exact ih.enqueues hstep
    | consumes hstep => exact ih.consumes hstep
    | breaks hstep => exact ih.breaks hstep

end Steps

/-! ## One call of `process_pending` -/

/-- No file that is refused at this time has a receipt already. -/
def Unanswered (hostHash : String) (time : DateTime) (directories : ControlDirectories) : Prop :=
  ∀ file ∈ directories.inbox, ∀ reason rawHash,
    load hostHash time file = .error (reason, rawHash) →
    receipt directories (rejection file.name reason rawHash time).receiptId = none

/-- A call of `process_pending` at this time returns and handles every request that has no receipt
and is not expired, whatever the later readings of the clock, the order of the listing and the
answers of the handler are. -/
def Processes (hostHash : String) (time : DateTime) (directories : ControlDirectories) : Prop :=
  ∀ (B : Type) (clock : B → DateTime × B) (handler : Handler B) (b : B) (inbox : List InboxFile),
    (clock b).1 = time → (∀ b, (clock b).1 ≤ (clock (clock b).2).1) →
    (∀ request b, ∃ execution b', handler request b = (.ok execution, b')) →
    inbox.Perm directories.inbox →
    ∃ batch w', processPending clock hostHash handler ⟨⟨inbox, directories.receipts⟩, b⟩ =
        .ok batch w' ∧
      ∀ request, requestFile request ∈ directories.inbox → time < request.expiresAt →
        receipt directories (.request request.requestId) = none →
        ∃ execution processedAt b b', handler request b = (.ok execution, b') ∧
          completion request execution.outcome processedAt ∈ batch.receipts

section Call

variable {B : Type} {clock : B → DateTime × B} {hostHash : String} {time : DateTime}
  {handler : Handler B}

variable {name : ControlFileName} {reason : ControlRefusal} {rawHash : Option RawIdentity}
  {written : ControlReceipt} {w : ControlWorld B} {file : InboxFile}

/-- Refusals of different files have different receipts. -/
lemma rejection_ne {name' : ControlFileName} {reason' : ControlRefusal}
    {rawHash' : Option RawIdentity} {processedAt processedAt' : DateTime} (h : name ≠ name') :
    (rejection name reason rawHash processedAt).receiptId ≠
      (rejection name' reason' rawHash' processedAt').receiptId := by
  intro heq
  cases name with
  | request id =>
    cases name' with
    | request id' =>
      refine h ?_
      rw [ReceiptId.request.inj heq]
    | other text => cases heq
  | other text =>
    cases name' with
    | request id' => cases heq
    | other text' => exact h (ReceiptId.invalid.inj heq).1

lemma writeReceipt_of_none (h : receipt w.directories written.receiptId = none) :
    writeReceipt written w = .ok ⟨⟩ { w with directories :=
      { w.directories with receipts := w.directories.receipts ++ [written] } } := by
  unfold writeReceipt
  rw [h]

lemma writeReceipt_of_other {existing : ControlReceipt}
    (h : receipt w.directories written.receiptId = some existing) (hother : existing ≠ written) :
    writeReceipt written w = .error (.runtimeError "CONTROL_RECEIPT_COLLISION") w := by
  unfold writeReceipt
  rw [h]
  exact if_pos hother

lemma reject_eq (clock : B → DateTime × B) (name : ControlFileName) (reason : ControlRefusal)
    (rawHash : Option RawIdentity) :
    (reject clock name reason rawHash : ControlProgram B ControlReceipt) = (do
      let processedAt ← now clock
      writeReceipt (rejection name reason rawHash processedAt)
      unlink name
      pure (rejection name reason rawHash processedAt)) := rfl

lemma reject_of_none (clock : B → DateTime × B)
    (h : receipt w.directories (rejection name reason rawHash time).receiptId = none) :
    ∃ w', reject clock name reason rawHash w =
        .ok (rejection name reason rawHash (clock w.outside).1) w' ∧
      w'.directories.receipts =
        w.directories.receipts ++ [rejection name reason rawHash (clock w.outside).1] := by
  have hnow : (now clock : ControlProgram B DateTime) w =
    .ok (clock w.outside).1 { w with outside := (clock w.outside).2 } := rfl
  have hwrite : writeReceipt (rejection name reason rawHash (clock w.outside).1)
      { w with outside := (clock w.outside).2 } = _ := writeReceipt_of_none h
  rw [reject_eq, bind_apply, hnow]
  dsimp only
  rw [bind_apply, hwrite]
  exact ⟨_, rfl, rfl⟩

/-- The files can be sifted: refused files have no receipt, and the receipts of accepted ones are
their own. -/
structure Ready (hostHash : String) (time : DateTime) (files : List InboxFile)
    (receipts : List ControlReceipt) : Prop where
  names : (files.map (·.name)).Nodup
  refused : ∀ file ∈ files, ∀ reason rawHash, load hostHash time file = .error (reason, rawHash) →
    (rejection file.name reason rawHash time).receiptId ∉ receipts.map (·.receiptId)
  answered : ∀ file ∈ files, ∀ request, load hostHash time file = .ok request →
    ∀ existing ∈ receipts, existing.receiptId = .request request.requestId →
      existing.requestSha256 = .content (.request request)

lemma Ready.sift {rest : List InboxFile}
    (h : Ready hostHash time (file :: rest) w.directories.receipts) (clock : B → DateTime × B) :
    ∃ refused pending w' added, ControlInbox.sift clock hostHash time file w =
        .ok (refused, pending) w' ∧
      w'.directories.receipts = w.directories.receipts ++ added ∧
      (∀ written ∈ added, ∃ reason rawHash,
        written.receiptId = (rejection file.name reason rawHash time).receiptId) ∧
      (pending = [] ∨ ∃ request, pending = [request] ∧ added = []) ∧
      ∀ request, request ∈ pending ↔ load hostHash time file = .ok request ∧
        .request request.requestId ∉ w.directories.receipts.map (·.receiptId) := by
  have hhead : file ∈ file :: rest := List.mem_cons_self
  unfold ControlInbox.sift
  cases hload : load hostHash time file with
  | error refusal =>
    obtain ⟨reason, rawHash⟩ := refusal
    obtain ⟨w', hrun, hreceipts⟩ := reject_of_none clock
      (receipt_eq_none.mpr (h.refused file hhead reason rawHash hload))
    dsimp only
    rw [bind_apply, hrun]
    refine ⟨_, [], w', _, rfl, hreceipts, ?_, .inl rfl, by simp⟩
    intro written hwritten
    rw [List.mem_singleton.mp hwritten]
    exact ⟨reason, rawHash, rfl⟩
  | ok request =>
    dsimp only
    rw [get_bind_apply]
    cases hreceipt : receipt w.directories (.request request.requestId) with
    | none =>
      have hnew := receipt_eq_none.mp hreceipt
      refine ⟨[], [request], w, [], rfl, (List.append_nil _).symm, by simp,
        .inr ⟨request, rfl, rfl⟩, ?_⟩
      intro other
      rw [List.mem_singleton]
      constructor
      · rintro rfl
        exact ⟨rfl, hnew⟩
      · rintro ⟨heq, -⟩
        exact (Except.ok.inj heq).symm
    | some existing =>
      have hmem := List.mem_of_find?_eq_some hreceipt
      have hid : existing.receiptId = .request request.requestId := by
        simpa using List.find?_some hreceipt
      dsimp only
      rw [if_pos (h.answered file hhead request hload existing hmem hid)]
      refine ⟨[], [], _, [], rfl, (List.append_nil _).symm, by simp, .inl rfl, ?_⟩
      intro other
      constructor
      · intro hother
        cases hother
      · rintro ⟨heq, hnot⟩
        cases heq
        exact absurd (List.mem_map.mpr ⟨existing, hmem, hid⟩) hnot

lemma Ready.rest {rest : List InboxFile} {receipts added : List ControlReceipt}
    (h : Ready hostHash time (file :: rest) receipts)
    (hadded : ∀ written ∈ added, ∃ reason rawHash,
      written.receiptId = (rejection file.name reason rawHash time).receiptId) :
    Ready hostHash time rest (receipts ++ added) := by
  have hnodup := List.nodup_cons.mp h.names
  have hhead : file.name ∉ rest.map (·.name) := hnodup.1
  have hother : ∀ other ∈ rest, file.name ≠ other.name := by
    intro other hmem heq
    rw [heq] at hhead
    exact hhead (List.mem_map_of_mem hmem)
  refine ⟨hnodup.2, ?_, ?_⟩
  · intro other hmem reason rawHash hload hid
    rw [List.map_append, List.mem_append] at hid
    rcases hid with hid | hid
    · exact h.refused other (List.mem_cons_of_mem _ hmem) reason rawHash hload hid
    · obtain ⟨written, hwritten, hsame⟩ := List.mem_map.mp hid
      obtain ⟨reason', rawHash', hwritten'⟩ := hadded written hwritten
      exact rejection_ne (hother other hmem) (hwritten'.symm.trans hsame)
  · intro other hmem request hload existing hexisting hid
    rcases List.mem_append.mp hexisting with hexisting | hexisting
    · exact h.answered other (List.mem_cons_of_mem _ hmem) request hload existing hexisting hid
    · obtain ⟨reason, rawHash, hwritten⟩ := hadded existing hexisting
      have hname := rejection_own (hwritten.symm.trans hid)
      exact absurd (hname.trans (file_of_load hload).1.symm) (hother other hmem)

/-- The first loop returns, with the accepted requests that have no receipt. -/
lemma siftAll_returns (clock : B → DateTime × B) (files : List InboxFile) (w : ControlWorld B)
    (h : Ready hostHash time files w.directories.receipts) :
    ∃ refused pending w', siftAll clock hostHash time files w = .ok (refused, pending) w' ∧
      (pending.map (·.requestId)).Nodup ∧
      (∀ request ∈ pending, .request request.requestId ∉ w'.directories.receipts.map (·.receiptId) ∧
        .request request.requestId ∈ files.map (·.name)) ∧
      (∀ written ∈ w'.directories.receipts, written ∈ w.directories.receipts ∨
        ∃ file ∈ files, ∃ reason rawHash,
          written.receiptId = (rejection file.name reason rawHash time).receiptId) ∧
      ∀ file ∈ files, ∀ request, load hostHash time file = .ok request →
        .request request.requestId ∉ w.directories.receipts.map (·.receiptId) →
        request ∈ pending := by
  induction files generalizing w with
  | nil => exact ⟨[], [], w, rfl, List.nodup_nil, by simp, fun _ hmem => .inl hmem, by simp⟩
  | cons file rest ih =>
    obtain ⟨refused, pending, w₁, added, hsift, hreceipts, hadded, hone, hpending⟩ :=
      h.sift clock
    obtain ⟨more, others, w₂, hloop, hnodup, hothers, hwritten, hall⟩ :=
      ih w₁ (hreceipts ▸ h.rest hadded)
    have hhead : file.name ∉ rest.map (·.name) := (List.nodup_cons.mp h.names).1
    have hname : ∀ request ∈ pending, file.name = .request request.requestId :=
      fun request hmem => (file_of_load ((hpending request).mp hmem).1).1
    refine ⟨refused ++ more, pending ++ others, w₂, ?_, ?_, ?_, ?_, ?_⟩
    · unfold siftAll
      rw [bind_apply, hsift]
      dsimp only
      rw [bind_apply, hloop]
      rfl
    · rw [List.map_append, List.nodup_append']
      refine ⟨?_, hnodup, ?_⟩
      · rcases hone with rfl | ⟨request, rfl, -⟩
        · exact List.nodup_nil
        · exact List.nodup_singleton _
      · intro id hid hother
        obtain ⟨request, hmem, rfl⟩ := List.mem_map.mp hid
        obtain ⟨other, hmem', hsame⟩ := List.mem_map.mp hother
        refine hhead ?_
        rw [hname request hmem, ← hsame]
        exact (hothers other hmem').2
    · intro request hmem
      rcases List.mem_append.mp hmem with hmem | hmem
      · have hlisted : ControlFileName.request request.requestId ∈ (file :: rest).map (·.name) := by
          rw [← hname request hmem]
          exact List.mem_cons_self
        refine ⟨fun hid => ?_, hlisted⟩
        obtain ⟨written, hmem', hsame⟩ := List.mem_map.mp hid
        rcases hwritten written hmem' with hold | ⟨other, hother, reason, rawHash, hrejected⟩
        · rw [hreceipts, List.mem_append] at hold
          rcases hold with hold | hold
          · exact ((hpending request).mp hmem).2 (List.mem_map.mpr ⟨written, hold, hsame⟩)
          · -- A file is not both refused and accepted.
            rcases hone with rfl | ⟨_, -, rfl⟩
            · cases hmem
            · cases hold
        · have hother' := rejection_own (hrejected.symm.trans hsame)
          refine hhead ?_
          rw [hname request hmem, ← hother']
          exact List.mem_map_of_mem hother
      · obtain ⟨hnew, hlisted⟩ := hothers request hmem
        exact ⟨hnew, List.mem_cons_of_mem _ hlisted⟩
    · intro written hmem
      rcases hwritten written hmem with hold | ⟨other, hother, hrejected⟩
      · rw [hreceipts, List.mem_append] at hold
        rcases hold with hold | hold
        · exact .inl hold
        · exact .inr ⟨file, List.mem_cons_self, hadded written hold⟩
      · exact .inr ⟨other, List.mem_cons_of_mem _ hother, hrejected⟩
    · intro other hother request hload hnew
      rcases List.mem_cons.mp hother with rfl | hother
      · exact List.mem_append_left _ ((hpending request).mpr ⟨hload, hnew⟩)
      · refine List.mem_append_right _ (hall other hother request hload ?_)
        rw [hreceipts, List.map_append, List.mem_append, not_or]
        refine ⟨hnew, fun hid => ?_⟩
        obtain ⟨written, hmem', hsame⟩ := List.mem_map.mp hid
        obtain ⟨reason, rawHash, hrejected⟩ := hadded written hmem'
        have hfile := rejection_own (hrejected.symm.trans hsame)
        refine hhead ?_
        rw [hfile, ← (file_of_load hload).1]
        exact List.mem_map_of_mem hother

lemma unlink_apply (name : ControlFileName) (w : ControlWorld B) :
    (unlink name : ControlProgram B PUnit) w =
      .ok ⟨⟩ { w with directories := removeFile name w.directories } := rfl

lemma executeAll_cons (clock : B → DateTime × B) (handler : Handler B) (request : ControlRequest)
    (rest : List ControlRequest) :
    executeAll clock handler (request :: rest) = (do
      let execution ← handle handler request
      let processedAt ← now clock
      writeReceipt (completion request execution.outcome processedAt)
      unlink (.request request.requestId)
      let batch ← executeAll clock handler rest
      pure ⟨completion request execution.outcome processedAt :: batch.receipts,
        execution.halted || batch.halted, execution.stop || batch.stop⟩) := rfl

lemma executeAll_returns (clock : B → DateTime × B)
    (hhandler : ∀ request b, ∃ execution b', handler request b = (.ok execution, b'))
    (rest : List ControlRequest) (w : ControlWorld B)
    (hnodup : (rest.map (·.requestId)).Nodup)
    (hnew : ∀ request ∈ rest,
      .request request.requestId ∉ w.directories.receipts.map (·.receiptId)) :
    ∃ batch w', executeAll clock handler rest w = .ok batch w' ∧
      ∀ request ∈ rest, ∃ execution processedAt b b', handler request b = (.ok execution, b') ∧
        completion request execution.outcome processedAt ∈ batch.receipts := by
  induction rest generalizing w with
  | nil => exact ⟨_, w, rfl, by simp⟩
  | cons request rest ih =>
    obtain ⟨execution, b', hexecution⟩ := hhandler request w.outside
    have hhandle : handle handler request w = .ok execution { w with outside := b' } := by
      unfold handle
      rw [hexecution]
    have hnow : (now clock : ControlProgram B DateTime) { w with outside := b' } =
      .ok (clock b').1 { w with outside := (clock b').2 } := rfl
    have hwrite : writeReceipt (completion request execution.outcome (clock b').1)
        { w with outside := (clock b').2 } = _ :=
      writeReceipt_of_none (receipt_eq_none.mpr (hnew request List.mem_cons_self))
    rw [List.map_cons, List.nodup_cons] at hnodup
    obtain ⟨batch, w', hloop, hhandled⟩ := ih
      { w with
        directories := removeFile (.request request.requestId) { w.directories with
          receipts := w.directories.receipts ++
            [completion request execution.outcome (clock b').1] }
        outside := (clock b').2 } hnodup.2 (by
      intro other hother hid
      rw [removeFile, List.map_append, List.mem_append] at hid
      rcases hid with hid | hid
      · exact hnew other (List.mem_cons_of_mem _ hother) hid
      · have hsame := ReceiptId.request.inj (List.mem_singleton.mp hid)
        exact hnodup.1 (hsame ▸ List.mem_map_of_mem hother))
    refine ⟨⟨completion request execution.outcome (clock b').1 :: batch.receipts,
      execution.halted || batch.halted, execution.stop || batch.stop⟩, w', ?_, ?_⟩
    · rw [executeAll_cons, bind_apply, hhandle]
      dsimp only
      rw [bind_apply, hnow]
      dsimp only
      rw [bind_apply, hwrite]
      dsimp only
      rw [bind_apply, unlink_apply]
      dsimp only
      rw [bind_apply, hloop]
      rfl
    · intro other hother
      rcases List.mem_cons.mp hother with rfl | hother
      · exact ⟨execution, (clock b').1, w.outside, b', hexecution, List.mem_cons_self⟩
      · obtain ⟨execution', processedAt, b₁, b₂, hhandled', hmem⟩ := hhandled other hother
        exact ⟨execution', processedAt, b₁, b₂, hhandled', List.mem_cons_of_mem _ hmem⟩

/-- A call at a time at which no refused file has a receipt. -/
lemma processes_of_unanswered {s : ControlSystem} (h : Sourced hostHash s)
    (hnames : (s.directories.inbox.map (·.name)).Nodup) (hclock : s.clock ≤ time)
    (hunanswered : Unanswered hostHash time s.directories) :
    Processes hostHash time s.directories := by
  intro B clock handler b inbox htime _ hhandler hperm
  have hready : Ready hostHash time inbox s.directories.receipts := by
    refine ⟨(hperm.map _).nodup_iff.mpr hnames, ?_, ?_⟩
    · intro file hfile reason rawHash hload
      exact receipt_eq_none.mp (hunanswered file (hperm.mem_iff.mp hfile) reason rawHash hload)
    · intro file hfile request hload existing hexisting hid
      obtain ⟨hrequest, -⟩ := h.loaded (hperm.mem_iff.mp hfile) hload
      obtain ⟨other, hother, hsame, hdigest⟩ := h.receipts existing hexisting _ hid
      rw [List.inj_on_of_nodup_map h.nodup hother hrequest hsame] at hdigest
      exact hdigest
  have hnow : (now clock : ControlProgram B DateTime) ⟨⟨inbox, s.directories.receipts⟩, b⟩ =
      .ok time ⟨⟨inbox, s.directories.receipts⟩, (clock b).2⟩ := by
    rw [← htime]
    rfl
  obtain ⟨refused, pending, w₁, hsift, hnodup, hpending, -, hall⟩ := siftAll_returns clock inbox
    ⟨⟨inbox, s.directories.receipts⟩, (clock b).2⟩ hready
  have hsorted : (pending.insertionSort before).Perm pending := List.perm_insertionSort _ _
  obtain ⟨batch, w₂, hexecute, hhandled⟩ := executeAll_returns clock hhandler
    (pending.insertionSort before) w₁ ((hsorted.map _).nodup_iff.mpr hnodup)
    fun request hmem => (hpending request (hsorted.mem_iff.mp hmem)).1
  refine ⟨{ batch with receipts := refused ++ batch.receipts }, w₂, ?_, ?_⟩
  · unfold processPending
    rw [bind_apply, hnow]
    dsimp only
    rw [get_bind_apply, bind_apply, hsift]
    dsimp only
    rw [bind_apply, hexecute]
    rfl
  · intro request hfile hexpires hnone
    obtain ⟨other, hother, -, hsame⟩ := h.inbox _ hfile request.requestId rfl
    obtain rfl : request = other := FileContent.request.inj (congrArg InboxFile.content hsame)
    obtain ⟨hhost, hcreated⟩ := h.requests request hother
    have hload := load_of_valid hhost (hcreated.trans hclock) hexpires
    have hmem : request ∈ pending := hall _ (hperm.mem_iff.mpr hfile) request hload
      (receipt_eq_none.mp hnone)
    obtain ⟨execution, processedAt, b₁, b₂, hexecution, hreceipt⟩ :=
      hhandled request (hsorted.mem_iff.mpr hmem)
    exact ⟨execution, processedAt, b₁, b₂, hexecution, List.mem_append_right _ hreceipt⟩

end Call

/-! ## Calls that raise -/

section Raise

variable {hostHash : String} {time late : DateTime}

/-- A clock with one first reading and another one ever after. -/
def lateClock (time late : DateTime) : ℕ → DateTime × ℕ
  | 0 => (time, 1)
  | n + 1 => (late, n + 2)

/-- The receipt is there, and the clock has been read. -/
def Stands (id : ReceiptId) (existing : ControlReceipt) (w : ControlWorld ℕ) : Prop :=
  receipt w.directories id = some existing ∧ 0 < w.outside

variable {id : ReceiptId} {existing : ControlReceipt}

lemma keeps_now_stands :
    Keeps (Stands id existing) (now (lateClock time late)) := by
  rintro ⟨directories, n⟩ ⟨hreceipt, hread⟩
  obtain ⟨m, rfl⟩ := Nat.exists_eq_add_one_of_ne_zero (Nat.pos_iff_ne_zero.mp hread)
  exact ⟨hreceipt, Nat.succ_pos _⟩

lemma keeps_writeReceipt_stands {written : ControlReceipt} :
    Keeps (Stands id existing) (writeReceipt written) := by
  rintro w ⟨hreceipt, hread⟩
  unfold writeReceipt
  cases receipt w.directories written.receiptId with
  | none =>
    refine ⟨?_, hread⟩
    unfold receipt at hreceipt ⊢
    rw [List.find?_append, hreceipt]
    rfl
  | some old =>
    dsimp only
    by_cases hsame : old = written
    · rw [if_neg (not_not.mpr hsame)]
      exact ⟨hreceipt, hread⟩
    · rw [if_pos hsame]
      exact ⟨hreceipt, hread⟩

lemma keeps_sift_stands {file : InboxFile} :
    Keeps (Stands id existing) (sift (lateClock time late) hostHash time file) := by
  have hunlink : ∀ name, Keeps (Stands id existing) (unlink name : ControlProgram ℕ PUnit) :=
    fun name => keeps_modify fun w hw => hw
  have hreject : ∀ name reason rawHash, Keeps (Stands id existing)
      (reject (lateClock time late) name reason rawHash) := by
    intro name reason rawHash
    rw [reject_eq]
    exact keeps_bind keeps_now_stands fun _ => keeps_bind keeps_writeReceipt_stands fun _ =>
      keeps_bind (hunlink _) fun _ => keeps_pure
  unfold sift
  split
  · exact keeps_bind (hreject _ _ _) fun _ => keeps_pure
  · refine keeps_get_bind fun w hw => ?_
    split
    · exact keeps_ite (keeps_bind (hunlink _) fun _ => keeps_pure)
        (keeps_bind (hreject _ _ _) fun _ => keeps_pure)
    · exact keeps_pure

/-- A file that is refused again at another time makes the first loop raise. -/
lemma siftAll_raises {file : InboxFile} {reason : ControlRefusal} {rawHash : Option RawIdentity}
    (hload : load hostHash time file = .error (reason, rawHash))
    (hlate : existing.processedAt ≠ late) (files : List InboxFile) (hfile : file ∈ files)
    {w w' : ControlWorld ℕ} {found : List ControlReceipt × List ControlRequest}
    (hw : Stands (rejection file.name reason rawHash time).receiptId existing w) :
    siftAll (lateClock time late) hostHash time files w ≠ .ok found w' := by
  induction files generalizing w w' found with
  | nil => cases hfile
  | cons head rest ih =>
    intro hrun
    unfold siftAll at hrun
    obtain ⟨first, w₁, hsift, hrun₁⟩ := bind_eq_ok.mp hrun
    obtain ⟨more, w₂, hrest, -⟩ := bind_eq_ok.mp hrun₁
    rcases List.mem_cons.mp hfile with rfl | hfile
    · unfold sift at hsift
      rw [hload] at hsift
      dsimp only at hsift
      rw [reject_eq] at hsift
      obtain ⟨rejected, w₃, hreject, -⟩ := bind_eq_ok.mp hsift
      obtain ⟨processedAt, w₄, hnow, hrejected⟩ := bind_eq_ok.mp hreject
      obtain ⟨_, w₅, hwrite, -⟩ := bind_eq_ok.mp hrejected
      obtain ⟨directories, n⟩ := w
      obtain ⟨m, rfl⟩ := Nat.exists_eq_add_one_of_ne_zero (Nat.pos_iff_ne_zero.mp hw.2)
      cases hnow
      have hreceipt : receipt directories
        (rejection file.name reason rawHash late).receiptId = some existing := hw.1
      have hother : existing ≠ rejection file.name reason rawHash late := by
        rintro rfl
        exact hlate rfl
      have hfails : writeReceipt (rejection file.name reason rawHash late)
        (⟨directories, m + 2⟩ : ControlWorld ℕ) = _ := writeReceipt_of_other hreceipt hother
      cases hfails.symm.trans hwrite
    · exact ih hfile (keeps_sift_stands.ok hsift hw) hrest

/-- A call that processes the inbox finds no receipt of a file that it refuses. -/
lemma unanswered_of_processes {directories : ControlDirectories}
    (h : Processes hostHash time directories) : Unanswered hostHash time directories := by
  intro file hfile reason rawHash hload
  by_contra hsome
  obtain ⟨existing, hexisting⟩ := Option.ne_none_iff_exists'.mp hsome
  let late : DateTime := max time (existing.processedAt + 1)
  have hlate : existing.processedAt ≠ late :=
    ne_of_lt (lt_of_lt_of_le (Int.lt_succ _) (le_max_right _ _))
  have hclock : ∀ n, (lateClock time late n).1 ≤
      (lateClock time late (lateClock time late n).2).1 := by
    intro n
    cases n with
    | zero => exact le_max_left _ _
    | succ n => exact le_refl _
  obtain ⟨batch, w', hrun, -⟩ := h ℕ (lateClock time late)
    (fun _ b => (.ok ⟨.refused .expired, false, false⟩, b)) 0 directories.inbox rfl hclock
    (fun _ b => ⟨_, b, rfl⟩) (List.Perm.refl _)
  unfold processPending at hrun
  obtain ⟨first, w₁, hnow, hrun₁⟩ := bind_eq_ok.mp hrun
  cases hnow
  rw [get_bind_apply] at hrun₁
  obtain ⟨found, w₂, hsift, -⟩ := bind_eq_ok.mp hrun₁
  exact siftAll_raises hload hlate directories.inbox hfile ⟨hexisting, Nat.one_pos⟩ hsift

end Raise

section

open Sample

/-- The directories after a crash between the receipt of a request and its removal. -/
def Sample.answered : ControlDirectories :=
  ⟨[requestFile (request "a" .halt)], [completion (request "a" .halt) (.refused .expired) 1]⟩

lemma Sample.run_answered : ∃ s, Run "host" (.start ⟨[], []⟩ 0) s ∧ s.directories = answered ∧
    s.clock = 1 := by
  refine ⟨?last, ?run, ?directories, ?clock⟩
  case run =>
    refine .head (.enqueues (.begin (request "a" .halt) "tmp" (le_refl _) rfl
      (by simp [ControlSystem.start]) rfl (by simp [ControlSystem.start]))) ?_
    refine .head (.enqueues (@Enqueues.create _ _ [] [] _ rfl rfl
      (by simp [ControlSystem.start]))) ?_
    refine .head (.enqueues (@Enqueues.write _ _ [] [] _ rfl rfl)) ?_
    refine .head (.enqueues (@Enqueues.rename _ _ [] [] _ rfl rfl ⟨_, List.mem_cons_self, rfl⟩)) ?_
    refine .head (.consumes (.start 1 rfl (by decide))) ?_
    refine .head (.consumes (.list rfl (List.Perm.refl _))) ?_
    refine .head (.consumes (@Consumes.accept _ _ _ (requestFile (request "a" .halt)) _ _ _ rfl
      List.mem_cons_self rfl rfl)) ?_
    refine .head (.consumes (.sort rfl)) ?_
    refine .head (.consumes (.invoke (.refused .expired) 1 rfl (by decide))) ?_
    refine .head (.consumes (.complete rfl rfl)) ?_
    refine .head (.breaks .consumer) ?_
    exact .refl
  case directories => rfl
  case clock => rfl

end

end ControlInbox

end FirmQuant
