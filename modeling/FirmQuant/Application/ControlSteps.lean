import FirmQuant.Application.ControlChannel

/-!
# The steps of the control channel

The calls of `application/control_channel.py`, file-system step by file-system step: one process
consumes the inbox with `process_pending` while others put requests into it with `enqueue`.  Any
of these calls may be cut off by a crash between two steps.

An `enqueue` writes a temporary file in the inbox itself and renames it, so that the temporary
file can be seen by a listing of the directory.  The receipts have a directory of their own which
nobody lists; a receipt is there from the rename on.  The clocks of all processes are one, and it
does not go back.
-/

namespace FirmQuant

namespace ControlInbox

/-! ## Processes -/

/-- Where a call of `enqueue` is: its checks are passed, its temporary file is there, that file is
written, it is renamed.  The call fails when there is nothing to rename. -/
inductive WriterPhase
  | opened | created | written | renamed | failed | crashed
  deriving DecidableEq, Repr

/-- A call of `enqueue`. -/
structure Writer where
  request : ControlRequest
  temporary : String
  phase : WriterPhase

/-- The name of the temporary file. -/
def Writer.temporaryName (writer : Writer) : ControlFileName := .other writer.temporary

/-- The name of the request's file. -/
def Writer.targetName (writer : Writer) : ControlFileName := .request writer.request.requestId

/-- Where the call of `process_pending` is. -/
inductive Consumer
  | idle
  /-- The time is read. -/
  | listing (time : DateTime)
  /-- The directory is listed; `entries` are to be loaded. -/
  | sifting (time : DateTime) (entries : List ControlFileName) (pending : List ControlRequest)
  /-- In `_reject`: the receipt is to be written. -/
  | rejecting (time : DateTime) (entries : List ControlFileName) (pending : List ControlRequest)
      (name : ControlFileName) (written : ControlReceipt)
  /-- The file is to be unlinked: it is refused, or it was answered before. -/
  | removing (time : DateTime) (entries : List ControlFileName) (pending : List ControlRequest)
      (name : ControlFileName)
  /-- The pending requests are sorted; the first one is to be handled. -/
  | executing (rest : List ControlRequest)
  /-- The handler has returned; the receipt is to be written. -/
  | completing (request : ControlRequest) (written : ControlReceipt) (rest : List ControlRequest)
  /-- The receipt is written; the request is to be unlinked. -/
  | clearing (request : ControlRequest) (rest : List ControlRequest)

/-- What is observed of the calls of `process_pending`. -/
inductive ControlEvent
  | started
  | invoked (request : ControlRequest)
  | receipted (receipt : ControlReceipt)
  | returned
  | raised

/-- The directories with the processes that work on them and the last reading of the clock. -/
structure ControlSystem where
  directories : ControlDirectories
  writers : List Writer
  consumer : Consumer
  clock : DateTime
  trace : List ControlEvent

/-- The directories before any call. -/
def ControlSystem.start (directories : ControlDirectories) (clock : DateTime) : ControlSystem :=
  ⟨directories, [], .idle, clock, []⟩

/-! ## Files -/

/-- A temporary file with this content. -/
def temporaryFile (temporary : String) (sizeValid : Bool) (content : FileContent) : InboxFile :=
  ⟨.other temporary, .regular, true, sizeValid, content⟩

/-- The directories with a new file. -/
def addFile (file : InboxFile) (directories : ControlDirectories) : ControlDirectories :=
  { directories with inbox := directories.inbox ++ [file] }

/-- The directories without a file. -/
def removeFile (name : ControlFileName) (directories : ControlDirectories) : ControlDirectories :=
  { directories with inbox := directories.inbox.filter (·.name ≠ name) }

/-- The directories with other content in a file, if it is there. -/
def writeFile (name : ControlFileName) (content : FileContent) (directories : ControlDirectories) :
    ControlDirectories :=
  { directories with inbox := directories.inbox.map fun file =>
      if file.name = name then { file with sizeValid := true, content := content } else file }

/-- `_write_receipt`, which fails when another receipt has the same id. -/
def record (written : ControlReceipt) (directories : ControlDirectories) :
    Option ControlDirectories :=
  match receipt directories written.receiptId with
  | none => some { directories with receipts := directories.receipts ++ [written] }
  | some existing => if existing = written then some directories else none

/-- The receipt of a refused file. -/
def rejection (name : ControlFileName) (reason : ControlRefusal) (rawHash : Option RawIdentity)
    (processedAt : DateTime) : ControlReceipt :=
  let raw := rawHash.getD (.unread name reason)
  ⟨match name with
    | .request id => .request id
    | .other _ => .invalid name raw, none, .rejected, raw, processedAt, .refused reason⟩

/-- The receipt of a handled request. -/
def completion (request : ControlRequest) (outcome : ControlOutcome) (processedAt : DateTime) :
    ControlReceipt :=
  ⟨.request request.requestId, some request.command, .completed, .content (.request request),
    processedAt, outcome⟩

/-- A receipt is observed when it is new. -/
def recorded (written : ControlReceipt) (directories : ControlDirectories) : List ControlEvent :=
  if receipt directories written.receiptId = none then [.receipted written] else []

/-! ## Steps -/

/-- A step of a call of `enqueue`.  The ids of requests and the names of temporary files are drawn
at random and are never drawn twice. -/
inductive Enqueues (hostHash : String) : ControlSystem → ControlSystem → Prop
  | begin {s : ControlSystem} (request : ControlRequest) (temporary : String) :
      s.clock ≤ request.createdAt → request.hostHash = hostHash →
      (∀ writer ∈ s.writers, writer.request.requestId ≠ request.requestId ∧
        writer.temporary ≠ temporary) →
      receipt s.directories (.request request.requestId) = none →
      (∀ file ∈ s.directories.inbox, file.name ≠ .request request.requestId ∧
        file.name ≠ .other temporary) →
      Enqueues hostHash s { s with
        writers := s.writers ++ [⟨request, temporary, .opened⟩]
        clock := request.createdAt }
  | create {s : ControlSystem} {first last : List Writer} {writer : Writer} :
      s.writers = first ++ writer :: last → writer.phase = .opened →
      (∀ file ∈ s.directories.inbox, file.name ≠ writer.temporaryName) →
      Enqueues hostHash s { s with
        directories := addFile
          (temporaryFile writer.temporary false (.undecodable .malformedJson "")) s.directories
        writers := first ++ { writer with phase := .created } :: last }
  | writePart {s : ControlSystem} {first last : List Writer} {writer : Writer}
      (reason : ControlRefusal) (bytes : String) :
      s.writers = first ++ writer :: last → writer.phase = .created →
      Enqueues hostHash s { s with
        directories := writeFile writer.temporaryName (.undecodable reason bytes) s.directories }
  | write {s : ControlSystem} {first last : List Writer} {writer : Writer} :
      s.writers = first ++ writer :: last → writer.phase = .created →
      Enqueues hostHash s { s with
        directories := writeFile writer.temporaryName (.request writer.request) s.directories
        writers := first ++ { writer with phase := .written } :: last }
  | rename {s : ControlSystem} {first last : List Writer} {writer : Writer} :
      s.writers = first ++ writer :: last → writer.phase = .written →
      (∃ file ∈ s.directories.inbox, file.name = writer.temporaryName) →
      Enqueues hostHash s { s with
        directories := addFile (requestFile writer.request)
          (removeFile writer.targetName (removeFile writer.temporaryName s.directories))
        writers := first ++ { writer with phase := .renamed } :: last }
  | renameFails {s : ControlSystem} {first last : List Writer} {writer : Writer} :
      s.writers = first ++ writer :: last → writer.phase = .written →
      (∀ file ∈ s.directories.inbox, file.name ≠ writer.temporaryName) →
      Enqueues hostHash s { s with
        writers := first ++ { writer with phase := .failed } :: last }

/-- A step of a call of `process_pending` whose handler returns. -/
inductive Consumes (hostHash : String) : ControlSystem → ControlSystem → Prop
  | start {s : ControlSystem} (time : DateTime) :
      s.consumer = .idle → s.clock ≤ time →
      Consumes hostHash s { s with
        consumer := .listing time
        clock := time
        trace := s.trace ++ [.started] }
  | list {s : ControlSystem} {time : DateTime} {entries : List ControlFileName} :
      s.consumer = .listing time → entries.Perm (s.directories.inbox.map (·.name)) →
      Consumes hostHash s { s with consumer := .sifting time entries [] }
  | skip {s : ControlSystem} {time : DateTime} {name : ControlFileName}
      {entries : List ControlFileName} {pending : List ControlRequest} :
      s.consumer = .sifting time (name :: entries) pending →
      (∀ file ∈ s.directories.inbox, file.name ≠ name) →
      Consumes hostHash s { s with consumer := .sifting time entries pending }
  | refuse {s : ControlSystem} {time : DateTime} {file : InboxFile}
      {entries : List ControlFileName} {pending : List ControlRequest} {reason : ControlRefusal}
      {rawHash : Option RawIdentity} (processedAt : DateTime) :
      s.consumer = .sifting time (file.name :: entries) pending → file ∈ s.directories.inbox →
      load hostHash time file = .error (reason, rawHash) → s.clock ≤ processedAt →
      Consumes hostHash s { s with
        consumer := .rejecting time entries pending file.name
          (rejection file.name reason rawHash processedAt)
        clock := processedAt }
  | accept {s : ControlSystem} {time : DateTime} {file : InboxFile}
      {entries : List ControlFileName} {pending : List ControlRequest} {request : ControlRequest} :
      s.consumer = .sifting time (file.name :: entries) pending → file ∈ s.directories.inbox →
      load hostHash time file = .ok request →
      receipt s.directories (.request request.requestId) = none →
      Consumes hostHash s { s with consumer := .sifting time entries (pending ++ [request]) }
  | answered {s : ControlSystem} {time : DateTime} {file : InboxFile}
      {entries : List ControlFileName} {pending : List ControlRequest} {request : ControlRequest}
      {existing : ControlReceipt} :
      s.consumer = .sifting time (file.name :: entries) pending → file ∈ s.directories.inbox →
      load hostHash time file = .ok request →
      receipt s.directories (.request request.requestId) = some existing →
      existing.requestSha256 = .content (.request request) →
      Consumes hostHash s { s with consumer := .removing time entries pending file.name }
  | collide {s : ControlSystem} {time : DateTime} {file : InboxFile}
      {entries : List ControlFileName} {pending : List ControlRequest} {request : ControlRequest}
      {existing : ControlReceipt} (processedAt : DateTime) :
      s.consumer = .sifting time (file.name :: entries) pending → file ∈ s.directories.inbox →
      load hostHash time file = .ok request →
      receipt s.directories (.request request.requestId) = some existing →
      existing.requestSha256 ≠ .content (.request request) → s.clock ≤ processedAt →
      Consumes hostHash s { s with
        consumer := .rejecting time entries pending file.name
          (rejection file.name .idCollision (some (.content (.request request))) processedAt)
        clock := processedAt }
  | reject {s : ControlSystem} {time : DateTime} {name : ControlFileName}
      {entries : List ControlFileName} {pending : List ControlRequest} {written : ControlReceipt}
      {directories : ControlDirectories} :
      s.consumer = .rejecting time entries pending name written →
      record written s.directories = some directories →
      Consumes hostHash s { s with
        directories := directories
        consumer := .removing time entries pending name
        trace := s.trace ++ recorded written s.directories }
  | rejectFails {s : ControlSystem} {time : DateTime} {name : ControlFileName}
      {entries : List ControlFileName} {pending : List ControlRequest} {written : ControlReceipt} :
      s.consumer = .rejecting time entries pending name written →
      record written s.directories = none →
      Consumes hostHash s { s with consumer := .idle, trace := s.trace ++ [.raised] }
  | remove {s : ControlSystem} {time : DateTime} {name : ControlFileName}
      {entries : List ControlFileName} {pending : List ControlRequest} :
      s.consumer = .removing time entries pending name →
      Consumes hostHash s { s with
        directories := removeFile name s.directories
        consumer := .sifting time entries pending }
  | sort {s : ControlSystem} {time : DateTime} {pending : List ControlRequest} :
      s.consumer = .sifting time [] pending →
      Consumes hostHash s { s with consumer := .executing (pending.insertionSort before) }
  | invoke {s : ControlSystem} {request : ControlRequest} {rest : List ControlRequest}
      (outcome : ControlOutcome) (processedAt : DateTime) :
      s.consumer = .executing (request :: rest) → s.clock ≤ processedAt →
      Consumes hostHash s { s with
        consumer := .completing request (completion request outcome processedAt) rest
        clock := processedAt
        trace := s.trace ++ [.invoked request] }
  | complete {s : ControlSystem} {request : ControlRequest} {written : ControlReceipt}
      {rest : List ControlRequest} {directories : ControlDirectories} :
      s.consumer = .completing request written rest →
      record written s.directories = some directories →
      Consumes hostHash s { s with
        directories := directories
        consumer := .clearing request rest
        trace := s.trace ++ recorded written s.directories }
  | completeFails {s : ControlSystem} {request : ControlRequest} {written : ControlReceipt}
      {rest : List ControlRequest} :
      s.consumer = .completing request written rest → record written s.directories = none →
      Consumes hostHash s { s with consumer := .idle, trace := s.trace ++ [.raised] }
  | clear {s : ControlSystem} {request : ControlRequest} {rest : List ControlRequest} :
      s.consumer = .clearing request rest →
      Consumes hostHash s { s with
        directories := removeFile (.request request.requestId) s.directories
        consumer := .executing rest }
  | finish {s : ControlSystem} :
      s.consumer = .executing [] →
      Consumes hostHash s { s with consumer := .idle, trace := s.trace ++ [.returned] }

/-- A call is cut off: by a crash of its process, or by an exception of the handler. -/
inductive Breaks : ControlSystem → ControlSystem → Prop
  | consumer {s : ControlSystem} : Breaks s { s with consumer := .idle }
  | writer {s : ControlSystem} {first last : List Writer} {writer : Writer} :
      s.writers = first ++ writer :: last →
      Breaks s { s with writers := first ++ { writer with phase := .crashed } :: last }
  | handler {s : ControlSystem} {request : ControlRequest} {rest : List ControlRequest} :
      s.consumer = .executing (request :: rest) →
      Breaks s { s with consumer := .idle, trace := s.trace ++ [.invoked request, .raised] }

/-- A step of the system. -/
inductive Step (hostHash : String) (s s' : ControlSystem) : Prop
  | enqueues : Enqueues hostHash s s' → Step hostHash s s'
  | consumes : Consumes hostHash s s' → Step hostHash s s'
  | breaks : Breaks s s' → Step hostHash s s'

/-- The runs of the system. -/
abbrev Run (hostHash : String) : ControlSystem → ControlSystem → Prop :=
  Relation.ReflTransGen (Step hostHash)

end ControlInbox

end FirmQuant
