import Mathlib.Data.List.Sort
import FirmQuant.Foundation.Effect
import FirmQuant.Domain.Failure

/-!
# The control inbox

`ControlInbox` of `application/control_channel.py`: other processes put risk-reducing requests
into a directory, and the daemon that holds the writer lease consumes them and leaves receipts.

Files are modelled by what the code reads of them: the name, the kind, whether it is private and
of a valid size, and what its bytes decode to.  Digests are modelled by what they are taken of.
-/

namespace FirmQuant

open Effect

/-! ## Requests -/

/-- A canonical control request id, by its digest. -/
structure RequestId where
  digest : String
  deriving DecidableEq, Repr

/-- `ControlCommand`. -/
inductive ControlCommand
  | halt | disarm | cancelSystemOrders | stop
  deriving DecidableEq, Repr

/-- `_PRIORITY`. -/
def ControlCommand.priority : ControlCommand → ℕ
  | halt => 0
  | disarm => 1
  | cancelSystemOrders => 2
  | stop => 3

/-- `ControlStatus`. -/
inductive ControlStatus
  | unknown | queued | completed | rejected
  deriving DecidableEq, Repr

/-- `_MAX_TTL`. -/
def maxTtl : Duration := 15 * minute

/-- `ControlRequest`. -/
structure ControlRequest where
  requestId : RequestId
  command : ControlCommand
  createdAt : DateTime
  expiresAt : DateTime
  hostHash : String
  reasonSha256 : Option String
  expires_after : createdAt < expiresAt
  ttl_le : expiresAt - createdAt ≤ maxTtl
  deriving DecidableEq

/-- Why a request is refused. -/
inductive ControlRefusal
  | notUtf8 | duplicateKey | nonStandardJson | malformedJson | notObject | notCanonicalJson
  | fieldsInvalid | hostMismatch | fromFuture | expired | pathMismatch
  | symlink | notRegular | notPrivate | sizeInvalid | idCollision
  deriving DecidableEq, Repr

/-! ## Files -/

/-- The name of a file in the inbox: the one of a request, or any other. -/
inductive ControlFileName
  | request (id : RequestId)
  | other (text : String)
  deriving DecidableEq, Repr

/-- The kind of a file. -/
inductive FileKind
  | symlink | regular | special
  deriving DecidableEq, Repr

/-- What the bytes of a file decode to. -/
inductive FileContent
  | request (request : ControlRequest)
  | undecodable (reason : ControlRefusal) (bytes : String)
  deriving DecidableEq

/-- A file in the inbox. -/
structure InboxFile where
  name : ControlFileName
  kind : FileKind
  isPrivate : Bool
  sizeValid : Bool
  content : FileContent
  deriving DecidableEq

/-- The digest that a receipt keeps of a request: of its bytes, or of the name and the reason where
no bytes were read. -/
inductive RawIdentity
  | content (content : FileContent)
  | unread (name : ControlFileName) (reason : ControlRefusal)
  deriving DecidableEq

/-- The id of a receipt: of the request, or of a file that is none. -/
inductive ReceiptId
  | request (id : RequestId)
  | invalid (name : ControlFileName) (raw : RawIdentity)
  deriving DecidableEq

/-- The outcome that a receipt reports. -/
inductive ControlOutcome
  | refused (reason : ControlRefusal)
  | transitioned (command : ControlCommand) (revokedLeaseCount : ℕ) (runtimeState : RuntimeState)
  | swept (cancelCalls : ℕ) (cancelled denied terminal unknown : List String) (forbidden : Bool)
  deriving DecidableEq

/-- `ControlExecution`. -/
structure ControlExecution where
  outcome : ControlOutcome
  halted : Bool
  stop : Bool

/-- `ControlReceipt`. -/
structure ControlReceipt where
  receiptId : ReceiptId
  command : Option ControlCommand
  status : ControlStatus
  requestSha256 : RawIdentity
  processedAt : DateTime
  outcome : ControlOutcome
  deriving DecidableEq

/-- `ControlBatch`. -/
structure ControlBatch where
  receipts : List ControlReceipt
  halted : Bool
  stop : Bool

/-- No control. -/
def ControlBatch.none : ControlBatch := ⟨[], false, false⟩

/-- The two directories of the channel. -/
structure ControlDirectories where
  inbox : List InboxFile
  receipts : List ControlReceipt

/-- The directories beside the rest of the outside. -/
structure ControlWorld (B : Type) where
  directories : ControlDirectories
  outside : B

/-- A program of the inbox. -/
abbrev ControlProgram (B : Type) := EStateM Failure (ControlWorld B)

namespace ControlInbox

variable {B : Type}

/-- The file of a request, as `_atomic_write` leaves it. -/
def requestFile (request : ControlRequest) : InboxFile :=
  ⟨.request request.requestId, .regular, true, true, .request request⟩

/-- The receipt with an id. -/
def receipt (directories : ControlDirectories) (id : ReceiptId) : Option ControlReceipt :=
  directories.receipts.find? (·.receiptId = id)

/-- `self._clock()`. -/
def now (clock : B → DateTime × B) : ControlProgram B DateTime := fun w =>
  .ok (clock w.outside).1 { w with outside := (clock w.outside).2 }

/-! ## Consumption -/

/-- The checks of `_load_path` and `_parse_request`: the request of a file, or the refusal with
the digest that was taken before it. -/
def load (hostHash : String) (time : DateTime) (file : InboxFile) :
    Except (ControlRefusal × Option RawIdentity) ControlRequest :=
  if file.kind = .symlink then .error (.symlink, none)
  else if file.kind = .special then .error (.notRegular, none)
  else if file.isPrivate = false then .error (.notPrivate, none)
  else if file.sizeValid = false then .error (.sizeInvalid, none)
  else
    match file.content with
    | .undecodable reason _ => .error (reason, some (.content file.content))
    | .request request =>
      if request.hostHash ≠ hostHash then .error (.hostMismatch, some (.content file.content))
      else if time < request.createdAt then .error (.fromFuture, some (.content file.content))
      else if request.expiresAt ≤ time then .error (.expired, some (.content file.content))
      else if file.name ≠ .request request.requestId then
        .error (.pathMismatch, some (.content file.content))
      else .ok request

/-- `path.unlink`. -/
def unlink (name : ControlFileName) : ControlProgram B PUnit :=
  modify fun w => { w with directories :=
    { w.directories with inbox := w.directories.inbox.filter (·.name ≠ name) } }

/-- `_write_receipt`. -/
def writeReceipt (written : ControlReceipt) : ControlProgram B PUnit := fun w =>
  match receipt w.directories written.receiptId with
  | some existing =>
    if existing ≠ written then .error (.runtimeError "CONTROL_RECEIPT_COLLISION") w
    else .ok ⟨⟩ w
  | none =>
    .ok ⟨⟩ { w with directories :=
      { w.directories with receipts := w.directories.receipts ++ [written] } }

/-- `_reject`. -/
def reject (clock : B → DateTime × B) (name : ControlFileName) (reason : ControlRefusal)
    (rawHash : Option RawIdentity) : ControlProgram B ControlReceipt := do
  let raw := rawHash.getD (.unread name reason)
  let receiptId : ReceiptId := match name with
    | .request id => .request id
    | .other _ => .invalid name raw
  let processedAt ← now clock
  let written : ControlReceipt :=
    ⟨receiptId, none, .rejected, raw, processedAt, .refused reason⟩
  writeReceipt written
  unlink name
  pure written

/-- The body of the first loop of `process_pending`: a file is refused, was answered before, or is
pending. -/
def sift (clock : B → DateTime × B) (hostHash : String) (time : DateTime) (file : InboxFile) :
    ControlProgram B (List ControlReceipt × List ControlRequest) :=
  match load hostHash time file with
  | .error (reason, rawHash) => do
    let rejected ← reject clock file.name reason rawHash
    pure ([rejected], [])
  | .ok request => do
    match receipt (← get).directories (.request request.requestId) with
    | some existing =>
      if existing.requestSha256 = .content (.request request) then do
        unlink file.name
        pure ([], [])
      else do
        let rejected ← reject clock file.name .idCollision (some (.content (.request request)))
        pure ([rejected], [])
    | none => pure ([], [request])

/-- The first loop of `process_pending`. -/
def siftAll (clock : B → DateTime × B) (hostHash : String) (time : DateTime) :
    List InboxFile → ControlProgram B (List ControlReceipt × List ControlRequest)
  | [] => pure ([], [])
  | file :: rest => do
    let (receipts, pending) ← sift clock hostHash time file
    let (moreReceipts, morePending) ← siftAll clock hostHash time rest
    pure (receipts ++ moreReceipts, pending ++ morePending)

/-- The sort key of `process_pending`: priority, creation, id. -/
def before (a b : ControlRequest) : Prop :=
  a.command.priority < b.command.priority ∨
    (a.command.priority = b.command.priority ∧
      (a.createdAt < b.createdAt ∨
        (a.createdAt = b.createdAt ∧ ¬ b.requestId.digest < a.requestId.digest)))

instance : DecidableRel before := fun a b => by
  delta before
  infer_instance

/-- A handler of requests. -/
abbrev Handler (B : Type) := ControlRequest → B → Except Failure ControlExecution × B

/-- Call the handler. -/
def handle (handler : Handler B) (request : ControlRequest) :
    ControlProgram B ControlExecution := fun w =>
  match handler request w.outside with
  | (.ok execution, b) => .ok execution { w with outside := b }
  | (.error failure, b) => .error failure { w with outside := b }

/-- The second loop of `process_pending`. -/
def executeAll (clock : B → DateTime × B) (handler : Handler B) :
    List ControlRequest → ControlProgram B ControlBatch
  | [] => pure ControlBatch.none
  | request :: rest => do
    let execution ← handle handler request
    let processedAt ← now clock
    let written : ControlReceipt := ⟨.request request.requestId, some request.command, .completed,
      .content (.request request), processedAt, execution.outcome⟩
    writeReceipt written
    unlink (.request request.requestId)
    let batch ← executeAll clock handler rest
    pure ⟨written :: batch.receipts, execution.halted || batch.halted, execution.stop || batch.stop⟩

/-- `process_pending`. -/
def processPending (clock : B → DateTime × B) (hostHash : String) (handler : Handler B) :
    ControlProgram B ControlBatch := do
  let time ← now clock
  let entries := (← get).directories.inbox
  let (receipts, pending) ← siftAll clock hostHash time entries
  let batch ← executeAll clock handler (pending.insertionSort before)
  pure { batch with receipts := receipts ++ batch.receipts }

end ControlInbox

end FirmQuant
