import FirmQuant.Domain.Text
import FirmQuant.Foundation.CrashLogic
import Mathlib.Data.List.AList
import Mathlib.Data.List.Sort

/-!
# Market-data generations

`DataGenerationStore` of `market_data/generations.py`: reviewed generations of daily data, rewrite
candidates, and one pointer to the active generation.

Files are kept by what they decode to.  A file that is replaced (`_atomic_json`) changes in one
step; a directory that is copied (`shutil.copytree`) appears empty and then file by file, each file
growing from nothing.
-/

namespace FirmQuant

open Effect Durable

/-- The errors of `DataGenerationStore`. -/
structure DataGenerationError where
  message : String
  deriving DecidableEq, Repr

/-- What a JSON file holds. -/
inductive StoredJson (α : Type)
  | missing
  /-- A file that is not JSON. -/
  | invalid
  /-- JSON that is not an object. -/
  | other
  | holds (value : α)
  deriving DecidableEq

/-- `path.exists()`. -/
def StoredJson.exists {α : Type} : StoredJson α → Bool
  | .missing => false
  | _ => true

/-! ## Records -/

/-- The bytes of a file. -/
abbrev FileBytes := List UInt8

/-- The CSV members of a directory. -/
abbrev CsvFiles := List (String × FileBytes)

/-- The digests of the members, in the order of their names. -/
abbrev MemberDigests := List (String × Digest)

/-- `generation.json`; a field that is absent or of another type is none. -/
structure GenerationManifest where
  generationId : Option String
  source : Option String
  createdAt : Option DateTime
  members : Option MemberDigests
  dataSha256 : Option Digest
  deriving DecidableEq

/-- A directory of a generation. -/
structure GenerationDirectory where
  files : CsvFiles
  manifest : StoredJson GenerationManifest
  deriving DecidableEq

/-- `DataGeneration`. -/
structure DataGeneration where
  generationId : String
  source : String
  createdAt : DateTime
  manifestSha256 : Digest
  dataSha256 : Digest
  deriving DecidableEq

/-- `candidate.json`. -/
structure CandidateManifest where
  candidateId : Option String
  activeGenerationId : String
  changedSymbols : Option (List String)
  changedSessions : Option (List Date)
  firstDifferenceSession : Option Date
  oldDigest : Digest
  newDigest : Digest
  source : String
  generatedAt : Option DateTime
  members : Option MemberDigests
  candidateSha256 : Option Digest
  deriving DecidableEq

/-- A directory of a rewrite candidate. -/
structure CandidateDirectory where
  files : CsvFiles
  manifest : StoredJson CandidateManifest
  names_nodup : (files.map Prod.fst).Nodup

/-- `RewriteCandidate`. -/
structure RewriteCandidate where
  candidateId : String
  activeGenerationId : String
  changedSymbols : List String
  changedSessions : List Date
  firstDifferenceSession : Option Date
  oldDigest : Digest
  newDigest : Digest
  source : String
  generatedAt : DateTime
  candidateSha256 : Digest
  deriving DecidableEq

/-- `active.json`. -/
structure ActivePointer where
  generationId : Option String
  manifestSha256 : Option Digest
  dataSha256 : Option Digest
  source : Option String
  deriving DecidableEq

/-- `pending-promotion.json`. -/
structure PendingPromotion where
  candidateId : Option String
  candidateSha256 : Option Digest
  previousGenerationId : Option String
  newGenerationId : Option String
  promotedAt : Option DateTime
  deriving DecidableEq

/-- A receipt of a source promotion. -/
structure PromotionReceipt where
  candidateId : String
  candidateSha256 : Digest
  previousGenerationId : String
  newGenerationId : String
  source : String
  promotedAt : DateTime
  deriving DecidableEq

/-- The files under `market-data`.  A receipt whose text is not the canonical one of any receipt is
none. -/
structure GenerationStore where
  generations : AList fun _ : String => GenerationDirectory
  candidates : AList fun _ : String => CandidateDirectory
  promotions : AList fun _ : String => Option PromotionReceipt
  activePointer : StoredJson ActivePointer
  pendingPromotion : StoredJson PendingPromotion

/-! ## Digests and ids -/

/-- A member of a directory as it is copied. -/
inductive DirectoryMember
  | csv (name : String) (bytes : FileBytes)
  | manifest (json : StoredJson GenerationManifest)
  deriving DecidableEq

/-- The name and the bytes of a CSV member. -/
def DirectoryMember.asCsv : DirectoryMember → Option (String × FileBytes)
  | .csv name bytes => some (name, bytes)
  | .manifest _ => none

/-- The manifest among the members. -/
def DirectoryMember.asManifest : DirectoryMember → Option (StoredJson GenerationManifest)
  | .csv _ _ => none
  | .manifest json => some json

/-- SHA-256 of what the store hashes, and the order in which the file system lists a directory. -/
structure GenerationEnvironment where
  member : FileBytes → Digest
  dataset : MemberDigests → Digest
  manifest : GenerationManifest → Digest
  /-- The digest of the manifest without its own digest. -/
  candidate : CandidateManifest → Digest
  scandir : List DirectoryMember → List DirectoryMember
  dataset_hex : ∀ members, (dataset members).toList.length = 64 ∧
    (dataset members).toList.all isHexDigit
  scandir_perm : ∀ members, (scandir members).Perm members

/-- An id of a kind of directory: the kind and 24 hexadecimal digits. -/
def isDirectoryId (kind id : String) : Bool :=
  id.toList.take kind.length = kind.toList && (id.toList.drop kind.length).length = 24 &&
    (id.toList.drop kind.length).all isHexDigit

/-- `_require_generation_id`. -/
def requireGenerationId (id : Option String) : Except DataGenerationError String :=
  match id with
  | some id => if isDirectoryId "gen-" id then .ok id
    else .error ⟨"data generation id is not canonical"⟩
  | none => .error ⟨"data generation id is not canonical"⟩

/-- `_require_candidate_id`. -/
def requireCandidateId (id : Option String) : Except DataGenerationError String :=
  match id with
  | some id => if isDirectoryId "candidate-" id then .ok id
    else .error ⟨"rewrite candidate id is not canonical"⟩
  | none => .error ⟨"rewrite candidate id is not canonical"⟩

/-- `f"gen-{digest[:24]}"`. -/
def generationIdOf (digest : Digest) : String :=
  "gen-" ++ String.ofList (digest.toList.take 24)

namespace GenerationStore

variable (env : GenerationEnvironment)

/-! ## Reading -/

/-- The order of `sorted` on member digests. -/
def byName (a b : String × Digest) : Prop := a.1 ≤ b.1

instance : DecidableRel byName := fun a b => inferInstanceAs (Decidable (a.1 ≤ b.1))

/-- The digests of CSV files. -/
def memberDigests (files : CsvFiles) : MemberDigests :=
  (files.map fun file => (file.1, env.member file.2)).insertionSort byName

/-- `_dataset_members`. -/
def datasetMembers (files : CsvFiles) : Except DataGenerationError MemberDigests :=
  if files = [] then .error ⟨"generation requires at least one CSV member"⟩
  else .ok (memberDigests env files)

/-- `source == source.strip()`, for the blanks of ASCII. -/
def isStripped (text : String) : Bool :=
  text.toList.head?.all (! ·.isWhitespace) && text.toList.getLast?.all (! ·.isWhitespace)

/-- The source of a manifest. -/
def requireSource (source : Option String) : Except DataGenerationError String :=
  match source with
  | some source => if source ≠ "" ∧ isStripped source = true then .ok source
    else .error ⟨"data generation source is invalid"⟩
  | none => .error ⟨"data generation source is invalid"⟩

/-- What `_load_generation` makes of a directory. -/
def readGeneration (id : String) (directory : GenerationDirectory) :
    Except DataGenerationError DataGeneration :=
  match directory.manifest with
  | .missing => .error ⟨"active data generation is missing"⟩
  | .invalid => .error ⟨"data generation manifest is invalid"⟩
  | .other => .error ⟨"data generation identity mismatch"⟩
  | .holds payload => do
    refuse (payload.generationId ≠ some id) ⟨"data generation identity mismatch"⟩
    let members ← datasetMembers env directory.files
    refuse (payload.members ≠ some members) ⟨"data generation member digest changed"⟩
    refuse (payload.dataSha256 ≠ some (env.dataset members)) ⟨"data generation digest changed"⟩
    match payload.createdAt with
    | none => throw ⟨"data generation timestamp is invalid"⟩
    | some createdAt => do
      let source ← requireSource payload.source
      return {
        generationId := id
        source := source
        createdAt := createdAt
        manifestSha256 := env.manifest payload
        dataSha256 := env.dataset members }

/-- `_load_generation`. -/
def loadGeneration (store : GenerationStore) (id : Option String) :
    Except DataGenerationError DataGeneration := do
  let canonicalId ← requireGenerationId id
  match store.generations.lookup canonicalId with
  | none => throw ⟨"active data generation is missing"⟩
  | some directory => readGeneration env canonicalId directory

/-- `active`. -/
def active (store : GenerationStore) : Except DataGenerationError DataGeneration :=
  match store.activePointer with
  | .missing => .error ⟨"active data generation pointer is missing"⟩
  | .invalid => .error ⟨"active data generation pointer is invalid"⟩
  | .other => .error ⟨"active data generation pointer lacks identity"⟩
  | .holds payload => do
    refuse (payload.generationId = none) ⟨"active data generation pointer lacks identity"⟩
    let generation ← store.loadGeneration env payload.generationId
    refuse (payload.manifestSha256 ≠ some generation.manifestSha256)
      ⟨"active data generation manifest identity changed"⟩
    refuse (payload.dataSha256 ≠ some generation.dataSha256)
      ⟨"active data generation digest identity changed"⟩
    return generation

/-- What `verify_candidate` makes of a directory. -/
def readCandidate (id : String) (directory : CandidateDirectory) :
    Except DataGenerationError RewriteCandidate :=
  match directory.manifest with
  | .missing => .error ⟨"rewrite candidate is missing"⟩
  | .invalid => .error ⟨"rewrite candidate manifest is invalid"⟩
  | .other => .error ⟨"rewrite candidate identity changed"⟩
  | .holds payload => do
    refuse (payload.candidateId ≠ some id) ⟨"rewrite candidate identity changed"⟩
    let expected := env.candidate { payload with candidateSha256 := none }
    refuse (payload.candidateSha256 ≠ some expected) ⟨"rewrite candidate manifest changed"⟩
    let members ← datasetMembers env directory.files
    refuse (payload.members ≠ some members) ⟨"rewrite candidate data changed"⟩
    match payload.changedSessions, payload.generatedAt, payload.changedSymbols with
    | some changedSessions, some generatedAt, some changedSymbols => do
      let activeGenerationId ← requireGenerationId (some payload.activeGenerationId)
      return {
        candidateId := id
        activeGenerationId := activeGenerationId
        changedSymbols := changedSymbols
        changedSessions := changedSessions
        firstDifferenceSession := payload.firstDifferenceSession
        oldDigest := payload.oldDigest
        newDigest := payload.newDigest
        source := payload.source
        generatedAt := generatedAt
        candidateSha256 := expected }
    | some _, some _, none => throw ⟨"rewrite candidate symbols changed"⟩
    | _, _, _ => throw ⟨"rewrite candidate metadata changed"⟩

/-- `verify_candidate`. -/
def verifyCandidate (store : GenerationStore) (id : Option String) :
    Except DataGenerationError RewriteCandidate := do
  let canonicalId ← requireCandidateId id
  match store.candidates.lookup canonicalId with
  | none => throw ⟨"rewrite candidate is missing"⟩
  | some directory => readCandidate env canonicalId directory

/-! ## Copying a directory -/

/-- A copied file grows from nothing; a manifest is no JSON before it is whole. -/
def versions : DirectoryMember → List DirectoryMember
  | .csv name bytes => bytes.inits.map (.csv name)
  | .manifest json => [.manifest .invalid, .manifest json]

/-- A directory with these members. -/
def directoryOf (members : List DirectoryMember) : GenerationDirectory where
  files := members.filterMap DirectoryMember.asCsv
  manifest := (members.filterMap DirectoryMember.asManifest).head?.getD .missing

/-- The directories that a copy goes through, after the members that are done. -/
def copyStages (done : List DirectoryMember) : List DirectoryMember → List GenerationDirectory
  | [] => []
  | member :: rest => (versions member).map (fun version => directoryOf (done ++ [version])) ++
      copyStages (done ++ [member]) rest

/-- A staged directory, in the order in which its members were written. -/
def staged (files : CsvFiles) (manifest : GenerationManifest) : List DirectoryMember :=
  files.map (fun file => .csv file.1 file.2) ++ [.manifest (.holds manifest)]

/-- `shutil.copytree` to the directory of a generation. -/
def copytree (id : String) (files : CsvFiles) (manifest : GenerationManifest) :
    Durable DataGenerationError GenerationStore PUnit :=
  (directoryOf [] :: copyStages [] (env.scandir (staged files manifest))).forM fun directory =>
    step fun store => { store with generations := store.generations.insert id directory }

/-- `_generation_payload`. -/
def generationPayload (id source : String) (createdAt : DateTime) (members : MemberDigests) :
    Except DataGenerationError GenerationManifest := do
  let canonicalId ← requireGenerationId (some id)
  return ⟨some canonicalId, some source, some createdAt, some members, some (env.dataset members)⟩

/-- A new generation, unless its directory exists. -/
def publishGeneration (id : String) (files : CsvFiles) (source : String) (createdAt : DateTime) :
    Durable DataGenerationError GenerationStore PUnit := do
  let store ← look
  if id ∈ store.generations then return ⟨⟩
  else do
    let members ← check fun _ => datasetMembers env files
    let payload ← check fun _ => generationPayload env id source createdAt members
    copytree env id files payload

/-! ## Promotion -/

/-- The pointer to a generation. -/
def pointerTo (generation : DataGeneration) : ActivePointer :=
  ⟨some generation.generationId, some generation.manifestSha256, some generation.dataSha256,
    some generation.source⟩

/-- `_replace_active_pointer`. -/
def replaceActivePointer (generation : DataGeneration) :
    Durable DataGenerationError GenerationStore PUnit :=
  step fun store => { store with activePointer := .holds (pointerTo generation) }

/-- `_pending_payload`. -/
def pendingPayload (store : GenerationStore) : Except DataGenerationError PendingPromotion :=
  match store.pendingPromotion with
  | .missing => .error ⟨"pending source promotion receipt is unavailable"⟩
  | .invalid | .other => .error ⟨"pending source promotion receipt is invalid"⟩
  | .holds payload => .ok payload

/-- What a pending promotion names, checked against the store. -/
structure PendingIdentity where
  candidateId : String
  candidate : RewriteCandidate
  previousId : String
  newId : String
  previous : DataGeneration
  promoted : DataGeneration

/-- The first checks of `recover_pending_promotion`. -/
def pendingIdentity (pending : PendingPromotion) (store : GenerationStore) :
    Except DataGenerationError PendingIdentity := do
  let candidateId ← requireCandidateId pending.candidateId
  let candidate ← store.verifyCandidate env (some candidateId)
  refuse (pending.candidateSha256 ≠ some candidate.candidateSha256)
    ⟨"pending promotion candidate identity changed"⟩
  let previousId ← requireGenerationId pending.previousGenerationId
  let newId ← requireGenerationId pending.newGenerationId
  let previous ← store.loadGeneration env (some previousId)
  let promoted ← store.loadGeneration env (some newId)
  refuse (previous.dataSha256 ≠ candidate.oldDigest ∨ promoted.dataSha256 ≠ candidate.newDigest)
    ⟨"pending promotion generation identity changed"⟩
  return ⟨candidateId, candidate, previousId, newId, previous, promoted⟩

/-- The receipt of a promotion. -/
def receiptOf (identity : PendingIdentity) (promotedAt : DateTime) : PromotionReceipt where
  candidateId := identity.candidateId
  candidateSha256 := identity.candidate.candidateSha256
  previousGenerationId := identity.previous.generationId
  newGenerationId := identity.promoted.generationId
  source := identity.promoted.source
  promotedAt := promotedAt

/-- The receipt is written, or it is there already. -/
def publishReceipt (receipt : PromotionReceipt) :
    Durable DataGenerationError GenerationStore PUnit := do
  let store ← look
  match store.promotions.lookup receipt.candidateId with
  | some existing =>
    refuse (existing ≠ some receipt)
      ⟨"source promotion receipt conflicts with pending promotion"⟩
  | none =>
    step fun store => { store with
      promotions := store.promotions.insert receipt.candidateId (some receipt) }

/-- The pointer is replaced, or it was replaced before. -/
def switchPointer (identity : PendingIdentity) (current : DataGeneration) :
    Durable DataGenerationError GenerationStore PUnit :=
  if current.generationId = identity.previousId then replaceActivePointer identity.promoted
  else
    refuse (m := Durable DataGenerationError GenerationStore)
      (current.generationId ≠ identity.newId) ⟨"active data conflicts with pending promotion"⟩

/-- `recover_pending_promotion`. -/
def recoverPendingPromotion :
    Durable DataGenerationError GenerationStore (Option DataGeneration) := do
  let store ← look
  if store.pendingPromotion.exists = false then return none
  else do
    let pending ← check pendingPayload
    let identity ← check (pendingIdentity env pending)
    let current ← check (active env)
    switchPointer identity current
    match pending.promotedAt with
    | none => throw ⟨"pending promotion time is invalid"⟩
    | some promotedAt => do
      publishReceipt (receiptOf identity promotedAt)
      step fun store => { store with pendingPromotion := .missing }
      return some identity.promoted

/-- The CSV members of a candidate. -/
def candidateFiles (store : GenerationStore) (id : String) : CsvFiles :=
  ((store.candidates.lookup id).map CandidateDirectory.files).getD []

/-- `promote_candidate` while no promotion is pending. -/
def promoteNew (id : String) (expectedCandidateSha256 : Digest) (promotedAt : DateTime) :
    Durable DataGenerationError GenerationStore DataGeneration := do
  let candidate ← check fun store => store.verifyCandidate env (some id)
  refuse (candidate.candidateSha256 ≠ expectedCandidateSha256)
    ⟨"rewrite candidate approval identity changed"⟩
  let current ← check (active env)
  refuse (current.generationId ≠ candidate.activeGenerationId ∨
    current.dataSha256 ≠ candidate.oldDigest)
    ⟨"active data changed after rewrite candidate generation"⟩
  let store ← look
  publishGeneration env (generationIdOf candidate.newDigest) (store.candidateFiles id)
    candidate.source promotedAt
  let promoted ← check fun store =>
    store.loadGeneration env (some (generationIdOf candidate.newDigest))
  refuse (promoted.dataSha256 ≠ candidate.newDigest)
    ⟨"promoted generation does not match approved candidate"⟩
  step fun store => { store with
    pendingPromotion := .holds ⟨some id, some candidate.candidateSha256,
      some current.generationId, some promoted.generationId, some promotedAt⟩ }
  let recovered ← recoverPendingPromotion env
  match recovered with
  | some generation => return generation
  | none => throw ⟨"source promotion finalization was not durable"⟩

/-- `promote_candidate`. -/
def promoteCandidate (candidateId : String) (expectedCandidateSha256 : Digest)
    (promotedAt : DateTime) : Durable DataGenerationError GenerationStore DataGeneration := do
  let id ← check fun _ => requireCandidateId (some candidateId)
  let store ← look
  if store.pendingPromotion.exists = true then do
    let pending ← check pendingPayload
    refuse (pending.candidateId ≠ some id ∨
      pending.candidateSha256 ≠ some expectedCandidateSha256)
      ⟨"another source promotion is already pending"⟩
    let recovered ← recoverPendingPromotion env
    match recovered with
    | some generation => return generation
    | none => throw ⟨"pending source promotion disappeared"⟩
  else promoteNew env id expectedCandidateSha256 promotedAt

/-! ## The first generation -/

/-- The arguments of `ensure_active`; a seed directory that is no regular directory is none. -/
structure SeedData where
  files : Option CsvFiles
  source : String
  createdAt : DateTime

/-- `ensure_active` without an active pointer. -/
def seedActive (seed : SeedData) : Durable DataGenerationError GenerationStore DataGeneration := do
  match seed.files with
  | none => throw ⟨"seed data root must be an existing regular directory"⟩
  | some files => do
    let members ← check fun _ => datasetMembers env files
    let id := generationIdOf (env.dataset members)
    publishGeneration env id files seed.source seed.createdAt
    let generation ← check fun store => store.loadGeneration env (some id)
    replaceActivePointer generation
    return generation

/-- `ensure_active`. -/
def ensureActive (seed : SeedData) :
    Durable DataGenerationError GenerationStore DataGeneration := do
  let store ← look
  if store.pendingPromotion.exists = true ∧ store.activePointer.exists = true then
    let _ ← recoverPendingPromotion env
  let store ← look
  if store.activePointer.exists = true then check (active env)
  else seedActive env seed

end GenerationStore

end FirmQuant
