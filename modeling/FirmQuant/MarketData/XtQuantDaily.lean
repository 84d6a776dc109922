import Mathlib.Data.Finset.Dedup
import Mathlib.Data.List.AList
import FirmQuant.Domain.Text
import FirmQuant.Foundation.Csv
import FirmQuant.Foundation.Decimal
import FirmQuant.Foundation.IsoDateTime
import FirmQuant.Persistence.DecimalText

/-!
# The daily data of XtQuant

`XtQuantDailyDataUpdater.update` of `market_data/xtquant_daily.py`: the histories that a provider
answers are checked against the stored series, staged, and published file by file.

A file is the list of its characters.  The attempts to fetch are left out: the updater works on the
answer of the last one.
-/

namespace FirmQuant

open Effect

/-- The product of two decimals in the decimal context. -/
def DecimalTuple.mul (a b : DecimalTuple) : DecimalTuple :=
  let negative := a.negative != b.negative
  let coefficient := a.coefficient * b.coefficient
  let exponent := a.exponent + b.exponent
  let dropped := (Nat.toDigits 10 coefficient).length - Decimal.precision
  let quotient := coefficient / 10 ^ dropped
  let remainder := coefficient % 10 ^ dropped
  let roundsUp := 10 ^ dropped < 2 * remainder ∨
    (10 ^ dropped = 2 * remainder ∧ quotient % 2 = 1)
  if dropped = 0 then ⟨negative, coefficient, exponent⟩
  else if ¬ roundsUp then ⟨negative, quotient, exponent + dropped⟩
  else if quotient + 1 = 10 ^ Decimal.precision then
    ⟨negative, 10 ^ (Decimal.precision - 1), exponent + dropped + 1⟩
  else ⟨negative, quotient + 1, exponent + dropped⟩

namespace XtQuantDaily

/-! ## Errors and facts -/

/-- The exceptions of an update. -/
inductive UpdateError
  /-- `DailyDataUpdateError`. -/
  | dailyData (message : String)
  /-- `SourceEpochResealRequired`. -/
  | resealRequired (message : String)
  | valueError (message : String)
  | typeError (message : String)
  deriving DecidableEq, Repr

/-- The numbers of a bar. -/
structure BarValues where
  session : CalendarDate
  openPrice : ℚ
  high : ℚ
  low : ℚ
  close : ℚ
  volume : ℤ
  amount : ℚ
  deriving DecidableEq

/-- The first check of `DailyBar` that these numbers fail. -/
def BarValues.violation (bar : BarValues) : Option String :=
  if min (min bar.openPrice bar.high) (min bar.low bar.close) ≤ 0 then
    some "daily bar prices must be positive"
  else if bar.high < max (max bar.openPrice bar.close) bar.low then
    some "daily bar high is inconsistent"
  else if min (min bar.openPrice bar.close) bar.high < bar.low then
    some "daily bar low is inconsistent"
  else if bar.volume < 0 then some "daily bar volume must be a nonnegative integer"
  else if bar.amount < 0 then some "daily bar amount must be nonnegative"
  else none

/-- The fields of a bar as they are written. -/
structure BarFields where
  session : CalendarDate
  openPrice : DecimalTuple
  high : DecimalTuple
  low : DecimalTuple
  close : DecimalTuple
  volume : ℤ
  amount : DecimalTuple

/-- The numbers of the fields. -/
def BarFields.values (bar : BarFields) : BarValues :=
  ⟨bar.session, bar.openPrice.value, bar.high.value, bar.low.value, bar.close.value, bar.volume,
    bar.amount.value⟩

/-- A `DailyBar`. -/
structure DailyBar extends BarFields where
  valid : toBarFields.values.violation = none

/-- The constructor of `DailyBar`. -/
def DailyBar.create (fields : BarFields) : Except UpdateError DailyBar :=
  match h : fields.values.violation with
  | none => .ok ⟨fields, h⟩
  | some message => .error (.valueError message)

/-- The states of an instrument in a session. -/
inductive InstrumentSessionState
  | trading | suspended | nonTrading
  deriving DecidableEq, Repr

/-- An `InstrumentSessionStatus`. -/
structure InstrumentSessionStatus where
  symbol : String
  session : CalendarDate
  state : InstrumentSessionState
  observedAt : DateTime
  source : String
  rawPayloadSha256 : Digest
  deriving DecidableEq

/-- What a provider answers: the histories, and the statuses if it has any. -/
structure ProviderAnswer where
  history : AList fun _ : String => List DailyBar
  statuses : Option (AList fun _ : String => InstrumentSessionStatus)

/-- `raw[symbol]`. -/
def ProviderAnswer.bars (answer : ProviderAnswer) (symbol : String) : List DailyBar :=
  (answer.history.lookup symbol).getD []

/-- A `DailySeriesObservation`. -/
structure DailySeriesObservation where
  symbol : String
  latestObservedSession : CalendarDate
  suspensionEvidenceSha256 : Option Digest
  deriving DecidableEq

/-- The manifest of the uquant data store. -/
structure UquantManifest where
  digest : Digest
  finish : CalendarDate
  symbols : List String

/-- `.firmquant-data-manifest.json`. -/
structure GovernanceManifest where
  targetSession : CalendarDate
  uquantManifestSha256 : Digest
  dataGenerationId : Option String
  observations : List DailySeriesObservation
  deriving DecidableEq

/-- The files of the updater: the series by name, the manifest of the last update, and the manifests
by session. -/
structure DataDisk where
  files : String → Option (List Char)
  governance : Option GovernanceManifest
  archive : CalendarDate → Option GovernanceManifest

/-- What the update asks of the standard library, of uquant and of the generation store. -/
structure DailyDataEnvironment where
  /-- `Decimal` of a text that is not digits with a point or without; `some none` is an infinity or
  no number. -/
  decimalOther : List Char → Option (Option DecimalTuple)
  /-- `date.fromisoformat` of a text in another form than `isoformat` writes. -/
  dateOther : List Char → Option CalendarDate
  /-- `evidence_sha256`. -/
  evidence : InstrumentSessionStatus → Digest
  /-- `DataStore.manifest` of the staged files. -/
  uquantManifest : List (String × List Char) → List String → CalendarDate →
    Except UpdateError UquantManifest
  /-- The active generation is the directory of the series. -/
  activeGeneration : (String → Option (List Char)) → Except UpdateError Unit
  /-- `refresh_active_manifest`, which returns the id of the generation; none without a store. -/
  refreshGeneration : (String → Option (List Char)) → Except UpdateError (Option String)

/-- The settings of the updater. -/
structure UpdaterSettings where
  requiredCompleteSymbols : List String
  maxStatusAge : Duration

/-! ## Series -/

/-- `_canonical_symbol`, for the digits of ASCII. -/
def canonicalSymbol (raw : String) : Except UpdateError String :=
  let value := ((strip raw.toList).map Char.toLower).filter (· ≠ '.')
  if value.length = 8 ∧ (Market.ofLower (value.take 2)).isSome ∧
      (value.drop 2).all Char.isDigit then
    .ok (String.ofList value)
  else .error (.valueError ("invalid canonical daily data symbol: " ++ raw))

/-- `_validate_series`: sorted and unique is strictly increasing. -/
def validateSeries (bars : List DailyBar) (label : String) (allowEmpty : Bool) :
    Except UpdateError Unit :=
  if bars = [] ∧ allowEmpty = false then
    .error (.dailyData (label ++ " daily history is empty"))
  else if ¬ (bars.map (·.session)).Pairwise (· < ·) then
    .error (.dailyData (label ++ " sessions must be sorted and unique"))
  else .ok ()

variable (env : DailyDataEnvironment)

/-- `_decimal(str(value))`. -/
def decimal (label : String) : Option (List Char) → Except UpdateError DecimalTuple
  | none => .error (.dailyData (label ++ " is not decimal-compatible"))
  | some text =>
    match DecimalTuple.ofSigned text with
    | some value => .ok value
    | none =>
      match env.decimalOther text with
      | none => .error (.dailyData (label ++ " is not decimal-compatible"))
      | some none => .error (.dailyData (label ++ " must be finite"))
      | some (some value) => .ok value

/-- The error of a row that lacks a name or breaks a check. -/
def invalidRow (name : String) : UpdateError := .dailyData ("market data row is invalid: " ++ name)

/-- `row[key]`. -/
def rowField (name key : String) (row : Csv.Row) : Except UpdateError (Option (List Char)) :=
  match row.get key.toList with
  | none => .error (invalidRow name)
  | some value => .ok value

/-- `date.fromisoformat(str(value))`. -/
def rowDate (name : String) : Option (List Char) → Except UpdateError CalendarDate
  | none => .error (invalidRow name)
  | some text =>
    match CalendarDate.fromIsoformat (String.ofList text) with
    | some session => .ok session
    | none =>
      match env.dateOther text with
      | some session => .ok session
      | none => .error (invalidRow name)

/-- The amount of a row, by its close and its volume if it has none of its own. -/
def rowAmount (row : Csv.Row) (close volume : DecimalTuple) : Except UpdateError DecimalTuple :=
  match row.get "amount".toList with
  | some (some (c :: cs)) => decimal env "existing amount" (some (c :: cs))
  | _ => .ok (close.mul volume)

/-- A row of a stored series. -/
def barOfRow (name : String) (row : Csv.Row) : Except UpdateError DailyBar := do
  let session ← rowDate env name (← rowField name "date" row)
  let volume ← decimal env "existing volume" (← rowField name "volume" row)
  refuse (volume.value.den ≠ 1) (.dailyData "existing volume must be whole shares")
  let openPrice ← decimal env "existing open" (← rowField name "open" row)
  let high ← decimal env "existing high" (← rowField name "high" row)
  let low ← decimal env "existing low" (← rowField name "low" row)
  let close ← decimal env "existing close" (← rowField name "close" row)
  let amount ← rowAmount env row close volume
  match DailyBar.create ⟨session, openPrice, high, low, close, volume.value.num, amount⟩ with
  | .ok bar => return bar
  | .error _ => throw (invalidRow name)

/-- `_read_existing` of a file that exists. -/
def readSeries (name : String) (text : List Char) : Except UpdateError (List DailyBar) :=
  match Csv.read text with
  | .error _ => .error (.dailyData ("cannot read market data file: " ++ name))
  | .ok records => do
    let bars ← (Csv.dictRows records).mapM (barOfRow env name)
    validateSeries bars name true
    return bars

/-- `_read_existing`. -/
def readExisting (files : String → Option (List Char)) (name : String) :
    Except UpdateError (List DailyBar) :=
  match files name with
  | none => .ok []
  | some text => readSeries env name text

/-- The header of a series. -/
def header : List (List Char) :=
  ["date".toList, "open".toList, "high".toList, "low".toList, "close".toList, "volume".toList,
    "amount".toList]

/-- `str(value)`. -/
def intText (n : ℤ) : List Char :=
  if n < 0 then '-' :: Nat.toDigits 10 n.natAbs else Nat.toDigits 10 n.natAbs

/-- The record of a bar. -/
def barRecord (bar : BarFields) : List (List Char) :=
  [bar.session.isoformat.toList, bar.openPrice.format.toList, bar.high.format.toList,
    bar.low.format.toList, bar.close.format.toList, intText bar.volume, bar.amount.format.toList]

/-- `_render`. -/
def render (bars : List DailyBar) : Except UpdateError (List Char) :=
  if ∃ bar ∈ bars, Json.maxStrDigits < (intText bar.volume).length then
    .error (.valueError "Exceeds the limit (4300 digits) for integer string conversion")
  else .ok (Csv.write (header :: bars.map fun bar => barRecord bar.toBarFields))

/-- `_merge`: the stored rows, each of which the history must repeat, and the rows after them. -/
def merge (existing incoming : List DailyBar) (symbol : String) :
    Except UpdateError (List DailyBar × ℕ) := do
  validateSeries incoming symbol false
  match existing.find? (fun prior => (incoming.find? (·.session = prior.session)).map
      (·.values) ≠ some prior.values) with
  | some prior => throw (.resealRequired ("SOURCE_EPOCH_RESEAL_REQUIRED:" ++ symbol ++ ":" ++
      prior.session.isoformat))
  | none =>
    let appended := incoming.filter fun item =>
      existing.getLast?.all fun last => last.session < item.session
    return (existing ++ appended, appended.length)

/-! ## The answer -/

/-- The last session of a history. -/
def latestSession (answer : ProviderAnswer) (symbol : String) : Option CalendarDate :=
  (answer.bars symbol).getLast?.map (·.session)

/-- The evidence of a symbol that lags behind the target session. -/
def lagEvidence (settings : UpdaterSettings) (answer : ProviderAnswer) (symbol : String)
    (through : CalendarDate) (now : DateTime) : Except UpdateError Digest :=
  match (answer.statuses.bind fun statuses => statuses.lookup symbol) with
  | none => .error (.dailyData "authoritative instrument status set is incomplete")
  | some fact => do
    let factSymbol ← canonicalSymbol fact.symbol
    refuse (factSymbol ≠ symbol ∨ fact.session ≠ through)
      (.dailyData (symbol ++ " authoritative status does not match target session"))
    refuse (now - fact.observedAt < 0 ∨ settings.maxStatusAge < now - fact.observedAt)
      (.dailyData (symbol ++ " authoritative instrument status is stale"))
    refuse (fact.state = .trading)
      (.dailyData (symbol ++ " does not reach target session while security is trading"))
    return env.evidence fact

/-- The observation of a symbol. -/
def observation (settings : UpdaterSettings) (answer : ProviderAnswer) (through : CalendarDate)
    (now : DateTime) (symbol : String) : Except UpdateError DailySeriesObservation :=
  match latestSession answer symbol with
  | none => .error (.dailyData (symbol ++ " daily history is empty"))
  | some latest =>
    if through < latest then
      .error (.dailyData (symbol ++ " history exceeds target trading session"))
    else if latest < through then do
      let evidence ← lagEvidence env settings answer symbol through now
      return ⟨symbol, latest, some evidence⟩
    else .ok ⟨symbol, latest, none⟩

/-- `_status_observations`. -/
def statusObservations (settings : UpdaterSettings) (answer : ProviderAnswer)
    (canonical : List String) (through : CalendarDate) (now : DateTime) :
    Except UpdateError (List DailySeriesObservation) := do
  let lagging := canonical.filter fun symbol => (latestSession answer symbol).any (· < through)
  match lagging.find? (· ∈ settings.requiredCompleteSymbols) with
  | some symbol => throw (.dailyData ("required complete symbol " ++ symbol ++
      " does not reach target trading session"))
  | none => do
    refuse (lagging ≠ [] ∧ answer.statuses = none)
      (.dailyData "authoritative instrument status is unavailable for missing target bar")
    refuse (lagging ≠ [] ∧ ¬ (answer.statuses.any fun statuses =>
        statuses.keys.toFinset = lagging.toFinset))
      (.dailyData "authoritative instrument status set is incomplete")
    canonical.mapM (observation env settings answer through now)

/-- One attempt of `_acquire`. -/
def acquire (settings : UpdaterSettings) (answer : ProviderAnswer) (canonical : List String)
    (through : CalendarDate) (now : DateTime) :
    Except UpdateError (List DailySeriesObservation) := do
  refuse (answer.history.keys.toFinset ≠ canonical.toFinset)
    (.dailyData "daily history provider returned incomplete symbol set")
  let _ ← canonical.mapM fun symbol => validateSeries (answer.bars symbol) symbol false
  statusObservations env settings answer canonical through now

/-! ## The update -/

/-- `_path`, as the name of a file. -/
def seriesName (files : String → Option (List Char)) (symbol : String) : String :=
  let prefixed := symbol ++ ".csv"
  let bare := String.ofList (symbol.toList.drop 2) ++ ".csv"
  if (files prefixed).isSome then prefixed
  else if (files bare).isSome then bare
  else prefixed

/-- The rows that are to be published of a symbol. -/
structure Candidate where
  symbol : String
  destination : String
  rows : List DailyBar
  appended : ℕ

/-- The rows of a symbol. -/
def candidate (files : String → Option (List Char)) (answer : ProviderAnswer) (symbol : String) :
    Except UpdateError Candidate := do
  let destination := seriesName files symbol
  let existing ← readExisting env files destination
  let (rows, appended) ← merge existing (answer.bars symbol) symbol
  return ⟨symbol, destination, rows, appended⟩

/-- A candidate that is staged with its text. -/
structure StagedSeries extends Candidate where
  text : List Char

/-- The text of a candidate. -/
def stage (candidate : Candidate) : Except UpdateError StagedSeries := do
  let text ← render candidate.rows
  return ⟨candidate, text⟩

/-- `os.replace` of a series. -/
def write (files : String → Option (List Char)) (name : String) (text : List Char) :
    String → Option (List Char) :=
  Function.update files name (some text)

/-- The files after all series are replaced. -/
def publish (files : String → Option (List Char)) (staged : List StagedSeries) :
    String → Option (List Char) :=
  staged.foldl (fun files series => write files series.destination series.text) files

/-- What is ready to be published. -/
structure Prepared where
  canonical : List String
  observations : List DailySeriesObservation
  staged : List StagedSeries
  manifest : UquantManifest

/-- The least of the observed sessions. -/
def observedCommon (observations : List DailySeriesObservation) : Option CalendarDate :=
  (observations.map (·.latestObservedSession)).min?

/-- The update up to the first file that it replaces. -/
def prepare (settings : UpdaterSettings) (symbols : List String) (through : CalendarDate)
    (answer : ProviderAnswer) (now : DateTime) (files : String → Option (List Char)) :
    Except UpdateError Prepared := do
  let named ← symbols.mapM canonicalSymbol
  let canonical := named.dedup.insertionSort (· ≤ ·)
  refuse (canonical = []) (.dailyData "daily update requires at least one symbol")
  env.activeGeneration files
  let observations ← acquire env settings answer canonical through now
  let candidates ← canonical.mapM (candidate env files answer)
  let staged ← candidates.mapM stage
  let manifest ← env.uquantManifest (staged.map fun series => (series.symbol, series.text))
    canonical through
  refuse (manifest.symbols ≠ canonical)
    (.dailyData "uquant manifest symbol identity does not match updated data")
  refuse (some manifest.finish ≠ observedCommon observations)
    (.dailyData "uquant manifest does not match observed strategy-data coverage")
  return ⟨canonical, observations, staged, manifest⟩

/-- A `DailyDataUpdateReceipt`. -/
structure DailyDataUpdateReceipt where
  latestCommonSession : CalendarDate
  manifestSha256 : Digest
  appendedRows : ℕ
  symbols : List String
  observations : List DailySeriesObservation
  dataGenerationId : Option String

/-- `XtQuantDailyDataUpdater.update`.  An exception leaves the files as they are by then. -/
def update (settings : UpdaterSettings) (symbols : List String) (through : CalendarDate)
    (answer : ProviderAnswer) (now : DateTime) :
    EStateM UpdateError DataDisk DailyDataUpdateReceipt := fun disk =>
  match prepare env settings symbols through answer now disk.files with
  | .error e => .error e disk
  | .ok prepared =>
    let files := publish disk.files prepared.staged
    match env.refreshGeneration files with
    | .error e => .error e { disk with files := files }
    | .ok generationId =>
      let governance : GovernanceManifest := {
        targetSession := through
        uquantManifestSha256 := prepared.manifest.digest
        dataGenerationId := generationId
        observations := prepared.observations }
      .ok {
        latestCommonSession := through
        manifestSha256 := prepared.manifest.digest
        appendedRows := (prepared.staged.map (·.appended)).sum
        symbols := prepared.canonical
        observations := prepared.observations
        dataGenerationId := generationId }
        { files := files
          governance := some governance
          archive := Function.update disk.archive through (some governance) }

end XtQuantDaily

end FirmQuant
