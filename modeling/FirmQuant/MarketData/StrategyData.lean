import FirmQuant.Domain.Facts
import FirmQuant.Foundation.Effect

/-!
# Strategy data

`StrategyDataValidator` of `market_data/validation.py`.  A manifest seals the rows of every series
by a digest of all rows and one of their first rows.  Where the digests are computed from the rows,
a history behind an earlier manifest is the beginning of the history behind every later one, along
any chain of accepted manifests.
-/

namespace FirmQuant

open Effect

/-- `DataKind`. -/
inductive DataKind
  | equity
  | index
  deriving DecidableEq

/-- `Adjustment`. -/
inductive Adjustment
  | forwardAdjusted
  | unadjusted
  deriving DecidableEq

/-- `DataValidationError`. -/
structure DataValidationError where
  message : String
  deriving DecidableEq, Repr

/-- `SeriesSeal`. -/
structure SeriesSeal where
  seriesId : String
  kind : DataKind
  adjustment : Adjustment
  firstSession : Date
  lastSession : Date
  rowCount : ℕ
  fullSha256 : Digest
  verifiedPrefixRowCount : ℕ
  verifiedPrefixSha256 : Digest
  suspensionSession : Option Date
  suspensionEvidenceSha256 : Option Digest
  deriving DecidableEq

/-- `DataManifest`, whose series have different ids. -/
structure DataManifest where
  latestCommonSession : Date
  capturedAt : DateTime
  provider : String
  series : List SeriesSeal
  nodup : (series.map (·.seriesId)).Nodup

/-- The ids of the series. -/
def DataManifest.ids (manifest : DataManifest) : List String := manifest.series.map (·.seriesId)

/-- The series of an id: `previous_by_id`. -/
def DataManifest.byId (manifest : DataManifest) (id : String) : Option SeriesSeal :=
  manifest.series.find? (·.seriesId = id)

/-- `DataValidationReceipt`. -/
structure DataValidationReceipt where
  latestCommonSession : Date
  previousManifestSha256 : Digest
  currentManifestSha256 : Digest

/-- `StrategyDataValidator`, with the digest of manifests. -/
structure StrategyDataValidator where
  maxManifestAge : ℤ
  manifestSha256 : DataManifest → Digest

namespace StrategyDataValidator

/-- `expected_adjustment`. -/
def expectedAdjustment : DataKind → Adjustment
  | .equity => .forwardAdjusted
  | .index => .unadjusted

/-- `suspended_unchanged`. -/
def SuspendedUnchanged (targetSession : Date) (prior current : SeriesSeal) : Prop :=
  current.kind = .equity ∧ current.suspensionSession = some targetSession ∧
    current.suspensionEvidenceSha256 ≠ none ∧ current.lastSession = prior.lastSession ∧
    current.rowCount = prior.rowCount ∧ current.fullSha256 = prior.fullSha256

instance {targetSession : Date} {prior current : SeriesSeal} :
    Decidable (SuspendedUnchanged targetSession prior current) :=
  inferInstanceAs (Decidable (_ ∧ _))

/-- The checks of a series against the one of the same id before. -/
def validateSeries (targetSession : Date) (prior current : SeriesSeal) :
    Except DataValidationError PUnit := do
  refuse (current.adjustment ≠ expectedAdjustment current.kind)
    ⟨"strategy data adjustment contract changed"⟩
  refuse (current.kind ≠ prior.kind ∨ current.adjustment ≠ prior.adjustment)
    ⟨"strategy data series semantics changed"⟩
  refuse (current.firstSession ≠ prior.firstSession) ⟨"strategy data historical start drifted"⟩
  if SuspendedUnchanged targetSession prior current then
    return ⟨⟩
  else do
    refuse (current.lastSession ≠ targetSession) ⟨"trading series does not reach target session"⟩
    refuse (current.suspensionSession ≠ none) ⟨"trading series retains stale suspension evidence"⟩
    refuse (current.rowCount ≤ prior.rowCount) ⟨"strategy data update did not append rows"⟩
    refuse (current.verifiedPrefixRowCount ≠ prior.rowCount)
      ⟨"strategy data prefix row count is not the prior history"⟩
    refuse (current.verifiedPrefixSha256 ≠ prior.fullSha256)
      ⟨"strategy data history prefix drift detected"⟩

/-- The loop over the series; the sets of ids agree by then, so that each has a prior one. -/
def validateAll (targetSession : Date) (previous : DataManifest) :
    List SeriesSeal → Except DataValidationError PUnit
  | [] => .ok ⟨⟩
  | current :: rest =>
    match previous.byId current.seriesId with
    | none => .error ⟨"strategy data series set changed"⟩
    | some prior => do
      validateSeries targetSession prior current
      validateAll targetSession previous rest

/-- `validate`. -/
def validate (validator : StrategyDataValidator) (previous current : DataManifest)
    (targetSession : Date) (now : DateTime) : Except DataValidationError DataValidationReceipt := do
  refuse (current.latestCommonSession ≠ targetSession)
    ⟨"latest common session does not equal target session"⟩
  refuse (now < current.capturedAt) ⟨"data manifest timestamp is in the future"⟩
  refuse (validator.maxManifestAge < now - current.capturedAt)
    ⟨"strategy data manifest is stale"⟩
  refuse (current.provider ≠ previous.provider) ⟨"strategy data provider changed"⟩
  refuse (¬ (previous.ids ⊆ current.ids ∧ current.ids ⊆ previous.ids))
    ⟨"strategy data series set changed"⟩
  validateAll targetSession previous current.series
  return ⟨current.latestCommonSession, validator.manifestSha256 previous,
    validator.manifestSha256 current⟩

end StrategyDataValidator

/-! ## Sealed histories -/

variable {ρ : Type} {sha : List ρ → Digest}

/-- The digests and the count of a seal are those of rows. -/
structure SeriesSeal.Seals (sha : List ρ → Digest) (item : SeriesSeal) (rows : List ρ) :
    Prop where
  rowCount : item.rowCount = rows.length
  full : item.fullSha256 = sha rows
  verifiedPrefix : item.verifiedPrefixSha256 = sha (rows.take item.verifiedPrefixRowCount)

/-- A manifest with the history behind each of its series. -/
structure SealedData (sha : List ρ → Digest) where
  manifest : DataManifest
  history : String → List ρ
  seals : ∀ item ∈ manifest.series, item.Seals sha (history item.seriesId)

namespace SealedData

open StrategyDataValidator

variable {v : StrategyDataValidator} {d d' : SealedData sha}

/-- The manifest is accepted after another one. -/
def Accepted (v : StrategyDataValidator) (d d' : SealedData sha) : Prop :=
  ∃ targetSession now receipt,
    v.validate d.manifest d'.manifest targetSession now = .ok receipt

/-- No series disappears, and every history is continued. -/
def Grows (d d' : SealedData sha) : Prop :=
  ∀ id ∈ d.manifest.ids, id ∈ d'.manifest.ids ∧ d.history id <+: d'.history id

instance : Trans (@Grows _ sha) (@Grows _ sha) (@Grows _ sha) where
  trans h h' id hid :=
    ⟨(h' id (h id hid).1).1, (h id hid).2.trans (h' id (h id hid).1).2⟩

variable {targetSession : Date} {current : SeriesSeal} {u : PUnit}

/-- A series that is accepted continues the rows of the one before. -/
lemma continues_of_validateSeries (hsha : Function.Injective sha) {prior : SeriesSeal}
    {rows rows' : List ρ} (hprior : prior.Seals sha rows) (hcurrent : current.Seals sha rows')
    (h : validateSeries targetSession prior current = .ok u) : rows <+: rows' := by
  unfold validateSeries at h
  iterate 3 obtain ⟨_, -, h⟩ := bind_ok_iff.mp h
  split at h
  · next hsuspended =>
    have hsame : sha rows' = sha rows := by
      rw [← hcurrent.full, ← hprior.full]
      exact hsuspended.2.2.2.2.2
    exact (hsha hsame) ▸ List.prefix_rfl
  · obtain ⟨_, -, h⟩ := bind_ok_iff.mp h
    iterate 3 obtain ⟨_, -, h⟩ := bind_ok_iff.mp h
    have hprefix : sha (rows'.take current.verifiedPrefixRowCount) = sha rows := by
      rw [← hcurrent.verifiedPrefix, ← hprior.full]
      exact not_not.mp (refuse_eq_ok.mp h)
    rw [← hsha hprefix]
    exact List.take_prefix _ _

/-- Every series of an accepted manifest was checked against the one of its id. -/
lemma exists_prior {previous : DataManifest} {series : List SeriesSeal}
    (h : validateAll targetSession previous series = .ok u) (hcurrent : current ∈ series) :
    ∃ prior ∈ previous.series, prior.seriesId = current.seriesId ∧
      validateSeries targetSession prior current = .ok ⟨⟩ := by
  induction series with
  | nil => cases hcurrent
  | cons item rest ih =>
    unfold validateAll at h
    split at h
    · cases h
    · next prior hprior =>
      obtain ⟨_, hitem, hrest⟩ := bind_ok_iff.mp h
      rcases List.mem_cons.mp hcurrent with rfl | hmem
      · exact ⟨prior, List.mem_of_find?_eq_some hprior,
          by simpa using List.find?_some hprior, hitem⟩
      · exact ih hrest hmem

/-- An accepted manifest loses no series and continues every history. -/
lemma grows_of_accepted (hsha : Function.Injective sha) (h : Accepted v d d') :
    Grows d d' := by
  obtain ⟨targetSession, now, receipt, h⟩ := h
  unfold validate at h
  iterate 4 obtain ⟨_, -, h⟩ := bind_ok_iff.mp h
  obtain ⟨_, hids, h⟩ := bind_ok_iff.mp h
  obtain ⟨_, hall, -⟩ := bind_ok_iff.mp h
  intro id hid
  have hid' := (not_not.mp (refuse_eq_ok.mp hids)).1 hid
  obtain ⟨current, hcurrent, rfl⟩ := List.mem_map.mp hid'
  obtain ⟨prior, hprior, hsame, hseries⟩ := exists_prior hall hcurrent
  refine ⟨hid', continues_of_validateSeries hsha ?_ (d'.seals current hcurrent) hseries⟩
  rw [← hsame]
  exact d.seals prior hprior

/-- **Strategy data only grows.**  Along accepted manifests no series disappears, and the history
behind an earlier one is the beginning of the history behind every later one. -/
theorem history_grows (hsha : Function.Injective sha) {chain : List (SealedData sha)}
    (h : chain.IsChain (Accepted v)) : chain.Pairwise Grows :=
  (h.imp fun _ _ => grows_of_accepted hsha).pairwise

namespace Sample

/-- The digest of letters is the text of them. -/
def sha256 : List Char → Digest := String.ofList

/-- A share that is sealed with its first rows. -/
def share (rows : String) (verified : ℕ) (last : Date) (suspended : Option Date) : SeriesSeal where
  seriesId := "sz300308"
  kind := .equity
  adjustment := .forwardAdjusted
  firstSession := 1
  lastSession := last
  rowCount := rows.toList.length
  fullSha256 := sha256 rows.toList
  verifiedPrefixRowCount := verified
  verifiedPrefixSha256 := sha256 (rows.toList.take verified)
  suspensionSession := suspended
  suspensionEvidenceSha256 := suspended.map fun _ => "evidence"

/-- A manifest of one share. -/
def data (rows : String) (verified : ℕ) (last session : Date) (suspended : Option Date) :
    SealedData sha256 where
  manifest := ⟨session, session, "xtquant", [share rows verified last suspended], by simp⟩
  history _ := rows.toList
  seals item hitem := by
    obtain rfl := List.mem_singleton.mp hitem
    exact ⟨rfl, rfl, rfl⟩

def validator : StrategyDataValidator := ⟨5, fun _ => ""⟩

/-- The share trades, is suspended for a session, and trades again. -/
def chain : List (SealedData sha256) :=
  [data "ab" 1 2 2 none, data "ab" 1 2 3 (some 3), data "abc" 2 4 4 none]

lemma chain_accepted : chain.IsChain (Accepted validator) :=
  .cons_cons ⟨3, 3, _, rfl⟩ (.cons_cons ⟨4, 4, _, rfl⟩ (.singleton _))

end Sample

/-- The history of the suspended share grows. -/
theorem history_grows_suspended : Sample.chain.Pairwise Grows :=
  history_grows (fun _ _ => String.ofList_injective) Sample.chain_accepted

end SealedData

end FirmQuant
