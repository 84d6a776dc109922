import FirmQuant.MarketData.Generations

/-!
# Crash-safe promotion

A promotion that is cut anywhere leaves the previous generation active or the approved one.  It can
be completed afterwards by `promote_candidate` or `ensure_active`, unless it was cut while the
directory of the new generation was copied: a retry takes a directory that exists for a whole one.
-/

namespace FirmQuant

open Effect Durable

namespace GenerationStore

section Generations

variable {env : GenerationEnvironment} {start s t : GenerationStore} {id : String}
  {files : CsvFiles} {manifest : GenerationManifest}

/-! ## Ids -/

/-- The id that is derived from a digest of data is canonical. -/
lemma requireGenerationId_of_dataset (members : MemberDigests) :
    requireGenerationId (some (generationIdOf (env.dataset members))) =
      .ok (generationIdOf (env.dataset members)) := by
  obtain ⟨hlength, hhex⟩ := env.dataset_hex members
  have hcanonical : isDirectoryId "gen-" (generationIdOf (env.dataset members)) = true := by
    have htext : (generationIdOf (env.dataset members)).toList =
        "gen-".toList ++ (env.dataset members).toList.take 24 := by
      simp [generationIdOf]
    have htake : ((env.dataset members).toList.take 24).all isHexDigit = true :=
      List.all_eq_true.mpr fun c hc => List.all_eq_true.mp hhex c (List.mem_of_mem_take hc)
    unfold isDirectoryId
    rw [htext]
    have hkind : "gen-".length = "gen-".toList.length := rfl
    rw [hkind, List.take_left, List.drop_left, List.length_take, hlength, htake]
    rfl
  unfold requireGenerationId
  simp only [hcanonical, if_true]

variable {text : Option String} {generation : DataGeneration}

lemma requireGenerationId_eq_ok (h : requireGenerationId text = .ok id) :
    text = some id := by
  unfold requireGenerationId at h
  split at h
  · split_ifs at h
    cases h
    rfl
  · cases h

lemma requireCandidateId_eq_ok (h : requireCandidateId text = .ok id) :
    text = some id := by
  unfold requireCandidateId at h
  split at h
  · split_ifs at h
    cases h
    rfl
  · cases h

/-! ## Reading generations -/

lemma loadGeneration_id (h : s.loadGeneration env text = .ok generation) :
    text = some generation.generationId := by
  obtain ⟨canonicalId, hid, hload⟩ := bind_ok_iff.mp h
  rw [requireGenerationId_eq_ok hid]
  split at hload
  · cases hload
  · unfold readGeneration at hload
    split at hload
    · cases hload
    · cases hload
    · cases hload
    · obtain ⟨-, -, hload⟩ := bind_ok_iff.mp hload
      obtain ⟨members, -, hload⟩ := bind_ok_iff.mp hload
      iterate 2 obtain ⟨-, -, hload⟩ := bind_ok_iff.mp hload
      split at hload
      · cases hload
      · obtain ⟨source, -, hload⟩ := bind_ok_iff.mp hload
        cases hload
        rfl

lemma mem_of_loadGeneration (h : s.loadGeneration env (some id) = .ok generation) :
    id ∈ s.generations := by
  obtain ⟨canonicalId, hid, hload⟩ := bind_ok_iff.mp h
  cases requireGenerationId_eq_ok hid
  split at hload
  · cases hload
  · rename_i directory hlookup
    exact AList.lookup_isSome.mp (by rw [hlookup]; rfl)

/-- A generation is read from its own directory alone. -/
lemma loadGeneration_congr (h : s.generations.lookup id = t.generations.lookup id) :
    s.loadGeneration env (some id) = t.loadGeneration env (some id) := by
  unfold loadGeneration
  cases hid : requireGenerationId (some id) with
  | error e => rfl
  | ok canonicalId =>
    cases requireGenerationId_eq_ok hid
    simp only [ok_bind, h]

/-- The active generation is the one that the pointer was written for, while it loads. -/
lemma active_of_pointer (hpointer : s.activePointer = .holds (pointerTo generation))
    (hload : s.loadGeneration env (some generation.generationId) = .ok generation) :
    s.active env = .ok generation := by
  unfold active
  rw [hpointer]
  have hcheck (c : Prop) [Decidable c] (hc : ¬ c) (e : DataGenerationError) :
      (refuse c e : Except DataGenerationError PUnit) = .ok ⟨⟩ := refuse_eq_ok.mpr hc
  refine bind_ok_iff.mpr ⟨_, hcheck _ (by simp [pointerTo]) _, ?_⟩
  refine bind_ok_iff.mpr ⟨_, hload,
    bind_ok_iff.mpr ⟨_, hcheck _ (by simp [pointerTo]) _,
    bind_ok_iff.mpr ⟨_, hcheck _ (by simp [pointerTo]) _, rfl⟩⟩⟩

lemma active_eq_ok (h : s.active env = .ok generation) :
    s.activePointer.exists = true ∧
      s.loadGeneration env (some generation.generationId) = .ok generation := by
  unfold active at h
  split at h
  · cases h
  · cases h
  · cases h
  · rename_i payload hpointer
    obtain ⟨-, -, h⟩ := bind_ok_iff.mp h
    obtain ⟨loaded, hload, h⟩ := bind_ok_iff.mp h
    iterate 2 obtain ⟨-, -, h⟩ := bind_ok_iff.mp h
    cases h
    rw [loadGeneration_id hload] at hload
    exact ⟨by rw [hpointer]; rfl, hload⟩

/-- The active generation depends on the pointer and on the directory of the generation. -/
lemma active_congr (h : s.active env = .ok generation)
    (hpointer : t.activePointer = s.activePointer)
    (hlookup : t.generations.lookup generation.generationId =
      s.generations.lookup generation.generationId) : t.active env = .ok generation := by
  have hload := (active_eq_ok h).2
  unfold active at h ⊢
  rw [hpointer]
  split at h
  · cases h
  · cases h
  · cases h
  · rename_i payload _
    obtain ⟨u, hid, h⟩ := bind_ok_iff.mp h
    obtain ⟨loaded, hloaded, h⟩ := bind_ok_iff.mp h
    obtain ⟨u', hmanifest, h⟩ := bind_ok_iff.mp h
    obtain ⟨u'', hdata, h⟩ := bind_ok_iff.mp h
    cases h
    have hsame : t.loadGeneration env payload.generationId = .ok generation := by
      rw [loadGeneration_id hloaded, loadGeneration_congr hlookup]
      exact hload
    exact bind_ok_iff.mpr ⟨u, hid, bind_ok_iff.mpr ⟨_, hsame,
      bind_ok_iff.mpr ⟨u', hmanifest, bind_ok_iff.mpr ⟨u'', hdata, rfl⟩⟩⟩⟩

lemma verifyCandidate_congr (h : t.candidates = s.candidates) (text : Option String) :
    t.verifyCandidate env text = s.verifyCandidate env text := by
  unfold verifyCandidate
  rw [h]

lemma verifyCandidate_id {candidate : RewriteCandidate}
    (h : s.verifyCandidate env text = .ok candidate) :
    requireCandidateId text = .ok candidate.candidateId ∧
      ∃ directory, s.candidates.lookup candidate.candidateId = some directory ∧
        directory.files ≠ [] := by
  obtain ⟨canonicalId, hid, hread⟩ := bind_ok_iff.mp h
  split at hread
  · cases hread
  rename_i directory hlookup
  unfold readCandidate at hread
  split at hread
  · cases hread
  · cases hread
  · cases hread
  iterate 2 obtain ⟨-, -, hread⟩ := bind_ok_iff.mp hread
  obtain ⟨members, hmembers, hread⟩ := bind_ok_iff.mp hread
  obtain ⟨-, -, hread⟩ := bind_ok_iff.mp hread
  have hfiles : directory.files ≠ [] := by
    intro hnil
    unfold datasetMembers at hmembers
    rw [if_pos hnil] at hmembers
    cases hmembers
  split at hread
  · obtain ⟨activeId, -, hread⟩ := bind_ok_iff.mp hread
    cases hread
    exact ⟨hid, directory, hlookup, hfiles⟩
  · cases hread
  · cases hread

/-! ## A whole directory -/

lemma memberDigests_perm {files' : CsvFiles} (h : files'.Perm files)
    (hnodup : (files.map Prod.fst).Nodup) : memberDigests env files' = memberDigests env files := by
  have hperm : (memberDigests env files').Perm (memberDigests env files) :=
    ((List.perm_insertionSort _ _).trans (h.map _)).trans (List.perm_insertionSort _ _).symm
  have hsorted (files : CsvFiles) : (memberDigests env files).Pairwise byName :=
    have : IsTrans (String × Digest) byName := ⟨fun _ _ _ => le_trans⟩
    have : Std.Total (byName) := ⟨fun a b => le_total a.1 b.1⟩
    List.pairwise_insertionSort _ _
  have hnames : ((memberDigests env files).map Prod.fst).Nodup := by
    unfold memberDigests
    rw [((List.perm_insertionSort byName _).map Prod.fst).nodup_iff, List.map_map]
    exact hnodup
  refine hperm.eq_of_pairwise (fun a b ha hb hab hba => ?_) (hsorted _) (hsorted _)
  exact List.inj_on_of_nodup_map hnames (hperm.subset ha) hb (le_antisymm hab hba)

lemma getLast_versions (member : DirectoryMember) : (versions member).getLast? = some member := by
  cases member with
  | csv name bytes =>
    have hlast : bytes.inits.getLast? = some bytes := by
      rw [List.inits_eq_tails, List.getLast?_reverse, List.head?_map]
      have hfirst : bytes.reverse.tails.head? = some bytes.reverse := by
        cases bytes.reverse <;> rfl
      rw [hfirst, Option.map_some, List.reverse_reverse]
    rw [versions, List.getLast?_map, hlast]
    rfl
  | manifest json => rfl

/-- The last directory that a copy goes through holds everything. -/
lemma getLast_copyStages (done members : List DirectoryMember) :
    (copyStages done members).getLast?.getD (directoryOf done) = directoryOf (done ++ members) := by
  induction members generalizing done with
  | nil => simp [copyStages]
  | cons member rest ih =>
    have hmember : ((versions member).map fun version =>
        directoryOf (done ++ [version])).getLast? = some (directoryOf (done ++ [member])) := by
      rw [List.getLast?_map, getLast_versions]
      rfl
    have hrest := ih (done ++ [member])
    unfold copyStages
    rw [List.getLast?_append, hmember]
    rw [List.append_assoc, List.singleton_append] at hrest
    rw [← hrest]
    cases (copyStages (done ++ [member]) rest).getLast? <;> rfl

/-- A copied directory loads as the generation of its manifest. -/
lemma readGeneration_copied {source : String} {createdAt : DateTime}
    (hfiles : files ≠ []) (hnodup : (files.map Prod.fst).Nodup)
    (hsource : requireSource (some source) = .ok source)
    (hmanifest : manifest = ⟨some id, some source, some createdAt, some (memberDigests env files),
      some (env.dataset (memberDigests env files))⟩) :
    readGeneration env id (directoryOf (env.scandir (staged files manifest))) =
      .ok ⟨id, source, createdAt, env.manifest manifest,
        env.dataset (memberDigests env files)⟩ := by
  have hperm := env.scandir_perm (staged files manifest)
  have hcsv : (directoryOf (env.scandir (staged files manifest))).files.Perm files := by
    have hstaged : (staged files manifest).filterMap DirectoryMember.asCsv = files := by
      simp [staged, List.filterMap_append, List.filterMap_map, DirectoryMember.asCsv,
        Function.comp_def]
    exact (hperm.filterMap _).trans (List.Perm.of_eq hstaged)
  have hjson : (directoryOf (env.scandir (staged files manifest))).manifest = .holds manifest := by
    have hstaged : (staged files manifest).filterMap DirectoryMember.asManifest =
        [StoredJson.holds manifest] := by
      simp [staged, List.filterMap_append, List.filterMap_map, DirectoryMember.asManifest,
        Function.comp_def]
    have hcopied := hperm.filterMap DirectoryMember.asManifest
    rw [hstaged] at hcopied
    unfold directoryOf
    rw [List.perm_singleton.mp hcopied]
    rfl
  have hmembers : datasetMembers env (directoryOf (env.scandir (staged files manifest))).files =
      .ok (memberDigests env files) := by
    unfold datasetMembers
    rw [if_neg, memberDigests_perm hcsv hnodup]
    intro hnil
    rw [hnil] at hcsv
    exact hfiles (List.nil_perm.mp hcsv)
  unfold readGeneration
  rw [hjson, hmembers, hmanifest]
  have hcheck (c : Prop) [Decidable c] (hc : ¬ c) (e : DataGenerationError) :
      (refuse c e : Except DataGenerationError PUnit) = .ok ⟨⟩ := refuse_eq_ok.mpr hc
  refine bind_ok_iff.mpr ⟨_, hcheck _ (by simp) _, bind_ok_iff.mpr ⟨_, rfl, ?_⟩⟩
  refine bind_ok_iff.mpr ⟨_, hcheck _ (by simp) _, bind_ok_iff.mpr ⟨_,
    hcheck _ (by simp) _, bind_ok_iff.mpr ⟨_, hsource, rfl⟩⟩⟩

/-! ## Phases of a promotion -/

/-- A candidate that `create_candidate` made for the active generation. -/
structure ValidCandidate (env : GenerationEnvironment) (start : GenerationStore) (id : String)
    (candidate : RewriteCandidate) (previous : DataGeneration) : Prop where
  verified : start.verifyCandidate env (some id) = .ok candidate
  current : start.active env = .ok previous
  based : previous.generationId = candidate.activeGenerationId
  unchanged : previous.dataSha256 = candidate.oldDigest
  changes : candidate.newDigest ≠ candidate.oldDigest
  digest : candidate.newDigest = env.dataset (memberDigests env (start.candidateFiles id))
  source : requireSource (some candidate.source) = .ok candidate.source

/-- The directory of the new generation does not exist, or it holds the approved data. -/
def Unobstructed (env : GenerationEnvironment) (candidate : RewriteCandidate)
    (store : GenerationStore) : Prop :=
  generationIdOf candidate.newDigest ∉ store.generations ∨
    ∃ promoted, store.loadGeneration env (some (generationIdOf candidate.newDigest)) =
        .ok promoted ∧ promoted.dataSha256 = candidate.newDigest

/-- A store in which a valid candidate can be promoted: no promotion is pending, the directory of
the new generation is not taken, and there is no receipt for the candidate yet. -/
structure Promotable (env : GenerationEnvironment) (start : GenerationStore) (id : String)
    (candidate : RewriteCandidate) (previous : DataGeneration) : Prop
    extends ValidCandidate env start id candidate previous where
  idle : start.pendingPromotion = .missing
  unobstructed : Unobstructed env candidate start
  fresh : start.promotions.lookup id = none

/-- What a promotion leaves alone. -/
structure Kept (start : GenerationStore) (id : String) (candidate : RewriteCandidate)
    (store : GenerationStore) : Prop where
  generations : ∀ other, other ≠ generationIdOf candidate.newDigest →
    store.generations.lookup other = start.generations.lookup other
  candidates : store.candidates = start.candidates
  promotions : ∀ other, other ≠ id → store.promotions.lookup other = start.promotions.lookup other

/-- The promotion is not pending yet; the directory of the new generation may be anything. -/
structure Before (start : GenerationStore) (id : String) (candidate : RewriteCandidate)
    (store : GenerationStore) : Prop where
  kept : Kept start id candidate store
  pointer : store.activePointer = start.activePointer
  idle : store.pendingPromotion = .missing
  fresh : store.promotions.lookup id = none

/-- The new generation is there. -/
structure Published (env : GenerationEnvironment) (start : GenerationStore) (id : String)
    (candidate : RewriteCandidate) (promoted : DataGeneration)
      (store : GenerationStore) : Prop where
  kept : Kept start id candidate store
  load : store.loadGeneration env (some (generationIdOf candidate.newDigest)) = .ok promoted
  digest : promoted.dataSha256 = candidate.newDigest

/-- What is known of the marker: the candidate, both generations and the time. -/
def markerOf (id : String) (candidate : RewriteCandidate) (previous promoted : DataGeneration)
    (promotedAt : DateTime) : PendingPromotion :=
  ⟨some id, some candidate.candidateSha256, some previous.generationId,
    some promoted.generationId, some promotedAt⟩

/-- The receipt of the promotion. -/
def approvedReceipt (id : String) (candidate : RewriteCandidate)
    (previous promoted : DataGeneration) (promotedAt : DateTime) : PromotionReceipt :=
  ⟨id, candidate.candidateSha256, previous.generationId, promoted.generationId, promoted.source,
    promotedAt⟩

/-- The promotion is pending: the pointer and the receipt are still to be written, or the receipt,
or neither. -/
structure Marked (env : GenerationEnvironment) (start : GenerationStore) (id : String)
    (candidate : RewriteCandidate) (previous promoted : DataGeneration) (promotedAt : DateTime)
    (store : GenerationStore) : Prop where
  published : Published env start id candidate promoted store
  marker : store.pendingPromotion = .holds (markerOf id candidate previous promoted promotedAt)
  pointer : store.activePointer = start.activePointer ∨
    store.activePointer = .holds (pointerTo promoted)
  receipt : store.promotions.lookup id = none ∨ store.promotions.lookup id =
    some (some (approvedReceipt id candidate previous promoted promotedAt))

/-- The promotion is complete. -/
structure Promoted (env : GenerationEnvironment) (start : GenerationStore) (id : String)
    (candidate : RewriteCandidate) (previous promoted : DataGeneration) (promotedAt : DateTime)
    (store : GenerationStore) : Prop where
  published : Published env start id candidate promoted store
  idle : store.pendingPromotion = .missing
  pointer : store.activePointer = .holds (pointerTo promoted)
  receipt : store.promotions.lookup id =
    some (some (approvedReceipt id candidate previous promoted promotedAt))

/-- Where a crash can leave a promotion. -/
def Phase (env : GenerationEnvironment) (start : GenerationStore) (id : String)
    (candidate : RewriteCandidate) (previous : DataGeneration) (store : GenerationStore) : Prop :=
  Before start id candidate store ∨
    ∃ promoted promotedAt, Marked env start id candidate previous promoted promotedAt store ∨
      Promoted env start id candidate previous promoted promotedAt store

section Phases

variable {candidate : RewriteCandidate} {previous promoted : DataGeneration}
  {promotedAt : DateTime} {store : GenerationStore}
  (hp : Promotable env start id candidate previous)

include hp in
lemma Promotable.ids_ne : previous.generationId ≠ generationIdOf candidate.newDigest := by
  intro heq
  have hload := (active_eq_ok hp.current).2
  rw [heq] at hload
  rcases hp.unobstructed with habsent | ⟨promoted, hpromoted, hdigest⟩
  · exact habsent (mem_of_loadGeneration hload)
  · rw [hpromoted] at hload
    cases hload
    exact hp.changes (hdigest.symm.trans hp.unchanged)

include hp in
lemma Promotable.candidateId :
    requireCandidateId (some id) = .ok id ∧ candidate.candidateId = id := by
  obtain ⟨hid, -⟩ := verifyCandidate_id hp.verified
  have hsame := requireCandidateId_eq_ok hid
  rw [Option.some_inj] at hsame
  exact ⟨by rw [hsame] at hid ⊢; exact hid, hsame.symm⟩

include hp in
lemma Kept.verified (h : Kept start id candidate store) :
    store.verifyCandidate env (some id) = .ok candidate := by
  rw [verifyCandidate_congr h.candidates]
  exact hp.verified

include hp in
lemma Kept.previous_loads (h : Kept start id candidate store) :
    store.loadGeneration env (some previous.generationId) = .ok previous := by
  rw [loadGeneration_congr (h.generations _ hp.ids_ne)]
  exact (active_eq_ok hp.current).2

include hp in
/-- While the pointer stands, the previous generation is active. -/
lemma Kept.active_previous (h : Kept start id candidate store)
    (hpointer : store.activePointer = start.activePointer) : store.active env = .ok previous :=
  active_congr hp.current hpointer (h.generations _ hp.ids_ne)

lemma Published.generationId (h : Published env start id candidate promoted store) :
    promoted.generationId = generationIdOf candidate.newDigest := by
  have hid := loadGeneration_id h.load
  rw [Option.some_inj] at hid
  exact hid.symm

/-- Once the pointer is replaced, the new generation is active. -/
lemma Published.active_promoted (h : Published env start id candidate promoted store)
    (hpointer : store.activePointer = .holds (pointerTo promoted)) :
    store.active env = .ok promoted :=
  active_of_pointer hpointer (by rw [h.generationId]; exact h.load)

lemma Published.unobstructed (h : Published env start id candidate promoted store) :
    Unobstructed env candidate store :=
  .inr ⟨promoted, h.load, h.digest⟩

lemma Published.of_same (h : Published env start id candidate promoted s)
    (hgenerations : t.generations = s.generations) (hcandidates : t.candidates = s.candidates)
    (hpromotions : ∀ other, other ≠ id → t.promotions.lookup other = s.promotions.lookup other) :
    Published env start id candidate promoted t := by
  refine ⟨⟨fun other hother => ?_, hcandidates.trans h.kept.candidates, fun other hother => ?_⟩, ?_,
    h.digest⟩
  · rw [hgenerations]
    exact h.kept.generations other hother
  · rw [hpromotions other hother]
    exact h.kept.promotions other hother
  · rw [← h.load]
    exact loadGeneration_congr (by rw [hgenerations])

include hp in
/-- In every phase the previous generation or the approved one is active. -/
lemma Phase.active (h : Phase env start id candidate previous store) :
    ∃ generation, store.active env = .ok generation ∧ (generation = previous ∨
      generation.generationId = generationIdOf candidate.newDigest ∧
        generation.dataSha256 = candidate.newDigest) := by
  rcases h with hbefore | ⟨promoted, promotedAt, hmarked | hpromoted⟩
  · exact ⟨previous, hbefore.kept.active_previous hp hbefore.pointer, .inl rfl⟩
  · rcases hmarked.pointer with hold | hnew
    · exact ⟨previous, hmarked.published.kept.active_previous hp hold, .inl rfl⟩
    · exact ⟨promoted, hmarked.published.active_promoted hnew, .inr
        ⟨hmarked.published.generationId, hmarked.published.digest⟩⟩
  · exact ⟨promoted, hpromoted.published.active_promoted hpromoted.pointer, .inr
      ⟨hpromoted.published.generationId, hpromoted.published.digest⟩⟩

include hp in
lemma Promotable.before : Before start id candidate start :=
  ⟨⟨fun _ _ => rfl, rfl, fun _ _ => rfl⟩, rfl, hp.idle, hp.fresh⟩

/-! ## Completing a promotion -/

/-- The promotion is pending, and the pointer is replaced. -/
def Switched (env : GenerationEnvironment) (start : GenerationStore) (id : String)
    (candidate : RewriteCandidate) (previous promoted : DataGeneration) (promotedAt : DateTime)
    (store : GenerationStore) : Prop :=
  Marked env start id candidate previous promoted promotedAt store ∧
    store.activePointer = .holds (pointerTo promoted)

lemma Marked.phase (h : Marked env start id candidate previous promoted promotedAt store) :
    Phase env start id candidate previous store :=
  .inr ⟨promoted, promotedAt, .inl h⟩

lemma Promoted.phase (h : Promoted env start id candidate previous promoted promotedAt store) :
    Phase env start id candidate previous store :=
  .inr ⟨promoted, promotedAt, .inr h⟩

include hp in
lemma Marked.pendingIdentity
    (h : Marked env start id candidate previous promoted promotedAt store) :
    pendingIdentity env (markerOf id candidate previous promoted promotedAt) store =
      .ok ⟨id, candidate, previous.generationId, promoted.generationId, previous, promoted⟩ := by
  have hcheck (c : Prop) [Decidable c] (hc : ¬ c) (e : DataGenerationError) :
      (refuse c e : Except DataGenerationError PUnit) = .ok ⟨⟩ := refuse_eq_ok.mpr hc
  have hprevious := h.published.kept.previous_loads hp
  have hload := h.published.load
  rw [← h.published.generationId] at hload
  obtain ⟨previousId, hpreviousId, -⟩ := bind_ok_iff.mp hprevious
  obtain ⟨newId, hnewId, -⟩ := bind_ok_iff.mp hload
  have hprevious_id := requireGenerationId_eq_ok hpreviousId
  have hnew_id := requireGenerationId_eq_ok hnewId
  rw [Option.some_inj] at hprevious_id hnew_id
  subst hprevious_id hnew_id
  have hdigests : ¬ (previous.dataSha256 ≠ candidate.oldDigest ∨
      promoted.dataSha256 ≠ candidate.newDigest) := by
    rintro (hold | hnew)
    · exact hold hp.unchanged
    · exact hnew h.published.digest
  exact bind_ok_iff.mpr ⟨_, hp.candidateId.1, bind_ok_iff.mpr ⟨_,
    h.published.kept.verified hp, bind_ok_iff.mpr ⟨_, hcheck _ (not_not.mpr rfl) _,
    bind_ok_iff.mpr ⟨_, hpreviousId, bind_ok_iff.mpr ⟨_, hnewId,
    bind_ok_iff.mpr ⟨_, hprevious, bind_ok_iff.mpr ⟨_, hload,
    bind_ok_iff.mpr ⟨_, hcheck _ hdigests _, rfl⟩⟩⟩⟩⟩⟩⟩⟩

variable {E : DataGenerationError → Trail GenerationStore → Prop}

include hp in
/-- The pointer is replaced, whether it was before or not. -/
lemma exits_switchPointer {current : DataGeneration}
    (h : Marked env start id candidate previous promoted promotedAt store)
    (hcurrent : store.active env = .ok current) :
    Exits (Through (Phase env start id candidate previous) fun s => s = store)
      (switchPointer ⟨id, candidate, previous.generationId, promoted.generationId,
        previous, promoted⟩
        current)
      (fun _ => Through (Phase env start id candidate previous)
        (Switched env start id candidate previous promoted promotedAt)) E := by
  unfold switchPointer
  rcases h.pointer with hold | hnew
  · have hprevious := h.published.kept.active_previous hp hold
    rw [hcurrent] at hprevious
    cases hprevious
    rw [if_pos rfl]
    refine exits_step (fun s hs => hs ▸ h.phase) ?_
    rintro s rfl
    exact ⟨⟨h.published.of_same rfl rfl fun _ _ => rfl, h.marker, .inr rfl, h.receipt⟩, rfl⟩
  · have hpromoted := h.published.active_promoted hnew
    rw [hcurrent] at hpromoted
    cases hpromoted
    have hne : promoted.generationId ≠ previous.generationId := by
      rw [h.published.generationId]
      exact hp.ids_ne.symm
    rw [if_neg hne]
    unfold refuse
    rw [if_neg (not_not.mpr rfl)]
    refine exits_pure fun t ht => ht.imp ?_
    rintro s rfl
    exact ⟨h, hnew⟩

/-- The receipt is written, whether it was before or not. -/
lemma exits_publishReceipt :
    Exits (Through (Phase env start id candidate previous)
        (Switched env start id candidate previous promoted promotedAt))
      (publishReceipt (approvedReceipt id candidate previous promoted promotedAt))
      (fun _ => Through (Phase env start id candidate previous) fun s =>
        Switched env start id candidate previous promoted promotedAt s ∧
          s.promotions.lookup id =
            some (some (approvedReceipt id candidate previous promoted promotedAt))) E := by
  unfold publishReceipt
  refine exits_look fun s hs => ?_
  obtain ⟨hmarked, hpointer⟩ := hs
  have hid : (approvedReceipt id candidate previous promoted promotedAt).candidateId = id := rfl
  rw [hid]
  rcases hmarked.receipt with hnone | hsome
  · rw [hnone]
    refine exits_step (fun u hu => hu ▸ hmarked.phase) ?_
    rintro u rfl
    have hlookup : (u.promotions.insert id
        (some (approvedReceipt id candidate previous promoted promotedAt))).lookup id =
        some (some (approvedReceipt id candidate previous promoted promotedAt)) :=
      AList.lookup_insert _
    refine ⟨⟨⟨hmarked.published.of_same rfl rfl fun other hother => ?_, hmarked.marker,
      .inr hpointer,
      .inr hlookup⟩, hpointer⟩, hlookup⟩
    exact AList.lookup_insert_ne hother
  · rw [hsome]
    dsimp only
    unfold refuse
    rw [if_neg (not_not.mpr rfl)]
    refine exits_pure fun t ht => ht.imp ?_
    rintro u rfl
    exact ⟨⟨hmarked, hpointer⟩, hsome⟩

include hp in
/-- `recover_pending_promotion` completes the promotion. -/
lemma exits_recover :
    Exits (Through (Phase env start id candidate previous)
        (Marked env start id candidate previous promoted promotedAt))
      (recoverPendingPromotion env)
      (fun r => Through (Phase env start id candidate previous) fun s => r = some promoted ∧
        Promoted env start id candidate previous promoted promotedAt s)
      fun _ _ => False := by
  unfold recoverPendingPromotion
  refine exits_look fun s hs => ?_
  have hpending : s.pendingPromotion.exists = true := by
    rw [hs.marker]
    rfl
  rw [if_neg (by rw [hpending]; decide)]
  refine exits_check_ok (a := markerOf id candidate previous promoted promotedAt) ?_ ?_
  · rintro u rfl
    unfold pendingPayload
    rw [hs.marker]
  refine exits_check_ok (fun u hu => by rw [hu]; exact hs.pendingIdentity hp) ?_
  obtain ⟨current, hcurrent, -⟩ := hs.phase.active hp
  refine exits_check_ok (a := current) (fun u hu => by rw [hu]; exact hcurrent) ?_
  refine exits_bind (exits_switchPointer hp hs hcurrent) fun _ => ?_
  refine exits_bind exits_publishReceipt fun _ => ?_
  refine exits_bind (Q := fun _ => Through (Phase env start id candidate previous)
    (Promoted env start id candidate previous promoted promotedAt)) ?_ fun _ => ?_
  · refine exits_step (fun u hu => hu.1.1.phase) fun u hu => ?_
    obtain ⟨⟨hmarked, hpointer⟩, hreceipt⟩ := hu
    exact ⟨hmarked.published.of_same rfl rfl fun _ _ => rfl, rfl, hpointer, hreceipt⟩
  · exact exits_pure fun t ht => ht.imp fun u hu => ⟨rfl, hu⟩

/-! ## A new promotion -/

/-- What holds of the directory of the new generation does not disturb what comes before. -/
lemma Before.insert (h : Before start id candidate store) (directory : GenerationDirectory) :
    Before start id candidate { store with
      generations := store.generations.insert (generationIdOf candidate.newDigest) directory } := by
  refine ⟨⟨fun other hother => ?_, h.kept.candidates, h.kept.promotions⟩, h.pointer,
    h.idle, h.fresh⟩
  rw [← h.kept.generations other hother]
  exact AList.lookup_insert_ne hother

lemma exits_copytree :
    Exits (Through (Phase env start id candidate previous) (Before start id candidate))
      (copytree env (generationIdOf candidate.newDigest) files manifest)
      (fun _ => Through (Phase env start id candidate previous) fun s =>
        Before start id candidate s ∧ s.generations.lookup (generationIdOf candidate.newDigest) =
          some (directoryOf (env.scandir (staged files manifest)))) E := by
  unfold copytree
  let I (done : List GenerationDirectory) (s : GenerationStore) : Prop :=
    Before start id candidate s ∧ ∀ directory, done.getLast? = some directory →
      s.generations.lookup (generationIdOf candidate.newDigest) = some directory
  have hloop : Exits (Through (Phase env start id candidate previous) (I []))
      ((directoryOf [] :: copyStages [] (env.scandir (staged files manifest))).forM fun directory =>
        step fun store => { store with
          generations := store.generations.insert (generationIdOf candidate.newDigest) directory })
      (fun _ => Through (Phase env start id candidate previous)
        (I (directoryOf [] :: copyStages [] (env.scandir (staged files manifest))))) E := by
    refine exits_forM (fun _ s _ hs => .inl hs.1) fun done directory s _ hs => ?_
    refine ⟨hs.1.insert directory, fun last hlast => ?_⟩
    rw [List.getLast?_concat, Option.some_inj] at hlast
    subst hlast
    exact AList.lookup_insert _
  refine exits_imp hloop (fun t ht => ht.imp fun s hs => ⟨hs, fun _ hlast => by cases hlast⟩)
    (fun _ t ht => ht.imp fun s hs => ⟨hs.1, hs.2 _ ?_⟩) fun _ _ he => he
  rw [List.getLast?_cons, getLast_copyStages, List.nil_append]

include hp in
/-- The new generation is published, unless it was before. -/
lemma exits_publishGeneration :
    Exits (Through (Phase env start id candidate previous) fun s =>
        Before start id candidate s ∧ Unobstructed env candidate s)
      (publishGeneration env (generationIdOf candidate.newDigest) (start.candidateFiles id)
        candidate.source promotedAt)
      (fun _ => Through (Phase env start id candidate previous) fun s => ∃ promoted,
        Before start id candidate s ∧ Published env start id candidate promoted s) E := by
  unfold publishGeneration
  refine exits_look fun s hs => ?_
  obtain ⟨hbefore, hunobstructed⟩ := hs
  split_ifs with hmem
  · refine exits_pure fun t ht => ht.imp ?_
    rintro u rfl
    obtain habsent | ⟨promoted, hload, hdigest⟩ := hunobstructed
    · exact absurd hmem habsent
    · exact ⟨promoted, hbefore, hbefore.kept, hload, hdigest⟩
  obtain ⟨-, directory, hlookup, hfiles⟩ := verifyCandidate_id hp.verified
  rw [hp.candidateId.2] at hlookup
  have hcandidateFiles : start.candidateFiles id = directory.files := by
    unfold candidateFiles
    rw [hlookup]
    rfl
  have hid : requireGenerationId (some (generationIdOf candidate.newDigest)) =
      .ok (generationIdOf candidate.newDigest) := by
    rw [hp.digest]
    exact requireGenerationId_of_dataset _
  rw [hcandidateFiles]
  have hdigest := hp.digest
  rw [hcandidateFiles] at hdigest
  refine exits_check_ok (a := memberDigests env directory.files)
    (fun _ _ => if_neg hfiles) ?_
  refine exits_check_ok (a := ⟨some (generationIdOf candidate.newDigest), some candidate.source,
    some promotedAt, some (memberDigests env directory.files),
    some (env.dataset (memberDigests env directory.files))⟩)
    (fun _ _ => bind_ok_iff.mpr ⟨_, hid, rfl⟩) ?_
  refine exits_imp exits_copytree (fun t ht => ht.imp fun u hu => hu ▸ hbefore) (fun _ t ht =>
    ht.imp fun u hu => ?_) fun _ _ he => he
  obtain ⟨hcopied, hdirectory⟩ := hu
  obtain ⟨promoted, hread, hpromoted⟩ : ∃ promoted, readGeneration env
      (generationIdOf candidate.newDigest) (directoryOf (env.scandir (staged directory.files
        ⟨some (generationIdOf candidate.newDigest), some candidate.source, some promotedAt,
          some (memberDigests env directory.files),
          some (env.dataset (memberDigests env directory.files))⟩))) = .ok promoted ∧
      promoted.dataSha256 = candidate.newDigest :=
    ⟨_, readGeneration_copied hfiles directory.names_nodup hp.source rfl, hdigest.symm⟩
  have hload : u.loadGeneration env (some (generationIdOf candidate.newDigest)) = .ok promoted := by
    refine bind_ok_iff.mpr ⟨_, hid, ?_⟩
    rw [hdirectory]
    exact hread
  exact ⟨promoted, hcopied, hcopied.kept, hload, hpromoted⟩

include hp in
lemma exits_promoteNew {expected : Digest} (hexpected : candidate.candidateSha256 = expected) :
    Exits (Through (Phase env start id candidate previous) fun s =>
        Before start id candidate s ∧ Unobstructed env candidate s)
      (promoteNew env id expected promotedAt)
      (fun generation => Through (Phase env start id candidate previous) fun s =>
        Promoted env start id candidate previous generation promotedAt s)
      fun _ _ => False := by
  unfold promoteNew
  refine exits_check_ok (fun s hs => hs.1.kept.verified hp) ?_
  refine exits_refuse_not (not_not.mpr hexpected) ?_
  refine exits_check_ok (fun s hs => hs.1.kept.active_previous hp hs.1.pointer) ?_
  have hbased : ¬ (previous.generationId ≠ candidate.activeGenerationId ∨
      previous.dataSha256 ≠ candidate.oldDigest) := by
    rintro (hid | hdata)
    · exact hid hp.based
    · exact hdata hp.unchanged
  refine exits_refuse_not hbased ?_
  refine exits_look fun s hs => ?_
  have hfiles : s.candidateFiles id = start.candidateFiles id := by
    unfold candidateFiles
    rw [hs.1.kept.candidates]
  rw [hfiles]
  refine exits_bind (exits_pre (exits_publishGeneration hp)
    (fun t ht => ht.imp fun u hu => hu ▸ hs)) fun _ => ?_
  refine exits_exists fun promoted => ?_
  refine exits_check_ok (a := promoted) (fun u hu => hu.2.load) ?_
  intro t ht
  revert t
  change Exits (Through (Phase env start id candidate previous) fun u =>
    Before start id candidate u ∧ Published env start id candidate promoted u) _ _ _
  by_cases hdigest : promoted.dataSha256 ≠ candidate.newDigest
  · exact fun t ht => absurd ht.1.2.digest hdigest
  refine exits_refuse_not hdigest ?_
  refine exits_bind (Q := fun _ => Through (Phase env start id candidate previous)
    (Marked env start id candidate previous promoted promotedAt)) ?_ fun _ => ?_
  · refine exits_step (fun u hu => .inl hu.1) fun u hu => ?_
    exact ⟨hu.2.of_same rfl rfl fun _ _ => rfl, rfl, .inl hu.1.pointer, .inl hu.1.fresh⟩
  refine exits_bind (exits_recover hp) fun recovered => ?_
  cases recovered with
  | none =>
    rintro u ⟨⟨hnone, -⟩, -⟩
    cases hnone
  | some generation =>
    refine exits_pure fun u hu => hu.imp fun v hv => ?_
    rw [Option.some_inj] at hv
    rw [hv.1]
    exact hv.2

/-! ## Attempts -/

/-- A call that may complete a promotion. -/
inductive Attempt
  | promote (promotedAt : DateTime)
  | ensure (seed : SeedData)

/-- The call, for an approved candidate. -/
def Attempt.run (env : GenerationEnvironment) (id : String) (candidate : RewriteCandidate) :
    Attempt → Durable DataGenerationError GenerationStore DataGeneration
  | promote promotedAt => promoteCandidate env id candidate.candidateSha256 promotedAt
  | ensure seed => ensureActive env seed

/-- The stores that attempts leave one after another, each of them cut anywhere or not at all. -/
inductive Attempts (env : GenerationEnvironment) (id : String) (candidate : RewriteCandidate)
    (start : GenerationStore) : GenerationStore → Prop
  | start : Attempts env id candidate start start
  | crash {s t : GenerationStore} (attempt : Attempt) : Attempts env id candidate start s →
      t ∈ crashStates (attempt.run env id candidate) s → Attempts env id candidate start t

/-- The call returns the approved generation; it is active, there is one receipt for the candidate
and no promotion is pending. -/
def Completes (env : GenerationEnvironment) (start : GenerationStore) (id : String)
    (candidate : RewriteCandidate) (previous : DataGeneration)
    (call : Durable DataGenerationError GenerationStore DataGeneration) (store : GenerationStore) :
    Prop :=
  ∃ generation after promotedAt, Returns call store generation after ∧
    after.active env = .ok generation ∧
    generation.generationId = generationIdOf candidate.newDigest ∧
    generation.dataSha256 = candidate.newDigest ∧
    after.pendingPromotion = .missing ∧
    after.promotions.lookup id =
      some (some (approvedReceipt id candidate previous generation promotedAt)) ∧
    ∀ other, other ≠ id → after.promotions.lookup other = start.promotions.lookup other

lemma Promoted.completes {call : Durable DataGenerationError GenerationStore DataGeneration}
    (h : Promoted env start id candidate previous promoted promotedAt t)
    (hreturns : Returns call s promoted t) :
    Completes env start id candidate previous call s :=
  ⟨promoted, t, promotedAt, hreturns, h.published.active_promoted h.pointer,
    h.published.generationId, h.published.digest, h.idle, h.receipt, h.published.kept.promotions⟩

include hp in
/-- A pending promotion is completed by `promote_candidate`. -/
lemma exits_promote_marked (now : DateTime) :
    Exits (Through (Phase env start id candidate previous)
        (Marked env start id candidate previous promoted promotedAt))
      (promoteCandidate env id candidate.candidateSha256 now)
      (fun generation => Through (Phase env start id candidate previous) fun s =>
        generation = promoted ∧ Promoted env start id candidate previous promoted promotedAt s)
      fun _ _ => False := by
  unfold promoteCandidate
  refine exits_check_ok (fun _ _ => hp.candidateId.1) ?_
  refine exits_look fun s hs => ?_
  have hpending : s.pendingPromotion.exists = true := by
    rw [hs.marker]
    rfl
  rw [if_pos hpending]
  refine exits_check_ok (a := markerOf id candidate previous promoted promotedAt) ?_ ?_
  · rintro u rfl
    unfold pendingPayload
    rw [hs.marker]
  have hsame : ¬ ((markerOf id candidate previous promoted promotedAt).candidateId ≠ some id ∨
      (markerOf id candidate previous promoted promotedAt).candidateSha256 ≠
        some candidate.candidateSha256) := by
    rintro (hid | hsha)
    · exact hid rfl
    · exact hsha rfl
  refine exits_refuse_not hsame ?_
  refine exits_bind (exits_pre (exits_recover hp) (fun t ht => ht.imp fun u hu => hu ▸ hs))
    fun recovered => ?_
  cases recovered with
  | none =>
    rintro u ⟨⟨hnone, -⟩, -⟩
    cases hnone
  | some generation =>
    exact exits_pure fun u hu => hu.imp fun v hv => ⟨Option.some_inj.mp hv.1, hv.2⟩

/-- A promotion that is not pending is made by `promote_candidate`. -/
lemma exits_promote_before (now : DateTime) (hp : Promotable env start id candidate previous) :
    Exits (Through (Phase env start id candidate previous) fun s =>
        Before start id candidate s ∧ Unobstructed env candidate s)
      (promoteCandidate env id candidate.candidateSha256 now)
      (fun generation => Through (Phase env start id candidate previous) fun s =>
        Promoted env start id candidate previous generation now s)
      fun _ _ => False := by
  unfold promoteCandidate
  refine exits_check_ok (fun _ _ => hp.candidateId.1) ?_
  refine exits_look fun s hs => ?_
  rw [hs.1.idle, if_neg (by decide)]
  exact exits_pre (exits_promoteNew hp rfl) (fun t ht => ht.imp fun u hu => hu ▸ hs)

include hp in
/-- Without a pending promotion, `promote_candidate` refuses where the active generation is not the
one that the candidate is based on, or where the directory of the new one is taken. -/
lemma exits_promote_refused {C : GenerationStore → Prop} (now : DateTime)
    (hstore : Before start id candidate store ∧ ¬ Unobstructed env candidate store ∨
      ∃ promoted promotedAt, Promoted env start id candidate previous promoted promotedAt store) :
    Exits (Through C fun s => s = store)
      (promoteCandidate env id candidate.candidateSha256 now)
      (fun _ _ => False)
      fun _ => Through C fun s => s = store := by
  unfold promoteCandidate
  refine exits_check_ok (fun _ _ => hp.candidateId.1) ?_
  refine exits_look fun s hs => ?_
  subst hs
  have hidle : s.pendingPromotion = .missing := by
    rcases hstore with ⟨hbefore, -⟩ | ⟨_, _, hpromoted⟩
    · exact hbefore.idle
    · exact hpromoted.idle
  have hkept : Kept start id candidate s := by
    rcases hstore with ⟨hbefore, -⟩ | ⟨_, _, hpromoted⟩
    · exact hbefore.kept
    · exact hpromoted.published.kept
  rw [hidle, if_neg (by decide)]
  unfold promoteNew
  refine exits_check_ok (a := candidate) (fun u hu => by rw [hu]; exact hkept.verified hp) ?_
  refine exits_refuse_not (not_not.mpr rfl) ?_
  rcases hstore with ⟨hbefore, hobstructed⟩ | ⟨promoted, promotedAt, hpromoted⟩
  · refine exits_check_ok (a := previous)
      (fun u hu => by rw [hu]; exact hkept.active_previous hp hbefore.pointer) ?_
    have hbased : ¬ (previous.generationId ≠ candidate.activeGenerationId ∨
        previous.dataSha256 ≠ candidate.oldDigest) := by
      rintro (hid | hdata)
      · exact hid hp.based
      · exact hdata hp.unchanged
    refine exits_refuse_not hbased (exits_look fun u hu => ?_)
    subst hu
    obtain ⟨htaken, hforeign⟩ := not_or.mp hobstructed
    rw [not_not] at htaken
    unfold publishGeneration
    refine exits_bind (Q := fun _ => Through C
      fun s => s = u) ?_ fun _ => ?_
    · refine exits_look fun v hv => ?_
      rw [if_pos (by rw [hv]; exact htaken)]
      exact exits_pure fun t ht => ht.imp fun w hw => hw.trans hv
    refine exits_bind (Q := fun loaded t => u.loadGeneration env
      (some (generationIdOf candidate.newDigest)) = .ok loaded ∧
        Through C (fun s => s = u) t) ?_ fun loaded => ?_
    · refine exits_check (fun t loaded ht hload => ⟨ht.1 ▸ hload, ht⟩) fun t _ ht _ => ht
    · refine exits_assume fun hload => ?_
      have hother : loaded.dataSha256 ≠ candidate.newDigest :=
        fun hdigest => hforeign ⟨loaded, hload, hdigest⟩
      unfold refuse
      rw [if_pos hother]
      refine exits_bind (Q := fun _ _ => False) (exits_throw fun _ ht => ht) fun _ => ?_
      exact fun _ hfalse => hfalse.elim
  · refine exits_check_ok (a := promoted)
      (fun u hu => by rw [hu]; exact hpromoted.published.active_promoted hpromoted.pointer) ?_
    have hchanged : promoted.generationId ≠ candidate.activeGenerationId ∨
        promoted.dataSha256 ≠ candidate.oldDigest := by
      right
      rw [hpromoted.published.digest]
      exact hp.changes
    unfold refuse
    rw [if_pos hchanged]
    refine exits_bind (Q := fun _ _ => False) (exits_throw fun _ ht => ht) fun _ => ?_
    exact fun _ hfalse => hfalse.elim

/-- A promotion that `promote_candidate` can still complete: the directory of the new generation is
not taken, and the promotion is pending or not begun. -/
def Resumable (env : GenerationEnvironment) (id : String) (candidate : RewriteCandidate)
    (store : GenerationStore) : Prop :=
  Unobstructed env candidate store ∧
    (store.pendingPromotion ≠ .missing ∨ store.promotions.lookup id = none)

include hp in
lemma exits_promote (now : DateTime) (hphase : Phase env start id candidate previous store)
    (hresumable : Resumable env id candidate store) :
    Exits (Through (Phase env start id candidate previous) fun s => s = store)
      (promoteCandidate env id candidate.candidateSha256 now)
      (fun generation => Through (Phase env start id candidate previous) fun s =>
        ∃ promotedAt, Promoted env start id candidate previous generation promotedAt s)
      fun _ _ => False := by
  rcases hphase with hbefore | ⟨promoted, promotedAt, hmarked | hpromoted⟩
  · exact exits_imp (exits_promote_before now hp)
      (fun t ht => ht.imp fun s hs => hs ▸ ⟨hbefore, hresumable.1⟩)
      (fun _ t ht => ht.imp fun s hs => ⟨now, hs⟩) fun _ _ he => he
  · exact exits_imp (exits_promote_marked hp now) (fun t ht => ht.imp fun s hs => hs ▸ hmarked)
      (fun _ t ht => ht.imp fun s hs => ⟨promotedAt, by rw [hs.1]; exact hs.2⟩) fun _ _ he => he
  · rcases hresumable.2 with hpending | hnone
    · exact absurd hpromoted.idle hpending
    · rw [hpromoted.receipt] at hnone
      cases hnone

lemma Phase.refused (h : Phase env start id candidate previous store)
    (hresumable : ¬ Resumable env id candidate store) :
    Before start id candidate store ∧ ¬ Unobstructed env candidate store ∨
      ∃ promoted promotedAt, Promoted env start id candidate previous promoted
        promotedAt store := by
  rcases h with hbefore | ⟨promoted, promotedAt, hmarked | hpromoted⟩
  · exact .inl ⟨hbefore, fun hunobstructed => hresumable ⟨hunobstructed, .inr hbefore.fresh⟩⟩
  · refine absurd ⟨hmarked.published.unobstructed, .inl ?_⟩ hresumable
    rw [hmarked.marker]
    exact fun hmissing => by cases hmissing
  · exact .inr ⟨promoted, promotedAt, hpromoted⟩

include hp in
/-- A pending promotion is completed by `ensure_active`. -/
lemma exits_ensure_marked (seed : SeedData) :
    Exits (Through (Phase env start id candidate previous)
        (Marked env start id candidate previous promoted promotedAt))
      (ensureActive env seed)
      (fun generation => Through (Phase env start id candidate previous) fun s =>
        generation = promoted ∧ Promoted env start id candidate previous promoted promotedAt s)
      fun _ _ => False := by
  unfold ensureActive
  refine exits_look fun s hs => ?_
  have hpointer : s.activePointer.exists = true := by
    obtain ⟨current, hcurrent, -⟩ := hs.phase.active hp
    exact (active_eq_ok hcurrent).1
  have hpending : s.pendingPromotion.exists = true := by
    rw [hs.marker]
    rfl
  rw [if_pos ⟨hpending, hpointer⟩]
  refine exits_bind (exits_pre (exits_recover hp) (fun t ht => ht.imp fun u hu => hu ▸ hs))
    fun recovered => ?_
  refine exits_look fun u hu => ?_
  rw [if_pos (by rw [hu.2.pointer]; rfl)]
  refine exits_check (fun t generation ht hactive => ht.imp fun v hv => ?_) fun t e ht herror => ?_
  · rw [ht.1, hu.2.published.active_promoted hu.2.pointer] at hactive
    rw [hv]
    exact ⟨(Except.ok.inj hactive).symm, hu.2⟩
  · rw [ht.1, hu.2.published.active_promoted hu.2.pointer] at herror
    cases herror

/-- Without a pending promotion, `ensure_active` returns the active generation. -/
lemma exits_ensure_idle {C : GenerationStore → Prop} {current : DataGeneration} (seed : SeedData)
    (hidle : store.pendingPromotion = .missing) (hcurrent : store.active env = .ok current) :
    Exits (Through C fun s => s = store) (ensureActive env seed)
      (fun generation => Through C fun s => generation = current ∧ s = store) fun _ _ => False := by
  unfold ensureActive
  refine exits_look fun s hs => ?_
  subst hs
  rw [hidle, if_neg (fun hpending => by cases hpending.1)]
  refine exits_look fun u hu => ?_
  subst hu
  rw [if_pos (active_eq_ok hcurrent).1]
  refine exits_check (fun t generation ht hactive => ht.imp fun v hv => ?_) fun t e ht herror => ?_
  · rw [ht.1, hcurrent] at hactive
    exact ⟨(Except.ok.inj hactive).symm, hv⟩
  · rw [ht.1, hcurrent] at herror
    cases herror

include hp in
lemma Phase.attempt (h : Phase env start id candidate previous s) (attempt : Attempt)
    (ht : t ∈ crashStates (attempt.run env id candidate) s) :
    Phase env start id candidate previous t := by
  cases attempt with
  | promote now =>
    by_cases hresumable : Resumable env id candidate s
    · exact mem_crashStates (exits_promote hp now h hresumable) rfl
        (fun _ _ ⟨_, hpromoted⟩ => hpromoted.phase) (fun _ _ hfalse => hfalse.elim) ht
    · refine mem_crashStates (Q := fun _ _ => False) (exits_post (exits_promote_refused hp now
        (h.refused hresumable)) (fun _ _ hfalse => hfalse.elim)) rfl
        (fun _ _ hfalse => hfalse.elim) (fun e u hu => ⟨?_, hu.2⟩) ht
      rw [hu.1]
      exact h
  | ensure seed =>
    have hidle {current : DataGeneration} (hmissing : s.pendingPromotion = .missing)
        (hcurrent : s.active env = .ok current) : Phase env start id candidate previous t :=
      mem_crashStates (exits_ensure_idle seed hmissing hcurrent) rfl
        (fun _ u hu => by rw [hu.2]; exact h) (fun _ _ hfalse => hfalse.elim) ht
    obtain ⟨current, hcurrent, -⟩ := h.active hp
    rcases h with hbefore | ⟨promoted, promotedAt, hmarked | hpromoted⟩
    · exact hidle hbefore.idle hcurrent
    · exact mem_crashStates (exits_ensure_marked hp seed) hmarked (fun _ _ hu => hu.2.phase)
        (fun _ _ hfalse => hfalse.elim) ht
    · exact hidle hpromoted.idle hcurrent

include hp in
/-- Attempts leave a phase of the promotion. -/
theorem Attempts.phase (h : Attempts env id candidate start t) :
    Phase env start id candidate previous t := by
  induction h with
  | start => exact .inl hp.before
  | crash attempt _ hmem ih => exact ih.attempt hp attempt hmem

include hp in
/-- A pending promotion is completed by either call. -/
lemma Marked.completes (h : Marked env start id candidate previous promoted promotedAt store)
    (attempt : Attempt) :
    Completes env start id candidate previous (attempt.run env id candidate) store := by
  cases attempt with
  | promote now =>
    obtain ⟨generation, after, hreturns, rfl, hpromoted⟩ :=
      exists_returns (exits_promote_marked hp now) h
    exact hpromoted.completes hreturns
  | ensure seed =>
    obtain ⟨generation, after, hreturns, rfl, hpromoted⟩ :=
      exists_returns (exits_ensure_marked hp seed) h
    exact hpromoted.completes hreturns

include hp in
/-- A promotion that is not pending is not completed while the directory of the new generation is
taken. -/
lemma Before.stuck {seed : SeedData} (h : Before start id candidate store)
    (hobstructed : ¬ Unobstructed env candidate store) :
    ¬ (Completes env start id candidate previous
          (promoteCandidate env id candidate.candidateSha256 promotedAt) store ∨
        Completes env start id candidate previous (ensureActive env seed) store) := by
  rintro (⟨_, _, _, hreturns, -⟩ | ⟨generation, after, _, hreturns, -, hid, -⟩)
  · exact not_returns (exits_promote_refused (C := fun _ => True) hp promotedAt
      (.inl ⟨h, hobstructed⟩))
      rfl hreturns
  · have hprevious := h.kept.active_previous hp h.pointer
    have hsame := hreturns.of_exits (exits_ensure_idle (C := fun _ => True) _ h.idle hprevious) rfl
    rw [hsame.1] at hid
    exact hp.ids_ne hid

/-- However often a promotion crashes, the previous generation or the approved one is active.  One
more call of `promote_candidate` or of `ensure_active` completes it if and only if the directory of
the new generation does not exist or is whole; once it is pending, either call does. -/
theorem promotion_crash_safe (hp : Promotable env start id candidate previous)
    (h : Attempts env id candidate start t) :
    (∃ generation, t.active env = .ok generation ∧ (generation = previous ∨
      generation.generationId = generationIdOf candidate.newDigest ∧
        generation.dataSha256 = candidate.newDigest)) ∧
    ((∀ promotedAt seed,
        Completes env start id candidate previous
            (promoteCandidate env id candidate.candidateSha256 promotedAt) t ∨
          Completes env start id candidate previous (ensureActive env seed) t) ↔
      Unobstructed env candidate t) ∧
    (t.pendingPromotion ≠ .missing → ∀ attempt : Attempt,
      Completes env start id candidate previous (attempt.run env id candidate) t) := by
  have hphase := h.phase hp
  refine ⟨hphase.active hp, ⟨fun hcompletes => ?_, fun hunobstructed promotedAt seed => ?_⟩, ?_⟩
  · rcases hphase with hbefore | ⟨promoted, promotedAt, hmarked | hpromoted⟩
    · by_contra hobstructed
      exact hbefore.stuck hp hobstructed (hcompletes 0 ⟨none, "", 0⟩)
    · exact hmarked.published.unobstructed
    · exact hpromoted.published.unobstructed
  · rcases hphase with hbefore | ⟨promoted, promotedAt', hmarked | hpromoted⟩
    · obtain ⟨generation, after, hreturns, hpromoted⟩ :=
        exists_returns (exits_promote_before promotedAt hp) ⟨hbefore, hunobstructed⟩
      exact .inl (hpromoted.completes hreturns)
    · exact .inl (hmarked.completes hp (.promote promotedAt))
    · have hcurrent := hpromoted.published.active_promoted hpromoted.pointer
      obtain ⟨generation, after, hreturns, rfl, rfl⟩ := exists_returns
        (exits_ensure_idle (C := fun _ => True) seed hpromoted.idle hcurrent) rfl
      exact .inr (hpromoted.completes hreturns)
  · intro hpending attempt
    rcases hphase with hbefore | ⟨promoted, promotedAt, hmarked | hpromoted⟩
    · exact absurd hbefore.idle hpending
    · exact hmarked.completes hp attempt
    · exact absurd hpromoted.idle hpending

end Phases

end Generations

/-! ## A promotion cut in the copy -/

namespace PromotionSample

/-- Digests by the number of bytes, and directories listed as they were written. -/
def env : GenerationEnvironment where
  member bytes := toString bytes.length
  dataset members :=
    String.ofList ((if members = [("a.csv", "1")] then 'a' else 'b') :: List.replicate 63 '0')
  manifest _ := "manifest"
  candidate _ := "candidate"
  scandir := fun members => members
  dataset_hex members := by
    rw [String.toList_ofList]
    split <;> decide
  scandir_perm members := List.Perm.refl members

def id : String := "candidate-" ++ String.ofList (List.replicate 24 '0')

def oldDigest : Digest := env.dataset [("a.csv", "1")]

def newDigest : Digest := env.dataset [("a.csv", "2")]

def previous : DataGeneration :=
  ⟨generationIdOf oldDigest, "xtquant", 0, "manifest", oldDigest⟩

def candidateManifest : CandidateManifest where
  candidateId := some id
  activeGenerationId := previous.generationId
  changedSymbols := some ["a"]
  changedSessions := some [1]
  firstDifferenceSession := some 1
  oldDigest := oldDigest
  newDigest := newDigest
  source := "xtquant"
  generatedAt := some 0
  members := some [("a.csv", "2")]
  candidateSha256 := some "candidate"

def candidate : RewriteCandidate where
  candidateId := id
  activeGenerationId := previous.generationId
  changedSymbols := ["a"]
  changedSessions := [1]
  firstDifferenceSession := some 1
  oldDigest := oldDigest
  newDigest := newDigest
  source := "xtquant"
  generatedAt := 0
  candidateSha256 := "candidate"

/-- One generation, and one candidate for it. -/
def start : GenerationStore where
  generations := AList.insert previous.generationId ⟨[("a.csv", [1])], .holds
    ⟨some previous.generationId, some "xtquant", some 0, some [("a.csv", "1")], some oldDigest⟩⟩ ∅
  candidates := AList.insert id ⟨[("a.csv", [1, 2])], .holds candidateManifest, by decide⟩ ∅
  promotions := ∅
  activePointer := .holds (pointerTo previous)
  pendingPromotion := .missing

lemma promotable : Promotable env start id candidate previous where
  verified := by rfl
  current := by rfl
  based := rfl
  unchanged := rfl
  changes := by decide
  digest := by rfl
  source := by rfl
  idle := rfl
  unobstructed := .inl (by decide)
  fresh := by rfl

theorem promotion_settles :
    Completes env start id candidate previous (promoteCandidate env id "candidate" 1) start ∨
      Completes env start id candidate previous (ensureActive env ⟨none, "", 0⟩) start :=
  (promotion_crash_safe promotable .start).2.1.mpr promotable.unobstructed 1 ⟨none, "", 0⟩

/-- The store of a promotion that was cut when the new directory was still empty. -/
def torn : GenerationStore :=
  { start with generations := start.generations.insert (generationIdOf newDigest) (directoryOf []) }

theorem torn_stuck :
    ¬ ∀ (env : GenerationEnvironment) (start : GenerationStore) (id : String)
      (candidate : RewriteCandidate) (previous : DataGeneration),
      Promotable env start id candidate previous → ∀ promotedAt, ∀ t ∈ crashStates
        (promoteCandidate env id candidate.candidateSha256 promotedAt) start, ∀ seed,
        Completes env start id candidate previous
            (promoteCandidate env id candidate.candidateSha256 promotedAt) t ∨
          Completes env start id candidate previous (ensureActive env seed) t := by
  intro h
  have hcrash : (crashStates (promoteCandidate env id candidate.candidateSha256 1) start)[9]? =
      some torn := by
    rfl
  have hbefore : Before start id candidate torn := promotable.before.insert _
  have hobstructed : ¬ Unobstructed env candidate torn := by
    rintro (habsent | ⟨promoted, hload, -⟩)
    · revert habsent
      decide
    · have herror : torn.loadGeneration env (some (generationIdOf candidate.newDigest)) =
          .error ⟨"active data generation is missing"⟩ := by rfl
      rw [herror] at hload
      cases hload
  exact hbefore.stuck promotable hobstructed
    (h env start id candidate previous promotable 1 torn (List.mem_of_getElem? hcrash)
      ⟨none, "", 0⟩)

end PromotionSample

end GenerationStore

end FirmQuant
