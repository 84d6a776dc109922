import FirmQuant.Foundation.Matched
import FirmQuant.MarketData.SeriesMerge

/-!
# Published history and fetched history

When a returned update of the daily data leaves the fetched histories in the files.  The merge
compares the stored rows with the history and then appends what is later than the last of them: a
row that the history has before that, and the file has not, is neither stored nor missed.
-/

namespace FirmQuant

open Effect Matched

namespace XtQuantDaily

variable {env : DailyDataEnvironment}

/-! ## Publishing -/

lemma publish_cons (files : String → Option (List Char)) (series : StagedSeries)
    (staged : List StagedSeries) : publish files (series :: staged) =
      publish (write files series.destination series.text) staged := rfl

variable {staged : List StagedSeries} {name symbol : String} {stored bars : List DailyBar}
  {series : StagedSeries} {canonical : List String} {found : List DailySeriesObservation}

lemma publish_of_notMem (h : ∀ series ∈ staged, series.destination ≠ name)
    (files : String → Option (List Char)) :
    publish files staged name = files name := by
  induction staged generalizing files with
  | nil => rfl
  | cons series staged ih =>
    obtain ⟨hfirst, hrest⟩ := List.forall_mem_cons.mp h
    rw [publish_cons, ih hrest]
    exact Function.update_of_ne (Ne.symm hfirst) _ _

/-- A file to which some series goes holds one of the series that go there. -/
lemma publish_of_mem (h : ∃ series ∈ staged, series.destination = name)
    (files : String → Option (List Char)) :
    ∃ series ∈ staged, series.destination = name ∧
      publish files staged name = some series.text := by
  induction staged generalizing files with
  | nil =>
    obtain ⟨series, hseries, -⟩ := h
    cases hseries
  | cons first staged ih =>
    rw [publish_cons]
    by_cases hlater : ∃ series ∈ staged, series.destination = name
    · obtain ⟨series, hseries, hgoes, hholds⟩ := ih hlater _
      exact ⟨series, List.mem_cons_of_mem _ hseries, hgoes, hholds⟩
    · push Not at hlater
      obtain ⟨series, hseries, hgoes⟩ := h
      have hfirst : series = first :=
        (List.mem_cons.mp hseries).resolve_right fun hmem => hlater series hmem hgoes
      subst hfirst hgoes
      refine ⟨series, List.mem_cons_self, rfl, ?_⟩
      rw [publish_of_notMem hlater]
      exact Function.update_self _ _ _

section Updates

variable {files : String → Option (List Char)} {answer : ProviderAnswer}
  {settings : UpdaterSettings} {symbols : List String} {through : CalendarDate} {now : DateTime}

/-- Each series is in its file exactly if the series that go to one file have one text. -/
lemma publish_eq_some_iff :
    (∀ series ∈ staged, publish files staged series.destination = some series.text) ↔
      ∀ series ∈ staged, ∀ other ∈ staged, series.destination = other.destination →
        series.text = other.text := by
  constructor
  · intro h series hseries other hother hsame
    have hholds := h series hseries
    rw [hsame, h other hother] at hholds
    exact (Option.some.inj hholds).symm
  · intro h series hseries
    obtain ⟨other, hother, hsame, hholds⟩ := publish_of_mem ⟨series, hseries, rfl⟩ files
    rw [hholds, h series hseries other hother hsame.symm]

lemma publish_eq_self (h : ∀ series ∈ staged, files series.destination = some series.text) :
    publish files staged = files := by
  induction staged with
  | nil => rfl
  | cons series staged ih =>
    obtain ⟨hfirst, hrest⟩ := List.forall_mem_cons.mp h
    have hsame : write files series.destination series.text = files := by
      unfold write
      rw [← hfirst, Function.update_eq_self]
    rw [publish_cons, hsame, ih hrest]

/-! ## What is prepared -/

/-- What the updater reads of a symbol's file; nothing if the file is refused. -/
def storedRows (env : DailyDataEnvironment) (files : String → Option (List Char))
    (symbol : String) : List DailyBar :=
  (readExisting env files (seriesName files symbol)).toOption.getD []

/-- A symbol of the update. -/
def Requested (symbols : List String) (symbol : String) : Prop :=
  ∃ raw ∈ symbols, canonicalSymbol raw = .ok symbol

lemma storedRows_of_ok (h : readExisting env files (seriesName files symbol) = .ok stored) :
    storedRows env files symbol = stored := by
  unfold storedRows
  rw [h]
  rfl

lemma increasing_of_readExisting (h : readExisting env files name = .ok stored) :
    Increasing stored := by
  unfold readExisting at h
  cases hfile : files name with
  | none =>
    rw [hfile] at h
    cases h
    exact List.Pairwise.nil
  | some text =>
    rw [hfile] at h
    simp only [readSeries] at h
    cases hread : Csv.read text with
    | error e =>
      rw [hread] at h
      cases h
    | ok records =>
      rw [hread] at h
      obtain ⟨bars, -, h⟩ := bind_ok_iff.mp h
      obtain ⟨⟨⟩, hvalid, h⟩ := bind_ok_iff.mp h
      cases h
      exact (validateSeries_eq_ok.mp hvalid).2

/-- What is staged of a symbol: the merge of what its file holds and of what was fetched. -/
structure Stages (env : DailyDataEnvironment) (files : String → Option (List Char))
    (answer : ProviderAnswer) (symbol : String) (series : StagedSeries) : Prop where
  named : series.symbol = symbol
  goes : series.destination = seriesName files symbol
  read : readExisting env files (seriesName files symbol) = .ok (storedRows env files symbol)
  merged : merge (storedRows env files symbol) (answer.bars symbol) symbol =
    .ok (series.rows, series.appended)
  rendered : render series.rows = .ok series.text

lemma stages_of_ok {found : Candidate} (hfound : candidate env files answer symbol = .ok found)
    (hstage : stage found = .ok series) : Stages env files answer symbol series := by
  obtain ⟨stored, hread, h⟩ := bind_ok_iff.mp hfound
  obtain ⟨⟨rows, n⟩, hmerge, h⟩ := bind_ok_iff.mp h
  cases h
  obtain ⟨text, htext, h⟩ := bind_ok_iff.mp hstage
  cases h
  have hstored := storedRows_of_ok hread
  exact ⟨rfl, rfl, hstored ▸ hread, hstored ▸ hmerge, htext⟩

lemma render_eq_ok {text : List Char} (h : render bars = .ok text) :
    text = seriesText bars := by
  unfold render at h
  split at h
  · cases h
  · exact (Except.ok.inj h).symm

/-- The staged rows follow from the stored and the fetched ones. -/
structure Stages.Rows (env : DailyDataEnvironment) (files : String → Option (List Char))
    (answer : ProviderAnswer) (symbol : String) (series : StagedSeries) : Prop where
  stored : Increasing (storedRows env files symbol)
  fetched : Increasing (answer.bars symbol)
  nonempty : answer.bars symbol ≠ []
  repeats : ∀ prior ∈ storedRows env files symbol, ∃ item ∈ answer.bars symbol,
    item.values = prior.values
  rows_eq : series.rows = storedRows env files symbol ++
    newRows (storedRows env files symbol) (answer.bars symbol)
  text_eq : series.text = seriesText series.rows

lemma Stages.rows (h : Stages env files answer symbol series) :
    Stages.Rows env files answer symbol series := by
  obtain ⟨⟨hne, hfetched⟩, hrepeats, hrows, -⟩ := merge_eq_ok.mp h.merged
  exact ⟨increasing_of_readExisting h.read, hfetched, hne, hrepeats, hrows, render_eq_ok h.rendered⟩

lemma Stages.Rows.increasing (h : Stages.Rows env files answer symbol series) :
    Increasing series.rows := by
  rw [h.rows_eq]
  exact increasing_merged h.stored h.fetched

/-- The parts of what is ready to be published. -/
structure Prepares (env : DailyDataEnvironment) (settings : UpdaterSettings) (symbols : List String)
    (through : CalendarDate) (answer : ProviderAnswer) (now : DateTime)
    (files : String → Option (List Char)) (prepared : Prepared) : Prop where
  canonical : ∃ named, symbols.mapM canonicalSymbol = .ok named ∧
    prepared.canonical = named.dedup.insertionSort (· ≤ ·)
  acquired : acquire env settings answer prepared.canonical through now = .ok prepared.observations
  staged : List.Forall₂ (Stages env files answer) prepared.canonical prepared.staged
  manifest : env.uquantManifest (prepared.staged.map fun series => (series.symbol, series.text))
    prepared.canonical through = .ok prepared.manifest

lemma prepares_of_ok {prepared : Prepared}
    (h : prepare env settings symbols through answer now files = .ok prepared) :
    Prepares env settings symbols through answer now files prepared := by
  obtain ⟨named, hnamed, h⟩ := bind_ok_iff.mp h
  iterate 2 obtain ⟨⟨⟩, -, h⟩ := bind_ok_iff.mp h
  obtain ⟨observations, hacquire, h⟩ := bind_ok_iff.mp h
  obtain ⟨candidates, hcandidates, h⟩ := bind_ok_iff.mp h
  obtain ⟨staged, hstaged, h⟩ := bind_ok_iff.mp h
  obtain ⟨manifest, hmanifest, h⟩ := bind_ok_iff.mp h
  iterate 2 obtain ⟨⟨⟩, -, h⟩ := bind_ok_iff.mp h
  cases h
  refine ⟨⟨named, hnamed, rfl⟩, hacquire, ?_, hmanifest⟩
  exact forall₂_comp (mapM_eq_ok.mp hcandidates) (mapM_eq_ok.mp hstaged)
    fun _ _ _ hcandidate hstage => stages_of_ok hcandidate hstage

/-- The symbols of what is prepared are those of the update. -/
lemma Prepares.mem_canonical {prepared : Prepared}
    (h : Prepares env settings symbols through answer now files prepared) :
    symbol ∈ prepared.canonical ↔ Requested symbols symbol := by
  obtain ⟨named, hnamed, hsorted⟩ := h.canonical
  rw [hsorted, List.mem_insertionSort, List.mem_dedup]
  have hmatched := mapM_eq_ok.mp hnamed
  constructor
  · exact exists_of_forall₂ hmatched symbol
  · rintro ⟨raw, hraw, hsymbol⟩
    obtain ⟨other, hother, hnames⟩ := exists_right_of_forall₂ hmatched raw hraw
    rw [hsymbol] at hnames
    rwa [Except.ok.inj hnames]

lemma lagEvidence_eq_ok {digest : Digest}
    (h : lagEvidence env settings answer symbol through now = .ok digest) :
    some digest =
      (answer.statuses.bind fun statuses => statuses.lookup symbol).map env.evidence := by
  unfold lagEvidence at h
  cases hfact : (answer.statuses.bind fun statuses => statuses.lookup symbol) with
  | none =>
    rw [hfact] at h
    cases h
  | some fact =>
    rw [hfact] at h
    iterate 4 obtain ⟨_, -, h⟩ := bind_ok_iff.mp h
    cases h
    rfl

/-- An observation is by the answer alone; the clock only decides whether there is one. -/
lemma observation_eq_ok {found : DailySeriesObservation}
    (h : observation env settings answer through now symbol = .ok found) :
    ∃ latest, latestSession answer symbol = some latest ∧ latest ≤ through ∧
      found = ⟨symbol, latest, if latest < through then
        (answer.statuses.bind fun statuses => statuses.lookup symbol).map env.evidence
      else none⟩ := by
  unfold observation at h
  cases hlatest : latestSession answer symbol with
  | none =>
    rw [hlatest] at h
    cases h
  | some latest =>
    rw [hlatest] at h
    simp only at h
    by_cases hexceeds : through < latest
    · rw [if_pos hexceeds] at h
      cases h
    · rw [if_neg hexceeds] at h
      refine ⟨latest, rfl, not_lt.mp hexceeds, ?_⟩
      by_cases hlags : latest < through
      · rw [if_pos hlags] at h ⊢
        obtain ⟨evidence, hevidence, h⟩ := bind_ok_iff.mp h
        cases h
        rw [← lagEvidence_eq_ok hevidence]
      · rw [if_neg hlags] at h ⊢
        exact (Except.ok.inj h).symm

lemma acquire_eq_ok (h : acquire env settings answer canonical through now = .ok found) :
    List.Forall₂ (fun symbol item => observation env settings answer through now symbol = .ok item)
      canonical found := by
  obtain ⟨_, -, h⟩ := bind_ok_iff.mp h
  obtain ⟨_, -, h⟩ := bind_ok_iff.mp h
  unfold statusObservations at h
  simp only at h
  split at h
  · cases h
  · obtain ⟨_, -, h⟩ := bind_ok_iff.mp h
    obtain ⟨_, -, h⟩ := bind_ok_iff.mp h
    exact mapM_eq_ok.mp h

/-- The observations do not depend on the clock. -/
lemma acquire_unique {later : DateTime} {again : List DailySeriesObservation}
    (h : acquire env settings answer canonical through now = .ok found)
    (h' : acquire env settings answer canonical through later = .ok again) : again = found := by
  have hmatched := forall₂_comp (acquire_eq_ok h').flip (acquire_eq_ok h) (T := Eq) ?_
  · rwa [List.forall₂_eq_eq_eq] at hmatched
  · intro item symbol other hitem hother
    obtain ⟨latest, hlatest, -, rfl⟩ := observation_eq_ok hitem
    obtain ⟨latest', hlatest', -, rfl⟩ := observation_eq_ok hother
    rw [hlatest] at hlatest'
    cases hlatest'
    rfl

/-- An acquired history ends with the target session at the latest. -/
lemma le_through (h : acquire env settings answer canonical through now = .ok found)
    (hsymbol : symbol ∈ canonical) (hsorted : Increasing (answer.bars symbol)) :
    ∀ item ∈ answer.bars symbol, item.session ≤ through := by
  intro item hitem
  obtain ⟨other, -, hother⟩ := exists_right_of_forall₂ (acquire_eq_ok h) symbol hsymbol
  obtain ⟨latest, hlatest, hle, -⟩ := observation_eq_ok hother
  obtain ⟨last, hlast, rfl⟩ := Option.map_eq_some_iff.mp hlatest
  obtain ⟨front, hsplit⟩ := List.getLast?_eq_some_iff.mp hlast
  have hpairs := List.pairwise_map.mp hsorted
  rw [hsplit] at hitem hpairs
  rcases List.mem_snoc.mp hitem with hitem | hitem
  · exact ((List.pairwise_append.mp hpairs).2.2 item hitem last List.mem_cons_self).le.trans hle
  · rwa [hitem]

/-! ## The file of a symbol -/

lemma length_of_canonicalSymbol {raw : String} (h : canonicalSymbol raw = .ok symbol) :
    symbol.toList.length = 8 := by
  unfold canonicalSymbol at h
  simp only at h
  split at h
  next hvalid =>
    cases h
    rw [String.toList_ofList]
    exact hvalid.1
  · cases h

lemma prefixed_ne_bare {other : String} (hsymbol : symbol.toList.length = 8)
    (hother : other.toList.length = 8) :
    symbol ++ ".csv" ≠ String.ofList (other.toList.drop 2) ++ ".csv" := by
  intro h
  have hlength := congrArg (fun name => name.toList.length) h
  simp only [String.toList_append, List.length_append, String.toList_ofList, List.length_drop,
    hsymbol, hother] at hlength
  omega

lemma seriesName_publish (hlength : ∀ symbol ∈ symbols, symbol.toList.length = 8)
    (hgoes : List.Forall₂ (fun symbol series => series.destination = seriesName files symbol)
      symbols staged) (hsymbol : symbol ∈ symbols) :
    seriesName (publish files staged) symbol = seriesName files symbol := by
  have hkept : ∀ name, (files name).isSome → (publish files staged name).isSome := by
    intro name hname
    by_cases hmem : ∃ series ∈ staged, series.destination = name
    · obtain ⟨series, -, -, hholds⟩ := publish_of_mem hmem files
      rw [hholds]
      rfl
    · push Not at hmem
      rwa [publish_of_notMem hmem]
  obtain ⟨series, hseries, hfile⟩ := exists_right_of_forall₂ hgoes symbol hsymbol
  have hpublished : (publish files staged (seriesName files symbol)).isSome := by
    obtain ⟨_, -, -, hholds⟩ := publish_of_mem ⟨series, hseries, hfile⟩ files
    rw [hholds]
    rfl
  by_cases hprefixed : (files (symbol ++ ".csv")).isSome
  · unfold seriesName
    simp only [hprefixed, hkept _ hprefixed, if_true]
  · by_cases hbare : (files (String.ofList (symbol.toList.drop 2) ++ ".csv")).isSome
    · -- No other symbol goes to the name with the market.
      have hname : seriesName files symbol = String.ofList (symbol.toList.drop 2) ++ ".csv" := by
        unfold seriesName
        simp only [hprefixed, hbare, if_true, Bool.false_eq_true, if_false]
      have hnone : publish files staged (symbol ++ ".csv") = files (symbol ++ ".csv") := by
        refine publish_of_notMem (fun other hother hsame => ?_) files
        obtain ⟨symbol', hsymbol', hfile'⟩ := exists_of_forall₂ hgoes other hother
        rw [hsame] at hfile'
        unfold seriesName at hfile'
        simp only at hfile'
        split at hfile'
        next hsome =>
          rw [← hfile'] at hsome
          exact hprefixed hsome
        · split at hfile'
          · exact prefixed_ne_bare (hlength _ hsymbol) (hlength _ hsymbol') hfile'
          next hbare' =>
            have hequal : symbol = symbol' := by
              have hlists := congrArg String.toList hfile'
              rw [String.toList_append, String.toList_append] at hlists
              exact String.toList_injective (List.append_cancel_right hlists)
            exact hbare' (hequal ▸ hbare)
      rw [hname]
      unfold seriesName
      simp only [hnone, hprefixed, hkept _ hbare, if_true, Bool.false_eq_true, if_false]
    · have hname : seriesName files symbol = symbol ++ ".csv" := by
        unfold seriesName
        simp only [hprefixed, hbare, Bool.false_eq_true, if_false]
      rw [hname] at hpublished ⊢
      unfold seriesName
      simp only [hpublished, if_true]

/-! ## Two updates with one answer -/

lemma newRows_eq_nil {fetched : List DailyBar} (hstored : Increasing stored)
    (hfetched : Increasing fetched) (h : stored.map (·.values) = fetched.map (·.values)) :
    newRows stored fetched = [] := by
  have hmem : ∀ a : BarValues, a ∈ stored.map (·.values) ↔ a ∈ fetched.map (·.values) := by
    intro a
    rw [h]
  have hrepeats : ∀ prior ∈ stored, ∃ item ∈ fetched, item.values = prior.values := by
    intro prior hprior
    exact List.mem_map.mp ((hmem _).mp (List.mem_map_of_mem hprior))
  have hall : StoresAll stored fetched := by
    intro item hitem _ _ _
    obtain ⟨prior, hprior, hvalues⟩ := List.mem_map.mp ((hmem _).mpr (List.mem_map_of_mem hitem))
    exact List.mem_map.mpr ⟨prior, hprior, congrArg BarValues.session hvalues⟩
  have hmerged := (merged_values_iff hstored hfetched hrepeats).mpr hall
  rw [List.map_append, ← h, List.append_right_eq_self] at hmerged
  exact List.map_eq_nil_iff.mp hmerged

lemma values_map_reread (bars : List DailyBar) :
    (bars.map DailyBar.reread).map (·.values) = bars.map (·.values) := by
  rw [List.map_map]
  exact List.map_congr_left fun bar _ => bar.values_reread

lemma increasing_map_reread (h : Increasing bars) :
    Increasing (bars.map DailyBar.reread) := by
  unfold Increasing at h ⊢
  rw [List.map_map]
  exact h

lemma seriesText_map_reread (bars : List DailyBar) :
    seriesText (bars.map DailyBar.reread) = seriesText bars := by
  unfold seriesText
  rw [List.map_map]
  have hrecords : bars.map ((fun bar => barRecord bar.toBarFields) ∘ DailyBar.reread) =
      bars.map fun bar => barRecord bar.toBarFields :=
    List.map_congr_left fun bar _ => barRecord_reread bar
  rw [hrecords]

/-- A series that is published in full is staged again as it is. -/
lemma stages_again {files' : String → Option (List Char)}
    {again : StagedSeries} (h : Stages env files answer symbol series)
    (hname : seriesName files' symbol = seriesName files symbol)
    (hholds : files' (seriesName files symbol) = some series.text)
    (hfull : series.rows.map (·.values) = (answer.bars symbol).map (·.values))
    (hagain : Stages env files' answer symbol again) :
    again.symbol = series.symbol ∧ again.destination = series.destination ∧
      again.text = series.text := by
  have hrows := h.rows
  have hrows' := hagain.rows
  have hread := hagain.read
  rw [hname] at hread
  unfold readExisting at hread
  rw [hholds, hrows.text_eq] at hread
  obtain ⟨-, hstored⟩ := (readSeries_seriesText hrows.increasing).mp hread
  have hnew : newRows (storedRows env files' symbol) (answer.bars symbol) = [] := by
    rw [hstored]
    refine newRows_eq_nil (increasing_map_reread hrows.increasing) hrows.fetched ?_
    rw [values_map_reread, hfull]
  refine ⟨hagain.named.trans h.named.symm, ?_, ?_⟩
  · rw [hagain.goes, h.goes, hname]
  · rw [hrows'.text_eq, hrows.text_eq, hrows'.rows_eq, hnew, List.append_nil, hstored,
      seriesText_map_reread]

section Runs

variable {settings : UpdaterSettings} {symbols : List String} {through : CalendarDate}
  {answer : ProviderAnswer} {now later : DateTime} {files : String → Option (List Char)}
  {prepared again : Prepared}

variable (h : Prepares env settings symbols through answer now files prepared)

include h

lemma Prepares.length_of_mem :
    ∀ symbol ∈ prepared.canonical, symbol.toList.length = 8 := by
  intro symbol hsymbol
  obtain ⟨raw, -, hraw⟩ := h.mem_canonical.mp hsymbol
  exact length_of_canonicalSymbol hraw

lemma Prepares.goes :
    List.Forall₂ (fun symbol series => series.destination = seriesName files symbol)
      prepared.canonical prepared.staged :=
  h.staged.imp fun _ _ hstages => hstages.goes

/-- What is prepared of files that hold everything is what they hold. -/
lemma Prepares.repeated (hholds : ∀ series ∈ prepared.staged,
      publish files prepared.staged series.destination = some series.text)
    (hfull : ∀ symbol ∈ prepared.canonical, ∀ series, Stages env files answer symbol series →
      series.rows.map (·.values) = (answer.bars symbol).map (·.values))
    (h' : Prepares env settings symbols through answer later
      (publish files prepared.staged) again) :
    publish (publish files prepared.staged) again.staged = publish files prepared.staged ∧
      again.observations = prepared.observations ∧ again.manifest = prepared.manifest := by
  have hcanonical : again.canonical = prepared.canonical := by
    obtain ⟨named, hnamed, hsorted⟩ := h.canonical
    obtain ⟨named', hnamed', hsorted'⟩ := h'.canonical
    rw [hnamed] at hnamed'
    rw [hsorted, hsorted', Except.ok.inj hnamed']
  have hmanifest := h'.manifest
  have hacquired := h'.acquired
  have hstaged := h'.staged
  rw [hcanonical] at hmanifest hacquired hstaged
  have hboth : List.Forall₂ (fun series (other : StagedSeries) => series ∈ prepared.staged ∧
      other.symbol = series.symbol ∧ other.destination = series.destination ∧
        other.text = series.text) prepared.staged again.staged := by
    have hmem : List.Forall₂ (fun series symbol => (series ∈ prepared.staged ∧
        symbol ∈ prepared.canonical) ∧ Stages env files answer symbol series) prepared.staged
          prepared.canonical := by
      rw [List.forall₂_iff_zip]
      refine ⟨h.staged.length_eq.symm, fun {series symbol} hpair => ?_⟩
      obtain ⟨hseries, hsymbol⟩ := List.of_mem_zip hpair
      exact ⟨⟨hseries, hsymbol⟩, List.forall₂_zip h.staged.flip hpair⟩
    refine forall₂_comp hmem hstaged fun series symbol other hpair hother => ?_
    obtain ⟨⟨hseries, hsymbol⟩, hstages⟩ := hpair
    have hname := seriesName_publish h.length_of_mem h.goes hsymbol
    have hfile := hholds series hseries
    rw [hstages.goes] at hfile
    exact ⟨hseries, stages_again hstages hname hfile (hfull symbol hsymbol series hstages) hother⟩
  refine ⟨publish_eq_self fun other hother => ?_, acquire_unique h.acquired hacquired, ?_⟩
  · obtain ⟨series, -, hseries, -, hgoes, htext⟩ := exists_of_forall₂ hboth other hother
    rw [hgoes, htext]
    exact hholds series hseries
  · have htexts : (again.staged.map fun series => (series.symbol, series.text)) =
        prepared.staged.map fun series => (series.symbol, series.text) := by
      refine map_eq_map_iff_forall₂.mpr (hboth.flip.imp fun other series hsame => ?_)
      obtain ⟨-, hsymbol, -, htext⟩ := hsame
      rw [hsymbol, htext]
    rw [htexts, h.manifest] at hmanifest
    exact (Except.ok.inj hmanifest).symm

end Runs

lemma update_eq_ok {disk disk' : DataDisk} {receipt : DailyDataUpdateReceipt}
    (h : update env settings symbols through answer now disk = .ok receipt disk') :
    ∃ prepared generationId, Prepares env settings symbols through answer now disk.files prepared ∧
      env.refreshGeneration (publish disk.files prepared.staged) = .ok generationId ∧
        disk' = ⟨publish disk.files prepared.staged,
          some ⟨through, prepared.manifest.digest, generationId, prepared.observations⟩,
          Function.update disk.archive through
            (some ⟨through, prepared.manifest.digest, generationId, prepared.observations⟩)⟩ := by
  unfold update at h
  cases hprepare : prepare env settings symbols through answer now disk.files with
  | error e =>
    rw [hprepare] at h
    cases h
  | ok prepared =>
    rw [hprepare] at h
    simp only at h
    cases hrefresh : env.refreshGeneration (publish disk.files prepared.staged) with
    | error e =>
      rw [hrefresh] at h
      cases h
    | ok generationId =>
      rw [hrefresh] at h
      cases h
      exact ⟨prepared, generationId, prepares_of_ok hprepare, hrefresh, rfl⟩

lemma finalState_update_again {later : DateTime} {disk : DataDisk}
    {governance : GovernanceManifest} (hgovernance : disk.governance = some governance)
    (harchive : disk.archive through = some governance)
    (hagain : ∀ again, Prepares env settings symbols through answer later disk.files again →
      publish disk.files again.staged = disk.files ∧
        env.refreshGeneration disk.files = .ok governance.dataGenerationId ∧
          governance = ⟨through, again.manifest.digest, governance.dataGenerationId,
            again.observations⟩) :
    finalState (update env settings symbols through answer later disk) = disk := by
  unfold update
  cases hprepare : prepare env settings symbols through answer later disk.files with
  | error e => rfl
  | ok again =>
    obtain ⟨hfiles, hrefresh, hsame⟩ := hagain again (prepares_of_ok hprepare)
    simp only [hfiles, hrefresh, ← hsame, finalState_ok, ← hgovernance]
    have hkept : Function.update disk.archive through disk.governance = disk.archive := by
      rw [hgovernance, ← harchive, Function.update_eq_self]
    rw [hkept]

/-! ## Published history -/

/-- What a returned update leaves in the file of a symbol: the rows that were stored, the rows that
it merged, their text, and the rows that are read of the file again. -/
structure PublishedAs (env : DailyDataEnvironment) (before after : String → Option (List Char))
    (answer : ProviderAnswer) (through : CalendarDate) (symbol : String)
    (stored rows again : List DailyBar) (text : List Char) : Prop where
  read : readExisting env before (seriesName before symbol) = .ok stored
  begins : stored.map (·.values) <+: (answer.bars symbol).map (·.values)
  merged : ∃ appended, merge stored (answer.bars symbol) symbol = .ok (rows, appended)
  fetched : rows.map (·.values) =
    ((answer.bars symbol).filter (·.session ≤ through)).map (·.values)
  rendered : render rows = .ok text
  holds : after (seriesName before symbol) = some text
  readAgain : readExisting env after (seriesName before symbol) = .ok again
  same : again.map (·.values) = rows.map (·.values)

/-- The published history is the fetched one, and the same update once more changes nothing. -/
structure HistoryPublished (env : DailyDataEnvironment) (settings : UpdaterSettings)
    (symbols : List String) (through : CalendarDate) (answer : ProviderAnswer)
    (disk disk' : DataDisk) : Prop where
  published : ∀ symbol, Requested symbols symbol → ∃ stored rows again text,
    PublishedAs env disk.files disk'.files answer through symbol stored rows again text
  unchanged : ∀ later, finalState (update env settings symbols through answer later disk') = disk'

/-- The stored rows leave out nothing that was fetched up to the last of them, what is to be written
is within the limit of the reader, and symbols of one file have one history to write. -/
structure WholeHistory (env : DailyDataEnvironment) (symbols : List String)
    (answer : ProviderAnswer) (files : String → Option (List Char)) : Prop where
  stores : ∀ symbol, Requested symbols symbol →
    StoresAll (storedRows env files symbol) (answer.bars symbol)
  short : ∀ symbol, Requested symbols symbol → ∀ bar ∈ storedRows env files symbol ++
    newRows (storedRows env files symbol) (answer.bars symbol), ShortFields bar
  shared : ∀ symbol other, Requested symbols symbol → Requested symbols other →
    seriesName files symbol = seriesName files other →
      (newRows (storedRows env files symbol) (answer.bars symbol)).map
          (fun bar => barRecord bar.toBarFields) =
        (newRows (storedRows env files other) (answer.bars other)).map
          fun bar => barRecord bar.toBarFields

/-- Series have one text exactly if they have one table of records. -/
lemma seriesText_eq_iff {other : List DailyBar} : seriesText bars = seriesText other ↔
    bars.map (fun bar => barRecord bar.toBarFields) =
      other.map fun bar => barRecord bar.toBarFields := by
  have hplain : ∀ series : List DailyBar, ∀ record ∈ header :: series.map (fun bar =>
      barRecord bar.toBarFields), record ≠ [] ∧ ∀ field ∈ record, Csv.PlainField field := by
    intro series
    refine List.forall_mem_cons.mpr ⟨⟨List.cons_ne_nil _ _, ?_⟩, ?_⟩
    · unfold Csv.PlainField header
      decide
    · intro record hrecord
      obtain ⟨bar, -, rfl⟩ := List.mem_map.mp hrecord
      exact ⟨List.cons_ne_nil _ _, plainField_barRecord bar⟩
  constructor
  · intro h
    exact (List.cons.inj (Csv.write_injective (hplain bars) (hplain other) h)).2
  · intro h
    unfold seriesText
    rw [h]

/-- A returned update publishes the fetched history, exactly if the stored rows leave out nothing of
it. -/
theorem historyPublished_iff {env : DailyDataEnvironment} {settings : UpdaterSettings}
    {symbols : List String} {through : CalendarDate} {answer : ProviderAnswer} {now : DateTime}
    {disk disk' : DataDisk} {receipt : DailyDataUpdateReceipt}
    (h : update env settings symbols through answer now disk = .ok receipt disk') :
    HistoryPublished env settings symbols through answer disk disk' ↔
      WholeHistory env symbols answer disk.files := by
  obtain ⟨prepared, generationId, hprepares, hrefresh, rfl⟩ := update_eq_ok h
  have hseries : ∀ symbol, Requested symbols symbol →
      ∃ series ∈ prepared.staged, Stages env disk.files answer symbol series := by
    intro symbol hsymbol
    exact exists_right_of_forall₂ hprepares.staged symbol (hprepares.mem_canonical.mpr hsymbol)
  have hsymbol : ∀ series ∈ prepared.staged,
      ∃ symbol, Requested symbols symbol ∧ Stages env disk.files answer symbol series := by
    intro series hmem
    obtain ⟨symbol, hcanonical, hstages⟩ := exists_of_forall₂ hprepares.staged series hmem
    exact ⟨symbol, hprepares.mem_canonical.mp hcanonical, hstages⟩
  constructor
  · intro hpublished
    have hdetermined : ∀ symbol series, Requested symbols symbol →
        Stages env disk.files answer symbol series → ∃ again,
          PublishedAs env disk.files (publish disk.files prepared.staged) answer through symbol
            (storedRows env disk.files symbol) series.rows again series.text := by
      intro symbol series hrequested hstages
      obtain ⟨stored, rows, again, text, hall⟩ := hpublished.published symbol hrequested
      obtain rfl := storedRows_of_ok hall.read
      obtain ⟨n, hmerged⟩ := hall.merged
      rw [hstages.merged] at hmerged
      cases hmerged
      have htext := hall.rendered
      rw [hstages.rendered] at htext
      cases htext
      exact ⟨again, hall⟩
    refine ⟨fun symbol hrequested => ?_, fun symbol hrequested => ?_,
      fun symbol other hrequested hother hname => ?_⟩
    · obtain ⟨series, -, hstages⟩ := hseries symbol hrequested
      obtain ⟨again, hall⟩ := hdetermined symbol series hrequested hstages
      exact (values_prefix_iff hstages.rows.stored hstages.rows.fetched hstages.rows.repeats).mp
        hall.begins
    · obtain ⟨series, -, hstages⟩ := hseries symbol hrequested
      obtain ⟨again, hall⟩ := hdetermined symbol series hrequested hstages
      have hread := hall.readAgain
      unfold readExisting at hread
      rw [hall.holds, hstages.rows.text_eq] at hread
      rw [← hstages.rows.rows_eq]
      exact ((readSeries_seriesText hstages.rows.increasing).mp hread).1
    · obtain ⟨series, -, hstages⟩ := hseries symbol hrequested
      obtain ⟨series', -, hstages'⟩ := hseries other hother
      obtain ⟨again, hall⟩ := hdetermined symbol series hrequested hstages
      obtain ⟨again', hall'⟩ := hdetermined other series' hother hstages'
      have htext := hall.holds
      rw [hname, hall'.holds] at htext
      have htexts := (Option.some.inj htext).symm
      rw [hstages.rows.text_eq, hstages'.rows.text_eq, seriesText_eq_iff, hstages.rows.rows_eq,
        hstages'.rows.rows_eq, List.map_append, List.map_append] at htexts
      have hstored : storedRows env disk.files symbol = storedRows env disk.files other := by
        unfold storedRows
        rw [hname]
      rw [hstored] at htexts ⊢
      exact List.append_cancel_left htexts
  · intro hwhole
    have hfull : ∀ symbol, Requested symbols symbol → ∀ series,
        Stages env disk.files answer symbol series →
          series.rows.map (·.values) = (answer.bars symbol).map (·.values) := by
      intro symbol hrequested series hstages
      rw [hstages.rows.rows_eq]
      exact (merged_values_iff hstages.rows.stored hstages.rows.fetched hstages.rows.repeats).mpr
        (hwhole.stores symbol hrequested)
    have hholds : ∀ series ∈ prepared.staged,
        publish disk.files prepared.staged series.destination = some series.text := by
      refine publish_eq_some_iff.mpr fun series hmem other hmem' hsame => ?_
      obtain ⟨symbol, hrequested, hstages⟩ := hsymbol series hmem
      obtain ⟨symbol', hrequested', hstages'⟩ := hsymbol other hmem'
      rw [hstages.goes, hstages'.goes] at hsame
      have hstored : storedRows env disk.files symbol = storedRows env disk.files symbol' := by
        unfold storedRows
        rw [hsame]
      rw [hstages.rows.text_eq, hstages'.rows.text_eq, seriesText_eq_iff, hstages.rows.rows_eq,
        hstages'.rows.rows_eq, List.map_append, List.map_append,
        hwhole.shared symbol symbol' hrequested hrequested' hsame, hstored]
    refine ⟨fun symbol hrequested => ?_, fun later => ?_⟩
    · obtain ⟨series, hmem, hstages⟩ := hseries symbol hrequested
      have hrows := hstages.rows
      have hfile := hholds series hmem
      rw [hstages.goes] at hfile
      have hthrough := le_through hprepares.acquired (hprepares.mem_canonical.mpr hrequested)
        hrows.fetched
      have hkept : (answer.bars symbol).filter (·.session ≤ through) = answer.bars symbol := by
        rw [List.filter_eq_self]
        intro item hitem
        simpa using hthrough item hitem
      have hread : readExisting env (publish disk.files prepared.staged)
          (seriesName disk.files symbol) = .ok (series.rows.map DailyBar.reread) := by
        unfold readExisting
        rw [hfile, hrows.text_eq]
        refine (readSeries_seriesText hrows.increasing).mpr ⟨?_, rfl⟩
        rw [hrows.rows_eq]
        exact hwhole.short symbol hrequested
      exact ⟨storedRows env disk.files symbol, series.rows, series.rows.map DailyBar.reread,
        series.text,
        { read := hstages.read
          begins := (values_prefix_iff hrows.stored hrows.fetched hrows.repeats).mpr
            (hwhole.stores symbol hrequested)
          merged := ⟨series.appended, hstages.merged⟩
          fetched := by rw [hkept, hfull symbol hrequested series hstages]
          rendered := hstages.rendered
          holds := hfile
          readAgain := hread
          same := values_map_reread series.rows }⟩
    · refine finalState_update_again rfl (Function.update_self _ _ _) fun again hagain => ?_
      obtain ⟨hfiles, hobservations, hmanifest⟩ := hprepares.repeated hholds
        (fun symbol hmem series hstages =>
          hfull symbol (hprepares.mem_canonical.mp hmem) series hstages) hagain
      exact ⟨hfiles, hrefresh, by rw [hobservations, hmanifest]⟩

end Updates

/-! ### A stored series and a stored gap -/

namespace HistorySample

/-- A bar of the sample. -/
def bar (session : CalendarDate) : DailyBar where
  session := session
  openPrice := ⟨false, 10, 0⟩
  high := ⟨false, 10, 0⟩
  low := ⟨false, 10, 0⟩
  close := ⟨false, 10, 0⟩
  volume := 100
  amount := ⟨false, 1000, 0⟩
  valid := by
    have hprice : DecimalTuple.value ⟨false, 10, 0⟩ = 10 := by norm_num [DecimalTuple.value]
    have hamount : DecimalTuple.value ⟨false, 1000, 0⟩ = 1000 := by norm_num [DecimalTuple.value]
    norm_num [BarFields.values, hprice, hamount, BarValues.violation]

/-- A day of August 2026. -/
def august (day : ℕ) (h : 1 ≤ day ∧ day ≤ 31) : CalendarDate :=
  ⟨2026, 8, day, by
    unfold IsoDate.ValidDate IsoDate.daysInMonth
    norm_num
    omega⟩

def environment : DailyDataEnvironment where
  decimalOther := fun _ => none
  dateOther := fun _ => none
  evidence := fun fact => fact.rawPayloadSha256
  uquantManifest := fun _ symbols finish => .ok ⟨"manifest", finish, symbols⟩
  activeGeneration := fun _ => .ok ()
  refreshGeneration := fun _ => .ok none

def settings : UpdaterSettings := ⟨["sh600001"], 0⟩

/-- A disk with one series. -/
def disk (rows : String) : DataDisk where
  files := fun name =>
    if name = "sh600001.csv" then some ("date,open,high,low,close,volume,amount\n" ++ rows).toList
    else none
  governance := none
  archive := fun _ => none

def answer (sessions : List CalendarDate) : ProviderAnswer :=
  ⟨AList.singleton "sh600001" (sessions.map bar), none⟩

/-- The stored day and the next one. -/
def nextDay : ProviderAnswer := answer [august 24 (by decide), august 25 (by decide)]

/-- A series of one day. -/
def oneDay : DataDisk := disk "2026-08-24,10,10,10,10,100,1000\n"

/-- Four days in a row. -/
def fourDays : ProviderAnswer :=
  answer [august 24 (by decide), august 25 (by decide), august 26 (by decide),
    august 27 (by decide)]

/-- A series that lacks a day between two others. -/
def gap : DataDisk := disk "2026-08-24,10,10,10,10,100,1000\n2026-08-26,10,10,10,10,100,1000\n"

lemma requested_iff :
    Requested ["sh600001"] symbol ↔ symbol = "sh600001" := by
  have hname : canonicalSymbol "sh600001" = .ok "sh600001" := by decide +kernel
  unfold Requested
  simp only [List.mem_singleton, exists_eq_left, hname, Except.ok.injEq]
  exact eq_comm

end HistorySample

/-- The day after a stored one is published. -/
theorem historyPublished_nextDay : ∃ receipt disk',
    update HistorySample.environment HistorySample.settings ["sh600001"]
        (HistorySample.august 25 (by decide)) HistorySample.nextDay 0 HistorySample.oneDay =
          .ok receipt disk' ∧
      HistoryPublished HistorySample.environment HistorySample.settings ["sh600001"]
        (HistorySample.august 25 (by decide)) HistorySample.nextDay HistorySample.oneDay disk' := by
  obtain ⟨receipt, hreceipt⟩ := exists_ok_finalState (r := update HistorySample.environment
    HistorySample.settings ["sh600001"] (HistorySample.august 25 (by decide))
    HistorySample.nextDay 0 HistorySample.oneDay) (by decide +kernel)
  refine ⟨receipt, _, hreceipt, (historyPublished_iff hreceipt).mpr ?_⟩
  refine ⟨fun symbol h => ?_, fun symbol h => ?_, fun symbol other h hother _ => ?_⟩
  · rw [HistorySample.requested_iff.mp h]
    unfold StoresAll
    decide +kernel
  · rw [HistorySample.requested_iff.mp h]
    unfold ShortFields
    decide +kernel
  · rw [HistorySample.requested_iff.mp h, HistorySample.requested_iff.mp hother]

/-- A day that lies between two stored ones is not published. -/
theorem historyPublished_gap : ∃ receipt disk',
    update HistorySample.environment HistorySample.settings ["sh600001"]
        (HistorySample.august 27 (by decide)) HistorySample.fourDays 0 HistorySample.gap =
          .ok receipt disk' ∧
      ¬ HistoryPublished HistorySample.environment HistorySample.settings ["sh600001"]
        (HistorySample.august 27 (by decide)) HistorySample.fourDays HistorySample.gap disk' := by
  obtain ⟨receipt, hreceipt⟩ := exists_ok_finalState (r := update HistorySample.environment
    HistorySample.settings ["sh600001"] (HistorySample.august 27 (by decide))
    HistorySample.fourDays 0 HistorySample.gap) (by decide +kernel)
  refine ⟨receipt, _, hreceipt, fun hpublished => ?_⟩
  obtain ⟨stored, rows, again, text, hall⟩ :=
    hpublished.published "sh600001" (HistorySample.requested_iff.mpr rfl)
  have hstored := storedRows_of_ok hall.read
  have hgap : ¬ (storedRows HistorySample.environment HistorySample.gap.files "sh600001").map
      (·.session) <+: (HistorySample.fourDays.bars "sh600001").map (·.session) := by
    decide +kernel
  have hbegins := hall.begins.map (·.session)
  rw [List.map_map, List.map_map] at hbegins
  rw [hstored] at hgap
  exact hgap hbegins

end XtQuantDaily

end FirmQuant
