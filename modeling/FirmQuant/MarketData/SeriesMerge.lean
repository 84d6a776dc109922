import FirmQuant.Foundation.StableSort
import FirmQuant.MarketData.XtQuantDaily

/-!
# Rendered series and merged series

A rendered series is read back as it was, and a merge has the whole history exactly if the stored
rows leave out nothing up to the last of them.
-/

namespace FirmQuant

open Effect

namespace XtQuantDaily

variable {env : DailyDataEnvironment}

/-! ## Reading a rendered series -/

/-- The fields of a bar as they are read from its record. -/
def BarFields.reread (bar : BarFields) : BarFields :=
  ⟨bar.session, bar.openPrice.reread, bar.high.reread, bar.low.reread, bar.close.reread, bar.volume,
    bar.amount.reread⟩

lemma BarFields.values_reread (bar : BarFields) : bar.reread.values = bar.values := by
  simp only [BarFields.values, BarFields.reread, DecimalTuple.value_reread]

/-- A bar as it is read from its record. -/
def DailyBar.reread (bar : DailyBar) : DailyBar :=
  ⟨bar.toBarFields.reread, by rw [BarFields.values_reread]; exact bar.valid⟩

lemma DailyBar.values_reread (bar : DailyBar) : bar.reread.values = bar.values :=
  BarFields.values_reread bar.toBarFields

lemma barRecord_reread (bar : DailyBar) :
    barRecord bar.reread.toBarFields = barRecord bar.toBarFields := by
  simp only [barRecord, DailyBar.reread, BarFields.reread, DecimalTuple.format_reread]

lemma DailyBar.volume_nonneg (bar : DailyBar) : 0 ≤ bar.volume := by
  have hvalid := bar.valid
  unfold BarValues.violation at hvalid
  split_ifs at hvalid with _ _ _ hvolume
  exact not_lt.mp hvolume

variable {label name : String}

lemma decimal_format (d : DecimalTuple) :
    decimal env label (some d.format.toList) = .ok d.reread := by
  unfold decimal
  simp only [DecimalTuple.ofSigned_format]

/-- A whole number as a `Decimal`. -/
def wholeDecimal (n : ℕ) : DecimalTuple := ⟨false, n, 0⟩

lemma format_wholeDecimal (n : ℕ) : (wholeDecimal n).format.toList = Nat.toDigits 10 n := by
  have hpos : 0 < (Nat.toDigits 10 n).length := List.length_pos_iff.mpr Nat.toDigits_ne_nil
  unfold wholeDecimal DecimalTuple.format DecimalTuple.render DecimalTuple.intAndFraction
  have hneg : ¬ ((Nat.toDigits 10 n).length : ℤ) < 0 := by omega
  have hzero : ¬ ((Nat.toDigits 10 n).length : ℤ) = 0 := by omega
  simp only [lt_irrefl, and_false, if_false, zero_add, hneg, hzero, Int.toNat_natCast,
    List.take_length, List.drop_length, Bool.false_eq_true, if_true, List.nil_append,
    List.append_nil, String.toList_ofList]

lemma decimal_intText {label : String} {n : ℤ} (hn : 0 ≤ n) :
    ∃ value, decimal env label (some (intText n)) = .ok value ∧ value.value = n := by
  refine ⟨(wholeDecimal n.natAbs).reread, ?_, ?_⟩
  · unfold intText
    rw [if_neg (not_lt.mpr hn), ← format_wholeDecimal]
    exact decimal_format _
  · rw [DecimalTuple.value_reread]
    simp only [wholeDecimal, DecimalTuple.value, Bool.false_eq_true, if_false, zpow_zero, one_mul,
      mul_one]
    rw [Nat.cast_natAbs, abs_of_nonneg hn]

lemma create_of_valid (bar : DailyBar) : DailyBar.create bar.toBarFields = .ok bar := by
  unfold DailyBar.create
  split
  · rfl
  next message hviolation =>
    rw [bar.valid] at hviolation
    cases hviolation

lemma barOfRow_barRecord (bar : DailyBar) :
    barOfRow env name (Csv.rowOf header (barRecord bar.toBarFields)) = .ok bar.reread := by
  obtain ⟨volume, hvolume, hvalue⟩ := @decimal_intText env "existing volume" _ bar.volume_nonneg
  have hden : ¬ volume.value.den ≠ 1 := by
    rw [hvalue]
    simp
  have hdate : rowDate env name (some bar.session.isoformat.toList) = .ok bar.session := by
    unfold rowDate
    simp only [String.ofList_toList, CalendarDate.fromIsoformat_isoformat]
  have hamount : ∀ close volume, rowAmount env (Csv.rowOf header (barRecord bar.toBarFields)) close
      volume = .ok bar.amount.reread := by
    intro close volume
    have htext : Csv.Row.get (Csv.rowOf header (barRecord bar.toBarFields)) "amount".toList =
        some (some bar.amount.format.toList) := rfl
    unfold rowAmount
    rw [htext]
    cases hcs : bar.amount.format.toList with
    | nil =>
      have hread := DecimalTuple.ofSigned_format bar.amount
      rw [hcs] at hread
      cases hread
    | cons c cs =>
      simp only
      rw [← hcs]
      exact decimal_format _
  have hnum : volume.value.num = bar.volume := by
    rw [hvalue]
    exact Rat.num_intCast _
  have hcreate : DailyBar.create ⟨bar.session, bar.openPrice.reread, bar.high.reread,
      bar.low.reread, bar.close.reread, volume.value.num, bar.amount.reread⟩ = .ok bar.reread := by
    rw [hnum]
    exact create_of_valid bar.reread
  have hfields : ∀ key value, Csv.Row.get (Csv.rowOf header (barRecord bar.toBarFields))
      (String.toList key) = some (some value) →
        rowField name key (Csv.rowOf header (barRecord bar.toBarFields)) = .ok (some value) := by
    intro key value h
    unfold rowField
    rw [h]
  unfold barOfRow
  refine bind_ok_iff.mpr ⟨_, hfields "date" _ rfl, bind_ok_iff.mpr ⟨_, hdate,
    bind_ok_iff.mpr ⟨_, hfields "volume" _ rfl, bind_ok_iff.mpr ⟨_, hvolume,
      bind_ok_iff.mpr ⟨⟨⟩, refuse_eq_ok.mpr hden, ?_⟩⟩⟩⟩⟩
  refine bind_ok_iff.mpr ⟨_, hfields "open" _ rfl, bind_ok_iff.mpr
    ⟨_, decimal_format _, bind_ok_iff.mpr ⟨_, hfields "high" _ rfl,
      bind_ok_iff.mpr ⟨_, decimal_format _, ?_⟩⟩⟩⟩
  refine bind_ok_iff.mpr ⟨_, hfields "low" _ rfl, bind_ok_iff.mpr
    ⟨_, decimal_format _, bind_ok_iff.mpr ⟨_, hfields "close" _ rfl,
      bind_ok_iff.mpr ⟨_, decimal_format _, bind_ok_iff.mpr ⟨_, hamount _ _, ?_⟩⟩⟩⟩⟩
  simp only [hcreate]
  rfl

/-- A text of digits, points and signs is a plain field. -/
lemma plainField_of_chars {cs : List Char} (hne : cs ≠ [])
    (h : ∀ c ∈ cs, c.isDigit = true ∨ c = '.' ∨ c = '-') : Csv.PlainField cs := by
  refine ⟨hne, fun c hc => ?_⟩
  rcases h c hc with hdigit | rfl | rfl
  · unfold Csv.isPlain Csv.Reader.isNewline
    have hne : ∀ other : Char, other.isDigit = false → c ≠ other := by
      rintro other hother rfl
      rw [hdigit] at hother
      cases hother
    simp [hne '\n' (by decide), hne '\r' (by decide), hne '"' (by decide), hne ',' (by decide)]
  · decide
  · decide

lemma plainField_format (d : DecimalTuple) : Csv.PlainField d.format.toList := by
  obtain ⟨hinteger, hdigits, -⟩ := DecimalTuple.intAndFraction_cases d
  have hchars : ∀ c ∈ d.format.toList, c.isDigit = true ∨ c = '.' ∨ c = '-' := by
    intro c hc
    unfold DecimalTuple.format DecimalTuple.render at hc
    rw [String.toList_ofList, List.append_assoc] at hc
    rcases List.mem_append.mp hc with hc | hc
    · split at hc
      · exact .inr (.inr (List.mem_singleton.mp hc))
      · cases hc
    · rcases List.mem_append.mp hc with hc | hc
      · exact .inl (hdigits c (List.mem_append_left _ hc))
      · split at hc
        · cases hc
        · rcases List.mem_cons.mp hc with rfl | hc
          · exact .inr (.inl rfl)
          · exact .inl (hdigits c (List.mem_append_right _ hc))
  refine plainField_of_chars ?_ hchars
  intro hnil
  have hread := DecimalTuple.ofSigned_format d
  rw [hnil] at hread
  cases hread

lemma plainField_intText {n : ℤ} (hn : 0 ≤ n) : Csv.PlainField (intText n) := by
  unfold intText
  rw [if_neg (not_lt.mpr hn)]
  exact plainField_of_chars Nat.toDigits_ne_nil fun c hc => .inl (Json.toDigits_all_digit hc)

lemma plainField_isoformat (d : CalendarDate) : Csv.PlainField d.isoformat.toList := by
  unfold CalendarDate.isoformat
  rw [String.toList_ofList]
  have hdigit := IsoDate.isDigit_digit
  refine plainField_of_chars (List.cons_ne_nil _ _) ?_
  simp [CalendarDate.isoChars, IsoDate.fourDigits, IsoDate.twoDigits, hdigit]

lemma plainField_barRecord (bar : DailyBar) :
    ∀ field ∈ barRecord bar.toBarFields, Csv.PlainField field := by
  simp only [barRecord, List.forall_mem_cons]
  exact ⟨plainField_isoformat _, plainField_format _, plainField_format _, plainField_format _,
    plainField_format _, plainField_intText bar.volume_nonneg, plainField_format _,
    fun _ h => absurd h List.not_mem_nil⟩

/-- The fields of a bar are within the limit of the reader. -/
def ShortFields (bar : DailyBar) : Prop :=
  ∀ field ∈ barRecord bar.toBarFields, field.length ≤ Csv.Reader.fieldLimit

/-- The sessions of a series increase. -/
def Increasing (bars : List DailyBar) : Prop := (bars.map (·.session)).Pairwise (· < ·)

variable {bars stored fetched : List DailyBar}

lemma validateSeries_eq_ok {allowEmpty : Bool} {u : Unit} :
    validateSeries bars label allowEmpty = .ok u ↔
      ¬ (bars = [] ∧ allowEmpty = false) ∧ Increasing bars := by
  unfold validateSeries Increasing
  by_cases hempty : bars = [] ∧ allowEmpty = false
  · simp [hempty]
  · rw [if_neg hempty, and_iff_right hempty]
    by_cases hsorted : (bars.map (·.session)).Pairwise (· < ·)
    · simp [hsorted]
    · simp [hsorted]

/-- The text of a series. -/
def seriesText (bars : List DailyBar) : List Char :=
  Csv.write (header :: bars.map fun bar => barRecord bar.toBarFields)

/-- A rendered series is read back, exactly if its fields are within the limit of the reader. -/
theorem readSeries_seriesText {found : List DailyBar} (hbars : Increasing bars) :
    readSeries env name (seriesText bars) = .ok found ↔
      (∀ bar ∈ bars, ShortFields bar) ∧ found = bars.map DailyBar.reread := by
  have hne : ∀ record ∈ header :: bars.map (fun bar => barRecord bar.toBarFields),
      record ≠ [] := by
    refine List.forall_mem_cons.mpr ⟨List.cons_ne_nil _ _, ?_⟩
    intro record hrecord
    obtain ⟨bar, -, rfl⟩ := List.mem_map.mp hrecord
    exact List.cons_ne_nil _ _
  have hplain : ∀ record ∈ header :: bars.map (fun bar => barRecord bar.toBarFields),
      ∀ field ∈ record, Csv.PlainField field := by
    refine List.forall_mem_cons.mpr ⟨?_, ?_⟩
    · unfold Csv.PlainField header
      decide
    · intro record hrecord
      obtain ⟨bar, -, rfl⟩ := List.mem_map.mp hrecord
      exact plainField_barRecord bar
  have hheader : ∀ field ∈ header, field.length ≤ Csv.Reader.fieldLimit := by decide
  have hshort : (∀ record ∈ header :: bars.map (fun bar => barRecord bar.toBarFields),
      ∀ field ∈ record, field.length ≤ Csv.Reader.fieldLimit) ↔ ∀ bar ∈ bars, ShortFields bar := by
    rw [List.forall_mem_cons, and_iff_right hheader, List.forall_mem_map]
    rfl
  have hrows : (Csv.dictRows (header :: bars.map fun bar => barRecord bar.toBarFields)).mapM
      (barOfRow env name) = .ok (bars.map DailyBar.reread) := by
    have hkept : (bars.map fun bar => barRecord bar.toBarFields).filter (· ≠ []) =
        bars.map fun bar => barRecord bar.toBarFields := by
      rw [List.filter_eq_self]
      intro record hrecord
      simpa using hne record (List.mem_cons_of_mem _ hrecord)
    unfold Csv.dictRows
    simp only
    rw [hkept, List.map_map, mapM_eq_ok, List.forall₂_map_left_iff, List.forall₂_map_right_iff]
    exact List.forall₂_same.mpr fun bar _ => barOfRow_barRecord bar
  have hsessions : Increasing (bars.map DailyBar.reread) := by
    unfold Increasing at hbars ⊢
    rw [List.map_map]
    exact hbars
  unfold readSeries seriesText
  constructor
  · intro h
    cases hread : Csv.read (Csv.write (header :: bars.map fun bar =>
        barRecord bar.toBarFields)) with
    | error e =>
      rw [hread] at h
      cases h
    | ok records =>
      obtain ⟨hlimit, rfl⟩ := (Csv.read_plain hne hplain).mp hread
      rw [hread] at h
      obtain ⟨rows, hfound, h⟩ := bind_ok_iff.mp h
      rw [hrows] at hfound
      cases hfound
      obtain ⟨-, -, h⟩ := bind_ok_iff.mp h
      cases h
      exact ⟨hshort.mp hlimit, rfl⟩
  · rintro ⟨hlimit, rfl⟩
    rw [(Csv.read_plain hne hplain).mpr ⟨hshort.mpr hlimit, rfl⟩]
    refine bind_ok_iff.mpr ⟨_, hrows, bind_ok_iff.mpr ⟨⟨⟩, ?_, rfl⟩⟩
    exact validateSeries_eq_ok.mpr ⟨by simp, hsessions⟩

/-! ## The merge -/

/-- A sorted list and the part of another one after its last element make up the other one exactly
if they leave nothing of it out before that. -/
lemma append_later_eq_iff {α κ : Type} [LinearOrder κ] {key : α → κ} {stored fetched : List α}
    (hstored : stored.Pairwise fun a b => key a < key b)
    (hfetched : fetched.Pairwise fun a b => key a < key b) (hsub : ∀ a ∈ stored, a ∈ fetched) :
    stored ++ fetched.filter (fun a => stored.getLast?.all fun last => key last < key a) = fetched ↔
      ∀ a ∈ fetched, ∀ last ∈ stored.getLast?, key a ≤ key last → a ∈ stored := by
  have hlast : ∀ last ∈ stored.getLast?, ∀ a ∈ stored, key a ≤ key last := by
    intro last hlast a ha
    obtain ⟨front, hsplit⟩ := List.getLast?_eq_some_iff.mp hlast
    rw [hsplit] at ha hstored
    rcases List.mem_snoc.mp ha with ha | ha
    · exact ((List.pairwise_append.mp hstored).2.2 a ha last List.mem_cons_self).le
    · rw [ha]
  constructor
  · intro h a ha last hmem hle
    rw [← h] at ha
    refine (List.mem_append.mp ha).resolve_right fun hlater => ?_
    have hall := (List.mem_filter.mp hlater).2
    rw [hmem] at hall
    exact absurd hle (not_le.mpr (by simpa using hall))
  · intro h
    have hsorted : (stored ++ fetched.filter fun a =>
        stored.getLast?.all fun last => key last < key a).Pairwise fun a b => key a < key b := by
      refine List.pairwise_append.mpr ⟨hstored, hfetched.filter _, fun a ha b hb => ?_⟩
      obtain ⟨last, hmem⟩ : ∃ last, stored.getLast? = some last :=
        Option.isSome_iff_exists.mp (List.getLast?_isSome.mpr (List.ne_nil_of_mem ha))
      have hlater := (List.mem_filter.mp hb).2
      rw [hmem] at hlater
      exact (hlast last hmem a ha).trans_lt (by simpa using hlater)
    have hmem : ∀ a, a ∈ stored ++ fetched.filter (fun a =>
        stored.getLast?.all fun last => key last < key a) ↔ a ∈ fetched := by
      intro a
      rw [List.mem_append, List.mem_filter]
      constructor
      · rintro (ha | ⟨ha, -⟩)
        · exact hsub a ha
        · exact ha
      · intro ha
        cases hnone : stored.getLast? with
        | none => exact .inr ⟨ha, rfl⟩
        | some last =>
          by_cases hle : key a ≤ key last
          · exact .inl (h a ha last hnone hle)
          · exact .inr ⟨ha, by simpa using hle⟩
    have hnodup : ∀ {l : List α}, (l.Pairwise fun a b => key a < key b) → l.Nodup := by
      intro l hl
      refine hl.imp fun {a b} hlt heq => ?_
      rw [heq] at hlt
      exact lt_irrefl _ hlt
    have hperm := (List.perm_ext_iff_of_nodup (hnodup hsorted) (hnodup hfetched)).mpr hmem
    exact hperm.eq_of_pairwise (fun a b _ _ hab hba => absurd hab hba.not_gt) hsorted hfetched

/-- The rows of a history that are later than the stored ones. -/
def newRows (stored fetched : List DailyBar) : List DailyBar :=
  fetched.filter fun item => stored.getLast?.all fun last => last.session < item.session

/-- The merge returns exactly for a history that repeats every stored row. -/
lemma merge_eq_ok {rows : List DailyBar} {symbol : String} {n : ℕ} :
    merge stored fetched symbol = .ok (rows, n) ↔ (fetched ≠ [] ∧ Increasing fetched) ∧
      (∀ prior ∈ stored, ∃ item ∈ fetched, item.values = prior.values) ∧
        rows = stored ++ newRows stored fetched ∧ n = (newRows stored fetched).length := by
  have hfind : Increasing fetched → ∀ prior : DailyBar,
      ((fetched.find? (·.session = prior.session)).map (·.values) = some prior.values ↔
        ∃ item ∈ fetched, item.values = prior.values) := by
    intro hsorted prior
    constructor
    · intro h
      obtain ⟨item, hitem, hvalues⟩ := Option.map_eq_some_iff.mp h
      exact ⟨item, List.mem_of_find?_eq_some hitem, hvalues⟩
    · rintro ⟨item, hitem, hvalues⟩
      have hsession : item.session = prior.session := congrArg BarValues.session hvalues
      have hnodup : (fetched.map (·.session)).Nodup := hsorted.imp fun h => h.ne
      have hfound : fetched.find? (·.session = prior.session) = some item :=
        (List.find?_key_eq_some hnodup).mpr ⟨hitem, hsession⟩
      rw [hfound, Option.map_some, hvalues]
  unfold merge
  rw [bind_ok_iff]
  constructor
  · rintro ⟨⟨⟩, hvalid, h⟩
    obtain ⟨hne, hsorted⟩ := validateSeries_eq_ok.mp hvalid
    split at h
    · cases h
    next hnone =>
      cases h
      refine ⟨⟨fun hnil => hne ⟨hnil, rfl⟩, hsorted⟩, fun prior hprior => ?_, rfl, rfl⟩
      have hsame := List.find?_eq_none.mp hnone prior hprior
      exact (hfind hsorted prior).mp (by simpa using hsame)
  · rintro ⟨⟨hne, hsorted⟩, hrepeats, rfl, rfl⟩
    refine ⟨⟨⟩, validateSeries_eq_ok.mpr ⟨fun h => hne h.1, hsorted⟩, ?_⟩
    have hnone : stored.find? (fun prior => (fetched.find? (·.session = prior.session)).map
        (·.values) ≠ some prior.values) = none := by
      rw [List.find?_eq_none]
      intro prior hprior
      simpa using (hfind hsorted prior).mpr (hrepeats prior hprior)
    rw [hnone]
    rfl

/-- The stored rows leave out nothing that the history has up to the last of them. -/
def StoresAll (stored fetched : List DailyBar) : Prop :=
  ∀ item ∈ fetched, ∀ last ∈ stored.getLast?, item.session ≤ last.session →
    item.session ∈ stored.map (·.session)

lemma Increasing.values (h : Increasing bars) :
    (bars.map (·.values)).Pairwise fun a b => a.session < b.session :=
  List.pairwise_map.mpr (List.pairwise_map.mp h)

lemma eq_of_session (h : Increasing bars) {a b : DailyBar} (ha : a ∈ bars) (hb : b ∈ bars)
    (hsession : a.session = b.session) : a = b := by
  have hnodup : (bars.map (·.session)).Nodup := h.imp fun hlt => hlt.ne
  exact List.inj_on_of_nodup_map hnodup ha hb hsession

variable (hstored : Increasing stored) (hfetched : Increasing fetched)

include hstored hfetched

lemma merged_values_iff
    (hrepeats : ∀ prior ∈ stored, ∃ item ∈ fetched, item.values = prior.values) :
    (stored ++ newRows stored fetched).map (·.values) = fetched.map (·.values) ↔
      StoresAll stored fetched := by
  have hsub : ∀ a ∈ stored.map (·.values), a ∈ fetched.map (·.values) := by
    intro a ha
    obtain ⟨prior, hprior, rfl⟩ := List.mem_map.mp ha
    obtain ⟨item, hitem, hvalues⟩ := hrepeats prior hprior
    exact List.mem_map.mpr ⟨item, hitem, hvalues⟩
  have hnew : (newRows stored fetched).map (·.values) = (fetched.map (·.values)).filter fun a =>
      (stored.map (·.values)).getLast?.all fun last => last.session < a.session := by
    unfold newRows
    rw [List.filter_map, List.getLast?_map]
    congr 1
    refine List.filter_congr fun item _ => ?_
    cases stored.getLast? with
    | none => rfl
    | some last => rfl
  have hmembers : (∀ a ∈ fetched.map (·.values), ∀ last ∈ (stored.map (·.values)).getLast?,
      a.session ≤ last.session → a ∈ stored.map (·.values)) ↔ StoresAll stored fetched := by
    unfold StoresAll
    rw [List.forall_mem_map, List.getLast?_map]
    refine forall₂_congr fun item hitem => ?_
    simp only [Option.mem_def, Option.map_eq_some_iff, forall_exists_index, and_imp,
      forall_apply_eq_imp_iff₂]
    refine forall₃_congr fun last hlast hle => ?_
    constructor
    · intro h
      obtain ⟨prior, hprior, hvalues⟩ := List.mem_map.mp h
      exact List.mem_map.mpr ⟨prior, hprior, congrArg BarValues.session hvalues⟩
    · intro h
      obtain ⟨prior, hprior, hsession⟩ := List.mem_map.mp h
      obtain ⟨other, hother, hvalues⟩ := hrepeats prior hprior
      have hsame : other = item := by
        refine eq_of_session hfetched hother hitem ?_
        exact (congrArg BarValues.session hvalues).trans hsession
      exact List.mem_map.mpr ⟨prior, hprior, hsame ▸ hvalues.symm⟩
  rw [List.map_append, hnew, append_later_eq_iff hstored.values hfetched.values hsub, hmembers]

lemma increasing_merged :
    Increasing (stored ++ newRows stored fetched) := by
  have hnew : Increasing (newRows stored fetched) := by
    unfold Increasing newRows
    rw [List.pairwise_map]
    exact (List.pairwise_map.mp hfetched).filter _
  unfold Increasing at hstored hnew ⊢
  rw [List.map_append]
  refine List.pairwise_append.mpr ⟨hstored, hnew, fun a ha b hb => ?_⟩
  obtain ⟨prior, hprior, rfl⟩ := List.mem_map.mp ha
  obtain ⟨item, hitem, rfl⟩ := List.mem_map.mp hb
  obtain ⟨front, last, hsplit⟩ : ∃ front last, stored = front ++ [last] :=
    ⟨_, _, (List.dropLast_append_getLast (List.ne_nil_of_mem hprior)).symm⟩
  have hlater := (List.mem_filter.mp hitem).2
  rw [hsplit, List.getLast?_concat] at hlater
  have hlast : last.session < item.session := by simpa using hlater
  rw [hsplit] at hprior hstored
  rcases List.mem_snoc.mp hprior with hprior | hprior
  · rw [List.map_append] at hstored
    exact ((List.pairwise_append.mp hstored).2.2 _ (List.mem_map_of_mem hprior) _
      List.mem_cons_self).trans hlast
  · rwa [hprior]

lemma values_prefix_iff
    (hrepeats : ∀ prior ∈ stored, ∃ item ∈ fetched, item.values = prior.values) :
    stored.map (·.values) <+: fetched.map (·.values) ↔ StoresAll stored fetched := by
  constructor
  · rintro ⟨rest, hrest⟩ item hitem last hlast hle
    have hmem : item.values ∈ stored.map (·.values) ++ rest :=
      hrest ▸ List.mem_map_of_mem hitem
    rcases List.mem_append.mp hmem with hmem | hmem
    · obtain ⟨prior, hprior, hvalues⟩ := List.mem_map.mp hmem
      exact List.mem_map.mpr ⟨prior, hprior, congrArg BarValues.session hvalues⟩
    · have hsorted := hrest ▸ hfetched.values
      have hlater := (List.pairwise_append.mp hsorted).2.2 last.values
        (List.mem_map_of_mem (List.mem_of_getLast? hlast)) item.values hmem
      exact absurd hle (not_le.mpr hlater)
  · intro h
    rw [← (merged_values_iff hstored hfetched hrepeats).mpr h, List.map_append]
    exact List.prefix_append _ _

end XtQuantDaily

end FirmQuant
