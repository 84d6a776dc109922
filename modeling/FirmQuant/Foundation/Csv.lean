import Mathlib.Data.List.Basic
import FirmQuant.Foundation.Effect

/-!
# Comma-separated values

The reader of the `csv` module for the default dialect, a state machine that takes a text character
by character and line by line, and `DictReader` over it.

Records of plain fields, which have no comma, no quote and no end of line in them, are read back as
they were written, unless a field is longer than the limit of the reader (`read_plain`).
-/

namespace Csv

open Effect

/-! ## The reader -/

/-- What the reader raises. -/
inductive ReadError
  /-- "field larger than field limit". -/
  | fieldTooLong
  /-- "new-line character seen in unquoted field". -/
  | newlineInField
  deriving DecidableEq, Repr

/-- Where the reader is within a record. -/
inductive Phase
  | startRecord | startField | inField | inQuotedField | quoteInQuotedField | eatNewline
  deriving DecidableEq, Repr

/-- The reader: the fields of the record that are complete, and the one that it reads. -/
structure Reader where
  phase : Phase
  fields : List (List Char)
  field : List Char

namespace Reader

/-- The reader before a record. -/
def start : Reader := ⟨.startRecord, [], []⟩

/-- `csv.field_size_limit()`. -/
def fieldLimit : ℕ := 131072

def isNewline (c : Char) : Bool := c = '\n' || c = '\r'

/-- `parse_add_char`. -/
def add (r : Reader) (phase : Phase) (c : Char) : Except ReadError Reader :=
  if fieldLimit ≤ r.field.length then .error .fieldTooLong
  else .ok ⟨phase, r.fields, r.field ++ [c]⟩

/-- `parse_save_field`. -/
def save (r : Reader) (phase : Phase) : Reader := ⟨phase, r.fields ++ [r.field], []⟩

/-- A character at the start of a field. -/
def beginField (r : Reader) (c : Char) : Except ReadError Reader :=
  if isNewline c then .ok (r.save .eatNewline)
  else if c = '"' then .ok { r with phase := .inQuotedField }
  else if c = ',' then .ok (r.save .startField)
  else r.add .inField c

/-- One character. -/
def step (r : Reader) (c : Char) : Except ReadError Reader :=
  match r.phase with
  | .startRecord =>
    if isNewline c then .ok { r with phase := .eatNewline } else r.beginField c
  | .startField => r.beginField c
  | .inField =>
    if isNewline c then .ok (r.save .eatNewline)
    else if c = ',' then .ok (r.save .startField)
    else r.add .inField c
  | .inQuotedField =>
    if c = '"' then .ok { r with phase := .quoteInQuotedField } else r.add .inQuotedField c
  | .quoteInQuotedField =>
    if c = '"' then r.add .inQuotedField c
    else if c = ',' then .ok (r.save .startField)
    else if isNewline c then .ok (r.save .eatNewline)
    else r.add .inField c
  | .eatNewline => if isNewline c then .ok r else .error .newlineInField

/-- The end of a line. -/
def endLine (r : Reader) : Reader :=
  match r.phase with
  | .startRecord | .inQuotedField => r
  | .startField | .inField | .quoteInQuotedField => r.save .startRecord
  | .eatNewline => { r with phase := .startRecord }

/-- A line. -/
def readLine (r : Reader) (line : List Char) : Except ReadError Reader := do
  let r ← line.foldlM step r
  return r.endLine

/-- The records of the lines that are left. -/
def records : Reader → List (List Char) → Except ReadError (List (List (List Char)))
  | r, [] =>
    if r.field ≠ [] ∨ r.phase = .inQuotedField then .ok [(r.save .startRecord).fields] else .ok []
  | r, line :: lines => do
    let r ← r.readLine line
    if r.phase = .startRecord then do
      let rest ← records start lines
      return r.fields :: rest
    else records r lines

end Reader

/-- The lines of a text file with their ends. -/
def lines : List Char → List (List Char)
  | [] => []
  | c :: cs =>
    if c = '\n' ∨ c = '\r' ∧ cs.head? ≠ some '\n' then [c] :: lines cs
    else
      match lines cs with
      | [] => [[c]]
      | line :: rest => (c :: line) :: rest

/-- `csv.reader` of a text. -/
def read (text : List Char) : Except ReadError (List (List (List Char))) :=
  Reader.start.records (lines text)

/-! ## Rows by the names of the header -/

/-- A row of `DictReader`: a value for each name, which is none where the record is too short. -/
abbrev Row := List (List Char × Option (List Char))

/-- The row of a record. -/
def rowOf (header record : List (List Char)) : Row :=
  (header.zip record).map (fun entry => (entry.1, some entry.2)) ++
    (header.drop record.length).map fun name => (name, none)

/-- `row[name]`, none if there is no such name. -/
def Row.get (row : Row) (name : List Char) : Option (Option (List Char)) :=
  (row.reverse.find? fun entry => entry.1 = name).map Prod.snd

/-- The rows of the records after the header; empty records are left out. -/
def dictRows : List (List (List Char)) → List Row
  | [] => []
  | header :: records => (records.filter (· ≠ [])).map (rowOf header)

/-! ## Plain records -/

/-- A character that stands for itself everywhere. -/
def isPlain (c : Char) : Bool := !Reader.isNewline c && c ≠ '"' && c ≠ ','

/-- A field that is written as it is. -/
def PlainField (field : List Char) : Prop := field ≠ [] ∧ ∀ c ∈ field, isPlain c = true

/-- The line of a record. -/
def writeRecord (record : List (List Char)) : List Char := [','].intercalate record ++ ['\n']

/-- The text of records. -/
def write (records : List (List (List Char))) : List Char := (records.map writeRecord).flatten

namespace Reader

variable {r r' : Reader} {field cs : List Char} {record : List (List Char)}

lemma step_plain {c : Char} (hc : isPlain c = true)
    (hphase : r.phase = .startRecord ∨ r.phase = .startField ∨ r.phase = .inField) :
    r.step c = r.add .inField c := by
  unfold isPlain at hc
  simp only [Bool.and_eq_true, Bool.not_eq_true', decide_eq_true_eq] at hc
  obtain ⟨⟨hnewline, hquote⟩, hcomma⟩ := hc
  unfold step
  rcases hphase with h | h | h <;> simp [h, beginField, hnewline, hquote, hcomma]

/-- The characters of a plain field are added one by one, up to the limit. -/
lemma foldlM_plain (hplain : ∀ c ∈ cs, isPlain c = true) (hphase : r.phase = .inField) :
    (cs.foldlM step r = .ok r' ↔ (cs = [] ∨ r.field.length + cs.length ≤ fieldLimit) ∧
      r' = ⟨.inField, r.fields, r.field ++ cs⟩) := by
  induction cs generalizing r with
  | nil =>
    obtain ⟨phase, fields, field⟩ := r
    cases hphase
    simp only [List.foldlM_nil, List.append_nil, true_or, true_and]
    constructor
    · intro h
      cases h
      rfl
    · rintro rfl
      rfl
  | cons c cs ih =>
    obtain ⟨hc, hcs⟩ := List.forall_mem_cons.mp hplain
    rw [List.foldlM_cons, step_plain hc (.inr (.inr hphase)), bind_ok_iff]
    unfold add
    by_cases hlimit : fieldLimit ≤ r.field.length
    · rw [if_pos hlimit]
      constructor
      · rintro ⟨_, h, -⟩
        cases h
      · rintro ⟨h | h, -⟩
        · cases h
        · simp only [List.length_cons] at h
          omega
    · rw [if_neg hlimit]
      have hsplit : (cs = [] ∨ (r.field ++ [c]).length + cs.length ≤ fieldLimit) ↔
          (c :: cs = [] ∨ r.field.length + (c :: cs).length ≤ fieldLimit) := by
        cases cs with
        | nil =>
          simp only [List.length_cons, List.length_nil, reduceCtorEq, false_or, true_or, true_iff]
          omega
        | cons d ds =>
          simp only [List.length_append, List.length_cons, List.length_nil, reduceCtorEq, false_or]
          omega
      constructor
      · rintro ⟨_, h, hrest⟩
        cases h
        obtain ⟨hle, rfl⟩ := (ih hcs rfl).mp hrest
        exact ⟨hsplit.mp hle, by simp⟩
      · rintro ⟨hle, rfl⟩
        exact ⟨_, rfl, (ih hcs rfl).mpr ⟨hsplit.mpr hle, by simp⟩⟩

lemma foldlM_field (hfield : PlainField field)
    (hphase : r.phase = .startRecord ∨ r.phase = .startField) (hempty : r.field = []) :
    (field.foldlM step r = .ok r' ↔ field.length ≤ fieldLimit ∧
      r' = ⟨.inField, r.fields, field⟩) := by
  obtain ⟨hne, hplain⟩ := hfield
  cases field with
  | nil => exact absurd rfl hne
  | cons c cs =>
    obtain ⟨hc, hcs⟩ := List.forall_mem_cons.mp hplain
    have hphase' : r.phase = .startRecord ∨ r.phase = .startField ∨ r.phase = .inField := by
      rcases hphase with h | h
      · exact .inl h
      · exact .inr (.inl h)
    rw [List.foldlM_cons, step_plain hc hphase', bind_ok_iff]
    have hadd : r.add .inField c = .ok ⟨.inField, r.fields, [c]⟩ := by
      unfold add
      rw [hempty, if_neg (by decide)]
      rfl
    have hlong : (cs = [] ∨ [c].length + cs.length ≤ fieldLimit) ↔
        (c :: cs).length ≤ fieldLimit := by
      cases cs with
      | nil => simp [fieldLimit]
      | cons d ds =>
        simp only [List.length_cons, List.length_nil, reduceCtorEq, false_or]
        omega
    constructor
    · rintro ⟨_, h, hrest⟩
      rw [hadd] at h
      cases h
      obtain ⟨hle, rfl⟩ := (foldlM_plain hcs rfl).mp hrest
      exact ⟨hlong.mp hle, by simp⟩
    · rintro ⟨hle, rfl⟩
      exact ⟨_, hadd, (foldlM_plain hcs rfl).mpr ⟨hlong.mpr hle, by simp⟩⟩

lemma foldlM_record (hne : record ≠ []) (hplain : ∀ field ∈ record, PlainField field)
    (hphase : r.phase = .startRecord ∨ r.phase = .startField) (hempty : r.field = []) :
    ((writeRecord record).foldlM step r = .ok r' ↔
      (∀ field ∈ record, field.length ≤ fieldLimit) ∧
        r' = ⟨.eatNewline, r.fields ++ record, []⟩) := by
  unfold writeRecord
  induction record generalizing r with
  | nil => exact absurd rfl hne
  | cons field rest ih =>
    obtain ⟨hfield, hrest⟩ := List.forall_mem_cons.mp hplain
    have hshort := fun {q} => @foldlM_field r q field hfield hphase hempty
    cases rest with
    | nil =>
      rw [List.intercalate_singleton, List.foldlM_append, bind_ok_iff]
      constructor
      · rintro ⟨q, hq, hend⟩
        obtain ⟨hle, rfl⟩ := hshort.mp hq
        cases hend
        exact ⟨by simpa using hle, rfl⟩
      · rintro ⟨hle, rfl⟩
        exact ⟨_, hshort.mpr ⟨hle field List.mem_cons_self, rfl⟩, rfl⟩
    | cons next rest =>
      rw [List.intercalate_cons_cons, List.append_assoc, List.append_assoc, List.foldlM_append,
        bind_ok_iff]
      have hcomma : ∀ q : Reader, q.phase = .inField →
          (([','] ++ ([','].intercalate (next :: rest) ++ ['\n'])).foldlM step q = .ok r' ↔
            (∀ field ∈ next :: rest, field.length ≤ fieldLimit) ∧
              r' = ⟨.eatNewline, (q.fields ++ [q.field]) ++ (next :: rest), []⟩) := by
        intro q hq
        have hstep : q.step ',' = .ok (q.save .startField) := by
          unfold step
          rw [hq]
          rfl
        rw [List.singleton_append, List.foldlM_cons, hstep]
        exact @ih (q.save .startField) (List.cons_ne_nil _ _) hrest (.inr rfl) rfl
      constructor
      · rintro ⟨q, hq, hend⟩
        obtain ⟨hle, rfl⟩ := hshort.mp hq
        obtain ⟨hall, rfl⟩ := (hcomma _ rfl).mp hend
        exact ⟨List.forall_mem_cons.mpr ⟨hle, hall⟩, by simp⟩
      · rintro ⟨hall, rfl⟩
        obtain ⟨hle, hall⟩ := List.forall_mem_cons.mp hall
        exact ⟨_, hshort.mpr ⟨hle, rfl⟩, (hcomma _ rfl).mpr ⟨hall, by simp⟩⟩

lemma readLine_writeRecord (hne : record ≠ []) (hplain : ∀ field ∈ record, PlainField field) :
    (start.readLine (writeRecord record) = .ok r' ↔
      (∀ field ∈ record, field.length ≤ fieldLimit) ∧ r' = ⟨.startRecord, record, []⟩) := by
  unfold readLine
  rw [bind_ok_iff]
  constructor
  · rintro ⟨q, hq, hend⟩
    obtain ⟨hle, rfl⟩ := (foldlM_record hne hplain (.inl rfl) rfl).mp hq
    cases hend
    exact ⟨hle, rfl⟩
  · rintro ⟨hle, rfl⟩
    exact ⟨_, (foldlM_record hne hplain (.inl rfl) rfl).mpr ⟨hle, rfl⟩, rfl⟩

/-- The lines of records are read as the records. -/
lemma records_map_writeRecord {written : List (List (List Char))}
    {found : List (List (List Char))} (hne : ∀ record ∈ written, record ≠ [])
    (hplain : ∀ record ∈ written, ∀ field ∈ record, PlainField field) :
    (start.records (written.map writeRecord) = .ok found ↔
      (∀ record ∈ written, ∀ field ∈ record, field.length ≤ fieldLimit) ∧ found = written) := by
  induction written generalizing found with
  | nil =>
    constructor
    · intro h
      cases h
      exact ⟨fun record h => absurd h List.not_mem_nil, rfl⟩
    · rintro ⟨-, rfl⟩
      rfl
  | cons record written ih =>
    obtain ⟨hfirst, hrest⟩ := List.forall_mem_cons.mp hne
    obtain ⟨hplainFirst, hplainRest⟩ := List.forall_mem_cons.mp hplain
    have hline := fun {q} => @readLine_writeRecord q record hfirst hplainFirst
    rw [List.map_cons, records, bind_ok_iff]
    constructor
    · rintro ⟨q, hq, h⟩
      obtain ⟨hle, rfl⟩ := hline.mp hq
      rw [if_pos rfl, bind_ok_iff] at h
      obtain ⟨rest, hrecords, h⟩ := h
      cases h
      obtain ⟨hall, rfl⟩ := (ih hrest hplainRest).mp hrecords
      exact ⟨List.forall_mem_cons.mpr ⟨hle, hall⟩, rfl⟩
    · rintro ⟨hall, rfl⟩
      obtain ⟨hle, hall⟩ := List.forall_mem_cons.mp hall
      refine ⟨_, hline.mpr ⟨hle, rfl⟩, ?_⟩
      rw [if_pos rfl, bind_ok_iff]
      exact ⟨_, (ih hrest hplainRest).mpr ⟨hall, rfl⟩, rfl⟩

end Reader

/-! ## Lines -/

/-- A line without an end in it is cut off at its end. -/
lemma lines_append {line rest : List Char} (hplain : ∀ c ∈ line, Reader.isNewline c = false) :
    lines (line ++ '\n' :: rest) = (line ++ ['\n']) :: lines rest := by
  induction line with
  | nil => simp [lines]
  | cons c line ih =>
    obtain ⟨hc, hline⟩ := List.forall_mem_cons.mp hplain
    unfold Reader.isNewline at hc
    simp only [Bool.or_eq_false_iff, decide_eq_false_iff_not] at hc
    rw [List.cons_append, lines, if_neg (by simp [hc.1, hc.2]), ih hline]
    rfl

lemma mem_intercalate {record : List (List Char)} {c : Char}
    (h : c ∈ [','].intercalate record) : c = ',' ∨ ∃ field ∈ record, c ∈ field := by
  induction record with
  | nil => cases h
  | cons field rest ih =>
    cases rest with
    | nil =>
      rw [List.intercalate_singleton] at h
      exact .inr ⟨field, List.mem_cons_self, h⟩
    | cons next rest =>
      rw [List.intercalate_cons_cons, List.append_assoc, List.mem_append, List.mem_append] at h
      rcases h with h | h | h
      · exact .inr ⟨field, List.mem_cons_self, h⟩
      · exact .inl (List.mem_singleton.mp h)
      · rcases ih h with h | ⟨other, hother, h⟩
        · exact .inl h
        · exact .inr ⟨other, List.mem_cons_of_mem _ hother, h⟩

variable {written : List (List (List Char))}

/-- The lines of records are the lines that were written. -/
lemma lines_write (hplain : ∀ record ∈ written, ∀ field ∈ record, PlainField field) :
    lines (write written) = written.map writeRecord := by
  unfold write
  induction written with
  | nil => rfl
  | cons record written ih =>
    obtain ⟨hfirst, hrest⟩ := List.forall_mem_cons.mp hplain
    rw [List.map_cons, List.flatten_cons]
    have hline : ∀ c ∈ [','].intercalate record, Reader.isNewline c = false := by
      intro c hc
      rcases mem_intercalate hc with rfl | ⟨field, hfield, hc⟩
      · rfl
      · have hplainChar := (hfirst field hfield).2 c hc
        unfold isPlain at hplainChar
        simp only [Bool.and_eq_true, Bool.not_eq_true'] at hplainChar
        exact hplainChar.1.1
    have hcut := @lines_append _ ((written.map writeRecord).flatten) hline
    have hsplit : writeRecord record ++ (written.map writeRecord).flatten =
        [','].intercalate record ++ '\n' :: (written.map writeRecord).flatten := by
      unfold writeRecord
      rw [List.append_assoc, List.singleton_append]
    rw [hsplit, hcut, ih hrest]
    rfl

/-- Plain records are read back as they were written, unless a field is too long. -/
theorem read_plain {found : List (List (List Char))} (hne : ∀ record ∈ written, record ≠ [])
    (hplain : ∀ record ∈ written, ∀ field ∈ record, PlainField field) :
    (read (write written) = .ok found ↔
      (∀ record ∈ written, ∀ field ∈ record, field.length ≤ Reader.fieldLimit) ∧
        found = written) := by
  unfold read
  rw [lines_write hplain]
  exact Reader.records_map_writeRecord hne hplain

/-! ## Texts name one table -/

lemma PlainField.comma_notMem {field : List Char} (h : PlainField field) : ',' ∉ field := by
  intro hcomma
  have hplain := h.2 ',' hcomma
  exact absurd hplain (by decide)

lemma writeRecord_injective {record other : List (List Char)} (hne : record ≠ [] ∧ other ≠ [])
    (hrecord : ∀ field ∈ record, PlainField field) (hother : ∀ field ∈ other, PlainField field)
    (h : writeRecord record = writeRecord other) : record = other := by
  have hjoined : [','].intercalate record = [','].intercalate other := List.append_cancel_right h
  have hsplit := congrArg (List.splitOn ',') hjoined
  rwa [List.splitOn_intercalate _ (fun field hfield => (hrecord field hfield).comma_notMem) hne.1,
    List.splitOn_intercalate _ (fun field hfield => (hother field hfield).comma_notMem) hne.2]
    at hsplit

/-- Different tables of plain records have different texts. -/
theorem write_injective {other : List (List (List Char))}
    (hwritten : ∀ record ∈ written, record ≠ [] ∧ ∀ field ∈ record, PlainField field)
    (hother : ∀ record ∈ other, record ≠ [] ∧ ∀ field ∈ record, PlainField field)
    (h : write written = write other) : written = other := by
  have hlines := congrArg lines h
  rw [lines_write fun record hrecord => (hwritten record hrecord).2,
    lines_write fun record hrecord => (hother record hrecord).2] at hlines
  clear h
  induction written generalizing other with
  | nil => exact (List.map_eq_nil_iff.mp hlines.symm).symm
  | cons record written ih =>
    cases other with
    | nil => cases hlines
    | cons record' other =>
      obtain ⟨hfirst, hrest⟩ := List.forall_mem_cons.mp hwritten
      obtain ⟨hfirst', hrest'⟩ := List.forall_mem_cons.mp hother
      rw [List.map_cons, List.map_cons, List.cons.injEq] at hlines
      rw [writeRecord_injective ⟨hfirst.1, hfirst'.1⟩ hfirst.2 hfirst'.2 hlines.1,
        ih hrest hrest' hlines.2]

end Csv
