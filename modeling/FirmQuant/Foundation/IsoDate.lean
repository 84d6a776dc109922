import Mathlib.Data.String.Basic
import Mathlib.Tactic.Common

/-!
# Dates and times as ISO 8601 texts

`date` and `datetime` of the standard library by their calendar fields, with `isoformat` and, for
dates in the form that `isoformat` writes, `date.fromisoformat`.
-/

namespace IsoDate

/-- The last digit of a number, as a character. -/
def digit (n : ℕ) : Char := Nat.digitChar (n % 10)

def twoDigits (n : ℕ) : List Char := [digit (n / 10), digit n]

def fourDigits (n : ℕ) : List Char := twoDigits (n / 100) ++ twoDigits n

def sixDigits (n : ℕ) : List Char := twoDigits (n / 10000) ++ fourDigits n

/-- The number that digits write. -/
def readDigits (cs : List Char) : Option ℕ :=
  if cs.all Char.isDigit then some (Nat.ofDigitChars 10 cs 0) else none

/-- `calendar.isleap`. -/
def isLeap (year : ℕ) : Bool := year % 4 = 0 && (year % 100 ≠ 0 || year % 400 = 0)

/-- The number of days of a month. -/
def daysInMonth (year month : ℕ) : ℕ :=
  if month = 2 then (if isLeap year then 29 else 28)
  else if month = 4 ∨ month = 6 ∨ month = 9 ∨ month = 11 then 30
  else 31

/-- The fields that `date` takes. -/
def ValidDate (year month day : ℕ) : Prop :=
  1 ≤ year ∧ year ≤ 9999 ∧ 1 ≤ month ∧ month ≤ 12 ∧ 1 ≤ day ∧ day ≤ daysInMonth year month

instance (year month day : ℕ) : Decidable (ValidDate year month day) :=
  inferInstanceAs (Decidable (_ ∧ _))

end IsoDate

open IsoDate

/-- A `date`. -/
structure CalendarDate where
  year : ℕ
  month : ℕ
  day : ℕ
  valid : ValidDate year month day
  deriving DecidableEq

/-- A `datetime` with a time zone, by its fields and its offset from UTC in microseconds. -/
structure AwareDateTime where
  date : CalendarDate
  hour : ℕ
  minute : ℕ
  second : ℕ
  microsecond : ℕ
  utcOffset : ℤ
  hour_lt : hour < 24
  minute_lt : minute < 60
  second_lt : second < 60
  microsecond_lt : microsecond < 1000000
  utcOffset_lt : utcOffset.natAbs < 24 * 3600 * 1000000
  deriving DecidableEq

lemma secondJanuary_valid : ValidDate 2024 1 2 := by decide

lemma zero_lt_microseconds : 0 < 1000000 := by decide

lemma eightHours_lt : (28800000000 : ℤ).natAbs < 24 * 3600 * 1000000 := by decide

namespace CalendarDate

def isoChars (d : CalendarDate) : List Char :=
  fourDigits d.year ++ '-' :: (twoDigits d.month ++ '-' :: twoDigits d.day)

/-- `date.isoformat`. -/
def isoformat (d : CalendarDate) : String := String.ofList d.isoChars

/-- `date`, which refuses fields that name no day. -/
def ofFields (year month day : ℕ) : Option CalendarDate :=
  if h : ValidDate year month day then some ⟨year, month, day, h⟩ else none

/-- `date.fromisoformat`, for texts of the form that `isoformat` writes. -/
def fromIsoformat (text : String) : Option CalendarDate :=
  match text.toList with
  | [a, b, c, d, '-', e, f, '-', g, h] => do
    let year ← readDigits [a, b, c, d]
    let month ← readDigits [e, f]
    let day ← readDigits [g, h]
    ofFields year month day
  | _ => none

end CalendarDate

namespace AwareDateTime

/-- Seconds, with a fraction if there is one. -/
def secondChars (second microsecond : ℕ) : List Char :=
  twoDigits second ++ (if microsecond = 0 then [] else '.' :: sixDigits microsecond)

/-- An offset as `isoformat` writes it: with seconds only where there are some. -/
def offsetChars (utcOffset : ℤ) : List Char :=
  let sign := if utcOffset < 0 then '-' else '+'
  let seconds := utcOffset.natAbs / 1000000
  let microsecond := utcOffset.natAbs % 1000000
  let tail :=
    if seconds % 60 = 0 ∧ microsecond = 0 then []
    else ':' :: secondChars (seconds % 60) microsecond
  sign :: (twoDigits (seconds / 3600) ++ ':' :: (twoDigits (seconds / 60 % 60) ++ tail))

/-- `datetime.isoformat`. -/
def isoformat (t : AwareDateTime) : String :=
  String.ofList (t.date.isoChars ++ 'T' :: (twoDigits t.hour ++ ':' :: (twoDigits t.minute ++
    ':' :: (secondChars t.second t.microsecond ++ offsetChars t.utcOffset))))

end AwareDateTime

namespace IsoDate

lemma isDigit_digit (n : ℕ) : (digit n).isDigit = true := by
  have hall : ∀ m < 10, (Nat.digitChar m).isDigit = true := by decide
  exact hall _ (Nat.mod_lt n (by decide))

lemma ofDigitChars_digit {n value : ℕ} {cs : List Char} :
    Nat.ofDigitChars 10 (digit n :: cs) value = Nat.ofDigitChars 10 cs (10 * value + n % 10) := by
  unfold digit
  exact Nat.ofDigitChars_cons_digitChar_of_lt_ten (Nat.mod_lt n (by decide))

lemma readDigits_twoDigits {n : ℕ} (hn : n < 100) : readDigits (twoDigits n) = some n := by
  have hvalue : 10 * (10 * 0 + n / 10 % 10) + n % 10 = n := by omega
  simp only [readDigits, twoDigits, List.all_cons, List.all_nil, isDigit_digit, Bool.and_self,
    if_true, ofDigitChars_digit, Nat.ofDigitChars_nil, hvalue]

lemma readDigits_fourDigits {n : ℕ} (hn : n < 10000) : readDigits (fourDigits n) = some n := by
  have hvalue : 10 * (10 * (10 * (10 * 0 + n / 100 / 10 % 10) + n / 100 % 10) + n / 10 % 10) +
      n % 10 = n := by omega
  simp only [readDigits, fourDigits, twoDigits, List.cons_append, List.nil_append, List.all_cons,
    List.all_nil, isDigit_digit, Bool.and_self, if_true, ofDigitChars_digit, Nat.ofDigitChars_nil,
    hvalue]

lemma daysInMonth_le (year month : ℕ) : daysInMonth year month ≤ 31 := by
  unfold daysInMonth
  split_ifs <;> omega

end IsoDate

namespace CalendarDate

/-- The text of a date names that date. -/
theorem fromIsoformat_isoformat (d : CalendarDate) : fromIsoformat d.isoformat = some d := by
  obtain ⟨year, month, day, hvalid⟩ := d
  have hdays := daysInMonth_le year month
  obtain ⟨-, hyear, -, hmonth, -, hday⟩ := id hvalid
  have hy := readDigits_fourDigits (show year < 10000 by omega)
  have hm := readDigits_twoDigits (show month < 100 by omega)
  have hd := readDigits_twoDigits (show day < 100 by omega)
  simp only [fourDigits, twoDigits, List.cons_append, List.nil_append] at hy hm hd
  simp only [fromIsoformat, isoformat, isoChars, fourDigits, twoDigits, List.cons_append,
    List.nil_append, String.toList_ofList, hy, hm, hd, Option.bind_eq_bind, Option.bind_some,
    ofFields, dif_pos hvalid]

lemma isoformat_injective {d e : CalendarDate} (h : d.isoformat = e.isoformat) : d = e := by
  have hread := fromIsoformat_isoformat d
  rw [h, fromIsoformat_isoformat] at hread
  exact (Option.some.inj hread).symm

lemma isoChars_append_inj {d e : CalendarDate} {as bs : List Char}
    (h : d.isoChars ++ as = e.isoChars ++ bs) : d = e ∧ as = bs := by
  have hlength : d.isoChars.length = e.isoChars.length := rfl
  obtain ⟨hchars, hrest⟩ := List.append_inj h hlength
  exact ⟨isoformat_injective (congrArg String.ofList hchars), hrest⟩

end CalendarDate

namespace AwareDateTime

lemma offsetChars_head (utcOffset : ℤ) : (offsetChars utcOffset).head? ≠ some '.' := by
  unfold offsetChars
  by_cases hneg : utcOffset < 0 <;> simp [hneg]

end AwareDateTime
