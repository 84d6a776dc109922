import Mathlib.Order.Lattice
import FirmQuant.Foundation.IsoDate

/-!
# Reading times

`datetime.fromisoformat` for texts of the form that `isoformat` writes, and that it reads back what
`isoformat` wrote.  Dates are compared by year, month and day.
-/

open IsoDate

namespace CalendarDate

/-- A date as the number `yyyymmdd`. -/
def number (d : CalendarDate) : ℕ := d.year * 10000 + d.month * 100 + d.day

lemma number_injective : Function.Injective number := by
  intro d d' h
  obtain ⟨year, month, day, hvalid⟩ := d
  obtain ⟨year', month', day', hvalid'⟩ := d'
  obtain ⟨-, -, -, hmonth, -, hday⟩ := id hvalid
  obtain ⟨-, -, -, hmonth', -, hday'⟩ := id hvalid'
  have hdays := IsoDate.daysInMonth_le year month
  have hdays' := IsoDate.daysInMonth_le year' month'
  simp only [number] at h
  obtain ⟨rfl, rfl, rfl⟩ : year = year' ∧ month = month' ∧ day = day' := by omega
  rfl

/-- Dates are compared by year, month and day. -/
instance : LinearOrder CalendarDate := LinearOrder.lift' number number_injective

end CalendarDate

namespace AwareDateTime

/-- The fields of a time. -/
def ofFields (date : CalendarDate) (hour minute second microsecond : ℕ) (utcOffset : ℤ) :
    Option AwareDateTime :=
  if h : hour < 24 ∧ minute < 60 ∧ second < 60 ∧ microsecond < 1000000 ∧
      utcOffset.natAbs < 24 * 3600 * 1000000 then
    some ⟨date, hour, minute, second, microsecond, utcOffset, h.1, h.2.1, h.2.2.1, h.2.2.2.1,
      h.2.2.2.2⟩
  else none

/-- Two digits of seconds, with six digits of a fraction or without, and what follows. -/
def readSeconds : List Char → Option ((ℕ × ℕ) × List Char)
  | a :: b :: '.' :: c :: d :: e :: f :: g :: h :: rest => do
    let second ← readDigits [a, b]
    let microsecond ← readDigits [c, d, e, f, g, h]
    return ((second, microsecond), rest)
  | a :: b :: rest => do
    let second ← readDigits [a, b]
    return ((second, 0), rest)
  | _ => none

/-- The seconds of an offset, and nothing else. -/
def readOffsetSeconds : List Char → Option (ℕ × ℕ)
  | [] => some (0, 0)
  | ':' :: cs =>
    match readSeconds cs with
    | some (seconds, []) => some seconds
    | _ => none
  | _ => none

/-- The sign of an offset. -/
def readSign : Char → Option ℤ
  | '+' => some 1
  | '-' => some (-1)
  | _ => none

/-- An offset, in microseconds. -/
def readOffset : List Char → Option ℤ
  | sign :: a :: b :: ':' :: c :: d :: rest => do
    let sign ← readSign sign
    let hours ← readDigits [a, b]
    let minutes ← readDigits [c, d]
    let (second, microsecond) ← readOffsetSeconds rest
    return sign * (((hours * 60 + minutes) * 60 + second) * 1000000 + microsecond : ℕ)
  | _ => none

/-- `datetime.fromisoformat`, for texts of the form that `isoformat` writes. -/
def fromIsoformat (text : String) : Option AwareDateTime :=
  match text.toList with
  | y₁ :: y₂ :: y₃ :: y₄ :: '-' :: m₁ :: m₂ :: '-' :: d₁ :: d₂ :: 'T' :: h₁ :: h₂ :: ':' ::
      n₁ :: n₂ :: ':' :: seconds => do
    let date ← CalendarDate.fromIsoformat
      (String.ofList [y₁, y₂, y₃, y₄, '-', m₁, m₂, '-', d₁, d₂])
    let hour ← readDigits [h₁, h₂]
    let minute ← readDigits [n₁, n₂]
    let ((second, microsecond), offset) ← readSeconds seconds
    let utcOffset ← readOffset offset
    ofFields date hour minute second microsecond utcOffset
  | _ => none

/-! ## What `isoformat` wrote -/

lemma readDigits_sixDigits {n : ℕ} (hn : n < 1000000) : readDigits (sixDigits n) = some n := by
  have hvalue : 10 * (10 * (10 * (10 * (10 * (10 * 0 + n / 10000 / 10 % 10) + n / 10000 % 10) +
      n / 100 / 10 % 10) + n / 100 % 10) + n / 10 % 10) + n % 10 = n := by omega
  simp only [readDigits, sixDigits, fourDigits, twoDigits, List.cons_append, List.nil_append,
    List.all_cons, List.all_nil, isDigit_digit, Bool.and_self, if_true, ofDigitChars_digit,
    Nat.ofDigitChars_nil, hvalue]

/-- Seconds are read whatever follows them, so long as it does not look like a fraction. -/
lemma readSeconds_secondChars {second microsecond : ℕ} {rest : List Char} (hs : second < 60)
    (hu : microsecond < 1000000) (hrest : rest.head? ≠ some '.') :
    readSeconds (secondChars second microsecond ++ rest) = some ((second, microsecond), rest) := by
  have hsecond := readDigits_twoDigits (hs.trans (by decide : 60 < 100))
  unfold twoDigits at hsecond
  by_cases hzero : microsecond = 0
  · unfold secondChars twoDigits
    rw [if_pos hzero, List.append_nil, hzero]
    cases rest with
    | nil => simp only [readSeconds, List.append_nil, hsecond]; rfl
    | cons c cs =>
      have hc : c ≠ '.' := fun hc => hrest (congrArg some hc)
      simp only [List.cons_append, List.nil_append]
      unfold readSeconds
      split
      next heq =>
        simp only [List.cons.injEq] at heq
        exact absurd heq.2.2.1 hc
      next heq =>
        simp only [List.cons.injEq] at heq
        obtain ⟨rfl, rfl, rfl⟩ := heq
        rw [hsecond]
        rfl
      next h => exact absurd rfl (h _ _ _)
  · have hmicrosecond := readDigits_sixDigits hu
    unfold secondChars
    rw [if_neg hzero]
    simp only [sixDigits, fourDigits, twoDigits, List.cons_append, List.nil_append]
      at hmicrosecond ⊢
    simp only [readSeconds, hsecond, hmicrosecond]
    rfl

lemma readOffset_offsetChars {utcOffset : ℤ} (h : utcOffset.natAbs < 24 * 3600 * 1000000) :
    readOffset (offsetChars utcOffset) = some utcOffset := by
  have hhours := readDigits_twoDigits
    (show utcOffset.natAbs / 1000000 / 3600 < 100 by omega)
  have hminutes := readDigits_twoDigits
    (show utcOffset.natAbs / 1000000 / 60 % 60 < 100 by omega)
  have hsign : readSign (if utcOffset < 0 then '-' else '+') =
      some (if utcOffset < 0 then -1 else 1) := by
    by_cases hneg : utcOffset < 0
    · rw [if_pos hneg, if_pos hneg]
      rfl
    · rw [if_neg hneg, if_neg hneg]
      rfl
  have hseconds : readOffsetSeconds
      (if utcOffset.natAbs / 1000000 % 60 = 0 ∧ utcOffset.natAbs % 1000000 = 0 then []
      else ':' :: secondChars (utcOffset.natAbs / 1000000 % 60) (utcOffset.natAbs % 1000000)) =
        some (utcOffset.natAbs / 1000000 % 60, utcOffset.natAbs % 1000000) := by
    by_cases hzero : utcOffset.natAbs / 1000000 % 60 = 0 ∧ utcOffset.natAbs % 1000000 = 0
    · rw [if_pos hzero, hzero.1, hzero.2]
      rfl
    · rw [if_neg hzero]
      have hread := @readSeconds_secondChars (utcOffset.natAbs / 1000000 % 60)
        (utcOffset.natAbs % 1000000) [] (by omega) (by omega) (by simp)
      rw [List.append_nil] at hread
      simp only [readOffsetSeconds, hread]
  have hvalue : (if utcOffset < 0 then (-1 : ℤ) else 1) *
      ((((utcOffset.natAbs / 1000000 / 3600 * 60 + utcOffset.natAbs / 1000000 / 60 % 60) * 60 +
        utcOffset.natAbs / 1000000 % 60) * 1000000 + utcOffset.natAbs % 1000000 : ℕ) : ℤ) =
          utcOffset := by
    have habs : ((utcOffset.natAbs / 1000000 / 3600 * 60 +
        utcOffset.natAbs / 1000000 / 60 % 60) * 60 + utcOffset.natAbs / 1000000 % 60) * 1000000 +
          utcOffset.natAbs % 1000000 = utcOffset.natAbs := by omega
    rw [habs]
    split_ifs <;> omega
  unfold twoDigits at hhours hminutes
  unfold offsetChars twoDigits
  simp only [List.cons_append, List.nil_append, readOffset, hsign, hhours, hminutes, hseconds,
    Option.bind_eq_bind, Option.bind_some, Option.pure_def, hvalue]

/-- The text of a time names that time. -/
theorem fromIsoformat_isoformat (t : AwareDateTime) : fromIsoformat t.isoformat = some t := by
  obtain ⟨date, hour, minute, second, microsecond, utcOffset, hhour, hminute, hsecond, hmicro,
    hoffset⟩ := t
  have hdate := date.fromIsoformat_isoformat
  have hh := readDigits_twoDigits (hhour.trans (by decide : 24 < 100))
  have hm := readDigits_twoDigits (hminute.trans (by decide : 60 < 100))
  have hs := readSeconds_secondChars hsecond hmicro (offsetChars_head utcOffset)
  have ho := readOffset_offsetChars hoffset
  unfold CalendarDate.isoformat at hdate
  simp only [CalendarDate.isoChars, fourDigits, twoDigits, List.cons_append, List.nil_append]
    at hdate hh hm
  simp only [isoformat, fromIsoformat, CalendarDate.isoChars, fourDigits, twoDigits,
    List.cons_append, List.nil_append, String.toList_ofList, hdate, hh, hm, hs, ho,
    Option.bind_eq_bind, Option.bind_some, ofFields, hhour, hminute, hsecond, hmicro, hoffset,
    and_self, dif_pos]

/-- Different times, or times of different offsets, have different texts. -/
theorem isoformat_injective {s t : AwareDateTime} (h : s.isoformat = t.isoformat) : s = t := by
  have hread := fromIsoformat_isoformat s
  rw [h, fromIsoformat_isoformat] at hread
  exact (Option.some.inj hread).symm

/-! ## Characters -/

/-- A character of a date or of a time. -/
def IsoCharacter (c : Char) : Prop := c.isDigit = true ∨ c ∈ ['-', ':', 'T', '+', '.']

lemma isoCharacter_digit (n : ℕ) : IsoCharacter (digit n) := .inl (isDigit_digit n)

lemma isoCharacter_of_mem {c : Char} (h : c ∈ ['-', ':', 'T', '+', '.']) : IsoCharacter c := .inr h

lemma isoCharacter_twoDigits (n : ℕ) : ∀ c ∈ twoDigits n, IsoCharacter c := by
  unfold twoDigits
  simp only [List.forall_mem_cons, isoCharacter_digit, List.not_mem_nil, IsEmpty.forall_iff,
    implies_true, and_self]

lemma isoCharacter_secondChars (second microsecond : ℕ) :
    ∀ c ∈ secondChars second microsecond, IsoCharacter c := by
  unfold secondChars
  refine List.forall_mem_append.mpr ⟨isoCharacter_twoDigits _, ?_⟩
  split
  · exact List.forall_mem_nil _
  · simp only [sixDigits, fourDigits, List.forall_mem_cons, List.forall_mem_append]
    exact ⟨isoCharacter_of_mem (by decide), isoCharacter_twoDigits _, isoCharacter_twoDigits _,
      isoCharacter_twoDigits _⟩

lemma isoCharacter_offsetChars (utcOffset : ℤ) : ∀ c ∈ offsetChars utcOffset, IsoCharacter c := by
  unfold offsetChars
  simp only [List.forall_mem_cons, List.forall_mem_append]
  refine ⟨?_, isoCharacter_twoDigits _, isoCharacter_of_mem (by decide),
    isoCharacter_twoDigits _, ?_⟩
  · split <;> exact isoCharacter_of_mem (by decide)
  · split
    · exact List.forall_mem_nil _
    · exact List.forall_mem_cons.mpr
        ⟨isoCharacter_of_mem (by decide), isoCharacter_secondChars _ _⟩

lemma isoCharacter_isoChars (d : CalendarDate) : ∀ c ∈ d.isoChars, IsoCharacter c := by
  unfold CalendarDate.isoChars fourDigits
  simp only [List.forall_mem_cons, List.forall_mem_append]
  exact ⟨⟨isoCharacter_twoDigits _, isoCharacter_twoDigits _⟩, isoCharacter_of_mem (by decide),
    isoCharacter_twoDigits _, isoCharacter_of_mem (by decide), isoCharacter_twoDigits _⟩

lemma isoCharacter_isoformat (t : AwareDateTime) : ∀ c ∈ t.isoformat.toList, IsoCharacter c := by
  unfold isoformat
  rw [String.toList_ofList]
  simp only [List.forall_mem_cons, List.forall_mem_append]
  exact ⟨isoCharacter_isoChars _, isoCharacter_of_mem (by decide), isoCharacter_twoDigits _,
    isoCharacter_of_mem (by decide), isoCharacter_twoDigits _, isoCharacter_of_mem (by decide),
    isoCharacter_secondChars _ _, isoCharacter_offsetChars _⟩

end AwareDateTime
