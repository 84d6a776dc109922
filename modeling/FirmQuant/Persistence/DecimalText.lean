import Mathlib.Algebra.Order.Field.Rat
import FirmQuant.Persistence.CanonicalJson

/-!
# Decimals and their texts

What `_canonical_decimal` writes of a positive `Decimal` and what `Decimal(text)` reads from it.

A `Decimal` is a coefficient and an exponent, and many of them are one number.  The text depends
on the number only (`canonical_eq_of_value_eq`), and reading it gives a `Decimal` of that number
with no more places than before (`ofPlain_canonical`).  Both go by one step, which moves a zero from
the coefficient to the exponent.
-/

namespace FirmQuant

namespace DecimalTuple

/-! ## Numbers and texts -/

/-- The number of a `Decimal`. -/
def value (d : DecimalTuple) : ℚ :=
  (if d.negative then -1 else 1) * d.coefficient * 10 ^ d.exponent

/-- `max(0, -exponent)`. -/
def decimalPlaces (d : DecimalTuple) : ℤ := max 0 (-d.exponent)

/-- `max(1, value.copy_abs().adjusted() + 1)`. -/
def integerDigits (d : DecimalTuple) : ℤ :=
  max 1 (d.exponent + (Nat.toDigits 10 d.coefficient).length)

/-- `Decimal(text)` for digits, with a point and digits after them or without. -/
def ofPlain (cs : List Char) : Option DecimalTuple :=
  let integer := cs.takeWhile Char.isDigit
  match cs.dropWhile Char.isDigit with
  | [] => if integer = [] then none else some ⟨false, Nat.ofDigitChars 10 integer 0, 0⟩
  | c :: fraction =>
    if c = '.' ∧ integer ≠ [] ∧ fraction ≠ [] ∧ fraction.all Char.isDigit then
      some ⟨false, Nat.ofDigitChars 10 (integer ++ fraction) 0, -fraction.length⟩
    else none

/-- A positive number. -/
def Positive (d : DecimalTuple) : Prop := d.negative = false ∧ 0 < d.coefficient

/-! ## Moving a zero -/

lemma toDigits_mul_ten {c : ℕ} (hc : 0 < c) :
    Nat.toDigits 10 (c * 10) = Nat.toDigits 10 c ++ ['0'] := by
  have h := Nat.toDigits_append_toDigits (b := 10) (n := c) (d := 0) (by decide) hc (by decide)
  rw [Nat.toDigits_zero, Nat.add_zero, Nat.mul_comm] at h
  exact h.symm

variable {negative : Bool} {c : ℕ} {e : ℤ}

/-- A zero that moves from the coefficient to the exponent leaves the integer as it was and ends the
fraction, if it stands there. -/
lemma intAndFraction_mul_ten (negative : Bool) (e : ℤ) (hc : 0 < c) :
    (intAndFraction ⟨negative, c * 10, e⟩).1 = (intAndFraction ⟨negative, c, e + 1⟩).1 ∧
      ((intAndFraction ⟨negative, c * 10, e⟩).2 = (intAndFraction ⟨negative, c, e + 1⟩).2 ∨
        (intAndFraction ⟨negative, c * 10, e⟩).2 =
          (intAndFraction ⟨negative, c, e + 1⟩).2 ++ ['0']) := by
  have hplace : e + ((Nat.toDigits 10 c).length + 1 : ℕ) = e + 1 + (Nat.toDigits 10 c).length := by
    push_cast
    ring
  have hzero : ¬ (c = 0 ∧ 0 < e + 1) := fun h => hc.ne' h.1
  have hzero' : ¬ (c * 10 = 0 ∧ 0 < e) := fun h => (Nat.mul_pos hc (by decide)).ne' h.1
  simp only [intAndFraction, toDigits_mul_ten hc, List.length_append, List.length_singleton, hplace,
    if_neg hzero, if_neg hzero']
  generalize Nat.toDigits 10 c = digits
  generalize e + 1 + (digits.length : ℤ) = place
  by_cases hneg : place < 0
  · simp only [if_pos hneg]
    exact ⟨trivial, .inr (List.append_assoc _ _ _).symm⟩
  simp only [if_neg hneg]
  by_cases hlong : (digits.length + 1 : ℕ) < place
  · have hshort : (digits.length : ℤ) < place := by push_cast at hlong; omega
    obtain ⟨n, hn⟩ : ∃ n, place.toNat - digits.length = n + 1 :=
      ⟨place.toNat - digits.length - 1, by omega⟩
    have hn' : place.toNat - (digits.length + 1) = n := by omega
    simp only [if_pos hlong, if_pos hshort, hn, hn', List.append_assoc, List.replicate_succ,
      List.singleton_append, true_or, and_self]
  simp only [if_neg hlong]
  by_cases hshort : (digits.length : ℤ) < place
  · have heq : place.toNat = digits.length + 1 := by push_cast at hlong; omega
    have hne : place ≠ 0 := by omega
    simp only [if_pos hshort, if_neg hne, heq]
    refine ⟨?_, .inl ?_⟩
    · rw [List.take_of_length_le (by simp), Nat.add_sub_cancel_left]
      rfl
    · exact List.drop_of_length_le (by simp)
  simp only [if_neg hshort]
  by_cases hplace0 : place = 0
  · simp only [if_pos hplace0]
    exact ⟨trivial, .inr trivial⟩
  · simp only [if_neg hplace0]
    have hle : place.toNat ≤ digits.length := by omega
    exact ⟨List.take_append_of_le_length hle, .inr (List.drop_append_of_le_length hle)⟩

lemma canonical_mul_ten (hc : 0 < c) :
    canonical ⟨negative, c * 10, e⟩ = canonical ⟨negative, c, e + 1⟩ := by
  obtain ⟨hinteger, hfraction⟩ := intAndFraction_mul_ten negative e hc
  have hdrop : (intAndFraction ⟨negative, c * 10, e⟩).2.rdropWhile (· = '0') =
      (intAndFraction ⟨negative, c, e + 1⟩).2.rdropWhile (· = '0') := by
    rcases hfraction with h | h
    · rw [h]
    · rw [h, List.rdropWhile_concat_pos _ _ _ (by decide)]
  simp only [canonical, hinteger, hdrop]

/-- Zeros may stand in the coefficient or in the exponent. -/
lemma canonical_mul_pow (hc : 0 < c) (k : ℕ) :
    canonical ⟨negative, c * 10 ^ k, e⟩ = canonical ⟨negative, c, e + k⟩ := by
  induction k generalizing e with
  | zero => simp
  | succ k ih =>
    rw [pow_succ, ← mul_assoc, canonical_mul_ten (Nat.mul_pos hc (by positivity)), ih]
    congr 2
    push_cast
    ring

lemma value_mul_pow (k : ℕ) : value ⟨negative, c * 10 ^ k, e⟩ = value ⟨negative, c, e + k⟩ := by
  simp only [value, Nat.cast_mul, Nat.cast_pow, Nat.cast_ofNat,
    zpow_add₀ (show (10 : ℚ) ≠ 0 by norm_num), zpow_natCast]
  ring

variable {d : DecimalTuple}

/-- The text depends on the number only. -/
theorem canonical_eq_of_value_eq {r : DecimalTuple} (hd : d.Positive) (hr : r.Positive)
    (h : d.value = r.value) : d.canonical = r.canonical := by
  wlog hle : d.exponent ≤ r.exponent generalizing d r
  · exact (this hr hd h.symm (le_of_not_ge hle)).symm
  obtain ⟨dneg, dc, de⟩ := d
  obtain ⟨rneg, rc, re⟩ := r
  obtain ⟨rfl, hdc⟩ : dneg = false ∧ 0 < dc := hd
  obtain ⟨rfl, hrc⟩ : rneg = false ∧ 0 < rc := hr
  -- The coefficient of the lower exponent is the other one with more zeros.
  obtain ⟨k, rfl⟩ : ∃ k : ℕ, re = de + k := ⟨(re - de).toNat, by simp only at hle; omega⟩
  have hcoefficient : dc = rc * 10 ^ k := by
    have hten : (10 : ℚ) ^ de ≠ 0 := zpow_ne_zero _ (by norm_num)
    rw [← value_mul_pow] at h
    simp only [value, if_neg Bool.false_ne_true, one_mul] at h
    exact_mod_cast mul_right_cancel₀ hten h
  rw [hcoefficient, canonical_mul_pow hrc]

/-! ## Reading the text -/

/-- A `Decimal` with nothing to leave out: no zeros that end the fraction, and no exponent. -/
def Plain (d : DecimalTuple) : Prop := d.exponent ≤ 0 ∧ (d.exponent = 0 ∨ d.coefficient % 10 ≠ 0)

lemma length_toDigits_mul_pow (hc : 0 < c) (k : ℕ) :
    (Nat.toDigits 10 (c * 10 ^ k)).length = (Nat.toDigits 10 c).length + k := by
  induction k with
  | zero => simp
  | succ k ih =>
    rw [pow_succ, ← mul_assoc, toDigits_mul_ten (Nat.mul_pos hc (by positivity)),
      List.length_append, ih]
    rfl

lemma exists_plain (hd : d.Positive) :
    ∃ r : DecimalTuple, r.Positive ∧ r.Plain ∧ r.value = d.value ∧ r.canonical = d.canonical ∧
      r.decimalPlaces ≤ d.decimalPlaces ∧ r.integerDigits = d.integerDigits := by
  obtain ⟨negative, c, e⟩ := d
  obtain ⟨rfl, hc⟩ : negative = false ∧ 0 < c := hd
  rcases le_or_gt 0 e with he | he
  · obtain ⟨k, rfl⟩ : ∃ k : ℕ, e = 0 + k := ⟨e.toNat, by omega⟩
    refine ⟨⟨false, c * 10 ^ k, 0⟩, ⟨rfl, Nat.mul_pos hc (by positivity)⟩, ⟨le_rfl, .inl rfl⟩,
      value_mul_pow k, canonical_mul_pow hc k, ?_, ?_⟩
    · simp [decimalPlaces]
    · simp only [integerDigits, length_toDigits_mul_pow hc]
      push_cast
      congr 1
      ring
  · obtain ⟨n, hn⟩ : ∃ n : ℕ, e = -n := ⟨e.natAbs, by omega⟩
    clear he
    -- The places are taken away one by one.
    induction n generalizing c e with
    | zero =>
      have he : e = 0 := by simpa using hn
      exact ⟨⟨false, c, e⟩, ⟨rfl, hc⟩, ⟨he.le, .inl he⟩, rfl, rfl, le_rfl, rfl⟩
    | succ n ih =>
      by_cases hlast : c % 10 = 0
      · obtain ⟨c, rfl⟩ : ∃ c', c = c' * 10 := ⟨c / 10, by omega⟩
        have hc : 0 < c := by omega
        obtain ⟨r, hr, hplain, hvalue, htext, hplaces, hdigits⟩ :=
          ih c (e + 1) hc (by omega)
        refine ⟨r, hr, hplain, ?_, ?_, ?_, ?_⟩
        · rw [hvalue]
          have hstep : value ⟨false, c * 10 ^ 1, e⟩ = value ⟨false, c, e + (1 : ℕ)⟩ :=
            value_mul_pow 1
          simpa using hstep.symm
        · rw [htext, canonical_mul_ten hc]
        · refine hplaces.trans ?_
          simp only [decimalPlaces]
          omega
        · rw [hdigits]
          simp only [integerDigits, toDigits_mul_ten hc, List.length_append, List.length_singleton]
          push_cast
          congr 1
          ring
      · exact ⟨⟨false, c, e⟩, ⟨rfl, hc⟩, ⟨by simp only; omega, .inr hlast⟩, rfl, rfl, le_rfl, rfl⟩

/-- The last digit of a number stands last. -/
lemma exists_toDigits_concat (c : ℕ) :
    ∃ digits, Nat.toDigits 10 c = digits ++ [Nat.digitChar (c % 10)] := by
  rw [Nat.toDigits_eq_if (by decide)]
  split_ifs with hc
  · exact ⟨[], by rw [Nat.mod_eq_of_lt hc]; rfl⟩
  · exact ⟨_, rfl⟩

/-- The fraction of a plain `Decimal` does not end in a zero. -/
lemma fraction_plain (hplain : d.Plain) :
    d.intAndFraction.2.rdropWhile (· = '0') = d.intAndFraction.2 := by
  obtain ⟨negative, c, e⟩ := d
  obtain ⟨he, hlast⟩ : e ≤ 0 ∧ (e = 0 ∨ c % 10 ≠ 0) := hplain
  have hzero : ¬ (c = 0 ∧ 0 < e) := fun h => he.not_gt h.2
  obtain ⟨ds, hds⟩ := exists_toDigits_concat c
  -- A fraction ends with the last digit of the coefficient.
  have hends : ∀ g : List Char, e ≠ 0 →
      (g ++ [Nat.digitChar (c % 10)]).rdropWhile (· = '0') = g ++ [Nat.digitChar (c % 10)] := by
    intro g he0
    have hall : ∀ m < 10, m ≠ 0 → Nat.digitChar m ≠ '0' := by decide
    have hne := hall _ (Nat.mod_lt c (by decide)) (hlast.resolve_left he0)
    exact List.rdropWhile_concat_neg _ _ _ (by simpa using hne)
  simp only [intAndFraction, if_neg hzero, hds, List.length_append, List.length_singleton]
  have hlong : ¬ ((ds.length + 1 : ℕ) : ℤ) < e + (ds.length + 1 : ℕ) := by omega
  by_cases hneg : e + (ds.length + 1 : ℕ) < 0
  · simp only [if_pos hneg]
    rw [← List.append_assoc]
    exact hends _ (by omega)
  simp only [if_neg hneg, if_neg hlong]
  by_cases hplace : e + (ds.length + 1 : ℕ) = 0
  · simp only [if_pos hplace]
    exact hends ds (by omega)
  simp only [if_neg hplace]
  rcases eq_or_ne e 0 with rfl | he0
  · rw [List.drop_of_length_le (by simp), List.rdropWhile_nil]
  · rw [List.drop_append_of_le_length (by omega)]
    exact hends _ he0

/-- Digits and a fraction are read as they stand. -/
lemma ofPlain_append {integer fraction : List Char} (hinteger : integer ≠ [])
    (hdigits : ∀ ch ∈ integer ++ fraction, ch.isDigit = true) :
    ofPlain (integer ++ if fraction = [] then [] else '.' :: fraction) =
      some ⟨false, Nat.ofDigitChars 10 (integer ++ fraction) 0, -fraction.length⟩ := by
  have hleft : ∀ ch ∈ integer, ch.isDigit = true := fun ch hch =>
    hdigits ch (List.mem_append_left _ hch)
  have hright : fraction.all Char.isDigit = true :=
    List.all_eq_true.mpr fun ch hch => hdigits ch (List.mem_append_right _ hch)
  unfold ofPlain
  rw [List.takeWhile_append_of_pos hleft, List.dropWhile_append_of_pos hleft]
  by_cases hfraction : fraction = []
  · subst hfraction
    simp [hinteger]
  · have htake : List.takeWhile Char.isDigit ('.' :: fraction) = [] := rfl
    have hdrop : List.dropWhile Char.isDigit ('.' :: fraction) = '.' :: fraction := rfl
    rw [if_neg hfraction, htake, hdrop, List.append_nil]
    exact if_pos ⟨rfl, hinteger, hfraction, hright⟩

/-- The `Decimal` that the digits of a layout write. -/
def reread (d : DecimalTuple) : DecimalTuple :=
  ⟨d.negative, Nat.ofDigitChars 10 (d.intAndFraction.1 ++ d.intAndFraction.2) 0,
    -d.intAndFraction.2.length⟩

/-- A layout has digits before the point and nothing but digits, and what they write is the number
itself: with its exponent, or an integer with the zeros that a positive exponent stands for. -/
lemma intAndFraction_cases (d : DecimalTuple) :
    d.intAndFraction.1 ≠ [] ∧
      (∀ ch ∈ d.intAndFraction.1 ++ d.intAndFraction.2, ch.isDigit = true) ∧
        (d.reread = d ∨ (d.intAndFraction.2 = [] ∧ 0 < d.exponent ∧
          (d.coefficient = 0 ∧ d.reread = ⟨d.negative, 0, 0⟩ ∨
            d.coefficient ≠ 0 ∧ d.reread =
              ⟨d.negative, d.coefficient * 10 ^ d.exponent.toNat, 0⟩))) := by
  obtain ⟨negative, c, e⟩ := d
  have hdigit : ∀ ch ∈ Nat.toDigits 10 c, ch.isDigit = true := fun ch h => Json.toDigits_all_digit h
  have hzeros : ∀ n, ∀ ch ∈ List.replicate n '0', ch.isDigit = true := by
    intro n ch hch
    rw [List.eq_of_mem_replicate hch]
    decide
  have hread : ∀ n, Nat.ofDigitChars 10 (List.replicate n '0' ++ Nat.toDigits 10 c) 0 = c := by
    intro n
    rw [Nat.ofDigitChars_append, Nat.ofDigitChars_replicate_zero, Nat.mul_zero,
      Nat.ofDigitChars_ten_toDigits]
  have hpos : 0 < (Nat.toDigits 10 c).length := List.length_pos_iff.mpr Nat.toDigits_ne_nil
  unfold reread
  simp only [intAndFraction]
  by_cases hzero : c = 0 ∧ 0 < e
  · simp only [if_pos hzero]
    refine ⟨List.cons_ne_nil _ _, by decide, .inr ⟨trivial, hzero.2, .inl ⟨hzero.1, ?_⟩⟩⟩
    rfl
  simp only [if_neg hzero]
  by_cases hneg : e + ((Nat.toDigits 10 c).length : ℤ) < 0
  · simp only [if_pos hneg]
    refine ⟨List.cons_ne_nil _ _, ?_, .inl ?_⟩
    · intro ch hch
      rcases List.mem_append.mp hch with hch | hch
      · exact hzeros 1 ch hch
      · rcases List.mem_append.mp hch with hch | hch
        · exact hzeros _ ch hch
        · exact hdigit ch hch
    · have hvalue := hread ((e + ((Nat.toDigits 10 c).length : ℤ)).natAbs + 1)
      rw [List.replicate_succ, List.cons_append] at hvalue
      simp only [List.cons_append, List.nil_append, hvalue, List.length_append,
        List.length_replicate, DecimalTuple.mk.injEq, true_and]
      omega
  simp only [if_neg hneg]
  by_cases hlong : ((Nat.toDigits 10 c).length : ℤ) < e + (Nat.toDigits 10 c).length
  · simp only [if_pos hlong]
    have he : 0 < e := by omega
    have hc : c ≠ 0 := fun h => hzero ⟨h, he⟩
    have hcount : (e + ((Nat.toDigits 10 c).length : ℤ)).toNat - (Nat.toDigits 10 c).length =
        e.toNat := by
      omega
    refine ⟨?_, ?_, .inr ⟨trivial, he, .inr ⟨hc, ?_⟩⟩⟩
    · exact List.append_ne_nil_of_left_ne_nil Nat.toDigits_ne_nil _
    · intro ch hch
      rw [List.append_nil] at hch
      rcases List.mem_append.mp hch with hch | hch
      · exact hdigit ch hch
      · exact hzeros _ ch hch
    · rw [List.append_nil, hcount, Nat.ofDigitChars_append, Nat.ofDigitChars_ten_toDigits,
        Nat.ofDigitChars_replicate_zero, Nat.mul_comm]
      rfl
  simp only [if_neg hlong]
  by_cases hplace : e + ((Nat.toDigits 10 c).length : ℤ) = 0
  · simp only [if_pos hplace]
    refine ⟨List.cons_ne_nil _ _, ?_, .inl ?_⟩
    · intro ch hch
      rcases List.mem_append.mp hch with hch | hch
      · exact hzeros 1 ch hch
      · exact hdigit ch hch
    · have hvalue := hread 1
      rw [List.replicate_one] at hvalue
      simp only [hvalue, DecimalTuple.mk.injEq, true_and]
      omega
  · simp only [if_neg hplace]
    refine ⟨?_, ?_, .inl ?_⟩
    · intro htake
      have hlength := congrArg List.length htake
      simp only [List.length_take, List.length_nil] at hlength
      omega
    · intro ch hch
      rw [List.take_append_drop] at hch
      exact hdigit ch hch
    · simp only [List.take_append_drop, Nat.ofDigitChars_ten_toDigits, List.length_drop,
        DecimalTuple.mk.injEq, true_and]
      omega

theorem ofPlain_canonical_of_plain (hd : d.Positive) (hplain : d.Plain) :
    ofPlain d.canonical.toList = some d := by
  obtain ⟨hinteger, hdigits, hread⟩ := intAndFraction_cases d
  have hread : d.reread = d := hread.resolve_right fun h => hplain.1.not_gt h.2.1
  have htext : d.canonical.toList =
      d.intAndFraction.1 ++ if d.intAndFraction.2 = [] then [] else '.' :: d.intAndFraction.2 := by
    rw [canonical, fraction_plain hplain, render, hd.1, if_neg Bool.false_ne_true,
      String.toList_ofList]
    rfl
  rw [reread, hd.1] at hread
  rw [htext, ofPlain_append hinteger hdigits, hread]

/-- The text of a positive number is read as that number, with no more places than before. -/
theorem ofPlain_canonical (hd : d.Positive) :
    ∃ r : DecimalTuple, ofPlain d.canonical.toList = some r ∧ r.Positive ∧ r.value = d.value ∧
      r.decimalPlaces ≤ d.decimalPlaces ∧ r.integerDigits = d.integerDigits := by
  obtain ⟨r, hr, hplain, hvalue, htext, hplaces, hdigits⟩ := exists_plain hd
  exact ⟨r, htext ▸ ofPlain_canonical_of_plain hr hplain, hr, hvalue, hplaces, hdigits⟩

/-! ## Reading what `format` writes -/

/-- `Decimal(text)` for digits with a point or without, after a minus sign or without. -/
def ofSigned : List Char → Option DecimalTuple
  | '-' :: cs => (ofPlain cs).map fun d => { d with negative := true }
  | cs => ofPlain cs

/-- The text of `format` is read as the `Decimal` that its digits write. -/
theorem ofSigned_format (d : DecimalTuple) : ofSigned d.format.toList = some d.reread := by
  obtain ⟨hinteger, hdigits, -⟩ := intAndFraction_cases d
  have hplain := ofPlain_append hinteger hdigits
  obtain ⟨first, rest, hfirst⟩ := List.exists_cons_of_ne_nil hinteger
  unfold format render reread
  rw [String.toList_ofList]
  cases hnegative : d.negative with
  | true =>
    rw [if_pos rfl, List.append_assoc, List.singleton_append]
    unfold ofSigned
    simp only [hplain, Option.map_some]
  | false =>
    rw [if_neg Bool.false_ne_true, List.nil_append]
    unfold ofSigned
    split
    next cs hminus =>
      -- a digit is no sign
      rw [hfirst, List.cons_append, List.cons.injEq] at hminus
      have hdigit := hdigits first (by simp [hfirst])
      rw [hminus.1] at hdigit
      exact absurd hdigit (by decide)
    next => exact hplain

/-- What is read is the same number. -/
theorem value_reread (d : DecimalTuple) : d.reread.value = d.value := by
  obtain ⟨-, -, h | ⟨-, hexponent, ⟨hzero, h⟩ | ⟨-, h⟩⟩⟩ := intAndFraction_cases d
  · rw [h]
  · rw [h]
    simp [value, hzero]
  · obtain ⟨negative, c, e⟩ := d
    obtain ⟨k, rfl⟩ : ∃ k : ℕ, e = 0 + k := ⟨e.toNat, by simp only at hexponent; omega⟩
    rw [h]
    simp only [zero_add, Int.toNat_natCast]
    have hmoved := @value_mul_pow negative c 0 k
    rwa [zero_add] at hmoved

/-- What is read is written the same way. -/
theorem format_reread (d : DecimalTuple) : d.reread.format = d.format := by
  obtain ⟨-, -, h | ⟨hfraction, hexponent, h⟩⟩ := intAndFraction_cases d
  · rw [h]
  have hlayout : d.reread.intAndFraction = d.intAndFraction := by
    rcases h with ⟨hzero, h⟩ | ⟨hc, h⟩
    · have hlone : ∀ negative, intAndFraction ⟨negative, 0, 0⟩ = (['0'], []) := by decide
      rw [h, hlone]
      unfold intAndFraction
      simp only [hzero, hexponent, and_self, if_true]
    · obtain ⟨negative, c, e⟩ := d
      simp only at hc hexponent h
      have hcpos : 0 < c := Nat.pos_of_ne_zero hc
      have hne : c * 10 ^ e.toNat ≠ 0 := (Nat.mul_pos hcpos (by positivity)).ne'
      have hdigits : ∀ k : ℕ, Nat.toDigits 10 (c * 10 ^ k) =
          Nat.toDigits 10 c ++ List.replicate k '0' := by
        intro k
        induction k with
        | zero => simp
        | succ k ih =>
          rw [pow_succ, ← mul_assoc, toDigits_mul_ten (Nat.mul_pos hcpos (by positivity)), ih,
            List.append_assoc, ← List.replicate_succ']
      have hlong : ((Nat.toDigits 10 c).length : ℤ) < e + (Nat.toDigits 10 c).length := by omega
      have hcount : (e + ((Nat.toDigits 10 c).length : ℤ)).toNat - (Nat.toDigits 10 c).length =
          e.toNat := by
        omega
      rw [h]
      unfold intAndFraction
      simp only [hne, hc, false_and, if_false, hdigits, hlong, if_true, hcount, lt_irrefl,
        List.length_append, List.length_replicate, zero_add]
      rw [if_neg (by omega), if_neg (by omega), if_neg (by omega)]
      simp only [Nat.cast_add, Prod.mk.injEq, List.take_eq_self_iff,
        List.drop_eq_nil_iff, List.length_append, List.length_replicate]
      omega
  have hsign : d.reread.negative = d.negative := rfl
  unfold format
  rw [hlayout, hsign]

end DecimalTuple

end FirmQuant
