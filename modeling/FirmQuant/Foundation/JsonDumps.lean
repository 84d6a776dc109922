import Mathlib.Data.List.Lex
import Mathlib.Data.List.Sort
import Mathlib.Order.Fin.Basic
import Mathlib.Tactic.Common

/-!
# The two forms of a JSON text

`json.dumps` of the standard library with `sort_keys=True` and the separators `","` and `":"`, with
`ensure_ascii` and `allow_nan` either way, and the UTF-8 encoding of its result.

A text here is any sequence of code points, lone surrogates included, as a Python text is.  With
`ensure_ascii` every character outside the printable ASCII range is written as an escape; without it
only control characters, quotes and backslashes are.  The main result says for which values the two
forms have the same bytes.
-/

/-- A code point of a Python text. -/
abbrev CodePoint := Fin 0x110000

/-- A Python text. -/
abbrev CodeText := List CodePoint

instance codePoint_neZero : @NeZero ℕ Zero.ofOfNat0 (1114111 + 1) := ⟨by decide⟩

namespace CodeText

/-- The text of a literal. -/
def ofChars (cs : List Char) : CodeText := cs.map fun c => Fin.ofNat 0x110000 c.toNat

/-- No character comes after `~`. -/
def Plain (t : CodeText) : Prop := ∀ c ∈ t, c.val ≤ 0x7e

instance (t : CodeText) : Decidable t.Plain := List.decidableBAll _ t

variable {t : CodeText} {c : CodePoint}

lemma plain_append {s : CodeText} : Plain (s ++ t) ↔ s.Plain ∧ t.Plain := by
  unfold Plain
  constructor
  · intro h
    exact ⟨fun c hc => h c (List.mem_append_left _ hc),
      fun c hc => h c (List.mem_append_right _ hc)⟩
  · rintro ⟨hs, ht⟩ c hc
    rcases List.mem_append.mp hc with hc | hc
    · exact hs c hc
    · exact ht c hc

lemma plain_cons : Plain (c :: t) ↔ c.val ≤ 0x7e ∧ t.Plain :=
  List.forall_mem_cons

lemma Plain.tail (h : t.Plain) : Plain t.tail :=
  fun c hc => h c (List.mem_of_mem_tail hc)

/-! ## UTF-8 -/

/-- A surrogate, which UTF-8 has no bytes for. -/
def isSurrogate (c : CodePoint) : Bool := 0xd800 ≤ c && c ≤ 0xdfff

/-- The bytes of a code point that is no surrogate. -/
def utf8Bytes (c : CodePoint) : List UInt8 := String.utf8EncodeChar (Char.ofNat c.val)

/-- `str.encode("utf-8")`, which has no result for a text with a surrogate. -/
def encode (t : CodeText) : Option (List UInt8) :=
  if t.any isSurrogate then none else some (t.flatMap utf8Bytes)

lemma isSurrogate_eq_false (h : c.val ≤ 0x7e) : isSurrogate c = false := by
  unfold isSurrogate
  simp only [Bool.and_eq_false_iff, decide_eq_false_iff_not, Fin.le_def]
  left
  change ¬ 0xd800 ≤ c.val
  omega

lemma toNat_charOfCode (h : isSurrogate c = false) :
    (Char.ofNat c.val).toNat = c.val := by
  have hvalid : c.val.isValidChar := by
    have hbound := c.isLt
    simp only [isSurrogate, Bool.and_eq_false_iff, decide_eq_false_iff_not, Fin.le_def] at h
    change ¬ 0xd800 ≤ c.val ∨ ¬ c.val ≤ 0xdfff at h
    unfold Nat.isValidChar
    omega
  rw [Char.ofNat, dif_pos hvalid]
  rfl

lemma utf8Bytes_plain (h : c.val ≤ 0x7e) : ∀ b ∈ utf8Bytes c, b ≤ 0x7e := by
  have hnat : (Char.ofNat c.val).val.toNat = c.val := toNat_charOfCode (isSurrogate_eq_false h)
  unfold utf8Bytes String.utf8EncodeChar
  rw [hnat, if_pos (by omega)]
  intro b hb
  rw [List.mem_singleton] at hb
  subst hb
  rw [UInt8.le_iff_toNat_le, UInt8.toNat_ofNat']
  change c.val % 2 ^ 8 ≤ 126
  omega

/-- A character that is not plain has a byte that is not. -/
lemma exists_mem_utf8Bytes (hc : ¬ c.val ≤ 0x7e) (h : isSurrogate c = false) :
    ∃ b ∈ utf8Bytes c, ¬ b ≤ 0x7e := by
  have hnat : (Char.ofNat c.val).val.toNat = c.val := toNat_charOfCode h
  have hbound := c.isLt
  unfold utf8Bytes String.utf8EncodeChar
  rw [hnat]
  -- the first byte of each form shows the character
  by_cases h1 : c.val ≤ 0x7f
  · refine ⟨UInt8.ofNat c.val, by simp [h1], ?_⟩
    rw [UInt8.le_iff_toNat_le, UInt8.toNat_ofNat']
    change ¬ c.val % 2 ^ 8 ≤ 126
    omega
  · by_cases h2 : c.val ≤ 0x7ff
    · refine ⟨UInt8.ofNat (c.val / 64 % 0x20 + 0xc0), by simp [h1, h2], ?_⟩
      rw [UInt8.le_iff_toNat_le, UInt8.toNat_ofNat']
      change ¬ (c.val / 64 % 32 + 192) % 2 ^ 8 ≤ 126
      omega
    · by_cases h3 : c.val ≤ 0xffff
      · refine ⟨UInt8.ofNat (c.val / 4096 % 0x10 + 0xe0), by simp [h1, h2, h3], ?_⟩
        rw [UInt8.le_iff_toNat_le, UInt8.toNat_ofNat']
        change ¬ (c.val / 4096 % 16 + 224) % 2 ^ 8 ≤ 126
        omega
      · refine ⟨UInt8.ofNat (c.val / 262144 % 0x08 + 0xf0), by simp [h1, h2, h3], ?_⟩
        rw [UInt8.le_iff_toNat_le, UInt8.toNat_ofNat']
        change ¬ (c.val / 262144 % 8 + 240) % 2 ^ 8 ≤ 126
        omega

lemma Plain.encode (h : t.Plain) :
    ∃ bytes, t.encode = some bytes ∧ ∀ b ∈ bytes, b ≤ 0x7e := by
  refine ⟨t.flatMap utf8Bytes, if_neg ?_, ?_⟩
  · rw [List.any_eq_true]
    rintro ⟨c, hc, hsurrogate⟩
    rw [isSurrogate_eq_false (h c hc)] at hsurrogate
    cases hsurrogate
  · intro b hb
    obtain ⟨c, hc, hb⟩ := List.mem_flatMap.mp hb
    exact utf8Bytes_plain (h c hc) b hb

lemma plain_of_encode {bytes : List UInt8} (h : t.encode = some bytes)
    (hbytes : ∀ b ∈ bytes, b ≤ 0x7e) : t.Plain := by
  intro c hc
  by_contra hplain
  unfold CodeText.encode at h
  split at h
  · cases h
  · next hnone =>
    cases h
    have hsurrogate : isSurrogate c = false := by
      rw [List.any_eq_true] at hnone
      exact Bool.eq_false_iff.mpr fun htrue => hnone ⟨c, hc, htrue⟩
    obtain ⟨b, hb, hnot⟩ := exists_mem_utf8Bytes hplain hsurrogate
    exact hnot (hbytes b (List.mem_flatMap.mpr ⟨c, hc, hb⟩))

end CodeText

open CodeText (ofChars)

/-! ## Values -/

/-- The text of a finite float. -/
def FloatText := {t : CodeText // t.Plain}

/-- A float that JSON has no number for. -/
inductive NonFinite
  | nan
  | infinity
  | negativeInfinity
  deriving DecidableEq, Repr

/-- A JSON value without parts. -/
inductive JsonScalar
  | null
  | bool (b : Bool)
  | int (n : ℤ)
  | float (repr : FloatText)
  | nonFinite (value : NonFinite)
  | text (t : CodeText)

/-- What a JSON value is made of. -/
inductive JsonPart
  | value
  | items
  | members

/-- A JSON value, with the items of an array and the members of an object in their order.  The keys
of an object differ, as those of a dictionary do; nothing below depends on it. -/
inductive JsonTree : JsonPart → Type
  | scalar (s : JsonScalar) : JsonTree .value
  | arr (items : JsonTree .items) : JsonTree .value
  | obj (members : JsonTree .members) : JsonTree .value
  | noItem : JsonTree .items
  | item (x : JsonTree .value) (items : JsonTree .items) : JsonTree .items
  | noMember : JsonTree .members
  | member (key : CodeText) (x : JsonTree .value) (members : JsonTree .members) :
      JsonTree .members

/-! ## Printing -/

/-- A lowercase hexadecimal digit. -/
def hexCode (n : ℕ) : CodePoint :=
  ⟨if n % 16 < 10 then 0x30 + n % 16 else 0x57 + n % 16, by split <;> omega⟩

/-- `\uXXXX`. -/
def unicodeEscape (n : ℕ) : CodeText :=
  ofChars ['\\', 'u'] ++ [hexCode (n / 4096), hexCode (n / 256), hexCode (n / 16), hexCode n]

/-- A character as it stands in a string literal. -/
def escapeCode (ensureAscii : Bool) (c : CodePoint) : CodeText :=
  if c = 0x22 then ofChars ['\\', '"']
  else if c = 0x5c then ofChars ['\\', '\\']
  else if c = 0x0a then ofChars ['\\', 'n']
  else if c = 0x0d then ofChars ['\\', 'r']
  else if c = 0x09 then ofChars ['\\', 't']
  else if c = 0x0c then ofChars ['\\', 'f']
  else if c = 0x08 then ofChars ['\\', 'b']
  else if 0x20 ≤ c ∧ (c.val ≤ 0x7e ∨ ensureAscii = false) then [c]
  else if c.val < 0x10000 then unicodeEscape c.val
  else unicodeEscape (0xd800 + (c.val - 0x10000) / 1024) ++
    unicodeEscape (0xdc00 + (c.val - 0x10000) % 1024)

/-- A string literal. -/
def printText (ensureAscii : Bool) (t : CodeText) : CodeText :=
  0x22 :: (t.flatMap (escapeCode ensureAscii) ++ [0x22])

/-- The decimal digits of a number. -/
def digitCodes (n : ℕ) : CodeText := ofChars (Nat.toDigits 10 n)

/-- The text that `json.dumps` writes for a float without a number. -/
def NonFinite.print : NonFinite → CodeText
  | nan => ofChars ['N', 'a', 'N']
  | infinity => ofChars ['I', 'n', 'f', 'i', 'n', 'i', 't', 'y']
  | negativeInfinity => ofChars ['-', 'I', 'n', 'f', 'i', 'n', 'i', 't', 'y']

/-- The text of a value without parts. -/
def JsonScalar.print (ensureAscii : Bool) : JsonScalar → CodeText
  | null => ofChars ['n', 'u', 'l', 'l']
  | bool true => ofChars ['t', 'r', 'u', 'e']
  | bool false => ofChars ['f', 'a', 'l', 's', 'e']
  | int n => (if n < 0 then [0x2d] else []) ++ digitCodes n.natAbs
  | float repr => repr.val
  | nonFinite value => value.print
  | text t => printText ensureAscii t

/-- The text of a value, with the members of objects as they stand.  Each item and each member is
written with a comma before it, and the first comma is dropped. -/
def JsonTree.print (ensureAscii : Bool) : {part : JsonPart} → JsonTree part → CodeText
  | _, scalar s => s.print ensureAscii
  | _, arr items => 0x5b :: ((items.print ensureAscii).tail ++ [0x5d])
  | _, obj members => 0x7b :: ((members.print ensureAscii).tail ++ [0x7d])
  | _, noItem => []
  | _, item x items => 0x2c :: (x.print ensureAscii ++ items.print ensureAscii)
  | _, noMember => []
  | _, member key x members =>
    0x2c :: (printText ensureAscii key ++
      0x3a :: (x.print ensureAscii ++ members.print ensureAscii))

/-- A member before the first one whose key is not smaller. -/
def JsonTree.insertMember (key : CodeText) (x : JsonTree .value) :
    JsonTree .members → JsonTree .members
  | noMember => member key x noMember
  | member key' x' members =>
    if key ≤ key' then member key x (member key' x' members)
    else member key' x' (insertMember key x members)

/-- A value with the members of each object sorted by key. -/
def JsonTree.sorted : {part : JsonPart} → JsonTree part → JsonTree part
  | _, scalar s => scalar s
  | _, arr items => arr items.sorted
  | _, obj members => obj members.sorted
  | _, noItem => noItem
  | _, item x items => item x.sorted items.sorted
  | _, noMember => noMember
  | _, member key x members => insertMember key x.sorted members.sorted

/-- The values without parts, in their order. -/
def JsonTree.scalars : {part : JsonPart} → JsonTree part → List JsonScalar
  | _, scalar s => [s]
  | _, arr items => items.scalars
  | _, obj members => members.scalars
  | _, noItem => []
  | _, item x items => x.scalars ++ items.scalars
  | _, noMember => []
  | _, member _ x members => x.scalars ++ members.scalars

/-- The keys and the texts. -/
def JsonTree.texts : {part : JsonPart} → JsonTree part → List CodeText
  | _, scalar (.text t) => [t]
  | _, scalar _ => []
  | _, arr items => items.texts
  | _, obj members => members.texts
  | _, noItem => []
  | _, item x items => x.texts ++ items.texts
  | _, noMember => []
  | _, member key x members => key :: (x.texts ++ members.texts)

/-- `json.dumps` and `encode` refuse a value with a `ValueError`. -/
inductive DumpsError
  | notCompliant (value : NonFinite)
  | overlongInteger
  | unicodeEncodeError
  deriving DecidableEq, Repr

/-- What `json.dumps` refuses a value without parts for. -/
def JsonScalar.refusal (allowNan : Bool) : JsonScalar → Option DumpsError
  | int n => if 4300 < (Nat.toDigits 10 n.natAbs).length then some .overlongInteger else none
  | nonFinite value => if allowNan then none else some (.notCompliant value)
  | _ => none

/-- `json.dumps`, which stops at the first value that it refuses. -/
def JsonTree.dumps (ensureAscii allowNan : Bool) (v : JsonTree .value) :
    Except DumpsError CodeText :=
  match v.sorted.scalars.findSome? (JsonScalar.refusal allowNan) with
  | some e => .error e
  | none => .ok (v.sorted.print ensureAscii)

/-- The bytes of `json.dumps`. -/
def JsonTree.dumpsBytes (ensureAscii allowNan : Bool) (v : JsonTree .value) :
    Except DumpsError (List UInt8) := do
  let t ← v.dumps ensureAscii allowNan
  match t.encode with
  | some bytes => return bytes
  | none => throw .unicodeEncodeError

/-! ## The sorted value -/

namespace JsonTree

variable {part : JsonPart} {key : CodeText}

lemma mem_insertMember {x : JsonTree .value} {members : JsonTree .members} :
    (∀ s, s ∈ (insertMember key x members).scalars ↔ s ∈ x.scalars ∨ s ∈ members.scalars) ∧
      ∀ t, t ∈ (insertMember key x members).texts ↔ t = key ∨ t ∈ x.texts ∨ t ∈ members.texts := by
  induction members using JsonTree.insertMember.induct key with
  | case1 => simp [insertMember, scalars, texts]
  | case2 key' x' members h => simp [insertMember, scalars, texts, h]
  | case3 key' x' members h ih =>
    rw [insertMember, if_neg h]
    simp only [scalars, texts, List.mem_cons, List.mem_append, ih]
    exact ⟨fun s => or_left_comm, fun t => by tauto⟩

lemma mem_sorted (v : JsonTree part) :
    (∀ s, s ∈ v.sorted.scalars ↔ s ∈ v.scalars) ∧ ∀ t, t ∈ v.sorted.texts ↔ t ∈ v.texts := by
  induction v with
  | scalar | noItem | noMember => exact ⟨fun _ => Iff.rfl, fun _ => Iff.rfl⟩
  | arr items ih | obj members ih => exact ih
  | item x items ihx ih =>
    simp only [sorted, scalars, texts, List.mem_append, ihx, ih, implies_true, and_self]
  | member key x members ihx ih =>
    simp only [sorted, scalars, texts, List.mem_cons, List.mem_append, mem_insertMember, ihx, ih,
      implies_true, and_self]

end JsonTree

/-! ## The two forms -/

namespace CodeText

lemma plain_unicodeEscape (n : ℕ) : Plain (unicodeEscape n) := by
  have hdigit : ∀ m, (hexCode m).val ≤ 0x7e := by
    intro m
    change (if m % 16 < 10 then 0x30 + m % 16 else 0x57 + m % 16) ≤ 126
    split <;> omega
  refine plain_append.mpr ⟨by decide, ?_⟩
  intro c hc
  simp only [List.mem_cons, List.not_mem_nil, or_false] at hc
  rcases hc with rfl | rfl | rfl | rfl <;> exact hdigit _

/-- With `ensure_ascii` every character is written plainly. -/
lemma plain_escapeCode (c : CodePoint) : Plain (escapeCode true c) := by
  unfold escapeCode
  split_ifs with _ _ _ _ _ _ _ hplain _
  any_goals decide
  · rintro d hd
    rw [List.mem_singleton] at hd
    subst hd
    exact hplain.2.resolve_right not_false
  · exact plain_unicodeEscape _
  · exact plain_append.mpr ⟨plain_unicodeEscape _, plain_unicodeEscape _⟩

lemma plain_printText (t : CodeText) : Plain (printText true t) := by
  refine plain_cons.mpr ⟨by decide, plain_append.mpr ⟨?_, by decide⟩⟩
  intro c hc
  obtain ⟨d, _, hc⟩ := List.mem_flatMap.mp hc
  exact plain_escapeCode d c hc

/-- A plain character is written in one way. -/
lemma escapeCode_of_plain {c : CodePoint} (h : c.val ≤ 0x7e) :
    escapeCode false c = escapeCode true c := by
  unfold escapeCode
  simp only [h, true_or]

lemma printText_of_plain {t : CodeText} (h : t.Plain) : printText false t = printText true t := by
  unfold printText
  congr 2
  exact List.flatMap_congr fun c hc => escapeCode_of_plain (h c hc)

/-- Without `ensure_ascii` a character that is not plain stands for itself. -/
lemma mem_escapeCode {c : CodePoint} (h : ¬ c.val ≤ 0x7e) : c ∈ escapeCode false c := by
  have hlarge : 0x7e < c.val := Nat.lt_of_not_le h
  have hne : ∀ d : CodePoint, d.val ≤ 0x7e → c ≠ d := by
    rintro d hd rfl
    omega
  have hspace : 0x20 ≤ c.val := by omega
  unfold escapeCode
  rw [if_neg (hne _ (by decide)), if_neg (hne _ (by decide)), if_neg (hne _ (by decide)),
    if_neg (hne _ (by decide)), if_neg (hne _ (by decide)), if_neg (hne _ (by decide)),
    if_neg (hne _ (by decide)), if_pos ⟨hspace, .inr rfl⟩]
  exact List.mem_singleton.mpr rfl

lemma plain_of_printText {t : CodeText} (h : Plain (printText false t)) : t.Plain := by
  intro c hc
  by_contra hnot
  refine hnot (h c (List.mem_cons_of_mem _ (List.mem_append_left _ ?_)))
  exact List.mem_flatMap.mpr ⟨c, hc, mem_escapeCode hnot⟩

lemma plain_digitCodes (n : ℕ) : Plain (digitCodes n) := by
  intro c hc
  obtain ⟨d, hd, rfl⟩ := List.mem_map.mp hc
  have hdigit := Nat.isDigit_of_mem_toDigits (by decide) (by decide) hd
  have hle : d.toNat ≤ 57 := by
    simp only [Char.isDigit, Bool.and_eq_true, decide_eq_true_eq, UInt32.le_iff_toNat_le] at hdigit
    exact hdigit.2
  change d.toNat % 0x110000 ≤ 126
  omega

end CodeText

open CodeText

lemma NonFinite.plain_print (value : NonFinite) : value.print.Plain := by
  cases value <;> decide

lemma JsonScalar.plain_print (s : JsonScalar) : (s.print true).Plain := by
  cases s with
  | null => decide
  | bool b => cases b <;> decide
  | int n =>
    refine plain_append.mpr ⟨?_, plain_digitCodes _⟩
    split <;> decide
  | float repr => exact repr.property
  | nonFinite value => exact value.plain_print
  | text t => exact plain_printText t

namespace JsonTree

variable {part : JsonPart}

/-- All keys and texts are plain. -/
def Plain (v : JsonTree part) : Prop := ∀ t ∈ v.texts, t.Plain

instance (v : JsonTree part) : Decidable v.Plain :=
  inferInstanceAs (Decidable (∀ t ∈ v.texts, t.Plain))

variable {x : JsonTree .value} {v : JsonTree part}

lemma plain_item {items : JsonTree .items} :
    (item x items).Plain ↔ x.Plain ∧ items.Plain := by
  simp only [Plain, texts, List.mem_append, or_imp, forall_and]

lemma plain_member {key : CodeText} {members : JsonTree .members} :
    (member key x members).Plain ↔ key.Plain ∧ x.Plain ∧ members.Plain := by
  simp only [Plain, texts, List.mem_cons, List.mem_append, or_imp, forall_and, forall_eq]

lemma plain_sorted : v.sorted.Plain ↔ v.Plain :=
  forall_congr' fun _ => imp_congr_left ((mem_sorted v).2 _)

/-- With `ensure_ascii` every value is written plainly. -/
theorem plain_print (v : JsonTree part) : (v.print true).Plain := by
  induction v with
  | scalar s => exact s.plain_print
  | arr items ih | obj members ih =>
    exact plain_cons.mpr ⟨by decide, plain_append.mpr ⟨ih.tail, by decide⟩⟩
  | noItem | noMember => intro c hc; cases hc
  | item x items ihx ih => exact plain_cons.mpr ⟨by decide, plain_append.mpr ⟨ihx, ih⟩⟩
  | member key x members ihx ih =>
    exact plain_cons.mpr ⟨by decide, plain_append.mpr ⟨plain_printText key,
      plain_cons.mpr ⟨by decide, plain_append.mpr ⟨ihx, ih⟩⟩⟩⟩

/-- A plain value is written in one way. -/
theorem print_of_plain (v : JsonTree part) (h : v.Plain) : v.print false = v.print true := by
  induction v with
  | scalar s =>
    cases s with
    | text t => exact printText_of_plain (h t (List.mem_singleton.mpr rfl))
    | bool b => cases b <;> rfl
    | _ => rfl
  | arr items ih | obj members ih => rw [print, print, ih h]
  | noItem => rfl
  | noMember => rfl
  | item x items ihx ih =>
    obtain ⟨hx, hitems⟩ := plain_item.mp h
    rw [print, print, ihx hx, ih hitems]
  | member key x members ihx ih =>
    obtain ⟨hkey, hx, hmembers⟩ := plain_member.mp h
    rw [print, print, printText_of_plain hkey, ihx hx, ih hmembers]

/-- The comma before the first item or member is plain, so that it may be dropped. -/
lemma plain_of_tail {t : CodeText} (h : CodeText.Plain t.tail)
    (hcomma : ∀ c ∈ t.head?, c.val ≤ 0x7e) : t.Plain := by
  cases t with
  | nil => exact h
  | cons c t => exact plain_cons.mpr ⟨hcomma c rfl, h⟩

lemma plain_head_items (v : JsonTree .items) : ∀ c ∈ (v.print false).head?, c.val ≤ 0x7e := by
  cases v with
  | noItem => intro c hc; cases hc
  | item x items => rintro c ⟨⟩; decide

lemma plain_head_members (v : JsonTree .members) : ∀ c ∈ (v.print false).head?, c.val ≤ 0x7e := by
  cases v with
  | noMember => intro c hc; cases hc
  | member key x members => rintro c ⟨⟩; decide

/-- Without `ensure_ascii` a value is written plainly only if it is plain. -/
theorem plain_of_print (v : JsonTree part) (h : (v.print false).Plain) : v.Plain := by
  induction v with
  | scalar s =>
    cases s with
    | text t =>
      intro t' ht'
      rw [List.mem_singleton.mp ht']
      exact plain_of_printText h
    | _ => intro t ht; cases ht
  | arr items ih =>
    have htail := (plain_append.mp (plain_cons.mp h).2).1
    exact ih (plain_of_tail htail (plain_head_items items))
  | obj members ih =>
    have htail := (plain_append.mp (plain_cons.mp h).2).1
    exact ih (plain_of_tail htail (plain_head_members members))
  | noItem | noMember => intro t ht; cases ht
  | item x items ihx ih =>
    obtain ⟨hx, hitems⟩ := plain_append.mp (plain_cons.mp h).2
    exact plain_item.mpr ⟨ihx hx, ih hitems⟩
  | member key x members ihx ih =>
    obtain ⟨hkey, hrest⟩ := plain_append.mp (plain_cons.mp h).2
    obtain ⟨hx, hmembers⟩ := plain_append.mp (plain_cons.mp hrest).2
    exact plain_member.mpr ⟨plain_of_printText hkey, ihx hx, ih hmembers⟩

/-- The two forms of a value have the same bytes just if the value is plain. -/
theorem encode_print_eq_iff {v : JsonTree .value} :
    (v.print false).encode = (v.print true).encode ↔ v.Plain := by
  constructor
  · intro h
    obtain ⟨bytes, hbytes, hplain⟩ := (plain_print v).encode
    exact plain_of_print v (plain_of_encode (h.trans hbytes) hplain)
  · intro h
    rw [print_of_plain v h]

/-- `json.dumps` refuses nothing in the value. -/
def Encodable (allowNan : Bool) (v : JsonTree part) : Prop :=
  ∀ s ∈ v.scalars, s.refusal allowNan = none

instance (allowNan : Bool) (v : JsonTree part) : Decidable (v.Encodable allowNan) :=
  inferInstanceAs (Decidable (∀ s ∈ v.scalars, s.refusal allowNan = none))

lemma encodable_sorted {allowNan : Bool} :
    v.sorted.Encodable allowNan ↔ v.Encodable allowNan :=
  forall_congr' fun _ => imp_congr_left ((mem_sorted v).1 _)

lemma dumpsBytes_eq_ok {ensureAscii allowNan : Bool} {v : JsonTree .value} {bytes : List UInt8} :
    v.dumpsBytes ensureAscii allowNan = .ok bytes ↔
      v.Encodable allowNan ∧ (v.sorted.print ensureAscii).encode = some bytes := by
  rw [← encodable_sorted]
  unfold Encodable dumpsBytes dumps
  cases hrefusal : v.sorted.scalars.findSome? (JsonScalar.refusal allowNan) with
  | some e =>
    have hnot : ¬ ∀ s ∈ v.sorted.scalars, s.refusal allowNan = none := by
      rw [← List.findSome?_eq_none_iff, hrefusal]
      exact Option.some_ne_none e
    simp only [hnot, false_and, iff_false]
    intro h
    cases h
  | none =>
    rw [List.findSome?_eq_none_iff] at hrefusal
    rw [and_iff_right hrefusal]
    change (match (v.sorted.print ensureAscii).encode with
      | some bytes => Except.ok bytes
      | none => Except.error DumpsError.unicodeEncodeError) = _ ↔ _
    cases (v.sorted.print ensureAscii).encode with
    | some bytes' => simp
    | none => simp

/-- All floats are finite. -/
def Finite (v : JsonTree part) : Prop := ∀ s ∈ v.scalars, ∀ value, s ≠ .nonFinite value

lemma finite_item {items : JsonTree .items} :
    (item x items).Finite ↔ x.Finite ∧ items.Finite := by
  simp only [Finite, scalars, List.mem_append, or_imp, forall_and]

lemma finite_member {key : CodeText} {members : JsonTree .members} :
    (member key x members).Finite ↔ x.Finite ∧ members.Finite := by
  simp only [Finite, scalars, List.mem_append, or_imp, forall_and]

lemma finite_scalar {s : JsonScalar} : (scalar s).Finite ↔ ∀ value, s ≠ .nonFinite value := by
  simp only [Finite, scalars, List.mem_singleton, forall_eq]

/-- Without `allow_nan` a value is encodable just if it is with it and all its floats are finite. -/
lemma encodable_false_iff :
    v.Encodable false ↔ v.Finite ∧ v.Encodable true := by
  unfold Encodable Finite
  rw [← forall_and]
  refine forall_congr' fun s => ?_
  rw [← imp_and]
  refine imp_congr_right fun _ => ?_
  cases s with
  | nonFinite value | _ => simp [JsonScalar.refusal]

end JsonTree
