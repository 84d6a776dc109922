import Mathlib.Data.List.DropRight
import Mathlib.Data.String.Basic
import FirmQuant.Domain.Facts

/-!
# Texts of the domain

How `domain/values.py` reads a symbol, and what `domain/orders.py` asks of identities and digests.
-/

namespace FirmQuant

/-- A statement about the members of a list of characters is decided along the list. -/
instance decidableExistsMem {p : Char → Prop} [DecidablePred p] (cs : List Char) :
    Decidable (∃ c ∈ cs, p c) := List.decidableBEx p cs

instance decidableForallMem {p : Char → Prop} [DecidablePred p] (cs : List Char) :
    Decidable (∀ c ∈ cs, p c) := List.decidableBAll p cs

/-! ## Symbols -/

/-- `str.isspace` of one character. -/
def isSpaceCharacter (c : Char) : Bool :=
  (9 ≤ c.toNat && c.toNat ≤ 13) || (28 ≤ c.toNat && c.toNat ≤ 32) || c.toNat = 0x85 ||
    c.toNat = 0xa0 || c.toNat = 0x1680 || (0x2000 ≤ c.toNat && c.toNat ≤ 0x200a) ||
      c.toNat = 0x2028 || c.toNat = 0x2029 || c.toNat = 0x202f || c.toNat = 0x205f ||
        c.toNat = 0x3000

/-- `str.strip`. -/
def strip (cs : List Char) : List Char :=
  (cs.dropWhile isSpaceCharacter).rdropWhile isSpaceCharacter

/-- `Market(text.upper())` for the text of a market in lower case. -/
def Market.ofLower : List Char → Option Market
  | ['s', 'h'] => some .sh
  | ['s', 'z'] => some .sz
  | ['b', 'j'] => some .bj
  | _ => none

/-- `_BARE_SYMBOL`. -/
def isBareSymbol (cs : List Char) : Bool := cs.length = 6 && cs.all Char.isDigit

/-- An optional point. -/
def dropPoint : List Char → List Char
  | '.' :: cs => cs
  | cs => cs

/-- The market of a code without one. -/
def bareMarket (code : List Char) : Market :=
  if code = "000300".toList ∨ code = "000682".toList then .sh
  else
    match code.head? with
    | some '6' | some '9' => .sh
    | some '4' | some '8' => .bj
    | _ => .sz

/-- `Symbol.parse`.  No character outside ASCII has one of the letters of a market as its lower
case. -/
def Symbol.parse (raw : String) : Option Symbol :=
  let value := (strip raw.toList).map Char.toLower
  match Market.ofLower (value.take 2), isBareSymbol (dropPoint (value.drop 2)) with
  | some market, true => some ⟨market, String.ofList (dropPoint (value.drop 2))⟩
  | _, _ =>
    match isBareSymbol (value.take 6), Market.ofLower (dropPoint (value.drop 6)) with
    | true, some market => some ⟨market, String.ofList (value.take 6)⟩
    | _, _ =>
      if isBareSymbol value then some ⟨bareMarket value, String.ofList value⟩ else none

/-! ## Identities and digests -/

/-- The check of `_canonical_id` that a text fails, as its message. -/
def idViolation (label value : String) : Option String :=
  if value = "" ∨ strip value.toList ≠ value.toList ∨ 256 < value.length then
    some (label ++ " must be canonical non-empty text")
  else if ∃ c ∈ value.toList, c.toNat < 32 ∨ c.toNat = 127 then
    some (label ++ " contains control characters")
  else none

/-- A character of a hexadecimal digest. -/
def isHexDigit (c : Char) : Bool := ('0' ≤ c && c ≤ '9') || ('a' ≤ c && c ≤ 'f')

/-- `_GIT_SHA`. -/
def isGitSha (text : String) : Bool := text.toList.length = 40 && text.toList.all isHexDigit

/-- `_SHA256`. -/
def isSha256 (text : String) : Bool := text.toList.length = 64 && text.toList.all isHexDigit

/-! ## The text of a symbol -/

variable {cs : List Char} {c : Char}

lemma strip_eq_self (h : ∀ c ∈ cs, isSpaceCharacter c = false) :
    strip cs = cs := by
  have hleft : cs.dropWhile isSpaceCharacter = cs := by
    cases cs with
    | nil => rfl
    | cons c cs => exact List.dropWhile_cons_of_neg (by simp [h c List.mem_cons_self])
  have hright : cs.rdropWhile isSpaceCharacter = cs := by
    rw [List.rdropWhile_eq_self_iff]
    intro hne
    simp [h _ (List.getLast_mem hne)]
  rw [strip, hleft, hright]

lemma isDigit_iff : c.isDigit = true ↔ 48 ≤ c.toNat ∧ c.toNat ≤ 57 := by
  simp only [Char.isDigit, ge_iff_le, Bool.and_eq_true, decide_eq_true_eq, UInt32.le_iff_toNat_le]
  rfl

lemma isSpaceCharacter_of_isDigit (h : c.isDigit = true) :
    isSpaceCharacter c = false := by
  rw [isDigit_iff] at h
  simp only [isSpaceCharacter, Bool.or_eq_false_iff, Bool.and_eq_false_iff, decide_eq_false_iff_not]
  omega

lemma toLower_of_isDigit (h : c.isDigit = true) : c.toLower = c := by
  rw [isDigit_iff] at h
  unfold Char.toLower
  rw [dif_neg]
  simp only [UInt32.le_iff_toNat_le]
  change ¬ (65 ≤ c.toNat ∧ c.toNat ≤ 90)
  omega

/-- An identity passes by its characters. -/
lemma idViolation_ofList {label : String} (hne : cs ≠ []) (hstrip : strip cs = cs)
    (hlength : cs.length ≤ 256) (hcontrol : ∀ c ∈ cs, 32 ≤ c.toNat ∧ c.toNat ≠ 127) :
    idViolation label (String.ofList cs) = none := by
  have hempty : String.ofList cs ≠ "" := by
    intro h
    have hchars := congrArg String.toList h
    rw [String.toList_ofList] at hchars
    exact hne hchars
  have hcanonical : ¬ (String.ofList cs = "" ∨ strip (String.ofList cs).toList ≠
      (String.ofList cs).toList ∨ 256 < (String.ofList cs).length) := by
    rw [String.toList_ofList, String.length_ofList]
    rintro (h | h | h)
    · exact hempty h
    · exact h hstrip
    · omega
  have hvisible : ¬ ∃ c ∈ (String.ofList cs).toList, c.toNat < 32 ∨ c.toNat = 127 := by
    rw [String.toList_ofList]
    rintro ⟨c, hc, h | h⟩
    · exact absurd h (not_lt.mpr (hcontrol c hc).1)
    · exact (hcontrol c hc).2 h
  unfold idViolation
  rw [if_neg hcanonical, if_neg hvisible]

/-- The text of a symbol is read as that symbol. -/
theorem Symbol.parse_canonical {symbol : Symbol} (h : isBareSymbol symbol.code.toList = true) :
    Symbol.parse symbol.canonical = some symbol := by
  obtain ⟨market, code⟩ := symbol
  have hcode : code.toList.length = 6 ∧ ∀ c ∈ code.toList, c.isDigit = true := by
    simpa [isBareSymbol] using h
  obtain ⟨hlength, hdigits⟩ := hcode
  have hlower : code.toList.map Char.toLower = code.toList :=
    (List.map_congr_left fun c hc => toLower_of_isDigit (hdigits c hc)).trans (List.map_id _)
  have hpoint : dropPoint code.toList = code.toList := by
    unfold dropPoint
    split
    · next cs heq =>
      have hfalse := hdigits '.' (by rw [heq]; exact List.mem_cons_self)
      exact absurd hfalse (by decide)
    · rfl
  have hread : ∀ m : List Char, m.length = 2 → (∀ c ∈ m, isSpaceCharacter c = false) →
      m.map Char.toLower = m → Market.ofLower m = some market →
      Symbol.parse (String.ofList (m ++ code.toList)) = some ⟨market, code⟩ := by
    intro m hm hspace hmlower hmarket
    have hstrip : strip (m ++ code.toList) = m ++ code.toList := by
      refine strip_eq_self fun c hc => ?_
      rcases List.mem_append.mp hc with hc | hc
      · exact hspace c hc
      · exact isSpaceCharacter_of_isDigit (hdigits c hc)
    have htake : (m ++ code.toList).take 2 = m := List.take_left' hm
    have hdrop : (m ++ code.toList).drop 2 = code.toList := List.drop_left' hm
    simp only [Symbol.parse, String.toList_ofList, hstrip, List.map_append, hmlower, hlower, htake,
      hdrop, hpoint, hmarket, h, String.ofList_toList]
  have htext : ∀ m : String, m ++ code = String.ofList (m.toList ++ code.toList) := fun m => by
    rw [← String.toList_append, String.ofList_toList]
  cases market with
  | sh =>
    have hspace : ∀ c ∈ "sh".toList, isSpaceCharacter c = false := by simp [isSpaceCharacter]
    exact (congrArg parse (htext "sh")).trans (hread _ rfl hspace rfl rfl)
  | sz =>
    have hspace : ∀ c ∈ "sz".toList, isSpaceCharacter c = false := by simp [isSpaceCharacter]
    exact (congrArg parse (htext "sz")).trans (hread _ rfl hspace rfl rfl)
  | bj =>
    have hspace : ∀ c ∈ "bj".toList, isSpaceCharacter c = false := by simp [isSpaceCharacter]
    exact (congrArg parse (htext "bj")).trans (hread _ rfl hspace rfl rfl)

end FirmQuant
