import Mathlib.Data.List.Sort
import Mathlib.Data.String.Basic
import Mathlib.Tactic.Common

/-!
# JSON texts

The JSON encoder and decoder of the standard library: `json.dumps` with `ensure_ascii=False`,
`sort_keys=True` and the separators `","` and `":"`, and `json.loads` with its two hooks.

The encoder sorts the members of each object and prints the result.  The decoder reads back what was
printed, so that a text printed from a value determines the value up to the order of members.
-/

/-- A JSON value, with the members of an object in their order and a float by its text. -/
inductive Json
  | null
  | bool (b : Bool)
  | int (n : ℤ)
  | float (text : String)
  | str (s : String)
  | arr (items : List Json)
  | obj (members : List (String × Json))
  deriving Repr

namespace Json

/-! ## Printing -/

/-- The lowercase hexadecimal digits. -/
def hexDigit (n : ℕ) : Char :=
  if n < 10 then Char.ofNat ('0'.toNat + n) else Char.ofNat ('a'.toNat + (n - 10))

/-- A character as it stands in a string literal. -/
def escape (c : Char) : List Char :=
  if c = '"' then ['\\', '"']
  else if c = '\\' then ['\\', '\\']
  else if c = '\n' then ['\\', 'n']
  else if c = '\r' then ['\\', 'r']
  else if c = '\t' then ['\\', 't']
  else if c = '\x0c' then ['\\', 'f']
  else if c = '\x08' then ['\\', 'b']
  else if c.toNat < 32 then
    ['\\', 'u', '0', '0', hexDigit (c.toNat / 16), hexDigit (c.toNat % 16)]
  else [c]

/-- The characters of a string, escaped, up to and with the closing quote. -/
def printChars : List Char → List Char
  | [] => ['"']
  | c :: cs => escape c ++ printChars cs

/-- A string literal. -/
def printString (s : String) : List Char := '"' :: printChars s.toList

/-- `int.__repr__`. -/
def printInt (n : ℤ) : List Char :=
  if n < 0 then '-' :: Nat.toDigits 10 n.natAbs else Nat.toDigits 10 n.natAbs

mutual

/-- The text of a value, with the members of objects as they stand. -/
def print : Json → List Char
  | null => ['n', 'u', 'l', 'l']
  | bool true => ['t', 'r', 'u', 'e']
  | bool false => ['f', 'a', 'l', 's', 'e']
  | int n => printInt n
  | float text => text.toList
  | str s => printString s
  | arr [] => ['[', ']']
  | arr (x :: xs) => '[' :: (print x ++ printItems xs)
  | obj [] => ['{', '}']
  | obj ((k, x) :: ms) => '{' :: (printString k ++ ':' :: (print x ++ printMembers ms))
termination_by structural v => v

/-- The items of an array after the first one. -/
def printItems : List Json → List Char
  | [] => [']']
  | x :: xs => ',' :: (print x ++ printItems xs)
termination_by structural v => v

/-- The members of an object after the first one. -/
def printMembers : List (String × Json) → List Char
  | [] => ['}']
  | (k, x) :: ms => ',' :: (printString k ++ ':' :: (print x ++ printMembers ms))
termination_by structural v => v

end

/-- The order in which the members of an object are printed: by the code points of the keys. -/
def keyLE (a b : String × Json) : Prop := a.1 ≤ b.1

instance : DecidableRel keyLE := fun a b => inferInstanceAs (Decidable (a.1 ≤ b.1))

mutual

/-- A value with the members of each object sorted by key. -/
def sorted : Json → Json
  | null => null
  | bool b => bool b
  | int n => int n
  | float text => float text
  | str s => str s
  | arr items => arr (sortedItems items)
  | obj members => obj ((sortedMembers members).insertionSort keyLE)
termination_by structural v => v

/-- The items of an array, sorted within. -/
def sortedItems : List Json → List Json
  | [] => []
  | x :: xs => sorted x :: sortedItems xs
termination_by structural v => v

/-- The members of an object, sorted within. -/
def sortedMembers : List (String × Json) → List (String × Json)
  | [] => []
  | (k, x) :: ms => (k, sorted x) :: sortedMembers ms
termination_by structural v => v

end

/-- `json.dumps`. -/
def dumps (v : Json) : String := String.ofList (print (sorted v))

/-! ## Parsing -/

/-- What `json.loads` is told to do with the members of an object and with `NaN` and the infinities,
and what it raises by itself. -/
structure ParseHooks (ε : Type) where
  pairs : List (String × Json) → Except ε (List (String × Json))
  constant : String → Except ε Json
  /-- The text is not JSON. -/
  malformed : ε
  /-- An integer has too many digits. -/
  overlong : ε

variable {ε : Type}

/-- What cannot be read is malformed. -/
def ParseHooks.lift {α : Type} (hooks : ParseHooks ε) : Option α → Except ε α
  | some a => .ok a
  | none => .error hooks.malformed

def isSpace (c : Char) : Bool := c = ' ' || c = '\t' || c = '\n' || c = '\r'

def skipSpace (cs : List Char) : List Char := cs.dropWhile isSpace

def hexValue (c : Char) : Option ℕ :=
  if c.isDigit then some (c.toNat - '0'.toNat)
  else if 'a' ≤ c ∧ c ≤ 'f' then some (c.toNat - 'a'.toNat + 10)
  else if 'A' ≤ c ∧ c ≤ 'F' then some (c.toNat - 'A'.toNat + 10)
  else none

/-- Four hexadecimal digits. -/
def readHex : List Char → Option (ℕ × List Char)
  | a :: b :: c :: d :: cs => do
    let a ← hexValue a
    let b ← hexValue b
    let c ← hexValue c
    let d ← hexValue d
    return (((a * 16 + b) * 16 + c) * 16 + d, cs)
  | _ => none

/-- The second half of a surrogate pair. -/
def readLowSurrogate (high : ℕ) : List Char → Option (Char × List Char)
  | '\\' :: 'u' :: cs => do
    let (low, cs) ← readHex cs
    if 0xDC00 ≤ low ∧ low ≤ 0xDFFF then
      return (Char.ofNat (0x10000 + (high - 0xD800) * 0x400 + (low - 0xDC00)), cs)
    else none
  | _ => none

/-- The rest of an escape after `\u`.  A lone surrogate is no character of a text. -/
def readUnicode (cs : List Char) : Option (Char × List Char) := do
  let (code, cs) ← readHex cs
  if 0xD800 ≤ code ∧ code ≤ 0xDBFF then readLowSurrogate code cs
  else if 0xDC00 ≤ code ∧ code ≤ 0xDFFF then none
  else return (Char.ofNat code, cs)

/-- The escapes of one character. -/
def simpleEscape (c : Char) : Option Char :=
  if c = '"' then some '"'
  else if c = '\\' then some '\\'
  else if c = '/' then some '/'
  else if c = 'b' then some '\x08'
  else if c = 'f' then some '\x0c'
  else if c = 'n' then some '\n'
  else if c = 'r' then some '\r'
  else if c = 't' then some '\t'
  else none

/-- One character of a string literal. -/
def readChar : List Char → Option (Char × List Char)
  | [] => none
  | ['\\'] => none
  | '\\' :: c :: cs =>
    if c = 'u' then readUnicode cs else (simpleEscape c).map fun d => (d, cs)
  | c :: cs => if c.toNat < 32 then none else some (c, cs)

/-- `scanstring`, after the opening quote. -/
def parseChars : ℕ → List Char → Option (List Char × List Char)
  | 0, _ => none
  | _ + 1, [] => none
  | n + 1, c :: cs =>
    if c = '"' then some ([], cs)
    else do
      let (d, rest) ← readChar (c :: cs)
      let (ds, rest) ← parseChars n rest
      return (d :: ds, rest)

def parseString (n : ℕ) (cs : List Char) : Option (String × List Char) :=
  (parseChars n cs).map fun (ds, rest) => (String.ofList ds, rest)

/-- The integer part of a number: one zero, or digits that do not begin with a zero. -/
def spanInteger : List Char → List Char × List Char
  | [] => ([], [])
  | c :: cs =>
    if c = '0' then (['0'], cs)
    else ((c :: cs).takeWhile Char.isDigit, (c :: cs).dropWhile Char.isDigit)

/-- The fraction of a number, if there is one. -/
def spanFraction : List Char → List Char × List Char
  | [] => ([], [])
  | c :: cs =>
    if c = '.' ∧ cs.takeWhile Char.isDigit ≠ [] then
      (c :: cs.takeWhile Char.isDigit, cs.dropWhile Char.isDigit)
    else ([], c :: cs)

/-- The sign of an exponent. -/
def spanSign : List Char → List Char × List Char
  | [] => ([], [])
  | c :: cs => if c = '+' ∨ c = '-' then ([c], cs) else ([], c :: cs)

/-- The exponent of a number, if there is one. -/
def spanExponent : List Char → List Char × List Char
  | [] => ([], [])
  | c :: cs =>
    if (c = 'e' ∨ c = 'E') ∧ (spanSign cs).2.takeWhile Char.isDigit ≠ [] then
      (c :: ((spanSign cs).1 ++ (spanSign cs).2.takeWhile Char.isDigit),
        (spanSign cs).2.dropWhile Char.isDigit)
    else ([], c :: cs)

/-- The most digits that an integer is converted from or to. -/
def maxStrDigits : ℕ := 4300

/-- A number whose sign has been read. -/
def parseUnsigned (hooks : ParseHooks ε) (negative : Bool) (cs : List Char) :
    Except ε (Json × List Char) :=
  let (integer, rest) := spanInteger cs
  let (fraction, rest) := spanFraction rest
  let (exponent, rest) := spanExponent rest
  if integer = [] then .error hooks.malformed
  else if fraction = [] ∧ exponent = [] then
    if maxStrDigits < integer.length then .error hooks.overlong
    else
      let n : ℤ := Nat.ofDigitChars 10 integer 0
      .ok (int (if negative then -n else n), rest)
  else
    let text := integer ++ fraction ++ exponent
    .ok (float (String.ofList (if negative then '-' :: text else text)), rest)

/-- `_scan_once` where the text is a number or one of the constants that are not JSON. -/
def parseNumber (hooks : ParseHooks ε) (cs : List Char) : Except ε (Json × List Char) :=
  match cs with
  | 'N' :: 'a' :: 'N' :: cs => (hooks.constant "NaN").map fun v => (v, cs)
  | 'I' :: 'n' :: 'f' :: 'i' :: 'n' :: 'i' :: 't' :: 'y' :: cs =>
    (hooks.constant "Infinity").map fun v => (v, cs)
  | '-' :: 'I' :: 'n' :: 'f' :: 'i' :: 'n' :: 'i' :: 't' :: 'y' :: cs =>
    (hooks.constant "-Infinity").map fun v => (v, cs)
  | '-' :: cs => parseUnsigned hooks true cs
  | cs => parseUnsigned hooks false cs

mutual

/-- `_scan_once`. -/
def parseValue (hooks : ParseHooks ε) : ℕ → List Char → Except ε (Json × List Char)
  | 0, _ => .error hooks.malformed
  | _ + 1, [] => .error hooks.malformed
  | n + 1, c :: cs =>
    if c = '"' then (hooks.lift (parseString n cs)).map fun (s, rest) => (str s, rest)
    else if c = '{' then parseObject hooks n (skipSpace cs)
    else if c = '[' then parseArray hooks n (skipSpace cs)
    else if c = 'n' ∧ cs.take 3 = ['u', 'l', 'l'] then .ok (null, cs.drop 3)
    else if c = 't' ∧ cs.take 3 = ['r', 'u', 'e'] then .ok (bool true, cs.drop 3)
    else if c = 'f' ∧ cs.take 4 = ['a', 'l', 's', 'e'] then .ok (bool false, cs.drop 4)
    else parseNumber hooks (c :: cs)
termination_by structural n => n

/-- An array after its bracket. -/
def parseArray (hooks : ParseHooks ε) : ℕ → List Char → Except ε (Json × List Char)
  | 0, _ => .error hooks.malformed
  | _ + 1, [] => .error hooks.malformed
  | n + 1, c :: cs =>
    if c = ']' then .ok (arr [], cs)
    else (parseItems hooks n (c :: cs)).map fun (xs, rest) => (arr xs, rest)
termination_by structural n => n

/-- Items up to and with the closing bracket. -/
def parseItems (hooks : ParseHooks ε) : ℕ → List Char → Except ε (List Json × List Char)
  | 0, _ => .error hooks.malformed
  | n + 1, cs => do
    let (x, rest) ← parseValue hooks n cs
    match skipSpace rest with
    | ']' :: rest => return ([x], rest)
    | ',' :: rest => do
      let (xs, rest) ← parseItems hooks n (skipSpace rest)
      return (x :: xs, rest)
    | _ => .error hooks.malformed
termination_by structural n => n

/-- An object after its brace. -/
def parseObject (hooks : ParseHooks ε) : ℕ → List Char → Except ε (Json × List Char)
  | 0, _ => .error hooks.malformed
  | _ + 1, [] => .error hooks.malformed
  | n + 1, c :: cs =>
    if c = '}' then (hooks.pairs []).map fun ms => (obj ms, cs)
    else do
      let (ms, rest) ← parseMembers hooks n (c :: cs)
      let ms ← hooks.pairs ms
      return (obj ms, rest)
termination_by structural n => n

/-- A member of an object. -/
def parseMember (hooks : ParseHooks ε) : ℕ → List Char → Except ε ((String × Json) × List Char)
  | n + 1, '"' :: cs => do
    let (k, rest) ← hooks.lift (parseString n cs)
    match skipSpace rest with
    | ':' :: rest => do
      let (x, rest) ← parseValue hooks n (skipSpace rest)
      return ((k, x), rest)
    | _ => .error hooks.malformed
  | _, _ => .error hooks.malformed
termination_by structural n => n

/-- Members up to and with the closing brace. -/
def parseMembers (hooks : ParseHooks ε) :
    ℕ → List Char → Except ε (List (String × Json) × List Char)
  | 0, _ => .error hooks.malformed
  | n + 1, cs => do
    let (m, rest) ← parseMember hooks n cs
    match skipSpace rest with
    | '}' :: rest => return ([m], rest)
    | ',' :: rest => do
      let (ms, rest) ← parseMembers hooks n (skipSpace rest)
      return (m :: ms, rest)
    | _ => .error hooks.malformed
termination_by structural n => n

end

/-- `json.loads`, on the characters of a text. -/
def parse (hooks : ParseHooks ε) (cs : List Char) : Except ε Json := do
  let (v, rest) ← parseValue hooks (2 * cs.length + 1) (skipSpace cs)
  if skipSpace rest = [] then return v else .error hooks.malformed

/-- `json.loads`. -/
def loads (hooks : ParseHooks ε) (text : String) : Except ε Json := parse hooks text.toList

/-! ## Exact values -/

mutual

/-- A value that a text says exactly: no floats, integers of not too many digits, and no key twice
in an object. -/
def Exact : Json → Prop
  | null => True
  | bool _ => True
  | int n => (Nat.toDigits 10 n.natAbs).length ≤ maxStrDigits
  | float _ => False
  | str _ => True
  | arr items => ExactItems items
  | obj members => (members.map Prod.fst).Nodup ∧ ExactMembers members
termination_by structural v => v

def ExactItems : List Json → Prop
  | [] => True
  | x :: xs => Exact x ∧ ExactItems xs
termination_by structural v => v

def ExactMembers : List (String × Json) → Prop
  | [] => True
  | (_, x) :: ms => Exact x ∧ ExactMembers ms
termination_by structural v => v

end

/-- Hooks that leave objects without a double key as they are. -/
def ParseHooks.Lossless (hooks : ParseHooks ε) : Prop :=
  ∀ ms, (ms.map Prod.fst).Nodup → hooks.pairs ms = .ok ms

/-! ## Characters and strings -/

lemma hexValue_hexDigit : ∀ n < 16, hexValue (hexDigit n) = some n := by decide

/-- A text that goes on after a value. -/
def Delimited (rest : List Char) : Prop :=
  ∀ c cs, rest = c :: cs → c = ',' ∨ c = ']' ∨ c = '}'

lemma delimited_nil : Delimited [] := by
  intro c cs h
  cases h

lemma delimited_printItems (xs : List Json) (rest : List Char) :
    Delimited (printItems xs ++ rest) := by
  intro c cs h
  cases xs with
  | nil =>
    obtain ⟨rfl, -⟩ := List.cons.inj h
    exact Or.inr (Or.inl rfl)
  | cons x xs =>
    obtain ⟨rfl, -⟩ := List.cons.inj h
    exact Or.inl rfl

lemma delimited_printMembers (ms : List (String × Json)) (rest : List Char) :
    Delimited (printMembers ms ++ rest) := by
  intro c cs h
  cases ms with
  | nil =>
    obtain ⟨rfl, -⟩ := List.cons.inj h
    exact Or.inr (Or.inr rfl)
  | cons m ms =>
    obtain ⟨rfl, -⟩ := List.cons.inj h
    exact Or.inl rfl

lemma readChar_escape (c : Char) (rest : List Char) :
    readChar (escape c ++ rest) = some (c, rest) := by
  unfold escape
  split_ifs with h₁ h₂ h₃ h₄ h₅ h₆ h₇ h₈
  · subst h₁; rfl
  · subst h₂; rfl
  · subst h₃; rfl
  · subst h₄; rfl
  · subst h₅; rfl
  · subst h₆; rfl
  · subst h₇; rfl
  · have hhigh := hexValue_hexDigit (c.toNat / 16) (by omega)
    have hlow := hexValue_hexDigit (c.toNat % 16) (by omega)
    have hzero : hexValue '0' = some 0 := by decide
    have hcode : ((0 * 16 + 0) * 16 + c.toNat / 16) * 16 + c.toNat % 16 = c.toNat := by omega
    have hhex : readHex ('0' :: '0' :: hexDigit (c.toNat / 16) :: hexDigit (c.toNat % 16) :: rest) =
        some (c.toNat, rest) := by
      simp only [readHex, hzero, hhigh, hlow, Option.bind_eq_bind, Option.bind_some,
        Option.pure_def, hcode]
    have hnotHigh : ¬ (0xD800 ≤ c.toNat ∧ c.toNat ≤ 0xDBFF) := by omega
    have hnotLow : ¬ (0xDC00 ≤ c.toNat ∧ c.toNat ≤ 0xDFFF) := by omega
    change (readHex ('0' :: '0' :: hexDigit (c.toNat / 16) :: hexDigit (c.toNat % 16) :: rest) >>=
      _) = _
    rw [hhex]
    simp only [Option.bind_eq_bind, Option.bind_some, if_neg hnotHigh, if_neg hnotLow,
      Option.pure_def, Char.ofNat_toNat]
  · change readChar (c :: rest) = _
    rw [readChar.eq_def]
    split
    next h => cases h
    next h => exact absurd (List.cons.inj h).1 h₂
    next h => exact absurd (List.cons.inj h).1 h₂
    next h =>
      obtain ⟨rfl, rfl⟩ := List.cons.inj h
      rw [if_neg h₈]

lemma escape_eq_cons (c : Char) : ∃ d ds, escape c = d :: ds ∧ d ≠ '"' := by
  unfold escape
  split_ifs with h₁ h₂ h₃ h₄ h₅ h₆ h₇ h₈
  on_goal 9 => exact ⟨_, _, rfl, h₁⟩
  all_goals exact ⟨_, _, rfl, by decide⟩

variable {rest : List Char}

variable {cs : List Char} {hooks : ParseHooks ε} {ms : List (String × Json)}

lemma parseChars_printChars {n : ℕ} (hn : (printChars cs).length ≤ n) :
    parseChars n (printChars cs ++ rest) = some (cs, rest) := by
  induction cs generalizing n with
  | nil =>
    obtain ⟨n, rfl⟩ := Nat.exists_eq_add_of_le' (show 1 ≤ n from hn)
    rfl
  | cons c cs ih =>
    obtain ⟨d, ds, hescape, hd⟩ := escape_eq_cons c
    have hread := readChar_escape c (printChars cs ++ rest)
    simp only [printChars, List.length_append, hescape, List.length_cons] at hn
    obtain ⟨n, rfl⟩ := Nat.exists_eq_add_of_le' (show 1 ≤ n by omega)
    rw [hescape] at hread
    simp only [printChars, hescape, List.append_assoc, List.cons_append] at hread ⊢
    rw [parseChars, if_neg hd, hread]
    simp only [Option.bind_eq_bind, Option.bind_some, ih (show (printChars cs).length ≤ n by omega),
      Option.pure_def]

lemma parseString_printChars {s : String} {n : ℕ} (rest : List Char)
    (hn : (printChars s.toList).length ≤ n) :
    parseString n (printChars s.toList ++ rest) = some (s, rest) := by
  unfold parseString
  simp only [parseChars_printChars hn, Option.map_some, String.ofList_toList]

/-! ## Integers -/

variable {m : ℕ} {c : Char} {v : Json}

lemma toDigits_all_digit (hc : c ∈ Nat.toDigits 10 m) : c.isDigit = true :=
  Nat.isDigit_of_mem_toDigits (by decide) (by decide) hc

lemma digitChar_ne_zero : ∀ m < 10, m ≠ 0 → Nat.digitChar m ≠ '0' := by decide

lemma toDigits_head (hm : m ≠ 0) : ∃ c cs, Nat.toDigits 10 m = c :: cs ∧ c ≠ '0' := by
  induction m using Nat.strong_induction_on with
  | _ m ih =>
    by_cases hlt : m < 10
    · exact ⟨m.digitChar, [], Nat.toDigits_of_lt_base hlt, digitChar_ne_zero m hlt hm⟩
    · have hle : 10 ≤ m := by omega
      obtain ⟨c, cs, hdigits, hc⟩ := ih (m / 10) (by omega) (by omega)
      refine ⟨c, cs ++ [(m % 10).digitChar], ?_, hc⟩
      rw [Nat.toDigits_of_base_le (by decide) hle, hdigits, List.cons_append]

lemma Delimited.head_not_digit (h : Delimited rest) :
    rest.takeWhile Char.isDigit = [] ∧ rest.dropWhile Char.isDigit = rest := by
  cases rest with
  | nil => exact ⟨rfl, rfl⟩
  | cons c cs =>
    have hc : c.isDigit = false := by
      rcases h c cs rfl with rfl | rfl | rfl <;> decide
    simp [List.takeWhile, List.dropWhile, hc]

lemma spanInteger_toDigits (hrest : Delimited rest) :
    spanInteger (Nat.toDigits 10 m ++ rest) = (Nat.toDigits 10 m, rest) := by
  by_cases hm : m = 0
  · subst hm
    rfl
  · obtain ⟨c, cs, hdigits, hc⟩ := toDigits_head hm
    have hall : ∀ d ∈ c :: cs, d.isDigit = true := fun d hd =>
      toDigits_all_digit (hdigits ▸ hd)
    obtain ⟨htake, hdrop⟩ := hrest.head_not_digit
    rw [hdigits]
    simp only [List.cons_append, spanInteger, if_neg hc]
    rw [← List.cons_append, List.takeWhile_append_of_pos hall, List.dropWhile_append_of_pos hall,
      htake, hdrop, List.append_nil]

lemma Delimited.spanFraction (h : Delimited rest) :
    spanFraction rest = ([], rest) := by
  cases rest with
  | nil => rfl
  | cons c cs =>
    have hc : c ≠ '.' := by
      rcases h c cs rfl with rfl | rfl | rfl <;> decide
    simp [Json.spanFraction, hc]

lemma Delimited.spanExponent (h : Delimited rest) :
    spanExponent rest = ([], rest) := by
  cases rest with
  | nil => rfl
  | cons c cs =>
    have hc : ¬ (c = 'e' ∨ c = 'E') := by
      rcases h c cs rfl with rfl | rfl | rfl <;> decide
    simp [Json.spanExponent, hc]

lemma parseUnsigned_toDigits (hooks : ParseHooks ε) (negative : Bool)
    (hm : (Nat.toDigits 10 m).length ≤ maxStrDigits) (hrest : Delimited rest) :
    parseUnsigned hooks negative (Nat.toDigits 10 m ++ rest) =
      .ok (int (if negative then -(m : ℤ) else m), rest) := by
  unfold parseUnsigned
  simp only [spanInteger_toDigits hrest, hrest.spanFraction, hrest.spanExponent,
    if_neg Nat.toDigits_ne_nil, if_neg (Nat.not_lt.mpr hm), and_self, if_true,
    Nat.ofDigitChars_ten_toDigits]

lemma printInt_head (n : ℤ) :
    ∃ c cs, printInt n = c :: cs ∧ (c = '-' ∨ c.isDigit = true) := by
  unfold printInt
  split
  · exact ⟨_, _, rfl, Or.inl rfl⟩
  · cases hdigits : Nat.toDigits 10 n.natAbs with
    | nil => exact absurd hdigits Nat.toDigits_ne_nil
    | cons c cs =>
      have hc : c ∈ Nat.toDigits 10 n.natAbs := by
        rw [hdigits]
        exact List.mem_cons_self
      exact ⟨c, cs, rfl, Or.inr (toDigits_all_digit hc)⟩

/-! ## Values -/

lemma skipSpace_of_head (hc : isSpace c = false) :
    skipSpace (c :: cs) = c :: cs := by
  simp [skipSpace, List.dropWhile, hc]

/-- A printed value begins with none of the characters that end or separate values. -/
def BeginsValue (c : Char) : Prop :=
  isSpace c = false ∧ c ≠ ']' ∧ c ≠ '}'

instance : DecidablePred BeginsValue := fun c =>
  inferInstanceAs (Decidable (isSpace c = false ∧ c ≠ ']' ∧ c ≠ '}'))

lemma beginsValue_of_digit (hc : c.isDigit = true) : BeginsValue c := by
  refine ⟨?_, ?_, ?_⟩
  · by_contra hspace
    simp only [isSpace, Bool.not_eq_false, Bool.or_eq_true, decide_eq_true_eq] at hspace
    rcases hspace with ((rfl | rfl) | rfl) | rfl <;> exact absurd hc (by decide)
  · rintro rfl
    exact absurd hc (by decide)
  · rintro rfl
    exact absurd hc (by decide)

lemma print_eq_cons (hv : v.Exact) : ∃ c cs, print v = c :: cs ∧ BeginsValue c := by
  cases v with
  | null | str s => exact ⟨_, _, rfl, by decide⟩
  | bool b => cases b <;> exact ⟨_, _, rfl, by decide⟩
  | int n =>
    obtain ⟨c, cs, hprint, hc⟩ := printInt_head n
    refine ⟨c, cs, hprint, ?_⟩
    rcases hc with rfl | hc
    · decide
    · exact beginsValue_of_digit hc
  | float text => exact hv.elim
  | arr items => cases items <;> exact ⟨_, _, rfl, by decide⟩
  | obj members => cases members <;> exact ⟨_, _, rfl, by decide⟩

lemma parseNumber_printInt (hooks : ParseHooks ε) {n : ℤ}
    (hn : (Nat.toDigits 10 n.natAbs).length ≤ maxStrDigits) (hrest : Delimited rest) :
    parseNumber hooks (printInt n ++ rest) = .ok (int n, rest) := by
  obtain ⟨c, cs, hdigits⟩ := List.exists_cons_of_ne_nil (Nat.toDigits_ne_nil (n := n.natAbs))
  have hc : c.isDigit = true := by
    refine toDigits_all_digit (m := n.natAbs) ?_
    rw [hdigits]
    exact List.mem_cons_self
  unfold printInt
  by_cases hneg : n < 0
  · have hvalue : -(n.natAbs : ℤ) = n := by omega
    have hunsigned := parseUnsigned_toDigits hooks true hn hrest
    rw [if_pos rfl, hvalue] at hunsigned
    rw [if_pos hneg, ← hunsigned, hdigits, parseNumber.eq_def]
    split
    next h => cases h
    next h => cases h
    next h =>
      obtain ⟨rfl, -⟩ := List.cons.inj (List.cons.inj h).2
      exact absurd hc (by decide)
    next h => exact congrArg _ (List.cons.inj h).2.symm
    next h => exact absurd rfl (h _)
  · have hvalue : (n.natAbs : ℤ) = n := by omega
    have hunsigned := parseUnsigned_toDigits hooks false hn hrest
    rw [if_neg (by decide), hvalue] at hunsigned
    rw [if_neg hneg, ← hunsigned, hdigits, parseNumber.eq_def]
    split
    next h =>
      obtain ⟨rfl, -⟩ := List.cons.inj h
      exact absurd hc (by decide)
    next h =>
      obtain ⟨rfl, -⟩ := List.cons.inj h
      exact absurd hc (by decide)
    next h =>
      obtain ⟨rfl, -⟩ := List.cons.inj h
      exact absurd hc (by decide)
    next h =>
      obtain ⟨rfl, -⟩ := List.cons.inj h
      exact absurd hc (by decide)
    next h => rfl

lemma parseValue_of_digit {n : ℕ} (hc : c = '-' ∨ c.isDigit = true) :
    parseValue hooks (n + 1) (c :: cs) = parseNumber hooks (c :: cs) := by
  have hne : ∀ d, d ≠ '-' ∧ d.isDigit = false → c ≠ d := by
    rintro d ⟨hminus, hdigit⟩ rfl
    rcases hc with hc | hc
    · exact hminus hc
    · rw [hdigit] at hc
      cases hc
  rw [parseValue, if_neg (hne '"' (by decide)), if_neg (hne '{' (by decide)),
    if_neg (hne '[' (by decide)), if_neg (fun h => hne 'n' (by decide) h.1),
    if_neg (fun h => hne 't' (by decide) h.1), if_neg (fun h => hne 'f' (by decide) h.1)]

/-! ## Steps of the decoder -/

section Steps

variable {hooks : ParseHooks ε} {n : ℕ} {cs rest rest' : List Char}

lemma parseValue_string {s : String} (h : parseString n cs = some (s, rest)) :
    parseValue hooks (n + 1) ('"' :: cs) = .ok (str s, rest) := by
  have hstep : parseValue hooks (n + 1) ('"' :: cs) =
      (hooks.lift (parseString n cs)).map fun (s, rest) => (str s, rest) := rfl
  rw [hstep, h]
  rfl

variable {xs : List Json} {ms : List (String × Json)} {x : Json}

lemma parseValue_items (hc : BeginsValue c) (h : parseItems hooks n (c :: cs) = .ok (xs, rest)) :
    parseValue hooks (n + 2) ('[' :: c :: cs) = .ok (arr xs, rest) := by
  have hstep : parseValue hooks (n + 2) ('[' :: c :: cs) =
      parseArray hooks (n + 1) (skipSpace (c :: cs)) := rfl
  rw [hstep, skipSpace_of_head hc.1, parseArray, if_neg hc.2.1, h]
  rfl

lemma parseValue_members (hhooks : hooks.pairs ms = .ok ms)
    (h : parseMembers hooks n ('"' :: cs) = .ok (ms, rest)) :
    parseValue hooks (n + 2) ('{' :: '"' :: cs) = .ok (obj ms, rest) := by
  have hstep : parseValue hooks (n + 2) ('{' :: '"' :: cs) =
      (parseMembers hooks n ('"' :: cs)).bind fun (ms, rest) =>
        (hooks.pairs ms).bind fun ms => .ok (obj ms, rest) := rfl
  rw [hstep, h]
  change ((hooks.pairs ms).bind fun ms => .ok (obj ms, rest)) = _
  rw [hhooks]
  rfl

lemma parseItems_last (h : parseValue hooks n cs = .ok (x, ']' :: rest)) :
    parseItems hooks (n + 1) cs = .ok ([x], rest) := by
  rw [parseItems, h]
  rfl

lemma parseItems_more (hc : BeginsValue c) (h : parseValue hooks n cs = .ok (x, ',' :: c :: rest))
    (hrest : parseItems hooks n (c :: rest) = .ok (xs, rest')) :
    parseItems hooks (n + 1) cs = .ok (x :: xs, rest') := by
  have hstep : parseItems hooks (n + 1) cs =
      (parseItems hooks n (skipSpace (c :: rest))).bind fun (xs, rest) =>
        Except.ok (x :: xs, rest) := by
    rw [parseItems, h]
    rfl
  rw [hstep, skipSpace_of_head hc.1, hrest]
  rfl

lemma parseMember_colon {k : String} (hc : BeginsValue c)
    (h : parseString n cs = some (k, ':' :: c :: rest))
    (hvalue : parseValue hooks n (c :: rest) = .ok (x, rest')) :
    parseMember hooks (n + 1) ('"' :: cs) = .ok ((k, x), rest') := by
  have hstep : parseMember hooks (n + 1) ('"' :: cs) =
      (parseValue hooks n (skipSpace (c :: rest))).bind fun (x, rest) =>
        Except.ok ((k, x), rest) := by
    rw [parseMember, h]
    rfl
  rw [hstep, skipSpace_of_head hc.1, hvalue]
  rfl

lemma parseMembers_last {m : String × Json}
    (h : parseMember hooks n cs = .ok (m, '}' :: rest)) :
    parseMembers hooks (n + 1) cs = .ok ([m], rest) := by
  rw [parseMembers, h]
  rfl

lemma parseMembers_more {m : String × Json}
    (h : parseMember hooks n cs = .ok (m, ',' :: '"' :: rest))
    (hrest : parseMembers hooks n ('"' :: rest) = .ok (ms, rest')) :
    parseMembers hooks (n + 1) cs = .ok (m :: ms, rest') := by
  have hstep : parseMembers hooks (n + 1) cs =
      (parseMembers hooks n ('"' :: rest)).bind fun (ms, rest) => Except.ok (m :: ms, rest) := by
    rw [parseMembers, h]
    rfl
  rw [hstep, hrest]
  rfl

end Steps

/-! ## The round trip -/

section RoundTrip

variable {hooks : ParseHooks ε}

mutual

/-- The decoder reads back what the encoder printed, and leaves what follows. -/
theorem parseValue_print (hhooks : hooks.Lossless) : ∀ (v : Json) (n : ℕ) (rest : List Char),
    v.Exact → 2 * (print v).length < n → Delimited rest →
    parseValue hooks n (print v ++ rest) = .ok (v, rest)
  | null, n + 1, rest, _, _, _ => rfl
  | bool true, n + 1, rest, _, _, _ => rfl
  | bool false, n + 1, rest, _, _, _ => rfl
  | int k, n + 1, rest, hv, _, hrest => by
    obtain ⟨c, cs, hprint, hc⟩ := printInt_head k
    have hparse := parseNumber_printInt hooks hv hrest
    rw [hprint] at hparse
    rw [print, hprint, List.cons_append, parseValue_of_digit hc, ← List.cons_append, hparse]
  | float text, n + 1, rest, hv, _, _ => hv.elim
  | str s, n + 1, rest, _, hn, _ => by
    simp only [print, printString, List.length_cons] at hn
    exact parseValue_string (parseString_printChars rest (by omega))
  | arr [], n + 2, rest, _, _, _ => rfl
  | arr (x :: xs), n + 2, rest, hv, hn, _ => by
    obtain ⟨c, cs, hprint, hc⟩ := print_eq_cons hv.1
    simp only [print, List.length_cons, List.length_append] at hn
    have hitems := parseItems_print hhooks xs x n rest hv.1 hv.2
      (by simp only [List.length_append]; omega)
    simp only [print, hprint, List.cons_append, List.append_assoc] at hitems ⊢
    exact parseValue_items hc hitems
  | obj [], n + 2, rest, _, _, _ => by
    have hstep : parseValue hooks (n + 2) (print (obj []) ++ rest) =
        (hooks.pairs []).map fun ms => (obj ms, rest) := rfl
    rw [hstep, hhooks [] List.nodup_nil]
    rfl
  | obj ((k, x) :: ms), n + 2, rest, hv, hn, _ => by
    simp only [print, List.length_cons, List.length_append] at hn
    have hmembers := parseMembers_print hhooks ms k x n rest hv.2.1 hv.2.2
      (by simp only [List.length_append, List.length_cons]; omega)
    simp only [print, printString, List.cons_append, List.append_assoc] at hmembers ⊢
    exact parseValue_members (hhooks _ hv.1) hmembers
  | arr [], 1, _, _, hn, _ => by simp [print] at hn
  | arr (_ :: _), 1, _, _, hn, _ => by simp [print] at hn
  | obj [], 1, _, _, hn, _ => by simp [print] at hn
  | obj (_ :: _), 1, _, _, hn, _ => by simp [print] at hn
  | _, 0, _, _, hn, _ => absurd hn (Nat.not_lt_zero _)

theorem parseItems_print (hhooks : hooks.Lossless) : ∀ (xs : List Json) (x : Json) (n : ℕ)
    (rest : List Char), x.Exact → ExactItems xs → 2 * (print x ++ printItems xs).length ≤ n →
    parseItems hooks n (print x ++ (printItems xs ++ rest)) = .ok (x :: xs, rest)
  | [], x, n + 1, rest, hx, _, hn => by
    simp only [printItems, List.length_append, List.length_singleton] at hn
    exact parseItems_last (parseValue_print hhooks x n (']' :: rest) hx (by omega)
      (delimited_printItems [] rest))
  | y :: ys, x, n + 1, rest, hx, hys, hn => by
    obtain ⟨c, cs, hprint, hc⟩ := print_eq_cons hys.1
    simp only [printItems, List.length_append, List.length_cons] at hn
    have hvalue := parseValue_print hhooks x n (printItems (y :: ys) ++ rest) hx (by omega)
      (delimited_printItems _ _)
    have hitems := parseItems_print hhooks ys y n rest hys.1 hys.2
      (by simp only [List.length_append]; omega)
    simp only [printItems, hprint, List.cons_append, List.append_assoc] at hvalue hitems ⊢
    exact parseItems_more hc hvalue hitems
  | [], x, 0, rest, _, _, hn => by simp [printItems] at hn
  | _ :: _, x, 0, rest, _, _, hn => by simp [printItems] at hn

theorem parseMember_print (hhooks : hooks.Lossless) : ∀ (k : String) (x : Json) (n : ℕ)
    (rest : List Char), x.Exact → 2 * (printString k ++ ':' :: print x).length ≤ n →
    Delimited rest →
    parseMember hooks n (printString k ++ ':' :: (print x ++ rest)) = .ok ((k, x), rest)
  | k, x, n + 1, rest, hx, hn, hrest => by
    obtain ⟨c, cs, hprint, hc⟩ := print_eq_cons hx
    simp only [printString, List.length_append, List.length_cons] at hn
    have hkey := parseString_printChars (s := k) (n := n) (':' :: (print x ++ rest)) (by omega)
    have hvalue := parseValue_print hhooks x n rest hx (by omega) hrest
    simp only [printString, hprint, List.cons_append] at hkey hvalue ⊢
    exact parseMember_colon hc hkey hvalue
  | k, x, 0, rest, _, hn, _ => by simp [printString] at hn

theorem parseMembers_print (hhooks : hooks.Lossless) : ∀ (ms : List (String × Json)) (k : String)
    (x : Json) (n : ℕ) (rest : List Char), x.Exact → ExactMembers ms →
    2 * (printString k ++ ':' :: (print x ++ printMembers ms)).length ≤ n →
    parseMembers hooks n (printString k ++ ':' :: (print x ++ (printMembers ms ++ rest))) =
      .ok ((k, x) :: ms, rest)
  | [], k, x, n + 1, rest, hx, _, hn => by
    simp only [printMembers, List.length_append, List.length_cons, List.length_nil] at hn
    exact parseMembers_last (parseMember_print hhooks k x n ('}' :: rest) hx
      (by simp only [List.length_append, List.length_cons]; omega)
      (delimited_printMembers [] rest))
  | (k', y) :: ms, k, x, n + 1, rest, hx, hms, hn => by
    simp only [printMembers, List.length_append, List.length_cons] at hn
    have hmember := parseMember_print hhooks k x n (printMembers ((k', y) :: ms) ++ rest) hx
      (by simp only [List.length_append, List.length_cons]; omega)
      (delimited_printMembers _ _)
    have hmembers := parseMembers_print hhooks ms k' y n rest hms.1 hms.2
      (by simp only [List.length_append, List.length_cons]; omega)
    simp only [printMembers, printString, List.cons_append, List.append_assoc]
      at hmember hmembers ⊢
    exact parseMembers_more hmember hmembers
  | [], _, _, 0, _, _, _, hn => by simp [printString] at hn
  | _ :: _, _, _, 0, _, _, _, hn => by simp [printString] at hn

end

end RoundTrip

/-! ## Sorted values -/

lemma keyLE_trans {a b c : String × Json} (hab : keyLE a b) (hbc : keyLE b c) : keyLE a c :=
  le_trans (α := String) hab hbc

instance : IsTrans (String × Json) keyLE := ⟨fun _ _ _ => keyLE_trans⟩

instance : Std.Total (α := String × Json) keyLE := ⟨fun a b => le_total a.1 b.1⟩

lemma sortedMembers_eq_map (ms : List (String × Json)) :
    sortedMembers ms = ms.map fun m => (m.1, sorted m.2) := by
  induction ms with
  | nil => rfl
  | cons m ms ih =>
    obtain ⟨k, x⟩ := m
    rw [sortedMembers, ih, List.map_cons]

lemma sortedMembers_insertionSort (ms : List (String × Json)) :
    sortedMembers (ms.insertionSort keyLE) = (sortedMembers ms).insertionSort keyLE := by
  rw [sortedMembers_eq_map, sortedMembers_eq_map]
  exact List.map_insertionSort keyLE keyLE _ ms fun _ _ _ _ => Iff.rfl

lemma keys_sortedMembers (ms : List (String × Json)) :
    (sortedMembers ms).map Prod.fst = ms.map Prod.fst := by
  rw [sortedMembers_eq_map, List.map_map]
  rfl

mutual

/-- Sorting twice is sorting once. -/
theorem sorted_sorted : ∀ v : Json, sorted (sorted v) = sorted v
  | null => rfl
  | bool _ => rfl
  | int _ => rfl
  | float _ => rfl
  | str _ => rfl
  | arr items => congrArg arr (sortedItems_sortedItems items)
  | obj members => by
    have hsorted := List.pairwise_insertionSort keyLE (sortedMembers members)
    simp only [sorted, sortedMembers_insertionSort, sortedMembers_sortedMembers members,
      hsorted.insertionSort_eq]

theorem sortedItems_sortedItems : ∀ xs : List Json, sortedItems (sortedItems xs) = sortedItems xs
  | [] => rfl
  | x :: xs => congrArg₂ List.cons (sorted_sorted x) (sortedItems_sortedItems xs)

theorem sortedMembers_sortedMembers : ∀ ms : List (String × Json),
    sortedMembers (sortedMembers ms) = sortedMembers ms
  | [] => rfl
  | (k, x) :: ms =>
    congrArg₂ List.cons (congrArg (Prod.mk k) (sorted_sorted x)) (sortedMembers_sortedMembers ms)

end

lemma exactMembers_iff :
    ExactMembers ms ↔ ∀ m ∈ ms, m.2.Exact := by
  induction ms with
  | nil => simp [ExactMembers]
  | cons m ms ih =>
    obtain ⟨k, x⟩ := m
    simp [ExactMembers, ih]

mutual

/-- Sorting keeps a value exact. -/
theorem exact_sorted : ∀ v : Json, v.Exact → (sorted v).Exact
  | null, h => h
  | bool _, h => h
  | int _, h => h
  | float _, h => h
  | str _, h => h
  | arr items, h => exactItems_sortedItems items h
  | obj members, ⟨hkeys, hmembers⟩ => by
    have hperm := List.perm_insertionSort keyLE (sortedMembers members)
    refine ⟨?_, ?_⟩
    · rw [(hperm.map Prod.fst).nodup_iff, keys_sortedMembers]
      exact hkeys
    · have hexact := exactMembers_iff.mp (exactMembers_sortedMembers members hmembers)
      exact exactMembers_iff.mpr fun m hm => hexact m (hperm.mem_iff.mp hm)

theorem exactItems_sortedItems : ∀ xs : List Json, ExactItems xs → ExactItems (sortedItems xs)
  | [], h => h
  | x :: xs, h => ⟨exact_sorted x h.1, exactItems_sortedItems xs h.2⟩

theorem exactMembers_sortedMembers : ∀ ms : List (String × Json),
    ExactMembers ms → ExactMembers (sortedMembers ms)
  | [], h => h
  | (_, x) :: ms, h => ⟨exact_sorted x h.1, exactMembers_sortedMembers ms h.2⟩

end

lemma dumps_sorted (v : Json) : dumps (sorted v) = dumps v := by
  unfold dumps
  rw [sorted_sorted]

/-- **Round trip.**  A text that `json.dumps` wrote is read as the sorted value. -/
theorem loads_dumps (hhooks : hooks.Lossless) (hv : v.Exact) :
    loads hooks (dumps v) = .ok (sorted v) := by
  have hexact := exact_sorted v hv
  obtain ⟨c, cs, hprint, hc⟩ := print_eq_cons hexact
  have hvalue := parseValue_print hhooks (sorted v) (2 * (print (sorted v)).length + 1) [] hexact
    (Nat.lt_succ_self _) delimited_nil
  unfold loads dumps parse
  rw [String.toList_ofList]
  rw [List.append_nil] at hvalue
  rw [hprint, skipSpace_of_head hc.1, ← hprint, hvalue]
  rfl

/-- A text determines its value up to the order of members. -/
theorem dumps_injective {w : Json} (hv : v.Exact) (hw : w.Exact) (h : dumps v = dumps w) :
    sorted v = sorted w := by
  let hooks : ParseHooks Unit := ⟨.ok, fun _ => .error (), (), ()⟩
  have hhooks : hooks.Lossless := fun _ _ => rfl
  have hloads := loads_dumps hhooks hv
  rw [h, loads_dumps hhooks hw] at hloads
  exact (Except.ok.inj hloads).symm

/-! ## Members -/

/-- The value of a key in an object. -/
def get? (key : String) : Json → Option Json
  | obj ms => (ms.find? fun m => m.1 = key).map Prod.snd
  | _ => none

lemma find?_eq_some_of_mem (hkeys : (ms.map Prod.fst).Nodup)
    {k : String} {x : Json} (h : (k, x) ∈ ms) :
    (ms.find? fun m => m.1 = k) = some (k, x) := by
  induction ms with
  | nil => cases h
  | cons m ms ih =>
    rw [List.map_cons, List.nodup_cons] at hkeys
    rcases List.mem_cons.mp h with rfl | h
    · exact List.find?_cons_of_pos (by simp)
    · have hne : m.1 ≠ k := by
        rintro rfl
        exact hkeys.1 (List.mem_map.mpr ⟨_, h, rfl⟩)
      rw [List.find?_cons_of_neg (by simpa using hne)]
      exact ih hkeys.2 h

/-- The order of members does not matter to what a key stands for. -/
lemma get?_sorted (hv : v.Exact) (key : String) :
    get? key (sorted v) = (get? key v).map sorted := by
  cases v with
  | null => rfl
  | bool b => rfl
  | int n => rfl
  | float text => rfl
  | str s => rfl
  | arr items => rfl
  | obj ms =>
    have hperm := List.perm_insertionSort keyLE (sortedMembers ms)
    have hsorted := exact_sorted (obj ms) hv
    change ((((sortedMembers ms).insertionSort keyLE).find? fun m => m.1 = key).map Prod.snd) =
      ((ms.find? fun m => m.1 = key).map Prod.snd).map sorted
    cases hfind : ms.find? fun m => m.1 = key with
    | none =>
      have hnone : (((sortedMembers ms).insertionSort keyLE).find? fun m => m.1 = key) = none := by
        rw [List.find?_eq_none] at hfind ⊢
        intro m hm
        rw [hperm.mem_iff, sortedMembers_eq_map, List.mem_map] at hm
        obtain ⟨m', hm', rfl⟩ := hm
        exact hfind m' hm'
      rw [hnone]
      rfl
    | some m =>
      have hkey : m.1 = key := by simpa using List.find?_some hfind
      have hmem : (key, sorted m.2) ∈ (sortedMembers ms).insertionSort keyLE := by
        rw [hperm.mem_iff, sortedMembers_eq_map, List.mem_map]
        exact ⟨m, List.mem_of_find?_eq_some hfind, by rw [hkey]⟩
      rw [find?_eq_some_of_mem hsorted.1 hmem]
      rfl

end Json
