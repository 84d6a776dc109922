import Mathlib.Data.List.DropRight
import FirmQuant.Domain.Facts
import FirmQuant.Foundation.Effect
import FirmQuant.Foundation.IsoDate
import FirmQuant.Foundation.Json

/-!
# Canonical JSON of the ledger

`_json_value` and `canonical_json` of `persistence/repositories.py`.

The code takes any Python object; a `LedgerValue` is such an object as far as the code tells objects
apart.  A text is a `String`, so that a Python text with a lone surrogate, which no UTF-8 text has,
is a value of its own.
-/

namespace FirmQuant

/-- The exceptions of the ledger's JSON and of its audit chain. -/
inductive LedgerError
  | auditChainBroken (message : String)
  | auditPayloadRejected (message : String)
  | persistenceConflict (message : String)
  | integrityError (constraint : String)
  | typeError (message : String)
  | valueError (message : String)
  | unicodeEncodeError
  | overflowError
  deriving DecidableEq, Repr

/-- A finite `Decimal`, as `as_tuple` splits it. -/
structure DecimalTuple where
  negative : Bool
  coefficient : ℕ
  exponent : ℤ
  deriving DecidableEq, Repr

namespace DecimalTuple

/-- The digits before and after the point.  A zero is written with one digit before it. -/
def intAndFraction (d : DecimalTuple) : List Char × List Char :=
  let digits := Nat.toDigits 10 d.coefficient
  let dotplace : ℤ := d.exponent + digits.length
  if d.coefficient = 0 ∧ 0 < d.exponent then (['0'], [])
  else if dotplace < 0 then (['0'], List.replicate dotplace.natAbs '0' ++ digits)
  else if digits.length < dotplace then
    (digits ++ List.replicate (dotplace.toNat - digits.length) '0', [])
  else if dotplace = 0 then (['0'], digits)
  else (digits.take dotplace.toNat, digits.drop dotplace.toNat)

/-- The sign and the digits, with a point before the fraction if there is one. -/
def render (negative : Bool) (integer fraction : List Char) : String :=
  String.ofList ((if negative then ['-'] else []) ++ integer ++
    (if fraction = [] then [] else '.' :: fraction))

/-- `format(value, "f")`. -/
def format (d : DecimalTuple) : String := render d.negative d.intAndFraction.1 d.intAndFraction.2

/-- `_canonical_decimal`: the same without the zeros that end the fraction. -/
def canonical (d : DecimalTuple) : String :=
  render d.negative d.intAndFraction.1 (d.intAndFraction.2.rdropWhile (· = '0'))

end DecimalTuple

/-- A key of a mapping. -/
inductive MappingKey
  | text (s : String)
  /-- A text with a lone surrogate. -/
  | surrogates
  /-- A key that is no text. -/
  | other
  deriving DecidableEq, Repr

/-- A Python object, as `_json_value` tells objects apart. -/
inductive LedgerValue
  | none
  | bool (b : Bool)
  | int (n : ℤ)
  | text (s : String)
  /-- A text with a lone surrogate. -/
  | surrogates
  | float
  | decimal (d : DecimalTuple)
  /-- A `Decimal` that is infinite or not a number. -/
  | nonFiniteDecimal
  | strEnum (value : String)
  | symbol (s : Symbol)
  | money (value : DecimalTuple)
  | price (value : DecimalTuple)
  | shares (value : ℕ)
  | datetime (t : AwareDateTime)
  | naiveDatetime
  | date (d : CalendarDate)
  | mapping (items : List (MappingKey × LedgerValue))
  | list (items : List LedgerValue)
  | tuple (items : List LedgerValue)
  /-- An object of another type. -/
  | unsupported (typeName : String)

namespace LedgerValue

/-- `int.__repr__` refuses integers of too many digits. -/
def jsonInt (n : ℤ) : Except LedgerError Json :=
  if Json.maxStrDigits < (Nat.toDigits 10 n.natAbs).length then
    .error (.valueError "Exceeds the limit (4300 digits) for integer string conversion")
  else .ok (.int n)

/-- `normalized[key] = value`. -/
def insertMember (key : String) (value : Json) : List (String × Json) → List (String × Json)
  | [] => [(key, value)]
  | m :: ms => if m.1 = key then (key, value) :: ms else m :: insertMember key value ms

/-- The text of a key. -/
def jsonKey : MappingKey → Except LedgerError String
  | .text s => .ok s
  | .surrogates => .error .unicodeEncodeError
  | .other => .error (.typeError "canonical ledger JSON object keys must be text")

mutual

/-- `_json_value`, and what `json.dumps` and `encode` refuse of its result. -/
def jsonValue : LedgerValue → Except LedgerError Json
  | none => .ok .null
  | bool b => .ok (.bool b)
  | int n => jsonInt n
  | text s => .ok (.str s)
  | surrogates => .error .unicodeEncodeError
  | float => .error (.typeError "canonical ledger JSON rejects binary float")
  | decimal d => .ok (.str d.format)
  | nonFiniteDecimal => .error (.valueError "canonical ledger JSON rejects non-finite Decimal")
  | strEnum value => .ok (.str value)
  | symbol s => .ok (.str s.canonical)
  | money value => .ok (.str value.canonical)
  | price value => .ok (.str value.canonical)
  | shares value => jsonInt value
  | datetime t => .ok (.str t.isoformat)
  | naiveDatetime => .error (.valueError "canonical ledger JSON requires timezone-aware datetime")
  | date d => .ok (.str d.isoformat)
  | mapping items => do
    let members ← jsonMembers items
    return .obj (members.foldl (fun ms m => insertMember m.1 m.2 ms) [])
  | list items => do
    let values ← jsonItems items
    return .arr values
  | tuple items => do
    let values ← jsonItems items
    return .arr values
  | unsupported typeName =>
    .error (.typeError ("unsupported canonical ledger JSON value: " ++ typeName))
termination_by structural v => v

/-- The items of a list or a tuple. -/
def jsonItems : List LedgerValue → Except LedgerError (List Json)
  | [] => .ok []
  | x :: xs => do
    let v ← jsonValue x
    let vs ← jsonItems xs
    return v :: vs
termination_by structural v => v

/-- The items of a mapping. -/
def jsonMembers : List (MappingKey × LedgerValue) → Except LedgerError (List (String × Json))
  | [] => .ok []
  | (key, x) :: items => do
    let k ← jsonKey key
    let v ← jsonValue x
    let ms ← jsonMembers items
    return (k, v) :: ms
termination_by structural v => v

end

end LedgerValue

/-- `canonical_json`. -/
def canonicalJson (value : LedgerValue) : Except LedgerError String := do
  let v ← value.jsonValue
  return v.dumps

namespace LedgerValue

mutual

/-- What `json.loads` returns, as a Python object. -/
def ofJson : Json → LedgerValue
  | .null => none
  | .bool b => bool b
  | .int n => int n
  | .float _ => float
  | .str s => text s
  | .arr items => list (ofItems items)
  | .obj members => mapping (ofMembers members)
termination_by structural v => v

def ofItems : List Json → List LedgerValue
  | [] => []
  | x :: xs => ofJson x :: ofItems xs
termination_by structural v => v

def ofMembers : List (String × Json) → List (MappingKey × LedgerValue)
  | [] => []
  | (k, x) :: ms => (.text k, ofJson x) :: ofMembers ms
termination_by structural v => v

end

/-! ## What is encoded is exact -/

open Json (Exact ExactItems ExactMembers)

lemma keys_insertMember (key : String) (value : Json) (ms : List (String × Json)) :
    (insertMember key value ms).map Prod.fst =
      if key ∈ ms.map Prod.fst then ms.map Prod.fst else ms.map Prod.fst ++ [key] := by
  induction ms with
  | nil => rfl
  | cons m ms ih =>
    unfold insertMember
    by_cases hm : m.1 = key
    · subst hm
      simp
    · have hne : ¬ key = m.1 := fun h => hm h.symm
      rw [if_neg hm, List.map_cons, ih]
      by_cases hmem : key ∈ ms.map Prod.fst
      · simp [hmem]
      · simp [hmem, hne]

variable {key : String} {value : Json} {ms members : List (String × Json)}

lemma nodup_insertMember (h : (ms.map Prod.fst).Nodup) :
    ((insertMember key value ms).map Prod.fst).Nodup := by
  rw [keys_insertMember]
  split
  · exact h
  · next hnot => exact List.nodup_append.mpr ⟨h, List.nodup_singleton key, by
      intro a ha b hb hab
      rw [List.mem_singleton] at hb
      exact hnot (hb ▸ hab ▸ ha)⟩

lemma exactMembers_insertMember (hvalue : value.Exact) (h : ExactMembers ms) :
    ExactMembers (insertMember key value ms) := by
  induction ms with
  | nil => exact ⟨hvalue, trivial⟩
  | cons m ms ih =>
    obtain ⟨k, x⟩ := m
    unfold insertMember
    split
    · exact ⟨hvalue, h.2⟩
    · exact ⟨h.1, ih h.2⟩

/-- A dictionary built from exact members is exact. -/
lemma exact_foldl_insertMember (h : ExactMembers members) :
    ∀ {ms : List (String × Json)}, (ms.map Prod.fst).Nodup → ExactMembers ms →
      Exact (.obj (members.foldl (fun ms m => insertMember m.1 m.2 ms) ms)) := by
  induction members with
  | nil => exact fun hkeys hms => ⟨hkeys, hms⟩
  | cons m members ih =>
    obtain ⟨k, x⟩ := m
    exact fun hkeys hms => ih h.2 (nodup_insertMember hkeys) (exactMembers_insertMember h.1 hms)

/-- Members with distinct keys are the dictionary that is built from them. -/
lemma foldl_insertMember_eq :
    ∀ {ms : List (String × Json)}, ((ms ++ members).map Prod.fst).Nodup →
      members.foldl (fun ms m => insertMember m.1 m.2 ms) ms = ms ++ members := by
  induction members with
  | nil => exact fun _ => (List.append_nil _).symm
  | cons m members ih =>
    intro ms hkeys
    have hinsert : insertMember m.1 m.2 ms = ms ++ [m] := by
      have hnot : m.1 ∉ ms.map Prod.fst := by
        rw [List.map_append, List.nodup_append] at hkeys
        exact fun hmem => hkeys.2.2 _ hmem _ List.mem_cons_self rfl
      clear hkeys
      induction ms with
      | nil => rfl
      | cons m' ms ihms =>
        rw [List.map_cons, List.mem_cons, not_or] at hnot
        unfold insertMember
        rw [if_neg (fun h => hnot.1 h.symm), ihms hnot.2]
        rfl
    rw [List.foldl_cons, hinsert, ih (by simpa using hkeys), List.append_assoc]
    rfl

lemma exact_jsonInt {n : ℤ} {v : Json} (h : jsonInt n = .ok v) : v.Exact := by
  unfold jsonInt at h
  split at h
  · cases h
  · next hn =>
    cases h
    exact Nat.not_lt.mp hn

lemma except_map_eq_ok {ε α β : Type} {x : Except ε α} {f : α → β} {b : β}
    (h : (x >>= fun a => pure (f a)) = .ok b) : ∃ a, x = .ok a ∧ b = f a := by
  obtain ⟨a, hx, hb⟩ := Effect.bind_ok_iff.mp h
  cases hb
  exact ⟨a, hx, rfl⟩

mutual

/-- Whatever `_json_value` returns is exact. -/
theorem exact_jsonValue : ∀ (value : LedgerValue) {v : Json}, jsonValue value = .ok v → v.Exact
  | none, _, h => by cases h; trivial
  | bool _, _, h => by cases h; trivial
  | int _, _, h => exact_jsonInt h
  | text _, _, h => by cases h; trivial
  | surrogates, _, h => by cases h
  | float, _, h => by cases h
  | decimal _, _, h => by cases h; trivial
  | nonFiniteDecimal, _, h => by cases h
  | strEnum _, _, h => by cases h; trivial
  | symbol _, _, h => by cases h; trivial
  | money _, _, h => by cases h; trivial
  | price _, _, h => by cases h; trivial
  | shares _, _, h => exact_jsonInt h
  | datetime _, _, h => by cases h; trivial
  | naiveDatetime, _, h => by cases h
  | date _, _, h => by cases h; trivial
  | mapping items, _, h => by
    obtain ⟨members, hmembers, rfl⟩ := except_map_eq_ok h
    exact exact_foldl_insertMember (exact_jsonMembers items hmembers) List.nodup_nil trivial
  | list items, _, h => by
    obtain ⟨values, hvalues, rfl⟩ := except_map_eq_ok h
    exact exact_jsonItems items hvalues
  | tuple items, _, h => by
    obtain ⟨values, hvalues, rfl⟩ := except_map_eq_ok h
    exact exact_jsonItems items hvalues
  | unsupported _, _, h => by cases h

theorem exact_jsonItems : ∀ (items : List LedgerValue) {values : List Json},
    jsonItems items = .ok values → ExactItems values
  | [], _, h => by cases h; trivial
  | x :: xs, _, h => by
    obtain ⟨v, hv, h⟩ := Effect.bind_ok_iff.mp h
    obtain ⟨vs, hvs, rfl⟩ := except_map_eq_ok h
    exact ⟨exact_jsonValue x hv, exact_jsonItems xs hvs⟩

theorem exact_jsonMembers : ∀ (items : List (MappingKey × LedgerValue))
    {members : List (String × Json)}, jsonMembers items = .ok members → ExactMembers members
  | [], _, h => by cases h; trivial
  | (key, x) :: items, _, h => by
    obtain ⟨k, hk, h⟩ := Effect.bind_ok_iff.mp h
    obtain ⟨v, hv, h⟩ := Effect.bind_ok_iff.mp h
    obtain ⟨ms, hms, rfl⟩ := except_map_eq_ok h
    exact ⟨exact_jsonValue x hv, exact_jsonMembers items hms⟩

end

mutual

/-- What was read from a text is taken as it is. -/
theorem jsonValue_ofJson : ∀ v : Json, v.Exact → jsonValue (ofJson v) = .ok v
  | .null, _ => rfl
  | .bool _, _ => rfl
  | .int _, h => if_neg (Nat.not_lt.mpr h)
  | .float _, h => h.elim
  | .str _, _ => rfl
  | .arr items, h => by
    have hitems := jsonItems_ofItems items h
    change (jsonItems (ofItems items) >>= fun values => pure (Json.arr values)) = _
    rw [hitems]
    rfl
  | .obj members, h => by
    have hmembers := jsonMembers_ofMembers members h.2
    have hkeys : (([] ++ members).map Prod.fst).Nodup := h.1
    change (jsonMembers (ofMembers members) >>= fun members => pure (Json.obj _)) = _
    rw [hmembers]
    change Except.ok (Json.obj _) = _
    rw [foldl_insertMember_eq hkeys]
    rfl

theorem jsonItems_ofItems : ∀ xs : List Json, ExactItems xs → jsonItems (ofItems xs) = .ok xs
  | [], _ => rfl
  | x :: xs, h => by
    change (jsonValue (ofJson x) >>= fun v => jsonItems (ofItems xs) >>= fun vs => pure _) = _
    rw [jsonValue_ofJson x h.1, jsonItems_ofItems xs h.2]
    rfl

theorem jsonMembers_ofMembers : ∀ ms : List (String × Json),
    ExactMembers ms → jsonMembers (ofMembers ms) = .ok ms
  | [], _ => rfl
  | (k, x) :: ms, h => by
    change (jsonValue (ofJson x) >>= fun v => jsonMembers (ofMembers ms) >>= fun vs => pure _) = _
    rw [jsonValue_ofJson x h.1, jsonMembers_ofMembers ms h.2]
    rfl

end

end LedgerValue

open LedgerValue

lemma canonicalJson_eq_ok {value : LedgerValue} {s : String} :
    canonicalJson value = .ok s ↔ ∃ v, value.jsonValue = .ok v ∧ s = v.dumps := by
  constructor
  · exact except_map_eq_ok
  · rintro ⟨v, hv, rfl⟩
    unfold canonicalJson
    rw [hv]
    rfl

/-- An exact value is encoded by `json.dumps` alone. -/
lemma canonicalJson_ofJson {v : Json} (hv : v.Exact) : canonicalJson (ofJson v) = .ok v.dumps :=
  canonicalJson_eq_ok.mpr ⟨v, jsonValue_ofJson v hv, rfl⟩

/-- Members that are inserted one by one are kept when their keys differ. -/
lemma LedgerValue.lossless {ε : Type} {hooks : Json.ParseHooks ε} (h : ∀ members,
    hooks.pairs members = .ok (members.foldl (fun ms m => insertMember m.1 m.2 ms) [])) :
    hooks.Lossless := fun members hkeys =>
  (h members).trans (congrArg Except.ok (@foldl_insertMember_eq _ [] hkeys))

/-- **Fixed point.**  Canonical JSON is read, and what is read has the same canonical JSON. -/
theorem canonicalJson_loads {ε : Type} {hooks : Json.ParseHooks ε} (hhooks : hooks.Lossless)
    {value : LedgerValue} {s : String} (h : canonicalJson value = .ok s) :
    ∃ v, Json.loads hooks s = .ok v ∧ canonicalJson (ofJson v) = .ok s := by
  obtain ⟨v, hv, rfl⟩ := canonicalJson_eq_ok.mp h
  have hexact := exact_jsonValue value hv
  refine ⟨v.sorted, Json.loads_dumps hhooks hexact, ?_⟩
  rw [canonicalJson_ofJson (Json.exact_sorted v hexact), Json.dumps_sorted]

end FirmQuant
