import Mathlib.Tactic.Common

/-!
# Records that pass their checks

A constructor that checks its arguments returns a record or an error.  Here the checks are a
function that names the first one that a record breaks, and the records that the constructor can
return are those that break none.
-/

/-- The records that break no check. -/
abbrev Checked {α ε : Type} (violation : α → Option ε) := {a : α // violation a = none}

namespace Checked

variable {α ε : Type} {violation : α → Option ε}

/-- The constructor. -/
def create (violation : α → Option ε) (a : α) : Except ε (Checked violation) :=
  match h : violation a with
  | none => .ok ⟨a, h⟩
  | some e => .error e

lemma create_eq_ok {a : α} {c : Checked violation} : create violation a = .ok c ↔ c.val = a := by
  unfold create
  constructor
  · intro h
    split at h
    · exact congrArg Subtype.val (Except.ok.inj h).symm
    · cases h
  · rintro rfl
    split
    · rfl
    next e he =>
      rw [c.property] at he
      cases he

lemma create_val (c : Checked violation) : create violation c.val = .ok c := create_eq_ok.mpr rfl

end Checked

/-- The first check of a list that fails. -/
def firstViolation {ε : Type} (checks : List (Option ε)) : Option ε := checks.findSome? id

lemma firstViolation_eq_none {ε : Type} {checks : List (Option ε)} :
    firstViolation checks = none ↔ ∀ check ∈ checks, check = none := by
  unfold firstViolation
  rw [List.findSome?_eq_none_iff]
  rfl
