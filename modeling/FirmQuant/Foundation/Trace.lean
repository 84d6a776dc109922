import Mathlib.Data.List.Infix
import Mathlib.Tactic.Common

/-!
# Traces

A trace grows at its end.  A rule on a trace that speaks of an entry and of the entries before it
is kept by one more entry if that entry obeys the rule at the end of the trace.
-/

lemma List.mem_snoc {α : Type*} {l : List α} {x y : α} : x ∈ l ++ [y] ↔ x ∈ l ∨ x = y := by
  rw [List.mem_append, List.mem_singleton]

/-- One more key that is new. -/
lemma List.nodup_map_snoc {α β : Type*} {f : α → β} {l : List α} {x : α} :
    ((l ++ [x]).map f).Nodup ↔ (l.map f).Nodup ∧ ∀ y ∈ l, f y ≠ f x := by
  simp [List.nodup_append]

namespace Trace

variable {α : Type} {l before after : List α} {x y : α}

/-- Split a list with one more element at an element before its end. -/
lemma concat_eq_append_cons (h : l ++ [y] = before ++ x :: after) :
    (after = [] ∧ y = x ∧ l = before) ∨ ∃ rest, after = rest ++ [y] ∧ l = before ++ x :: rest := by
  rcases after.eq_nil_or_concat with rfl | ⟨rest, z, rfl⟩
  · obtain ⟨hl, hy⟩ := List.append_inj' h rfl
    exact .inl ⟨rfl, by simpa using hy, hl⟩
  · have hsplit : l ++ [y] = (before ++ x :: rest) ++ [z] := by
      rw [h]
      simp
    obtain ⟨hl, hz⟩ := List.append_inj' hsplit rfl
    obtain rfl : y = z := by simpa using hz
    exact .inr ⟨rest, by simp, hl⟩

/-- Every entry of the trace obeys the rule `R`, which looks at the entries before it. -/
def Obeys (R : List α → α → Prop) (trace : List α) : Prop :=
  ∀ before x after, trace = before ++ x :: after → R before x

variable {R : List α → α → Prop} {trace : List α}

lemma obeys_nil : Obeys R [] := by
  intro before x after h
  simp at h

lemma Obeys.append (h : Obeys R trace) (hx : R trace x) : Obeys R (trace ++ [x]) := by
  intro before y after hsplit
  rcases concat_eq_append_cons hsplit with ⟨-, rfl, rfl⟩ | ⟨rest, -, htrace⟩
  · exact hx
  · exact h before y rest htrace

/-- The rule at an entry that is given by its index. -/
lemma Obeys.getElem? (h : Obeys R l) {n : ℕ} (hn : l[n]? = some x) : R (l.take n) x := by
  obtain ⟨hlt, hget⟩ := List.getElem?_eq_some_iff.mp hn
  refine h (l.take n) x (l.drop (n + 1)) ?_
  rw [← hget, List.getElem_cons_drop, List.take_append_drop]

end Trace
