import Mathlib.Data.List.Basic
import Mathlib.Data.List.Induction
import Mathlib.Tactic.Common

/-!
# Hash chains

A chain is a list of entries, each with a hash, such that every entry is linked to its position and
to the hash of the entry before it.  What a link demands is a parameter.  If a hash determines the
entry and the hash before it, then the last hash determines the whole chain.
-/

namespace HashChain

variable {α η : Type} {link : ℕ → η → α → Prop} {hash : α → η}

/-- Entries from position `n` on that are linked one to the next, after the hash `previous`. -/
def Chained (link : ℕ → η → α → Prop) (hash : α → η) : ℕ → η → List α → Prop
  | _, _, [] => True
  | n, previous, e :: es => link n previous e ∧ Chained link hash (n + 1) (hash e) es

/-- The hash of the last entry, or the hash before all entries. -/
def headHash (hash : α → η) (previous : η) : List α → η
  | [] => previous
  | e :: es => headHash hash (hash e) es

@[simp] lemma headHash_nil (previous : η) : headHash hash previous [] = previous := rfl

lemma headHash_append (previous : η) (es : List α) (e : α) :
    headHash hash previous (es ++ [e]) = hash e := by
  induction es generalizing previous with
  | nil => rfl
  | cons e' es ih => exact ih (hash e')

lemma chained_append {n : ℕ} {previous : η} {es : List α} {e : α} :
    Chained link hash n previous (es ++ [e]) ↔
      Chained link hash n previous es ∧ link (n + es.length) (headHash hash previous es) e := by
  induction es generalizing n previous with
  | nil => simp [Chained]
  | cons e' es ih =>
    have hlength : n + 1 + es.length = n + (es.length + 1) := by omega
    simp only [List.cons_append, Chained, ih, headHash, List.length_cons, hlength, and_assoc]

/-- **Commitment.**  Two chains of one length with one head are the same chain, if a hash determines
its entry and the hash before it. -/
theorem eq_of_headHash {n : ℕ} {previous : η} {es es' : List α}
    (hinj : ∀ n p p' e e', e ∈ es → e' ∈ es' → link n p e → link n p' e' → hash e = hash e' →
      p = p' ∧ e = e')
    (h : Chained link hash n previous es) (h' : Chained link hash n previous es')
    (hlength : es.length = es'.length)
    (hhead : headHash hash previous es = headHash hash previous es') : es = es' := by
  induction es using List.reverseRecOn generalizing es' with
  | nil => exact (List.length_eq_zero_iff.mp hlength.symm).symm
  | append_singleton es e ih =>
    have hne : es' ≠ [] := by
      rintro rfl
      simp at hlength
    obtain ⟨es', e', rfl⟩ := (List.eq_nil_or_concat' es').resolve_left hne
    have hshort : es.length = es'.length := by simpa using hlength
    obtain ⟨hes, he⟩ := chained_append.mp h
    obtain ⟨hes', he'⟩ := chained_append.mp h'
    rw [headHash_append, headHash_append] at hhead
    rw [hshort] at he
    obtain ⟨hprevious, rfl⟩ :=
      hinj _ _ _ e e' (List.mem_append_right _ List.mem_cons_self)
        (List.mem_append_right _ List.mem_cons_self) he he' hhead
    have hsame := ih (fun n p p' a a' ha ha' => hinj n p p' a a' (List.mem_append_left _ ha)
      (List.mem_append_left _ ha')) hes hes' hshort hprevious
    rw [hsame]

end HashChain
