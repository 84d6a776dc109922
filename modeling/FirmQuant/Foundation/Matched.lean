import Mathlib.Data.List.Forall2

/-!
# Lists that match element by element

Rules for `List.Forall₂`: how two matches compose, and what a match carries from one list to the
other.
-/

namespace Matched

variable {α β γ : Type} {R : α → β → Prop} {S : β → γ → Prop} {T : α → γ → Prop}

variable {as : List α} {bs : List β}

variable (hR : List.Forall₂ R as bs)

include hR

lemma forall₂_comp {cs : List γ} (hS : List.Forall₂ S bs cs) (h : ∀ a b c, R a b → S b c → T a c) :
    List.Forall₂ T as cs := by
  induction hR generalizing cs with
  | nil =>
    cases hS
    exact .nil
  | cons hab _ ih =>
    cases hS with
    | cons hbc hrest => exact .cons (h _ _ _ hab hbc) (ih hrest)

lemma exists_of_forall₂ :
    ∀ b ∈ bs, ∃ a ∈ as, R a b := by
  induction hR with
  | nil => exact fun b hb => absurd hb List.not_mem_nil
  | cons hab _ ih =>
    intro b hb
    rcases List.mem_cons.mp hb with rfl | hb
    · exact ⟨_, List.mem_cons_self, hab⟩
    · obtain ⟨a, ha, hab'⟩ := ih b hb
      exact ⟨a, List.mem_cons_of_mem _ ha, hab'⟩

/-- A relation between neighbours of one list holds of the matching elements of the other. -/
lemma pairwise_of_forall₂ {P : α → α → Prop} {Q : β → β → Prop} (hP : as.Pairwise P)
    (h : ∀ a a' b b', R a b → R a' b' → P a a' → Q b b') : bs.Pairwise Q := by
  induction hR with
  | nil => exact .nil
  | @cons a b as bs hab hrest ih =>
    obtain ⟨hfirst, htail⟩ := List.pairwise_cons.mp hP
    refine List.pairwise_cons.mpr ⟨fun b' hb' => ?_, ih htail⟩
    obtain ⟨a', ha', hab'⟩ := exists_of_forall₂ hrest b' hb'
    exact h _ _ _ _ hab hab' (hfirst a' ha')

lemma exists_right_of_forall₂ :
    ∀ a ∈ as, ∃ b ∈ bs, R a b :=
  exists_of_forall₂ (R := flip R) hR.flip

omit hR

lemma exists_forall₂ (h : ∀ a ∈ as, ∃ b, R a b) : ∃ bs, List.Forall₂ R as bs := by
  induction as with
  | nil => exact ⟨[], .nil⟩
  | cons a as ih =>
    obtain ⟨⟨b, hb⟩, hrest⟩ := List.forall_mem_cons.mp h
    obtain ⟨bs, hbs⟩ := ih hrest
    exact ⟨b :: bs, .cons hb hbs⟩

/-- Two lists have one image exactly if they match by their images. -/
lemma map_eq_map_iff_forall₂ {f : α → γ} {g : β → γ} :
    as.map f = bs.map g ↔ List.Forall₂ (fun a b => f a = g b) as bs := by
  rw [← List.forall₂_map_right_iff (R := fun a c => f a = c), ← List.forall₂_map_left_iff (R := Eq),
    List.forall₂_eq_eq_eq]

end Matched
