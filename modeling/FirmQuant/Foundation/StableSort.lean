import Mathlib.Data.List.Sort

/-!
# Stable sorting

Insertion sort keeps the order of elements that compare as equal, so that it forgets of a list
exactly the order between different classes.  And a look-up by a key that occurs once does not
depend on the order of a list at all.
-/

/-! ## Sort keys of several parts -/

namespace SortKey

variable {α : Type*} [LinearOrder α] {a b c : α} {P Q R : Prop}

lemma total (h : P ∨ Q) : (a < b ∨ a = b ∧ P) ∨ (b < a ∨ b = a ∧ Q) := by
  rcases lt_trichotomy a b with hlt | heq | hgt
  · exact .inl (.inl hlt)
  · exact h.imp (fun hP => .inr ⟨heq, hP⟩) fun hQ => .inr ⟨heq.symm, hQ⟩
  · exact .inr (.inl hgt)

lemma trans (h : P → Q → R) (hab : a < b ∨ a = b ∧ P) (hbc : b < c ∨ b = c ∧ Q) :
    a < c ∨ a = c ∧ R := by
  rcases hab with hab | ⟨rfl, hP⟩
  · exact .inl (hab.trans_le (hbc.elim le_of_lt fun h => h.1.le))
  · exact hbc.imp_right fun ⟨hbc, hQ⟩ => ⟨hbc, h hP hQ⟩

/-- What comes before each other has one first part. -/
lemma tied (hab : a < b ∨ a = b ∧ P) (hba : b < a ∨ b = a ∧ Q) : a = b ∧ P ∧ Q := by
  rcases hab with hab | ⟨rfl, hP⟩
  · exact absurd hab (hba.elim le_of_lt fun h => h.1.le).not_gt
  · exact ⟨rfl, hP, (hba.resolve_left (lt_irrefl a)).2⟩

end SortKey

namespace List

variable {α κ : Type*}

/-! ## Looking up by a key -/

section Key

variable [DecidableEq κ] {key : α → κ} {k : κ} {l l' : List α}

/-- Where every key occurs once, a look-up finds the member with the key. -/
lemma find?_key_eq_some (hkeys : (l.map key).Nodup) {a : α} :
    l.find? (fun b => key b = k) = some a ↔ a ∈ l ∧ key a = k := by
  induction l with
  | nil => simp
  | cons b l ih =>
    rw [List.map_cons, List.nodup_cons] at hkeys
    by_cases hb : key b = k
    · rw [List.find?_cons_of_pos (by simpa using hb)]
      constructor
      · intro h
        obtain rfl : b = a := Option.some.inj h
        exact ⟨List.mem_cons_self, hb⟩
      · rintro ⟨hmem, ha⟩
        rcases List.mem_cons.mp hmem with rfl | hmem
        · rfl
        · have hdup : key b ∈ l.map key := List.mem_map.mpr ⟨a, hmem, ha.trans hb.symm⟩
          exact absurd hdup hkeys.1
    · rw [List.find?_cons_of_neg (by simpa using hb), ih hkeys.2]
      constructor
      · rintro ⟨hmem, ha⟩
        exact ⟨List.mem_cons_of_mem _ hmem, ha⟩
      · rintro ⟨hmem, ha⟩
        rcases List.mem_cons.mp hmem with rfl | hmem
        · exact absurd ha hb
        · exact ⟨hmem, ha⟩

/-- A look-up by such a key does not depend on the order. -/
lemma find?_key_perm (hkeys : (l.map key).Nodup) (h : l.Perm l') :
    l.find? (fun b => key b = k) = l'.find? (fun b => key b = k) := by
  have hkeys' : (l'.map key).Nodup := (h.map key).nodup_iff.mp hkeys
  refine Option.ext fun a => ?_
  rw [find?_key_eq_some hkeys, find?_key_eq_some hkeys', h.mem_iff]

/-- A part of a list whose members have one key, which occurs once, does not depend on the order. -/
lemma filter_eq_of_perm {p : α → Bool} (hkeys : (l.map key).Nodup) (h : l.Perm l')
    (hp : ∀ a b, p a = true → p b = true → key a = key b) : l.filter p = l'.filter p := by
  have hkept : ((l.filter p).map key).Nodup := hkeys.sublist (List.filter_sublist.map key)
  have hperm : (l.filter p).Perm (l'.filter p) := h.filter p
  have hall : ∀ a ∈ l.filter p, p a = true := fun a ha => (List.mem_filter.mp ha).2
  generalize l.filter p = kept at hkept hperm hall
  match kept with
  | [] => exact (List.Perm.nil_eq hperm)
  | [a] => exact (List.Perm.singleton_eq hperm)
  | a :: b :: rest =>
    have hsame : key a = key b := hp a b (hall a (by simp)) (hall b (by simp))
    rw [List.map_cons, List.map_cons, hsame] at hkept
    exact absurd List.mem_cons_self (List.nodup_cons.mp hkept).1

end Key

/-! ## Relative order -/

section Pairs

variable {l l' : List α} {a b : α}

/-- In a list without repetition one of two elements comes first. -/
lemma Nodup.not_pair_sublist_swap (hl : l.Nodup) (h : [a, b] <+ l) : ¬ [b, a] <+ l := by
  induction l with
  | nil => exact fun _ => absurd h (by simp)
  | cons c l ih =>
    obtain ⟨hc, hl⟩ := List.nodup_cons.mp hl
    intro hswap
    rcases List.cons_sublist_cons'.mp h with hab | ⟨rfl, hb⟩
    · rcases List.cons_sublist_cons'.mp hswap with hba | ⟨rfl, -⟩
      · exact ih hl hab hba
      · exact hc (hab.subset (List.mem_cons_of_mem _ List.mem_cons_self))
    · rcases List.cons_sublist_cons'.mp hswap with hba | ⟨rfl, -⟩
      · exact hc (hba.subset (List.mem_cons_of_mem _ List.mem_cons_self))
      · exact hc (List.singleton_sublist.mp hb)

/-- Lists of the same elements, none of them twice, are equal where every two elements come in the
same order. -/
lemma eq_of_pair_sublists (hl : l'.Nodup) (hperm : l.Perm l')
    (h : ∀ a b, [a, b] <+ l → [a, b] <+ l') : l = l' := by
  refine @List.Perm.eq_of_pairwise _ (fun a b => [a, b] <+ l') _ _ ?_
    (List.pairwise_of_forall_sublist fun {a b} hab => h a b hab)
    (List.pairwise_of_forall_sublist fun {a b} hab => hab) hperm
  intro a b _ _ hab hba
  exact absurd hba (hl.not_pair_sublist_swap hab)

/-- Two neighbours of what a partial function leaves of a list come from two elements in this
order. -/
lemma exists_pair_of_filterMap {β : Type*} {f : α → Option β} {x y : β}
    (h : [x, y] <+ l.filterMap f) : ∃ a b, [a, b] <+ l ∧ f a = some x ∧ f b = some y := by
  obtain ⟨kept, hkept, hpair⟩ := List.sublist_filterMap_iff.mp h
  obtain ⟨before, a, rest, rfl, -, ha, hrest⟩ := List.filterMap_eq_cons_iff.mp hpair.symm
  obtain ⟨between, b, after, rfl, -, hb, -⟩ := List.filterMap_eq_cons_iff.mp hrest
  refine ⟨a, b, List.Sublist.trans ?_ hkept, ha, hb⟩
  have htail : [b] <+ between ++ b :: after := by simp
  exact (htail.cons_cons a).trans (List.sublist_append_right _ _)

end Pairs

/-! ## Stability -/

section Stable

variable (r : α → α → Prop) [DecidableRel r]

/-- Two elements that compare as equal. -/
def Tied (a b : α) : Prop := r a b ∧ r b a

instance : DecidableRel (Tied r) := fun _ _ => inferInstanceAs (Decidable (_ ∧ _))

variable {r}

/-- An element is inserted before those of a class that it precedes. -/
lemma filter_orderedInsert_of_forall {p : α → Bool} {a : α}
    (ha : ∀ b, p b = true → r a b) (l : List α) :
    (l.orderedInsert r a).filter p = (a :: l).filter p := by
  induction l with
  | nil => rfl
  | cons b l ih =>
    rw [List.orderedInsert_cons]
    split
    · rfl
    next hab =>
      -- the element goes past only what is not of the class
      have hb : p b = false := by
        by_contra hpb
        exact hab (ha b (by simpa using hpb))
      rw [List.filter_cons_of_neg (by simp [hb]), ih, List.filter_cons, List.filter_cons,
        List.filter_cons_of_neg (by simp [hb])]

lemma filter_orderedInsert_of_neg {p : α → Bool} {a : α} (ha : p a = false) (l : List α) :
    (l.orderedInsert r a).filter p = l.filter p := by
  induction l with
  | nil => simp [ha]
  | cons b l ih =>
    rw [List.orderedInsert_cons]
    split
    · rw [List.filter_cons_of_neg (by simp [ha])]
    · rw [List.filter_cons, List.filter_cons, ih]

/-- Insertion sort is stable: it keeps every list of tied elements. -/
theorem filter_insertionSort [IsTrans α r] (a : α) (l : List α) :
    (l.insertionSort r).filter (fun b => Tied r a b) = l.filter (fun b => Tied r a b) := by
  induction l with
  | nil => rfl
  | cons c l ih =>
    rw [List.insertionSort_cons]
    by_cases hc : Tied r a c
    · have hfirst : ∀ b, decide (Tied r a b) = true → r c b := fun b hb =>
        IsTrans.trans _ _ _ hc.2 (of_decide_eq_true hb).1
      rw [filter_orderedInsert_of_forall hfirst, List.filter_cons, List.filter_cons, ih]
    · rw [filter_orderedInsert_of_neg (p := fun b => Tied r a b) (decide_eq_false hc), ih,
        List.filter_cons_of_neg (by simpa using hc)]

/-- Two sorted lists are equal where the lists of tied elements are. -/
lemma eq_of_filter_tied [Std.Total r] {l l' : List α} (hl : l.Pairwise r) (hl' : l'.Pairwise r)
    (h : ∀ a, l.filter (fun b => Tied r a b) = l'.filter (fun b => Tied r a b)) : l = l' := by
  have hrefl : ∀ a, Tied r a a := fun a => by
    rcases Std.Total.total (r := r) a a with hle | hle <;> exact ⟨hle, hle⟩
  have hmem : ∀ {m m' : List α}, (∀ a, m.filter (fun b => Tied r a b) =
      m'.filter (fun b => Tied r a b)) → ∀ a ∈ m, a ∈ m' := by
    intro m m' hm a ha
    have hkept : a ∈ m.filter (fun b => Tied r a b) :=
      List.mem_filter.mpr ⟨ha, by simpa using hrefl a⟩
    rw [hm a] at hkept
    exact (List.mem_filter.mp hkept).1
  induction l generalizing l' with
  | nil =>
    cases l' with
    | nil => rfl
    | cons b l' => exact absurd (hmem (fun a => (h a).symm) b List.mem_cons_self) List.not_mem_nil
  | cons a l ih =>
    cases l' with
    | nil => exact absurd (hmem h a List.mem_cons_self) List.not_mem_nil
    | cons b l' =>
      rw [List.pairwise_cons] at hl hl'
      -- the heads are tied, and the first of their class in both lists
      have htied : Tied r a b := by
        constructor
        · rcases List.mem_cons.mp (hmem (fun c => (h c).symm) b List.mem_cons_self) with rfl | hb
          · exact (hrefl _).1
          · exact hl.1 b hb
        · rcases List.mem_cons.mp (hmem h a List.mem_cons_self) with rfl | ha
          · exact (hrefl _).1
          · exact hl'.1 a ha
      have hclass := h a
      rw [List.filter_cons_of_pos (by simpa using hrefl a),
        List.filter_cons_of_pos (by simpa using htied)] at hclass
      obtain rfl : a = b := (List.cons.inj hclass).1
      congr 1
      refine ih hl.2 hl'.2 fun c => ?_
      have htail := h c
      rw [List.filter_cons, List.filter_cons] at htail
      split at htail
      · exact (List.cons.inj htail).2
      · exact htail

/-- What insertion sort forgets is the order between elements that are not tied. -/
theorem insertionSort_eq_iff [Std.Total r] [IsTrans α r] {l l' : List α} :
    l.insertionSort r = l'.insertionSort r ↔
      ∀ a, l.filter (fun b => Tied r a b) = l'.filter (fun b => Tied r a b) := by
  constructor
  · intro h a
    rw [← filter_insertionSort a l, h, filter_insertionSort a l']
  · intro h
    refine eq_of_filter_tied (List.pairwise_insertionSort r l) (List.pairwise_insertionSort r l')
      fun a => ?_
    rw [filter_insertionSort a l, filter_insertionSort a l', h a]

/-- For lists of the same elements this is the order of every two tied elements. -/
theorem insertionSort_eq_iff_of_perm [Std.Total r] [IsTrans α r] {l l' : List α} (hl : l.Nodup)
    (hperm : l.Perm l') : l.insertionSort r = l'.insertionSort r ↔
      ∀ a b, Tied r a b → [a, b] <+ l → [a, b] <+ l' := by
  have hrefl : ∀ a, r a a := fun a => by
    rcases Std.Total.total (r := r) a a with hle | hle <;> exact hle
  rw [insertionSort_eq_iff]
  constructor
  · intro h a b htied hab
    have hpair : [a, b].filter (fun c => Tied r a c) = [a, b] := by
      rw [List.filter_eq_self]
      intro c hc
      simp only [List.mem_cons, List.not_mem_nil, or_false] at hc
      rcases hc with rfl | rfl
      · simpa using ⟨hrefl c, hrefl c⟩
      · simpa using htied
    have hkept := hab.filter fun c => decide (Tied r a c)
    rw [hpair, h a] at hkept
    exact hkept.trans List.filter_sublist
  · intro h a
    refine eq_of_pair_sublists ((hperm.nodup_iff.mp hl).filter _) (hperm.filter _) ?_
    intro b c hbc
    have hb : Tied r a b := by simpa using (List.mem_filter.mp (hbc.subset List.mem_cons_self)).2
    have hc : Tied r a c := by
      simpa using (List.mem_filter.mp (hbc.subset (List.mem_cons_of_mem _ List.mem_cons_self))).2
    have htied : Tied r b c :=
      ⟨IsTrans.trans _ _ _ hb.2 hc.1, IsTrans.trans _ _ _ hc.2 hb.1⟩
    have hpair : [b, c].filter (fun d => Tied r a d) = [b, c] := by
      rw [List.filter_eq_self]
      intro d hd
      simp only [List.mem_cons, List.not_mem_nil, or_false] at hd
      rcases hd with rfl | rfl
      · simpa using hb
      · simpa using hc
    rw [← hpair]
    exact (h b c htied (hbc.trans List.filter_sublist)).filter _

end Stable

end List
