import FirmQuant.Foundation.Effect

/-!
# Programs that can be cut between their durable steps

A `Durable` program changes a durable state in steps and may raise between them.  It runs on a
`Trail`, which keeps the states that the steps went through; a crash leaves one of them.  A rule
about such a program says what holds wherever a crash can leave it (`C`), besides what holds where
it returns and where it raises.
-/

namespace Effect

/-- The durable state, and the states before it. -/
structure Trail (σ : Type) where
  now : σ
  before : List σ

/-- A program of durable steps. -/
abbrev Durable (ε σ : Type) := EStateM ε (Trail σ)

namespace Durable

variable {ε σ α β : Type}

/-- Read the durable state. -/
def look : Durable ε σ σ := do
  let t ← get
  return t.now

/-- One durable step. -/
def step (f : σ → σ) : Durable ε σ PUnit := modify fun t => ⟨f t.now, t.now :: t.before⟩

/-- A look at the durable state that may fail. -/
def check (f : σ → Except ε α) : Durable ε σ α := fun t =>
  match f t.now with
  | .ok a => .ok a t
  | .error e => .error e t

/-- The states in which a crash can leave a program, the one where it ends included. -/
def crashStates (x : Durable ε σ α) (s : σ) : List σ :=
  (finalState (x ⟨s, []⟩)).now :: (finalState (x ⟨s, []⟩)).before

/-- Started in `s`, the program returns `a` in state `t`. -/
def Returns (x : Durable ε σ α) (s : σ) (a : α) (t : σ) : Prop :=
  ∃ before, x ⟨s, []⟩ = .ok a ⟨t, before⟩

/-- The state is one of `P`, and a crash before left one of `C`. -/
def Through (C P : σ → Prop) (t : Trail σ) : Prop := P t.now ∧ ∀ s ∈ t.before, C s

section Rules

variable {C P P' : σ → Prop} {Q : α → σ → Prop} {E : ε → Trail σ → Prop} {x : Durable ε σ α}
  {s : σ}

lemma Through.imp {t : Trail σ} (h : Through C P t) (hP : ∀ s, P s → P' s) : Through C P' t :=
  ⟨hP _ h.1, h.2⟩

variable {R : α → Trail σ → Prop} {f : σ → Except ε α} {a : α} {t : σ}

/-- What follows a look depends on the very state that was read. -/
lemma exits_look {f : σ → Durable ε σ α}
    (h : ∀ s, P s → Exits (Through C fun u => u = s) (f s) R E) :
    Exits (Through C P) (look >>= f) R E :=
  fun t ht => h t.now ht.1 t ⟨rfl, ht.2⟩

lemma exits_exists {ι : Sort*} {R : ι → σ → Prop} {T : α → Trail σ → Prop}
    (h : ∀ i, Exits (Through C (R i)) x T E) : Exits (Through C fun s => ∃ i, R i s) x T E :=
  fun t ⟨⟨i, hi⟩, hbefore⟩ => h i t ⟨hi, hbefore⟩

/-- A step, before and after which a crash is harmless. -/
lemma exits_step {f : σ → σ} (hC : ∀ s, P s → C s) (h : ∀ s, P s → P' (f s)) :
    Exits (Through C P) (step f : Durable ε σ PUnit) (fun _ => Through C P') E := by
  intro t ht
  refine ⟨h _ ht.1, fun s hs => ?_⟩
  rcases List.mem_cons.mp hs with rfl | hold
  · exact hC _ ht.1
  · exact ht.2 s hold

lemma exits_check (hok : ∀ t a, Through C P t → f t.now = .ok a → R a t)
    (herror : ∀ t e, Through C P t → f t.now = .error e → E e t) :
    Exits (Through C P) (check f) R E := by
  intro t ht
  unfold check
  cases hf : f t.now with
  | ok a => exact hok t a ht hf
  | error e => exact herror t e ht hf

/-- A check that succeeds, and what follows it. -/
lemma exits_check_ok {g : α → Durable ε σ β} {R : β → Trail σ → Prop} (h : ∀ s, P s → f s = .ok a)
    (hg : Exits (Through C P) (g a) R E) :
    Exits (Through C P) (check f >>= g) R E := by
  refine exits_bind (Q := fun b t => b = a ∧ Through C P t) ?_ fun b => ?_
  · refine exits_check (fun t b ht hf => ?_) fun t e ht hf => ?_
    · rw [h _ ht.1] at hf
      exact ⟨(Except.ok.inj hf).symm, ht⟩
    · rw [h _ ht.1] at hf
      cases hf
  · rintro t ⟨rfl, ht⟩
    exact hg t ht

/-- A refusal whose condition does not hold. -/
lemma exits_refuse_not {c : Prop} [Decidable c] {e : ε} {g : PUnit → Durable ε σ β}
    {R : β → Trail σ → Prop} (hc : ¬ c) (hg : Exits (Through C P) (g ⟨⟩) R E) :
    Exits (Through C P) ((refuse c e : Durable ε σ PUnit) >>= g) R E := by
  unfold refuse
  rw [if_neg hc]
  exact hg

lemma exits_forM {γ : Type} {items : List γ} {f : γ → σ → σ} {I : List γ → σ → Prop}
    (hC : ∀ done s, done <+: items → I done s → C s)
    (hstep : ∀ done item s, done ++ [item] <+: items → I done s → I (done ++ [item]) (f item s)) :
    Exits (Through C (I [])) (items.forM fun item => step (f item) : Durable ε σ PUnit)
      (fun _ => Through C (I items)) E := by
  have hrest : ∀ rest done, items = done ++ rest →
      Exits (Through C (I done)) (rest.forM fun item => step (f item) : Durable ε σ PUnit)
        (fun _ => Through C (I items)) E := by
    intro rest
    induction rest with
    | nil =>
      intro done hitems
      rw [List.append_nil] at hitems
      rw [hitems]
      exact exits_pure fun _ ht => ht
    | cons item rest ih =>
      intro done hitems
      have hnext : items = done ++ [item] ++ rest := by simp [hitems]
      change Exits _ (step (f item) >>= fun _ => rest.forM fun item => step (f item)) _ _
      refine exits_bind (exits_step (fun s hs => hC done s ⟨_, hitems.symm⟩ hs)
        fun s hs => hstep done item s ⟨rest, hnext.symm⟩ hs) fun _ => ih _ hnext
  exact hrest items [] rfl

lemma mem_crashStates (h : Exits (Through C P) x (fun a => Through C (Q a)) E) (hs : P s)
    (hok : ∀ a u, Q a u → C u) (herror : ∀ e u, E e u → C u.now ∧ ∀ v ∈ u.before, C v)
    (ht : t ∈ crashStates x s) : C t := by
  have hx := h ⟨s, []⟩ ⟨hs, fun u hu => by cases hu⟩
  unfold crashStates at ht
  cases hrun : x ⟨s, []⟩ with
  | ok a u =>
    rw [hrun] at hx ht
    rcases List.mem_cons.mp ht with rfl | hmem
    · exact hok a _ hx.1
    · exact hx.2 t hmem
  | error e u =>
    rw [hrun] at hx ht
    rcases List.mem_cons.mp ht with rfl | hmem
    · exact (herror e u hx).1
    · exact (herror e u hx).2 t hmem

/-- A program that cannot raise returns. -/
lemma exists_returns (h : Exits (Through C P) x (fun a => Through C (Q a)) fun _ _ => False)
    (hs : P s) : ∃ a t, Returns x s a t ∧ Q a t := by
  have hx := h ⟨s, []⟩ ⟨hs, fun u hu => by cases hu⟩
  cases hrun : x ⟨s, []⟩ with
  | ok a u =>
    rw [hrun] at hx
    exact ⟨a, u.now, ⟨u.before, hrun⟩, hx.1⟩
  | error e u =>
    rw [hrun] at hx
    exact hx.elim

/-- A program that cannot return does not. -/
lemma not_returns (h : Exits (Through C P) x (fun _ _ => False) E) (hs : P s) :
    ¬ Returns x s a t := by
  rintro ⟨before, hrun⟩
  have hx := h ⟨s, []⟩ ⟨hs, fun u hu => by cases hu⟩
  rwa [hrun] at hx

lemma Returns.of_exits (hreturns : Returns x s a t)
    (h : Exits (Through C P) x (fun a => Through C (Q a)) E) (hs : P s) : Q a t := by
  obtain ⟨before, hrun⟩ := hreturns
  have hx := h ⟨s, []⟩ ⟨hs, fun u hu => by cases hu⟩
  rw [hrun] at hx
  exact hx.1

end Rules

end Durable

end Effect
