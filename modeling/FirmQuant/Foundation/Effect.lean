import FirmQuant.Foundation.Trace
import Mathlib.Data.List.Forall2
import Mathlib.Logic.Relation

/-!
# Programs with exceptions over a state

Two kinds of program are used for stateful code.

* `EStateM ε σ` is a program that keeps its state when it raises: what it did to the world
  before the exception stays done.
* `Txn σ ε` is a transaction: a program that returns no state when it raises, so that an
  aborted transaction leaves the stored state as it was.

The first part inverts a normal return of a sequence into the returns of its parts.  The
second part is a logic of pre- and postconditions for the first kind of program (`Triple`), with
the special case of an invariant that a program keeps (`Keeps`).
-/

namespace Effect

variable {ε σ α β : Type}

/-! ## Normal returns -/

/-- The state in which a program stops, by a return or by an exception. -/
def finalState : EStateM.Result ε σ α → σ
  | .ok _ s => s
  | .error _ s => s

@[simp] lemma finalState_ok (a : α) (s : σ) :
    finalState (EStateM.Result.ok a s : EStateM.Result ε σ α) = s := rfl

@[simp] lemma finalState_error (e : ε) (s : σ) :
    finalState (EStateM.Result.error e s : EStateM.Result ε σ α) = s := rfl

variable {b : β} {r : EStateM.Result ε σ α}

/-- A sequence returns exactly when both parts return. -/
lemma bind_eq_ok {x : EStateM ε σ α} {f : α → EStateM ε σ β} {s s' : σ} :
    (x >>= f) s = .ok b s' ↔ ∃ a t, x s = .ok a t ∧ f a t = .ok b s' := by
  change EStateM.bind x f s = _ ↔ _
  unfold EStateM.bind
  cases h : x s with
  | ok a t => simp
  | error e t => simp

@[simp] lemma pure_apply (a : α) (s : σ) : (pure a : EStateM ε σ α) s = .ok a s := rfl

@[simp] lemma throw_apply (e : ε) (s : σ) : (throw e : EStateM ε σ α) s = .error e s := rfl

lemma bind_apply (x : EStateM ε σ α) (f : α → EStateM ε σ β) (s : σ) :
    (x >>= f) s = match x s with
      | .ok a t => f a t
      | .error e t => .error e t := rfl

lemma get_bind_apply (f : σ → EStateM ε σ α) (s : σ) : (get >>= f) s = f s s := rfl

lemma tryCatch_apply (x : EStateM ε σ α) (handler : ε → EStateM ε σ α) (s : σ) :
    (tryCatch x handler) s = match x s with
      | .ok a t => .ok a t
      | .error e t => handler e t := by
  change EStateM.tryCatch x handler s = _
  unfold EStateM.tryCatch
  cases x s <;> rfl

variable {x : Except ε α} {f : α → Except ε β}

lemma ok_bind {a : α} : (Except.ok a >>= f) = f a := rfl

/-- A fallible computation in two parts returns exactly when both parts return. -/
lemma bind_ok_iff :
    (x >>= f) = .ok b ↔ ∃ a, x = .ok a ∧ f a = .ok b := by
  constructor
  · intro h
    cases x with
    | ok a => exact ⟨a, rfl, h⟩
    | error e => cases h
  · rintro ⟨a, rfl, h⟩
    exact h

/-- What a computation returns is read off an evaluation of it. -/
lemma exists_of_map {f : α → β} (h : x.toOption.map f = some b) :
    ∃ a, x = .ok a ∧ f a = b := by
  cases x with
  | error e => cases h
  | ok a => exact ⟨a, rfl, Option.some.inj h⟩

/-- A computation that returns what passes a check. -/
lemma exists_of_any {p : α → Bool} (h : x.toOption.any p = true) :
    ∃ a, x = .ok a ∧ p a = true := by
  cases x with
  | error e => cases h
  | ok a => exact ⟨a, rfl, h⟩

/-- A fallible computation over a list returns exactly when it returns at every element. -/
lemma mapM_eq_ok {xs : List α} {ys : List β} :
    xs.mapM f = .ok ys ↔ List.Forall₂ (fun x y => f x = .ok y) xs ys := by
  induction xs generalizing ys with
  | nil =>
    rw [List.mapM_nil, List.forall₂_nil_left_iff]
    constructor
    · intro h
      cases h
      rfl
    · rintro rfl
      rfl
  | cons x xs ih =>
    rw [List.mapM_cons]
    constructor
    · intro h
      obtain ⟨y, hy, h⟩ := bind_ok_iff.mp h
      obtain ⟨rest, hrest, h⟩ := bind_ok_iff.mp h
      cases h
      exact .cons hy (ih.mp hrest)
    · intro h
      cases h with
      | cons hy hrest =>
        exact bind_ok_iff.mpr ⟨_, hy, bind_ok_iff.mpr ⟨_, ih.mpr hrest, rfl⟩⟩

/-- Raise if a condition holds. -/
def refuse {m : Type → Type} [Monad m] [MonadExcept ε m] (c : Prop) [Decidable c] (e : ε) :
    m PUnit := if c then throw e else pure ⟨⟩

lemma refuse_eq_ok {c : Prop} [Decidable c] {e : ε} {u : PUnit} :
    (refuse c e : Except ε PUnit) = .ok u ↔ ¬ c := by
  unfold refuse
  split
  next hc => simp [throw, throwThe, MonadExceptOf.throw, hc]
  next hc => simp [pure, Except.pure, hc]

/-- Run a check on what a program returned; a program that raised fails it. -/
def returnsWith (check : α → σ → Bool) : EStateM.Result ε σ α → Bool
  | .ok a s => check a s
  | .error _ _ => false

lemma exists_ok_of_returnsWith {check : α → σ → Bool} (h : returnsWith check r = true) :
    ∃ a s, r = .ok a s ∧ check a s = true := by
  cases r with
  | ok a s => exact ⟨a, s, rfl, h⟩
  | error e s => cases h

/-- A program that returns does so in the state in which it stops. -/
lemma exists_ok_finalState (h : returnsWith (fun _ _ => true) r = true) :
    ∃ a, r = .ok a (finalState r) := by
  cases r with
  | ok a s => exact ⟨a, rfl⟩
  | error e s => cases h

/-- Run a check on what a program raised; a program that returned fails it. -/
def raisesWith (check : ε → σ → Bool) : EStateM.Result ε σ α → Bool
  | .ok _ _ => false
  | .error e s => check e s

lemma exists_error_of_raisesWith {check : ε → σ → Bool} (h : raisesWith check r = true) :
    ∃ e s, r = .error e s ∧ check e s = true := by
  cases r with
  | ok a s => cases h
  | error e s => exact ⟨e, s, rfl, h⟩

/-! ## Triples -/

/-- Started in a state of `P`, program `x` returns with `Q`, or it raises an exception with `E`. -/
def Exits (P : σ → Prop) (x : EStateM ε σ α) (Q : α → σ → Prop) (E : ε → σ → Prop) : Prop :=
  ∀ s, P s → match x s with
    | .ok a t => Q a t
    | .error e t => E e t

/-- Started in a state of `P`, program `x` returns with `Q`, or it raises in a state of `E`. -/
def Triple (P : σ → Prop) (x : EStateM ε σ α) (Q : α → σ → Prop) (E : σ → Prop) : Prop :=
  Exits P x Q fun _ => E

/-- Program `x` keeps the invariant `I`, whether it returns or raises. -/
def Keeps (I : σ → Prop) (x : EStateM ε σ α) : Prop := Triple I x (fun _ => I) I

section Exits

variable {P : σ → Prop} {E E' : ε → σ → Prop} {Q : α → σ → Prop} {Q' : β → σ → Prop}

lemma exits_pure {a : α} (h : ∀ s, P s → Q a s) : Exits P (pure a : EStateM ε σ α) Q E :=
  fun s hs => h s hs

lemma exits_throw {e : ε} (h : ∀ s, P s → E e s) : Exits P (throw e : EStateM ε σ α) Q E :=
  fun s hs => h s hs

variable {x : EStateM ε σ α}

/-- A sequence, through what holds between its parts. -/
lemma exits_bind {f : α → EStateM ε σ β} (hx : Exits P x Q E) (hf : ∀ a, Exits (Q a) (f a) Q' E) :
    Exits P (x >>= f) Q' E := by
  intro s hs
  have hxs := hx s hs
  rw [bind_apply]
  cases h : x s with
  | ok a t =>
    rw [h] at hxs
    exact hf a t hxs
  | error e t =>
    rw [h] at hxs
    exact hxs

/-- A guarded program, whose handler starts where the body raised. -/
lemma exits_tryCatch {handler : ε → EStateM ε σ α} (hx : Exits P x Q E)
    (hh : ∀ e, Exits (E e) (handler e) Q E') : Exits P (tryCatch x handler) Q E' := by
  intro s hs
  have hxs := hx s hs
  rw [tryCatch_apply]
  cases h : x s with
  | ok a t =>
    rw [h] at hxs
    exact hxs
  | error e t =>
    rw [h] at hxs
    exact hh e t hxs

lemma exits_imp {P' : σ → Prop} {R : α → σ → Prop} (hx : Exits P x Q E) (hP : ∀ s, P' s → P s)
    (hQ : ∀ a s, Q a s → R a s) (hE : ∀ e s, E e s → E' e s) :
    Exits P' x R E' := by
  intro s hs
  have hxs := hx s (hP s hs)
  cases h : x s with
  | ok a t =>
    rw [h] at hxs
    exact hQ a t hxs
  | error e t =>
    rw [h] at hxs
    exact hE e t hxs

lemma exits_pre {P' : σ → Prop} (hx : Exits P x Q E) (hP : ∀ s, P' s → P s) :
    Exits P' x Q E := exits_imp hx hP (fun _ _ h => h) fun _ _ h => h

lemma exits_post {R : α → σ → Prop} (hx : Exits P x Q E) (hQ : ∀ a s, Q a s → R a s) :
    Exits P x R E := exits_imp hx (fun _ h => h) hQ fun _ _ h => h

lemma exits_error (hx : Exits P x Q E) (hE : ∀ e s, E e s → E' e s) :
    Exits P x Q E' := exits_imp hx (fun _ h => h) (fun _ _ h => h) hE

/-- A change of the state does not raise. -/
lemma exits_modify {Q : PUnit → σ → Prop} {f : σ → σ} (h : ∀ s, P s → Q ⟨⟩ (f s)) :
    Exits P (modify f : EStateM ε σ PUnit) Q E :=
  fun s hs => h s hs

lemma exits_ite {c : Prop} [Decidable c] {y : EStateM ε σ α} (hx : Exits P x Q E)
    (hy : Exits P y Q E) : Exits P (if c then x else y) Q E := by
  split
  · exact hx
  · exact hy

/-- A fold over a list, through what holds after the part that is done. -/
lemma exits_foldlM {γ : Type} {items : List γ} {f : β → γ → EStateM ε σ β}
    {I : List γ → β → σ → Prop}
    (hstep : ∀ done item rest b, items = done ++ item :: rest →
      Exits (I done b) (f b item) (I (done ++ [item])) E) (b : β) :
    Exits (I [] b) (items.foldlM f b) (I items) E := by
  have hrest : ∀ rest done b, items = done ++ rest →
      Exits (I done b) (rest.foldlM f b) (I items) E := by
    intro rest
    induction rest with
    | nil =>
      intro done b hitems
      rw [List.append_nil] at hitems
      rw [hitems]
      exact exits_pure fun _ hs => hs
    | cons item rest ih =>
      intro done b hitems
      rw [List.foldlM_cons]
      exact exits_bind (hstep done item rest b hitems) fun b' => ih _ b' (by simp [hitems])
  exact hrest items [] b rfl

/-- What follows a look at the state depends on the very state that was read. -/
lemma exits_get_same {f : σ → EStateM ε σ α} (h : ∀ s, P s → Exits (fun t => t = s) (f s) Q E) :
    Exits P (get >>= f) Q E :=
  fun s hs => h s hs s rfl

/-- A fact beside the precondition may be assumed. -/
lemma exits_assume {φ : Prop} (h : φ → Exits P x Q E) :
    Exits (fun s => φ ∧ P s) x Q E :=
  fun s ⟨hφ, hs⟩ => h hφ s hs

end Exits

section Triple

variable {P : σ → Prop} {I : σ → Prop} {E : σ → Prop} {Q : α → σ → Prop} {Q' : β → σ → Prop}

variable {a : α} {e : ε} {x : EStateM ε σ α} {f : α → EStateM ε σ β} {P' : σ → Prop} {s : σ}

lemma triple_pure (h : ∀ s, P s → Q a s) : Triple P (pure a : EStateM ε σ α) Q E :=
  fun s hs => h s hs

lemma triple_throw (h : ∀ s, P s → E s) : Triple P (throw e : EStateM ε σ α) Q E :=
  fun s hs => h s hs

/-- A sequence, through what holds between its parts. -/
lemma triple_bind (hx : Triple P x Q E) (hf : ∀ a, Triple (Q a) (f a) Q' E) :
    Triple P (x >>= f) Q' E := exits_bind hx hf

variable {handler : ε → EStateM ε σ α} {φ c : Prop}

/-- A guarded program, whose handler starts where the body raised. -/
lemma triple_tryCatch {R : σ → Prop} (hx : Triple P x Q R) (hh : ∀ e, Triple R (handler e) Q E) :
    Triple P (tryCatch x handler) Q E := exits_tryCatch hx hh

variable {R : α → σ → Prop} {E' : σ → Prop}

lemma triple_imp (hx : Triple P x Q E) (hP : ∀ s, P' s → P s)
    (hQ : ∀ a s, Q a s → R a s) (hE : ∀ s, E s → E' s) :
    Triple P' x R E' := exits_imp hx hP hQ fun _ => hE

lemma triple_pre (hx : Triple P x Q E) (hP : ∀ s, P' s → P s) : Triple P' x Q E := exits_pre hx hP

lemma triple_post (hx : Triple P x Q E) (hQ : ∀ a s, Q a s → R a s) :
    Triple P x R E := exits_post hx hQ

/-- Less may be said of where the program raises. -/
lemma triple_error (hx : Triple P x Q E) (hE : ∀ s, E s → E' s) :
    Triple P x Q E' := exits_error hx fun _ => hE

/-- A fact beside the precondition may be assumed. -/
lemma triple_assume (h : φ → Triple P x Q E) :
    Triple (fun s => φ ∧ P s) x Q E := exits_assume h

lemma triple_assume_right (h : φ → Triple P x Q E) : Triple (fun s => P s ∧ φ) x Q E :=
  triple_pre (triple_assume h) fun _ hs => hs.symm

lemma Triple.ok (hx : Triple P x Q E) {t : σ} (h : x s = .ok a t) (hs : P s) : Q a t := by
  have hxs := hx s hs
  rwa [h] at hxs

/-- What holds at a return and at an exception holds where the program stops. -/
lemma Triple.finalState (hx : Triple P x (fun _ => I) I) (hs : P s) :
    I (finalState (x s)) := by
  have hxs := hx s hs
  cases h : x s with
  | ok a t | error e t =>
    rw [h] at hxs
    exact hxs

/-- A kept invariant holds where the program stops. -/
lemma Keeps.finalState (hx : Keeps I x) (hs : I s) :
    I (finalState (x s)) := Triple.finalState hx hs

/-- What holds where a sequence stops, through what holds where its first part stops. -/
lemma finalState_bind (hx : I (Effect.finalState (x s)))
    (hf : ∀ a t, x s = .ok a t → I t → I (Effect.finalState (f a t))) :
    I (Effect.finalState ((x >>= f) s)) := by
  rw [bind_apply]
  cases h : x s with
  | ok a t =>
    rw [h] at hx
    exact hf a t h hx
  | error e t =>
    rw [h] at hx
    exact hx

/-- A kept invariant holds at an exception, whatever it is. -/
lemma Keeps.exits {E : ε → σ → Prop} (hx : Keeps I x) (hE : ∀ e s, I s → E e s) :
    Exits I x (fun _ => I) E :=
  exits_error hx hE

/-- Two triples of one program hold together. -/
lemma triple_and (hx : Triple P x Q E) (hx' : Triple P' x R E') :
    Triple (fun s => P s ∧ P' s) x (fun a s => Q a s ∧ R a s) (fun s => E s ∧ E' s) := by
  intro s ⟨hs, hs'⟩
  have h₁ := hx s hs
  have h₂ := hx' s hs'
  cases h : x s with
  | ok a t | error e t =>
    rw [h] at h₁ h₂
    exact ⟨h₁, h₂⟩

/-- Partial correctness, which says nothing about a program that raises. -/
abbrev Achieves (P : σ → Prop) (x : EStateM ε σ α) (Q : α → σ → Prop) : Prop :=
  Triple P x Q fun _ => True

lemma achieves_true : Achieves P x fun _ _ => True := by
  intro s _
  cases x s <;> trivial

/-- Total correctness: started in a state of `P`, program `x` returns, with `Q`. -/
abbrev Succeeds (P : σ → Prop) (x : EStateM ε σ α) (Q : α → σ → Prop) : Prop :=
  Triple P x Q fun _ => False

lemma Succeeds.exists_ok (hx : Succeeds P x Q) (hs : P s) :
    ∃ a t, x s = .ok a t ∧ Q a t := by
  have hxs := hx s hs
  cases h : x s with
  | ok a t =>
    rw [h] at hxs
    exact ⟨a, t, rfl, hxs⟩
  | error e t =>
    rw [h] at hxs
    exact hxs.elim

/-- A program that raises nowhere may be followed by anything. -/
lemma Succeeds.triple (hx : Succeeds P x Q) : Triple P x Q E :=
  triple_error hx fun _ h => h.elim

/-- A kept assertion is there when the program returns. -/
lemma Keeps.achieves (hx : Keeps I x) : Achieves I x fun _ => I :=
  triple_error hx fun _ _ => trivial

lemma keeps_pure : Keeps I (pure a : EStateM ε σ α) := triple_pure fun _ hs => hs

lemma keeps_throw : Keeps I (throw e : EStateM ε σ α) := triple_throw fun _ hs => hs

lemma keeps_bind (hx : Keeps I x) (hf : ∀ a, Keeps I (f a)) : Keeps I (x >>= f) := triple_bind hx hf

lemma keeps_tryCatch (hx : Keeps I x) (hh : ∀ e, Keeps I (handler e)) :
    Keeps I (tryCatch x handler) := triple_tryCatch hx hh

lemma keeps_ite [Decidable c] {y : EStateM ε σ α} (hx : Keeps I x) (hy : Keeps I y) :
    Keeps I (if c then x else y) := by
  split
  · exact hx
  · exact hy

lemma keeps_refuse [Decidable c] :
    Keeps I (refuse c e : EStateM ε σ PUnit) := keeps_ite keeps_throw keeps_pure

/-- Past a check its condition does not hold. -/
lemma triple_refuse {p : Prop} [Decidable p] :
    Triple P (refuse p e : EStateM ε σ PUnit) (fun _ s => ¬ p ∧ P s) P := by
  unfold refuse
  split
  next hp => exact triple_throw fun _ hs => hs
  next hp => exact triple_pure fun _ hs => ⟨hp, hs⟩

lemma keeps_get : Keeps I (get : EStateM ε σ σ) := fun _ hs => hs

lemma keeps_modify {f : σ → σ} (h : ∀ s, I s → I (f s)) :
    Keeps I (modify f : EStateM ε σ PUnit) :=
  fun s hs => h s hs

lemma triple_modify {Q : PUnit → σ → Prop} {f : σ → σ} (h : ∀ s, P s → Q ⟨⟩ (f s)) :
    Triple P (modify f : EStateM ε σ PUnit) Q E := exits_modify h

/-- The state that a program reads satisfies what holds there. -/
lemma triple_get_bind {f : σ → EStateM ε σ α} (h : ∀ s, P s → Triple P (f s) Q E) :
    Triple P (get >>= f) Q E :=
  fun s hs => h s hs s hs

/-- The same, when what follows depends on the very state that was read. -/
lemma triple_get_same {f : σ → EStateM ε σ α} (h : ∀ s, P s → Triple (fun t => t = s) (f s) Q E) :
    Triple P (get >>= f) Q E := exits_get_same h

/-- A triple at a state of its precondition. -/
lemma triple_at (hs : P s) (h : Triple P x Q E) :
    Triple (fun t => t = s) x Q E := by
  rintro t rfl
  exact h t hs

lemma keeps_get_bind {f : σ → EStateM ε σ α} (h : ∀ s, I s → Keeps I (f s)) :
    Keeps I (get >>= f) := triple_get_bind h

/-- Whatever program `x` returns satisfies `P`. -/
def Returns (P : α → Prop) (x : EStateM ε σ α) : Prop := ∀ s a t, x s = .ok a t → P a

lemma returns_pure {P : α → Prop} (h : P a) : Returns P (pure a : EStateM ε σ α) := by
  intro s b t hb
  cases hb
  exact h

lemma returns_throw {P : α → Prop} : Returns P (throw e : EStateM ε σ α) := by
  intro s a t h
  cases h

/-- What a sequence returns, through what its first part returns. -/
lemma returns_seq {P : β → Prop} {R : α → Prop} (hx : Returns R x)
    (hf : ∀ a, R a → Returns P (f a)) : Returns P (x >>= f) := by
  intro s b t hb
  obtain ⟨a, s₁, hxs, hfs⟩ := bind_eq_ok.mp hb
  exact hf a (hx s a s₁ hxs) s₁ b t hfs

/-- What a sequence returns is what its second part returns. -/
lemma returns_bind {P : β → Prop} (h : ∀ a, Returns P (f a)) : Returns P (x >>= f) := by
  intro s b t hb
  obtain ⟨a, s₁, -, hf⟩ := bind_eq_ok.mp hb
  exact h a s₁ b t hf

/-- What a program returns under a condition on its inputs. -/
lemma achieves_of_returns {P : α → Prop} (h : φ → Returns P x) :
    Achieves (fun _ => φ) x fun a _ => P a := by
  intro s hφ
  cases hx : x s with
  | ok a t => exact h hφ s a t hx
  | error e t => trivial

end Triple

/-! ## Transactions -/

/-- A transaction on a stored state: it returns a value with the new state, or raises and
returns no state at all. -/
abbrev Txn (σ ε α : Type) := StateT σ (Except ε) α

namespace Txn

@[simp] lemma pure_run (a : α) (s : σ) : (pure a : Txn σ ε α) s = .ok (a, s) := rfl

@[simp] lemma throw_run (e : ε) (s : σ) : (throw e : Txn σ ε α) s = .error e := rfl

lemma bind_run (x : Txn σ ε α) (f : α → Txn σ ε β) (s : σ) :
    (x >>= f) s = match x s with
      | .ok (a, t) => f a t
      | .error e => .error e := by
  change (x s >>= fun p => f p.1 p.2) = _
  cases x s with
  | ok p => rfl
  | error e => rfl

variable {f : α → Txn σ ε β}

/-- A sequence commits exactly when both parts commit. -/
lemma bind_eq_ok {x : Txn σ ε α} {s : σ} {r : β × σ} :
    (x >>= f) s = .ok r ↔ ∃ a t, x s = .ok (a, t) ∧ f a t = .ok r := by
  rw [bind_run]
  cases h : x s with
  | ok p => obtain ⟨a, t⟩ := p; simp
  | error e => simp

/-- A sequence aborts where its first part does, or else where its second part does. -/
lemma bind_eq_error {x : Txn σ ε α} {s : σ} {e : ε} :
    (x >>= f) s = .error e ↔ x s = .error e ∨ ∃ a t, x s = .ok (a, t) ∧ f a t = .error e := by
  rw [bind_run]
  cases h : x s with
  | ok p => obtain ⟨a, t⟩ := p; simp
  | error e => simp

@[simp] lemma get_run (s : σ) : (get : Txn σ ε σ) s = .ok (s, s) := rfl

@[simp] lemma set_run (s t : σ) : (set t : Txn σ ε PUnit) s = .ok (⟨⟩, t) := rfl

@[simp] lemma modify_run (f : σ → σ) (s : σ) :
    (modify f : Txn σ ε PUnit) s = .ok (⟨⟩, f s) := rfl

/-- A fallible computation that does not touch the state, as a transaction. -/
def lift (x : Except ε α) : Txn σ ε α := fun s => x.map fun a => (a, s)

lemma lift_eq_ok {x : Except ε α} {s : σ} {r : α × σ} :
    (lift x : Txn σ ε α) s = .ok r ↔ x = .ok r.1 ∧ r.2 = s := by
  obtain ⟨a, t⟩ := r
  cases x with
  | ok b => simp [lift, Except.map, eq_comm]
  | error e => simp [lift, Except.map]

lemma lift_bind_eq_ok {x : Except ε α} {s : σ} {r : β × σ} :
    (lift x >>= f) s = .ok r ↔ ∃ a, x = .ok a ∧ f a s = .ok r := by
  rw [bind_run]
  cases x <;> simp [lift, Except.map]

/-- Transaction `x` keeps the assertion `I` when it commits. -/
def Preserves (I : σ → Prop) (x : Txn σ ε α) : Prop := ∀ s a t, I s → x s = .ok (a, t) → I t

section Preserves

variable {I : σ → Prop}

lemma preserves_pure {a : α} : Preserves I (pure a : Txn σ ε α) := by
  intro s b t hs h
  cases h
  exact hs

lemma preserves_throw {e : ε} : Preserves I (throw e : Txn σ ε α) := by
  intro s a t _ h
  cases h

lemma preserves_bind {x : Txn σ ε α} {f : α → Txn σ ε β} (hx : Preserves I x)
    (hf : ∀ a, Preserves I (f a)) : Preserves I (x >>= f) := by
  intro s b t hs h
  obtain ⟨a, s₁, hxs, hfs⟩ := bind_eq_ok.mp h
  exact hf a s₁ b t (hx s a s₁ hs hxs) hfs

lemma preserves_modify {f : σ → σ} (h : ∀ s, I s → I (f s)) :
    Preserves I (modify f : Txn σ ε PUnit) := by
  intro s a t hs hf
  cases hf
  exact h s hs

end Preserves

/-- A committed `x` kept the invariant `I`, and what it returned satisfies `Q`. -/
def Yields (I : σ → Prop) (x : Txn σ ε α) (Q : α → Prop) : Prop :=
  ∀ s a t, I s → x s = .ok (a, t) → I t ∧ Q a

section Yields

variable {I : σ → Prop} {Q : α → Prop} {R : β → Prop}

lemma yields_pure {a : α} (h : Q a) : Yields I (pure a : Txn σ ε α) Q := by
  intro s b t hs hb
  cases hb
  exact ⟨hs, h⟩

lemma yields_bind {x : Txn σ ε α} {f : α → Txn σ ε β} (hx : Yields I x Q)
    (hf : ∀ a, Q a → Yields I (f a) R) : Yields I (x >>= f) R := by
  intro s b t hs h
  obtain ⟨a, s₁, hxs, hfs⟩ := bind_eq_ok.mp h
  obtain ⟨hs₁, ha⟩ := hx s a s₁ hs hxs
  exact hf a ha s₁ b t hs₁ hfs

end Yields

/-- Run a check on what a transaction committed; an aborted one fails it. -/
def commitsWith (check : α → σ → Bool) : Except ε (α × σ) → Bool
  | .ok (a, s) => check a s
  | .error _ => false

lemma exists_ok_of_commitsWith {check : α → σ → Bool} {r : Except ε (α × σ)}
    (h : commitsWith check r = true) : ∃ a s, r = .ok (a, s) ∧ check a s = true := by
  cases r with
  | ok p => exact ⟨p.1, p.2, rfl, h⟩
  | error e => cases h

end Txn

end Effect
