import GpuTrace.Fault
import Mathlib.Order.Defs.Unbundled

/-!
# Outcomes — how a step on a state ends

A step ends with an answer or with a fault, and with a state in both cases. `Ends`
says what holds of either end. It goes through a program from the last line to the
first: one equation for each way to build a step.

`Within R` says less about more: whatever the end, the state that was reached is
related by `R` to the one before. For a preorder it goes through a program without
a look at the states in between.
-/

namespace GpuTrace.Fallible

variable {σ α β : Type} {s : σ} {Q Q' : α → σ → Prop} {E E' : Fault → σ → Prop}

/-! ## Both ends of a step -/

/-- From `s`, `step` ends with an answer in `Q` or with a fault in `E`. -/
def Ends (step : Fallible σ α) (s : σ) (Q : α → σ → Prop) (E : Fault → σ → Prop) : Prop :=
  match step s with
  | .ok a s' => Q a s'
  | .error e s' => E e s'

instance {step : Fallible σ α} [∀ a s', Decidable (Q a s')] [∀ e s', Decidable (E e s')] :
    Decidable (Ends step s Q E) :=
  match hs : step s with
  | .ok a s' => decidable_of_iff (Q a s') (by rw [Ends, hs])
  | .error e s' => decidable_of_iff (E e s') (by rw [Ends, hs])

theorem ends_self {step : Fallible σ α} :
    Ends step s (fun a s' => step s = .ok a s') (fun e s' => step s = .error e s') := by
  unfold Ends
  cases step s with
  | ok a s' => rfl
  | error e s' => rfl

theorem eq_ok_iff_ends {step : Fallible σ α} {a : α} {s' : σ} :
    step s = .ok a s' ↔ Ends step s (fun a' s'' => a' = a ∧ s'' = s') (fun _ _ => False) := by
  unfold Ends
  cases step s <;> simp

theorem eq_error_iff_ends {step : Fallible σ α} {e : Fault} {s' : σ} :
    step s = .error e s' ↔ Ends step s (fun _ _ => False) (fun e' s'' => e' = e ∧ s'' = s') := by
  unfold Ends
  cases step s <;> simp

theorem Ends.imp {step : Fallible σ α} (h : Ends step s Q E)
    (hQ : ∀ a s', Q a s' → Q' a s') (hE : ∀ e s', E e s' → E' e s') : Ends step s Q' E' := by
  unfold Ends at h ⊢
  cases hs : step s with
  | ok a s' =>
    rw [hs] at h
    exact hQ a s' h
  | error e s' =>
    rw [hs] at h
    exact hE e s' h

theorem Ends.and {step : Fallible σ α} (h : Ends step s Q E) (h' : Ends step s Q' E') :
    Ends step s (fun a s' => Q a s' ∧ Q' a s') (fun e s' => E e s' ∧ E' e s') := by
  unfold Ends at h h' ⊢
  cases hs : step s with
  | ok a s' =>
    rw [hs] at h h'
    exact ⟨h, h'⟩
  | error e s' =>
    rw [hs] at h h'
    exact ⟨h, h'⟩

theorem Ends.imp_ok {step : Fallible σ α} (h : Ends step s Q fun _ _ => False)
    (hQ : ∀ a s', Q a s' → Q' a s') : Ends step s Q' E :=
  h.imp hQ fun _ _ => False.elim

theorem Ends.exists_ok {step : Fallible σ α} (h : Ends step s Q fun _ _ => False) :
    ∃ a s', step s = .ok a s' ∧ Q a s' := by
  unfold Ends at h
  cases hs : step s with
  | ok a s' =>
    rw [hs] at h
    exact ⟨a, s', rfl, h⟩
  | error e s' =>
    rw [hs] at h
    exact h.elim

theorem ends_iff_of_ok {step : Fallible σ α} {a : α} {s' : σ} (hs : step s = .ok a s') :
    Ends step s Q E ↔ Q a s' := by
  unfold Ends
  rw [hs]

theorem ends_of_ok {step : Fallible σ α} {a : α} {s' : σ} (hs : step s = .ok a s') (h : Q a s') :
    Ends step s Q E :=
  (ends_iff_of_ok hs).mpr h

theorem ends_of_error {step : Fallible σ α} {e : Fault} {s' : σ} (hs : step s = .error e s')
    (h : E e s') : Ends step s Q E := by
  unfold Ends
  rw [hs]
  exact h

theorem Ends.of_ok {step : Fallible σ α} {a : α} {s' : σ} (h : Ends step s Q E)
    (hs : step s = .ok a s') : Q a s' := by
  unfold Ends at h
  rwa [hs] at h

theorem Ends.of_error {step : Fallible σ α} {e : Fault} {s' : σ} (h : Ends step s Q E)
    (hs : step s = .error e s') : E e s' := by
  unfold Ends at h
  rwa [hs] at h

@[simp] theorem ends_pure {a : α} : Ends (pure a : Fallible σ α) s Q E ↔ Q a s := Iff.rfl

@[simp] theorem ends_throw {e : Fault} : Ends (throw e : Fallible σ α) s Q E ↔ E e s := Iff.rfl

@[simp] theorem ends_get {Q : σ → σ → Prop} : Ends (get : Fallible σ σ) s Q E ↔ Q s s := Iff.rfl

@[simp] theorem ends_modify {f : σ → σ} {Q : PUnit → σ → Prop} :
    Ends (modify f : Fallible σ PUnit) s Q E ↔ Q ⟨⟩ (f s) := Iff.rfl

@[simp] theorem ends_bind {x : Fallible σ α} {f : α → Fallible σ β} {Q : β → σ → Prop} :
    Ends (x >>= f) s Q E ↔ Ends x s (fun a s' => Ends (f a) s' Q E) E := by
  show (match EStateM.bind x f s with
    | .ok b s' => Q b s'
    | .error e s' => E e s') ↔ _
  unfold Ends EStateM.bind
  cases x s <;> rfl

theorem modify_of_eq {f : σ → σ} {s' : σ} (h : f s = s') :
    (modify f : Fallible σ PUnit) s = .ok ⟨⟩ s' := by
  rw [← h]
  rfl

theorem bind_of_ok {x : Fallible σ α} {f : α → Fallible σ β} {a : α} {s' : σ}
    (hx : x s = .ok a s') : (x >>= f) s = f a s' := by
  show EStateM.bind x f s = f a s'
  unfold EStateM.bind
  rw [hx]

theorem bind_of_error {x : Fallible σ α} {f : α → Fallible σ β} {e : Fault} {s' : σ}
    (hx : x s = .error e s') : (x >>= f) s = .error e s' := by
  show EStateM.bind x f s = .error e s'
  unfold EStateM.bind
  rw [hx]

theorem map_of_ok {x : Fallible σ α} {f : α → β} {a : α} {s' : σ} (hx : x s = .ok a s') :
    (f <$> x) s = .ok (f a) s' := by
  show EStateM.map f x s = .ok (f a) s'
  unfold EStateM.map
  rw [hx]

@[simp] theorem ends_map {x : Fallible σ α} {f : α → β} {Q : β → σ → Prop} :
    Ends (f <$> x) s Q E ↔ Ends x s (fun a s' => Q (f a) s') E := by
  show (match EStateM.map f x s with
    | .ok b s' => Q b s'
    | .error e s' => E e s') ↔ _
  unfold Ends EStateM.map
  cases x s <;> rfl

@[simp] theorem ends_discard {x : Fallible σ α} {Q : PUnit → σ → Prop} :
    Ends (discard x) s Q E ↔ Ends x s (fun _ s' => Q ⟨⟩ s') E := ends_map

/-- A calculation leaves the state alone. -/
@[simp] theorem ends_lift {x : Except Fault α} :
    Ends (liftM x : Fallible σ α) s Q E ↔
      match x with
      | .ok a => Q a s
      | .error e => E e s := by
  cases x <;> rfl

theorem ends_bind_lift {x : Except Fault α} {f : α → Fallible σ β} {Q : β → σ → Prop}
    (hf : ∀ a, x = .ok a → Ends (f a) s Q E) (hE : ∀ e, x = .error e → E e s) :
    Ends (liftM x >>= f) s Q E := by
  cases x with
  | ok a => exact hf a rfl
  | error e => exact hE e rfl

/-- The state that a step reaches, whatever its end. -/
def final (step : Fallible σ α) (s : σ) : σ :=
  match step s with
  | .ok _ s' | .error _ s' => s'

theorem final_of_ok {step : Fallible σ α} {a : α} {s' : σ} (hs : step s = .ok a s') :
    final step s = s' := by
  unfold final
  rw [hs]

theorem final_of_error {step : Fallible σ α} {e : Fault} {s' : σ} (hs : step s = .error e s') :
    final step s = s' := by
  unfold final
  rw [hs]

theorem final_bind_of_pure {x : Fallible σ α} {f : α → Fallible σ β}
    (hf : ∀ a s', final (f a) s' = s') : final (x >>= f) s = final x s := by
  cases hx : x s with
  | ok a s' =>
    unfold final
    rw [bind_of_ok hx, hx]
    exact hf a s'
  | error e s' => rw [final_of_error hx, final_of_error (bind_of_error hx)]

theorem final_bind_of_ok {x : Fallible σ α} {f : α → Fallible σ β} {a : α} {s' : σ}
    (hx : x s = .ok a s') : final (x >>= f) s = final (f a) s' := by
  unfold final
  rw [bind_of_ok hx]

theorem Ends.final {step : Fallible σ α} {I : σ → Prop}
    (h : Ends step s (fun _ s' => I s') (fun _ s' => I s')) : I (final step s) := by
  unfold Ends at h
  unfold Fallible.final
  cases hs : step s with
  | ok a s' =>
    rw [hs] at h
    exact h
  | error e s' =>
    rw [hs] at h
    exact h

/-! ## Steps within a relation -/

/-- Whatever the end of `step`, the state that it reached is related to the one
before. -/
def Within (R : σ → σ → Prop) (step : Fallible σ α) : Prop :=
  ∀ s, Ends step s (fun _ => R s) (fun _ => R s)

variable {R R' : σ → σ → Prop}

theorem Within.imp {step : Fallible σ α} (h : Within R step) (hR : ∀ s s', R s s' → R' s s') :
    Within R' step := fun s =>
  (h s).imp (fun _ => hR s) (fun _ => hR s)

theorem Within.final {step : Fallible σ α} (h : Within R step) (s : σ) : R s (final step s) :=
  Ends.final (h s)

theorem within_map {x : Fallible σ α} (f : α → β) (hx : Within R x) : Within R (f <$> x) :=
  fun s => ends_map.mpr (hx s)

theorem within_discard {x : Fallible σ α} (hx : Within R x) : Within R (discard x) :=
  within_map _ hx

section Preorder

variable [IsPreorder σ R]

theorem within_pure (a : α) : Within R (pure a : Fallible σ α) := fun s => refl_of R s

theorem within_throw (e : Fault) : Within R (throw e : Fallible σ α) := fun s => refl_of R s

theorem within_get : Within R (get : Fallible σ σ) := fun s => refl_of R s

theorem within_lift (x : Except Fault α) : Within R (liftM x : Fallible σ α) := fun s => by
  cases x <;> exact refl_of R s

theorem within_bind {x : Fallible σ α} {f : α → Fallible σ β} (hx : Within R x)
    (hf : ∀ a, Within R (f a)) : Within R (x >>= f) := fun s => by
  rw [ends_bind]
  refine (hx s).imp (fun a s' h => ?_) (fun _ _ h => h)
  exact (hf a s').imp (fun _ _ h' => trans_of R h h') (fun _ _ h' => trans_of R h h')

theorem within_forM {xs : List β} {f : β → Fallible σ PUnit} (hf : ∀ x ∈ xs, Within R (f x)) :
    Within R (xs.forM f) := by
  induction xs with
  | nil => exact within_pure _
  | cons x xs ih =>
    refine within_bind (hf x List.mem_cons_self) fun _ => ih fun y hy => ?_
    exact hf y (List.mem_cons_of_mem _ hy)

theorem within_mapM {xs : List α} {f : α → Fallible σ β} (hf : ∀ x ∈ xs, Within R (f x)) :
    Within R (xs.mapM f) := by
  induction xs with
  | nil => exact within_pure _
  | cons x xs ih =>
    rw [List.mapM_cons]
    refine within_bind (hf x List.mem_cons_self) fun _ => within_bind (ih fun y hy => ?_)
      fun _ => within_pure _
    exact hf y (List.mem_cons_of_mem _ hy)

end Preorder

/-! ## Answers and faults alone -/

section Alone

variable {A : β → Prop} {F : Fault → Prop}

def Answers (A : β → Prop) (step : Fallible σ β) : Prop :=
  ∀ s, Ends step s (fun b _ => A b) (fun _ _ => True)

theorem answers_pure {b : β} (h : A b) : Answers A (pure b : Fallible σ β) := fun _ => h

theorem answers_bind {x : Fallible σ α} {f : α → Fallible σ β} (hf : ∀ a, Answers A (f a)) :
    Answers A (x >>= f) := fun s => by
  rw [ends_bind]
  unfold Ends
  cases x s with
  | ok a s' => exact hf a s'
  | error e s' => trivial

theorem answers_bind_of {A' : α → Prop} {x : Fallible σ α} {f : α → Fallible σ β}
    (hx : Answers A' x) (hf : ∀ a, A' a → Answers A (f a)) : Answers A (x >>= f) := fun s => by
  rw [ends_bind]
  exact (hx s).imp (fun a s' ha => hf a ha s') fun _ _ _ => trivial

theorem answers_mapM {xs : List α} {f : α → Fallible σ β} (hf : ∀ x ∈ xs, Answers A (f x)) :
    Answers (fun bs => ∀ b ∈ bs, A b) (xs.mapM f) := by
  induction xs with
  | nil => exact answers_pure nofun
  | cons x xs ih =>
    rw [List.mapM_cons]
    refine answers_bind_of (hf x List.mem_cons_self) fun b hb => ?_
    refine answers_bind_of (ih fun y hy => hf y (List.mem_cons_of_mem _ hy)) fun bs hbs => ?_
    exact answers_pure (List.forall_mem_cons.mpr ⟨hb, hbs⟩)

theorem answers_bind_lift {x : Except Fault α} {f : α → Fallible σ β}
    (hf : ∀ a, x = .ok a → Answers A (f a)) : Answers A (liftM x >>= f) := by
  cases x with
  | ok a => exact hf a rfl
  | error e => exact fun s => trivial

theorem mem_toOption {ε : Type} {x : Except ε α} {a : α} : a ∈ x.toOption ↔ x = .ok a := by
  cases x <;> simp [Except.toOption]

def Raises (F : Fault → Prop) (x : Except Fault α) : Prop :=
  ∀ e, x = .error e → F e

theorem raises_ok (a : α) : Raises F (.ok a) := fun _ h => nomatch h

theorem raises_error {e : Fault} (h : F e) : Raises F (.error e : Except Fault α) := by
  rintro _ ⟨⟩
  exact h

theorem raises_bind {x : Except Fault α} {f : α → Except Fault β} (hx : Raises F x)
    (hf : ∀ a, Raises F (f a)) : Raises F (x >>= f) := by
  cases x with
  | ok a => exact hf a
  | error e => exact raises_error (hx e rfl)

theorem raises_map {x : Except Fault α} (f : α → β) (hx : Raises F x) : Raises F (f <$> x) := by
  cases x with
  | ok a => exact raises_ok (f a)
  | error e => exact raises_error (hx e rfl)

def Throws (F : Fault → Prop) (step : Fallible σ α) : Prop :=
  ∀ s, Ends step s (fun _ _ => True) (fun e _ => F e)

theorem Throws.imp {F' : Fault → Prop} {step : Fallible σ α} (h : Throws F step)
    (hF : ∀ e, F e → F' e) : Throws F' step := fun s =>
  (h s).imp (fun _ _ _ => trivial) fun e _ he => hF e he

theorem throws_pure (a : α) : Throws F (pure a : Fallible σ α) := fun _ => trivial

theorem throws_throw {e : Fault} (h : F e) : Throws F (throw e : Fallible σ α) := fun _ => h

theorem throws_get : Throws F (get : Fallible σ σ) := fun _ => trivial

theorem throws_modify (f : σ → σ) : Throws F (modify f : Fallible σ PUnit) := fun _ => trivial

theorem throws_lift {x : Except Fault α} (h : Raises F x) :
    Throws F (liftM x : Fallible σ α) := fun s => by
  cases x with
  | ok a => trivial
  | error e => exact h e rfl

theorem throws_bind {x : Fallible σ α} {f : α → Fallible σ β} (hx : Throws F x)
    (hf : ∀ a, Throws F (f a)) : Throws F (x >>= f) := fun s => by
  rw [ends_bind]
  exact (hx s).imp (fun a s' _ => hf a s') (fun _ _ h => h)

theorem throws_map {x : Fallible σ α} (f : α → β) (hx : Throws F x) : Throws F (f <$> x) :=
  fun s => ends_map.mpr (hx s)

theorem throws_forM {xs : List β} {f : β → Fallible σ PUnit} (hf : ∀ x, Throws F (f x)) :
    Throws F (xs.forM f) := by
  induction xs with
  | nil => exact throws_pure _
  | cons x xs ih => exact throws_bind (hf x) fun _ => ih

theorem throws_mapM {xs : List α} {f : α → Fallible σ β} (hf : ∀ x, Throws F (f x)) :
    Throws F (xs.mapM f) := by
  induction xs with
  | nil => exact throws_pure _
  | cons x xs ih =>
    rw [List.mapM_cons]
    exact throws_bind (hf x) fun _ => throws_bind ih fun _ => throws_pure _

end Alone

end GpuTrace.Fallible
