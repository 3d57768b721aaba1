import GpuTrace.Proofs.Outcome
import Mathlib.Data.List.Forall2

/-!
# Lockstep — two programs side by side

`Lockstep F R A x y` runs `x` and `y` from states that `R` relates. If both answer, then `A` relates
the answers and `R` the states that were reached. A fault of one of them is matched by the same
fault of the other, again with related states; if `F` holds, then runs with a fault are left out of
account.

Like `Ends`, the relation goes through a program line by line: there is one rule for each way to
build a step.
-/

namespace GpuTrace.Fallible

variable {σ τ α α' β β' γ : Type} {F : Prop} {R : σ → τ → Prop} {A : α → α' → Prop}
  {B : β → β' → Prop} {s : σ} {t : τ}

def Meet (F : Prop) (R : σ → τ → Prop) (A : α → α' → Prop) :
    EStateM.Result Fault σ α → EStateM.Result Fault τ α' → Prop
  | .ok a s, .ok b t => A a b ∧ R s t
  | .error e s, .error e' t => F ∨ e = e' ∧ R s t
  | .ok _ _, .error _ _ => F
  | .error _ _, .ok _ _ => F

/-- From related states both programs end alike. -/
def Lockstep (F : Prop) (R : σ → τ → Prop) (A : α → α' → Prop) (x : Fallible σ α)
    (y : Fallible τ α') : Prop :=
  ∀ s t, R s t → Meet F R A (x s) (y t)

theorem Meet.imp {R' : σ → τ → Prop} {A' : α → α' → Prop} {r : EStateM.Result Fault σ α}
    {r' : EStateM.Result Fault τ α'} (h : Meet F R A r r') (hA : ∀ a b, A a b → A' a b)
    (hR : ∀ s t, R s t → R' s t) : Meet F R' A' r r' := by
  cases r with
  | ok a s =>
    cases r' with
    | ok b t => exact ⟨hA a b h.1, hR s t h.2⟩
    | error e t => exact h
  | error e s =>
    cases r' with
    | ok b t => exact h
    | error e' t => exact h.imp_right fun ⟨he, hst⟩ => ⟨he, hR s t hst⟩

theorem meet_error_left (hF : F) (e : Fault) (s : σ) (r' : EStateM.Result Fault τ α') :
    Meet F R A (.error e s) r' := by
  cases r' with
  | ok b t => exact hF
  | error e' t => exact .inl hF

theorem meet_error_right (hF : F) (r : EStateM.Result Fault σ α) (e : Fault) (t : τ) :
    Meet F R A r (.error e t) := by
  cases r with
  | ok a s => exact hF
  | error e' s => exact .inl hF

theorem Lockstep.of_ok {x : Fallible σ α} {y : Fallible τ α'} (h : Lockstep F R A x y)
    (hst : R s t) {a : α} {b : α'} {s' : σ} {t' : τ} (hx : x s = .ok a s') (hy : y t = .ok b t') :
    A a b ∧ R s' t' := by
  have hmeet := h s t hst
  rwa [hx, hy] at hmeet

theorem Lockstep.final {x : Fallible σ α} {y : Fallible τ α'} (h : Lockstep False R A x y)
    (hst : R s t) : R (final x s) (final y t) := by
  have hmeet := h s t hst
  unfold Fallible.final
  cases hx : x s with
  | ok a s' =>
    rw [hx] at hmeet
    cases hy : y t with
    | ok b t' =>
      rw [hy] at hmeet
      exact hmeet.2
    | error e t' =>
      rw [hy] at hmeet
      exact hmeet.elim
  | error e s' =>
    rw [hx] at hmeet
    cases hy : y t with
    | ok b t' =>
      rw [hy] at hmeet
      exact hmeet.elim
    | error e' t' =>
      rw [hy] at hmeet
      exact (hmeet.resolve_left id).2

/-! ## Rules -/

theorem lockstep_pure {a : α} {b : α'} (h : A a b) :
    Lockstep F R A (pure a : Fallible σ α) (pure b : Fallible τ α') :=
  fun _ _ hst => ⟨h, hst⟩

theorem lockstep_throw (e : Fault) :
    Lockstep F R A (throw e : Fallible σ α) (throw e : Fallible τ α') :=
  fun _ _ hst => .inr ⟨rfl, hst⟩

theorem lockstep_get : Lockstep F R R (get : Fallible σ σ) (get : Fallible τ τ) :=
  fun _ _ hst => ⟨hst, hst⟩

theorem lockstep_modify {f : σ → σ} {g : τ → τ} (h : ∀ s t, R s t → R (f s) (g t)) :
    Lockstep F R Eq (modify f : Fallible σ PUnit) (modify g : Fallible τ PUnit) :=
  fun s t hst => ⟨rfl, h s t hst⟩

/-- A calculation that answers goes on with the next line. -/
theorem lift_ok_bind (a : α) (f : α → Fallible σ β) :
    ((liftM (.ok a : Except Fault α) : Fallible σ α) >>= f) = f a := rfl

theorem lockstep_lift (x : Except Fault α) :
    Lockstep F R Eq (liftM x : Fallible σ α) (liftM x : Fallible τ α) := by
  intro s t hst
  cases x with
  | ok a => exact ⟨rfl, hst⟩
  | error e => exact .inr ⟨rfl, hst⟩

theorem lockstep_bind {x : Fallible σ α} {y : Fallible τ α'} {f : α → Fallible σ β}
    {g : α' → Fallible τ β'} (h : Lockstep F R A x y)
    (hfg : ∀ a b, A a b → Lockstep F R B (f a) (g b)) : Lockstep F R B (x >>= f) (y >>= g) := by
  intro s t hst
  have hmeet := h s t hst
  show Meet F R B (EStateM.bind x f s) (EStateM.bind y g t)
  unfold EStateM.bind
  cases hx : x s with
  | ok a s' =>
    rw [hx] at hmeet
    cases hy : y t with
    | ok b t' =>
      rw [hy] at hmeet
      exact hfg a b hmeet.1 s' t' hmeet.2
    | error e t' =>
      rw [hy] at hmeet
      exact meet_error_right hmeet _ e t'
  | error e s' =>
    rw [hx] at hmeet
    cases hy : y t with
    | ok b t' =>
      rw [hy] at hmeet
      exact meet_error_left hmeet e s' _
    | error e' t' =>
      rw [hy] at hmeet
      exact hmeet

/-- Both programs go on with the same answer. -/
theorem lockstep_bind_eq {x : Fallible σ α} {y : Fallible τ α} {f : α → Fallible σ β}
    {g : α → Fallible τ β'} (h : Lockstep F R Eq x y) (hfg : ∀ a, Lockstep F R B (f a) (g a)) :
    Lockstep F R B (x >>= f) (y >>= g) :=
  lockstep_bind h (by
    rintro a _ rfl
    exact hfg a)

theorem lockstep_map {x : Fallible σ α} {y : Fallible τ α'} {f : α → β} {g : α' → β'}
    (h : Lockstep F R A x y) (hfg : ∀ a b, A a b → B (f a) (g b)) :
    Lockstep F R B (f <$> x) (g <$> y) := by
  rw [map_eq_pure_bind, map_eq_pure_bind]
  exact lockstep_bind h fun a b hab => lockstep_pure (hfg a b hab)

theorem lockstep_discard {x : Fallible σ α} {y : Fallible τ α'} (h : Lockstep F R A x y) :
    Lockstep F R Eq (discard x) (discard y) :=
  lockstep_map h fun _ _ _ => rfl

theorem lockstep_forM {xs : List γ} {f : γ → Fallible σ PUnit} {g : γ → Fallible τ PUnit}
    (h : ∀ c, Lockstep F R Eq (f c) (g c)) : Lockstep F R Eq (xs.forM f) (xs.forM g) := by
  induction xs with
  | nil => exact lockstep_pure rfl
  | cons c xs ih => exact lockstep_bind_eq (h c) fun _ => ih

theorem lockstep_mapM {xs : List γ} {f : γ → Fallible σ α} {g : γ → Fallible τ α}
    (h : ∀ c, Lockstep F R Eq (f c) (g c)) : Lockstep F R Eq (xs.mapM f) (xs.mapM g) := by
  induction xs with
  | nil => exact lockstep_pure rfl
  | cons c xs ih =>
    rw [List.mapM_cons, List.mapM_cons]
    exact lockstep_bind_eq (h c) fun a => lockstep_bind_eq ih fun as => lockstep_pure rfl

end GpuTrace.Fallible
