import Introspect.Proofs.Acting

/-!
# Actions in step

Two actions are in step when from related states they come to results that agree and to states that
are related again.

* `Agree Q`         two results agree: the values correspond by `Q`, or the faults are the same;
* `InStep R Q`      two actions are in step, for related states and corresponding values;
* `InStep.bind`, `InStep.orElse`, `InStep.mapM`   actions that are composed from actions in step are
                    in step.
-/

namespace Introspect

variable {σ τ α β γ δ : Type}

/-- two results agree: their values correspond, or their faults are the same -/
def Agree (Q : α → β → Prop) : Except Fault α → Except Fault β → Prop
  | .ok a, .ok b => Q a b
  | .error e, .error e' => e = e'
  | _, _ => False

namespace Agree

theorem of_eq {x y : Except Fault α} (h : x = y) : Agree Eq x y := by
  subst h
  cases x with
  | ok a => exact Eq.refl a
  | error e => exact Eq.refl e

theorem eq {x y : Except Fault α} (h : Agree Eq x y) : x = y := by
  match x, y, h with
  | .ok a, .ok b, h => exact congrArg Except.ok h
  | .error e, .error e', h => exact congrArg Except.error h

theorem mono {Q Q' : α → β → Prop} (hQ : ∀ a b, Q a b → Q' a b) {x : Except Fault α}
    {y : Except Fault β} (h : Agree Q x y) : Agree Q' x y := by
  match x, y, h with
  | .ok a, .ok b, h => exact hQ a b h
  | .error e, .error e', h => exact h

end Agree

/-- two actions are in step -/
def InStep (R : σ → τ → Prop) (Q : α → β → Prop) (x : Acting σ α) (y : Acting τ β) : Prop :=
  ∀ s t, R s t → Agree Q (x s).1 (y t).1 ∧ R (x s).2 (y t).2

namespace InStep

variable {R : σ → τ → Prop} {Q : α → β → Prop} {P : γ → δ → Prop}

theorem mono {Q' : α → β → Prop} (hQ : ∀ a b, Q a b → Q' a b) {x : Acting σ α} {y : Acting τ β}
    (h : InStep R Q x y) : InStep R Q' x y :=
  fun s t hst => ⟨(h s t hst).1.mono hQ, (h s t hst).2⟩

theorem pure {a : α} {b : β} (h : Q a b) :
    InStep R Q (Pure.pure a : Acting σ α) (Pure.pure b : Acting τ β) :=
  fun _ _ hst => ⟨h, hst⟩

theorem throw (e : Fault) :
    InStep R Q (MonadExcept.throw e : Acting σ α) (MonadExcept.throw e : Acting τ β) :=
  fun _ _ hst => ⟨rfl, hst⟩

theorem liftExcept {x : Except Fault α} {y : Except Fault β} (h : Agree Q x y) :
    InStep R Q (liftM x : Acting σ α) (liftM y : Acting τ β) := by
  intro s t hst
  rw [Acting.liftExcept_apply, Acting.liftExcept_apply]
  exact ⟨h, hst⟩

theorem bind {x : Acting σ α} {y : Acting τ β} {f : α → Acting σ γ} {g : β → Acting τ δ}
    (hx : InStep R Q x y) (hf : ∀ a b, Q a b → InStep R P (f a) (g b)) :
    InStep R P (x >>= f) (y >>= g) := by
  intro s t hst
  obtain ⟨hagree, hrel⟩ := hx s t hst
  rw [Acting.bind_apply, Acting.bind_apply]
  rcases hxs : x s with ⟨r, s'⟩
  rcases hyt : y t with ⟨r', t'⟩
  rw [hxs, hyt] at hagree hrel
  match r, r', hagree with
  | .ok a, .ok b, hab => exact hf a b hab s' t' hrel
  | .error e, .error e', he => exact ⟨he, hrel⟩

/-- the same value is handed on -/
theorem bind_eq {x : Acting σ α} {y : Acting τ α} {f : α → Acting σ γ} {g : α → Acting τ δ}
    (hx : InStep R Eq x y) (hf : ∀ a, InStep R P (f a) (g a)) :
    InStep R P (x >>= f) (y >>= g) :=
  hx.bind fun a _ hab => hab ▸ hf a

/-- what follows may depend on the states -/
theorem get_bind {f : σ → Acting σ γ} {g : τ → Acting τ δ}
    (h : ∀ s t, R s t → InStep R P (f s) (g t)) :
    InStep R P (MonadState.get >>= f) (MonadState.get >>= g) :=
  fun s t hst => h s t hst s t hst

theorem orElse {x x' : Acting σ α} {y y' : Acting τ β} (hx : InStep R Q x y)
    (hx' : InStep R Q x' y') :
    InStep R Q (tryCatch x fun _ => x') (tryCatch y fun _ => y') := by
  intro s t hst
  obtain ⟨hagree, hrel⟩ := hx s t hst
  rw [Acting.orElse_apply, Acting.orElse_apply]
  rcases hxs : x s with ⟨r, s'⟩
  rcases hyt : y t with ⟨r', t'⟩
  rw [hxs, hyt] at hagree hrel
  match r, r', hagree with
  | .ok a, .ok b, hab => exact ⟨hab, hrel⟩
  | .error e, .error e', _ => exact hx' s' t' hrel

theorem mapM {f : α → Acting σ γ} {g : α → Acting τ γ} {as : List α}
    (h : ∀ a, InStep R Eq (f a) (g a)) : InStep R Eq (as.mapM f) (as.mapM g) := by
  induction as with
  | nil => exact pure rfl
  | cons a as ih =>
    rw [List.mapM_cons, List.mapM_cons]
    exact (h a).bind_eq fun b => ih.bind_eq fun bs => pure rfl

end InStep

end Introspect
