import Mathlib.Order.Defs.Unbundled
import Introspect.Dispatch.Call

/-!
# Actions on a state

* `bind_eq_ok_iff`       two results one after the other are there when both are;
* `Ends good bad x`      the result `x` is as wanted, or a fault of a given sort;
* `Ends.bind`, `Ends.mapM`   several results one after the other fail as one of them does;
* `Acting.bind_apply` and its companions   what an action does to a given state;
* `Keeps R x`            the action `x` moves every state along `R`, whether it fails or not;
* `Keeps.bind`, `Keeps.orElse`, `Keeps.mapM`, `Keeps.forM`   for a preorder `R`, the actions that do
                         so are closed under the ways in which actions are composed.
-/

namespace Introspect

theorem bind_eq_ok_iff {α β : Type} {x : Except Fault α} {f : α → Except Fault β} {b : β} :
    x >>= f = .ok b ↔ ∃ a, x = .ok a ∧ f a = .ok b := by
  cases x with
  | error e => exact iff_of_false nofun fun ⟨_, h, _⟩ => nomatch h
  | ok a => exact ⟨fun h => ⟨a, rfl, h⟩, fun ⟨_, h, hf⟩ => Except.ok.inj h ▸ hf⟩

theorem bind_of_ok {α β : Type} {x : Except Fault α} {a : α} (h : x = .ok a)
    (f : α → Except Fault β) : x >>= f = f a := by
  rw [h]
  rfl

theorem bind_of_error {α β : Type} {x : Except Fault α} {e : Fault} (h : x = .error e)
    (f : α → Except Fault β) : x >>= f = .error e := by
  rw [h]
  rfl

theorem error_of_discarded {α : Type} {x : Except Fault α} {e : Fault}
    (h : (do let _ ← x; return () : Except Fault Unit) = .error e) : x = .error e := by
  cases x with
  | ok a => exact nomatch h
  | error e' => exact congrArg _ (Except.error.inj h)

/-- a result that is as wanted, or a fault of a given sort -/
inductive Ends {α : Type} (good : α → Prop) (bad : Fault → Prop) : Except Fault α → Prop where
  | ok {a : α} (h : good a) : Ends good bad (.ok a)
  | error {e : Fault} (h : bad e) : Ends good bad (.error e)

namespace Ends

variable {α β : Type} {good : α → Prop} {bad bad' : Fault → Prop} {x : Except Fault α}

theorem mono (h : ∀ e, bad e → bad' e) (hx : Ends good bad x) : Ends good bad' x := by
  cases hx with
  | ok ha => exact .ok ha
  | error he => exact .error (h _ he)

theorem of_result (hx : Ends good bad x) : Ends (fun a => x = .ok a) bad x := by
  cases hx with
  | ok ha => exact .ok rfl
  | error he => exact .error he

theorem of_error {e : Fault} (hx : Ends good bad x) (h : x = .error e) : bad e := by
  subst h
  cases hx with
  | error he => exact he

theorem bind {good' : β → Prop} {f : α → Except Fault β} (hx : Ends good bad x)
    (hf : ∀ a, good a → Ends good' bad (f a)) : Ends good' bad (x >>= f) := by
  cases hx with
  | ok ha => exact hf _ ha
  | error he => exact .error he

theorem map (f : α → β) (hx : Ends good bad x) : Ends (fun _ => True) bad (x.map f) := by
  cases hx with
  | ok ha => exact .ok trivial
  | error he => exact .error he

theorem mapM {f : α → Except Fault β} {as : List α}
    (hf : ∀ a ∈ as, Ends (fun _ => True) bad (f a)) : Ends (fun _ => True) bad (as.mapM f) := by
  induction as with
  | nil => exact .ok trivial
  | cons a as ih =>
    rw [List.mapM_cons]
    refine (hf a List.mem_cons_self).bind fun b _ => ?_
    exact (ih fun x hx => hf x (List.mem_cons_of_mem a hx)).bind fun bs _ => .ok trivial

end Ends

namespace Acting

variable {σ α β : Type}

@[simp] theorem pure_apply (a : α) (s : σ) : (pure a : Acting σ α) s = (.ok a, s) := rfl

@[simp] theorem get_apply (s : σ) : (get : Acting σ σ) s = (.ok s, s) := rfl

@[simp] theorem set_apply (t s : σ) : (set t : Acting σ PUnit) s = (.ok ⟨⟩, t) := rfl

@[simp] theorem modify_apply (f : σ → σ) (s : σ) :
    (modify f : Acting σ PUnit) s = (.ok ⟨⟩, f s) := rfl

@[simp] theorem mk_pure_apply (r : Except Fault α) (s : σ) :
    (ExceptT.mk (pure r) : Acting σ α) s = (r, s) := rfl

@[simp] theorem liftExcept_apply (r : Except Fault α) (s : σ) :
    (liftM r : Acting σ α) s = (r, s) := by
  cases r <;> rfl

theorem bind_apply (x : Acting σ α) (f : α → Acting σ β) (s : σ) :
    (x >>= f) s = match x s with
      | (.ok a, t) => f a t
      | (.error e, t) => (.error e, t) := by
  show (x s >>= fun r => ExceptT.bindCont f r.1 r.2) = _
  rcases x s with ⟨_ | _, _⟩ <;> rfl

@[simp] theorem bind_of_ok {x : Acting σ α} {f : α → Acting σ β} {s t : σ} {a : α}
    (h : x s = (.ok a, t)) : (x >>= f) s = f a t := by
  rw [bind_apply, h]

@[simp] theorem bind_of_error {x : Acting σ α} {f : α → Acting σ β} {s t : σ} {e : Fault}
    (h : x s = (.error e, t)) : (x >>= f) s = (.error e, t) := by
  rw [bind_apply, h]

theorem orElse_apply (x y : Acting σ α) (s : σ) :
    (tryCatch x fun _ => y) s = match x s with
      | (.ok a, t) => (.ok a, t)
      | (.error _, t) => y t := by
  simp only [tryCatch, tryCatchThe, MonadExceptOf.tryCatch, ExceptT.tryCatch, ExceptT.mk, bind,
    StateT.bind]
  rcases x s with ⟨_ | _, _⟩ <;> rfl

end Acting

/-- an action moves every state along a relation -/
def Keeps {σ α : Type} (R : σ → σ → Prop) (x : Acting σ α) : Prop := ∀ s, R s (x s).2

namespace Keeps

theorem mono {σ α : Type} {R R' : σ → σ → Prop} (h : ∀ s t, R s t → R' s t) {x : Acting σ α}
    (hx : Keeps R x) : Keeps R' x :=
  fun s => h s (x s).2 (hx s)

variable {σ α β : Type} {R : σ → σ → Prop} [IsPreorder σ R]

theorem pure (a : α) : Keeps R (Pure.pure a : Acting σ α) := fun s => refl_of R s

theorem throw (e : Fault) : Keeps R (MonadExcept.throw e : Acting σ α) := fun s => refl_of R s

theorem get : Keeps R (MonadState.get : Acting σ σ) := fun s => refl_of R s

theorem liftExcept (r : Except Fault α) : Keeps R (liftM r : Acting σ α) := fun s => by
  rw [Acting.liftExcept_apply]
  exact refl_of R s

theorem bind {x : Acting σ α} {f : α → Acting σ β} (hx : Keeps R x) (hf : ∀ a, Keeps R (f a)) :
    Keeps R (x >>= f) := by
  intro s
  have hs := hx s
  rw [Acting.bind_apply]
  rcases h : x s with ⟨r, t⟩
  rw [h] at hs
  cases r with
  | ok a => exact trans_of R hs (hf a t)
  | error e => exact hs

theorem orElse {x y : Acting σ α} (hx : Keeps R x) (hy : Keeps R y) :
    Keeps R (tryCatch x fun _ => y) := by
  intro s
  have hs := hx s
  rw [Acting.orElse_apply]
  rcases h : x s with ⟨r, t⟩
  rw [h] at hs
  cases r with
  | ok a => exact hs
  | error e => exact trans_of R hs (hy t)

theorem mapM {f : α → Acting σ β} {as : List α} (hf : ∀ a ∈ as, Keeps R (f a)) :
    Keeps R (as.mapM f) := by
  induction as with
  | nil => exact pure []
  | cons a as ih =>
    rw [List.mapM_cons]
    exact (hf a List.mem_cons_self).bind fun b =>
      (ih fun x hx => hf x (List.mem_cons_of_mem _ hx)).bind fun bs => pure (b :: bs)

theorem forM {f : α → Acting σ PUnit} {as : List α} (hf : ∀ a ∈ as, Keeps R (f a)) :
    Keeps R (as.forM f) := by
  induction as with
  | nil => exact pure PUnit.unit
  | cons a as ih =>
    show Keeps R (f a >>= fun _ => as.forM f)
    exact (hf a List.mem_cons_self).bind fun _ => ih fun x hx => hf x (List.mem_cons_of_mem _ hx)

end Keeps

end Introspect
