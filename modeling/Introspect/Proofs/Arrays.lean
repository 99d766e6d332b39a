/-!
# Arrays as tables

Tables are arrays whose elements are looked up by their places, with a default outside.

* `getD_push`, `getD_modify`   a lookup after an addition or a change is the lookup before, except at
                               the one place that was added or changed;
* `apply_getD_modify`          what a change leaves alone is the same everywhere;
* `modify_self`                a change that changes nothing.
-/

namespace Introspect

variable {α β : Type}

theorem getD_push (xs : Array α) (x d : α) (i : Nat) :
    (xs.push x).getD i d = if i = xs.size then x else xs.getD i d := by
  rw [Array.getD_eq_getD_getElem?, Array.getD_eq_getD_getElem?, Array.getElem?_push]
  by_cases h : i = xs.size
  · rw [if_pos h, if_pos h]
    rfl
  · rw [if_neg h, if_neg h]

theorem getD_modify (xs : Array α) (f : α → α) (d : α) {i : Nat} (hi : i < xs.size) (j : Nat) :
    (xs.modify i f).getD j d = if i = j then f (xs.getD j d) else xs.getD j d := by
  rw [Array.getD_eq_getD_getElem?, Array.getD_eq_getD_getElem?, Array.getElem?_modify]
  by_cases h : i = j
  · subst h
    rw [if_pos rfl, if_pos rfl, Array.getElem?_eq_getElem hi]
    rfl
  · rw [if_neg h, if_neg h]

theorem apply_getD_modify (p : α → β) {f : α → α} (hp : ∀ x, p (f x) = p x) (xs : Array α) (d : α)
    (i j : Nat) : p ((xs.modify i f).getD j d) = p (xs.getD j d) := by
  rw [Array.getD_eq_getD_getElem?, Array.getD_eq_getD_getElem?, Array.getElem?_modify]
  by_cases h : i = j
  · subst h
    rw [if_pos rfl]
    cases xs[i]? with
    | none => rfl
    | some x => exact hp x
  · rw [if_neg h]

theorem modify_self {xs : Array α} {f : α → α} {d : α} {i : Nat}
    (h : f (xs.getD i d) = xs.getD i d) : xs.modify i f = xs := by
  refine Array.ext_getElem? fun j => ?_
  rw [Array.getElem?_modify]
  by_cases hij : i = j
  · subst hij
    rw [if_pos rfl]
    rw [Array.getD_eq_getD_getElem?] at h
    cases hx : xs[i]? with
    | none => rfl
    | some x =>
      rw [hx, Option.getD_some] at h
      rw [Option.map_some, h]
  · rw [if_neg hij]

end Introspect
