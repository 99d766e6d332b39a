import Introspect.Dispatch.Call
import Introspect.Proofs.Arrays

/-!
# What the operations of the store change

Functions, methods and variants are looked up by their places.  A lookup after an addition or a
change is the lookup before, except at the one place that was added or changed.

* `Store.function_modifyFunction`, `Store.method_modifyMethod`, `Store.variant_modifyVariant`
                                     a lookup after a change;
* `Store.register_eq_ok_iff`         all that a registration does.
-/

namespace Introspect

namespace Store

variable (s : Store)

/-! ## Changes at one place -/

theorem function_modifyFunction (g : Function → Function) {f : Nat} (hf : f < s.functions.size)
    (k : Nat) :
    (s.modifyFunction f g).function k = if f = k then g (s.function k) else s.function k :=
  getD_modify s.functions g default hf k

theorem method_modifyMethod (g : Method → Method) {m : Nat} (hm : m < s.methods.size) (k : Nat) :
    (s.modifyMethod m g).method k = if m = k then g (s.method k) else s.method k :=
  getD_modify s.methods g default hm k

theorem variant_modifyVariant (g : Variant → Variant) {v : Nat} (hv : v < s.variants.size)
    (k : Nat) :
    (s.modifyVariant v g).variant k = if v = k then g (s.variant k) else s.variant k :=
  getD_modify s.variants g default hv k

@[simp] theorem size_modifyFunction (f : Nat) (g : Function → Function) :
    (s.modifyFunction f g).functions.size = s.functions.size :=
  Array.size_modify

@[simp] theorem size_modifyMethod (m : Nat) (g : Method → Method) :
    (s.modifyMethod m g).methods.size = s.methods.size :=
  Array.size_modify

@[simp] theorem size_modifyVariant (v : Nat) (g : Variant → Variant) :
    (s.modifyVariant v g).variants.size = s.variants.size :=
  Array.size_modify

/-! ## Functions and their tables -/

/-- only places in range hold a function with a table -/
theorem function_lt {f : Nat} {t : Table} (h : (s.function f).table = some t) :
    f < s.functions.size := by
  refine Nat.lt_of_not_le fun hf => ?_
  have hnone : s.function f = default := by
    unfold function
    rw [Array.getD_eq_getD_getElem?, Array.getElem?_eq_none hf]
    rfl
  rw [hnone] at h
  exact nomatch (show (none : Option Table) = some t from h)

theorem table?_eq_ok_iff (f : Nat) (t : Table) :
    s.table? f = .ok t ↔ (s.function f).table = some t := by
  unfold table?
  cases (s.function f).table with
  | none => simp
  | some u => simp

theorem function_addFunction (fn : Function) (k : Nat) :
    (s.addFunction fn).1.function k = if k = s.functions.size then fn else s.function k :=
  getD_push s.functions fn default k

/-- a change of a table reaches no other field of a function, and no other function -/
theorem function_modifyTable (g : Table → Table) {f : Nat} (hf : f < s.functions.size) (k : Nat) :
    (s.modifyTable f g).function k
      = { s.function k with
          table := if f = k then (s.function k).table.map g else (s.function k).table } := by
  unfold modifyTable
  rw [function_modifyFunction s _ hf]
  by_cases h : f = k
  · rw [if_pos h, if_pos h]
  · rw [if_neg h, if_neg h]

/-! ## Methods and variants -/

/-- all that a registration does: the method takes the next place, which goes to the end of the
table, and a method with the same declared parameters leaves the table -/
theorem register_eq_ok_iff (m : Method) (t : Store) (i : Nat) :
    s.register m = .ok (t, i) ↔
      ∃ tb, (s.function m.function).table = some tb ∧ i = s.methods.size
        ∧ t = { s with methods := s.methods.push m }.modifyTable m.function fun u =>
            { u with
              methods := (tb.methods.filter fun n => !(s.method n).sameKey m)
                ++ [s.methods.size] } := by
  unfold register table?
  cases h : (s.function m.function).table with
  | none => simp [bind, Except.bind]
  | some tb =>
    simp only [bind, Except.bind, Except.ok.injEq, Prod.mk.injEq, Option.some.injEq]
    constructor
    · rintro ⟨ht, hi⟩
      exact ⟨tb, rfl, hi.symm, ht.symm⟩
    · rintro ⟨tb', rfl, hi, ht⟩
      exact ⟨ht.symm, hi.symm⟩

theorem method_push (m : Method) (k : Nat) :
    ({ s with methods := s.methods.push m } : Store).method k
      = if k = s.methods.size then m else s.method k :=
  getD_push s.methods m default k

theorem variant_addVariant (m : Nat) (types : Signature) (k : Nat) :
    (s.addVariant m types).1.variant k
      = if k = s.variants.size then ⟨m, types, .missing⟩ else s.variant k :=
  getD_push s.variants ⟨m, types, .missing⟩ default k

end Store

end Introspect
