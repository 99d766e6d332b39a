import Introspect.Proofs.Dispatch.Choice
import Introspect.Proofs.Session.Reached

/-!
# The methods that calls choose in a session

* `Session.resolve_narrowest`   in every session that is reached, a call of a function whose methods
                                declare classes without virtual subclasses chooses the narrowest
                                method that applies, and what it does when there is none;
* `Session.overloaded`          a function with three methods, the narrowest of which takes numbers.
-/

namespace Introspect

open Signature (ofClasses)

namespace Session

variable {s : Session} {S : ClassId → Prop}

/-- a call chooses the method that applies and is strictly narrower than all others that do; there is
no method when none applies; and otherwise the call is ambiguous among those that are unbeaten -/
theorem resolve_narrowest (hs : Reached s) {f : Nat} {tb : Table}
    (htb : (s.store.function f).table = some tb)
    (hms : ∀ k ∈ tb.methods, (s.store.method k).DeclaresWithin S) (hS : s.hierarchy.Inheriting S)
    (ts : List ClassId) :
    (∀ m, s.store.resolve s.view f (ofClasses ts) = .ok m
        ↔ s.store.Narrowest s.hierarchy tb ts m)
      ∧ (s.store.resolve s.view f (ofClasses ts)
            = .error (.noMethod ((s.store.function f).name ++ signatureText s.view (ofClasses ts)))
          ↔ ∀ k ∈ tb.methods, ¬ s.store.Applies s.hierarchy ts k)
      ∧ ((∃ k ∈ tb.methods, s.store.Applies s.hierarchy ts k) →
          (¬ ∃ m, s.store.Narrowest s.hierarchy tb ts m) →
          ∃ ks : List Nat, ks.Sublist tb.methods ∧ 2 ≤ ks.length
            ∧ (∀ k, k ∈ ks ↔ s.store.Unbeaten s.hierarchy tb ts k)
            ∧ s.store.resolve s.view f (ofClasses ts)
                = .error (.ambiguous
                    ((s.store.function f).name ++ signatureText s.view (ofClasses ts))
                    (ks.map fun k => (Value.method k).display s.view))) := by
  obtain ⟨saved, hfaithful⟩ := hs.faithful
  have hnodup : tb.methods.Nodup := hfaithful.shaped.nodup f tb htb
  have hmade : s.view.hierarchy.Made := hs.made
  have hview : s.view.hierarchy.Inheriting S := hS
  have hok : ∀ m, s.store.resolve s.view f (ofClasses ts) = .ok m
      ↔ s.store.Narrowest s.hierarchy tb ts m :=
    Store.resolve_eq_ok_iff htb hms hmade hview hnodup
  refine ⟨hok, Store.resolve_eq_noMethod_iff htb hms hmade hview, fun happ hnone => ?_⟩
  exact Store.resolve_ambiguous htb hms hmade hview happ fun m hm => hnone ⟨m, (hok m).mp hm⟩

/-! ## A function with three methods -/

/-- a function with methods for one object, for one number and for any number of objects -/
def overloaded : Session := ({} : Session).after [
  .newFunction "size" "size" none,
  .register "size" (some [.className "object"]) [] (.literal .none),
  .register "size" (some [.className "int"]) [] (.literal .none),
  .register "size" none [{ name := "rest", kind := .variadic, hint := none, default := none }]
    (.literal .none)]

theorem runs_overloaded : Runs {} overloaded := by
  refine runs_after _ ?_
  simp [Request.Ordinary, Script.Ordinary]

/-- the classes that these methods declare -/
def ObjectOrInt (c : ClassId) : Prop := c = .object ∨ c = .int

theorem inheriting_overloaded : overloaded.hierarchy.Inheriting ObjectOrInt := by
  have hfamily : ∀ d, ObjectOrInt d → (Hierarchy.base.info d).family ≠ .abstract := by
    have hext := Hierarchy.extends_base 3
    rintro d (rfl | rfl)
    · rw [hext.family .object (by decide +kernel)]
      decide +kernel
    · rw [hext.family .int (by decide +kernel)]
      decide +kernel
  intro c d _ hd
  rw [hierarchy_of_runs runs_overloaded]
  exact Hierarchy.isSubclass_eq_inherits (hfamily d hd) c

theorem declaresWithin_overloaded :
    ∀ k ∈ [0, 1, 2], (overloaded.store.method k).DeclaresWithin ObjectOrInt := by
  intro k hk v hv
  simp only [List.mem_cons, List.not_mem_nil, or_false] at hk
  rcases hk with rfl | rfl | rfl
  · exact ⟨.object, .inl rfl, List.mem_singleton.mp hv⟩
  · exact ⟨.int, .inr rfl, List.mem_singleton.mp hv⟩
  · exact ⟨.object, .inl rfl, List.mem_singleton.mp hv⟩

/-- a call with a number chooses the method for one number, which is narrower than both others -/
theorem resolve_overloaded :
    overloaded.store.resolve overloaded.view 0 (ofClasses [.int]) = .ok 1 := by
  have hhier := hierarchy_of_runs runs_overloaded
  have htable : (overloaded.store.function 0).table = some ⟨[0, 1, 2], .held []⟩ := rfl
  have hobject : overloaded.hierarchy.below [.int] [.object] = true := by
    rw [hhier, Hierarchy.below_cons,
      Hierarchy.isSubclass_of_inherits Hierarchy.base_inherits_int_object]
    rfl
  have hself : overloaded.hierarchy.below [.int] [.int] = true := by
    rw [hhier, Hierarchy.below_cons, Hierarchy.isSubclass_of_inherits
      (Hierarchy.base_inherits (n := 3) (by decide +kernel) (by decide +kernel))]
    rfl
  have hint : (overloaded.store.method 1).parameterTypes 1 = some (ofClasses [.int]) := rfl
  have hothers : ∀ k ∈ [0, 1, 2], k ≠ 1 →
      (overloaded.store.method k).parameterTypes 1 = some (ofClasses [.object]) := by
    intro k hk hne
    simp only [List.mem_cons, List.not_mem_nil, or_false] at hk
    rcases hk with rfl | rfl | rfl
    · rfl
    · exact absurd rfl hne
    · rfl
  refine ((resolve_narrowest (reached_blank.run runs_overloaded).1 htable declaresWithin_overloaded
    inheriting_overloaded [.int]).1 1).mpr ⟨?_, ?_, fun o ho hne _ => ?_⟩
  · exact List.mem_cons_of_mem 0 List.mem_cons_self
  · exact (Method.isApplicable_of_some hint).trans (congrArg Except.ok hself)
  · exact (Store.beats_iff hint (hothers o ho hne)).mpr ⟨by decide, hobject⟩

end Session

end Introspect
