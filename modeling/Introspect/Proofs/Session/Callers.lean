import Introspect.Proofs.Session.Reached

/-!
# The edges of variants are their callers

* `dependents_eq_ofCallers`   in every session that is reached, a variant lists the variants from
                              inside which it was called, and a call that is refused changes nothing.
-/

namespace Introspect.Session

open Signature (ofClasses)

/-- nothing changes when a call finds no method -/
theorem callWithin_of_refused {s : Session} {f : Nat} {args : List Value} {e : Fault}
    (h : s.store.resolve s.view f (ofClasses (argumentClasses s.hierarchy args)) = .error e)
    (n : Nat) (named : List (String × Value)) :
    callWithin (n + 1) f args named s = (.error e, s) := by
  have henter : Store.enter s.viewWith f (argumentClasses s.hierarchy args) s.store
      = (.error e, s.store) := Store.enter_of_error h
  have hfind : findMethod f args s = (.error e, s) := by
    rw [findMethod_apply, henter]
  exact Acting.bind_of_error hfind

/-- the edges of a variant are the variants from inside which it was called, each once and in the
order of the first such call; there is no list when there was none.  The variant that is being
executed is that of the innermost call, and a call that is refused changes nothing. -/
theorem dependents_eq_ofCallers {s : Session} (hs : s.Reached) :
    (∀ v < s.store.variants.size,
        (s.store.variant v).dependents = .ofCallers (callersOf v (calls s.store.journal)))
      ∧ s.store.active = (executing s.store.journal).head?
      ∧ ∀ (n f : Nat) (args : List Value) (named : List (String × Value)) (e : Fault),
          s.store.resolve s.view f (ofClasses (argumentClasses s.hierarchy args)) = .error e →
            callWithin (n + 1) f args named s = (.error e, s) := by
  obtain ⟨saved, hfaithful⟩ := hs.faithful
  exact ⟨hfaithful.wired, hfaithful.active_eq,
    fun n f args named e he => callWithin_of_refused he n named⟩

/-- the function that is called twice has its caller listed once, and the caller has none -/
theorem dependents_failingTwice :
    (failingTwice.store.variant 1).dependents = .held [.variant 0]
      ∧ (failingTwice.store.variant 0).dependents = .missing
      ∧ failingTwice.store.active = none
      ∧ ∃ e, callWithin 1 0 [.none] [] failingTwice = (.error e, failingTwice) := by
  obtain ⟨hedges, hactive, hrefused⟩ := dependents_eq_ofCallers reached_failingTwice
  exact ⟨(hedges 1 (by decide +kernel)).trans rfl, (hedges 0 (by decide +kernel)).trans rfl,
    hactive.trans rfl, _, hrefused 0 0 [.none] [] _ rfl⟩

end Introspect.Session
