import Introspect.Proofs.Dispatch.Choice

/-!
# Methods that may match

A filter keeps those methods whose classes are related to those of the filter, place by place.  A
call with narrower classes may choose another one: a class may derive from two that are not related.

* `Hierarchy.meets`          at every place, one of two classes is a subclass of the other;
* `Store.exists_methodsOf`   a filter keeps the methods whose classes meet those of the filter;
* `Store.Crossed`            at some place, a class of a call derives from two unrelated classes, that
                             of the filter and that of the method;
* `Store.couldMatch_iff`     a method that applies to a call below the filter is kept unless they are
                             crossed.
-/

namespace Introspect

open Signature (ofClasses)

variable {s : Store} {h : Hierarchy} {S : ClassId → Prop} {us ts : List ClassId} {m : Nat}

/-- at every place, one of the two classes is a subclass of the other -/
def Hierarchy.meets (h : Hierarchy) (as bs : List ClassId) : Bool :=
  (as.zip bs).all fun p => h.isSubclass p.1 p.2 || h.isSubclass p.2 p.1

namespace Method

theorem related_cls (c d : ClassId) :
    related h (.cls c) (.cls d) = .ok (h.isSubclass c d || h.isSubclass d c) := by
  unfold related
  rw [subclassTest, subclassTest]
  cases h.isSubclass c d <;> rfl

theorem couldMatch_of_none {k : Method} (hk : k.parameterTypes ts.length = none) :
    k.couldMatch h (ofClasses ts) = .ok false := by
  unfold couldMatch
  rw [Signature.length_ofClasses, hk]

theorem couldMatch_of_some {k : Method} {ps : List ClassId}
    (hk : k.parameterTypes ts.length = some (ofClasses ps)) :
    k.couldMatch h (ofClasses ts) = .ok (h.meets ts ps) := by
  unfold couldMatch
  rw [Signature.length_ofClasses, hk]
  exact allPairs_eq_ok related_cls ts ps

end Method

namespace Store

theorem couldMatch_total (hm : (s.method m).DeclaresWithin S) (ts : List ClassId) :
    ∃ b, (s.method m).couldMatch h (ofClasses ts) = .ok b := by
  cases hp : (s.method m).parameterTypes ts.length with
  | none => exact ⟨false, Method.couldMatch_of_none hp⟩
  | some sig =>
    obtain ⟨ps, rfl, -⟩ := hm.parameterTypes hp
    exact ⟨_, Method.couldMatch_of_some hp⟩

/-- a filter keeps the methods of a function that may match, in the order of the table -/
theorem exists_methodsOf {f : Nat} {tb : Table} (htb : (s.function f).table = some tb)
    (hms : ∀ k ∈ tb.methods, (s.method k).DeclaresWithin S) (ts : List ClassId) :
    ∃ ms, s.methodsOf h f (some (ofClasses ts)) = .ok ms ∧ ms.Sublist tb.methods
      ∧ ∀ k, k ∈ ms ↔ k ∈ tb.methods ∧ (s.method k).couldMatch h (ofClasses ts) = .ok true := by
  obtain ⟨ms, hkept, hsub, hmem⟩ :=
    exists_filterBy fun k hk => couldMatch_total (h := h) (hms k hk) ts
  refine ⟨ms, ?_, hsub, hmem⟩
  unfold methodsOf
  rw [(table?_eq_ok_iff s f tb).mpr htb]
  exact hkept

/-- at some place of a call, the class of the argument derives from two unrelated classes: that of
the filter, and the one that the method declares -/
def Crossed (s : Store) (h : Hierarchy) (us ts : List ClassId) (m : Nat) : Prop :=
  ∃ i u t p, us[i]? = some u ∧ ts[i]? = some t ∧ s.DeclaresAt us.length i m p
    ∧ h.isSubclass u t = true ∧ h.isSubclass u p = true
    ∧ h.isSubclass t p = false ∧ h.isSubclass p t = false

/-- a method that applies to a call below the filter may match unless they are crossed -/
theorem couldMatch_iff (hm : (s.method m).DeclaresWithin S) (happ : s.Applies h us m)
    (hlen : us.length = ts.length) (hbelow : h.below us ts = true) :
    (s.method m).couldMatch h (ofClasses ts) = .ok true ↔ ¬ s.Crossed h us ts m := by
  obtain ⟨ps, hps, -, hup⟩ := happ.fits hm
  have hmeets : h.meets ts ps = true ↔ ∀ (i : Nat) (t p : ClassId), ts[i]? = some t →
      ps[i]? = some p → (h.isSubclass t p || h.isSubclass p t) = true :=
    all_zip_iff (p := fun t p => h.isSubclass t p || h.isSubclass p t)
  rw [Method.couldMatch_of_some (hlen ▸ hps), Except.ok.injEq, hmeets]
  constructor
  · rintro hrelated ⟨i, u, t, p, -, ht, hp, -, -, htp, hpt⟩
    have hor := hrelated i t p ht ((declaresAt_iff hps).mp hp)
    rw [htp, hpt] at hor
    exact nomatch hor
  · intro hnot i t p ht hp
    by_contra hor
    rw [Bool.not_eq_true, Bool.or_eq_false_iff] at hor
    -- the place is one of the call too
    obtain ⟨hi, -⟩ := List.getElem?_eq_some_iff.mp ht
    have hu : us[i]? = some us[i] := List.getElem?_eq_getElem (hlen ▸ hi)
    exact hnot ⟨i, us[i], t, p, hu, ht, (declaresAt_iff hps).mpr hp,
      all_zip_iff.mp hbelow i _ t hu ht, all_zip_iff.mp hup i _ p hu hp, hor.1, hor.2⟩

end Store

end Introspect
