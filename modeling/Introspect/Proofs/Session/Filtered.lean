import Introspect.Proofs.Dispatch.Filter
import Introspect.Proofs.Session.Listing

/-!
# What a filter hides

The methods of a function, and its variants, can be listed for the classes of a filter.  Of the
methods that calls below the filter choose, and of the variants that they reached, the filter hides
those for which the classes are crossed: the argument derives from two unrelated classes.

* `Session.hidden_iff_crossed`   in every session that is reached, this is all that a filter hides
                                 below itself;
* `Session.sampled`              a call with a number that is also an enumeration.
-/

namespace Introspect

open Signature (ofClasses)

/-- the method of a variant that is read applies to the types of the variant -/
theorem Running.Faithful.applies_of_mem_variantsFor {hier : Hierarchy} {s : Store}
    {saved : List (Option Nat)} (h : Faithful hier ⟨s, saved⟩) {m v : Nat}
    (hm : m < s.methods.size) {reader : Layout} (hv : v ∈ s.variantsFor reader m)
    {us : List ClassId} (htypes : (s.variant v).types = ofClasses us) : s.Applies hier us m := by
  unfold Store.variantsFor at hv
  split at hv
  · obtain ⟨c, hc, rfl, rfl⟩ := (h.mem_storage_iff hm v).mp hv
    obtain ⟨-, -, -, -, hcalled⟩ := h.stored.called c hc
    obtain rfl := Signature.ofClasses_injective (hcalled.symm.trans htypes)
    exact h.applied c hc
  · exact absurd hv List.not_mem_nil

namespace Session

variable {s : Session}

/-- of the methods that calls with narrower classes choose, and of the variants with narrower classes,
a filter hides those where the class of an argument derives from two unrelated classes: that of the
filter, and the one that the method declares -/
theorem hidden_iff_crossed (hs : Reached s) {f : Nat} {tb : Table}
    (htb : (s.store.function f).table = some tb)
    (hms : ∀ k ∈ tb.methods, (s.store.method k).DeclaresWithin fun _ => True)
    (reader : Layout) (ts : List ClassId) :
    ∃ ms owned filtered,
      s.store.methodsOf s.hierarchy f (some (ofClasses ts)) = .ok ms
      ∧ (specializations s.store s.view reader.source (.generic f) none).result = .ok owned
      ∧ (specializations s.store s.view reader.source (.generic f) (some (ofClasses ts))).result
          = .ok filtered
      ∧ ms.Sublist tb.methods ∧ filtered ⊆ owned
      ∧ ∀ us : List ClassId, us.length = ts.length → s.hierarchy.below us ts = true →
          (∀ m, s.store.resolve s.view f (ofClasses us) = .ok m →
              (m ∈ ms ↔ ¬ s.store.Crossed s.hierarchy us ts m))
            ∧ ∀ v m, (v, m) ∈ owned → (s.store.variant v).types = ofClasses us →
              ((v, m) ∈ filtered ↔ ¬ s.store.Crossed s.hierarchy us ts m) := by
  obtain ⟨saved, h⟩ := hs.faithful
  obtain ⟨ms, hkept, hsub, hmem⟩ := Store.exists_methodsOf (h := s.hierarchy) htb hms ts
  have hall : s.store.methodsOf s.view.hierarchy f none = .ok tb.methods :=
    Store.methodsOf_none htb s.hierarchy
  obtain ⟨owned, howned, -, hmemowned⟩ := h.listing_eq htb hall (List.Subset.refl _) reader
  have hsome : s.store.methodsOf s.view.hierarchy f (some (ofClasses ts)) = .ok ms := hkept
  obtain ⟨filtered, hfiltered, -, hmemfiltered⟩ := h.listing_eq htb hsome hsub.subset reader
  -- a method of the table that applies below the filter is kept unless they are crossed
  have hkept_iff : ∀ {us : List ClassId} {m}, us.length = ts.length →
      s.hierarchy.below us ts = true → m ∈ tb.methods → s.store.Applies s.hierarchy us m →
      (m ∈ ms ↔ ¬ s.store.Crossed s.hierarchy us ts m) := by
    intro us m hlen hbelow hm happ
    rw [hmem, and_iff_right hm]
    exact Store.couldMatch_iff (hms m hm) happ hlen hbelow
  refine ⟨ms, owned, filtered, hkept, howned, hfiltered, hsub, ?_, fun us hlen hbelow => ⟨?_, ?_⟩⟩
  · rintro ⟨v, m⟩ he
    obtain ⟨hm, hv⟩ := (hmemfiltered v m).mp he
    exact (hmemowned v m).mpr ⟨hsub.subset hm, hv⟩
  · intro m hres
    obtain ⟨t, ht, hm, happ⟩ := Store.resolve_eq_ok hres
    obtain rfl := Option.some.inj (htb.symm.trans ht)
    exact hkept_iff hlen hbelow hm happ
  · intro v m he htypes
    obtain ⟨hm, hv⟩ := (hmemowned v m).mp he
    rw [hmemfiltered, and_iff_left hv]
    exact hkept_iff hlen hbelow hm
      (h.applies_of_mem_variantsFor (h.shaped.listed f tb htb m hm).1 hv htypes)

end Session

/-! ## A number that is also an enumeration -/

namespace Hierarchy

theorem base_numberSample : base.isSubclass .numberSample .int = true
    ∧ base.isSubclass .numberSample .reprEnum = true :=
  ⟨isSubclass_of_inherits (base_inherits (n := 69) (by decide +kernel) (by decide +kernel)),
    isSubclass_of_inherits (base_inherits (n := 69) (by decide +kernel) (by decide +kernel))⟩

/-- numbers and enumerations whose members are shown as what they hold are unrelated -/
theorem base_int_reprEnum : base.isSubclass .int .reprEnum = false
    ∧ base.isSubclass .reprEnum .int = false := by
  have hext := extends_base 29
  have hint : (base.info .int).family ≠ .abstract := by
    rw [hext.family .int (by decide +kernel)]
    decide +kernel
  have hrepr : (base.info .reprEnum).family ≠ .abstract := by
    rw [hext.family .reprEnum (by decide +kernel)]
    decide +kernel
  rw [isSubclass_eq_inherits hint, isSubclass_eq_inherits hrepr,
    hext.inherits (c := .int) (by decide +kernel), hext.inherits (c := .reprEnum) (by decide +kernel)]
  decide +kernel

end Hierarchy

namespace Session

/-- a function that takes a number -/
def takingNumber : Session := ({} : Session).after [
  .newFunction "f" "f" none,
  .register "f" (some [.className "int"])
    [{ name := "x", kind := .positional, hint := none, default := none }] (.literal .none)]

/-- the session inside of a call with a member of an enumeration of numbers -/
def sampled : Session :=
  takingNumber.entered 0 [.instanceOf .numberSample 0] ⟨0, [.numberSample], 0, 0⟩

theorem runs_takingNumber : Runs {} takingNumber := by
  refine runs_after _ ?_
  simp [Request.Ordinary, Script.Ordinary]

/-- a store whose only method takes numbers chooses it for such a member -/
theorem resolve_numberSample {s : Store} {view : Surroundings}
    (hview : view.hierarchy = Hierarchy.base)
    (htable : (s.function 0).table = some ⟨[0], .held []⟩)
    (htypes : (s.method 0).parameterTypes 1 = some (ofClasses [.int])) :
    s.resolve view 0 (ofClasses [.numberSample]) = .ok 0 := by
  have hbelow : view.hierarchy.below [.numberSample] [.int] = true := by
    rw [hview, Hierarchy.below_cons, Hierarchy.base_numberSample.1]
    rfl
  exact Store.resolve_of_alone htable htypes hbelow

theorem reached_sampled : Reached sampled ∧ sampled.hierarchy = Hierarchy.base
    ∧ (sampled.store.function 0).table = some ⟨[0], .held []⟩
    ∧ (sampled.store.method 0).parameterTypes 1 = some (ofClasses [.int])
    ∧ (∀ k ∈ [0], (sampled.store.method k).DeclaresWithin fun _ => True)
    ∧ (sampled.store.variant 0).types = ofClasses [.numberSample]
    ∧ (specializations sampled.store sampled.view slotsSource (.generic 0) none).result
        = .ok [(0, 0)] := by
  have hhier := hierarchy_of_runs runs_takingNumber
  have hview : (takingNumber.viewWith takingNumber.store).hierarchy = Hierarchy.base := by
    rw [hierarchy_viewWith, hhier]
  have henter := Store.enter_of_idle (v := 0) (resolve_numberSample hview rfl rfl) rfl rfl
  have hclasses : argumentClasses takingNumber.hierarchy [.instanceOf .numberSample 0]
      = [.numberSample] := rfl
  have hnext : Next takingNumber sampled := by
    refine .entered 0 _ ?_
    rw [hclasses, henter]
  have hruns := runs_takingNumber.tail hnext
  refine ⟨(reached_blank.run hruns).1, hierarchy_of_runs hruns, ?_⟩
  unfold sampled entered
  rw [hclasses, henter]
  refine ⟨rfl, rfl, fun k hk v hv => ?_, rfl, rfl⟩
  rw [List.mem_singleton.mp hk] at hv
  exact ⟨.int, trivial, List.mem_singleton.mp hv⟩

theorem crossed_sampled :
    sampled.store.Crossed sampled.hierarchy [.numberSample] [.reprEnum] 0 := by
  obtain ⟨-, hhier, -, htypes, -⟩ := reached_sampled
  rw [hhier]
  exact ⟨0, .numberSample, .reprEnum, .int, rfl, rfl, ⟨[.int], htypes, rfl⟩,
    Hierarchy.base_numberSample.2, Hierarchy.base_numberSample.1,
    Hierarchy.base_int_reprEnum.2, Hierarchy.base_int_reprEnum.1⟩

/-- a filter for enumerations hides the method that the member chooses, and the variant that it
reaches -/
theorem hidden_sampled :
    sampled.store.resolve sampled.view 0 (ofClasses [.numberSample]) = .ok 0
      ∧ sampled.store.methodsOf sampled.hierarchy 0 (some (ofClasses [.reprEnum])) = .ok []
      ∧ (sampled.store.variant 0).types = ofClasses [.numberSample]
      ∧ (specializations sampled.store sampled.view slotsSource (.generic 0) none).result
          = .ok [(0, 0)]
      ∧ (specializations sampled.store sampled.view slotsSource (.generic 0)
          (some (ofClasses [.reprEnum]))).result = .ok [] := by
  obtain ⟨hreached, hhier, htable, htypes, hdeclares, hvariant, hlisted⟩ := reached_sampled
  have hview : sampled.view.hierarchy = Hierarchy.base := by rw [hierarchy_view, hhier]
  have hres := resolve_numberSample hview htable htypes
  obtain ⟨ms, owned, filtered, hms, howned, hfiltered, hsub, hsubset, hbelow⟩ :=
    hidden_iff_crossed hreached htable hdeclares .slots [.reprEnum]
  obtain rfl : owned = [(0, 0)] := Except.ok.inj (howned.symm.trans hlisted)
  have hle : sampled.hierarchy.below [.numberSample] [.reprEnum] = true := by
    rw [hhier, Hierarchy.below_cons, Hierarchy.base_numberSample.2]
    rfl
  obtain ⟨hchosen, hreads⟩ := hbelow [.numberSample] rfl hle
  have hm : 0 ∉ ms := fun hm => (hchosen 0 hres).mp hm crossed_sampled
  have hv : (0, 0) ∉ filtered := fun hv =>
    (hreads 0 0 List.mem_cons_self hvariant).mp hv crossed_sampled
  obtain rfl : ms = [] := List.eq_nil_iff_forall_not_mem.mpr fun k hk =>
    hm (List.mem_singleton.mp (hsub.subset hk) ▸ hk)
  obtain rfl : filtered = [] := List.eq_nil_iff_forall_not_mem.mpr fun e he =>
    hv (List.mem_singleton.mp (hsubset he) ▸ he)
  exact ⟨hres, hms, hvariant, hlisted, hfiltered⟩

end Session

end Introspect
