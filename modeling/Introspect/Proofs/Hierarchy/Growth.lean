import Mathlib.Order.Defs.Unbundled
import Introspect.Hierarchy.Builtin
import Introspect.Proofs.Arrays

/-!
# Hierarchies grow

Classes are only ever added, and adopting a class changes no resolution order.

* `Hierarchy.Extends`     the classes that were there keep their resolution orders and families;
* `extends_declare`, `extends_adopt`   making and adopting classes does so;
* `extends_base`          the base hierarchy grows out of its first builtin classes.
-/

namespace Introspect.Hierarchy

/-- the classes that were there keep their resolution orders and families -/
structure Extends (h h' : Hierarchy) : Prop where
  size : h.size ≤ h'.size
  mro : ∀ c : ClassId, c.index < h.size → h'.mro c = h.mro c
  family : ∀ c : ClassId, c.index < h.size → (h'.info c).family = (h.info c).family

instance : IsPreorder Hierarchy Extends where
  refl _ := ⟨Nat.le_refl _, fun _ _ => rfl, fun _ _ => rfl⟩
  trans _ _ _ h h' := ⟨Nat.le_trans h.size h'.size,
    fun c hc => (h'.mro c (Nat.lt_of_lt_of_le hc h.size)).trans (h.mro c hc),
    fun c hc => (h'.family c (Nat.lt_of_lt_of_le hc h.size)).trans (h.family c hc)⟩

theorem Extends.inherits {h h' : Hierarchy} (hext : Extends h h') {c : ClassId}
    (hc : c.index < h.size) (d : ClassId) : h'.inherits c d = h.inherits c d := by
  unfold Hierarchy.inherits
  rw [hext.mro c hc]

/-! ## One more class -/

theorem extends_push (h : Hierarchy) (c : ClassInfo) (hc : ∀ d ∈ c.mro, d.index ≤ h.size) :
    Extends h (h.push c hc) := by
  have hsize : (h.push c hc).size = h.size + 1 := Array.size_push _
  have hinfo : ∀ d : ClassId, d.index < h.size → (h.push c hc).info d = h.info d := by
    intro d hd
    have hd' : (h.push c hc).info d = if d.index = h.size then c else h.info d :=
      getD_push h.classes c default d.index
    rw [hd', if_neg (Nat.ne_of_lt hd)]
  exact ⟨by omega, fun d hd => congrArg ClassInfo.mro (hinfo d hd),
    fun d hd => congrArg ClassInfo.family (hinfo d hd)⟩

theorem extends_declare {h h' : Hierarchy} {b : Blueprint} {c : ClassId}
    (hd : h.declare b = .ok (h', c)) : Extends h h' := by
  unfold declare at hd
  dsimp only at hd
  split at hd
  · exact nomatch hd
  · split at hd
    · exact nomatch hd
    · split at hd
      · split at hd
        · exact nomatch hd
        · next hb _ hm =>
          obtain ⟨rfl, -⟩ := Prod.mk.inj (Except.ok.inj hd)
          exact extends_push h _ (index_le_of_mem_linearize hb hm)
      · exact nomatch hd

/-! ## Adopted classes -/

/-- apart from what a class has adopted, all is as before -/
theorem apply_info_addAdopted {α : Type} (p : ClassInfo → α)
    (hp : ∀ i ds, p { i with adopted := ds } = p i) (h : Hierarchy) (c d e : ClassId) :
    p ((h.addAdopted c d).info e) = p (h.info e) :=
  apply_getD_modify p (fun i => hp i (i.adopted ++ [d])) h.classes default c.index e.index

theorem extends_addAdopted (h : Hierarchy) (c d : ClassId) : Extends h (h.addAdopted c d) where
  size := Nat.le_of_eq Array.size_modify.symm
  mro := fun e _ => apply_info_addAdopted ClassInfo.mro (fun _ _ => rfl) h c d e
  family := fun e _ => apply_info_addAdopted ClassInfo.family (fun _ _ => rfl) h c d e

theorem extends_adopt {h h' : Hierarchy} {c d : ClassId} (hd : h.adopt c d = .ok h') :
    Extends h h' := by
  unfold adopt at hd
  split at hd
  · exact nomatch hd
  · split at hd
    · obtain rfl := Except.ok.inj hd
      exact refl_of Extends h
    · split at hd
      · exact nomatch hd
      · obtain rfl := Except.ok.inj hd
        exact extends_addAdopted h c d

/-! ## The classes that are always there -/

theorem extends_extend (h : Hierarchy) (b : Blueprint) : Extends h (h.extend b) := by
  unfold extend
  split
  · next hd => exact extends_declare hd
  · exact refl_of Extends h

theorem extends_adopting (h : Hierarchy) (c d : ClassId) : Extends h (h.adopting c d) := by
  unfold adopting
  cases hd : h.adopt c d with
  | ok h' => exact extends_adopt hd
  | error e => exact refl_of Extends h

theorem extends_foldl {α : Type} {f : Hierarchy → α → Hierarchy} (hf : ∀ h a, Extends h (f h a))
    (as : List α) (h : Hierarchy) : Extends h (as.foldl f h) := by
  induction as generalizing h with
  | nil => exact refl_of Extends h
  | cons a as ih => exact trans_of Extends (hf h a) (ih (f h a))

/-- the hierarchy of the first builtin classes -/
def baseOf (n : Nat) : Hierarchy := (builtinBlueprints.take n).foldl extend empty

theorem extends_base (n : Nat) : Extends (baseOf n) base := by
  have hsplit : builtinBlueprints.foldl extend empty
      = (builtinBlueprints.drop n).foldl extend (baseOf n) := by
    unfold baseOf
    rw [← List.foldl_append, List.take_append_drop]
  have hbuiltin : Extends (baseOf n) (builtinBlueprints.foldl extend empty) := by
    rw [hsplit]
    exact extends_foldl extends_extend _ _
  have hfaults : Extends (builtinBlueprints.foldl extend empty)
      (faultClasses.foldl extendFault (builtinBlueprints.foldl extend empty)) :=
    extends_foldl (fun h e => extends_extend h _) _ _
  unfold base
  exact trans_of Extends (trans_of Extends hbuiltin hfaults)
    (trans_of Extends (extends_adopting _ _ _) (trans_of Extends (extends_adopting _ _ _)
      (trans_of Extends (extends_adopting _ _ _) (extends_adopting _ _ _))))

/-- what the first builtin classes inherit, they inherit in the base hierarchy -/
theorem base_inherits {n : Nat} {c d : ClassId} (hc : c.index < (baseOf n).size)
    (h : (baseOf n).inherits c d = true) : base.inherits c d = true := by
  rw [(extends_base n).inherits hc]
  exact h

theorem base_inherits_int_object : base.inherits .int .object = true :=
  base_inherits (n := 3) (by decide +kernel) (by decide +kernel)

theorem base_inherits_object_object : base.inherits .object .object = true :=
  base_inherits (n := 1) (by decide +kernel) (by decide +kernel)

end Introspect.Hierarchy
