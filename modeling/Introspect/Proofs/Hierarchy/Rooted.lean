import Introspect.Proofs.Hierarchy.Inheritance

/-!
# The root of all classes

* `Hierarchy.Rooted`          every class inherits from the root;
* `Hierarchy.Rooted.declare`  a new class with bases does, since its bases do;
* `Hierarchy.rooted_base`     the classes that are always there are rooted.
-/

namespace Introspect

theorem orRoot_ne_nil (bases : List ClassId) : orRoot bases ≠ [] := by
  unfold orRoot
  cases bases <;> nofun

namespace Hierarchy

variable {h h' : Hierarchy}

/-- every class inherits from the root -/
def Rooted (h : Hierarchy) : Prop := ∀ c : ClassId, c.index < h.size → h.inherits c .object = true

theorem Rooted.isSubclass (hr : h.Rooted) {c : ClassId} (hc : c.index < h.size) :
    h.isSubclass c .object = true :=
  isSubclass_of_inherits (hr c hc)

/-- a new class inherits from the root when it has bases, or when it is the first one -/
theorem Rooted.declare (hr : h.Rooted) {b : Blueprint} {c : ClassId}
    (hd : h.declare b = .ok (h', c)) (hb : b.bases ≠ [] ∨ h.size = 0) : h'.Rooted := by
  obtain ⟨order, horder, hmro⟩ := mro_declare hd
  obtain ⟨hsize, hbases, -⟩ := info_declare hd
  intro e he
  refine List.contains_iff_mem.mpr ?_
  rw [hmro]
  split
  · rw [Linearization.mem_linearize_iff horder]
    rcases hb with hb | hfirst
    · obtain ⟨d, hd⟩ := List.exists_mem_of_ne_nil _ hb
      have hroot := List.contains_iff_mem.mp (hr d (hbases d hd))
      exact .inr (.inr ⟨h.mro d, List.mem_map_of_mem hd, hroot⟩)
    · exact .inl (congrArg ClassId.mk hfirst.symm)
  · exact List.contains_iff_mem.mp (hr e (by omega))

theorem Rooted.adopt (hr : h.Rooted) {c d : ClassId} (hd : h.adopt c d = .ok h') : h'.Rooted := by
  intro e he
  have hsize : h'.size = h.size := by
    rcases adopt_cases hd with rfl | ⟨-, -, rfl⟩
    · rfl
    · exact size_addAdopted c d
  refine List.contains_iff_mem.mpr ?_
  rw [mro_adopt hd]
  exact List.contains_iff_mem.mp (hr e (hsize ▸ he))

theorem Rooted.extend (hr : h.Rooted) {b : Blueprint} (hb : b.bases ≠ [] ∨ h.size = 0) :
    (h.extend b).Rooted := by
  unfold Hierarchy.extend
  split
  · next hd => exact hr.declare hd hb
  · exact hr

theorem Rooted.adopting (hr : h.Rooted) (c d : ClassId) : (h.adopting c d).Rooted := by
  unfold Hierarchy.adopting
  cases hd : h.adopt c d with
  | ok h' => exact hr.adopt hd
  | error e => exact hr

theorem Rooted.foldl {α : Type} {f : Hierarchy → α → Hierarchy} {as : List α}
    (hf : ∀ (h : Hierarchy), ∀ a ∈ as, h.Rooted → (f h a).Rooted) (hr : h.Rooted) :
    (as.foldl f h).Rooted := by
  induction as generalizing h with
  | nil => exact hr
  | cons a as ih =>
    exact ih (fun h b hb => hf h b (List.mem_cons_of_mem a hb)) (hf h a List.mem_cons_self hr)

theorem rooted_empty : empty.Rooted := fun _ hc => absurd hc (Nat.not_lt_zero _)

theorem rooted_baseOf (n : Nat) : (baseOf n).Rooted := by
  have hbases : ∀ b ∈ builtinBlueprints.tail, b.bases ≠ [] := by
    have hall : (builtinBlueprints.tail.all fun b => !b.bases.isEmpty) = true := rfl
    intro b hb hnil
    have hb := List.all_eq_true.mp hall b hb
    rw [hnil] at hb
    exact nomatch hb
  cases n with
  | zero => exact rooted_empty
  | succ n =>
    have hsplit : builtinBlueprints.take (n + 1)
        = blueprint "object" "builtins" [] true :: builtinBlueprints.tail.take n := rfl
    unfold baseOf
    rw [hsplit, List.foldl_cons]
    refine Rooted.foldl (fun h b hb hr => hr.extend (.inl (hbases b (List.mem_of_mem_take hb)))) ?_
    exact rooted_empty.extend (.inr rfl)

theorem rooted_base : base.Rooted := by
  have hbuiltin : (builtinBlueprints.foldl Hierarchy.extend empty).Rooted := by
    have hall := rooted_baseOf builtinBlueprints.length
    rwa [baseOf, List.take_length] at hall
  have hfaults : (faultClasses.foldl extendFault
      (builtinBlueprints.foldl Hierarchy.extend empty)).Rooted :=
    Rooted.foldl (fun h e _ hr => hr.extend (.inl (orRoot_ne_nil _))) hbuiltin
  unfold base
  exact (((hfaults.adopting _ _).adopting _ _).adopting _ _).adopting _ _

end Hierarchy

end Introspect
