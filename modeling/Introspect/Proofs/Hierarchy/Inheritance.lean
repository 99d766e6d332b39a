import Introspect.Hierarchy.Builtin
import Introspect.Proofs.Hierarchy.Growth

/-!
# Inheritance is transitive

The resolution order of a new class holds the orders of all of its bases, so in a hierarchy that was
made class by class, what an ancestor inherits from is inherited from.

* `Linearization.mem_linearize_iff`   a resolution order holds just the class, its bases and what
                                      stands in their orders;
* `Hierarchy.Made`                    the hierarchies that arise by making and adopting classes;
* `Hierarchy.Made.inherits_trans`     inheritance in these is transitive;
* `Hierarchy.Made.mem_mro_iff`        a class inherits from itself, and from what its bases do;
* `Hierarchy.made_base`               the base hierarchy is one of them.
-/

namespace Introspect

namespace Linearization

variable {α : Type} [BEq α] [LawfulBEq α]

/-- what a sequence loses when a head is dropped is that head -/
theorem mem_dropHead (x : α) {y : α} {seqs : List (List α)} (h : ∃ s ∈ seqs, y ∈ s) :
    y = x ∨ ∃ s ∈ dropHead x seqs, y ∈ s := by
  obtain ⟨s, hs, hy⟩ := h
  cases s with
  | nil => exact absurd hy List.not_mem_nil
  | cons z zs =>
    have hmem : (if z == x then zs else z :: zs) ∈ dropHead x seqs :=
      List.mem_map.mpr ⟨z :: zs, hs, rfl⟩
    by_cases hzx : z = x
    · have hbeq : (z == x) = true := beq_iff_eq.mpr hzx
      rw [if_pos hbeq] at hmem
      rcases List.mem_cons.mp hy with rfl | hy
      · exact .inl hzx
      · exact .inr ⟨zs, hmem, hy⟩
    · have hbeq : ¬ (z == x) = true := fun h => hzx (beq_iff_eq.mp h)
      rw [if_neg hbeq] at hmem
      exact .inr ⟨z :: zs, hmem, hy⟩

/-- a merge loses nothing -/
theorem mem_mergeRounds {n : Nat} {seqs : List (List α)} {xs : List α}
    (h : mergeRounds n seqs = some xs) {y : α} (hy : ∃ s ∈ seqs, y ∈ s) : y ∈ xs := by
  -- sequences that are all empty hold nothing
  have hempty : ∀ {seqs : List (List α)}, seqs.all List.isEmpty = true →
      ¬ ∃ s ∈ seqs, y ∈ s := by
    rintro seqs hall ⟨s, hs, hy⟩
    have hnil : s = [] := List.isEmpty_iff.mp (List.all_eq_true.mp hall s hs)
    rw [hnil] at hy
    exact List.not_mem_nil hy
  induction n generalizing seqs xs with
  | zero =>
    unfold mergeRounds at h
    split at h
    · next hall => exact absurd hy (hempty hall)
    · cases h
  | succ n ih =>
    unfold mergeRounds at h
    split at h
    · next hall => exact absurd hy (hempty hall)
    · cases hx : nextHead seqs with
      | none => rw [hx] at h; cases h
      | some x =>
        rw [hx] at h
        obtain ⟨ys, hys, rfl⟩ := Option.map_eq_some_iff.mp h
        rcases mem_dropHead x hy with rfl | hy
        · exact List.mem_cons_self
        · exact List.mem_cons_of_mem x (ih hys hy)

/-- a resolution order holds the class, its bases, what stands in their orders, and nothing else -/
theorem mem_linearize_iff {c : α} {bases : List α} {orders : List (List α)} {xs : List α}
    (h : linearize c bases orders = some xs) (y : α) :
    y ∈ xs ↔ y = c ∨ y ∈ bases ∨ ∃ s ∈ orders, y ∈ s := by
  refine ⟨mem_linearize h, fun hy => ?_⟩
  obtain ⟨ys, hys, rfl⟩ := Option.map_eq_some_iff.mp h
  rcases hy with rfl | hy | ⟨s, hs, hy⟩
  · exact List.mem_cons_self
  · refine List.mem_cons_of_mem c (mem_mergeRounds hys ⟨bases, ?_, hy⟩)
    exact List.mem_append_right _ (List.mem_singleton.mpr rfl)
  · exact List.mem_cons_of_mem c (mem_mergeRounds hys ⟨s, List.mem_append_left _ hs, hy⟩)

end Linearization

namespace Hierarchy

variable {h h' : Hierarchy}

/-! ## Hierarchies that were made class by class -/

/-- the hierarchies that arise by making classes and by adopting them -/
inductive Made : Hierarchy → Prop where
  | empty : Made empty
  | declare {h h' : Hierarchy} {b : Blueprint} {c : ClassId} (hm : Made h)
      (hd : h.declare b = .ok (h', c)) : Made h'
  | adopt {h h' : Hierarchy} {c d : ClassId} (hm : Made h) (hd : h.adopt c d = .ok h') : Made h'

/-- a place that no class has yet has no resolution order -/
theorem mro_of_size_le {c : ClassId} (hc : h.size ≤ c.index) : h.mro c = [] := by
  unfold mro info
  rw [Array.getD_eq_getD_getElem?, Array.getElem?_eq_none hc]
  rfl

/-- the new class gets the merged order, and no other one changes -/
theorem mro_declare {b : Blueprint} {c : ClassId} (hd : h.declare b = .ok (h', c)) :
    ∃ order, Linearization.linearize ⟨h.size⟩ b.bases (b.bases.map h.mro) = some order
      ∧ ∀ e : ClassId, h'.mro e = if e.index = h.size then order else h.mro e := by
  unfold declare at hd
  dsimp only at hd
  split at hd
  · exact nomatch hd
  · split at hd
    · exact nomatch hd
    · split at hd
      · split at hd
        · exact nomatch hd
        · next order hm =>
          obtain ⟨rfl, -⟩ := Prod.mk.inj (Except.ok.inj hd)
          refine ⟨order, hm, fun e => ?_⟩
          unfold mro info push
          rw [getD_push]
          show (if e.index = h.size then _ else _ : ClassInfo).mro = _
          split <;> rfl
      · exact nomatch hd

/-- adopting a class changes no resolution order -/
theorem mro_adopt {c d : ClassId} (hd : h.adopt c d = .ok h') (e : ClassId) :
    h'.mro e = h.mro e := by
  have hext := extends_adopt hd
  by_cases he : e.index < h.size
  · exact hext.mro e he
  · have hsize : h'.size = h.size := by
      unfold adopt at hd
      split at hd
      · exact nomatch hd
      · split at hd
        · rw [Except.ok.inj hd]
        · split at hd
          · exact nomatch hd
          · rw [← Except.ok.inj hd]
            exact Array.size_modify
    rw [mro_of_size_le (Nat.le_of_not_lt he), mro_of_size_le (hsize ▸ Nat.le_of_not_lt he)]

/-- what stands in the resolution order of an ancestor stands in that of the class -/
theorem Made.mem_mro_trans (hm : Made h) {c d e : ClassId} (hd : d ∈ h.mro c) (he : e ∈ h.mro d) :
    e ∈ h.mro c := by
  induction hm generalizing c d e with
  | empty => exact absurd hd (by rw [mro_of_size_le (Nat.zero_le _)]; exact List.not_mem_nil)
  | adopt _ hadopt ih =>
    rw [mro_adopt hadopt] at hd he ⊢
    exact ih hd he
  | @declare h h' b k _ hdeclare ih =>
    obtain ⟨order, horder, hmro⟩ := mro_declare hdeclare
    have hmem := Linearization.mem_linearize_iff horder
    rw [hmro] at hd
    by_cases hc : c.index = h.size
    · rw [if_pos hc] at hd
      rw [hmro c, if_pos hc]
      by_cases hnew : d.index = h.size
      · rw [hmro, if_pos hnew] at he
        exact he
      · rw [hmro, if_neg hnew] at he
        -- an older class of the order is a base, or it stands in the order of one
        refine (hmem e).mpr (.inr (.inr ?_))
        rcases (hmem d).mp hd with rfl | hbase | ⟨s, hs, hd⟩
        · exact absurd rfl hnew
        · exact ⟨h.mro d, List.mem_map.mpr ⟨d, hbase, rfl⟩, he⟩
        · obtain ⟨base, hbase, rfl⟩ := List.mem_map.mp hs
          exact ⟨h.mro base, List.mem_map.mpr ⟨base, hbase, rfl⟩, ih hd he⟩
    · rw [if_neg hc] at hd
      have hold : c.index < h.size := by
        refine Nat.lt_of_not_le fun hle => ?_
        rw [mro_of_size_le hle] at hd
        exact List.not_mem_nil hd
      have hle := index_le_of_mem_mro hd
      rw [hmro, if_neg (by omega)] at he
      rw [hmro c, if_neg hc]
      exact ih hd he

/-- inheritance is transitive -/
theorem Made.inherits_trans (hm : Made h) {c d e : ClassId} (hcd : h.inherits c d = true)
    (hde : h.inherits d e = true) : h.inherits c e = true :=
  List.contains_iff_mem.mpr
    (hm.mem_mro_trans (List.contains_iff_mem.mp hcd) (List.contains_iff_mem.mp hde))

/-! ## Bases -/

/-- a new class stands in the next place, behind its bases, and has adopted nothing -/
theorem info_declare {b : Blueprint} {c : ClassId} (hd : h.declare b = .ok (h', c)) :
    h'.size = h.size + 1 ∧ (∀ d ∈ b.bases, d.index < h.size)
      ∧ ∃ new : ClassInfo, new.bases = b.bases ∧ new.adopted = []
        ∧ ∀ e : ClassId, h'.info e = if e.index = h.size then new else h.info e := by
  unfold declare at hd
  dsimp only at hd
  split at hd
  · exact nomatch hd
  · split at hd
    · exact nomatch hd
    · split at hd
      · next hb =>
        split at hd
        · exact nomatch hd
        · obtain ⟨rfl, -⟩ := Prod.mk.inj (Except.ok.inj hd)
          refine ⟨Array.size_push _, hb, _, ?_, ?_, fun e => getD_push h.classes _ default e.index⟩
          · rfl
          · rfl
      · exact nomatch hd

/-- a class is adopted by an abstract one that is no subclass of it, unless it is a subclass already -/
theorem adopt_cases {c d : ClassId} (hd : h.adopt c d = .ok h') :
    h' = h ∨ (h.info c).family = .abstract ∧ h.isSubclass c d = false
      ∧ h' = h.addAdopted c d := by
  unfold adopt at hd
  split at hd
  · exact nomatch hd
  · next habs =>
    split at hd
    · exact .inl (Except.ok.inj hd).symm
    · split at hd
      · exact nomatch hd
      · next hnot =>
        have habs' : (h.info c).family = .abstract :=
          Decidable.of_not_not fun hne => habs (bne_iff_ne.mpr hne)
        exact .inr ⟨habs', Bool.eq_false_iff.mpr hnot, (Except.ok.inj hd).symm⟩

theorem size_addAdopted (c d : ClassId) : (h.addAdopted c d).size = h.size := Array.size_modify

theorem bases_addAdopted (c d e : ClassId) :
    ((h.addAdopted c d).info e).bases = (h.info e).bases :=
  apply_info_addAdopted ClassInfo.bases (fun _ _ => rfl) h c d e

/-- the bases of a class stand before it -/
theorem Made.base_lt (hm : h.Made) {c d : ClassId} (hd : d ∈ (h.info c).bases) :
    d.index < c.index := by
  induction hm generalizing c d with
  | empty => exact absurd hd List.not_mem_nil
  | @declare h h' b k _ hdeclare ih =>
    obtain ⟨-, hbases, new, hnew, -, hinfo⟩ := info_declare hdeclare
    rw [hinfo] at hd
    split at hd
    · next hc =>
      rw [hnew] at hd
      rw [hc]
      exact hbases d hd
    · exact ih hd
  | @adopt h h' k e _ hadopt ih =>
    rcases adopt_cases hadopt with rfl | ⟨-, -, rfl⟩
    · exact ih hd
    · rw [bases_addAdopted] at hd
      exact ih hd

/-- the resolution order of a class holds the class, and the orders of its bases -/
theorem Made.mem_mro_iff (hm : h.Made) {c : ClassId} (hc : c.index < h.size) (d : ClassId) :
    d ∈ h.mro c ↔ d = c ∨ ∃ b ∈ (h.info c).bases, d ∈ h.mro b := by
  induction hm generalizing c d with
  | empty => exact absurd hc (Nat.not_lt_zero _)
  | @declare h h' b k hm hdeclare ih =>
    obtain ⟨order, horder, hmro⟩ := mro_declare hdeclare
    obtain ⟨hsize, hbases, new, hnew, -, hinfo⟩ := info_declare hdeclare
    -- the bases stand before the new class, so their orders are as before
    have hold : ∀ {e : ClassId}, e.index < h.size → h'.mro e = h.mro e := by
      intro e he
      rw [hmro, if_neg (by omega)]
    rw [hinfo]
    split
    · next hlast =>
      rw [hmro, if_pos hlast, Linearization.mem_linearize_iff horder, hnew,
        show c = ⟨h.size⟩ from congrArg ClassId.mk hlast]
      refine or_congr_right ⟨?_, ?_⟩
      · rintro (hd | ⟨order', horder', hd⟩)
        · refine ⟨d, hd, ?_⟩
          rw [hold (hbases d hd)]
          exact (ih (hbases d hd) d).mpr (.inl rfl)
        · obtain ⟨e, he, rfl⟩ := List.mem_map.mp horder'
          exact ⟨e, he, (hold (hbases e he)).symm ▸ hd⟩
      · rintro ⟨e, he, hd⟩
        exact .inr ⟨h.mro e, List.mem_map.mpr ⟨e, he, rfl⟩, hold (hbases e he) ▸ hd⟩
    · next hlast =>
      have hc : c.index < h.size := by omega
      rw [hold hc, ih hc]
      refine or_congr_right (exists_congr fun e => and_congr_right fun he => ?_)
      rw [hold (Nat.lt_trans (hm.base_lt he) hc)]
  | @adopt h h' k e _ hadopt ih =>
    simp only [mro_adopt hadopt]
    rcases adopt_cases hadopt with rfl | ⟨-, -, rfl⟩
    · exact ih hc d
    · rw [bases_addAdopted]
      exact ih (size_addAdopted k e ▸ hc) d

/-- a class inherits from itself -/
theorem Made.inherits_refl (hm : h.Made) {c : ClassId} (hc : c.index < h.size) :
    h.inherits c c = true :=
  List.contains_iff_mem.mpr ((hm.mem_mro_iff hc c).mpr (.inl rfl))

/-! ## The classes that are always there -/

theorem Made.extend (hm : Made h) (b : Blueprint) : Made (h.extend b) := by
  unfold Hierarchy.extend
  split
  · next hd => exact hm.declare hd
  · exact hm

theorem Made.adopting (hm : Made h) (c d : ClassId) : Made (h.adopting c d) := by
  unfold Hierarchy.adopting
  cases hd : h.adopt c d with
  | ok h' => exact hm.adopt hd
  | error e => exact hm

theorem Made.foldl {α : Type} {f : Hierarchy → α → Hierarchy}
    (hf : ∀ (h : Hierarchy) (a : α), Made h → Made (f h a)) (hm : Made h) (as : List α) :
    Made (as.foldl f h) := by
  induction as generalizing h with
  | nil => exact hm
  | cons a as ih => exact ih (hf h a hm)

theorem made_baseOf (n : Nat) : (baseOf n).Made := Made.empty.foldl (fun _ b hm => hm.extend b) _

theorem made_base : Made base := by
  have hbuiltin : Made (builtinBlueprints.foldl extend Hierarchy.empty) := by
    have hall := made_baseOf builtinBlueprints.length
    rwa [baseOf, List.take_length] at hall
  have hfaults : Made (faultClasses.foldl extendFault
      (builtinBlueprints.foldl extend Hierarchy.empty)) :=
    hbuiltin.foldl (fun _ _ hm => hm.extend _) _
  unfold base
  exact (((hfaults.adopting _ _).adopting _ _).adopting _ _).adopting _ _

end Hierarchy

end Introspect
