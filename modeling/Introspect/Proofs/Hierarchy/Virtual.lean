import Mathlib.Data.List.Basic
import Mathlib.Logic.Relation
import Introspect.Proofs.Hierarchy.Inheritance

/-!
# Virtual subclasses

An abstract class counts what is a subclass of a class that it has adopted, or of a class that names
it as a base.  A test needs no more steps through such classes than there are classes, and in a
hierarchy that was made class by class no steps lead back.

* `Hierarchy.Counts`          one step from an abstract class to a class whose subclasses it counts;
* `Hierarchy.isSubclass_iff`  the test by itself, without a bound on its steps;
* `Hierarchy.isSubclass_iff_exists`   a class is counted when it inherits from what steps lead to;
* `Hierarchy.Made.counts_acyclic`     no steps lead back to where they start, since a class is not
                              adopted by one of which it counts the subclasses.
-/

namespace Introspect.Hierarchy

variable {h : Hierarchy}

/-- an abstract class counts the subclasses of another one -/
def Counts (h : Hierarchy) (d e : ClassId) : Prop :=
  (h.info d).family = .abstract ∧ (e ∈ (h.info d).adopted ∨ e ∈ h.directSubclasses d)

/-! ## Enough steps -/

theorem isSubclassWithin_succ_iff (n : Nat) (c d : ClassId) :
    h.isSubclassWithin (n + 1) c d = true
      ↔ h.inherits c d = true ∨ ∃ e, h.Counts d e ∧ h.isSubclassWithin n c e = true := by
  rw [isSubclassWithin, Bool.or_eq_true, Bool.and_eq_true, Bool.or_eq_true, beq_iff_eq,
    List.any_eq_true, List.any_eq_true]
  refine or_congr_right ⟨?_, ?_⟩
  · rintro ⟨habs, ⟨e, he, hce⟩ | ⟨e, he, hce⟩⟩
    · exact ⟨e, ⟨habs, .inl he⟩, hce⟩
    · exact ⟨e, ⟨habs, .inr he⟩, hce⟩
  · rintro ⟨e, ⟨habs, he | he⟩, hce⟩
    · exact ⟨habs, .inl ⟨e, he, hce⟩⟩
    · exact ⟨habs, .inr ⟨e, he, hce⟩⟩

theorem isSubclassWithin_mono (n : Nat) {c d : ClassId} (hcd : h.isSubclassWithin n c d = true) :
    h.isSubclassWithin (n + 1) c d = true := by
  induction n generalizing d with
  | zero => exact (isSubclassWithin_succ_iff 0 c d).mpr (.inl hcd)
  | succ n ih =>
    rw [isSubclassWithin_succ_iff] at hcd ⊢
    exact hcd.imp_right fun ⟨e, he, hce⟩ => ⟨e, he, ih hce⟩

/-- the test of a class has the same results with one more step -/
def Settled (h : Hierarchy) (c : ClassId) (n : Nat) : Prop :=
  ∀ d, h.isSubclassWithin (n + 1) c d = true → h.isSubclassWithin n c d = true

theorem Settled.succ {c : ClassId} {n : Nat} (hn : h.Settled c n) : h.Settled c (n + 1) := by
  intro d hd
  rw [isSubclassWithin_succ_iff] at hd ⊢
  exact hd.imp_right fun ⟨e, he, hce⟩ => ⟨e, he, hn e hce⟩

theorem Settled.of_le {c : ClassId} {n k : Nat} (hn : h.Settled c n) (hk : n ≤ k) :
    h.Settled c k := by
  induction hk with
  | refl => exact hn
  | step _ ih => exact ih.succ

/-- the classes of which a class is a subclass, as far as some steps tell -/
def above (h : Hierarchy) (c : ClassId) (n : Nat) : List ClassId :=
  h.ids.filter (h.isSubclassWithin n c)

theorem lt_size_of_abstract {d : ClassId} (habs : (h.info d).family = .abstract) :
    d.index < h.size := by
  refine Nat.lt_of_not_le fun hle => ?_
  unfold info at habs
  rw [Array.getD_eq_getD_getElem?, Array.getElem?_eq_none hle] at habs
  exact nomatch habs

theorem mem_ids_of_counts {d e : ClassId} (hde : h.Counts d e) : d ∈ h.ids :=
  List.mem_map.mpr ⟨d.index, List.mem_range.mpr (lt_size_of_abstract hde.1), rfl⟩

/-- a test that is not settled finds one more class with the next step -/
theorem length_above_lt {c : ClassId} {n : Nat} (hn : ¬ h.Settled c n) :
    (h.above c n).length < (h.above c (n + 1)).length := by
  have hsub : (h.above c n).Sublist (h.above c (n + 1)) :=
    List.monotone_filter_right h.ids fun d hd => isSubclassWithin_mono n hd
  refine Nat.lt_of_le_of_ne hsub.length_le fun hlen => hn fun d hd => ?_
  have hsame := hsub.eq_of_length hlen
  rcases (isSubclassWithin_succ_iff n c d).mp hd with hinherits | ⟨e, hde, -⟩
  · cases n with
    | zero => exact hinherits
    | succ n => exact (isSubclassWithin_succ_iff n c d).mpr (.inl hinherits)
  · have hmem : d ∈ h.above c (n + 1) := List.mem_filter.mpr ⟨mem_ids_of_counts hde, hd⟩
    rw [← hsame] at hmem
    exact (List.mem_filter.mp hmem).2

theorem exists_settled (c : ClassId) (n : Nat) :
    (∃ k ≤ n, h.Settled c k) ∨ n < (h.above c (n + 1)).length := by
  induction n with
  | zero =>
    by_cases hzero : h.Settled c 0
    · exact .inl ⟨0, Nat.le_refl 0, hzero⟩
    · exact .inr (Nat.lt_of_le_of_lt (Nat.zero_le _) (length_above_lt hzero))
  | succ n ih =>
    rcases ih with ⟨k, hk, hset⟩ | hlt
    · exact .inl ⟨k, Nat.le_succ_of_le hk, hset⟩
    · by_cases hsucc : h.Settled c (n + 1)
      · exact .inl ⟨n + 1, Nat.le_refl _, hsucc⟩
      · have hmore := length_above_lt hsucc
        exact .inr (by omega)

/-- as many steps as there are classes are enough -/
theorem settled_size (c : ClassId) : h.Settled c h.size := by
  rcases h.exists_settled c h.size with ⟨k, hk, hset⟩ | hlt
  · exact hset.of_le hk
  · have hle : (h.above c (h.size + 1)).length ≤ h.ids.length := List.length_filter_le _ _
    unfold ids at hle
    rw [List.length_map, List.length_range] at hle
    omega

/-- a class is a subclass of what it inherits from, and of an abstract class that counts the
subclasses of one of which it is a subclass -/
theorem isSubclass_iff (c d : ClassId) :
    h.isSubclass c d = true
      ↔ h.inherits c d = true ∨ ∃ e, h.Counts d e ∧ h.isSubclass c e = true := by
  unfold isSubclass
  rw [← isSubclassWithin_succ_iff]
  exact ⟨isSubclassWithin_mono h.size, h.settled_size c d⟩

/-- a class is a subclass of those from which steps lead to something that it inherits from -/
theorem isSubclass_iff_exists (c d : ClassId) :
    h.isSubclass c d = true
      ↔ ∃ e, Relation.ReflTransGen h.Counts d e ∧ h.inherits c e = true := by
  constructor
  · unfold isSubclass
    intro hcd
    generalize h.size = n at hcd
    induction n generalizing d with
    | zero => exact ⟨d, .refl, hcd⟩
    | succ n ih =>
      rcases (isSubclassWithin_succ_iff n c d).mp hcd with hinherits | ⟨e, hde, hce⟩
      · exact ⟨d, .refl, hinherits⟩
      · obtain ⟨k, hek, hck⟩ := ih e hce
        exact ⟨k, .head hde hek, hck⟩
  · rintro ⟨e, hde, hce⟩
    induction hde using Relation.ReflTransGen.head_induction_on with
    | refl => exact isSubclass_of_inherits hce
    | head hstep _ ih => exact (isSubclass_iff c _).mpr (.inr ⟨_, hstep, ih⟩)

/-! ## No steps lead back -/

variable {h' : Hierarchy}

/-- no steps start at a new class, and those that do not end there were there before -/
theorem counts_of_declare (hm : h.Made) {b : Blueprint} {k : ClassId}
    (hd : h.declare b = .ok (h', k)) {c d : ClassId} (hcd : h'.Counts c d) :
    c.index ≠ h.size ∧ (d.index ≠ h.size → h.Counts c d) := by
  obtain ⟨hsize, hbases, new, hnew, hadopted, hinfo⟩ := info_declare hd
  obtain ⟨habs, hstep⟩ := hcd
  -- a class that names `c` as a base is the new one, or it did so before
  have hsub : d ∈ h'.directSubclasses c → (d.index = h.size ∧ c ∈ b.bases)
      ∨ d.index ≠ h.size ∧ d ∈ h.directSubclasses c := by
    intro hmem
    obtain ⟨hids, hbase⟩ := List.mem_filter.mp hmem
    have hbase := List.contains_iff_mem.mp hbase
    rw [hinfo] at hbase
    split at hbase
    · next hd => exact .inl ⟨hd, hnew ▸ hbase⟩
    · next hd =>
      obtain ⟨i, hi, rfl⟩ := List.mem_map.mp hids
      have hi := List.mem_range.mp hi
      have hd : i ≠ h.size := hd
      refine .inr ⟨hd, List.mem_filter.mpr ⟨?_, List.contains_iff_mem.mpr hbase⟩⟩
      exact List.mem_map.mpr ⟨i, List.mem_range.mpr (by omega), rfl⟩
  have hold : c.index ≠ h.size := by
    intro hc
    have hcnew : h'.info c = new := by rw [hinfo, if_pos hc]
    rcases hstep with hmem | hmem
    · rw [hcnew, hadopted] at hmem
      exact List.not_mem_nil hmem
    · rcases hsub hmem with ⟨-, hmem⟩ | ⟨-, hmem⟩
      · have hlt := hbases c hmem
        omega
      · obtain ⟨hids, hbase⟩ := List.mem_filter.mp hmem
        have hlt := hm.base_lt (List.contains_iff_mem.mp hbase)
        obtain ⟨i, hi, rfl⟩ := List.mem_map.mp hids
        have hi := List.mem_range.mp hi
        have hlt : c.index < i := hlt
        omega
  refine ⟨hold, fun hd => ?_⟩
  have hcold : h'.info c = h.info c := by rw [hinfo, if_neg hold]
  rw [hcold] at habs hstep
  exact ⟨habs, hstep.imp_right fun hmem =>
    ((hsub hmem).resolve_left fun hnew => hd hnew.1).2⟩

/-- an adoption makes one more step -/
theorem counts_of_addAdopted {k e : ClassId} (hk : k.index < h.size) {c d : ClassId}
    (hcd : (h.addAdopted k e).Counts c d) : h.Counts c d ∨ c = k ∧ d = e := by
  obtain ⟨habs, hstep⟩ := hcd
  rw [apply_info_addAdopted ClassInfo.family fun _ _ => rfl] at habs
  rcases hstep with hmem | hmem
  · have hinfo : (h.addAdopted k e).info c
        = if k.index = c.index then { h.info c with adopted := (h.info c).adopted ++ [e] }
          else h.info c := getD_modify h.classes _ default hk c.index
    rw [hinfo] at hmem
    split at hmem
    · next hkc =>
      rcases List.mem_append.mp hmem with hmem | hmem
      · exact .inl ⟨habs, .inl hmem⟩
      · refine .inr ⟨?_, List.mem_singleton.mp hmem⟩
        obtain ⟨i⟩ := c
        obtain ⟨j⟩ := k
        exact congrArg ClassId.mk hkc.symm
    · exact .inl ⟨habs, .inl hmem⟩
  · refine .inl ⟨habs, .inr ?_⟩
    unfold directSubclasses ids at hmem ⊢
    rw [size_addAdopted] at hmem
    simp only [bases_addAdopted] at hmem
    exact hmem

/-- steps through one more edge are steps without it, or they lead to its start and from its end -/
theorem transGen_of_insert {α : Type} {r r' : α → α → Prop} {k e : α}
    (hr : ∀ a b, r' a b → r a b ∨ a = k ∧ b = e) {a b : α} (hab : Relation.TransGen r' a b) :
    Relation.TransGen r a b
      ∨ Relation.ReflTransGen r a k ∧ Relation.ReflTransGen r e b := by
  induction hab with
  | single hstep =>
    rcases hr _ _ hstep with hold | ⟨rfl, rfl⟩
    · exact .inl (.single hold)
    · exact .inr ⟨.refl, .refl⟩
  | tail _ hstep ih =>
    rcases hr _ _ hstep with hold | ⟨rfl, rfl⟩
    · exact ih.imp (fun h => .tail h hold) fun h => ⟨h.1, h.2.tail hold⟩
    · exact .inr ⟨ih.elim (fun h => h.to_reflTransGen) fun h => h.1, .refl⟩

/-- no steps lead back to where they start -/
theorem Made.counts_acyclic (hm : h.Made) (c : ClassId) : ¬ Relation.TransGen h.Counts c c := by
  induction hm generalizing c with
  | empty =>
    intro hcycle
    obtain ⟨d, hcd, -⟩ := Relation.TransGen.head'_iff.mp hcycle
    exact nomatch hcd.1
  | @declare h h' b k hm hdeclare ih =>
    -- a cycle would have to leave the new class, so it was there before
    have hback : ∀ {c d : ClassId}, Relation.TransGen h'.Counts c d → d.index ≠ h.size →
        Relation.TransGen h.Counts c d := by
      intro c d hcd
      induction hcd with
      | single hstep => exact fun hd => .single ((counts_of_declare hm hdeclare hstep).2 hd)
      | tail _ hstep ih =>
        obtain ⟨hold, hcounts⟩ := counts_of_declare hm hdeclare hstep
        exact fun hd => .tail (ih hold) (hcounts hd)
    intro hcycle
    obtain ⟨d, hcd, -⟩ := Relation.TransGen.head'_iff.mp hcycle
    exact ih c (hback hcycle (counts_of_declare hm hdeclare hcd).1)
  | @adopt h h' k e hm hadopt ih =>
    rcases adopt_cases hadopt with rfl | ⟨habs, hnot, rfl⟩
    · exact ih c
    · intro hcycle
      have hk := lt_size_of_abstract habs
      rcases transGen_of_insert (fun _ _ => counts_of_addAdopted hk) hcycle with hold | ⟨hck, hec⟩
      · exact ih c hold
      · -- the adopting class would be a subclass of the adopted one
        have hsub := (isSubclass_iff_exists k e).mpr ⟨k, hec.trans hck, hm.inherits_refl hk⟩
        rw [hnot] at hsub
        exact nomatch hsub

end Introspect.Hierarchy
