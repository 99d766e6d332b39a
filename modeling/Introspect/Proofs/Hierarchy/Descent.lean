import Mathlib.Data.List.Chain
import Mathlib.Data.List.Nodup
import Introspect.Proofs.Hierarchy.Outlines
import Introspect.Proofs.Hierarchy.Primary

/-!
# Descent

The tree below a class shows the classes that are made from it, directly or not, once for each chain
of bases that leads up from them.

* `traced`                                a listing that keeps what was passed by on the way down;
* `exists_follow_traced_iff`              addresses lead down the chains along a listing, and each
                                          down a chain of its own (`follow_traced_inj`);
* `Hierarchy.mem_subtypes`                the direct subclasses of a class;
* `Hierarchy.Made.mem_mro_iff_exists`     a class is resolved through those that chains of bases lead
                                          to;
* `Hierarchy.Made.tree_subtypes`          what the tree below a class shows.
-/

namespace Introspect

/-! ## Chains along a listing -/

section
variable {α : Type} {below : α → List α} {c d u : α} {ups : List α} {p q : List Nat}

/-- a listing that keeps, with each element, what was passed by on the way to it, the last first -/
def traced (below : α → List α) (e : α × List α) : List (α × List α) :=
  (below e.1).map fun d => (d, e.1 :: e.2)

/-- without what was passed by it is the listing -/
theorem map_fst_traced (below : α → List α) (e : α × List α) :
    below e.1 = (traced below e).map Prod.fst := by
  rw [traced, List.map_map]
  exact (List.map_id _).symm

theorem getElem?_traced_eq_some_iff {e e' : α × List α} {i : Nat} :
    (traced below e)[i]? = some e' ↔ (below e.1)[i]? = some e'.1 ∧ e'.2 = e.1 :: e.2 := by
  rw [traced, List.getElem?_map, Option.map_eq_some_iff]
  constructor
  · rintro ⟨d, hd, rfl⟩
    exact ⟨hd, rfl⟩
  · rintro ⟨hd, hups⟩
    exact ⟨e'.1, hd, Prod.ext rfl hups.symm⟩

/-- what is passed by on the way to an element is empty for the top, and otherwise begins with an
element that lists it -/
theorem follow_traced_cases (h : follow (traced below) (c, []) p = some (u, ups)) :
    p = [] ∧ u = c ∧ ups = [] ∨ ∃ q i d rest, p = q ++ [i] ∧ ups = d :: rest
      ∧ follow (traced below) (c, []) q = some (d, rest) ∧ (below d)[i]? = some u := by
  rcases List.eq_nil_or_concat' p with rfl | ⟨q, i, rfl⟩
  · obtain ⟨rfl, rfl⟩ := Prod.mk.inj (Option.some.inj h)
    exact .inl ⟨rfl, rfl, rfl⟩
  · obtain ⟨⟨d, rest⟩, hq, hi⟩ := follow_concat_eq_some_iff.mp h
    obtain ⟨hi, rfl⟩ := getElem?_traced_eq_some_iff.mp hi
    exact .inr ⟨q, i, d, rest, rfl, rfl, hq, hi⟩

/-- as many elements are passed by as an address has steps -/
theorem length_of_follow_traced (h : follow (traced below) (c, []) p = some (u, ups)) :
    ups.length = p.length := by
  induction ups generalizing u p with
  | nil =>
    rcases follow_traced_cases h with ⟨rfl, -, -⟩ | ⟨_, _, _, _, -, hups, -⟩
    · rfl
    · exact nomatch hups
  | cons d rest ih =>
    rcases follow_traced_cases h with ⟨-, -, hups⟩ | ⟨q, i, d, rest, rfl, hups, hq, -⟩
    · exact nomatch hups
    · obtain ⟨rfl, rfl⟩ := List.cons.inj hups
      rw [List.length_cons, ih hq, List.length_append]
      rfl

/-- addresses lead down the chains along a listing -/
theorem exists_follow_traced_iff :
    (∃ p, follow (traced below) (c, []) p = some (u, ups))
      ↔ (u :: ups).IsChain (fun d e => d ∈ below e) ∧ (u :: ups).getLast? = some c := by
  induction ups generalizing u with
  | nil =>
    constructor
    · rintro ⟨p, hp⟩
      rcases follow_traced_cases hp with ⟨-, rfl, -⟩ | ⟨_, _, _, _, -, hups, -⟩
      · exact ⟨.singleton u, rfl⟩
      · exact nomatch hups
    · rintro ⟨-, hlast⟩
      obtain rfl := Option.some.inj hlast
      exact ⟨[], rfl⟩
  | cons d rest ih =>
    rw [List.isChain_cons_cons, List.getLast?_cons_cons, and_assoc, ← ih]
    constructor
    · rintro ⟨p, hp⟩
      rcases follow_traced_cases hp with ⟨-, -, hups⟩ | ⟨q, i, d, rest, -, hups, hq, hi⟩
      · exact nomatch hups
      · obtain ⟨rfl, rfl⟩ := List.cons.inj hups
        exact ⟨List.mem_of_getElem? hi, q, hq⟩
    · rintro ⟨hu, q, hq⟩
      obtain ⟨i, hi⟩ := List.getElem?_of_mem hu
      exact ⟨q ++ [i], follow_concat_eq_some_iff.mpr
        ⟨(d, rest), hq, getElem?_traced_eq_some_iff.mpr ⟨hi, rfl⟩⟩⟩

/-- different addresses lead down different chains where nothing is listed twice -/
theorem follow_traced_inj (hnodup : ∀ d, (below d).Nodup)
    (hp : follow (traced below) (c, []) p = some (u, ups))
    (hq : follow (traced below) (c, []) q = some (u, ups)) : p = q := by
  induction ups generalizing u p q with
  | nil =>
    have hnil := length_of_follow_traced hp
    have hnil' := length_of_follow_traced hq
    rw [List.eq_nil_of_length_eq_zero hnil.symm, List.eq_nil_of_length_eq_zero hnil'.symm]
  | cons d rest ih =>
    rcases follow_traced_cases hp with ⟨-, -, hups⟩ | ⟨p, i, d, rest, rfl, hups, hp, hi⟩
    · exact nomatch hups
    rcases follow_traced_cases hq with ⟨-, -, hups'⟩ | ⟨q, j, d', rest', rfl, hups', hq, hj⟩
    · exact nomatch hups'
    obtain ⟨rfl, rfl⟩ := List.cons.inj hups
    obtain ⟨rfl, rfl⟩ := List.cons.inj hups'
    obtain ⟨hlt, hget⟩ := List.getElem?_eq_some_iff.mp hi
    rw [ih hp hq, (List.getElem?_inj hlt (hnodup _)).mp (hi.trans hj.symm)]

end

namespace Hierarchy

variable {h : Hierarchy} {c d t u : ClassId}

/-! ## Direct subclasses -/

theorem mem_ids : d ∈ h.ids ↔ d.index < h.size := by
  rw [ids, List.mem_map]
  constructor
  · rintro ⟨i, hi, rfl⟩
    exact List.mem_range.mp hi
  · exact fun hd => ⟨d.index, List.mem_range.mpr hd, rfl⟩

theorem nodup_ids (h : Hierarchy) : h.ids.Nodup :=
  List.Nodup.map (fun _ _ heq => congrArg ClassId.index heq) List.nodup_range

/-- only classes have bases -/
theorem lt_size_of_mem_bases (hd : d ∈ (h.info c).bases) : c.index < h.size := by
  by_contra hc
  have hnone : h.info c = default := by
    unfold info
    rw [Array.getD_eq_getD_getElem?, Array.getElem?_eq_none (Nat.not_lt.mp hc)]
    rfl
  rw [hnone] at hd
  exact nomatch hd

theorem mem_subtypes : d ∈ h.subtypes c ↔ c ∈ (h.info d).bases := by
  rw [subtypes, List.mem_mergeSort, directSubclasses, List.mem_filter, mem_ids,
    List.contains_iff_mem]
  exact and_iff_right_of_imp lt_size_of_mem_bases

theorem nodup_subtypes (h : Hierarchy) (c : ClassId) : (h.subtypes c).Nodup := by
  rw [subtypes, (List.mergeSort_perm _ _).nodup_iff]
  exact h.nodup_ids.filter _

theorem Made.acyclic_subtypes (hm : h.Made) : Acyclic h.subtypes :=
  acyclic_of_lt ClassId.index fun _ _ hd => hm.base_lt (mem_subtypes.mp hd)

/-- only classes have subclasses -/
theorem Made.lt_size_of_subtypes (hm : h.Made) (hc : h.subtypes c ≠ []) : c.index < h.size := by
  obtain ⟨d, hd⟩ := List.exists_mem_of_ne_nil _ hc
  have hbase := mem_subtypes.mp hd
  exact Nat.lt_trans (hm.base_lt hbase) (lt_size_of_mem_bases hbase)

/-! ## The tree of subclasses -/

/-- one base after the other leads from `u` up to `t`, past `ups` -/
def LeadsUp (h : Hierarchy) (u : ClassId) (ups : List ClassId) (t : ClassId) : Prop :=
  (u :: ups).IsChain (fun d e => e ∈ (h.info d).bases) ∧ (u :: ups).getLast? = some t

instance (h : Hierarchy) (u : ClassId) (ups : List ClassId) (t : ClassId) :
    Decidable (h.LeadsUp u ups t) :=
  inferInstanceAs (Decidable (_ ∧ _))

theorem leadsUp_cons {ups : List ClassId} :
    h.LeadsUp u (d :: ups) t ↔ d ∈ (h.info u).bases ∧ h.LeadsUp d ups t := by
  unfold LeadsUp
  rw [List.isChain_cons_cons, List.getLast?_cons_cons, and_assoc]

/-- down the direct subclasses lead the chains of bases, read from their ends -/
theorem exists_follow_subtypes_iff {ups : List ClassId} :
    (∃ p, follow (traced h.subtypes) (t, []) p = some (u, ups)) ↔ h.LeadsUp u ups t := by
  have hrel : (fun d e => d ∈ h.subtypes e) = fun d e => e ∈ (h.info d).bases :=
    funext₂ fun _ _ => propext mem_subtypes
  rw [exists_follow_traced_iff, hrel]
  rfl

/-- a class is resolved through those that chains of bases lead to -/
theorem Made.mem_mro_iff_exists (hm : h.Made) (hu : u.index < h.size) :
    t ∈ h.mro u ↔ ∃ ups, h.LeadsUp u ups t := by
  constructor
  · intro ht
    -- bases stand before the class
    induction hn : u.index using Nat.strongRecOn generalizing u with
    | _ n ih =>
      rcases (hm.mem_mro_iff hu t).mp ht with rfl | ⟨d, hd, ht⟩
      · exact ⟨[], .singleton t, rfl⟩
      · have hlt := hm.base_lt hd
        obtain ⟨ups, hups⟩ := ih d.index (hn ▸ hlt) (Nat.lt_trans hlt hu) ht rfl
        exact ⟨d :: ups, leadsUp_cons.mpr ⟨hd, hups⟩⟩
  · rintro ⟨ups, hups⟩
    induction ups generalizing u with
    | nil => exact (hm.mem_mro_iff hu t).mpr (.inl (Option.some.inj hups.2).symm)
    | cons d ups ih =>
      obtain ⟨hd, hups⟩ := leadsUp_cons.mp hups
      exact (hm.mem_mro_iff hu t).mpr (.inr ⟨d, hd, ih (Nat.lt_trans (hm.base_lt hd) hu) hups⟩)

/-- a listing of classes that leads nowhere back has a preorder -/
theorem exists_preorder_size {below : ClassId → List ClassId} (hacyclic : Acyclic below)
    (hfinite : ∀ d, below d ≠ [] → d.index < h.size) (depth : Int) (t : ClassId) :
    ∃ es, preorder below (h.size + 1) depth t = some es := by
  have hlen : h.ids.length = h.size := by rw [ids, List.length_map, List.length_range]
  rw [← hlen]
  exact exists_preorder id (congrArg below) (fun {d} hd => mem_ids.mpr (hfinite d hd)) hacyclic
    depth t

/-- the lines of a tree are those of an outline that keeps what each path passes by -/
theorem exists_traced {below : ClassId → List ClassId} (hacyclic : Acyclic below)
    (hfinite : ∀ d, below d ≠ [] → d.index < h.size) (t : ClassId) :
    ∃ o : Outline (ClassId × List ClassId), (∀ p, o.at? p = follow (traced below) (t, []) p)
      ∧ h.tree below 0 t = .ok (o.placed.map fun e => treeLine e.1.length (h.typeName e.2.1)) := by
  obtain ⟨es, hes⟩ := exists_preorder_size hacyclic hfinite 0 t
  have hforget : preorder below (h.size + 1) 0 t
      = (preorder (traced below) (h.size + 1) 0 (t, [])).map (List.map fun e => (e.1, e.2.1)) :=
    preorder_map (f := Prod.fst) (map_fst_traced below) (h.size + 1) 0 (t, [])
  obtain ⟨traces, htraces, rfl⟩ := Option.map_eq_some_iff.mp (hforget.symm.trans hes)
  obtain ⟨o, hat, hlines⟩ := exists_outline_lines id htraces
  refine ⟨o, fun p => (hat p).trans (congrFun Option.map_id _), ?_⟩
  rw [tree, hes]
  dsimp only
  rw [List.map_map]
  exact congrArg Except.ok (hlines fun e => h.typeName e.1)

/-- the tree below a class shows every class that is resolved through it, and so those that it
stands above, once for each chain of bases that leads up from there -/
theorem Made.tree_subtypes (hm : h.Made) (t : ClassId) :
    ∃ shown : List (ClassId × List ClassId),
      h.tree h.subtypes 0 t = .ok (shown.map fun e => treeLine e.2.length (h.typeName e.1))
      ∧ shown.Nodup
      ∧ (∀ u ups, (u, ups) ∈ shown ↔ h.LeadsUp u ups t)
      ∧ ∀ u : ClassId, u.index < h.size →
        ((∃ ups, (u, ups) ∈ shown) ↔ t ∈ h.mro u)
          ∧ (t ∈ h.supertypes u → ∃ ups, (u, ups) ∈ shown) := by
  obtain ⟨o, hat, htree⟩ :=
    exists_traced hm.acyclic_subtypes (fun _ hd => hm.lt_size_of_subtypes hd) t
  have hfollow : ∀ {e}, e ∈ o.placed → follow (traced h.subtypes) (t, []) e.1 = some e.2 :=
    fun {e} he => (hat e.1).symm.trans (Outline.mem_placed.mp he)
  have hmem : ∀ u ups, (u, ups) ∈ o.placed.map Prod.snd ↔ h.LeadsUp u ups t := by
    intro u ups
    rw [← exists_follow_subtypes_iff, List.mem_map]
    constructor
    · rintro ⟨⟨p, e⟩, he, rfl⟩
      exact ⟨p, hfollow he⟩
    · rintro ⟨p, hp⟩
      exact ⟨(p, u, ups), Outline.mem_placed.mpr ((hat p).trans hp), rfl⟩
  refine ⟨o.placed.map Prod.snd, ?_, ?_, hmem, fun u hu => ?_⟩
  · rw [htree, List.map_map]
    refine congrArg Except.ok (List.map_congr_left fun ⟨p, u, ups⟩ he => ?_)
    rw [Function.comp_apply, length_of_follow_traced (hfollow he)]
  · refine List.pairwise_map.mpr (o.pairwise_placed.imp_of_mem fun {e e'} he he' hlt heq => ?_)
    have hsame := follow_traced_inj h.nodup_subtypes (hfollow he) (heq ▸ hfollow he')
    exact List.lt_irrefl _ (hsame ▸ hlt)
  · have hshown : (∃ ups, (u, ups) ∈ o.placed.map Prod.snd) ↔ t ∈ h.mro u := by
      rw [hm.mem_mro_iff_exists hu]
      exact exists_congr (hmem u)
    exact ⟨hshown, fun ht => hshown.mpr (hm.mem_mro_of_mem_supertypes hu ht)⟩

/-- a class that two chains of bases lead up from -/
theorem tree_subtypes_intEnum :
    let h := baseOf 30
    h.Made ∧ ∃ shown : List (ClassId × List ClassId),
      h.tree h.subtypes 0 .object
          = .ok (shown.map fun e => treeLine e.2.length (h.typeName e.1))
        ∧ shown.Nodup
        ∧ (.intEnum, [.int, .object]) ∈ shown
        ∧ (.intEnum, [.reprEnum, .enum, .object]) ∈ shown
        ∧ .object ∈ h.mro .intEnum := by
  intro h
  obtain ⟨shown, htree, hnodup, hmem, hcounts⟩ := (made_baseOf 30).tree_subtypes .object
  have hint : (.intEnum, [.int, .object]) ∈ shown := (hmem _ _).mpr (by decide +kernel)
  have hrepr : (.intEnum, [.reprEnum, .enum, .object]) ∈ shown :=
    (hmem _ _).mpr (by decide +kernel)
  exact ⟨made_baseOf 30, shown, htree, hnodup, hint, hrepr,
    (hcounts .intEnum (by decide +kernel)).1.mp ⟨_, hint⟩⟩

end Hierarchy

end Introspect
