import Mathlib.Logic.Function.Iterate
import Introspect.Hierarchy.Lineage
import Introspect.Proofs.Hierarchy.Rooted

/-!
# Primary bases

A class with bases extends the instances of one of them, its primary base.  From any class, primary
bases lead to the root without coming back, and in the order in which the classes are resolved.

* `Linearization.sublist_of_mergeRounds`   a merge keeps the order of each sequence;
* `Hierarchy.Made.mro_eq_cons`             a class comes first in its resolution order, and the
                                           orders of its bases are kept behind it;
* `Hierarchy.Made.primary_cases`           a class without bases has no primary base, and every
                                           other class has one among its bases;
* `Hierarchy.Made.supertypes_of_some`      the chain above a class is its primary base and the chain
                                           above that, whatever bounds its length;
* `Hierarchy.Made.supertypes_sublist`      the chain is part of the resolution order;
* `Hierarchy.Made.exists_rounds`           the chain is what going up from base to base passes by,
                                           until that leads nowhere.
-/

namespace Introspect

namespace Linearization

variable {α : Type} [BEq α] [LawfulBEq α]

/-- a merge keeps the order of each sequence -/
theorem sublist_of_mergeRounds {n : Nat} {seqs : List (List α)} {xs : List α}
    (h : mergeRounds n seqs = some xs) {s : List α} (hs : s ∈ seqs) : s.Sublist xs := by
  -- when all sequences are empty, so is this one
  have hempty : ∀ {seqs : List (List α)} {s xs : List α}, seqs.all List.isEmpty = true →
      s ∈ seqs → s.Sublist xs := by
    intro seqs s xs hall hs
    rw [List.isEmpty_iff.mp (List.all_eq_true.mp hall s hs)]
    exact List.nil_sublist xs
  induction n generalizing seqs xs s with
  | zero =>
    unfold mergeRounds at h
    split at h
    · next hall => exact hempty hall hs
    · cases h
  | succ n ih =>
    unfold mergeRounds at h
    split at h
    · next hall => exact hempty hall hs
    · cases hx : nextHead seqs with
      | none => rw [hx] at h; cases h
      | some x =>
        rw [hx] at h
        obtain ⟨ys, hys, rfl⟩ := Option.map_eq_some_iff.mp h
        cases s with
        | nil => exact List.nil_sublist _
        | cons y r =>
          have hmem : (if y == x then r else y :: r) ∈ dropHead x seqs :=
            List.mem_map.mpr ⟨y :: r, hs, rfl⟩
          have hkept := ih hys hmem
          by_cases hyx : (y == x) = true
          · rw [if_pos hyx] at hkept
            rw [eq_of_beq hyx]
            exact hkept.cons_cons x
          · rw [if_neg hyx] at hkept
            exact hkept.cons x

/-- the class comes first in its resolution order, and the orders of its bases are kept behind it -/
theorem linearize_eq_cons {c : α} {bases : List α} {orders : List (List α)} {xs : List α}
    (h : linearize c bases orders = some xs) :
    ∃ ys, xs = c :: ys ∧ ∀ s ∈ orders, s.Sublist ys := by
  obtain ⟨ys, hys, rfl⟩ := Option.map_eq_some_iff.mp h
  exact ⟨ys, rfl, fun s hs => sublist_of_mergeRounds hys (List.mem_append_left _ hs)⟩

end Linearization

namespace Hierarchy

variable {h h' : Hierarchy} {c p : ClassId}

/-! ## Resolution orders -/

theorem Made.mro_eq_cons (hm : h.Made) (hc : c.index < h.size) :
    ∃ order, h.mro c = c :: order ∧ ∀ b ∈ (h.info c).bases, (h.mro b).Sublist order := by
  induction hm generalizing c with
  | empty => exact absurd hc (Nat.not_lt_zero _)
  | @declare h h' b k hm hdeclare ih =>
    obtain ⟨order, horder, hmro⟩ := mro_declare hdeclare
    obtain ⟨hsize, hbases, new, hnew, -, hinfo⟩ := info_declare hdeclare
    -- the bases stand before the class, so their orders are as before
    have hold : ∀ {e : ClassId}, e.index < h.size → h'.mro e = h.mro e := by
      intro e he
      rw [hmro, if_neg (Nat.ne_of_lt he)]
    by_cases hlast : c.index = h.size
    · obtain ⟨ys, rfl, hkept⟩ := Linearization.linearize_eq_cons horder
      refine ⟨ys, ?_, fun e he => ?_⟩
      · rw [hmro, if_pos hlast]
        exact congrArg (fun i => ClassId.mk i :: ys) hlast.symm
      · rw [hinfo, if_pos hlast, hnew] at he
        rw [hold (hbases e he)]
        exact hkept _ (List.mem_map.mpr ⟨e, he, rfl⟩)
    · have hc : c.index < h.size := by omega
      obtain ⟨order, hcons, hkept⟩ := ih hc
      refine ⟨order, (hold hc).trans hcons, fun e he => ?_⟩
      rw [hinfo, if_neg hlast] at he
      rw [hold (Nat.lt_trans (hm.base_lt he) hc)]
      exact hkept e he
  | @adopt h h' k e _ hadopt ih =>
    simp only [mro_adopt hadopt]
    rcases adopt_cases hadopt with rfl | ⟨-, -, rfl⟩
    · exact ih hc
    · rw [bases_addAdopted]
      exact ih (size_addAdopted k e ▸ hc)

/-! ## Primary bases -/

/-- the best base is one of the bases -/
theorem mem_of_bestBase {bases : List ClassId} (hp : h.bestBase bases = some p) : p ∈ bases := by
  -- the best of several bases is the best one before, or one of the later ones
  have hfold : ∀ (rest : List ClassId) (best : Option ClassId),
      rest.foldl (fun best c => best.bind fun b =>
        if h.inherits (h.info b).layout (h.info c).layout then some b
        else if h.inherits (h.info c).layout (h.info b).layout then some c
        else none) best = some p → best = some p ∨ p ∈ rest := by
    intro rest
    induction rest with
    | nil => exact fun best hbest => .inl hbest
    | cons c rest ih =>
      intro best hbest
      rcases ih _ hbest with hone | hrest
      · obtain ⟨b, rfl, hb⟩ := Option.bind_eq_some_iff.mp hone
        split at hb
        · exact .inl hb
        · split at hb
          · exact .inr (Option.some.inj hb ▸ List.mem_cons_self)
          · exact nomatch hb
      · exact .inr (List.mem_cons_of_mem c hrest)
  cases bases with
  | nil => exact nomatch hp
  | cons b rest =>
    rcases hfold rest (some b) hp with hb | hrest
    · exact Option.some.inj hb ▸ List.mem_cons_self
    · exact List.mem_cons_of_mem b hrest

/-- a new class extends the best of its bases, and has one when it has bases -/
theorem primary_declare {b : Blueprint} {k : ClassId} (hd : h.declare b = .ok (h', k)) :
    (h.bestBase b.bases = none → b.bases = []) ∧ ∀ e : ClassId, (h'.info e).primary
      = if e.index = h.size then h.bestBase b.bases else (h.info e).primary := by
  unfold declare at hd
  dsimp only at hd
  split at hd
  · exact nomatch hd
  · split at hd
    · exact nomatch hd
    · next hbest =>
      split at hd
      · split at hd
        · exact nomatch hd
        · obtain ⟨rfl, -⟩ := Prod.mk.inj (Except.ok.inj hd)
          refine ⟨fun hnone => ?_, fun e => ?_⟩
          · cases hbases : b.bases with
            | nil => rfl
            | cons d ds => exact absurd hbases (hbest d ds hnone)
          · exact (congrArg ClassInfo.primary (getD_push h.classes _ default e.index)).trans
              (apply_ite ClassInfo.primary _ _ _)
      · exact nomatch hd

/-- a class without bases has no primary base, and every other class has one of its bases -/
theorem Made.primary_cases (hm : h.Made) (c : ClassId) :
    (h.info c).primary = none ∧ (h.info c).bases = []
      ∨ ∃ p ∈ (h.info c).bases, (h.info c).primary = some p := by
  induction hm generalizing c with
  | empty => exact .inl ⟨rfl, rfl⟩
  | @declare h h' b k hm hdeclare ih =>
    obtain ⟨hnone, hprimary⟩ := primary_declare hdeclare
    obtain ⟨-, -, new, hnew, -, hinfo⟩ := info_declare hdeclare
    rw [hprimary, hinfo]
    by_cases hlast : c.index = h.size
    · rw [if_pos hlast, if_pos hlast, hnew]
      cases hbest : h.bestBase b.bases with
      | none => exact .inl ⟨rfl, hnone hbest⟩
      | some p => exact .inr ⟨p, mem_of_bestBase hbest, rfl⟩
    · rw [if_neg hlast, if_neg hlast]
      exact ih c
  | @adopt h h' k e _ hadopt ih =>
    rcases adopt_cases hadopt with rfl | ⟨-, -, rfl⟩
    · exact ih c
    · rw [apply_info_addAdopted ClassInfo.primary fun _ _ => rfl, bases_addAdopted]
      exact ih c

theorem Made.mem_bases_of_primary (hm : h.Made) (hp : (h.info c).primary = some p) :
    p ∈ (h.info c).bases := by
  rcases hm.primary_cases c with ⟨hnone, -⟩ | ⟨q, hq, hsome⟩
  · exact nomatch hnone.symm.trans hp
  · obtain rfl := Option.some.inj (hsome.symm.trans hp)
    exact hq

/-- a primary base stands before the class -/
theorem Made.primary_lt (hm : h.Made) (hp : (h.info c).primary = some p) : p.index < c.index :=
  hm.base_lt (hm.mem_bases_of_primary hp)

/-- only the root has no primary base, where every class inherits from it -/
theorem Made.primary_eq_none_iff (hm : h.Made) (hr : h.Rooted) (hc : c.index < h.size) :
    (h.info c).primary = none ↔ c = .object := by
  constructor
  · intro hnone
    rcases hm.primary_cases c with ⟨-, hbases⟩ | ⟨p, -, hsome⟩
    · have hroot := List.contains_iff_mem.mp (hr c hc)
      rcases (hm.mem_mro_iff hc _).mp hroot with hroot | ⟨b, hb, -⟩
      · exact hroot.symm
      · rw [hbases] at hb
        exact absurd hb List.not_mem_nil
    · exact nomatch hnone.symm.trans hsome
  · rintro rfl
    rw [Option.eq_none_iff_forall_ne_some]
    exact fun p hp => Nat.not_lt_zero _ (hm.primary_lt hp)

/-! ## The chain above a class -/

theorem supertypes_of_none (hp : (h.info c).primary = none) : h.supertypes c = [] := by
  unfold supertypes
  cases c.index with
  | zero => rfl
  | succ n => rw [supertypesWithin, hp]

/-- what bounds the length of a chain makes no difference when the chain cannot be longer -/
theorem Made.supertypesWithin_congr (hm : h.Made) {n m : Nat} (hn : c.index ≤ n)
    (hk : c.index ≤ m) : h.supertypesWithin n c = h.supertypesWithin m c := by
  induction n generalizing c m with
  | zero =>
    have hnone : (h.info c).primary = none :=
      Option.eq_none_iff_forall_ne_some.mpr fun p hp => by
        have hlt := hm.primary_lt hp
        omega
    cases m with
    | zero => rfl
    | succ m => rw [supertypesWithin, supertypesWithin, hnone]
  | succ n ih =>
    cases hp : (h.info c).primary with
    | none =>
      rw [supertypesWithin, hp]
      cases m with
      | zero => rfl
      | succ m => rw [supertypesWithin, hp]
    | some p =>
      have hlt := hm.primary_lt hp
      cases m with
      | zero => omega
      | succ m =>
        rw [supertypesWithin, supertypesWithin, hp]
        dsimp only
        rw [ih (c := p) (m := m) (by omega) (by omega)]

/-- the chain above a class with a primary base is that base and the chain above it -/
theorem Made.supertypes_of_some (hm : h.Made) (hp : (h.info c).primary = some p) :
    h.supertypes c = p :: h.supertypes p := by
  have hlt := hm.primary_lt hp
  have hne : p ≠ c := fun heq => Nat.lt_irrefl _ (heq ▸ hlt)
  obtain ⟨n, hn⟩ := Nat.exists_eq_succ_of_ne_zero (Nat.ne_zero_of_lt hlt)
  unfold supertypes
  rw [hn, supertypesWithin, hp]
  dsimp only
  rw [if_neg hne, hm.supertypesWithin_congr (by omega) (Nat.le_refl p.index)]

/-- what holds at the top, and of a class when it holds of its primary base, holds of every class -/
theorem Made.primary_induction (hm : h.Made) {motive : ClassId → Prop}
    (top : ∀ c, (h.info c).primary = none → motive c)
    (step : ∀ c p, (h.info c).primary = some p → motive p → motive c) (c : ClassId) : motive c := by
  induction hn : c.index using Nat.strongRecOn generalizing c with
  | _ n ih =>
    cases hp : (h.info c).primary with
    | none => exact top c hp
    | some p => exact step c p hp (ih p.index (hn ▸ hm.primary_lt hp) p rfl)

theorem Made.lt_of_mem_supertypes (hm : h.Made) {d : ClassId} (hd : d ∈ h.supertypes c) :
    d.index < c.index := by
  induction c using hm.primary_induction with
  | top c hp => rw [supertypes_of_none hp] at hd; exact absurd hd List.not_mem_nil
  | step c p hp ih =>
    have hlt := hm.primary_lt hp
    rw [hm.supertypes_of_some hp] at hd
    rcases List.mem_cons.mp hd with rfl | hd
    · exact hlt
    · exact Nat.lt_trans (ih hd) hlt

theorem Made.nodup_supertypes (hm : h.Made) (c : ClassId) : (h.supertypes c).Nodup := by
  induction c using hm.primary_induction with
  | top c hp => rw [supertypes_of_none hp]; exact List.nodup_nil
  | step c p hp ih =>
    rw [hm.supertypes_of_some hp]
    exact List.nodup_cons.mpr ⟨fun hmem => Nat.lt_irrefl _ (hm.lt_of_mem_supertypes hmem), ih⟩

/-- the chain above a class comes in its resolution order, behind the class itself -/
theorem Made.supertypes_sublist (hm : h.Made) (hc : c.index < h.size) :
    ∃ order, h.mro c = c :: order ∧ (h.supertypes c).Sublist order := by
  induction c using hm.primary_induction with
  | top c hp =>
    obtain ⟨order, hcons, -⟩ := hm.mro_eq_cons hc
    rw [supertypes_of_none hp]
    exact ⟨order, hcons, List.nil_sublist order⟩
  | step c p hp ih =>
    obtain ⟨order, hcons, hkept⟩ := hm.mro_eq_cons hc
    obtain ⟨order', hcons', hchain⟩ := ih (Nat.lt_trans (hm.primary_lt hp) hc)
    have hbase := hkept p (hm.mem_bases_of_primary hp)
    rw [hm.supertypes_of_some hp]
    rw [hcons'] at hbase
    exact ⟨order, hcons, (hchain.cons_cons p).trans hbase⟩

theorem Made.mem_mro_of_mem_supertypes (hm : h.Made) {d : ClassId} (hc : c.index < h.size)
    (hd : d ∈ h.supertypes c) : d ∈ h.mro c := by
  obtain ⟨order, hcons, hchain⟩ := hm.supertypes_sublist hc
  rw [hcons]
  exact List.mem_cons_of_mem c (hchain.subset hd)

/-- the chain is what going up passes by, round after round, until that leads nowhere -/
theorem Made.exists_rounds (hm : h.Made) (c : ClassId) :
    ∃ n, h.supertypes c = (List.range n).map (fun k => h.supertype^[k + 1] c)
      ∧ (∀ k < n, h.supertype^[k + 1] c ≠ h.supertype^[k] c)
      ∧ h.supertype^[n + 1] c = h.supertype^[n] c := by
  induction c using hm.primary_induction with
  | top c hp =>
    have hfixed : h.supertype c = c := congrArg (Option.getD · c) hp
    exact ⟨0, supertypes_of_none hp, fun k hk => absurd hk (Nat.not_lt_zero k), hfixed⟩
  | step c p hp ih =>
    obtain ⟨n, hchain, hmoves, hends⟩ := ih
    have hup : h.supertype c = p := congrArg (Option.getD · c) hp
    have hround : ∀ k, h.supertype^[k + 1] c = h.supertype^[k] p := fun k => by
      rw [Function.iterate_succ_apply, hup]
    refine ⟨n + 1, ?_, fun k hk => ?_, ?_⟩
    · rw [hm.supertypes_of_some hp, hchain, List.range_succ_eq_map, List.map_cons, List.map_map]
      exact congrArg₂ List.cons (hround 0).symm
        (List.map_congr_left fun k _ => (hround (k + 1)).symm)
    · cases k with
      | zero =>
        have hlt := hm.primary_lt hp
        rw [hround]
        exact fun heq => absurd (congrArg ClassId.index heq) (Nat.ne_of_lt hlt)
      | succ k =>
        rw [hround, hround]
        exact hmoves k (Nat.lt_of_succ_lt_succ hk)
    · rw [hround, hround]
      exact hends

/-- the chain above any class but the root ends in the root -/
theorem Made.getLast?_supertypes (hm : h.Made) (hr : h.Rooted) (hc : c.index < h.size)
    (hne : c ≠ .object) : (h.supertypes c).getLast? = some .object := by
  induction c using hm.primary_induction with
  | top c hp => exact absurd ((hm.primary_eq_none_iff hr hc).mp hp) hne
  | step c p hp ih =>
    have hp' := Nat.lt_trans (hm.primary_lt hp) hc
    rw [hm.supertypes_of_some hp, List.getLast?_cons]
    by_cases hroot : p = .object
    · rw [supertypes_of_none ((hm.primary_eq_none_iff hr hp').mpr hroot), hroot]
      rfl
    · rw [ih hp' hroot]
      rfl

end Hierarchy

end Introspect
