import Mathlib.Data.List.Induction
import Introspect.Proofs.Dispatch.Signature
import Introspect.Reflection.Backedges

/-!
# Dependents by signature

Pairs of a signature and a dependent are put together one by one: a dependent goes to the signature
that is there, or a new signature goes to the end.

* `Value.SameLaws p`      on the values of `p` equality is an equivalence, as it is on classes and on
                          tuples of such values;
* `Value.distinct_concat` and its companions   the first ones of equal values;
* `grouped`               the distinct signatures, each with its dependents in their order;
* `foldl_addGrouped_eq`   this is what comes out, when equality is an equivalence on the signatures;
* `perm_foldl_addGrouped` no dependent is lost, and none is there more often than before;
* `getElem?_pairs`        what is paired stands next to each other in the flat list.
-/

namespace Introspect

/-! ## Equal values -/

namespace Value

/-- on some values equality is an equivalence -/
structure SameLaws (p : Value → Prop) : Prop where
  refl : ∀ {a}, p a → (a == a) = true
  symm : ∀ {a b}, p a → p b → (a == b) = true → (b == a) = true
  trans : ∀ {a b c}, p a → p b → p c → (a == b) = true → (b == c) = true → (a == c) = true

theorem SameLaws.mono {p q : Value → Prop} (h : SameLaws p) (hq : ∀ a, q a → p a) : SameLaws q where
  refl ha := h.refl (hq _ ha)
  symm ha hb := h.symm (hq _ ha) (hq _ hb)
  trans ha hb hc := h.trans (hq _ ha) (hq _ hb) (hq _ hc)

/-- equality of classes is an equivalence -/
theorem sameLaws_cls : SameLaws fun v => ∃ c, v = .cls c where
  refl := by
    rintro _ ⟨c, rfl⟩
    exact (beq_cls_iff _ c).mpr rfl
  symm := by
    rintro _ _ ⟨c, rfl⟩ ⟨d, rfl⟩ h
    exact (beq_cls_iff _ c).mpr ((beq_cls_iff _ d).mp h).symm
  trans := by
    rintro _ _ _ ⟨c, rfl⟩ ⟨d, rfl⟩ ⟨e, rfl⟩ h h'
    exact (beq_cls_iff _ e).mpr (((beq_cls_iff _ d).mp h).trans ((beq_cls_iff _ e).mp h'))

theorem SameLaws.sameItems_refl {p : Value → Prop} (h : SameLaws p) {xs : List Value}
    (hxs : ∀ x ∈ xs, p x) : sameItems xs xs = true := by
  induction xs with
  | nil => rfl
  | cons x xs ih =>
    obtain ⟨hx, hxs⟩ := List.forall_mem_cons.mp hxs
    exact Bool.and_eq_true_iff.mpr ⟨h.refl hx, ih hxs⟩

theorem SameLaws.sameItems_symm {p : Value → Prop} (h : SameLaws p) {xs ys : List Value}
    (hxs : ∀ x ∈ xs, p x) (hys : ∀ y ∈ ys, p y) (hsame : sameItems xs ys = true) :
    sameItems ys xs = true := by
  induction xs generalizing ys with
  | nil =>
    cases ys with
    | nil => rfl
    | cons y ys => exact nomatch hsame
  | cons x xs ih =>
    cases ys with
    | nil => exact nomatch hsame
    | cons y ys =>
      obtain ⟨hx, hxs⟩ := List.forall_mem_cons.mp hxs
      obtain ⟨hy, hys⟩ := List.forall_mem_cons.mp hys
      obtain ⟨hxy, hrest⟩ := Bool.and_eq_true_iff.mp hsame
      exact Bool.and_eq_true_iff.mpr ⟨h.symm hx hy hxy, ih hxs hys hrest⟩

theorem SameLaws.sameItems_trans {p : Value → Prop} (h : SameLaws p) {xs ys zs : List Value}
    (hxs : ∀ x ∈ xs, p x) (hys : ∀ y ∈ ys, p y) (hzs : ∀ z ∈ zs, p z)
    (hxy : sameItems xs ys = true) (hyz : sameItems ys zs = true) : sameItems xs zs = true := by
  induction xs generalizing ys zs with
  | nil =>
    cases ys with
    | nil => exact hyz
    | cons y ys => exact nomatch hxy
  | cons x xs ih =>
    cases ys with
    | nil => exact nomatch hxy
    | cons y ys =>
      cases zs with
      | nil => exact nomatch hyz
      | cons z zs =>
        obtain ⟨hx, hxs⟩ := List.forall_mem_cons.mp hxs
        obtain ⟨hy, hys⟩ := List.forall_mem_cons.mp hys
        obtain ⟨hz, hzs⟩ := List.forall_mem_cons.mp hzs
        obtain ⟨hfirst, hrest⟩ := Bool.and_eq_true_iff.mp hxy
        obtain ⟨hfirst', hrest'⟩ := Bool.and_eq_true_iff.mp hyz
        exact Bool.and_eq_true_iff.mpr
          ⟨h.trans hx hy hz hfirst hfirst', ih hxs hys hzs hrest hrest'⟩

/-- equality of tuples is an equivalence when that of their items is one -/
theorem SameLaws.tuple {p : Value → Prop} (h : SameLaws p) :
    SameLaws fun v => ∃ vs, v = .tuple vs ∧ ∀ x ∈ vs, p x where
  refl := by
    rintro _ ⟨xs, rfl, hxs⟩
    exact h.sameItems_refl hxs
  symm := by
    rintro _ _ ⟨xs, rfl, hxs⟩ ⟨ys, rfl, hys⟩ hsame
    exact h.sameItems_symm hxs hys hsame
  trans := by
    rintro _ _ _ ⟨xs, rfl, hxs⟩ ⟨ys, rfl, hys⟩ ⟨zs, rfl, hzs⟩ hxy hyz
    exact h.sameItems_trans hxs hys hzs hxy hyz

theorem sameLaws_tuple_ofClasses :
    SameLaws fun v => ∃ ts, v = .tuple (Signature.ofClasses ts) := by
  refine sameLaws_cls.tuple.mono ?_
  rintro _ ⟨ts, rfl⟩
  refine ⟨_, rfl, fun x hx => ?_⟩
  obtain ⟨c, -, rfl⟩ := List.mem_map.mp hx
  exact ⟨c, rfl⟩

theorem contains_iff (ks : List Value) (v : Value) :
    ks.contains v = true ↔ ∃ k ∈ ks, (v == k) = true := by
  rw [List.contains_eq_any_beq, List.any_eq_true]

theorem distinct_concat (vs : List Value) (v : Value) :
    distinct (vs ++ [v])
      = if (distinct vs).contains v then distinct vs else distinct vs ++ [v] := by
  unfold distinct
  rw [List.foldl_append]
  rfl

theorem mem_of_mem_distinct {vs : List Value} {k : Value} (h : k ∈ distinct vs) : k ∈ vs := by
  induction vs using List.reverseRecOn with
  | nil => exact h
  | append_singleton vs v ih =>
    rw [distinct_concat] at h
    rw [List.mem_append]
    split at h
    · exact .inl (ih h)
    · exact (List.mem_append.mp h).imp_left ih

variable {p : Value → Prop}

/-- every value equals one of the distinct ones -/
theorem exists_mem_distinct (hp : SameLaws p) {vs : List Value} (hvs : ∀ v ∈ vs, p v) {v : Value}
    (hv : v ∈ vs) : ∃ k ∈ distinct vs, (k == v) = true := by
  induction vs using List.reverseRecOn with
  | nil => exact absurd hv List.not_mem_nil
  | append_singleton vs w ih =>
    have hfirst : ∀ x ∈ vs, p x := fun x hx => hvs x (List.mem_append_left _ hx)
    have hw : p w := hvs w (List.mem_append_right _ List.mem_cons_self)
    rw [distinct_concat]
    rcases List.mem_append.mp hv with hv | hv
    · obtain ⟨k, hk, heq⟩ := ih hfirst hv
      split
      · exact ⟨k, hk, heq⟩
      · exact ⟨k, List.mem_append_left _ hk, heq⟩
    · obtain rfl := List.mem_singleton.mp hv
      split
      · next hmem =>
        obtain ⟨k, hk, heq⟩ := (contains_iff _ _).mp hmem
        exact ⟨k, hk, hp.symm hw (hfirst k (mem_of_mem_distinct hk)) heq⟩
      · exact ⟨v, List.mem_append_right _ List.mem_cons_self, hp.refl hw⟩

/-- no two of the distinct values are equal -/
theorem pairwise_distinct (hp : SameLaws p) {vs : List Value} (hvs : ∀ v ∈ vs, p v) :
    (distinct vs).Pairwise fun k k' => (k == k') = false := by
  induction vs using List.reverseRecOn with
  | nil => exact List.Pairwise.nil
  | append_singleton vs v ih =>
    have hfirst : ∀ x ∈ vs, p x := fun x hx => hvs x (List.mem_append_left _ hx)
    have hv : p v := hvs v (List.mem_append_right _ List.mem_cons_self)
    rw [distinct_concat]
    split
    · exact ih hfirst
    · next hnot =>
      refine List.pairwise_append.mpr ⟨ih hfirst, List.pairwise_singleton _ _, ?_⟩
      intro k hk w hw
      obtain rfl := List.mem_singleton.mp hw
      refine Bool.eq_false_iff.mpr fun heq => hnot ?_
      exact (contains_iff _ _).mpr ⟨k, hk, hp.symm (hfirst k (mem_of_mem_distinct hk)) hv heq⟩

end Value

/-! ## Groups -/

/-- the dependents that are paired with a signature, in their order -/
def dependentsUnder (k : Value) (es : List (Value × Value)) : List Value :=
  (es.filter fun e => k == e.1).map Prod.snd

theorem dependentsUnder_concat (k : Value) (es : List (Value × Value)) (e : Value × Value) :
    dependentsUnder k (es ++ [e]) = dependentsUnder k es ++ if k == e.1 then [e.2] else [] := by
  unfold dependentsUnder
  rw [List.filter_append, List.map_append, List.filter_cons, List.filter_nil]
  split
  · rfl
  · rfl

/-- the distinct signatures, each with its dependents -/
def grouped (es : List (Value × Value)) : List (Value × List Value) :=
  (Value.distinct (es.map Prod.fst)).map fun k => (k, dependentsUnder k es)

/-- a signature that is not there goes to the end -/
theorem addGrouped_of_not_mem {ks : List Value} (under : Value → List Value) {x d : Value}
    (hx : ∀ k ∈ ks, (k == x) = false) :
    addGrouped (ks.map fun k => (k, under k)) x d
      = (ks.map fun k => (k, under k)) ++ [(x, [d])] := by
  induction ks with
  | nil => rfl
  | cons k ks ih =>
    obtain ⟨hk, hks⟩ := List.forall_mem_cons.mp hx
    have hne : ¬ (k == x) = true := Bool.eq_false_iff.mp hk
    rw [List.map_cons, addGrouped, if_neg hne, ih hks]
    rfl

/-- a dependent goes to the only signature that equals its own -/
theorem addGrouped_of_mem {ks : List Value} (under : Value → List Value) {x d : Value}
    (hone : ks.Pairwise fun k k' => (k == x) = true → (k' == x) = false)
    (hx : ∃ k ∈ ks, (k == x) = true) :
    addGrouped (ks.map fun k => (k, under k)) x d
      = ks.map fun k => (k, under k ++ if k == x then [d] else []) := by
  induction ks with
  | nil =>
    obtain ⟨k, hk, -⟩ := hx
    exact absurd hk List.not_mem_nil
  | cons k ks ih =>
    obtain ⟨hk, hks⟩ := List.pairwise_cons.mp hone
    rw [List.map_cons, List.map_cons, addGrouped]
    by_cases heq : (k == x) = true
    · have hrest : (ks.map fun k => (k, under k ++ if k == x then [d] else []))
          = ks.map fun k => (k, under k) := by
        refine List.map_congr_left fun k' hk' => ?_
        have hne : ¬ (k' == x) = true := Bool.eq_false_iff.mp (hk k' hk' heq)
        rw [if_neg hne, List.append_nil]
      rw [if_pos heq, if_pos heq, hrest]
    · obtain ⟨k', hk', heq'⟩ := hx
      have hmem : k' ∈ ks := by
        rcases List.mem_cons.mp hk' with rfl | hk'
        · exact absurd heq' heq
        · exact hk'
      rw [if_neg heq, if_neg heq, List.append_nil, ih hks ⟨k', hmem, heq'⟩]

/-- pairs put together one by one are the distinct signatures with their dependents -/
theorem foldl_addGrouped_eq {p : Value → Prop} (hp : Value.SameLaws p) {es : List (Value × Value)}
    (hes : ∀ e ∈ es, p e.1) :
    es.foldl (fun g e => addGrouped g e.1 e.2) [] = grouped es := by
  induction es using List.reverseRecOn with
  | nil => rfl
  | append_singleton es e ih =>
    have hfirst : ∀ e' ∈ es, p e'.1 := fun e' he' => hes e' (List.mem_append_left _ he')
    have he : p e.1 := hes e (List.mem_append_right _ List.mem_cons_self)
    have hsigs : ∀ v ∈ es.map Prod.fst, p v := by
      intro v hv
      obtain ⟨e', he', rfl⟩ := List.mem_map.mp hv
      exact hfirst e' he'
    have hkeys : ∀ k ∈ Value.distinct (es.map Prod.fst), p k := fun k hk =>
      hsigs k (Value.mem_of_mem_distinct hk)
    have hfold : (es ++ [e]).foldl (fun g e => addGrouped g e.1 e.2) []
        = addGrouped (grouped es) e.1 e.2 := by
      rw [List.foldl_append, ih hfirst]
      rfl
    rw [hfold]
    unfold grouped
    rw [List.map_append, List.map_cons, List.map_nil, Value.distinct_concat]
    simp only [dependentsUnder_concat]
    split
    · next hmem =>
      obtain ⟨k, hk, heq⟩ := (Value.contains_iff _ _).mp hmem
      refine addGrouped_of_mem (fun k => dependentsUnder k es) ?_
        ⟨k, hk, hp.symm he (hkeys k hk) heq⟩
      have hdistinct := Value.pairwise_distinct hp hsigs
      refine hdistinct.imp_of_mem fun {k k'} hk hk' hne heq => ?_
      refine Bool.eq_false_iff.mpr fun heq' => ?_
      have hsame := hp.trans (hkeys k hk) he (hkeys k' hk') heq
        (hp.symm (hkeys k' hk') he heq')
      rw [hsame] at hne
      exact nomatch hne
    · next hnot =>
      have hne : ∀ k ∈ Value.distinct (es.map Prod.fst), (k == e.1) = false := by
        refine fun k hk => Bool.eq_false_iff.mpr fun heq => hnot ?_
        exact (Value.contains_iff _ _).mpr ⟨k, hk, hp.symm (hkeys k hk) he heq⟩
      -- nothing was paired with the new signature before
      have hnone : dependentsUnder e.1 es = [] := by
        unfold dependentsUnder
        rw [List.map_eq_nil_iff, List.filter_eq_nil_iff]
        intro e' he' heq
        obtain ⟨k, hk, hke⟩ := Value.exists_mem_distinct hp hsigs (List.mem_map_of_mem he')
        have hsame := hp.trans (hkeys k hk) (hfirst e' he') he hke (hp.symm he (hfirst e' he') heq)
        rw [hne k hk] at hsame
        exact nomatch hsame
      rw [addGrouped_of_not_mem (fun k => dependentsUnder k es) hne, List.map_append, List.map_cons,
        List.map_nil, hnone, if_pos (hp.refl he)]
      refine congrArg (· ++ [(e.1, [e.2])]) (List.map_congr_left fun k hk => ?_)
      have hkne : ¬ (k == e.1) = true := Bool.eq_false_iff.mp (hne k hk)
      rw [if_neg hkne, List.append_nil]

/-! ## No dependent is lost -/

theorem perm_addGrouped (groups : List (Value × List Value)) (x d : Value) :
    ((addGrouped groups x d).flatMap Prod.snd).Perm (groups.flatMap Prod.snd ++ [d]) := by
  induction groups with
  | nil => exact List.Perm.refl _
  | cons g groups ih =>
    obtain ⟨k, ds⟩ := g
    unfold addGrouped
    split
    · rw [List.flatMap_cons, List.flatMap_cons, List.append_assoc, List.append_assoc]
      exact List.perm_append_comm.append_left ds
    · rw [List.flatMap_cons, List.flatMap_cons, List.append_assoc]
      exact ih.append_left ds

theorem perm_foldl_addGrouped (es : List (Value × Value)) (groups : List (Value × List Value)) :
    ((es.foldl (fun g e => addGrouped g e.1 e.2) groups).flatMap Prod.snd).Perm
      (groups.flatMap Prod.snd ++ es.map Prod.snd) := by
  induction es generalizing groups with
  | nil =>
    rw [List.map_nil, List.append_nil]
    exact List.Perm.refl _
  | cons e es ih =>
    rw [List.foldl_cons, List.map_cons]
    refine (ih _).trans ?_
    have hstep := (perm_addGrouped groups e.1 e.2).append_right (es.map Prod.snd)
    rw [List.append_assoc] at hstep
    exact hstep

/-! ## Pairs of a flat list -/

/-- what is paired stands next to each other -/
theorem getElem?_pairs (flat : List Value) (i : Nat) (k d : Value) :
    (pairs flat)[i]? = some (k, d) ↔ flat[2 * i]? = some k ∧ flat[2 * i + 1]? = some d := by
  induction flat using pairs.induct generalizing i with
  | case1 a b rest ih =>
    cases i with
    | zero =>
      show some (a, b) = some (k, d) ↔ some a = some k ∧ some b = some d
      rw [Option.some.injEq, Prod.mk.injEq, Option.some.injEq, Option.some.injEq]
    | succ i =>
      have hindex : 2 * (i + 1) = 2 * i + 1 + 1 := by omega
      rw [hindex]
      exact ih i
  | case2 flat hshort =>
    have hpairs : pairs flat = [] := by
      unfold pairs
      split
      · next a b rest => exact absurd rfl (hshort a b rest)
      · rfl
    rw [hpairs]
    refine iff_of_false nofun ?_
    rintro ⟨-, hd⟩
    cases flat with
    | nil => exact nomatch hd
    | cons a rest =>
      cases rest with
      | nil => exact nomatch hd
      | cons b rest => exact hshort a b rest rfl

end Introspect
