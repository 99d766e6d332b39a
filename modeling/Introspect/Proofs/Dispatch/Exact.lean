import Introspect.Proofs.Dispatch.Journal
import Introspect.Proofs.Dispatch.Resolve
import Introspect.Proofs.Lists

/-!
# Dispatch among methods that declare classes

As long as no virtual subclass is involved, two signatures of classes of which each is nowhere wider
than the other are the same.  So a method whose declared types are just those of a call beats all
methods that declare others, and it is chosen unless a second method declares the same types.

* `Hierarchy.Inheriting`     subclassing among some classes is inheritance;
* `Hierarchy.below`          a list of classes is nowhere wider than another;
* `Method.DeclaresWithin`    a method declares some of these classes only;
* `Store.DeclaresAt`         a method declares a class at a place of a call;
* `Store.declares`           the declared types of a method are those of a call;
* `Store.resolve_of_exact`   what a call chooses when there is such a method.
-/

namespace Introspect

open Signature (ofClasses)

/-! ## Lists of classes -/

namespace Hierarchy

variable {h : Hierarchy} {S : ClassId → Prop}

/-- subclassing among the classes is inheritance, so that no virtual subclass is involved -/
def Inheriting (h : Hierarchy) (S : ClassId → Prop) : Prop :=
  ∀ c d, S c → S d → h.isSubclass c d = h.inherits c d

/-- a class that is not abstract has no virtual subclasses -/
theorem isSubclass_eq_inherits {d : ClassId} (hd : (h.info d).family ≠ .abstract) (c : ClassId) :
    h.isSubclass c d = h.inherits c d := by
  have hfamily : ((h.info d).family == .abstract) = false := beq_eq_false_iff_ne.mpr hd
  unfold isSubclass
  cases h.size with
  | zero => rfl
  | succ n =>
    unfold isSubclassWithin
    rw [hfamily, Bool.false_and, Bool.or_false]

/-- every class is a subclass of the one at the same place -/
def below (h : Hierarchy) (as bs : List ClassId) : Bool :=
  (as.zip bs).all fun p => h.isSubclass p.1 p.2

theorem below_cons (a b : ClassId) (as bs : List ClassId) :
    h.below (a :: as) (b :: bs) = (h.isSubclass a b && h.below as bs) := rfl

/-- without virtual subclasses, lists of which each is below the other are the same -/
theorem below_antisymm (hS : h.Inheriting S) {as bs : List ClassId} (hlen : as.length = bs.length)
    (has : ∀ c ∈ as, S c) (hbs : ∀ c ∈ bs, S c) (hab : h.below as bs = true)
    (hba : h.below bs as = true) : as = bs := by
  induction as generalizing bs with
  | nil => exact (List.length_eq_zero_iff.mp hlen.symm).symm
  | cons a as ih =>
    cases bs with
    | nil => exact nomatch hlen
    | cons b bs =>
      rw [below_cons, Bool.and_eq_true] at hab hba
      have ha := has a List.mem_cons_self
      have hb := hbs b List.mem_cons_self
      have hsame : a = b :=
        inherits_antisymm ((hS a b ha hb).symm.trans hab.1) ((hS b a hb ha).symm.trans hba.1)
      rw [hsame, ih (Nat.succ.inj hlen) (fun c hc => has c (List.mem_cons_of_mem a hc))
        (fun c hc => hbs c (List.mem_cons_of_mem b hc)) hab.2 hba.2]

end Hierarchy

/-! ## Tests of classes -/

variable {h : Hierarchy}

/-- a test of classes, position by position -/
theorem allPairs_eq_ok {test : Value → Value → Except Fault Bool} {p : ClassId → ClassId → Bool}
    (htest : ∀ c d, test (.cls c) (.cls d) = .ok (p c d)) (as bs : List ClassId) :
    allPairs test (ofClasses as) (ofClasses bs) = .ok ((as.zip bs).all fun q => p q.1 q.2) := by
  induction as generalizing bs with
  | nil => rfl
  | cons a as ih =>
    cases bs with
    | nil => rfl
    | cons b bs =>
      rw [Signature.ofClasses_cons, Signature.ofClasses_cons, allPairs, htest,
        List.zip_cons_cons, List.all_cons]
      cases p a b with
      | false => rfl
      | true => exact ih bs

theorem allPairs_ofClasses (as bs : List ClassId) :
    allPairs (subclassTest h) (ofClasses as) (ofClasses bs) = .ok (h.below as bs) :=
  allPairs_eq_ok (fun _ _ => by rw [subclassTest]) as bs

theorem narrower_ofClasses (as bs : List ClassId) :
    Method.narrower h (ofClasses as) (ofClasses bs) = .ok (as != bs && h.below as bs) := by
  unfold Method.narrower
  by_cases hab : as = bs
  · have hbeq : (ofClasses as == ofClasses bs) = true :=
      (Signature.beq_ofClasses_iff _ _).mpr (congrArg ofClasses hab)
    rw [if_pos hbeq, hab, bne_self_eq_false, Bool.false_and]
  · have hbeq : ¬ (ofClasses as == ofClasses bs) = true :=
      fun hc => hab (Signature.ofClasses_injective ((Signature.beq_ofClasses_iff _ _).mp hc))
    rw [if_neg hbeq, allPairs_ofClasses, bne_iff_ne.mpr hab, Bool.true_and]

namespace Method

variable {m o : Method} {S : ClassId → Prop} {n : Nat} {sig : Signature}

/-- every type that a method declares is one of some classes -/
def DeclaresWithin (m : Method) (S : ClassId → Prop) : Prop :=
  ∀ v ∈ m.required ++ m.optional ++ m.variadic.toList, ∃ c, S c ∧ v = .cls c

/-- the declared types at a number of arguments are as many -/
theorem length_parameterTypes (h : m.parameterTypes n = some sig) : sig.length = n := by
  unfold parameterTypes at h
  dsimp only at h
  split at h
  · exact nomatch h
  · split at h
    · next hle =>
      obtain rfl := Option.some.inj h
      rw [List.length_take]
      omega
    · next hlt =>
      obtain ⟨t, -, rfl⟩ := Option.map_eq_some_iff.mp h
      rw [List.length_append, List.length_replicate]
      omega

theorem length_of_parameterTypes {ps : List ClassId}
    (h : m.parameterTypes n = some (ofClasses ps)) : ps.length = n := by
  rw [← length_parameterTypes h, Signature.length_ofClasses]

/-- the declared types at a number of arguments are types that the method declares -/
theorem mem_of_mem_parameterTypes (h : m.parameterTypes n = some sig) {v : Value} (hv : v ∈ sig) :
    v ∈ m.required ++ m.optional ++ m.variadic.toList := by
  unfold parameterTypes at h
  dsimp only at h
  split at h
  · exact nomatch h
  · split at h
    · obtain rfl := Option.some.inj h
      exact List.mem_append_left _ (List.mem_of_mem_take hv)
    · obtain ⟨t, ht, rfl⟩ := Option.map_eq_some_iff.mp h
      rcases List.mem_append.mp hv with hv | hv
      · exact List.mem_append_left _ hv
      · rw [(List.mem_replicate.mp hv).2, ht]
        exact List.mem_append_right _ (List.mem_singleton.mpr rfl)

/-- a list of classes that one by one are among some -/
theorem exists_ofClasses {vs : List Value} (h : ∀ v ∈ vs, ∃ c, S c ∧ v = .cls c) :
    ∃ cs, vs = ofClasses cs ∧ ∀ c ∈ cs, S c := by
  induction vs with
  | nil => exact ⟨[], rfl, fun c hc => absurd hc List.not_mem_nil⟩
  | cons v vs ih =>
    obtain ⟨c, hc, rfl⟩ := h v List.mem_cons_self
    obtain ⟨cs, rfl, hcs⟩ := ih fun w hw => h w (List.mem_cons_of_mem _ hw)
    exact ⟨c :: cs, rfl, List.forall_mem_cons.mpr ⟨hc, hcs⟩⟩

theorem DeclaresWithin.parameterTypes (hm : m.DeclaresWithin S)
    (h : m.parameterTypes n = some sig) : ∃ cs, sig = ofClasses cs ∧ ∀ c ∈ cs, S c :=
  exists_ofClasses fun v hv => hm v (mem_of_mem_parameterTypes h hv)

theorem isApplicable_of_none {ts : List ClassId} (hm : m.parameterTypes ts.length = none) :
    m.isApplicable h (ofClasses ts) = .ok false := by
  unfold isApplicable
  rw [Signature.length_ofClasses, hm]

theorem isApplicable_of_some {ts ps : List ClassId}
    (hm : m.parameterTypes ts.length = some (ofClasses ps)) :
    m.isApplicable h (ofClasses ts) = .ok (h.below ts ps) := by
  unfold isApplicable
  rw [Signature.length_ofClasses, hm]
  exact allPairs_ofClasses ts ps

theorem isMoreSpecific_of_some {as bs : List ClassId} (hm : m.parameterTypes n = some (ofClasses as))
    (ho : o.parameterTypes n = some (ofClasses bs)) :
    m.isMoreSpecific h o (some n) = .ok (as != bs && h.below as bs) := by
  unfold isMoreSpecific
  dsimp only
  rw [hm, ho]
  exact narrower_ofClasses as bs

end Method

/-! ## A method that declares the types of the call -/

namespace Store

variable {s : Store} {S : ClassId → Prop} {ts : List ClassId} {m : Nat}

/-- a method declares a class at a place of a call with `n` arguments -/
def DeclaresAt (s : Store) (n i m : Nat) (c : ClassId) : Prop :=
  ∃ ps, (s.method m).parameterTypes n = some (ofClasses ps) ∧ ps[i]? = some c

theorem declaresAt_iff {n i : Nat} {ps : List ClassId} {c : ClassId}
    (hps : (s.method m).parameterTypes n = some (ofClasses ps)) :
    s.DeclaresAt n i m c ↔ ps[i]? = some c := by
  refine ⟨fun ⟨qs, hqs, hc⟩ => ?_, fun hc => ⟨ps, hps, hc⟩⟩
  rwa [Signature.ofClasses_injective (Option.some.inj (hps.symm.trans hqs))]

/-- whether the declared types of a method are those of a call -/
def declares (s : Store) (ts : List ClassId) (k : Nat) : Bool :=
  (s.method k).parameterTypes ts.length == some (ofClasses ts)

theorem declares_iff {k : Nat} :
    s.declares ts k = true ↔ (s.method k).parameterTypes ts.length = some (ofClasses ts) := by
  unfold declares
  cases (s.method k).parameterTypes ts.length with
  | none => simp
  | some sig => simp [Signature.beq_ofClasses_iff]

/-- a method applies to the types that it declares when each is a subclass of itself -/
theorem below_of_declares {h : Hierarchy} (hexact : s.declares ts m = true)
    (happ : (s.method m).isApplicable h (ofClasses ts) = .ok true) : h.below ts ts = true := by
  rw [Method.isApplicable_of_some (declares_iff.mp hexact)] at happ
  exact Except.ok.inj happ

/-- the declared types of a method that applies are classes that are nowhere narrower -/
def FitsWithin (s : Store) (h : Hierarchy) (S : ClassId → Prop) (ts : List ClassId) (k : Nat) :
    Prop :=
  ∃ ps, (s.method k).parameterTypes ts.length = some (ofClasses ps) ∧ (∀ c ∈ ps, S c)
    ∧ h.below ts ps = true

theorem FitsWithin.declares_iff {k : Nat} {ps : List ClassId}
    (hp : (s.method k).parameterTypes ts.length = some (ofClasses ps)) :
    s.declares ts k = true ↔ ps = ts := by
  rw [Store.declares_iff, hp, Option.some.injEq]
  exact ⟨Signature.ofClasses_injective, congrArg ofClasses⟩

/-- those methods apply whose declared types fit; methods that declare the types of the call do -/
theorem candidates_eq (h : Hierarchy) (ts : List ClassId) {tb : Table}
    (hms : ∀ k ∈ tb.methods, (s.method k).DeclaresWithin S) :
    ∃ cs, s.candidates h tb (ofClasses ts) = .ok cs ∧ (∀ k ∈ cs, s.FitsWithin h S ts k)
      ∧ (h.below ts ts = true →
          cs.filter (s.declares ts) = tb.methods.filter (s.declares ts)) := by
  let fits : Nat → Bool := fun k =>
    match (s.method k).isApplicable h (ofClasses ts) with
    | .ok b => b
    | .error _ => false
  have htest : ∀ k ∈ tb.methods, (s.method k).isApplicable h (ofClasses ts) = .ok (fits k)
      ∧ (fits k = true → s.FitsWithin h S ts k) := by
    intro k hk
    cases hp : (s.method k).parameterTypes ts.length with
    | none =>
      have happ := Method.isApplicable_of_none (h := h) hp
      have hfits : fits k = false := by simp only [fits, happ]
      exact ⟨by rw [happ, hfits], fun hc => absurd (hfits.symm.trans hc) Bool.false_ne_true⟩
    | some sig =>
      obtain ⟨ps, rfl, hps⟩ := (hms k hk).parameterTypes hp
      have happ := Method.isApplicable_of_some (h := h) hp
      have hfits : fits k = h.below ts ps := by simp only [fits, happ]
      exact ⟨by rw [happ, hfits], fun hc => ⟨ps, hp, hps, hfits ▸ hc⟩⟩
  refine ⟨tb.methods.filter fits, filterBy_eq_ok fun k hk => (htest k hk).1, fun k hk => ?_, ?_⟩
  · obtain ⟨hk, hfits⟩ := List.mem_filter.mp hk
    exact (htest k hk).2 hfits
  · intro hts
    rw [List.filter_filter]
    refine List.filter_congr fun k _ => ?_
    cases hd : s.declares ts k with
    | false => rfl
    | true =>
      have happ := Method.isApplicable_of_some (h := h) (declares_iff.mp hd)
      simp only [fits, happ, hts, Bool.and_self]

/-- when a method that applies declares the types of the call, no other types are left -/
theorem unbeaten_eq {h : Hierarchy} (hS : h.Inheriting S) (hts : ∀ c ∈ ts, S c) {cs : List Nat}
    (hcs : ∀ k ∈ cs, s.FitsWithin h S ts k) (hm : m ∈ cs) (hexact : s.declares ts m = true) :
    s.unbeaten h ts.length cs = .ok (cs.filter (s.declares ts)) := by
  refine filterBy_eq_ok fun k hk => ?_
  obtain ⟨ps, hp, hps, hbelow⟩ := hcs k hk
  have hlen : ps.length = ts.length := Method.length_of_parameterTypes hp
  -- a method with other types is narrower than the `k`th one
  let wins : Nat → Bool := fun o =>
    match (s.method o).isMoreSpecific h (s.method k) (some ts.length) with
    | .ok b => b
    | .error _ => false
  have hwins : ∀ o as, (s.method o).parameterTypes ts.length = some (ofClasses as) →
      (s.method o).isMoreSpecific h (s.method k) (some ts.length) = .ok (wins o)
        ∧ wins o = (as != ps && h.below as ps) := by
    intro o as ho
    have hres := Method.isMoreSpecific_of_some (h := h) ho hp
    have hval : wins o = (as != ps && h.below as ps) := by simp only [wins, hres]
    exact ⟨by rw [hres, hval], hval⟩
  have hany : anyOf (fun o => (s.method o).isMoreSpecific h (s.method k) (some ts.length)) cs
      = .ok (cs.any wins) := anyOf_eq_ok fun o ho => by
    obtain ⟨as, ha, -⟩ := hcs o ho
    exact (hwins o as ha).1
  rw [hany]
  show Except.ok (!cs.any wins) = Except.ok (s.declares ts k)
  congr 1
  by_cases hsame : ps = ts
  · rw [(FitsWithin.declares_iff hp).mpr hsame, Bool.not_eq_true', List.any_eq_false]
    intro o ho
    obtain ⟨as, ha, has, hle⟩ := hcs o ho
    rw [(hwins o as ha).2, Bool.and_eq_true, bne_iff_ne]
    rintro ⟨hne, hge⟩
    subst hsame
    exact hne (Hierarchy.below_antisymm hS (Method.length_of_parameterTypes ha) has hts hge hle)
  · have hnot : s.declares ts k = false := by
      rw [← Bool.not_eq_true]
      exact fun hd => hsame ((FitsWithin.declares_iff hp).mp hd)
    rw [hnot, Bool.not_eq_false', List.any_eq_true]
    refine ⟨m, hm, ?_⟩
    rw [(hwins m ts (declares_iff.mp hexact)).2, hbelow, Bool.and_true, bne_iff_ne]
    exact fun hc => hsame hc.symm

/-- the only method of a table is chosen when it applies -/
theorem resolve_of_alone {view : Surroundings} {f : Nat} {e : Edges} {ps : List ClassId}
    (htb : (s.function f).table = some ⟨[m], e⟩)
    (hp : (s.method m).parameterTypes ts.length = some (ofClasses ps))
    (hbelow : view.hierarchy.below ts ps = true) :
    s.resolve view f (ofClasses ts) = .ok m := by
  have hcandidates : s.candidates view.hierarchy ⟨[m], e⟩ (ofClasses ts) = .ok [m] :=
    filterBy_eq_ok (p := fun _ => true) fun k hk => by
      rw [List.mem_singleton.mp hk, Method.isApplicable_of_some hp, hbelow]
  have hmore := Method.isMoreSpecific_of_some (h := view.hierarchy) hp hp
  have hun : s.unbeaten view.hierarchy ts.length [m] = .ok [m] :=
    filterBy_eq_ok (p := fun _ => true) fun k hk => by
      rw [List.mem_singleton.mp hk, anyOf_eq_ok (p := fun _ => false) fun o ho => by
        rw [List.mem_singleton.mp ho, hmore, bne_self_eq_false, Bool.false_and]]
      rfl
  unfold resolve
  rw [(table?_eq_ok_iff s f _).mpr htb]
  simp only [bind, Except.bind, hcandidates, Signature.length_ofClasses, hun]

/-- the only method of a list, or the fault of a call that finds several -/
def oneOf (s : Store) (view : Surroundings) (f : Nat) (ts : List ClassId) :
    List Nat → Except Fault Nat
  | [k] => .ok k
  | ks => .error (.ambiguous ((s.function f).name ++ signatureText view (ofClasses ts))
      (ks.map fun k => (Value.method k).display view))

theorem oneOf_eq_ok {view : Surroundings} {f k : Nat} {ks : List Nat}
    (h : s.oneOf view f ts ks = .ok k) : ks = [k] := by
  match ks, h with
  | [k'], h => rw [Except.ok.inj h]

/-- a method among others is not the one that is found only when there are others -/
theorem oneOf_eq_error {view : Surroundings} {f : Nat} {ks : List Nat} (hm : m ∈ ks)
    (h : s.oneOf view f ts ks ≠ .ok m) :
    2 ≤ ks.length ∧ s.oneOf view f ts ks
      = .error (.ambiguous ((s.function f).name ++ signatureText view (ofClasses ts))
          (ks.map fun k => (Value.method k).display view)) := by
  match ks, hm, h with
  | [k], hm, h =>
    rw [List.mem_singleton.mp hm] at h
    exact absurd rfl h
  | k :: k' :: ks, _, _ => exact ⟨by simp, rfl⟩

/-- a call chooses the one method that declares its types, and it is ambiguous when there are more -/
theorem resolve_of_exact {view : Surroundings} {f : Nat} {tb : Table}
    (htb : (s.function f).table = some tb) (hms : ∀ k ∈ tb.methods, (s.method k).DeclaresWithin S)
    (hS : view.hierarchy.Inheriting S) (hts : ∀ c ∈ ts, S c)
    (hbelow : view.hierarchy.below ts ts = true) (hm : m ∈ tb.methods)
    (hexact : s.declares ts m = true) :
    s.resolve view f (ofClasses ts)
      = s.oneOf view f ts (tb.methods.filter (s.declares ts)) := by
  obtain ⟨cs, hcs, hfits, hfilter⟩ := candidates_eq view.hierarchy ts hms
  have hmem : m ∈ cs.filter (s.declares ts) := by
    rw [hfilter hbelow]
    exact List.mem_filter.mpr ⟨hm, hexact⟩
  have hmc : m ∈ cs := (List.mem_filter.mp hmem).1
  have hun := unbeaten_eq hS hts hfits hmc hexact
  unfold resolve
  rw [(table?_eq_ok_iff s f tb).mpr htb]
  simp only [bind, Except.bind, hcs, Signature.length_ofClasses]
  rw [hfilter hbelow] at hun hmem
  cases cs with
  | nil => exact absurd hmc List.not_mem_nil
  | cons c cs =>
    simp only [hun]
    cases hks : tb.methods.filter (s.declares ts) with
    | nil =>
      rw [hks] at hmem
      exact absurd hmem List.not_mem_nil
    | cons k ks =>
      cases ks with
      | nil => rfl
      | cons k' ks => rfl

end Store

end Introspect
