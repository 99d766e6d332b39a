import Introspect.Proofs.Dispatch.Types
import Introspect.Proofs.Lists

/-!
# The narrowest method

A call keeps those methods that apply and that no other one that applies is narrower than.  Among
classes without virtual subclasses being narrower is a strict order, so by descent every method
that applies is kept or has a narrower one that is kept: when just one is kept, it is narrower than
all of the others.

* `Store.Applies`, `Beats`     a method applies to a call, or is narrower than another one there;
* `Store.Beats.trans`          being narrower is transitive, whatever types are declared;
* `Store.Narrowest`            a method applies, and beats all others that do;
* `Store.Unbeaten`             a method applies, and none that does beats it;
* `Store.resolve_eq_ok_iff`    a call chooses the narrowest method;
* `Store.resolve_eq_noMethod_iff`, `resolve_ambiguous`   what it does when there is none.
-/

namespace Introspect

open Signature (ofClasses)

namespace Store

/-! ## Methods that apply, and methods that are narrower -/

/-- a method applies to a call with arguments of some classes -/
def Applies (s : Store) (h : Hierarchy) (ts : List ClassId) (m : Nat) : Prop :=
  (s.method m).isApplicable h (ofClasses ts) = .ok true

/-- a method is strictly narrower than another one, by the types of a call with `n` arguments -/
def Beats (s : Store) (h : Hierarchy) (n m o : Nat) : Prop :=
  (s.method m).isMoreSpecific h (s.method o) (some n) = .ok true

/-- a method of a table that applies to a call, and beats all others that do -/
def Narrowest (s : Store) (h : Hierarchy) (tb : Table) (ts : List ClassId) (m : Nat) : Prop :=
  m ∈ tb.methods ∧ s.Applies h ts m
    ∧ ∀ o ∈ tb.methods, o ≠ m → s.Applies h ts o → s.Beats h ts.length m o

/-- a method of a table that applies to a call, and that none that does beats -/
def Unbeaten (s : Store) (h : Hierarchy) (tb : Table) (ts : List ClassId) (m : Nat) : Prop :=
  m ∈ tb.methods ∧ s.Applies h ts m
    ∧ ∀ o ∈ tb.methods, s.Applies h ts o → ¬ s.Beats h ts.length o m

/-- the types that a method declares at a number of arguments mention some classes only -/
def MentionsAt (s : Store) (S : ClassId → Prop) (n m : Nat) : Prop :=
  ∀ sig, (s.method m).parameterTypes n = some sig → ∀ v ∈ sig, ∀ c, v.Mentions c → S c

variable {s : Store} {h : Hierarchy} {S : ClassId → Prop} {ts : List ClassId} {m o : Nat}

theorem applies_iff_exists : s.Applies h ts m ↔ ∃ sig,
    (s.method m).parameterTypes ts.length = some sig
      ∧ allPairs (subclassTest h) (ofClasses ts) sig = .ok true := by
  unfold Applies Method.isApplicable
  rw [Signature.length_ofClasses]
  cases (s.method m).parameterTypes ts.length with
  | none => exact iff_of_false nofun nofun
  | some sig => exact ⟨fun h => ⟨sig, rfl, h⟩, fun ⟨_, hsig, h⟩ => Option.some.inj hsig ▸ h⟩

/-- what is narrower declares classes, other types than those, and is nowhere wider -/
theorem beats_iff_exists {n : Nat} : s.Beats h n m o ↔ ∃ as sig,
    (s.method m).parameterTypes n = some (ofClasses as)
      ∧ (s.method o).parameterTypes n = some sig ∧ sig ≠ ofClasses as
      ∧ allPairs (subclassTest h) (ofClasses as) sig = .ok true := by
  unfold Beats Method.isMoreSpecific
  dsimp only
  cases hm : (s.method m).parameterTypes n with
  | none => exact iff_of_false nofun nofun
  | some mine =>
    cases ho : (s.method o).parameterTypes n with
    | none => exact iff_of_false nofun nofun
    | some theirs =>
      dsimp only [Method.narrower]
      constructor
      · intro hbeats
        split at hbeats
        · exact nomatch hbeats
        · next hne =>
          obtain ⟨as, rfl⟩ := isClasses_of_allPairs ((Method.length_parameterTypes hm).trans
            (Method.length_parameterTypes ho).symm) hbeats
          exact ⟨as, theirs, rfl, rfl,
            fun heq => hne ((Signature.ofClasses_beq_iff _ _).mpr heq), hbeats⟩
      · rintro ⟨as, sig, hmine, htheirs, hne, hpairs⟩
        obtain rfl := Option.some.inj hmine
        obtain rfl := Option.some.inj htheirs
        rwa [if_neg fun heq => hne ((Signature.ofClasses_beq_iff _ _).mp heq)]

theorem isApplicable_total (hm : (s.method m).DeclaresWithin S) (ts : List ClassId) :
    ∃ b, (s.method m).isApplicable h (ofClasses ts) = .ok b := by
  cases hp : (s.method m).parameterTypes ts.length with
  | none => exact ⟨false, Method.isApplicable_of_none hp⟩
  | some sig =>
    obtain ⟨ps, rfl, -⟩ := hm.parameterTypes hp
    exact ⟨_, Method.isApplicable_of_some hp⟩

theorem Applies.fits (hm : (s.method m).DeclaresWithin S) (happ : s.Applies h ts m) :
    s.FitsWithin h S ts m := by
  unfold Applies at happ
  cases hp : (s.method m).parameterTypes ts.length with
  | none =>
    rw [Method.isApplicable_of_none hp] at happ
    exact absurd (Except.ok.inj happ) Bool.false_ne_true
  | some sig =>
    obtain ⟨ps, rfl, hps⟩ := hm.parameterTypes hp
    rw [Method.isApplicable_of_some hp] at happ
    exact ⟨ps, hp, hps, Except.ok.inj happ⟩

theorem isMoreSpecific_total (hm : s.FitsWithin h S ts m) (ho : s.FitsWithin h S ts o) :
    ∃ b, (s.method m).isMoreSpecific h (s.method o) (some ts.length) = .ok b := by
  obtain ⟨as, has, -⟩ := hm
  obtain ⟨bs, hbs, -⟩ := ho
  exact ⟨_, Method.isMoreSpecific_of_some has hbs⟩

theorem beats_iff {n : Nat} {as bs : List ClassId}
    (hm : (s.method m).parameterTypes n = some (ofClasses as))
    (ho : (s.method o).parameterTypes n = some (ofClasses bs)) :
    s.Beats h n m o ↔ as ≠ bs ∧ h.below as bs = true := by
  unfold Beats
  rw [Method.isMoreSpecific_of_some hm ho, Except.ok.injEq, Bool.and_eq_true, bne_iff_ne]

theorem not_beats_self (s : Store) (h : Hierarchy) (n m : Nat) : ¬ s.Beats h n m m := by
  rw [beats_iff_exists]
  rintro ⟨as, sig, has, hsig, hne, -⟩
  exact hne (Option.some.inj (hsig.symm.trans has))

/-- whatever types the last of three methods declares, being narrower is transitive -/
theorem Beats.trans {n k : Nat} (hmade : h.Made) (hS : h.Inheriting S) (hm : s.MentionsAt S n m)
    (ho : s.MentionsAt S n o) (hk : s.MentionsAt S n k) (hmo : s.Beats h n m o)
    (hok : s.Beats h n o k) : s.Beats h n m k := by
  obtain ⟨as, sig, has, hsig, hne, hab⟩ := beats_iff_exists.mp hmo
  obtain ⟨bs, cs, hbs, hcs, hne', hbc⟩ := beats_iff_exists.mp hok
  obtain rfl : sig = ofClasses bs := Option.some.inj (hsig.symm.trans hbs)
  have hasS : ∀ c ∈ as, S c := fun c hc => hm _ has _ (List.mem_map_of_mem hc) c .cls
  have hbsS : ∀ c ∈ bs, S c := fun c hc => ho _ hbs _ (List.mem_map_of_mem hc) c .cls
  have hlen : as.length = bs.length :=
    (Method.length_of_parameterTypes has).trans (Method.length_of_parameterTypes hbs).symm
  have hbelow : h.below as bs = true := Except.ok.inj ((allPairs_ofClasses as bs).symm.trans hab)
  refine beats_iff_exists.mpr ⟨as, cs, has, hcs, ?_,
    allPairs_of_below hmade hS hlen hasS hbsS (hk _ hcs) hbelow hbc⟩
  -- otherwise the one in the middle would be the same as both
  rintro rfl
  have hback : h.below bs as = true := Except.ok.inj ((allPairs_ofClasses bs as).symm.trans hbc)
  exact hne (congrArg ofClasses (Hierarchy.below_antisymm hS hlen hasS hbsS hbelow hback)).symm

theorem FitsWithin.mentionsAt (hm : s.FitsWithin h S ts m) : s.MentionsAt S ts.length m := by
  obtain ⟨as, has, hasS, -⟩ := hm
  intro sig hsig v hv c hc
  obtain rfl := Option.some.inj (hsig.symm.trans has)
  exact hasS c (mem_of_mentions_ofClasses hv hc)

/-! ## What a call keeps -/

/-- the candidates of a call are the methods that apply -/
theorem exists_candidates {tb : Table} (hms : ∀ k ∈ tb.methods, (s.method k).DeclaresWithin S)
    (ts : List ClassId) : ∃ cs, s.candidates h tb (ofClasses ts) = .ok cs ∧ cs.Sublist tb.methods
      ∧ ∀ k, k ∈ cs ↔ k ∈ tb.methods ∧ s.Applies h ts k :=
  exists_filterBy fun k hk => isApplicable_total (hms k hk) ts

/-- what is kept of the candidates are those that no candidate beats -/
theorem mem_unbeaten_iff {n : Nat} {cs us : List Nat} (hus : s.unbeaten h n cs = .ok us) (k : Nat) :
    k ∈ us ↔ k ∈ cs ∧ ∀ o ∈ cs, ¬ s.Beats h n o k := by
  refine (mem_filterBy_iff hus k).trans (and_congr_right fun hk => ?_)
  obtain ⟨r, hr⟩ := exists_of_filterBy_eq_ok hus k hk
  cases hany : anyOf (fun o => (s.method o).isMoreSpecific h (s.method k) (some n)) cs with
  | error e => rw [hany] at hr; exact nomatch hr
  | ok b =>
    show Except.ok (!b) = Except.ok true ↔ _
    rw [Except.ok.injEq, Bool.not_eq_true', ← Bool.not_eq_true, anyOf_iff hany]
    simp only [not_exists, not_and, Beats]

theorem exists_unbeaten {cs : List Nat} (hcs : ∀ k ∈ cs, s.FitsWithin h S ts k) :
    ∃ us, s.unbeaten h ts.length cs = .ok us ∧ us.Sublist cs
      ∧ ∀ k, k ∈ us ↔ k ∈ cs ∧ ∀ o ∈ cs, ¬ s.Beats h ts.length o k := by
  have htest : ∀ k ∈ cs, ∃ b, (anyOf (fun o => (s.method o).isMoreSpecific h (s.method k)
      (some ts.length)) cs).map (!·) = .ok b := by
    intro k hk
    obtain ⟨b, hb, -⟩ := exists_anyOf fun o ho => isMoreSpecific_total (hcs o ho) (hcs k hk)
    exact ⟨!b, by rw [hb]; rfl⟩
  obtain ⟨us, hus, hsub, -⟩ := exists_filterBy htest
  exact ⟨us, hus, hsub, mem_unbeaten_iff hus⟩

/-- what is kept of the methods that apply are the unbeaten ones -/
theorem exists_kept {tb : Table} (hms : ∀ k ∈ tb.methods, (s.method k).DeclaresWithin S)
    (ts : List ClassId) :
    ∃ cs us, s.candidates h tb (ofClasses ts) = .ok cs ∧ s.unbeaten h ts.length cs = .ok us
      ∧ us.Sublist tb.methods ∧ (∀ k, k ∈ cs ↔ k ∈ tb.methods ∧ s.Applies h ts k)
      ∧ ∀ k, k ∈ us ↔ s.Unbeaten h tb ts k := by
  obtain ⟨cs, hcs, hsub, hmem⟩ := exists_candidates hms ts
  obtain ⟨us, hus, hsubus, hmemus⟩ := exists_unbeaten fun k hk =>
    ((hmem k).mp hk).2.fits (hms k ((hmem k).mp hk).1)
  refine ⟨cs, us, hcs, hus, hsubus.trans hsub, hmem, fun k => ?_⟩
  rw [hmemus, hmem]
  unfold Unbeaten
  simp only [hmem, and_imp, and_assoc]

/-- without candidates there is no method -/
theorem resolve_of_no_candidates {view : Surroundings} {f : Nat} {tb : Table}
    (htb : (s.function f).table = some tb)
    (hcs : s.candidates view.hierarchy tb (ofClasses ts) = .ok []) :
    s.resolve view f (ofClasses ts)
      = .error (.noMethod ((s.function f).name ++ signatureText view (ofClasses ts))) := by
  unfold resolve
  rw [(table?_eq_ok_iff s f tb).mpr htb]
  simp only [bind, Except.bind, hcs]

/-- when no method applies there is none -/
theorem resolve_of_not_applies {view : Surroundings} {f : Nat} {tb : Table}
    (htb : (s.function f).table = some tb)
    (hms : ∀ k ∈ tb.methods, (s.method k).DeclaresWithin S)
    (hnone : ¬ ∃ k ∈ tb.methods, s.Applies view.hierarchy ts k) :
    s.resolve view f (ofClasses ts)
      = .error (.noMethod ((s.function f).name ++ signatureText view (ofClasses ts))) := by
  obtain ⟨cs, hcs, -, hmem⟩ := exists_candidates hms ts
  have hnil : cs = [] := List.eq_nil_iff_forall_not_mem.mpr fun k hk =>
    hnone ⟨k, (hmem k).mp hk⟩
  exact resolve_of_no_candidates htb (hnil ▸ hcs)

/-- with candidates, it depends on how many of them are kept -/
theorem resolve_of_kept {view : Surroundings} {f : Nat} {tb : Table} {cs us : List Nat}
    (htb : (s.function f).table = some tb)
    (hcs : s.candidates view.hierarchy tb (ofClasses ts) = .ok cs) (hne : cs ≠ [])
    (hus : s.unbeaten view.hierarchy ts.length cs = .ok us) :
    s.resolve view f (ofClasses ts)
      = if us = [] then .error .outOfRange else s.oneOf view f ts us := by
  unfold resolve
  rw [(table?_eq_ok_iff s f tb).mpr htb]
  simp only [bind, Except.bind, hcs, Signature.length_ofClasses]
  cases cs with
  | nil => exact absurd rfl hne
  | cons c cs =>
    simp only [hus]
    match us with
    | [] => rfl
    | [k] => rfl
    | k :: k' :: ks => rfl

theorem resolve_of_candidates {view : Surroundings} {f : Nat} {tb : Table} {cs us : List Nat}
    (htb : (s.function f).table = some tb)
    (hcs : s.candidates view.hierarchy tb (ofClasses ts) = .ok cs) (hne : cs ≠ [])
    (hus : s.unbeaten view.hierarchy ts.length cs = .ok us) (hune : us ≠ []) :
    s.resolve view f (ofClasses ts) = s.oneOf view f ts us :=
  (resolve_of_kept htb hcs hne hus).trans (if_neg hune)

/-! ## What a call chooses -/

section
variable {view : Surroundings} {f : Nat} {tb : Table}
  (htb : (s.function f).table = some tb)
  (hms : ∀ k ∈ tb.methods, (s.method k).DeclaresWithin S)
  (hmade : view.hierarchy.Made) (hS : view.hierarchy.Inheriting S)
include htb hms hmade hS

/-- when some method applies, the call depends on the methods that are unbeaten; what applies is one
of these, or one of these beats it -/
theorem resolve_of_applies (happ : ∃ k ∈ tb.methods, s.Applies view.hierarchy ts k) :
    ∃ us : List Nat, us.Sublist tb.methods ∧ us ≠ []
      ∧ s.resolve view f (ofClasses ts) = s.oneOf view f ts us
      ∧ (∀ k, k ∈ us ↔ s.Unbeaten view.hierarchy tb ts k)
      ∧ ∀ k ∈ tb.methods, s.Applies view.hierarchy ts k →
          ∃ b ∈ us, b = k ∨ s.Beats view.hierarchy ts.length b k := by
  obtain ⟨cs, us, hcs, hus, hsub, hmem, hmemus⟩ := exists_kept hms ts
  have hfits : ∀ k ∈ cs, s.FitsWithin view.hierarchy S ts k := fun k hk =>
    ((hmem k).mp hk).2.fits (hms k ((hmem k).mp hk).1)
  have hdescent : ∀ k ∈ cs, ∃ b ∈ us, b = k ∨ s.Beats view.hierarchy ts.length b k := by
    intro k hk
    obtain ⟨b, hb, hbk, hmin⟩ := Introspect.exists_unbeaten (r := s.Beats view.hierarchy ts.length)
      (fun a _ => not_beats_self s view.hierarchy ts.length a)
      (fun a ha b hb c hc => Beats.trans hmade hS (hfits a ha).mentionsAt (hfits b hb).mentionsAt
        (hfits c hc).mentionsAt) hk
    obtain ⟨hbm, hbapp⟩ := (hmem b).mp hb
    exact ⟨b, (hmemus b).mpr ⟨hbm, hbapp, fun o ho hoapp => hmin o ((hmem o).mpr ⟨ho, hoapp⟩)⟩, hbk⟩
  obtain ⟨k, hk, hkapp⟩ := happ
  have hkcs : k ∈ cs := (hmem k).mpr ⟨hk, hkapp⟩
  obtain ⟨b, hb, -⟩ := hdescent k hkcs
  have hune : us ≠ [] := List.ne_nil_of_mem hb
  exact ⟨us, hsub, hune, resolve_of_candidates htb hcs (List.ne_nil_of_mem hkcs) hus hune, hmemus,
    fun k hk happ => hdescent k ((hmem k).mpr ⟨hk, happ⟩)⟩

/-- a call chooses the narrowest method, if there is one -/
theorem resolve_eq_ok_iff (hnodup : tb.methods.Nodup) (m : Nat) :
    s.resolve view f (ofClasses ts) = .ok m ↔ s.Narrowest view.hierarchy tb ts m := by
  by_cases happ : ∃ k ∈ tb.methods, s.Applies view.hierarchy ts k
  · obtain ⟨us, hsub, -, hres, hmem, hdescent⟩ := resolve_of_applies htb hms hmade hS happ
    have hfits : ∀ k ∈ tb.methods, s.Applies view.hierarchy ts k →
        s.FitsWithin view.hierarchy S ts k := fun k hk happ => happ.fits (hms k hk)
    rw [hres]
    constructor
    · intro hone
      obtain rfl := oneOf_eq_ok hone
      obtain ⟨hm, hmapp, -⟩ := (hmem m).mp List.mem_cons_self
      refine ⟨hm, hmapp, fun o ho hne hoapp => ?_⟩
      obtain ⟨b, hb, hbo⟩ := hdescent o ho hoapp
      obtain rfl := List.mem_singleton.mp hb
      exact hbo.resolve_left fun heq => hne heq.symm
    · rintro ⟨hm, hmapp, hbeats⟩
      have hmf := hfits m hm hmapp
      have honly : ∀ k, k ∈ us ↔ some m = some k := by
        intro k
        rw [hmem, Option.some.injEq]
        constructor
        · rintro ⟨hk, hkapp, hkmin⟩
          by_contra hne
          exact hkmin m hm hmapp (hbeats k hk (fun heq => hne heq.symm) hkapp)
        · rintro rfl
          refine ⟨hm, hmapp, fun o ho hoapp hom => ?_⟩
          by_cases heq : o = m
          · exact not_beats_self s _ _ m (heq ▸ hom)
          · exact not_beats_self s _ _ m (Beats.trans hmade hS hmf.mentionsAt
              (hfits o ho hoapp).mentionsAt hmf.mentionsAt (hbeats o ho heq hoapp) hom)
      rw [eq_toList_of_nodup (hsub.nodup hnodup) honly]
      rfl
  · rw [resolve_of_not_applies htb hms happ]
    exact iff_of_false nofun fun hm => happ ⟨m, hm.1, hm.2.1⟩

/-- there is no method when none applies -/
theorem resolve_eq_noMethod_iff : s.resolve view f (ofClasses ts)
      = .error (.noMethod ((s.function f).name ++ signatureText view (ofClasses ts)))
    ↔ ∀ k ∈ tb.methods, ¬ s.Applies view.hierarchy ts k := by
  constructor
  · intro hres k hk hkapp
    obtain ⟨us, -, -, hone, -⟩ := resolve_of_applies htb hms hmade hS ⟨k, hk, hkapp⟩
    rw [hone] at hres
    match us, hres with
    | [], hres => exact nomatch hres
    | _ :: _ :: _, hres => exact nomatch hres
  · exact fun hnone => resolve_of_not_applies htb hms fun ⟨k, hk, hkapp⟩ => hnone k hk hkapp

/-- when methods apply and none of them is chosen, several are unbeaten, and these are named -/
theorem resolve_ambiguous (happ : ∃ k ∈ tb.methods, s.Applies view.hierarchy ts k)
    (hnot : ∀ m, s.resolve view f (ofClasses ts) ≠ .ok m) :
    ∃ ks : List Nat, ks.Sublist tb.methods ∧ 2 ≤ ks.length
      ∧ (∀ k, k ∈ ks ↔ s.Unbeaten view.hierarchy tb ts k)
      ∧ s.resolve view f (ofClasses ts)
          = .error (.ambiguous ((s.function f).name ++ signatureText view (ofClasses ts))
              (ks.map fun k => (Value.method k).display view)) := by
  obtain ⟨us, hsub, hne, hres, hmem, -⟩ := resolve_of_applies htb hms hmade hS happ
  obtain ⟨k, hk⟩ := List.exists_mem_of_ne_nil us hne
  obtain ⟨hlen, hone⟩ := oneOf_eq_error hk (hres ▸ hnot k)
  exact ⟨us, hsub, hlen, hmem, hres.trans hone⟩

end

end Store

end Introspect
