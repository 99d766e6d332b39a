import Introspect.Proofs.Dispatch.Choice
import Introspect.Proofs.Hierarchy.Virtual

/-!
# Calls for which every method is beaten

With virtual subclasses two classes may count as subclasses of each other, and then each of the
methods that apply may be beaten by another one.  A call has no answer for that: what it takes is
the first of the methods that are kept, and there is none.

* `Store.NarrowerAt`              the classes that methods of a call declare at one of its places;
* `Store.exists_circular`         where every method is beaten, such classes form a cycle;
* `Store.Outcome`                 the four ways in which a call ends;
* `Store.resolve_outcome`         every call ends in one of them;
* `Hierarchy.entangled`           a hierarchy in which two classes are subclasses of each other.
-/

namespace Introspect

open Signature (ofClasses)
open Relation (TransGen ReflTransGen)

/-! ## Cycles -/

section
variable {α : Type} {r : α → α → Prop}

/-- a step from whose end steps lead back to its start -/
def Circular (r : α → α → Prop) (a b : α) : Prop := r a b ∧ ReflTransGen r b a

/-- a cycle is made of steps from whose ends steps lead back -/
theorem transGen_circular {a : α} (h : TransGen r a a) : TransGen (Circular r) a a := by
  have hpart : ∀ {b}, TransGen r a b → ReflTransGen r b a → TransGen (Circular r) a b := by
    intro b hab
    induction hab with
    | single hstep => exact fun hback => .single ⟨hstep, hback⟩
    | tail hab hstep ih =>
      exact fun hback => .tail (ih (.head hstep hback)) ⟨hstep, hback.trans hab.to_reflTransGen⟩
  exact hpart h .refl

/-- when some steps form no cycle, every cycle has another step -/
theorem exists_circular_of_acyclic {q : α → α → Prop} (hq : ∀ a, ¬ TransGen q a a) {a : α}
    (h : TransGen r a a) : ∃ b c, Circular r b c ∧ ¬ q b c := by
  by_contra hnone
  refine hq a (TransGen.mono (fun b c hbc => ?_) a a (transGen_circular h))
  by_contra hnot
  exact hnone ⟨b, c, hbc, hnot⟩

end

namespace Hierarchy

variable {h : Hierarchy}

/-- inheritance alone makes no cycle -/
theorem Made.inherits_acyclic (hm : h.Made) (c : ClassId) :
    ¬ TransGen (fun c d => c ≠ d ∧ h.inherits c d = true) c c := by
  have hproper : ∀ {d}, TransGen (fun c d => c ≠ d ∧ h.inherits c d = true) c d →
      c ≠ d ∧ h.inherits c d = true := by
    intro d hcd
    induction hcd with
    | single hstep => exact hstep
    | tail _ hstep ih =>
      refine ⟨?_, hm.inherits_trans ih.2 hstep.2⟩
      rintro rfl
      exact hstep.1 (inherits_antisymm hstep.2 ih.2)
  exact fun hcycle => (hproper hcycle).1 rfl

/-- classes of which each counts the next one's subclasses make no cycle -/
theorem Made.counted_acyclic (hm : h.Made) (c : ClassId) :
    ¬ TransGen (fun c d => TransGen h.Counts d c) c c := by
  have hcounts : ∀ {d}, TransGen (fun c d => TransGen h.Counts d c) c d →
      TransGen h.Counts d c := by
    intro d hcd
    induction hcd with
    | single hstep => exact hstep
    | tail _ hstep ih => exact hstep.trans ih
  exact fun hcycle => hm.counts_acyclic c (hcounts hcycle)

end Hierarchy

namespace Store

variable {s : Store} {h : Hierarchy} {tb : Table} {ts : List ClassId} {m o i : Nat}
  {c d : ClassId}

/-! ## The classes at one place of a call -/

/-- some method of a table that applies to a call declares a class at a place of it -/
def Declared (s : Store) (h : Hierarchy) (tb : Table) (ts : List ClassId) (i : Nat) (c : ClassId) :
    Prop :=
  ∃ m ∈ tb.methods, s.Applies h ts m ∧ s.DeclaresAt ts.length i m c

/-- of two classes that methods declare at a place of a call, one is a subclass of the other -/
structure NarrowerAt (s : Store) (h : Hierarchy) (tb : Table) (ts : List ClassId) (i : Nat)
    (c d : ClassId) : Prop where
  ne : c ≠ d
  isSubclass : h.isSubclass c d = true
  left : s.Declared h tb ts i c
  right : s.Declared h tb ts i d

/-- a method of a table that applies is narrower than another one -/
def Defeats (s : Store) (h : Hierarchy) (tb : Table) (ts : List ClassId) (m o : Nat) : Prop :=
  (m ∈ tb.methods ∧ s.Applies h ts m) ∧ (o ∈ tb.methods ∧ s.Applies h ts o)
    ∧ s.Beats h ts.length m o

section
variable {S : ClassId → Prop} (hms : ∀ k ∈ tb.methods, (s.method k).DeclaresWithin S)
include hms

/-- a method that is narrower than another one declares at each place a narrower class or the same
one, and at some place a narrower one -/
theorem Defeats.narrowerAt (hmo : s.Defeats h tb ts m o) :
    (∀ i c, s.DeclaresAt ts.length i m c →
        ∃ d, s.DeclaresAt ts.length i o d ∧ (c = d ∨ s.NarrowerAt h tb ts i c d))
      ∧ ∃ i c d, s.DeclaresAt ts.length i m c ∧ s.DeclaresAt ts.length i o d
          ∧ s.NarrowerAt h tb ts i c d := by
  obtain ⟨⟨hm, hmapp⟩, ⟨ho, hoapp⟩, hbeats⟩ := hmo
  obtain ⟨as, has, -⟩ := hmapp.fits (hms m hm)
  obtain ⟨bs, hbs, -⟩ := hoapp.fits (hms o ho)
  obtain ⟨hne, hbelow⟩ := (beats_iff has hbs).mp hbeats
  have hlen : as.length = bs.length :=
    (Method.length_of_parameterTypes has).trans (Method.length_of_parameterTypes hbs).symm
  have hplace : ∀ {i : Nat} {c d : ClassId}, as[i]? = some c → bs[i]? = some d → c ≠ d →
      s.NarrowerAt h tb ts i c d := fun hc hd hcd =>
    ⟨hcd, all_zip_iff.mp hbelow _ _ _ hc hd, ⟨m, hm, hmapp, as, has, hc⟩,
      ⟨o, ho, hoapp, bs, hbs, hd⟩⟩
  constructor
  · intro i c hc
    have hc := (declaresAt_iff has).mp hc
    obtain ⟨hi, -⟩ := List.getElem?_eq_some_iff.mp hc
    have hd : bs[i]? = some bs[i] := List.getElem?_eq_getElem (hlen ▸ hi)
    exact ⟨bs[i], ⟨bs, hbs, hd⟩, or_iff_not_imp_left.mpr (hplace hc hd)⟩
  · obtain ⟨i, c, d, hc, hd, hcd⟩ := exists_getElem?_ne hlen hne
    exact ⟨i, c, d, ⟨as, has, hc⟩, ⟨bs, hbs, hd⟩, hplace hc hd hcd⟩

/-- along methods of which each is narrower than the next one, the classes at each place get wider,
or they stay the same -/
theorem narrowerAt_of_defeats (hmo : ReflTransGen (s.Defeats h tb ts) m o)
    (hc : s.DeclaresAt ts.length i m c) :
    ∃ d, s.DeclaresAt ts.length i o d ∧ ReflTransGen (s.NarrowerAt h tb ts i) c d := by
  induction hmo with
  | refl => exact ⟨c, hc, .refl⟩
  | tail _ hstep ih =>
    obtain ⟨d, hd, hcd⟩ := ih
    obtain ⟨e, he, hde⟩ := (hstep.narrowerAt hms).1 i d hd
    refine ⟨e, he, ?_⟩
    rcases hde with rfl | hde
    · exact hcd
    · exact hcd.tail hde

/-- when methods apply and every one is beaten, their classes at some place lead back to themselves -/
theorem exists_circular (happ : ∃ k ∈ tb.methods, s.Applies h ts k)
    (hnone : ∀ k, ¬ s.Unbeaten h tb ts k) :
    ∃ i c, TransGen (s.NarrowerAt h tb ts i) c c := by
  obtain ⟨cs, -, -, hmem⟩ := exists_candidates hms ts
  have hbeaten : ∀ k ∈ cs, ∃ o ∈ cs, s.Beats h ts.length o k := by
    intro k hk
    obtain ⟨hk, hkapp⟩ := (hmem k).mp hk
    by_contra hno
    exact hnone k ⟨hk, hkapp, fun o ho hoapp hok => hno ⟨o, (hmem o).mpr ⟨ho, hoapp⟩, hok⟩⟩
  obtain ⟨k, hk, hkapp⟩ := happ
  obtain ⟨m, hcycle⟩ := exists_cycle ((hmem k).mpr ⟨hk, hkapp⟩) hbeaten
  have hdefeats : TransGen (s.Defeats h tb ts) m m :=
    TransGen.mono (fun a b hab => ⟨(hmem a).mp hab.1, (hmem b).mp hab.2.1, hab.2.2⟩) m m hcycle
  obtain ⟨o, hmo, hom⟩ := TransGen.head'_iff.mp hdefeats
  obtain ⟨i, c, d, hc, hd, hcd⟩ := (hmo.narrowerAt hms).2
  obtain ⟨e, he, hde⟩ := narrowerAt_of_defeats hms hom hd
  obtain ⟨ps, hps, hc⟩ := hc
  obtain rfl := Option.some.inj (hc.symm.trans ((declaresAt_iff hps).mp he))
  exact ⟨i, c, .head' hcd hde⟩

end

/-! ## How a call ends -/

/-- the ways in which a call with arguments of some classes ends -/
inductive Outcome (s : Store) (view : Surroundings) (f : Nat) (tb : Table) (ts : List ClassId) :
    Except Fault Nat → Prop where
  /-- no method applies -/
  | noMethod (hnone : ∀ k ∈ tb.methods, ¬ s.Applies view.hierarchy ts k) :
      Outcome s view f tb ts
        (.error (.noMethod ((s.function f).name ++ signatureText view (ofClasses ts))))
  /-- one method is unbeaten -/
  | chosen {m : Nat} (hm : ∀ k, s.Unbeaten view.hierarchy tb ts k ↔ k = m) :
      Outcome s view f tb ts (.ok m)
  /-- several methods are unbeaten, and these are named -/
  | ambiguous {ks : List Nat} (hsub : ks.Sublist tb.methods) (hlen : 2 ≤ ks.length)
      (hks : ∀ k, k ∈ ks ↔ s.Unbeaten view.hierarchy tb ts k) :
      Outcome s view f tb ts
        (.error (.ambiguous ((s.function f).name ++ signatureText view (ofClasses ts))
          (ks.map fun k => (Value.method k).display view)))
  /-- methods apply, but every one is beaten: at some place their classes form a cycle of subclass
  tests, of which one is not due to inheritance, and one needs it -/
  | outOfRange (happ : ∃ k ∈ tb.methods, s.Applies view.hierarchy ts k)
      (hnone : ∀ k, ¬ s.Unbeaten view.hierarchy tb ts k)
      (hcycle : ∃ i,
        (∃ c d, Circular (s.NarrowerAt view.hierarchy tb ts i) c d
          ∧ ¬ view.hierarchy.inherits c d = true)
        ∧ ∃ c d, Circular (s.NarrowerAt view.hierarchy tb ts i) c d
          ∧ ¬ TransGen view.hierarchy.Counts d c) :
      Outcome s view f tb ts (.error .outOfRange)

/-- when every candidate is beaten, the first of those that are kept is asked for in vain -/
theorem resolve_of_all_beaten {view : Surroundings} {f : Nat} {cs : List Nat}
    (htb : (s.function f).table = some tb)
    (hcs : s.candidates view.hierarchy tb (ofClasses ts) = .ok cs) (hne : cs ≠ [])
    (hus : s.unbeaten view.hierarchy ts.length cs = .ok []) :
    s.resolve view f (ofClasses ts) = .error .outOfRange :=
  (resolve_of_kept htb hcs hne hus).trans (if_pos rfl)

/-- in a hierarchy that was made class by class, a call of a function whose methods declare classes
ends in one of these ways -/
theorem resolve_outcome {view : Surroundings} {f : Nat} (hmade : view.hierarchy.Made)
    (htb : (s.function f).table = some tb)
    (hms : ∀ k ∈ tb.methods, (s.method k).DeclaresWithin fun _ => True) (ts : List ClassId) :
    s.Outcome view f tb ts (s.resolve view f (ofClasses ts)) := by
  obtain ⟨cs, us, hcs, hus, hsub, hmem, hunbeaten⟩ := exists_kept (h := view.hierarchy) hms ts
  cases hc : cs with
  | nil =>
    rw [resolve_of_no_candidates htb (hc ▸ hcs)]
    exact .noMethod fun k hk hkapp => List.not_mem_nil (hc ▸ (hmem k).mpr ⟨hk, hkapp⟩)
  | cons k ks =>
    have hne : cs ≠ [] := hc ▸ List.cons_ne_nil k ks
    have happ := (hmem k).mp (hc ▸ List.mem_cons_self)
    -- the candidates that are kept are the unbeaten methods, and their number decides
    match us, hus, hsub, hunbeaten with
    | [], hus, hsub, hunbeaten =>
      rw [resolve_of_all_beaten htb hcs hne hus]
      have hnone : ∀ k, ¬ s.Unbeaten view.hierarchy tb ts k := fun k hk =>
        List.not_mem_nil ((hunbeaten k).mpr hk)
      obtain ⟨i, c, hcycle⟩ := exists_circular hms ⟨k, happ⟩ hnone
      refine .outOfRange ⟨k, happ⟩ hnone ⟨i, ?_, ?_⟩
      · obtain ⟨c, d, hcd, hnot⟩ := exists_circular_of_acyclic hmade.inherits_acyclic hcycle
        exact ⟨c, d, hcd, fun hinherits => hnot ⟨hcd.1.ne, hinherits⟩⟩
      · exact exists_circular_of_acyclic hmade.counted_acyclic hcycle
    | [m], hus, hsub, hunbeaten =>
      rw [resolve_of_candidates htb hcs hne hus (List.cons_ne_nil m [])]
      exact .chosen fun k => (hunbeaten k).symm.trans List.mem_singleton
    | m :: o :: us, hus, hsub, hunbeaten =>
      rw [resolve_of_candidates htb hcs hne hus (List.cons_ne_nil m (o :: us))]
      exact .ambiguous hsub (by simp) hunbeaten

end Store

/-! ## Two classes that are subclasses of each other -/

/-- a class with a name and some bases, plain or abstract -/
def ownClass (name : String) (bases : List ClassId) (family : Family) : Blueprint :=
  { name, qualname := name, module := "__main__", bases, family }

/-- two plain classes, and for each an abstract one that derives from it and adopts the other -/
def Hierarchy.entangled : Hierarchy :=
  let h := [ownClass "object" [] .plain, ownClass "P" [⟨0⟩] .plain, ownClass "B" [⟨0⟩] .plain,
    ownClass "A" [⟨1⟩] .abstract, ownClass "C" [⟨2⟩] .abstract].foldl extend empty
  (h.adopting ⟨3⟩ ⟨2⟩).adopting ⟨4⟩ ⟨1⟩

theorem Hierarchy.made_entangled : entangled.Made :=
  ((Made.empty.foldl (fun _ b hm => hm.extend b) _).adopting _ _).adopting _ _

/-- a function with a method for each of the two abstract classes -/
def Store.entangled : Store :=
  { Store.empty with
    functions := #[⟨"f", none, none, .slots, some ⟨[0, 1], .held []⟩⟩]
    methods := #[⟨0, ofClasses [⟨3⟩], [], none, default, .slots, .empty .slots⟩,
      ⟨0, ofClasses [⟨4⟩], [], none, default, .slots, .empty .slots⟩] }

/-- the displays of what belongs to these classes -/
def Surroundings.entangled : Surroundings :=
  ⟨.entangled, fun _ => "", fun _ => "", fun _ => none, fun _ => ""⟩

namespace Store

theorem declaresWithin_entangled :
    ∀ k ∈ [0, 1], (Store.entangled.method k).DeclaresWithin fun _ => True := by
  intro k hk v hv
  rcases List.mem_pair.mp hk with rfl | rfl
  · exact ⟨⟨3⟩, trivial, List.mem_singleton.mp hv⟩
  · exact ⟨⟨4⟩, trivial, List.mem_singleton.mp hv⟩

/-- each of the two methods beats the other one in a call that both apply to -/
theorem resolve_entangled :
    Store.entangled.resolve .entangled 0 (ofClasses [⟨4⟩]) = .error .outOfRange
      ∧ ∃ i c d, Circular (Store.entangled.NarrowerAt .entangled ⟨[0, 1], .held []⟩ [⟨4⟩] i) c d
          ∧ ¬ Hierarchy.entangled.inherits c d = true := by
  have hres : Store.entangled.resolve .entangled 0 (ofClasses [⟨4⟩]) = .error .outOfRange := rfl
  have hout : Store.entangled.Outcome .entangled 0 ⟨[0, 1], .held []⟩ [⟨4⟩]
      (Store.entangled.resolve .entangled 0 (ofClasses [⟨4⟩])) :=
    resolve_outcome Hierarchy.made_entangled rfl declaresWithin_entangled [⟨4⟩]
  rw [hres] at hout
  cases hout with
  | outOfRange _ _ hcycle =>
    obtain ⟨i, ⟨c, d, hcd, hnot⟩, -⟩ := hcycle
    exact ⟨hres, i, c, d, hcd, hnot⟩

end Store

end Introspect
