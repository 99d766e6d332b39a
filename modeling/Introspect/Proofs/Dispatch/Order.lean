import Introspect.Proofs.Dispatch.Refined

/-!
# Comparing methods by what they require

Without a number of arguments, two methods are compared by the types of their required parameters,
as far as both have any.  Among signatures of one length that is a strict order.  A signature that
begins with another one differs from it and is nowhere wider, and neither is the other one; and what
is compared through a shorter signature is not compared behind its end.

* `Hierarchy.below_and_below_iff`    lists are below each other when one begins with the other;
* `Hierarchy.below_iff_of_middle`    lists with one between them are compared behind its end;
* `Method.Narrower`                  a method is narrower than another one by what it requires;
* `Method.narrower_order`            when that is irreflexive, asymmetric and transitive.
-/

namespace Introspect

open Signature (ofClasses)

/-! ## Lists of any lengths -/

namespace Hierarchy

variable {h : Hierarchy} {S : ClassId → Prop} {as bs cs : List ClassId}

@[simp] theorem below_nil_left (h : Hierarchy) (bs : List ClassId) : h.below [] bs = true := rfl

@[simp] theorem below_nil_right (h : Hierarchy) (as : List ClassId) : h.below as [] = true := by
  cases as <;> rfl

section
variable (hmade : h.Made) (hS : h.Inheriting S) (has : ∀ c ∈ as, S c) (hbs : ∀ c ∈ bs, S c)
include hmade hS has hbs

/-- lists are below each other when one begins with the other -/
theorem below_and_below_iff (hsize : ∀ c, S c → c.index < h.size) :
    h.below as bs = true ∧ h.below bs as = true ↔ as <+: bs ∨ bs <+: as := by
  induction as generalizing bs with
  | nil => exact iff_of_true ⟨rfl, below_nil_right h bs⟩ (.inl List.nil_prefix)
  | cons a as ih =>
    cases bs with
    | nil => exact iff_of_true ⟨rfl, rfl⟩ (.inr List.nil_prefix)
    | cons b bs =>
      obtain ⟨ha, has⟩ := List.forall_mem_cons.mp has
      obtain ⟨hb, hbs⟩ := List.forall_mem_cons.mp hbs
      have hhead : h.isSubclass a b = true ∧ h.isSubclass b a = true ↔ a = b := by
        rw [hS a b ha hb, hS b a hb ha]
        constructor
        · exact fun hab => inherits_antisymm hab.1 hab.2
        · rintro rfl
          exact ⟨hmade.inherits_refl (hsize a ha), hmade.inherits_refl (hsize a ha)⟩
      rw [below_cons, below_cons, Bool.and_eq_true, Bool.and_eq_true, and_and_and_comm, hhead,
        ih has hbs, List.cons_prefix_cons, List.cons_prefix_cons, eq_comm (a := b), and_or_left]

/-- lists with one between them are below each other as far as that one reaches -/
theorem below_iff_of_middle (hcs : ∀ c ∈ cs, S c) (hab : h.below as bs = true)
    (hbc : h.below bs cs = true) :
    h.below as cs = true ↔ h.below (as.drop bs.length) (cs.drop bs.length) = true := by
  induction bs generalizing as cs with
  | nil => rfl
  | cons b bs ih =>
    cases as with
    | nil => exact iff_of_true rfl (by rw [List.drop_nil, below_nil_left])
    | cons a as =>
      cases cs with
      | nil => exact iff_of_true rfl (by rw [List.drop_nil, below_nil_right])
      | cons c cs =>
        rw [below_cons, Bool.and_eq_true] at hab hbc
        obtain ⟨ha, has⟩ := List.forall_mem_cons.mp has
        obtain ⟨hb, hbs⟩ := List.forall_mem_cons.mp hbs
        obtain ⟨hc, hcs⟩ := List.forall_mem_cons.mp hcs
        have hac : h.isSubclass a c = true :=
          hS.isSubclass_trans hmade ha hb hc hab.1 hbc.1
        rw [below_cons, hac, Bool.true_and]
        exact ih has hbs hcs hab.2 hbc.2

end

end Hierarchy

/-! ## Methods with signatures of classes -/

namespace Method

variable {h : Hierarchy} {S : ClassId → Prop} {m o p : Method} {as bs cs : List ClassId}

/-- a method is strictly narrower than another one by the types that they require -/
def Narrower (h : Hierarchy) (m o : Method) : Prop := m.isMoreSpecific h o none = .ok true

/-- a call with just the required arguments is made by the required types -/
theorem parameterTypes_length_required (m : Method) :
    m.parameterTypes m.required.length = some m.required := by
  have hle : m.required.length ≤ (m.required ++ m.optional).length := by
    rw [List.length_append]
    omega
  unfold parameterTypes
  dsimp only
  rw [if_neg (Nat.lt_irrefl _), if_pos hle, List.take_left]

section
variable (hm : m.required = ofClasses as) (ho : o.required = ofClasses bs)
include hm ho

theorem isMoreSpecific_none : m.isMoreSpecific h o none = .ok (as != bs && h.below as bs) := by
  unfold isMoreSpecific
  rw [hm, ho]
  exact narrower_ofClasses as bs

theorem narrower_iff : Narrower h m o ↔ as ≠ bs ∧ h.below as bs = true := by
  unfold Narrower
  rw [isMoreSpecific_none hm ho, Except.ok.injEq, Bool.and_eq_true, bne_iff_ne]

/-- signatures of one length are compared as for a call with that many arguments -/
theorem isMoreSpecific_none_eq_some (hlen : as.length = bs.length) :
    m.isMoreSpecific h o none = m.isMoreSpecific h o (some as.length) := by
  have hmine := m.parameterTypes_length_required
  have htheirs := o.parameterTypes_length_required
  rw [hm, Signature.length_ofClasses] at hmine
  rw [ho, Signature.length_ofClasses, ← hlen] at htheirs
  rw [isMoreSpecific_none hm ho, isMoreSpecific_of_some hmine htheirs]

end

/-- being narrower is irreflexive; of two methods with different signatures each is narrower than
the other when one signature begins with the other; and of three methods of which each is narrower
than the next one, the first is narrower than the last when their signatures differ and the first
is nowhere wider behind the end of the one in the middle -/
theorem narrower_order (hmade : h.Made) (hS : h.Inheriting S)
    (hsize : ∀ c, S c → c.index < h.size) (hm : m.required = ofClasses as)
    (ho : o.required = ofClasses bs) (hp : p.required = ofClasses cs) (has : ∀ c ∈ as, S c)
    (hbs : ∀ c ∈ bs, S c) (hcs : ∀ c ∈ cs, S c) :
    (∃ b, m.isMoreSpecific h o none = .ok b)
      ∧ ¬ Narrower h m m
      ∧ (Narrower h m o ∧ Narrower h o m ↔ as ≠ bs ∧ (as <+: bs ∨ bs <+: as))
      ∧ (Narrower h m o → Narrower h o p → (Narrower h m p ↔
          as ≠ cs ∧ h.below (as.drop bs.length) (cs.drop bs.length) = true))
      ∧ (as.length = bs.length →
          m.isMoreSpecific h o none = m.isMoreSpecific h o (some as.length)
            ∧ ¬ (Narrower h m o ∧ Narrower h o m)
            ∧ (bs.length = cs.length → Narrower h m o → Narrower h o p → Narrower h m p)) := by
  have hboth : Narrower h m o ∧ Narrower h o m ↔ as ≠ bs ∧ (as <+: bs ∨ bs <+: as) := by
    rw [narrower_iff hm ho, narrower_iff ho hm, and_and_and_comm, ne_comm (a := bs), and_self,
      Hierarchy.below_and_below_iff hmade hS has hbs hsize]
  have htrans : Narrower h m o → Narrower h o p → (Narrower h m p ↔
      as ≠ cs ∧ h.below (as.drop bs.length) (cs.drop bs.length) = true) := by
    intro hmo hop
    rw [narrower_iff hm hp, Hierarchy.below_iff_of_middle hmade hS has hbs hcs
      ((narrower_iff hm ho).mp hmo).2 ((narrower_iff ho hp).mp hop).2]
  refine ⟨⟨_, isMoreSpecific_none hm ho⟩, ?_, hboth, htrans, fun hlen =>
    ⟨isMoreSpecific_none_eq_some hm ho hlen, ?_, fun hlen' hmo hop => ?_⟩⟩
  · rw [narrower_iff hm hm]
    exact fun hmm => hmm.1 rfl
  · rw [hboth]
    rintro ⟨hne, hbegins | hbegins⟩
    · exact hne (hbegins.eq_of_length hlen)
    · exact hne (hbegins.eq_of_length hlen.symm).symm
  · refine (htrans hmo hop).mpr ⟨?_, ?_⟩
    · -- otherwise the first and the one in the middle would be below each other
      rintro rfl
      obtain ⟨hne, hab⟩ := (narrower_iff hm ho).mp hmo
      obtain ⟨-, hba⟩ := (narrower_iff ho hp).mp hop
      exact hne (Hierarchy.below_antisymm hS hlen has hbs hab hba)
    · rw [← hlen, List.drop_length, Hierarchy.below_nil_left]

/-- a method that requires some classes -/
def requiring (cs : List ClassId) : Method :=
  ⟨0, ofClasses cs, [], none, default, .slots, .empty .slots⟩

/-- a method without parameters and one for the widest class are narrower than each other, so that
one is narrower than a method for a narrower class through the other, and yet it is not -/
theorem narrower_withoutParameters :
    Narrower .chained (requiring [⟨0⟩]) (requiring [])
      ∧ Narrower .chained (requiring []) (requiring [⟨0⟩])
      ∧ Narrower .chained (requiring []) (requiring [⟨1⟩])
      ∧ ¬ Narrower .chained (requiring [⟨0⟩]) (requiring [⟨1⟩]) := by
  have hS : Hierarchy.chained.Inheriting fun c => c.index < Hierarchy.chained.size :=
    fun c d _ _ => Hierarchy.inheriting_chained c d trivial trivial
  have hnone : ∀ c ∈ ([] : List ClassId), c.index < Hierarchy.chained.size := nofun
  have hobject : ∀ c ∈ [(⟨0⟩ : ClassId)], c.index < Hierarchy.chained.size := by decide
  have hclass : ∀ c ∈ [(⟨1⟩ : ClassId)], c.index < Hierarchy.chained.size := by decide
  have hlast : Narrower .chained (requiring []) (requiring [⟨1⟩]) := rfl
  obtain ⟨-, -, hboth, htrans, -⟩ := narrower_order (m := requiring [⟨0⟩]) (o := requiring [])
    (p := requiring [⟨1⟩]) Hierarchy.made_chained hS (fun _ hc => hc) rfl rfl rfl hobject hnone
    hclass
  obtain ⟨hfirst, hback⟩ := hboth.mpr ⟨nofun, .inr List.nil_prefix⟩
  refine ⟨hfirst, hback, hlast, fun hnarrower => ?_⟩
  obtain ⟨-, hbelow⟩ := (htrans hfirst hlast).mp hnarrower
  exact absurd hbelow (by decide)

end Method

end Introspect
