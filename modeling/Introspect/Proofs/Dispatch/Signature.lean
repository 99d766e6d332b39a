import Introspect.Storage.SlotKey
import Introspect.Proofs.Storage.ProbeTable

/-!
# Signatures of classes

Equality of values is not equality in general; where a class stands on one side it is.

* `Value.beq_cls_iff`             a value equals a class when it is that class;
* `Signature.beq_ofClasses_iff`   the same for signatures;
* `Signature.IsClasses`           signatures of classes, on which the laws of keys hold.
-/

namespace Introspect

theorem Value.beq_cls_iff (v : Value) (c : ClassId) : (v == .cls c) = true ↔ v = .cls c := by
  show v.same (.cls c) = true ↔ v = .cls c
  cases v with
  | cls d =>
    have hsame : (Value.cls d).same (.cls c) = (d == c) := rfl
    rw [hsame, beq_iff_eq, Value.cls.injEq]
  | complex x y =>
    have hsame : (Value.complex x y).same (.cls c) = (y == 0.0 && false) := rfl
    rw [hsame, Bool.and_false]
    exact iff_of_false Bool.false_ne_true nofun
  | _ => exact iff_of_false Bool.false_ne_true nofun

theorem Value.cls_beq_iff (c : ClassId) (v : Value) : (.cls c == v) = true ↔ v = .cls c := by
  show (Value.cls c).same v = true ↔ v = .cls c
  cases v with
  | cls d =>
    have hsame : (Value.cls c).same (.cls d) = (c == d) := rfl
    rw [hsame, beq_iff_eq, Value.cls.injEq, eq_comm]
  | complex x y =>
    have hsame : (Value.cls c).same (.complex x y) = (y == 0.0 && false) := rfl
    rw [hsame, Bool.and_false]
    exact iff_of_false Bool.false_ne_true nofun
  | _ => exact iff_of_false Bool.false_ne_true nofun

namespace Signature

@[simp] theorem ofClasses_nil : ofClasses [] = [] := rfl

@[simp] theorem ofClasses_cons (c : ClassId) (cs : List ClassId) :
    ofClasses (c :: cs) = .cls c :: ofClasses cs := rfl

@[simp] theorem length_ofClasses (cs : List ClassId) : (ofClasses cs).length = cs.length := by
  unfold ofClasses
  rw [List.length_map]

theorem ofClasses_injective {as bs : List ClassId} (h : ofClasses as = ofClasses bs) : as = bs :=
  List.map_injective_iff.mpr (fun _ _ hab => Value.cls.inj hab) h

/-- a signature equals one of classes when it is that one -/
theorem beq_ofClasses_iff (sig : Signature) (cs : List ClassId) :
    (sig == ofClasses cs) = true ↔ sig = ofClasses cs := by
  induction cs generalizing sig with
  | nil => cases sig <;> simp
  | cons c cs ih =>
    cases sig with
    | nil => simp
    | cons v vs =>
      rw [ofClasses_cons, List.cons_beq_cons, Bool.and_eq_true, Value.beq_cls_iff, ih,
        List.cons.injEq]

theorem ofClasses_beq_iff (cs : List ClassId) (sig : Signature) :
    (ofClasses cs == sig) = true ↔ sig = ofClasses cs := by
  induction cs generalizing sig with
  | nil => cases sig <;> simp
  | cons c cs ih =>
    cases sig with
    | nil => simp
    | cons v vs =>
      rw [ofClasses_cons, List.cons_beq_cons, Bool.and_eq_true, Value.cls_beq_iff, ih,
        List.cons.injEq]

/-- a signature of classes, such as that of a call -/
def IsClasses (sig : Signature) : Prop := ∃ cs, sig = ofClasses cs

theorem isClasses_ofClasses (cs : List ClassId) : IsClasses (ofClasses cs) := ⟨cs, rfl⟩

theorem beq_iff_of_isClasses {a b : Signature} (hb : IsClasses b) : (a == b) = true ↔ a = b := by
  obtain ⟨cs, rfl⟩ := hb
  exact beq_ofClasses_iff a cs

theorem keyLaws_isClasses : KeyLaws IsClasses where
  refl ha := (beq_iff_of_isClasses ha).mpr rfl
  symm ha hb h := (beq_iff_of_isClasses ha).mpr ((beq_iff_of_isClasses hb).mp h).symm
  trans _ hb hc hab hbc :=
    (beq_iff_of_isClasses hc).mpr
      (((beq_iff_of_isClasses hb).mp hab).trans ((beq_iff_of_isClasses hc).mp hbc))
  weight _ hb h := by rw [(beq_iff_of_isClasses hb).mp h]

end Signature

end Introspect
