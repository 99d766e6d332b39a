import Introspect.Proofs.Acting
import Introspect.Proofs.Dispatch.Exact
import Introspect.Proofs.Hierarchy.Inheritance

/-!
# Tests against any type

A declared type need not be a class: it may be a tuple of types or alternatives, of one of which a
class has to be a subclass.  A test that succeeds for a class succeeds for its subclasses, and no
test succeeds for anything but a class.

* `Value.Mentions`              the classes that a subclass test against a type may ask for;
* `subclassTest_carriesOver`    a test that has a result for a class has one for its subclasses;
* `testsClass_subclassTest`     a test succeeds for classes only, and has only one fault;
* `isClasses_of_allPairs`, `allPairs_of_below`   the same for signatures.
-/

namespace Introspect

open Signature (ofClasses)

/-- among classes without virtual subclasses, subclassing is transitive -/
theorem Hierarchy.Inheriting.isSubclass_trans {h : Hierarchy} {S : ClassId → Prop}
    (hS : h.Inheriting S) (hmade : h.Made) {c d e : ClassId} (hc : S c) (hd : S d) (he : S e)
    (hcd : h.isSubclass c d = true) (hde : h.isSubclass d e = true) : h.isSubclass c e = true :=
  isSubclass_of_inherits
    (hmade.inherits_trans ((hS c d hc hd).symm.trans hcd) ((hS d e hd he).symm.trans hde))

/-! ## Tests against any type -/

/-- the classes that a subclass test against a type may ask for -/
inductive Value.Mentions (c : ClassId) : Value → Prop where
  | cls : Mentions c (.cls c)
  | union {ms : List Value} {m : Value} (hm : m ∈ ms) (h : Mentions c m) : Mentions c (.union ms)
  | tuple {ms : List Value} {m : Value} (hm : m ∈ ms) (h : Mentions c m) : Mentions c (.tuple ms)
  | typing {form : TypingForm} {ms : List Value} {m : Value} (hm : m ∈ ms) (h : Mentions c m) :
      Mentions c (.typing form ms)
  | noneType {ms : List Value} (h : c = .noneType) : Mentions c (.typing .optional ms)
  | list {ms : List Value} (h : c = .list) : Mentions c (.typing .list ms)

section
variable {x x' y y' : Except Fault Bool}

/-- where the first test has a result, the second one has one, and it succeeds if the first does -/
def CarriesOver (x y : Except Fault Bool) : Prop :=
  ∀ b, x = .ok b → ∃ b', y = .ok b' ∧ (b = true → b' = true)

theorem carriesOver_error (e : Fault) (y : Except Fault Bool) : CarriesOver (.error e) y := nofun

theorem carriesOver_ok {b b' : Bool} (h : b = true → b' = true) : CarriesOver (.ok b) (.ok b') := by
  rintro _ ⟨⟩
  exact ⟨b', rfl, h⟩

theorem CarriesOver.orElse (hx : CarriesOver x x') (hy : CarriesOver y y') :
    CarriesOver (do if ← x then .ok true else y) (do if ← x' then .ok true else y') := by
  intro b hb
  cases x with
  | error e => exact nomatch hb
  | ok r =>
    obtain ⟨r', rfl, hr⟩ := hx r rfl
    cases r with
    | true =>
      rw [hr rfl]
      exact ⟨true, rfl, fun _ => rfl⟩
    | false =>
      cases r' with
      | true => exact ⟨true, rfl, fun _ => rfl⟩
      | false => exact hy b hb

/-- a test of a value succeeds for classes only, and has no other fault than that of a bad test -/
structure TestsClass (a : Value) (x : Except Fault Bool) : Prop where
  succeeds : x = .ok true → ∃ c, a = .cls c
  fails : ∀ e, x = .error e → e = .badClassTest

theorem testsClass_bad (a : Value) : TestsClass a (.error .badClassTest) :=
  ⟨nofun, fun _ he => (Except.error.inj he).symm⟩

theorem testsClass_cls (c : ClassId) (b : Bool) : TestsClass (.cls c) (.ok b) :=
  ⟨fun _ => ⟨c, rfl⟩, nofun⟩

theorem TestsClass.orElse {a : Value} (hx : TestsClass a x) (hy : TestsClass a y) :
    TestsClass a (do if ← x then .ok true else y) := by
  match x, hx with
  | .error e, hx => exact ⟨nofun, fun e' he => hx.fails e' he⟩
  | .ok true, hx => exact ⟨fun _ => hx.succeeds rfl, nofun⟩
  | .ok false, _ => exact hy

end

variable {h : Hierarchy}

mutual

/-- a test that has a result for a class has one for a subclass, and succeeds if it did before -/
theorem subclassTest_carriesOver {c d : ClassId} (v : Value)
    (hv : ∀ e, v.Mentions e → h.isSubclass d e = true → h.isSubclass c e = true) :
    CarriesOver (subclassTest h (.cls d) v) (subclassTest h (.cls c) v) := by
  cases v with
  | cls e => exact carriesOver_ok (hv e .cls)
  | union ms => exact subclassOfAny_carriesOver ms fun e m hm he => hv e (.union hm he)
  | tuple ms => exact subclassOfAny_carriesOver ms fun e m hm he => hv e (.tuple hm he)
  | typing form ms =>
    have hms := subclassOfAny_carriesOver ms fun e m hm he => hv e (.typing hm he)
    cases form with
    | union => exact hms
    | optional => exact hms.orElse (carriesOver_ok (hv _ (.noneType rfl)))
    | list =>
      cases ms with
      | nil => exact carriesOver_ok (hv _ (.list rfl))
      | cons => exact carriesOver_error _ _
    | _ => exact carriesOver_error _ _
  | _ => exact carriesOver_error _ _

theorem subclassOfAny_carriesOver {c d : ClassId} (vs : List Value)
    (hvs : ∀ e, ∀ v ∈ vs, v.Mentions e → h.isSubclass d e = true → h.isSubclass c e = true) :
    CarriesOver (subclassOfAny h (.cls d) vs) (subclassOfAny h (.cls c) vs) := by
  cases vs with
  | nil => exact carriesOver_ok id
  | cons v vs =>
    exact (subclassTest_carriesOver v fun e => hvs e v List.mem_cons_self).orElse
      (subclassOfAny_carriesOver vs fun e w hw => hvs e w (List.mem_cons_of_mem v hw))

end

mutual

/-- a subclass test succeeds for classes only, and has no other fault than that of a bad test -/
theorem testsClass_subclassTest (h : Hierarchy) (a v : Value) :
    TestsClass a (subclassTest h a v) := by
  cases v with
  | cls e =>
    cases a with
    | cls c => exact testsClass_cls _ _
    | _ => exact testsClass_bad _
  | union ms => exact testsClass_subclassOfAny h a ms
  | tuple ms => exact testsClass_subclassOfAny h a ms
  | typing form ms =>
    have hms := testsClass_subclassOfAny h a ms
    cases form with
    | union => exact hms
    | optional =>
      cases a with
      | cls c => exact hms.orElse (testsClass_cls _ _)
      | _ => exact hms.orElse (testsClass_bad _)
    | list =>
      cases ms with
      | nil =>
        cases a with
        | cls c => exact testsClass_cls _ _
        | _ => exact testsClass_bad _
      | cons => exact testsClass_bad _
    | _ => exact testsClass_bad _
  | _ => exact testsClass_bad _

theorem testsClass_subclassOfAny (h : Hierarchy) (a : Value) (vs : List Value) :
    TestsClass a (subclassOfAny h a vs) := by
  cases vs with
  | nil => exact ⟨nofun, nofun⟩
  | cons v vs => exact (testsClass_subclassTest h a v).orElse (testsClass_subclassOfAny h a vs)

end

/-! ## Tests position by position -/

section
variable {test : Value → Value → Except Fault Bool}

theorem allPairs_cons_eq_true {a b : Value} {as bs : Signature} :
    allPairs test (a :: as) (b :: bs) = .ok true
      ↔ test a b = .ok true ∧ allPairs test as bs = .ok true := by
  show (test a b >>= fun r => if r then allPairs test as bs else .ok false) = .ok true ↔ _
  rw [bind_eq_ok_iff]
  constructor
  · rintro ⟨r, hr, hrest⟩
    cases r with
    | false => exact absurd (Except.ok.inj hrest) Bool.false_ne_true
    | true => exact ⟨hr, hrest⟩
  · rintro ⟨hr, hrest⟩
    exact ⟨true, hr, hrest⟩

end

/-- a subclass test of signatures has no other fault than one of types -/
theorem fault_allPairs {as bs : Signature} {e : Fault}
    (he : allPairs (subclassTest h) as bs = .error e) : e = .badClassTest := by
  induction as generalizing bs with
  | nil => exact nomatch he
  | cons a as ih =>
    cases bs with
    | nil => exact nomatch he
    | cons b bs =>
      change (subclassTest h a b >>= fun r =>
        if r then allPairs (subclassTest h) as bs else .ok false) = .error e at he
      cases hab : subclassTest h a b with
      | error e' =>
        rw [hab] at he
        exact (testsClass_subclassTest h a b).fails e (hab.trans he)
      | ok r =>
        rw [hab] at he
        cases r with
        | false => exact nomatch he
        | true => exact ih he

/-- a signature of which every type is a subclass of the one at its place is one of classes -/
theorem isClasses_of_allPairs {as bs : Signature} (hlen : as.length = bs.length)
    (hab : allPairs (subclassTest h) as bs = .ok true) : as.IsClasses := by
  induction as generalizing bs with
  | nil => exact Signature.isClasses_ofClasses []
  | cons a as ih =>
    cases bs with
    | nil => exact nomatch hlen
    | cons b bs =>
      obtain ⟨hab, hrest⟩ := allPairs_cons_eq_true.mp hab
      obtain ⟨c, rfl⟩ := (testsClass_subclassTest h a b).succeeds hab
      obtain ⟨cs, rfl⟩ := ih (Nat.succ.inj hlen) hrest
      exact Signature.isClasses_ofClasses (c :: cs)

section
variable {S : ClassId → Prop} (hmade : h.Made) (hS : h.Inheriting S)
include hmade hS

/-- classes that are below others are subclasses of whatever types those are -/
theorem allPairs_of_below {as bs : List ClassId} {sig : Signature} (hlen : as.length = bs.length)
    (has : ∀ c ∈ as, S c) (hbs : ∀ c ∈ bs, S c) (hsig : ∀ v ∈ sig, ∀ c, v.Mentions c → S c)
    (hab : h.below as bs = true) (hb : allPairs (subclassTest h) (ofClasses bs) sig = .ok true) :
    allPairs (subclassTest h) (ofClasses as) sig = .ok true := by
  induction as generalizing bs sig with
  | nil => rfl
  | cons a as ih =>
    cases bs with
    | nil => exact nomatch hlen
    | cons b bs =>
      cases sig with
      | nil => rfl
      | cons v sig =>
        rw [Hierarchy.below_cons, Bool.and_eq_true] at hab
        obtain ⟨ha, has⟩ := List.forall_mem_cons.mp has
        obtain ⟨hb', hbs⟩ := List.forall_mem_cons.mp hbs
        obtain ⟨hv, hsig⟩ := List.forall_mem_cons.mp hsig
        obtain ⟨hbv, hb⟩ := allPairs_cons_eq_true.mp hb
        have hstep : ∀ e, v.Mentions e → h.isSubclass b e = true → h.isSubclass a e = true :=
          fun e he hbe => hS.isSubclass_trans hmade ha hb' (hv e he) hab.1 hbe
        obtain ⟨r, hr, htrue⟩ := subclassTest_carriesOver v hstep true hbv
        rw [htrue rfl] at hr
        exact allPairs_cons_eq_true.mpr ⟨hr, ih (Nat.succ.inj hlen) has hbs hsig hab.2 hb⟩

end

theorem mem_of_mentions_ofClasses {cs : List ClassId} {v : Value} (hv : v ∈ ofClasses cs)
    {c : ClassId} (hc : v.Mentions c) : c ∈ cs := by
  obtain ⟨d, hd, rfl⟩ := List.mem_map.mp hv
  cases hc
  exact hd

end Introspect
