import Introspect.Proofs.Acting
import Introspect.Session.Functions

/-!
# Literals leave functions alone

The value of a literal may be a new instance of a class, so it changes the session, but neither its
functions nor its classes.

* `Session.SameStore`        the store and the hierarchy are the same;
* `Literal.keeps_value`      the value of a literal keeps them;
* `keeps_evaluateParameters`, `keeps_readLayout`   so do the parts of requests that evaluate some.
-/

namespace Introspect

/-- the store and the hierarchy are the same -/
def Session.SameStore (s t : Session) : Prop := t.store = s.store ∧ t.hierarchy = s.hierarchy

open Session (SameStore)

instance : IsPreorder Session SameStore where
  refl _ := ⟨rfl, rfl⟩
  trans _ _ _ h h' := ⟨h'.1.trans h.1, h'.2.trans h.2⟩

theorem keeps_freshInstance (c : ClassId) : Keeps SameStore (freshInstance c) :=
  fun _ => ⟨rfl, rfl⟩

theorem keeps_construct (v : Value) : Keeps SameStore (construct v) := by
  unfold construct
  refine Keeps.get.bind fun s => ?_
  dsimp only
  split
  · split
    · exact Keeps.pure _
    · split
      · exact Keeps.throw _
      · exact keeps_freshInstance _
  · exact Keeps.throw _

theorem keeps_sampleValue (name : String) : Keeps SameStore (sampleValue name) := by
  unfold sampleValue
  split
  · exact Keeps.pure _
  · exact keeps_freshInstance _
  · exact Keeps.throw _

mutual

/-- the value of a literal leaves functions and classes alone -/
theorem Literal.keeps_value : (l : Literal) → Keeps SameStore l.value
  | .none | .bool _ | .int _ | .float _ | .str _ | .bytes _ | .bytearray _ | .complex _ _
  | .fraction _ _ | .dataclass _ _ _ _ | .model _ _ _ | .final Option.none | .forward _ => by
    unfold Literal.value
    exact Keeps.pure _
  | .list ls | .tuple ls => by
    unfold Literal.value
    exact (keeps_values ls).bind fun _ => Keeps.pure _
  | .set ls | .frozenset ls => by
    unfold Literal.value
    exact (keeps_values ls).bind fun _ => Keeps.get.bind fun _ =>
      (Keeps.liftExcept _).bind fun _ => Keeps.pure _
  | .dict es => by
    unfold Literal.value
    exact (keeps_entries es).bind fun _ => Keeps.get.bind fun _ =>
      (Keeps.liftExcept _).bind fun _ => Keeps.pure _
  | .range _ _ _ => by
    unfold Literal.value
    split
    · exact Keeps.throw _
    · exact Keeps.pure _
  | .floatText _ | .decimal _ => by
    unfold Literal.value
    split
    · exact Keeps.pure _
    · exact Keeps.throw _
  | .className _ | .generic _ | .module _ => by
    unfold Literal.value
    exact Keeps.get.bind fun _ => (Keeps.liftExcept _).bind fun _ => Keeps.pure _
  | .newInstance l => by
    unfold Literal.value
    exact (Literal.keeps_value l).bind fun v => keeps_construct v
  | .union ls => by
    unfold Literal.value
    exact (keeps_values ls).bind fun _ => Keeps.get.bind fun _ => Keeps.liftExcept _
  | .applied l ls => by
    unfold Literal.value
    exact (Literal.keeps_value l).bind fun _ => (keeps_values ls).bind fun _ =>
      Keeps.get.bind fun _ => Keeps.liftExcept _
  | .sample name => by
    unfold Literal.value
    exact keeps_sampleValue name
  | .final (some l) | .forwardArg l | .classVar l | .annotated l => by
    unfold Literal.value
    exact (Literal.keeps_value l).bind fun _ => Keeps.pure _
  | .optional l => by
    unfold Literal.value
    refine (Literal.keeps_value l).bind fun v => ?_
    split <;> exact Keeps.pure _
  | .unknown _ => by
    unfold Literal.value
    exact Keeps.throw _
termination_by structural l => l

theorem Literal.keeps_values : (ls : List Literal) → Keeps SameStore (Literal.values ls)
  | [] => Keeps.pure []
  | l :: ls => by
    unfold Literal.values
    exact (Literal.keeps_value l).bind fun _ => (keeps_values ls).bind fun _ => Keeps.pure _
termination_by structural ls => ls

theorem Literal.keeps_entries :
    (es : List (Literal × Literal)) → Keeps SameStore (Literal.entries es)
  | [] => Keeps.pure []
  | (k, l) :: es => by
    unfold Literal.entries
    exact (Literal.keeps_value k).bind fun _ => (Literal.keeps_value l).bind fun _ =>
      (keeps_entries es).bind fun _ => Keeps.pure _
termination_by structural es => es

end

theorem Literal.keeps_value? (l : Option Literal) : Keeps SameStore (Literal.value? l) := by
  cases l with
  | none => exact Keeps.pure _
  | some l => exact l.keeps_value.bind fun _ => Keeps.pure _

theorem Literal.keeps_namedValues (ls : List (String × Literal)) :
    Keeps SameStore (Literal.namedValues ls) :=
  Keeps.mapM fun e _ => e.2.keeps_value.bind fun _ => Keeps.pure _

theorem keeps_evaluateParameters (params : List (Parameter Literal)) :
    Keeps SameStore (evaluateParameters params) :=
  Keeps.mapM fun p _ => (Literal.keeps_value? p.hint).bind fun _ =>
    (Literal.keeps_value? p.default).bind fun _ => Keeps.pure _

theorem keeps_signatureValues (signature : Option (List Literal)) :
    Keeps SameStore (signatureValues signature) := by
  cases signature with
  | none => exact Keeps.pure _
  | some ls => exact (Literal.keeps_values ls).bind fun _ => Keeps.pure _

theorem keeps_readLayout (layout : Option Literal) : Keeps SameStore (readLayout layout) := by
  cases layout with
  | none => exact Keeps.get.bind fun _ => Keeps.liftExcept _
  | some l => exact l.keeps_value.bind fun _ => Keeps.get.bind fun _ => Keeps.liftExcept _

theorem keeps_functionNamed (f : String) : Keeps SameStore (functionNamed f) :=
  Keeps.get.bind fun _ => Keeps.liftExcept _

theorem keeps_methodTexts (f : Nat) (filter : Option Signature) :
    Keeps SameStore (methodTexts f filter) :=
  Keeps.get.bind fun _ => (Keeps.liftExcept _).bind fun _ =>
    Keeps.get.bind fun _ => Keeps.pure _

end Introspect
