import Introspect.Proofs.Dispatch.Alike
import Introspect.Proofs.Session.Reached

/-!
# Programs do not see layouts

Run once with every function laid out in slots and once with every function laid out in chains, a
program comes to the same answers and faults, and to sessions that differ in their layouts only.

* `Session.Alike`        sessions that differ in the layouts of their stores only;
* `Session.Oblivious`    an action that does the same in both;
* `Literal.oblivious_value`   the values of literals are of this kind;
* `inStep_run`           so are scripts of programs, however their functions are laid out;
* `inStep_callWithin`    so are calls, to any depth;
* `inStep_answerWith`    so are requests, up to the layout that an answer names;
* `Session.answersWithin`, `Session.afterWithin`   a program as a whole, when calls go so deep;
* `Session.layouts_equivalent`   programs do not see layouts.
-/

set_option linter.unusedSectionVars false

namespace Introspect

variable {l l' : Layout} {α β : Type}

/-- sessions that differ in the layouts of their stores only -/
def Session.Alike (l l' : Layout) (s t : Session) : Prop :=
  ∃ store, t = { s with store } ∧ Store.Alike l l' s.store store

/-- an action that does the same whatever the layouts are -/
abbrev Session.Oblivious (l l' : Layout) (x : Run α) : Prop := InStep (Session.Alike l l') Eq x x

open Session (Oblivious)

/-- what follows may depend on the session, but not on layouts -/
theorem inStep_get_bind {Q : α → β → Prop} {f : Session → Run α} {g : Session → Run β}
    (h : ∀ s store, Store.Alike l l' s.store store →
      InStep (Session.Alike l l') Q (f s) (g { s with store })) :
    InStep (Session.Alike l l') Q (MonadState.get >>= f) (MonadState.get >>= g) := by
  refine InStep.get_bind fun s t hst => ?_
  obtain ⟨store, rfl, hstore⟩ := hst
  exact h s store hstore

/-! ## How values are shown -/

namespace Session

variable {s : Session} {store : Store} (h : Store.Alike l l' s.store store)
include h

theorem viewOver_eq (inner : Surroundings) :
    ({ s with store } : Session).viewOver inner = s.viewOver inner := by
  have hreference : store.referenceText inner = s.store.referenceText inner :=
    funext fun v => h.referenceText_eq inner v
  have hname : (fun f => (store.function f).name) = fun f => (s.store.function f).name :=
    funext fun f => (h.function f).name
  have hvariant : store.variant = s.store.variant := funext h.variant_eq
  unfold viewOver
  dsimp only
  rw [hreference, hname, hvariant]
  rfl

theorem view_eq : ({ s with store } : Session).view = s.view := by
  have hplain : ({ s with store } : Session).plainView = s.plainView := by
    have hname : (fun f => (store.function f).name) = fun f => (s.store.function f).name :=
      funext fun f => (h.function f).name
    unfold plainView
    dsimp only
    rw [hname]
    rfl
  unfold view
  rw [viewOver_eq h, viewOver_eq h, hplain]

theorem report_eq (v : Value) : ({ s with store } : Session).report v = s.report v := by
  unfold report
  rw [view_eq h]
  cases v with
  | generic f => dsimp only; rw [h.table?_eq]
  | _ => rfl

end Session

/-! ## Literals -/

theorem oblivious_freshInstance (c : ClassId) : Oblivious l l' (freshInstance c) := by
  rintro s _ ⟨store, rfl, h⟩
  exact ⟨Eq.refl _, store, rfl, h⟩

theorem oblivious_construct (v : Value) : Oblivious l l' (construct v) := by
  unfold construct
  refine inStep_get_bind fun s store _ => ?_
  dsimp only
  split
  · split
    · exact InStep.pure rfl
    · split
      · exact InStep.throw _
      · exact oblivious_freshInstance _
  · exact InStep.throw _

theorem oblivious_sampleValue (name : String) : Oblivious l l' (sampleValue name) := by
  unfold sampleValue
  split
  · exact InStep.pure rfl
  · exact oblivious_freshInstance _
  · exact InStep.throw _

mutual

/-- the value of a literal does not depend on layouts -/
theorem Literal.oblivious_value : (v : Literal) → Oblivious l l' v.value
  | .none | .bool _ | .int _ | .float _ | .str _ | .bytes _ | .bytearray _ | .complex _ _
  | .fraction _ _ | .dataclass _ _ _ _ | .model _ _ _ | .final Option.none | .forward _ => by
    unfold Literal.value
    exact InStep.pure rfl
  | .list ls | .tuple ls => by
    unfold Literal.value
    exact (oblivious_values ls).bind_eq fun _ => InStep.pure rfl
  | .set ls | .frozenset ls => by
    unfold Literal.value
    exact (oblivious_values ls).bind_eq fun _ => inStep_get_bind fun _ _ _ =>
      (InStep.liftExcept (.of_eq rfl)).bind_eq fun _ => InStep.pure rfl
  | .dict es => by
    unfold Literal.value
    exact (oblivious_entries es).bind_eq fun _ => inStep_get_bind fun _ _ _ =>
      (InStep.liftExcept (.of_eq rfl)).bind_eq fun _ => InStep.pure rfl
  | .range _ _ _ => by
    unfold Literal.value
    split
    · exact InStep.throw _
    · exact InStep.pure rfl
  | .floatText _ | .decimal _ => by
    unfold Literal.value
    split
    · exact InStep.pure rfl
    · exact InStep.throw _
  | .className _ | .generic _ | .module _ => by
    unfold Literal.value
    exact inStep_get_bind fun _ _ _ =>
      (InStep.liftExcept (.of_eq rfl)).bind_eq fun _ => InStep.pure rfl
  | .newInstance v => by
    unfold Literal.value
    exact (Literal.oblivious_value v).bind_eq fun w => oblivious_construct w
  | .union ls => by
    unfold Literal.value
    exact (oblivious_values ls).bind_eq fun _ => inStep_get_bind fun _ _ _ =>
      InStep.liftExcept (.of_eq rfl)
  | .applied v ls => by
    unfold Literal.value
    exact (Literal.oblivious_value v).bind_eq fun _ => (oblivious_values ls).bind_eq fun _ =>
      inStep_get_bind fun _ _ _ => InStep.liftExcept (.of_eq rfl)
  | .sample name => by
    unfold Literal.value
    exact oblivious_sampleValue name
  | .final (some v) | .forwardArg v | .classVar v | .annotated v => by
    unfold Literal.value
    exact (Literal.oblivious_value v).bind_eq fun _ => InStep.pure rfl
  | .optional v => by
    unfold Literal.value
    refine (Literal.oblivious_value v).bind_eq fun w => ?_
    split <;> exact InStep.pure rfl
  | .unknown _ => by
    unfold Literal.value
    exact InStep.throw _
termination_by structural v => v

theorem Literal.oblivious_values : (ls : List Literal) → Oblivious l l' (Literal.values ls)
  | [] => InStep.pure rfl
  | v :: ls => by
    unfold Literal.values
    exact (Literal.oblivious_value v).bind_eq fun _ => (oblivious_values ls).bind_eq fun _ =>
      InStep.pure rfl
termination_by structural ls => ls

theorem Literal.oblivious_entries :
    (es : List (Literal × Literal)) → Oblivious l l' (Literal.entries es)
  | [] => InStep.pure rfl
  | (k, v) :: es => by
    unfold Literal.entries
    exact (Literal.oblivious_value k).bind_eq fun _ => (Literal.oblivious_value v).bind_eq fun _ =>
      (oblivious_entries es).bind_eq fun _ => InStep.pure rfl
termination_by structural es => es

end

theorem Literal.oblivious_value? (v : Option Literal) : Oblivious l l' (Literal.value? v) := by
  cases v with
  | none => exact InStep.pure rfl
  | some v => exact v.oblivious_value.bind_eq fun _ => InStep.pure rfl

theorem Literal.oblivious_namedValues (ls : List (String × Literal)) :
    Oblivious l l' (Literal.namedValues ls) :=
  InStep.mapM fun e => e.2.oblivious_value.bind_eq fun _ => InStep.pure rfl

theorem oblivious_evaluateParameters (params : List (Parameter Literal)) :
    Oblivious l l' (evaluateParameters params) :=
  InStep.mapM fun p => (Literal.oblivious_value? p.hint).bind_eq fun _ =>
    (Literal.oblivious_value? p.default).bind_eq fun _ => InStep.pure rfl

theorem oblivious_signatureValues (signature : Option (List Literal)) :
    Oblivious l l' (signatureValues signature) := by
  cases signature with
  | none => exact InStep.pure rfl
  | some ls => exact (Literal.oblivious_values ls).bind_eq fun _ => InStep.pure rfl

theorem oblivious_functionNamed (f : String) : Oblivious l l' (functionNamed f) :=
  inStep_get_bind fun _ _ _ => InStep.liftExcept (.of_eq rfl)

theorem oblivious_methodTexts (f : Nat) : Oblivious l l' (methodTexts f none) := by
  unfold methodTexts
  refine inStep_get_bind fun s store h => ?_
  refine (InStep.liftExcept (.of_eq (h.methodsOf_eq s.hierarchy f).symm)).bind_eq fun ms => ?_
  unfold shownAll
  refine inStep_get_bind fun s store h => ?_
  rw [Session.view_eq h]
  exact InStep.pure rfl

/-! ## Functions and methods -/

/-- each program asks for its own layout -/
theorem inStep_readLayout (l l' : Layout) : InStep (Session.Alike l l') (fun a b => l = a ∧ l' = b)
    (readLayout (some (.str l.word))) (readLayout (some (.str l'.word))) := by
  have hread : ∀ (k : Layout) (s : Session), readLayout (some (.str k.word)) s = (.ok k, s) := by
    intro k s
    cases k <;> rfl
  intro s t hst
  rw [hread, hread]
  exact ⟨⟨rfl, rfl⟩, hst⟩

theorem inStep_addFunction (f : String) (fn : Function) :
    InStep (Session.Alike l l') Eq (addFunction f { fn with layout := l })
      (addFunction f { fn with layout := l' }) := by
  have happly : ∀ (fn : Function) (s : Session), addFunction f fn s
      = (.ok s.store.functions.size, { s with
          store := (s.store.addFunction fn).1
          functions := (f, s.store.functions.size) :: s.functions }) := fun _ _ => rfl
  rintro s _ ⟨store, rfl, h⟩
  rw [happly, happly]
  refine ⟨h.functions.symm, (store.addFunction { fn with layout := l' }).1, ?_,
    h.addFunction fn⟩
  dsimp only
  rw [h.functions]

theorem inStep_addMethod (f : Nat) (signature : Option Signature) (i : Implementation) {b : Script}
    (hb : b.Plain true) :
    InStep (Session.Alike l l') Eq (addMethod f signature { i with body := b.laidOut l })
      (addMethod f signature { i with body := b.laidOut l' }) := by
  unfold addMethod
  refine inStep_get_bind fun s store h => ?_
  have hmethods : (newMethod s f signature { i with body := b.laidOut l }).Alike l l'
      (newMethod { s with store } f signature { i with body := b.laidOut l' }) := by
    refine ⟨?_, rfl, b, hb, rfl, rfl⟩
    cases signature <;> rfl
  -- the layout of a method is that of its function, and only a function that is there has one
  have hkept : f < s.store.functions.size →
      (newMethod s f signature { i with body := b.laidOut l }).KeptAlike l l'
        (newMethod { s with store } f signature { i with body := b.laidOut l' }) := by
    intro hf
    obtain ⟨hl, hr⟩ := h.layout f hf
    refine ⟨hl, hr, ?_⟩
    show Storage.Alike l l' (.empty (s.store.function f).layout) (.empty (store.function f).layout)
    rw [hl, hr]
    exact Storage.alike_empty l l'
  refine (InStep.liftExcept (h.register hmethods hkept)).bind ?_
  rintro ⟨u, m⟩ ⟨u', m'⟩ ⟨hu, rfl⟩
  exact fun _ _ _ => ⟨Eq.refl m, u', rfl, hu⟩

/-! ## Answers -/

/-- whether a request makes a function -/
def Request.creates : Request → Bool
  | .newFunction _ _ _ | .newGeneric _ _ _ _ _ _ => true
  | _ => false

/-- the answers to a request in two layouts: the same, but for the layout at their end where they
tell of a function that was made -/
def Request.SameAnswer (l l' : Layout) (r : Request) (a a' : Answer) : Prop :=
  if r.creates then
    ∃ items, a = .list (items ++ [.text l.word]) ∧ a' = .list (items ++ [.text l'.word])
  else a = a'

/-- the values of a script in two layouts: the same, or, where they are tested only, both true or
both false -/
def Value.Like : Bool → Value → Value → Prop
  | true, v, w => v = w
  | false, v, w => ∀ h, v.truthy h = w.truthy h

theorem Value.Like.refl (used : Bool) (v : Value) : v.Like used v := by
  cases used with
  | true => rfl
  | false => exact fun _ => rfl

theorem Value.Like.of_eq (used : Bool) (v w : Value) (h : v = w) : v.Like used w := h ▸ .refl used v

/-- an answer that is a list with items counts as true -/
theorem truthy_answer_list (h : Hierarchy) (items : List Answer) (hne : items ≠ []) :
    (Answer.list items).toValue.truthy h = true := by
  cases items with
  | nil => exact absurd rfl hne
  | cons a as => rfl

theorem inStep_newFunction (f name : String) (layout : Option Literal) :
    InStep (Session.Alike l l') ((Request.newFunction f name layout).SameAnswer l l')
      (newFunction f name (some (.str l.word))) (newFunction f name (some (.str l'.word))) := by
  unfold newFunction
  refine (inStep_readLayout l l').bind ?_
  rintro _ _ ⟨rfl, rfl⟩
  refine (inStep_addFunction f ⟨name, none, none, l, some ⟨[], .held []⟩⟩).bind_eq fun i =>
    inStep_get_bind fun s store h => ?_
  rw [Session.view_eq h]
  exact InStep.pure ⟨[.text _], rfl, rfl⟩

theorem inStep_newGeneric (f name : String) (params : List (Parameter Literal)) {b : Script}
    (doc : Option String) (layout : Option Literal) (hb : b.Plain true) :
    InStep (Session.Alike l l') ((Request.newGeneric f name params b doc layout).SameAnswer l l')
      (newGeneric f name params (b.laidOut l) doc (some (.str l.word)))
      (newGeneric f name params (b.laidOut l') doc (some (.str l'.word))) := by
  unfold newGeneric
  refine (oblivious_evaluateParameters params).bind_eq fun params => ?_
  refine (inStep_readLayout l l').bind ?_
  rintro _ _ ⟨rfl, rfl⟩
  refine (inStep_addFunction f
    ⟨name, doc, some definingModule, l, some ⟨[], .held []⟩⟩).bind_eq fun i => ?_
  refine (inStep_addMethod i none ⟨params, b, none⟩ hb).bind_eq fun m =>
    inStep_get_bind fun s store h => ?_
  rw [Session.view_eq h]
  exact InStep.pure ⟨[_, _, _, _, _, _], rfl, rfl⟩

theorem inStep_register (f : String) (signature : Option (List Literal))
    (params : List (Parameter Literal)) {b : Script} (hb : b.Plain true) :
    InStep (Session.Alike l l') Eq (register f signature params (b.laidOut l))
      (register f signature params (b.laidOut l')) := by
  unfold register
  exact (oblivious_functionNamed f).bind_eq fun i =>
    (oblivious_evaluateParameters params).bind_eq fun params =>
    (oblivious_signatureValues signature).bind_eq fun types =>
    (inStep_addMethod i types ⟨params, b, none⟩ hb).bind_eq fun _ =>
    (oblivious_methodTexts i).bind_eq fun _ => InStep.pure rfl

/-! ## Requests and scripts, given how functions are called -/

section
variable {call : Caller} (hcall : ∀ f args named, Oblivious l l' (call f args named))
include hcall

theorem oblivious_callFunction (f : String) (args : List Literal)
    (named : List (String × Literal)) : Oblivious l l' (callFunction call f args named) := by
  unfold callFunction
  refine (oblivious_functionNamed f).bind_eq fun i => (Literal.oblivious_values args).bind_eq
    fun vs => (Literal.oblivious_namedValues named).bind_eq fun ns => (hcall i vs ns).bind_eq
    fun v => inStep_get_bind fun s store h => ?_
  rw [Session.report_eq h]
  exact InStep.liftExcept (.of_eq rfl)

/-- requests of programs come to the same answers, up to the layout that an answer names -/
theorem inStep_answerWith {r : Request} {used : Bool} (hr : r.Plain used) :
    InStep (Session.Alike l l') (r.SameAnswer l l') (answerWith call (r.laidOut l))
      (answerWith call (r.laidOut l')) := by
  cases r with
  | newFunction f name layout => exact inStep_newFunction f name layout
  | newGeneric f name params body doc layout =>
    exact inStep_newGeneric f name params doc layout hr.2
  | register f signature params body => exact inStep_register f signature params hr
  | call f args named => exact oblivious_callFunction hcall f args named
  | _ => exact False.elim hr

/-- a script that may use the answer to a request gets the same; one that tests it only comes to the
same decision -/
theorem inStep_stepWith (r : Request) (used : Bool) (hr : r.Plain used) :
    InStep (Session.Alike l l') (Value.Like used) (stepWith call (r.laidOut l))
      (stepWith call (r.laidOut l')) := by
  unfold stepWith
  refine (inStep_answerWith hcall hr).bind fun a a' ha => InStep.pure ?_
  unfold Request.SameAnswer at ha
  split at ha
  · next hcreates =>
    obtain ⟨items, rfl, rfl⟩ := ha
    -- such an answer differs, but it may only be tested, and a list with items counts as true
    have hunused : used = false := by
      cases r with
      | newFunction f name layout => exact hr
      | newGeneric f name params body doc layout => exact hr.1
      | _ => exact nomatch hcreates
    subst hunused
    exact fun h => (truthy_answer_list h _ (by simp)).trans (truthy_answer_list h _ (by simp)).symm
  · exact .of_eq used _ _ (congrArg Answer.toValue ha)

variable {step : Request → Run Value}
  (hstep : ∀ (r : Request) (used : Bool), r.Plain used → InStep (Session.Alike l l')
    (Value.Like used) (step (r.laidOut l)) (step (r.laidOut l')))
include hstep

mutual

/-- scripts of programs come to the same values, or to the same decisions where these are tested -/
theorem inStep_run (env : Environment) : (b : Script) → (used : Bool) → b.Plain used →
    InStep (Session.Alike l l') (Value.Like used) ((b.laidOut l).run call step env)
      ((b.laidOut l').run call step env)
  | .list items, used, h => by
    unfold Script.laidOut Script.run
    exact (inStep_runAll env items h).bind_eq fun _ => InStep.pure (.refl used _)
  | .literal v, used, _ => by
    unfold Script.laidOut Script.run
    exact v.oblivious_value.mono (Value.Like.of_eq used)
  | .parameter name, used, _ => by
    unfold Script.laidOut Script.run
    exact InStep.liftExcept ((Agree.of_eq rfl).mono (Value.Like.of_eq used))
  | .call f args named, used, h => by
    unfold Script.laidOut Script.run
    refine InStep.mono (Value.Like.of_eq used) ?_
    exact (inStep_runAll env args h.1).bind_eq fun vs => (inStep_runNamed env named h.2).bind_eq
      fun ns => inStep_get_bind fun _ _ _ => (InStep.liftExcept (.of_eq rfl)).bind_eq
      fun i => hcall i vs ns
  | .spread f a, used, h => by
    unfold Script.laidOut Script.run
    refine InStep.mono (Value.Like.of_eq used) ?_
    exact (inStep_run env a true h).bind_eq fun v => inStep_get_bind fun _ _ _ =>
      (InStep.liftExcept (.of_eq rfl)).bind_eq fun i => inStep_get_bind fun _ _ _ =>
      (InStep.liftExcept (.of_eq rfl)).bind_eq fun vs => hcall i vs []
  | .add a b, used, h | .sub a b, used, h | .mul a b, used, h => by
    unfold Script.laidOut Script.run operate
    refine InStep.mono (Value.Like.of_eq used) ?_
    exact (inStep_run env a true h.1).bind_eq fun _ => (inStep_run env b true h.2).bind_eq
      fun _ => inStep_get_bind fun _ _ _ => InStep.liftExcept (.of_eq rfl)
  | .exceeds a b, used, h => by
    unfold Script.laidOut Script.run operate
    refine InStep.mono (Value.Like.of_eq used) ?_
    exact (inStep_run env a true h.1).bind_eq fun _ => (inStep_run env b true h.2).bind_eq
      fun _ => InStep.bind_eq (inStep_get_bind fun _ _ _ => InStep.liftExcept (.of_eq rfl))
      fun _ => InStep.pure rfl
  | .cond c a b, used, h => by
    unfold Script.laidOut Script.run
    -- the condition may differ in the two runs, but it decides the same
    refine (inStep_run env c false h.1).bind fun v w hvw => inStep_get_bind fun s store _ => ?_
    rw [hvw s.hierarchy]
    split
    · exact inStep_run env a used h.2.1
    · exact inStep_run env b used h.2.2
  | .attempt a b, used, h => by
    unfold Script.laidOut Script.run orElseRun
    exact (inStep_run env a used h.1).orElse (inStep_run env b used h.2)
  | .raise text, used, _ => by
    unfold Script.laidOut Script.run
    exact InStep.throw _
  | .className a, used, h => by
    unfold Script.laidOut Script.run
    exact (inStep_run env a true h).bind_eq fun _ => inStep_get_bind fun _ _ _ =>
      InStep.pure (.refl used _)
  | .step r, used, h => by
    unfold Script.laidOut Script.run
    exact hstep r used h
  | .unknown form, used, _ => by
    unfold Script.laidOut Script.run
    exact InStep.throw _
termination_by structural b => b

theorem inStep_runAll (env : Environment) : (bs : List Script) → Script.AllPlain bs →
    InStep (Session.Alike l l') Eq (Script.runAll call step env (Script.laidOutAll l bs))
      (Script.runAll call step env (Script.laidOutAll l' bs))
  | [], _ => InStep.pure rfl
  | b :: bs, h => by
    unfold Script.laidOutAll Script.runAll
    exact (inStep_run env b true h.1).bind_eq fun _ => (inStep_runAll env bs h.2).bind_eq fun _ =>
      InStep.pure rfl
termination_by structural bs => bs

theorem inStep_runNamed (env : Environment) : (bs : List (String × Script)) →
    Script.NamedPlain bs →
    InStep (Session.Alike l l') Eq (Script.runNamed call step env (Script.laidOutNamed l bs))
      (Script.runNamed call step env (Script.laidOutNamed l' bs))
  | [], _ => InStep.pure rfl
  | (name, b) :: bs, h => by
    unfold Script.laidOutNamed Script.runNamed
    exact (inStep_run env b true h.1).bind_eq fun _ => (inStep_runNamed env bs h.2).bind_eq
      fun _ => InStep.pure rfl
termination_by structural bs => bs

end

theorem inStep_callMethod (args : List Value) (named : List (String × Value)) {m n : Method}
    (h : m.Alike l l' n) : InStep (Session.Alike l l') Eq (callMethod call step args named m)
      (callMethod call step args named n) := by
  obtain ⟨b, hb, hm, hn⟩ := h.body
  unfold callMethod
  rw [h.implementation, hm, hn]
  exact (InStep.liftExcept (.of_eq rfl)).bind_eq fun env => inStep_run hcall hstep env b true hb

end

/-! ## Calls -/

theorem inStep_findMethod (f : Nat) (args : List Value) :
    Oblivious l l' (findMethod f args) := by
  rintro s _ ⟨store, rfl, h⟩
  have hview : ∀ u u', Store.Alike l l' u u' →
      ({ s with store } : Session).viewWith u' = s.viewWith u := fun u u' hu =>
    Session.view_eq (s := { s with store := u }) hu
  rw [findMethod_apply, findMethod_apply]
  obtain ⟨hagree, hstore⟩ :=
    Store.inStep_enter hview f (argumentClasses s.hierarchy args) s.store store h
  exact ⟨hagree, _, rfl, hstore⟩

/-- while the body of a method runs, both sessions have the same variant being executed -/
theorem inStep_during (d : Dispatch) {body body' : Run Value}
    (h : InStep (Session.Alike l l') Eq body body') :
    InStep (Session.Alike l l') Eq (Store.during d body) (Store.during d body') := by
  rintro s _ ⟨store, rfl, hstore⟩
  obtain ⟨hagree, after, hafter, halike⟩ :=
    h (Store.changing (Store.beginCall d) s) (Store.changing (Store.beginCall d) { s with store })
      ⟨store.beginCall d, rfl, hstore.beginCall d⟩
  refine ⟨hagree, after.endCall store.active, ?_, ?_⟩
  · show Store.changing (Store.endCall store.active) _ = _
    rw [hafter]
    rfl
  · rw [hstore.active]
    exact halike.endCall s.store.active

theorem inStep_enterCall (f : Nat) (args : List Value) {body : Method → Run Value}
    (hbody : ∀ m n : Method, m.Alike l l' n → InStep (Session.Alike l l') Eq (body m) (body n)) :
    Oblivious l l' (enterCall f args body) := by
  unfold enterCall
  exact (inStep_findMethod f args).bind_eq fun d => inStep_get_bind fun s store h =>
    inStep_during d (hbody _ _ (h.method d.method))

/-- every call comes to the same result, to any depth -/
theorem inStep_callWithin (n f : Nat) (args : List Value) (named : List (String × Value)) :
    Oblivious l l' (callWithin n f args named) := by
  induction n generalizing f args named with
  | zero => exact InStep.throw _
  | succ n ih =>
    exact inStep_enterCall f args fun m k hmk =>
      inStep_callMethod ih (fun r used hr => inStep_stepWith ih r used hr) args named hmk

/-! ## Programs -/

namespace Session

/-- the answers to a program, with at most so many calls inside of each other -/
def answersWithin (n : Nat) : List Request → Session → List (Except Fault Answer)
  | [], _ => []
  | r :: rs, s =>
    let (a, s) := answerWith (callWithin n) r s
    a :: answersWithin n rs s

/-- the session after a program -/
def afterWithin (n : Nat) (rs : List Request) (s : Session) : Session :=
  rs.foldl (fun s r => (answerWith (callWithin n) r s).2) s

/-- a program that is run in two layouts comes to the same answers one by one, and to sessions that
differ in their layouts only -/
theorem alike_afterWithin (n : Nat) {rs : List Request} (hrs : ∀ r ∈ rs, r.Plain false)
    {s t : Session} (h : Alike l l' s t) :
    (∀ (i : Nat) (r : Request), rs[i]? = some r → ∃ x y,
        (answersWithin n (rs.map (Request.laidOut l)) s)[i]? = some x
          ∧ (answersWithin n (rs.map (Request.laidOut l')) t)[i]? = some y
          ∧ Agree (r.SameAnswer l l') x y)
      ∧ Alike l l' (s.afterWithin n (rs.map (Request.laidOut l)))
          (t.afterWithin n (rs.map (Request.laidOut l'))) := by
  induction rs generalizing s t with
  | nil => exact ⟨fun i r hr => (nomatch hr), h⟩
  | cons r rs ih =>
    obtain ⟨hr, hrs⟩ := List.forall_mem_cons.mp hrs
    obtain ⟨hagree, hnext⟩ := inStep_answerWith (inStep_callWithin n) hr s t h
    obtain ⟨hanswers, hafter⟩ := ih hrs hnext
    refine ⟨fun i q hq => ?_, hafter⟩
    cases i with
    | zero =>
      obtain rfl : r = q := Option.some.inj hq
      exact ⟨_, _, rfl, rfl, hagree⟩
    | succ i => exact hanswers i q hq

/-- a program comes to the same answers and the same faults when all functions are laid out in slots
as when all are laid out in chains, whatever it runs on and however deep calls may go.  In the end
the variants correspond by their places: they have the same methods, types and dependents, in the
same order; the tables have the same methods and edges; and the reader of slots and the reader of
chains meet the same variants of each method. -/
theorem layouts_equivalent {classes : List ClassDeclaration} {modules : List ModuleDeclaration}
    {broken : List (String × Option String)} {interpreter : Interpreter} {start : Session}
    (hstart : Session.start classes modules broken interpreter = .ok start) {rs : List Request}
    (hrs : ∀ r ∈ rs, r.Plain false) (n : Nat) :
    let inSlots := rs.map (Request.laidOut .slots)
    let linked := rs.map (Request.laidOut .linked)
    let s := start.afterWithin n inSlots
    let t := start.afterWithin n linked
    (∀ (i : Nat) (r : Request), rs[i]? = some r → ∃ x y,
        (answersWithin n inSlots start)[i]? = some x ∧ (answersWithin n linked start)[i]? = some y
          ∧ Agree (r.SameAnswer .slots .linked) x y)
      ∧ Alike .slots .linked s t
      ∧ t.store.variants = s.store.variants
      ∧ (∀ f, (t.store.function f).table = (s.store.function f).table)
      ∧ ∀ m < s.store.methods.size, ∃ vs ws,
          slotsSource s.hierarchy (s.store.method m) = ⟨vs, none⟩
            ∧ linkedSource t.hierarchy (t.store.method m) = ⟨ws, none⟩ ∧ ws.Perm vs := by
  have hinitial : Alike .slots .linked start start :=
    ⟨start.store, rfl, by rw [store_start hstart]; exact Store.alike_empty _ _⟩
  obtain ⟨hanswers, halike⟩ := alike_afterWithin n hrs hinitial
  refine ⟨hanswers, halike, ?_⟩
  obtain ⟨store, ht, hstore⟩ := halike
  rw [ht]
  exact ⟨hstore.variants, fun f => (hstore.function f).table, fun m hm =>
    (hstore.kept m hm).source_perm _⟩

/-! ## A program in both layouts -/

/-- a function that fails, and one that makes a third one, calls the first twice and catches its
first fault only -/
def makingWhileCalled : List Request := [
  .newGeneric "callee" "callee" [] (.raise "no") none none,
  .newGeneric "caller" "caller" []
    (.cond (.step (.newFunction "third" "third" none))
      (.list [.attempt (.call "callee" [] []) (.literal .none), .call "callee" [] []])
      (.literal .none)) none none,
  .call "caller" [] []]

theorem plain_makingWhileCalled : ∀ r ∈ makingWhileCalled, r.Plain false := by
  simp [makingWhileCalled, Request.Plain, Script.Plain, Script.AllPlain, Script.NamedPlain]

/-- the session after that program, in one layout -/
def madeWhileCalled (l : Layout) : Session :=
  ({} : Session).afterWithin callDepth (makingWhileCalled.map (Request.laidOut l))

/-- both readers meet the variant of the callee -/
theorem layouts_makingWhileCalled : ∃ vs ws,
    slotsSource (madeWhileCalled .slots).hierarchy ((madeWhileCalled .slots).store.method 0)
        = ⟨vs, none⟩
      ∧ linkedSource (madeWhileCalled .linked).hierarchy ((madeWhileCalled .linked).store.method 0)
        = ⟨ws, none⟩
      ∧ ws.Perm vs ∧ vs = [1] := by
  obtain ⟨-, -, -, -, hsource⟩ := layouts_equivalent start_blank plain_makingWhileCalled callDepth
  obtain ⟨vs, ws, hvs, hws, hperm⟩ := hsource 0 (by decide +kernel)
  have hone : (slotsSource (madeWhileCalled .slots).hierarchy
      ((madeWhileCalled .slots).store.method 0)).variants = [1] := by decide +kernel
  exact ⟨vs, ws, hvs, hws, hperm, (congrArg Yielded.variants hvs).symm.trans hone⟩

end Session

end Introspect
