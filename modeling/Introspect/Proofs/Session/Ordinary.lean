import Introspect.Proofs.Dispatch.Steps
import Introspect.Proofs.Session.Literals
import Introspect.Session.Answer

/-!
# Sessions move by steps of their stores

A script may damage functions or edit their edges.  Ordinary scripts and requests do neither: they
make functions, register methods, call functions, and do whatever else leaves the store alone.

* `Script.Ordinary`, `Request.Ordinary`   hold of these, inside of bodies too;
* `Session.MovedTo`      the store moved by steps, whatever calls are under execution around them, and
                         in the end the same calls are under execution as before;
* `Session.Leads`        this is so when the bodies of all methods are ordinary;
* `leads_callWithin`     every call does so, to any depth, whether it fails or not;
* `leads_answerWith`, `leads_run`   so does every ordinary request, and every ordinary script.
-/

set_option linter.unusedSectionVars false

namespace Introspect

open Session (SameStore)
open Running (Steps)
open Signature (ofClasses)

/-- a request that leaves the store and the hierarchy alone, however calls are made -/
def Request.Quiet (r : Request) : Prop := ∀ call, Keeps SameStore (answerWith call r)

mutual

/-- the steps of a script are ordinary requests -/
def Script.Ordinary : Script → Prop
  | .list items => Script.AllOrdinary items
  | .literal _ | .parameter _ | .raise _ | .unknown _ => True
  | .call _ args named => Script.AllOrdinary args ∧ Script.NamedOrdinary named
  | .spread _ a | .className a => a.Ordinary
  | .add a b | .sub a b | .mul a b | .exceeds a b | .attempt a b => a.Ordinary ∧ b.Ordinary
  | .cond c a b => c.Ordinary ∧ a.Ordinary ∧ b.Ordinary
  | .step r => r.Ordinary
termination_by structural s => s

/-- several scripts are ordinary -/
def Script.AllOrdinary : List Script → Prop
  | [] => True
  | s :: ss => s.Ordinary ∧ Script.AllOrdinary ss
termination_by structural ss => ss

/-- several named scripts are ordinary -/
def Script.NamedOrdinary : List (String × Script) → Prop
  | [] => True
  | (_, s) :: ss => s.Ordinary ∧ Script.NamedOrdinary ss
termination_by structural ss => ss

/-- a request makes functions, registers methods or calls functions, the bodies being ordinary, or it
is quiet -/
def Request.Ordinary : Request → Prop
  | .newFunction _ _ _ | .call _ _ _ => True
  | .newGeneric _ _ _ body _ _ | .register _ _ _ body => body.Ordinary
  | r => r.Quiet
termination_by structural r => r

end

/-- the bodies of all methods are ordinary -/
def Store.OrdinaryBodies (s : Store) : Prop := ∀ m, (s.method m).implementation.body.Ordinary

theorem Store.ordinaryBodies_empty : Store.empty.OrdinaryBodies := fun _ => trivial

theorem Store.OrdinaryBodies.of_same {s t : Store} (hs : s.OrdinaryBodies)
    (h : Store.SameRun s t) : t.OrdinaryBodies := by
  intro m
  rw [h.method m]
  exact hs m

namespace Session

/-- a session to which its store moved by steps: the hierarchy, the variant that is being executed and
the calls under execution are the same, and the bodies of all methods are still ordinary -/
structure MovedTo (s t : Session) : Prop where
  hierarchy : t.hierarchy = s.hierarchy
  bodies : t.store.OrdinaryBodies
  active : t.store.active = s.store.active
  executing : executing t.store.journal = executing s.store.journal
  steps : ∀ saved, Steps s.hierarchy ⟨s.store, saved⟩ ⟨t.store, saved⟩

theorem MovedTo.refl {s : Session} (hs : s.store.OrdinaryBodies) : MovedTo s s :=
  ⟨rfl, hs, rfl, rfl, fun _ => .refl⟩

theorem MovedTo.trans {s t u : Session} (h : MovedTo s t) (h' : MovedTo t u) : MovedTo s u :=
  ⟨h'.hierarchy.trans h.hierarchy, h'.bodies, h'.active.trans h.active,
    h'.executing.trans h.executing,
    fun saved => (h.steps saved).trans (h.hierarchy ▸ h'.steps saved)⟩

/-- when all bodies are ordinary, the store moves by steps -/
def Leads (s t : Session) : Prop := s.store.OrdinaryBodies → MovedTo s t

instance : IsPreorder Session Leads where
  refl _ hs := .refl hs
  trans _ _ _ h h' hs := (h hs).trans (h' (h hs).bodies)

theorem SameStore.leads {s t : Session} (h : SameStore s t) : Leads s t := by
  obtain ⟨hstore, hhier⟩ := h
  intro hs
  refine ⟨hhier, by rw [hstore]; exact hs, by rw [hstore], by rw [hstore], fun saved => ?_⟩
  rw [hstore]

end Session

open Session (Leads MovedTo)

theorem Keeps.leads {α : Type} {x : Run α} (hx : Keeps SameStore x) : Keeps Leads x :=
  hx.mono fun _ _ h => h.leads

/-! ## Functions and methods -/

theorem leads_addFunction (f : String) {fn : Function} (hfn : fn.table = some ⟨[], .held []⟩) :
    Keeps Leads (addFunction f fn) :=
  fun _ hs => ⟨rfl, hs, rfl, rfl, fun _ => .single (.function hfn)⟩

theorem leads_addMethod (f : Nat) (signature : Option Signature) {implementation : Implementation}
    (hbody : implementation.body.Ordinary) : Keeps Leads (addMethod f signature implementation) := by
  intro s
  unfold addMethod
  rw [Acting.bind_of_ok (Acting.get_apply s), Acting.bind_apply, Acting.liftExcept_apply]
  cases hreg : s.store.register (newMethod s f signature implementation) with
  | error e => exact refl_of Leads s
  | ok r =>
    obtain ⟨-, -, hactive, hjournal, -, -, hmethod⟩ := Store.register_frame hreg
    refine fun hs => ⟨rfl, fun k => ?_, hactive, congrArg executing hjournal,
      fun saved => .single (.method rfl rfl hreg)⟩
    show (r.1.method k).implementation.body.Ordinary
    rw [hmethod]
    split
    · exact hbody
    · exact hs k

theorem leads_newFunction (f name : String) (layout : Option Literal) :
    Keeps Leads (newFunction f name layout) := by
  unfold newFunction
  exact (keeps_readLayout layout).leads.bind fun _ =>
    (leads_addFunction f rfl).bind fun _ => Keeps.get.bind fun _ => Keeps.pure _

theorem leads_newGeneric (f name : String) (params : List (Parameter Literal)) {body : Script}
    (doc : Option String) (layout : Option Literal) (hbody : body.Ordinary) :
    Keeps Leads (newGeneric f name params body doc layout) := by
  unfold newGeneric
  exact (keeps_evaluateParameters params).leads.bind fun _ =>
    (keeps_readLayout layout).leads.bind fun _ => (leads_addFunction f rfl).bind fun _ =>
    (leads_addMethod _ none hbody).bind fun _ => Keeps.get.bind fun _ => Keeps.pure _

theorem leads_register (f : String) (signature : Option (List Literal))
    (params : List (Parameter Literal)) {body : Script} (hbody : body.Ordinary) :
    Keeps Leads (register f signature params body) := by
  unfold register
  exact (keeps_functionNamed f).leads.bind fun f => (keeps_evaluateParameters params).leads.bind
    fun _ => (keeps_signatureValues signature).leads.bind fun _ => (leads_addMethod f _ hbody).bind
    fun _ => (keeps_methodTexts f none).leads.bind fun _ => Keeps.pure _

/-! ## Requests and scripts, given how functions are called -/

section
variable {call : Caller} (hcall : ∀ f args named, Keeps Leads (call f args named))
include hcall

theorem leads_callFunction (f : String) (args : List Literal) (named : List (String × Literal)) :
    Keeps Leads (callFunction call f args named) := by
  unfold callFunction
  exact (keeps_functionNamed f).leads.bind fun f => (Literal.keeps_values args).leads.bind fun vs =>
    (Literal.keeps_namedValues named).leads.bind fun ns => (hcall f vs ns).bind fun _ =>
    Keeps.get.bind fun _ => Keeps.liftExcept _

/-- an ordinary request leads to a session that its store moved to by steps -/
theorem leads_answerWith {r : Request} (hr : r.Ordinary) : Keeps Leads (answerWith call r) := by
  cases r with
  | newFunction f name layout => exact leads_newFunction f name layout
  | newGeneric f name params body doc layout =>
    exact leads_newGeneric f name params doc layout hr
  | register f signature params body => exact leads_register f signature params hr
  | call f args named => exact leads_callFunction hcall f args named
  | _ => exact Keeps.leads (hr call)

theorem leads_stepWith {r : Request} (hr : r.Ordinary) : Keeps Leads (stepWith call r) :=
  (leads_answerWith hcall hr).bind fun _ => Keeps.pure _

variable {step : Request → Run Value} (hstep : ∀ r : Request, r.Ordinary → Keeps Leads (step r))
include hstep

mutual

/-- an ordinary script leads to a session that its store moved to by steps -/
theorem leads_run (env : Environment) :
    (s : Script) → s.Ordinary → Keeps Leads (s.run call step env)
  | .list items, h => by
    unfold Script.run
    exact (leads_runAll env items h).bind fun _ => Keeps.pure _
  | .literal l, _ => by
    unfold Script.run
    exact l.keeps_value.leads
  | .parameter name, _ => by
    unfold Script.run
    exact Keeps.liftExcept _
  | .call f args named, h => by
    unfold Script.run
    exact (leads_runAll env args h.1).bind fun vs => (leads_runNamed env named h.2).bind fun ns =>
      Keeps.get.bind fun _ => (Keeps.liftExcept _).bind fun i => hcall i vs ns
  | .spread f a, h => by
    unfold Script.run
    exact (leads_run env a h).bind fun _ => Keeps.get.bind fun _ => (Keeps.liftExcept _).bind
      fun i => Keeps.get.bind fun _ => (Keeps.liftExcept _).bind fun vs => hcall i vs []
  | .add a b, h | .sub a b, h | .mul a b, h => by
    unfold Script.run operate
    exact (leads_run env a h.1).bind fun _ => (leads_run env b h.2).bind fun _ =>
      Keeps.get.bind fun _ => Keeps.liftExcept _
  | .exceeds a b, h => by
    unfold Script.run operate
    exact (leads_run env a h.1).bind fun _ => (leads_run env b h.2).bind fun _ =>
      Keeps.bind (Keeps.get.bind fun _ => Keeps.liftExcept _) fun _ => Keeps.pure _
  | .cond c a b, h => by
    unfold Script.run
    refine (leads_run env c h.1).bind fun v => Keeps.get.bind fun s => ?_
    split
    · exact leads_run env a h.2.1
    · exact leads_run env b h.2.2
  | .attempt a b, h => by
    unfold Script.run orElseRun
    exact (leads_run env a h.1).orElse (leads_run env b h.2)
  | .raise text, _ => by
    unfold Script.run
    exact Keeps.throw _
  | .className a, h => by
    unfold Script.run
    exact (leads_run env a h).bind fun _ => Keeps.get.bind fun _ => Keeps.pure _
  | .step r, h => by
    unfold Script.run
    exact hstep r h
  | .unknown form, _ => by
    unfold Script.run
    exact Keeps.throw _
termination_by structural s => s

theorem leads_runAll (env : Environment) :
    (ss : List Script) → Script.AllOrdinary ss → Keeps Leads (Script.runAll call step env ss)
  | [], _ => Keeps.pure []
  | s :: ss, h => by
    unfold Script.runAll
    exact (leads_run env s h.1).bind fun _ => (leads_runAll env ss h.2).bind fun _ => Keeps.pure _
termination_by structural ss => ss

theorem leads_runNamed (env : Environment) :
    (ss : List (String × Script)) → Script.NamedOrdinary ss →
      Keeps Leads (Script.runNamed call step env ss)
  | [], _ => Keeps.pure []
  | (name, s) :: ss, h => by
    unfold Script.runNamed
    exact (leads_run env s h.1).bind fun _ => (leads_runNamed env ss h.2).bind fun _ =>
      Keeps.pure _
termination_by structural ss => ss

end

theorem leads_callMethod (args : List Value) (named : List (String × Value)) {m : Method}
    (hm : m.implementation.body.Ordinary) : Keeps Leads (callMethod call step args named m) := by
  unfold callMethod
  exact (Keeps.liftExcept _).bind fun env => leads_run hcall hstep env _ hm

end

/-! ## Calls -/

@[simp] theorem Session.hierarchy_viewWith (s : Session) (t : Store) :
    (s.viewWith t).hierarchy = s.hierarchy := rfl

@[simp] theorem Session.hierarchy_view (s : Session) : s.view.hierarchy = s.hierarchy := rfl

/-- finding a method is an action on the store -/
theorem findMethod_apply (f : Nat) (args : List Value) (s : Session) :
    findMethod f args s
      = ((Store.enter s.viewWith f (argumentClasses s.hierarchy args) s.store).1,
        { s with
          store := (Store.enter s.viewWith f (argumentClasses s.hierarchy args) s.store).2 }) := rfl

theorem leads_findMethod_error {f : Nat} {args : List Value} {s t : Session} {e : Fault}
    (h : findMethod f args s = (.error e, t)) : Leads s t := by
  have hsame := Store.keeps_enter s.viewWith f (argumentClasses s.hierarchy args) s.store
  rw [findMethod_apply] at h
  rcases henter : Store.enter s.viewWith f (argumentClasses s.hierarchy args) s.store with ⟨r, u⟩
  rw [henter] at h hsame
  obtain rfl : r = .error e := congrArg Prod.fst h
  obtain rfl := congrArg Prod.snd h
  exact fun hs => ⟨rfl, hs.of_same hsame, hsame.active, congrArg executing hsame.journal,
    fun saved => .single (.refused rfl henter)⟩

/-- while the body of a method runs, the innermost call is that of the method -/
theorem steps_findMethod_ok {f : Nat} {args : List Value} {s t : Session} {d : Dispatch}
    (h : findMethod f args s = (.ok d, t)) :
    t.hierarchy = s.hierarchy ∧ Store.SameRun s.store t.store
      ∧ ∀ saved, Steps s.hierarchy ⟨s.store, saved⟩
          ⟨t.store.beginCall d, t.store.active :: saved⟩ := by
  have hsame := Store.keeps_enter s.viewWith f (argumentClasses s.hierarchy args) s.store
  rw [findMethod_apply] at h
  rcases henter : Store.enter s.viewWith f (argumentClasses s.hierarchy args) s.store with ⟨r, u⟩
  rw [henter] at h hsame
  obtain rfl : r = .ok d := congrArg Prod.fst h
  obtain rfl := congrArg Prod.snd h
  exact ⟨rfl, hsame, fun saved => .single (.began rfl henter)⟩

theorem leads_enterCall (f : Nat) (args : List Value) {body : Method → Run Value}
    (hbody : ∀ m : Method, m.implementation.body.Ordinary → Keeps Leads (body m)) :
    Keeps Leads (enterCall f args body) := by
  intro s
  unfold enterCall
  rw [Acting.bind_apply]
  rcases hfind : findMethod f args s with ⟨e | d, t⟩
  · exact leads_findMethod_error hfind
  · intro hs
    obtain ⟨hhier, hsame, hbegan⟩ := steps_findMethod_ok hfind
    have ht := hs.of_same hsame
    let began : Session := { t with store := t.store.beginCall d }
    let u := (body (t.store.method d.method) began).2
    -- what the body does, with the call around it still under execution
    have hu : MovedTo began u := hbody _ (ht d.method) began ht
    show MovedTo s { u with store := u.store.endCall t.store.active }
    refine ⟨hu.hierarchy.trans hhier, hu.bodies, hsame.active, ?_, fun saved => ?_⟩
    · show (executing u.store.journal).tail = executing s.store.journal
      rw [hu.executing]
      exact congrArg executing hsame.journal
    · have hrun := hu.steps (t.store.active :: saved)
      rw [show began.hierarchy = s.hierarchy from hhier] at hrun
      exact ((hbegan saved).trans hrun).tail .ended

/-- every call leads to a session that its store moved to by steps, to any depth -/
theorem leads_callWithin (n : Nat) (f : Nat) (args : List Value) (named : List (String × Value)) :
    Keeps Leads (callWithin n f args named) := by
  induction n generalizing f args named with
  | zero => exact Keeps.throw _
  | succ n ih =>
    exact leads_enterCall f args fun m hm =>
      leads_callMethod ih (fun r hr => leads_stepWith ih hr) args named hm

end Introspect
