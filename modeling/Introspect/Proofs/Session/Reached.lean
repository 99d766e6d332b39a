import Introspect.Proofs.Hierarchy.Rooted
import Introspect.Proofs.Session.Ordinary
import Introspect.Session.Declare

/-!
# The sessions that are reached

A session is reached when it comes about between, or in the middle of, requests, scripts and calls
that follow each other in any order and are nested to any depth.

* `Session.declares_start`      declarations make classes and modules, but no functions;
* `Session.Next`                what may come next: a request, a script or a call as a whole, or the
                                beginning or the end of a call, between which its body runs;
* `Session.Reached`             the sessions that are reached from declarations;
* `Session.Reached.faithful`    the store of a session that is reached records the calls that led
                                there;
* `Session.Reached.made`        its classes were made one by one, and all from the root;
* `Session.Reached.run`         no run takes back a call;
* `Session.after`               the session after several requests.
-/

namespace Introspect

open Running (Steps Faithful)
open Session (SameStore)

/-! ## Declarations -/

/-- the store is the same, and classes are only made or adopted -/
def Session.Declares (s t : Session) : Prop :=
  t.store = s.store ∧ (s.hierarchy.Made → t.hierarchy.Made)
    ∧ (s.hierarchy.Rooted → t.hierarchy.Rooted)

open Session (Declares)

instance : IsPreorder Session Declares where
  refl _ := ⟨rfl, id, id⟩
  trans _ _ _ h h' := ⟨h'.1.trans h.1, fun hm => h'.2.1 (h.2.1 hm), fun hr => h'.2.2 (h.2.2 hr)⟩

theorem Session.SameStore.declares {s t : Session} (h : SameStore s t) : Declares s t :=
  ⟨h.1, fun hm => by rw [h.2]; exact hm, fun hr => by rw [h.2]; exact hr⟩

theorem Keeps.declares {α : Type} {x : Run α} (hx : Keeps SameStore x) : Keeps Declares x :=
  hx.mono fun _ _ h => h.declares

/-- what every adoption keeps is kept when several classes are adopted -/
theorem adoptAll_induction {P : Hierarchy → Prop} {c : ClassId}
    (hP : ∀ {h h' : Hierarchy} {d : ClassId}, P h → h.adopt c d = .ok h' → P h')
    {h h' : Hierarchy} (hh : P h) {ds : List ClassId} (hd : adoptAll h c ds = .ok h') : P h' := by
  unfold adoptAll at hd
  induction ds generalizing h with
  | nil =>
    obtain rfl : h = h' := Except.ok.inj hd
    exact hh
  | cons d ds ih =>
    rw [List.foldlM_cons] at hd
    cases hone : h.adopt c d with
    | error e => rw [hone] at hd; exact nomatch hd
    | ok h₁ =>
      rw [hone] at hd
      exact ih (hP hh hone) hd

/-- a class that is there adopts others -/
theorem declares_adopting (s : Session) (c : ClassId) (adopts : List Literal) :
    Declares s ((do
      let adopted ← Literal.values adopts
      let h ← adoptAll s.hierarchy c (← classesOnly s.hierarchy adopted)
      modify fun s => { s with hierarchy := h } : Run Unit) s).2 := by
  have hvalues := Literal.keeps_values adopts s
  rw [Acting.bind_apply]
  rcases hrun : Literal.values adopts s with ⟨e | adopted, t⟩ <;> rw [hrun] at hvalues
  · exact hvalues.declares
  · dsimp only
    rw [Acting.bind_apply, Acting.liftExcept_apply]
    cases classesOnly s.hierarchy adopted with
    | error e => exact hvalues.declares
    | ok ds =>
      dsimp only
      rw [Acting.bind_apply, Acting.liftExcept_apply]
      cases hadopt : adoptAll s.hierarchy c ds with
      | error e => exact hvalues.declares
      | ok h =>
        exact ⟨hvalues.1, fun hm => adoptAll_induction (fun hm hd => hm.adopt hd) hm hadopt,
          fun hr => adoptAll_induction (fun hr hd => hr.adopt hd) hr hadopt⟩

theorem declares_declareClass (d : ClassDeclaration) : Keeps Declares (declareClass d) := by
  unfold declareClass
  refine (Literal.keeps_values d.bases).declares.bind fun bases s => ?_
  rw [Acting.bind_of_ok (Acting.get_apply s), Acting.bind_apply, Acting.liftExcept_apply]
  cases classesOnly s.hierarchy bases with
  | error e => exact refl_of Declares s
  | ok baseClasses =>
    dsimp only
    rw [Acting.bind_apply, Acting.liftExcept_apply]
    split
    · next r t hr =>
      obtain ⟨hmade, rfl⟩ := Prod.mk.inj hr
      let declared : Session :=
        { s with hierarchy := r.1, declared := (d.name, r.2) :: s.declared }
      have hdeclared : Declares s declared := ⟨rfl, fun hm => hm.declare hmade,
        fun hr => hr.declare hmade (.inl (orRoot_ne_nil baseClasses))⟩
      rw [Acting.bind_of_ok (Acting.set_apply declared s)]
      exact trans_of Declares hdeclared (declares_adopting declared r.2 d.adopts)
    · next e t hr =>
      obtain rfl : s = t := congrArg Prod.snd hr
      exact refl_of Declares s

theorem sameStore_foldl {α : Type} {f : Session → α → Session} (hf : ∀ s a, SameStore s (f s a))
    (as : List α) (s : Session) : SameStore s (as.foldl f s) := by
  induction as generalizing s with
  | nil => exact refl_of SameStore s
  | cons a as ih => exact trans_of SameStore (hf s a) (ih (f s a))

theorem keeps_fillModule (d : ModuleDeclaration) : Keeps SameStore (fillModule d) := by
  have hannotations : Keeps SameStore (annotationsValue d.annotations) := by
    cases d.annotations with
    | entries es => exact (Literal.keeps_namedValues es).bind fun _ => Keeps.pure _
    | value l => exact l.keeps_value.bind fun _ => Keeps.pure _
    | absent => exact Keeps.pure _
  unfold fillModule
  exact Keeps.get.bind fun _ => (Keeps.liftExcept _).bind fun _ => hannotations.bind fun _ =>
    (Literal.keeps_namedValues d.bindings).bind fun _ =>
    (Literal.keeps_value? d.renamed).bind fun _ =>
    (Literal.keeps_entries d.oddBindings).bind fun _ _ => ⟨rfl, rfl⟩

theorem keeps_declareModules (ds : List ModuleDeclaration) :
    Keeps SameStore (declareModules ds) := by
  unfold declareModules addModules
  refine Keeps.bind (fun s => ?_) fun _ => Keeps.forM fun d _ => keeps_fillModule d
  rw [Acting.modify_apply]
  refine sameStore_foldl ?_ ds s
  exact fun _ _ => ⟨rfl, rfl⟩

namespace Session

/-- declarations make classes and modules only -/
theorem declares_start {classes : List ClassDeclaration} {modules : List ModuleDeclaration}
    {broken : List (String × Option String)} {interpreter : Interpreter} {s : Session}
    (h : Session.start classes modules broken interpreter = .ok s) :
    Declares { interpreter } s := by
  have hkept : Keeps Declares (do
      classes.forM declareClass
      declareModules modules
      modify fun s => { s with importable := { s.importable with broken } } : Run Unit) :=
    (Keeps.forM fun d _ => declares_declareClass d).bind fun _ =>
      (keeps_declareModules modules).declares.bind fun _ _ => ⟨rfl, id, id⟩
  have hstart := hkept { interpreter }
  unfold start at h
  dsimp only at h
  split at h
  · next hrun =>
    obtain rfl := Except.ok.inj h
    exact (congrArg (fun r => Declares { interpreter } r.2) hrun).mp hstart
  · exact nomatch h

/-- declarations make no functions -/
theorem store_start {classes : List ClassDeclaration} {modules : List ModuleDeclaration}
    {broken : List (String × Option String)} {interpreter : Interpreter} {s : Session}
    (h : Session.start classes modules broken interpreter = .ok s) : s.store = .empty :=
  (declares_start h).1

/-- what may come next in a run -/
inductive Next : Session → Session → Prop where
  /-- an ordinary request -/
  | answered {s : Session} {r : Request} (hr : r.Ordinary) (n : Nat) :
      Next s (answerWith (callWithin n) r s).2
  /-- an ordinary script -/
  | ran {s : Session} {b : Script} (hb : b.Ordinary) (n : Nat) (env : Environment) :
      Next s (b.run (callWithin n) (stepWith (callWithin n)) env s).2
  /-- a call as a whole -/
  | called {s : Session} (n f : Nat) (args : List Value) (named : List (String × Value)) :
      Next s (callWithin n f args named s).2
  /-- the beginning of a call, before the body of its method runs -/
  | began {s t : Session} {f : Nat} {args : List Value} {d : Dispatch}
      (hd : findMethod f args s = (.ok d, t)) : Next s { t with store := t.store.beginCall d }
  /-- the end of the innermost call, and the variant around it is being executed again -/
  | ended {s : Session} {v : Nat} {vs : List Nat} (hv : executing s.store.journal = v :: vs) :
      Next s { s with store := s.store.endCall vs.head? }

/-- any number of steps of a run -/
abbrev Runs : Session → Session → Prop := Relation.ReflTransGen Next

/-- the sessions that are reached: what declarations make, whatever programs run on, and every run
from there -/
inductive Reached : Session → Prop where
  | start {classes : List ClassDeclaration} {modules : List ModuleDeclaration}
      {broken : List (String × Option String)} {interpreter : Interpreter} {s : Session}
      (h : Session.start classes modules broken interpreter = .ok s) : Reached s
  | next {s t : Session} (hs : Reached s) (h : Next s t) : Reached t

/-- the store moves by steps -/
theorem Next.steps {s t : Session} (h : Next s t) (hs : s.store.OrdinaryBodies)
    {saved : List (Option Nat)} (hfaithful : Faithful s.hierarchy ⟨s.store, saved⟩) :
    t.hierarchy = s.hierarchy ∧ t.store.OrdinaryBodies
      ∧ ∃ saved', Steps s.hierarchy ⟨s.store, saved⟩ ⟨t.store, saved'⟩ := by
  have hmoved : ∀ {t : Session}, MovedTo s t → t.hierarchy = s.hierarchy ∧ t.store.OrdinaryBodies
      ∧ ∃ saved', Steps s.hierarchy ⟨s.store, saved⟩ ⟨t.store, saved'⟩ :=
    fun h => ⟨h.hierarchy, h.bodies, saved, h.steps saved⟩
  cases h with
  | answered hr n => exact hmoved (leads_answerWith (leads_callWithin n) hr s hs)
  | ran hb n env =>
    exact hmoved (leads_run (leads_callWithin n) (fun r hr => leads_stepWith (leads_callWithin n) hr)
      env _ hb s hs)
  | called n f args named => exact hmoved (leads_callWithin n f args named s hs)
  | began hd =>
    obtain ⟨hhier, hsame, hbegan⟩ := steps_findMethod_ok hd
    have ht := hs.of_same hsame
    exact ⟨hhier, ht, _, hbegan saved⟩
  | @ended v vs hv =>
    -- the variant around the innermost call is the first of the saved ones
    have hstack := hfaithful.stack
    rw [hv] at hstack
    obtain rfl : saved = vs.map some ++ [none] := (List.cons.inj hstack).2
    cases vs with
    | nil => exact ⟨rfl, hs, _, .single .ended⟩
    | cons w ws => exact ⟨rfl, hs, _, .single .ended⟩

/-- the session inside of a call, before the body of the method runs -/
def entered (s : Session) (f : Nat) (args : List Value) (d : Dispatch) : Session :=
  { s with
    store := (Store.enter s.viewWith f (argumentClasses s.hierarchy args) s.store).2.beginCall d }

theorem Next.entered {s : Session} (f : Nat) (args : List Value) {d : Dispatch}
    (h : (Store.enter s.viewWith f (argumentClasses s.hierarchy args) s.store).1 = .ok d) :
    Next s (s.entered f args d) := by
  have hfind : findMethod f args s = (.ok d, { s with
      store := (Store.enter s.viewWith f (argumentClasses s.hierarchy args) s.store).2 }) := by
    rw [findMethod_apply, h]
  exact .began hfind

namespace Reached

variable {s : Session}

/-- the bodies are ordinary, and the store moved by steps from the store without functions -/
theorem steps (hs : Reached s) :
    s.store.OrdinaryBodies ∧ ∃ saved, Steps s.hierarchy ⟨.empty, []⟩ ⟨s.store, saved⟩ := by
  induction hs with
  | start h =>
    rw [store_start h]
    exact ⟨Store.ordinaryBodies_empty, [], .refl⟩
  | next _ h ih =>
    obtain ⟨hbodies, saved, hsteps⟩ := ih
    obtain ⟨hhier, ht, saved', hnext⟩ :=
      h.steps hbodies (hsteps.faithful (Running.faithful_empty _))
    rw [hhier]
    exact ⟨ht, saved', hsteps.trans hnext⟩

/-- the store of a session that is reached records the calls that led there -/
theorem faithful (hs : Reached s) : ∃ saved, Faithful s.hierarchy ⟨s.store, saved⟩ := by
  obtain ⟨-, saved, hsteps⟩ := hs.steps
  exact ⟨saved, hsteps.faithful (Running.faithful_empty s.hierarchy)⟩

/-- the classes were made one by one -/
theorem made (hs : Reached s) : s.hierarchy.Made := by
  induction hs with
  | start h =>
    refine (declares_start h).2.1 ?_
    dsimp only
    exact Hierarchy.made_base
  | @next s t hs h ih =>
    obtain ⟨saved, hfaithful⟩ := hs.faithful
    rw [(h.steps hs.steps.1 hfaithful).1]
    exact ih

/-- every class inherits from the root -/
theorem rooted (hs : Reached s) : s.hierarchy.Rooted := by
  induction hs with
  | start h =>
    refine (declares_start h).2.2 ?_
    dsimp only
    exact Hierarchy.rooted_base
  | @next s t hs h ih =>
    obtain ⟨saved, hfaithful⟩ := hs.faithful
    rw [(h.steps hs.steps.1 hfaithful).1]
    exact ih

/-- runs lead from sessions that are reached to others with the same classes, and take back no call -/
theorem run {t : Session} (hs : Reached s) (h : Runs s t) :
    Reached t ∧ t.hierarchy = s.hierarchy ∧ Store.Later s.store t.store := by
  induction h with
  | refl => exact ⟨hs, rfl, .refl _⟩
  | tail _ hnext ih =>
    obtain ⟨ht, hhier, hlater⟩ := ih
    obtain ⟨saved, hfaithful⟩ := ht.faithful
    obtain ⟨hhier', -, saved', hsteps⟩ := hnext.steps ht.steps.1 hfaithful
    exact ⟨ht.next hnext, hhier'.trans hhier, hlater.trans hsteps.later⟩

end Reached

/-! ## Requests after each other -/

/-- the session after several requests -/
def after (rs : List Request) (s : Session) : Session :=
  rs.foldl (fun s r => (answer r s).2) s

theorem runs_after (s : Session) {rs : List Request} (hrs : ∀ r ∈ rs, r.Ordinary) :
    Runs s (s.after rs) := by
  induction rs generalizing s with
  | nil => exact .refl
  | cons r rs ih =>
    have hnext : Next s (answer r s).2 := .answered (hrs r List.mem_cons_self) callDepth
    exact .head hnext (ih _ fun x hx => hrs x (List.mem_cons_of_mem _ hx))

theorem start_blank : Session.start [] [] [] = .ok {} := by
  have hrun : ∀ s : Session, (do
      List.forM [] declareClass
      declareModules []
      modify fun s => { s with importable := { s.importable with broken := [] } } : Run Unit) s
        = (.ok (), { s with importable := { s.importable with broken := [] } }) :=
    fun _ => rfl
  unfold start
  simp only [ExceptT.run]
  rw [hrun]

/-- a session may start without declarations -/
theorem reached_blank : Reached {} := .start start_blank

/-- a run without declarations has the builtin classes only -/
theorem hierarchy_of_runs {s : Session} (h : Runs {} s) : s.hierarchy = Hierarchy.base := by
  rw [(reached_blank.run h).2.1]

/-- a function that fails, and one that calls it twice and catches the first fault only -/
def failingTwice : Session := ({} : Session).after [
  .newGeneric "callee" "callee" [] (.raise "no") none none,
  .newGeneric "caller" "caller" [] (.list [.attempt (.call "callee" [] []) (.literal .none),
    .call "callee" [] []]) none none,
  .call "caller" [] []]

theorem runs_failingTwice : Runs {} failingTwice := by
  refine runs_after _ ?_
  simp [Request.Ordinary, Script.Ordinary, Script.AllOrdinary, Script.NamedOrdinary]

theorem reached_failingTwice : Reached failingTwice := (reached_blank.run runs_failingTwice).1

end Session

end Introspect
