import Introspect.Proofs.Dispatch.Arity
import Introspect.Proofs.Reflection.Grouping
import Introspect.Proofs.Session.Reached

/-!
# What annotations admit

An annotation that is built from classes stands for the instances of some classes, and one class
stands for it in dispatch.  That one is wide enough, but for alternatives that are a type of their
own and for annotated annotations that are not evaluated: for these stands the class of the
annotation itself, which is a barrier to other arguments.

* `Value.Admits`             whether an annotation stands for the instances of a class;
* `Value.Admits.of_same`     equal annotations stand for the same instances;
* `Value.Admits.resolve`     and so do annotations with the texts in them evaluated;
* `Value.barrier?`           the class that keeps out what the annotation admits;
* `Session.isApplicable_of_accepted`   a method applies to arguments that its annotations admit when
                             they pass the barriers.
-/

namespace Introspect

open DeclaredTypes (counting hints?)
open Parameter (WellFormed)
open Signature (ofClasses)

namespace Value

variable {h : Hierarchy} {evaluated : String → Except Fault Value} {v w : Value} {vs ws : List Value}
  {c d : ClassId}

/-- whether an annotation stands for the instances of a class; a text stands for what its value does,
and `evaluated` gives the values of texts -/
inductive Admits (h : Hierarchy) (evaluated : String → Except Fault Value) :
    Value → ClassId → Prop where
  | cls {c d : ClassId} (hc : h.isSubclass c d = true) : Admits h evaluated (.cls d) c
  | none {c : ClassId} (hc : h.isSubclass c .noneType = true) : Admits h evaluated .none c
  | applied {c d : ClassId} {args : List Value} (hc : h.isSubclass c d = true) :
      Admits h evaluated (.applied d args) c
  | list {c : ClassId} {args : List Value} (hc : h.isSubclass c .list = true) :
      Admits h evaluated (.typing .list args) c
  | alternative {c : ClassId} {v : Value} {vs : List Value} (hv : v ∈ vs)
      (hc : Admits h evaluated v c) : Admits h evaluated (.union vs) c
  | member {c : ClassId} {v : Value} {vs : List Value} (hv : v ∈ vs) (hc : Admits h evaluated v c) :
      Admits h evaluated (.typing .union vs) c
  | optional {c : ClassId} {v : Value} {vs : List Value} (hv : v ∈ vs) (hc : Admits h evaluated v c) :
      Admits h evaluated (.typing .optional vs) c
  | nothing {c : ClassId} {vs : List Value} (hc : h.isSubclass c .noneType = true) :
      Admits h evaluated (.typing .optional vs) c
  | annotated {c : ClassId} {v : Value} {vs : List Value} (hc : Admits h evaluated v c) :
      Admits h evaluated (.typing .annotated (v :: vs)) c
  | text {c : ClassId} {s : String} {v : Value} (hs : evaluated s = .ok v)
      (hc : Admits h evaluated v c) : Admits h evaluated (.str s) c
  | reference {c : ClassId} {s : String} {v : Value} (hs : evaluated s = .ok v)
      (hc : Admits h evaluated v c) : Admits h evaluated (.forwardRef s) c

/-! ## Equal annotations -/

/-- what is no number is equal to values of its own form only -/
theorem form_of_same (hsame : v.same w = true) :
    match v with
    | .cls c => w = .cls c
    | .none => w = .none
    | .str s => w = .str s
    | .forwardRef s => w = .forwardRef s
    | .applied d _ => ∃ ys, w = .applied d ys
    | .union xs => ∃ ys, w = .union ys ∧ allIn xs ys = true
    | .typing f xs => ∃ ys, w = .typing f ys ∧ sameItems xs ys = true
    | _ => True := by
  -- a complex number is compared by its parts before it is told from what is no number
  have hcomplex : ∀ y : Float, ¬(y == 0.0 && false) = true := by
    intro y
    rw [Bool.and_false]
    nofun
  cases v with
  | cls c => exact (cls_beq_iff c w).mp hsame
  | none =>
    cases w with
    | none => rfl
    | complex x y => exact absurd hsame (hcomplex y)
    | _ => exact nomatch hsame
  | str s =>
    cases w with
    | str t => exact congrArg Value.str (beq_iff_eq.mp hsame).symm
    | complex x y => exact absurd hsame (hcomplex y)
    | _ => exact nomatch hsame
  | forwardRef s =>
    cases w with
    | forwardRef t => exact congrArg Value.forwardRef (beq_iff_eq.mp hsame).symm
    | complex x y => exact absurd hsame (hcomplex y)
    | _ => exact nomatch hsame
  | applied d xs =>
    cases w with
    | applied e ys => exact ⟨ys, by rw [beq_iff_eq.mp (Bool.and_eq_true_iff.mp hsame).1]⟩
    | complex x y => exact absurd hsame (hcomplex y)
    | _ => exact nomatch hsame
  | union xs =>
    cases w with
    | union ys => exact ⟨ys, rfl, (Bool.and_eq_true_iff.mp hsame).2⟩
    | complex x y => exact absurd hsame (hcomplex y)
    | _ => exact nomatch hsame
  | typing f xs =>
    cases w with
    | typing g ys =>
      obtain ⟨hfg, hall⟩ := Bool.and_eq_true_iff.mp hsame
      exact ⟨ys, by rw [beq_iff_eq.mp hfg], hall⟩
    | complex x y => exact absurd hsame (hcomplex y)
    | _ => exact nomatch hsame
  | _ => trivial

theorem exists_same_of_allIn (hall : allIn vs ws = true) (hv : v ∈ vs) :
    ∃ w ∈ ws, v.same w = true := by
  induction vs with
  | nil => exact absurd hv List.not_mem_nil
  | cons x xs ih =>
    obtain ⟨hx, hxs⟩ := Bool.and_eq_true_iff.mp hall
    rcases List.mem_cons.mp hv with rfl | hv
    · exact List.any_eq_true.mp hx
    · exact ih hxs hv

theorem exists_same_of_sameItems (hall : sameItems vs ws = true) (hv : v ∈ vs) :
    ∃ w ∈ ws, v.same w = true := by
  induction vs generalizing ws with
  | nil => exact absurd hv List.not_mem_nil
  | cons x xs ih =>
    cases ws with
    | nil => exact nomatch hall
    | cons y ys =>
      obtain ⟨hxy, hxys⟩ := Bool.and_eq_true_iff.mp hall
      rcases List.mem_cons.mp hv with rfl | hv
      · exact ⟨y, List.mem_cons_self, hxy⟩
      · obtain ⟨w, hw, hsame⟩ := ih hxys hv
        exact ⟨w, List.mem_cons_of_mem y hw, hsame⟩

theorem Admits.of_same (hv : v.Admits h evaluated c) (hsame : v.same w = true) :
    w.Admits h evaluated c := by
  induction hv generalizing w with
  | cls hc =>
    obtain rfl : w = .cls _ := form_of_same hsame
    exact .cls hc
  | none hc =>
    obtain rfl : w = .none := form_of_same hsame
    exact .none hc
  | applied hc =>
    obtain ⟨ys, rfl⟩ := form_of_same hsame
    exact .applied hc
  | list hc =>
    obtain ⟨ys, rfl, -⟩ := form_of_same hsame
    exact .list hc
  | alternative hv hc ih =>
    obtain ⟨ys, rfl, hall⟩ := form_of_same hsame
    obtain ⟨y, hy, hvy⟩ := exists_same_of_allIn hall hv
    exact .alternative hy (ih hvy)
  | member hv hc ih =>
    obtain ⟨ys, rfl, hall⟩ := form_of_same hsame
    obtain ⟨y, hy, hvy⟩ := exists_same_of_sameItems hall hv
    exact .member hy (ih hvy)
  | optional hv hc ih =>
    obtain ⟨ys, rfl, hall⟩ := form_of_same hsame
    obtain ⟨y, hy, hvy⟩ := exists_same_of_sameItems hall hv
    exact .optional hy (ih hvy)
  | nothing hc =>
    obtain ⟨ys, rfl, -⟩ := form_of_same hsame
    exact .nothing hc
  | annotated hc ih =>
    obtain ⟨ys, rfl, hall⟩ := form_of_same hsame
    cases ys with
    | nil => exact nomatch hall
    | cons y ys => exact .annotated (ih (Bool.and_eq_true_iff.mp hall).1)
  | text hs hc =>
    obtain rfl : w = .str _ := form_of_same hsame
    exact .text hs hc
  | reference hs hc =>
    obtain rfl : w = .forwardRef _ := form_of_same hsame
    exact .reference hs hc

/-! ## Annotations with their texts evaluated -/

theorem exists_like_mem_distinct (hv : v ∈ vs) :
    ∃ w ∈ distinct vs, w = v ∨ v.same w = true := by
  induction vs using List.reverseRecOn with
  | nil => exact absurd hv List.not_mem_nil
  | append_singleton vs x ih =>
    rw [distinct_concat]
    rcases List.mem_append.mp hv with hv | hv
    · obtain ⟨w, hw, hlike⟩ := ih hv
      refine ⟨w, ?_, hlike⟩
      split
      · exact hw
      · exact List.mem_append_left _ hw
    · obtain rfl := List.mem_singleton.mp hv
      split
      · next hthere =>
        rw [List.contains_eq_any_beq, List.any_eq_true] at hthere
        obtain ⟨w, hw, hsame⟩ := hthere
        exact ⟨w, hw, .inr hsame⟩
      · exact ⟨v, List.mem_append_right _ List.mem_cons_self, .inl rfl⟩

/-- what one of several annotations admits, one of the distinct ones among them admits -/
theorem Admits.exists_mem_distinct (hv : v ∈ vs) (hc : v.Admits h evaluated c) :
    ∃ w ∈ distinct vs, w.Admits h evaluated c := by
  obtain ⟨w, hw, rfl | hsame⟩ := exists_like_mem_distinct hv
  · exact ⟨w, hw, hc⟩
  · exact ⟨w, hw, hc.of_same hsame⟩

theorem Admits.alternatives (hv : v ∈ vs) (hc : v.Admits h evaluated c) :
    (alternatives vs).Admits h evaluated c := by
  unfold Introspect.alternatives
  dsimp only
  generalize hflat : List.flatMap _ vs = flat
  have hmem : ∃ w ∈ flat, w.Admits h evaluated c := by
    rw [← hflat]
    have hself := hc
    cases hc with
    | alternative hw hc => exact ⟨_, List.mem_flatMap.mpr ⟨_, hv, hw⟩, hc⟩
    | none hc => exact ⟨_, List.mem_flatMap.mpr ⟨_, hv, List.mem_singleton.mpr rfl⟩, .cls hc⟩
    | _ => exact ⟨_, List.mem_flatMap.mpr ⟨_, hv, List.mem_singleton.mpr rfl⟩, hself⟩
  obtain ⟨w, hw, hc⟩ := hmem
  obtain ⟨w, hw, hc⟩ := hc.exists_mem_distinct hw
  split
  · next u heq =>
    rw [heq] at hw
    rwa [← List.mem_singleton.mp hw]
  · split
    · exact .member hw hc
    · exact .alternative hw hc

theorem Admits.unionForm (hv : v ∈ vs) (hc : v.Admits h evaluated c) :
    (unionForm vs).Admits h evaluated c := by
  obtain ⟨w, hw, hc⟩ := hc.exists_mem_distinct hv
  unfold Introspect.unionForm
  split
  · next u heq =>
    rw [heq] at hw
    rwa [← List.mem_singleton.mp hw]
  · exact .member hw hc

theorem Admits.optionalForm (hv : v ∈ vs) (hc : v.Admits h evaluated c) :
    (optionalForm vs).Admits h evaluated c := by
  unfold Introspect.optionalForm
  split
  · obtain rfl : v = .cls .noneType := List.mem_singleton.mp hv
    exact hc
  · exact .optional hv hc

theorem admits_optionalForm_nothing (hc : h.isSubclass c .noneType = true) (vs : List Value) :
    (optionalForm vs).Admits h evaluated c := by
  unfold optionalForm
  split
  · exact .cls hc
  · exact .nothing hc

theorem exists_mem_of_resolveAllWith {text : String → Except Fault Value}
    (hall : resolveAllWith text vs = .ok ws) (hv : v ∈ vs) :
    ∃ w ∈ ws, resolveWith text v = .ok w := by
  induction vs generalizing ws with
  | nil => exact absurd hv List.not_mem_nil
  | cons x xs ih =>
    obtain ⟨y, hy, hall⟩ := bind_eq_ok_iff.mp hall
    obtain ⟨ys, hys, hws⟩ := bind_eq_ok_iff.mp hall
    obtain rfl := Except.ok.inj hws
    rcases List.mem_cons.mp hv with rfl | hv
    · exact ⟨y, List.mem_cons_self, hy⟩
    · obtain ⟨w, hw, hvw⟩ := ih hys hv
      exact ⟨w, List.mem_cons_of_mem y hw, hvw⟩

/-- what is resolved member by member has members that are resolved -/
theorem of_resolveWithin_members {n : Nat} {outer : List String} {make : List Value → Value}
    (hform : ∀ text, resolveWith text v = do return make (← resolveAllWith text vs))
    (hw : resolveWithin evaluated n outer v = .ok w) :
    ∃ ws, w = make ws ∧ ∀ u ∈ vs, ∃ x ∈ ws, resolveWithin evaluated n outer u = .ok x := by
  have hresolve : ∃ text, ∀ u, resolveWithin evaluated n outer u = resolveWith text u := by
    cases n with
    | zero => exact ⟨_, fun _ => rfl⟩
    | succ n => exact ⟨_, fun _ => rfl⟩
  obtain ⟨text, htext⟩ := hresolve
  rw [htext, hform] at hw
  obtain ⟨ws, hws, hw⟩ := bind_eq_ok_iff.mp hw
  refine ⟨ws, (Except.ok.inj hw).symm, fun u hu => ?_⟩
  obtain ⟨x, hx, hux⟩ := exists_mem_of_resolveAllWith hws hu
  exact ⟨x, hx, (htext u).trans hux⟩

/-- a text that can be resolved stays a reference within itself, and otherwise was evaluated to an
annotation that can be resolved -/
theorem of_resolveWithin_text {n : Nat} {outer : List String} {s : String}
    (hw : resolveWithin evaluated n outer (.str s) = .ok w) (hs : evaluated s = .ok v) :
    w = .forwardRef s ∨ ∃ k outer', resolveWithin evaluated k outer' v = .ok w := by
  cases n with
  | zero => exact nomatch hw
  | succ n =>
    have hw : (if outer.contains s then .ok (.forwardRef s)
        else do resolveWithin evaluated n (s :: outer) (← evaluated s)) = .ok w := hw
    split at hw
    · exact .inl (Except.ok.inj hw).symm
    · obtain ⟨u, hu, hw⟩ := bind_eq_ok_iff.mp hw
      obtain rfl := Except.ok.inj (hu.symm.trans hs)
      exact .inr ⟨n, _, hw⟩

/-- an annotation with the texts in it evaluated admits what it did -/
theorem Admits.resolve (hv : v.Admits h evaluated c) {n : Nat} {outer : List String}
    (hw : resolveWithin evaluated n outer v = .ok w) : w.Admits h evaluated c := by
  induction hv generalizing n outer w with
  | text hs hc ih =>
    rcases of_resolveWithin_text hw hs with rfl | ⟨k, outer', hk⟩
    · exact .reference hs hc
    · exact ih hk
  | @reference c s v hs hc ih =>
    have hw : resolveWithin evaluated n outer (.str s) = .ok w := by
      cases n <;> exact hw
    rcases of_resolveWithin_text hw hs with rfl | ⟨k, outer', hk⟩
    · exact .reference hs hc
    · exact ih hk
  | annotated hc ih =>
    refine @ih w n outer ?_
    cases n <;> exact hw
  | @cls c d hc =>
    obtain rfl : .cls d = w := by cases n <;> exact Except.ok.inj hw
    exact .cls hc
  | none hc =>
    obtain rfl : .cls .noneType = w := by cases n <;> exact Except.ok.inj hw
    exact .cls hc
  | applied hc =>
    obtain ⟨ws, rfl, -⟩ := of_resolveWithin_members (fun _ => rfl) hw
    exact .applied hc
  | list hc =>
    obtain ⟨ws, rfl, -⟩ := of_resolveWithin_members (fun _ => rfl) hw
    exact .list hc
  | alternative hv hc ih =>
    obtain ⟨ws, rfl, hall⟩ := of_resolveWithin_members (fun _ => rfl) hw
    obtain ⟨x, hx, hvx⟩ := hall _ hv
    exact (ih hvx).alternatives hx
  | member hv hc ih =>
    obtain ⟨ws, rfl, hall⟩ := of_resolveWithin_members (fun _ => rfl) hw
    obtain ⟨x, hx, hvx⟩ := hall _ hv
    exact (ih hvx).unionForm hx
  | optional hv hc ih =>
    obtain ⟨ws, rfl, hall⟩ := of_resolveWithin_members (fun _ => rfl) hw
    obtain ⟨x, hx, hvx⟩ := hall _ hv
    exact (ih hvx).optionalForm hx
  | nothing hc =>
    obtain ⟨ws, rfl, -⟩ := of_resolveWithin_members (fun _ => rfl) hw
    exact admits_optionalForm_nothing hc ws

/-! ## The class that stands for an annotation -/

/-- the class of an annotation that dispatch takes for the class of the argument -/
def barrier? : Value → Option ClassId
  | .union _ => some .unionType
  | .typing .annotated (_ :: _) => some .annotated
  | _ => Option.none

/-- but for a barrier, the class that stands for an annotation takes in what that admits -/
theorem Admits.dispatchType (hv : v.Admits h evaluated c) (hr : h.isSubclass c .object = true) :
    ∃ d, v.dispatchType = .cls d
      ∧ (h.isSubclass c d = true ↔ ∀ b, v.barrier? = some b → h.isSubclass c b = true) := by
  cases hv with
  | cls hc => exact ⟨_, rfl, iff_of_true hc nofun⟩
  | none hc => exact ⟨_, rfl, iff_of_true hr nofun⟩
  | applied hc => exact ⟨_, rfl, iff_of_true hc nofun⟩
  | list hc => exact ⟨_, rfl, iff_of_true hc nofun⟩
  | alternative hv hc => exact ⟨_, rfl, fun hd b hb => Option.some.inj hb ▸ hd, fun hb => hb _ rfl⟩
  | member hv hc => exact ⟨_, rfl, iff_of_true hr nofun⟩
  | optional hv hc => exact ⟨_, rfl, iff_of_true hr nofun⟩
  | nothing hc => exact ⟨_, rfl, iff_of_true hr nofun⟩
  | annotated hc => exact ⟨_, rfl, fun hd b hb => Option.some.inj hb ▸ hd, fun hb => hb _ rfl⟩
  | text hs hc => exact ⟨_, rfl, iff_of_true hr nofun⟩
  | reference hs hc => exact ⟨_, rfl, iff_of_true hr nofun⟩

end Value

/-! ## The annotations of parameters -/

namespace DeclaredTypes

variable {interpreter : Interpreter} {h : Hierarchy} {scope : Scope} {f : Facade}
  {p : Parameter Value} {c : ClassId}

/-- whether a parameter of a facade is annotated with what admits the instances of a class, if at
all -/
def Accepts (interpreter : Interpreter) (h : Hierarchy) (scope : Scope) (f : Facade)
    (p : Parameter Value) (c : ClassId) : Prop :=
  ∀ a, f.annotations.lookup p.name = some a → a.Admits h (interpreter.evaluate h scope) c

/-- the class that keeps out what the annotation of a parameter admits -/
def barrierOf (interpreter : Interpreter) (h : Hierarchy) (scope : Scope) (f : Facade)
    (p : Parameter Value) : Option ClassId :=
  ((counting interpreter h scope f.annotations).lookup p.name).bind Value.barrier?

/-- an evaluated annotation is that of the same name, evaluated -/
theorem lookup_of_hints? {as hints : List (String × Value)} {name : String} {w : Value}
    (hhints : hints? interpreter h scope as = .ok hints) (hw : hints.lookup name = some w) :
    ∃ a, as.lookup name = some a ∧ interpreter.resolve h scope a = .ok w := by
  induction as generalizing hints with
  | nil =>
    obtain rfl := Except.ok.inj hhints
    exact nomatch hw
  | cons a as ih =>
    unfold hints? at hhints
    rw [List.mapM_cons] at hhints
    obtain ⟨hint, hhint, hhints⟩ := bind_eq_ok_iff.mp hhints
    obtain ⟨rest, hrest, hhints⟩ := bind_eq_ok_iff.mp hhints
    obtain rfl := Except.ok.inj hhints
    cases hresolved : interpreter.resolve h scope a.2 with
    | error e => rw [hresolved] at hhint; exact nomatch hhint
    | ok v =>
      rw [hresolved] at hhint
      obtain rfl : (a.1, v) = hint := Except.ok.inj hhint
      rw [List.lookup_cons] at hw ⊢
      cases hname : name == a.1 with
      | true =>
        rw [hname] at hw
        obtain rfl := Option.some.inj hw
        exact ⟨a.2, rfl, hresolved⟩
      | false =>
        rw [hname] at hw
        exact ih hrest hw

/-- the annotation that counts, evaluated or not, admits what the parameter accepts -/
theorem admits_of_accepts (hp : Accepts interpreter h scope f p c) {a : Value}
    (ha : (counting interpreter h scope f.annotations).lookup p.name = some a) :
    a.Admits h (interpreter.evaluate h scope) c := by
  unfold counting at ha
  split at ha
  · next hints hhints =>
    obtain ⟨b, hb, hresolved⟩ := lookup_of_hints? hhints ha
    unfold Interpreter.resolve at hresolved
    split at hresolved
    · exact nomatch hresolved
    · exact (hp b hb).resolve hresolved
  · exact hp a ha

/-- but for a barrier, the class on which a parameter dispatches takes in what it accepts -/
theorem dispatchTypeOf_of_accepts (hp : Accepts interpreter h scope f p c)
    (hr : h.isSubclass c .object = true) :
    ∃ d, dispatchTypeOf interpreter h scope f p = .cls d
      ∧ (h.isSubclass c d = true
        ↔ ∀ b, barrierOf interpreter h scope f p = some b → h.isSubclass c b = true) := by
  unfold dispatchTypeOf barrierOf
  cases ha : (counting interpreter h scope f.annotations).lookup p.name with
  | none => exact ⟨.object, rfl, iff_of_true hr nofun⟩
  | some a => exact (admits_of_accepts hp ha).dispatchType hr

end DeclaredTypes

namespace Session

open DeclaredTypes (Accepts barrierOf)

/-- a method without a signature of its own, asked for arguments whose classes its parameters take,
applies when these pass the barriers of the parameters that receive them, whatever its interpreter
makes of texts -/
theorem isApplicable_of_accepted {s : Session} (hs : s.Reached) (f : Nat)
    (implementation : Implementation) (storage : Storage)
    (hps : WellFormed implementation.shown.params) {cs : List ClassId}
    (hcs : ∀ c ∈ cs, c.index < s.hierarchy.size)
    (hfit : PositionsFit implementation.shown.params cs.length)
    (haccepted : ∀ i j c p, cs[i]? = some c →
      Receives implementation.shown.params cs.length i j →
      implementation.shown.params[j]? = some p →
      Accepts s.interpreter s.hierarchy s.scope implementation.shown p c) :
    ∃ b, Method.isApplicable s.hierarchy { newMethod s f none implementation with storage }
        (ofClasses cs) = .ok b
      ∧ (b = true ↔ ∀ i j c p d, cs[i]? = some c →
          Receives implementation.shown.params cs.length i j →
          implementation.shown.params[j]? = some p →
          barrierOf s.interpreter s.hierarchy s.scope implementation.shown p = some d →
            s.hierarchy.isSubclass c d = true) := by
  generalize hmethod : { newMethod s f none implementation with storage } = m
  have hm : m.key
      = .ofFacade s.interpreter s.hierarchy s.scope implementation.shown := by
    rw [← hmethod]
    rfl
  generalize implementation.shown = shown at hps hfit haccepted hm ⊢
  obtain ⟨sig, hsig⟩ := Option.isSome_iff_exists.mp
    ((Method.isSome_parameterTypes_of_key hm hps).mpr hfit)
  have hlen := Method.length_parameterTypes hsig
  -- at each place, the type of the receiving parameter is a class, with the barrier of that place
  have hplace : ∀ i c, cs[i]? = some c → ∃ d, sig[i]? = some (.cls d)
      ∧ (s.hierarchy.isSubclass c d = true ↔ ∀ j p b, Receives shown.params cs.length i j →
        shown.params[j]? = some p →
        barrierOf s.interpreter s.hierarchy s.scope shown p = some b →
          s.hierarchy.isSubclass c b = true) := by
    intro i c hc
    obtain ⟨hi, -⟩ := List.getElem?_eq_some_iff.mp hc
    have hreceives := receives_place hps hfit hi
    obtain ⟨p, hp, htype⟩ := Method.getElem?_parameterTypes_of_key hm hps hsig hi
    have hroot := hs.rooted.isSubclass (hcs c (List.mem_of_getElem? hc))
    obtain ⟨d, hd, hiff⟩ :=
      DeclaredTypes.dispatchTypeOf_of_accepts (haccepted i _ c p hc hreceives hp) hroot
    refine ⟨d, htype.trans (congrArg some hd), hiff.trans
      ⟨fun hb j q b hreceives' hq => ?_, fun hb b => hb _ p b hreceives hp⟩⟩
    rw [(receives_iff hps hfit hi).mp hreceives'] at hq
    obtain rfl := Option.some.inj (hp.symm.trans hq)
    exact hb b
  have hclasses : ∀ v ∈ sig, ∃ d, True ∧ v = .cls d := by
    intro v hv
    obtain ⟨i, hi, rfl⟩ := List.mem_iff_getElem.mp hv
    obtain ⟨d, hd, -⟩ := hplace i _ (List.getElem?_eq_getElem (hlen ▸ hi))
    exact ⟨d, trivial, Option.some.inj ((List.getElem?_eq_getElem hi).symm.trans hd)⟩
  obtain ⟨ds, rfl, -⟩ := Method.exists_ofClasses hclasses
  refine ⟨_, Method.isApplicable_of_some hsig, ?_⟩
  unfold Hierarchy.below
  rw [all_zip_iff]
  constructor
  · intro hall i j c p b hc hreceives hp hb
    obtain ⟨d, hd, hiff⟩ := hplace i c hc
    rw [ofClasses, List.getElem?_map] at hd
    obtain ⟨e, he, hde⟩ := Option.map_eq_some_iff.mp hd
    obtain rfl := Value.cls.inj hde
    exact hiff.mp (hall i c e hc he) j p b hreceives hp hb
  · intro hall i c d hc hd
    obtain ⟨e, he, hiff⟩ := hplace i c hc
    rw [ofClasses, List.getElem?_map, hd] at he
    obtain rfl := Value.cls.inj (Option.some.inj he)
    exact hiff.mpr fun j p b hreceives hp hb => hall i j c p b hc hreceives hp hb

/-- a parameter with an annotation -/
def annotated (a : Value) : Parameter Value := ⟨"x", .positional, some a, none⟩

/-- an implementation with one annotated parameter, and maybe others -/
def taking (a : Value) (others : List (Parameter Value)) : Implementation where
  params := annotated a :: others
  body := .list []

/-- an implementation with one annotated parameter, and an annotation of what it returns -/
def returning (a result : Value) : Implementation where
  params := [annotated a]
  body := .list []
  facade := some ⟨[annotated a], [("x", a), ("return", result)]⟩

/-- a parameter whose annotation cannot be evaluated -/
def unreadable : Parameter Value := ⟨"y", .keywordOnly, some (.str " "), some .none⟩

theorem base_int_unionType : Hierarchy.base.isSubclass .int .unionType = false := by
  have hfamily : (Hierarchy.base.info .unionType).family ≠ .abstract := by
    rw [(Hierarchy.extends_base 49).family .unionType (by decide +kernel)]
    decide +kernel
  rw [Hierarchy.isSubclass_eq_inherits hfamily,
    (Hierarchy.extends_base 3).inherits (c := .int) (by decide +kernel)]
  decide +kernel

theorem base_int_annotated : Hierarchy.base.isSubclass .int .annotated = false := by
  have hfamily : (Hierarchy.base.info .annotated).family ≠ .abstract := by
    rw [(Hierarchy.extends_base 59).family .annotated (by decide +kernel)]
    decide +kernel
  rw [Hierarchy.isSubclass_eq_inherits hfamily,
    (Hierarchy.extends_base 3).inherits (c := .int) (by decide +kernel)]
  decide +kernel

theorem positionsFit_one (a : Value) {others : List (Parameter Value)}
    (hothers : ∀ p ∈ others, DeclaredTypes.isPositional p = false) :
    PositionsFit (annotated a :: others) 1 := by
  refine ⟨fun j p hj hpos _ => ?_, .inr (List.one_le_countP_iff.mpr ⟨_, List.mem_cons_self, rfl⟩)⟩
  cases j with
  | zero => exact Nat.one_pos
  | succ j =>
    rw [hothers p (List.mem_of_getElem? hj)] at hpos
    exact nomatch hpos

/-- a number passes alternatives under a form and is kept out by those that are a type of their own,
and it passes an annotated class unless another annotation cannot be evaluated, be it that of a
parameter or that of the result -/
theorem isApplicable_taking :
    let s : Session := {}
    let applies := fun (implementation : Implementation) =>
      Method.isApplicable s.hierarchy (newMethod s 0 none implementation) (ofClasses [.int])
    applies (taking (.typing .union [.cls .int, .cls .str]) []) = .ok true
      ∧ applies (taking (.union [.cls .int, .cls .str]) []) = .ok false
      ∧ applies (taking (.typing .annotated [.cls .int]) []) = .ok true
      ∧ applies (taking (.typing .annotated [.cls .int]) [unreadable]) = .ok false
      ∧ applies (returning (.typing .annotated [.cls .int]) (.str " ")) = .ok false := by
  intro s applies
  have happly : ∀ s : Session, s.Reached → ClassId.int.index < s.hierarchy.size →
      ∀ (implementation : Implementation) (a : Value) (others : List (Parameter Value)),
      implementation.shown.params = annotated a :: others →
      WellFormed (annotated a :: others) → PositionsFit (annotated a :: others) 1 →
      implementation.shown.annotations.lookup "x" = some a →
      a.Admits s.hierarchy (s.interpreter.evaluate s.hierarchy s.scope) .int →
      ∃ b, Method.isApplicable s.hierarchy (newMethod s 0 none implementation) (ofClasses [.int])
          = .ok b
        ∧ (b = true ↔ ∀ d,
          barrierOf s.interpreter s.hierarchy s.scope implementation.shown (annotated a) = some d →
            s.hierarchy.isSubclass .int d = true) := by
    intro s hs hsize implementation a others hparams hps hfit hx ha
    -- the one argument is received by the first parameter
    have hplace : ∀ {i j : Nat} {c : ClassId} {p : Parameter Value}, [ClassId.int][i]? = some c →
        Receives implementation.shown.params 1 i j → implementation.shown.params[j]? = some p →
          c = .int ∧ p = annotated a := by
      intro i j c p hc hreceives hp
      obtain rfl : i = 0 := by
        have := (List.getElem?_eq_some_iff.mp hc).1
        simpa using this
      rw [hparams] at hreceives hp
      obtain rfl : j = 0 := ((receives_iff hps hfit Nat.one_pos).mp hreceives).trans (Nat.zero_min _)
      exact ⟨(Option.some.inj hc).symm, (Option.some.inj hp).symm⟩
    have haccepted : ∀ i j c p, [ClassId.int][i]? = some c →
        Receives implementation.shown.params 1 i j → implementation.shown.params[j]? = some p →
          Accepts s.interpreter s.hierarchy s.scope implementation.shown p c := by
      intro i j c p hc hreceives hp b hb
      obtain ⟨rfl, rfl⟩ := hplace hc hreceives hp
      obtain rfl := Option.some.inj (hx.symm.trans hb)
      exact ha
    obtain ⟨b, hb, hiff⟩ := isApplicable_of_accepted hs 0 implementation
      (newMethod s 0 none implementation).storage (hparams ▸ hps)
      (List.forall_mem_singleton.mpr hsize) (hparams ▸ hfit) haccepted
    refine ⟨b, hb, hiff.trans ⟨fun h d hd => ?_, fun h i j c p d hc hreceives hp hd => ?_⟩⟩
    · refine h 0 0 .int (annotated a) d rfl ?_ (by rw [hparams]; rfl) hd
      rw [hparams]
      exact (receives_iff hps hfit Nat.one_pos).mpr (Nat.zero_min _).symm
    · obtain ⟨rfl, rfl⟩ := hplace hc hreceives hp
      exact h d hd
  have hhierarchy : s.hierarchy = Hierarchy.base := by dsimp only [s]
  have hsize : ClassId.int.index < s.hierarchy.size := by
    rw [hhierarchy]
    exact Nat.lt_of_lt_of_le (by decide +kernel) (Hierarchy.extends_base 3).size
  have hself : s.hierarchy.isSubclass .int .int = true := by
    rw [hhierarchy]
    exact Hierarchy.isSubclass_of_inherits
      (Hierarchy.base_inherits (n := 3) (by decide +kernel) (by decide +kernel))
  have hint : (Value.cls .int).Admits s.hierarchy (s.interpreter.evaluate s.hierarchy s.scope) .int :=
    .cls hself
  have hannotated : s.hierarchy.isSubclass .int .annotated = false := by
    rw [hhierarchy]
    exact base_int_annotated
  have happly := happly s reached_blank hsize
  refine ⟨?_, ?_, ?_, ?_, ?_⟩
  · obtain ⟨b, hb, hiff⟩ := happly (taking (.typing .union [.cls .int, .cls .str]) []) _ [] rfl
      (by decide) (positionsFit_one _ nofun) rfl (.member List.mem_cons_self hint)
    obtain rfl : b = true := hiff.mpr nofun
    exact hb
  · obtain ⟨b, hb, hiff⟩ := happly (taking (.union [.cls .int, .cls .str]) []) _ [] rfl
      (by decide) (positionsFit_one _ nofun) rfl (.alternative List.mem_cons_self hint)
    have hpass : s.hierarchy.isSubclass .int .unionType = false := by
      rw [hhierarchy]
      exact base_int_unionType
    obtain rfl : b = false := Bool.eq_false_iff.mpr fun h =>
      Bool.false_ne_true (hpass.symm.trans (hiff.mp h _ rfl))
    exact hb
  · obtain ⟨b, hb, hiff⟩ := happly (taking (.typing .annotated [.cls .int]) []) _ [] rfl
      (by decide) (positionsFit_one _ nofun) rfl (.annotated hint)
    obtain rfl : b = true := hiff.mpr nofun
    exact hb
  · obtain ⟨b, hb, hiff⟩ := happly (taking (.typing .annotated [.cls .int]) [unreadable]) _
      [unreadable] rfl (by decide) (positionsFit_one _ (by decide)) rfl (.annotated hint)
    obtain rfl : b = false := Bool.eq_false_iff.mpr fun h =>
      Bool.false_ne_true (hannotated.symm.trans (hiff.mp h _ rfl))
    exact hb
  · obtain ⟨b, hb, hiff⟩ := happly (returning (.typing .annotated [.cls .int]) (.str " ")) _ [] rfl
      (by decide) (positionsFit_one _ nofun) rfl (.annotated hint)
    obtain rfl : b = false := Bool.eq_false_iff.mpr fun h =>
      Bool.false_ne_true (hannotated.symm.trans (hiff.mp h _ rfl))
    exact hb

end Session

end Introspect
