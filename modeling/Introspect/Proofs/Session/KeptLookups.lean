import Mathlib.Logic.Relation
import Introspect.Proofs.Modules.Enumerations
import Introspect.Session.Basic

/-!
# Lookups that are kept while modules change

A lookup for one module reads the final names of its module once and keeps them, while the names that
are bound are looked at anew with every question.  As long as annotations and sources stay as they are,
such a lookup answers every question as a new one does, whatever was bound, bound anew or unbound, and
whatever was asked before.

* `LeavesDeclarations`     a change leaves the annotations of a module and its source as they are;
* `KeptLookup`             a session with a lookup that is kept, and the readings that it made;
* `KeptLookup.answer`      what the lookup answers, and `KeptLookup.freshAnswer` what a new one does;
* `KeptLookup.Step`        a name is bound or unbound somewhere, or the lookup is asked;
* `KeptLookup.Sound`       the lookup holds nothing, or what its module declares;
* `Sound.step`             every step leaves it like that;
* `KeptLookup.answers_as_fresh`    the answers are those of a new lookup, and at most one reading
                           succeeded.
-/

namespace Introspect

/-- a change leaves the annotations of a module and its source text as they are -/
structure LeavesDeclarations (m : Nat) (s s' : Session) : Prop where
  annotations : (s'.module m).get? "__annotations__" = (s.module m).get? "__annotations__"
  source : (s'.catalog.source (.module m)).toOption = (s.catalog.source (.module m)).toOption

/-- a lookup that is kept while modules change -/
structure KeptLookup where
  session : Session
  lookup : ModuleBindings
  /-- what came of reading the final names, each time that they were read -/
  readings : List (Except Fault (Option (List Value)))

namespace KeptLookup

/-- a lookup for a module, just made -/
def fresh (s : Session) (m : Nat) : KeptLookup := ⟨s, .fresh (.module m), []⟩

variable (t : KeptLookup) (k : Nat) (name : String)

/-- whether the lookup has no need to read annotations for a name of a module -/
def holds : Bool := Value.module k == t.lookup.module && t.lookup.finalNames.isSome

/-- the session in which a question is answered: annotations that are read are there from then on -/
def sight : Session := if t.holds k then t.session else t.session.annotationsRead [k]

/-- whether the lookup reads the final names of its own module for a name of a module -/
def reads : Bool := Value.module k == t.lookup.module && t.lookup.finalNames.isNone

/-- the answer of the lookup to what it is asked about a name, and the lookup afterwards -/
def asked : Except Fault (Option BindingInfo) × ModuleBindings :=
  (t.sight k).catalog.bindingThrough (.module k) name t.lookup

def answer : Except Fault (Option BindingInfo) := (t.asked k name).1

/-- the answer of a new lookup to the same question -/
def freshAnswer : Except Fault (Option BindingInfo) :=
  (t.session.annotationsRead [k]).catalog.binding (.module k) name

def afterAsking : KeptLookup where
  session := t.sight k
  lookup := (t.asked k name).2
  readings := t.readings
    ++ if t.reads k then [(t.sight k).catalog.finalNames t.lookup.module] else []

/-- what happens while a lookup is kept -/
inductive Step (m : Nat) : KeptLookup → KeptLookup → Prop where
  | bind {t : KeptLookup} (k : Nat) (name : String) (v : Value)
      (h : LeavesDeclarations m t.session (t.session.modifyModule k (·.bind name v))) :
      Step m t { t with session := t.session.modifyModule k (·.bind name v) }
  | unbind {t : KeptLookup} (k : Nat) (name : String)
      (h : LeavesDeclarations m t.session (t.session.modifyModule k (·.unbind name))) :
      Step m t { t with session := t.session.modifyModule k (·.unbind name) }
  | ask {t : KeptLookup} (k : Nat) (name : String) : Step m t (t.afterAsking k name)

/-- the states that are reached from a session with a new lookup for one of its modules -/
def Reached (s : Session) (m : Nat) : KeptLookup → Prop :=
  Relation.ReflTransGen (Step m) (fresh s m)

end KeptLookup

/-! ## Declarations of a module -/

namespace Value

variable {key value : Value}

theorem lookup_insert_self (hself : (key == key) = true) (es : List (Value × Value)) :
    lookup key (insert key value es) = some value := by
  induction es with
  | nil => exact lookup_cons_of_beq hself
  | cons e es ih =>
    unfold insert
    by_cases he : (e.1 == key) = true
    · rw [if_pos he]
      exact lookup_cons_of_beq he
    · rw [if_neg he, lookup_cons_of_not_beq he]
      exact ih

/-- no key is both the one that is bound and the one that is looked up -/
theorem lookup_insert_of_ne {other : Value} (hself : (key == key) = true)
    (hne : ∀ k, (k == key) = true → ¬(k == other) = true) (es : List (Value × Value)) :
    lookup other (insert key value es) = lookup other es := by
  induction es with
  | nil => exact lookup_cons_of_not_beq (hne key hself)
  | cons e es ih =>
    unfold insert
    by_cases he : (e.1 == key) = true
    · rw [if_pos he, lookup_cons_of_not_beq (hne e.1 he), lookup_cons_of_not_beq (hne e.1 he)]
    · rw [if_neg he]
      by_cases ho : (e.1 == other) = true
      · rw [lookup_cons_of_beq ho, lookup_cons_of_beq ho]
      · rw [lookup_cons_of_not_beq ho, lookup_cons_of_not_beq ho]
        exact ih

end Value

namespace Module

variable (md : Module) {n x : String}

theorem get?_bind_self (v : Value) : (md.bind x v).get? x = some v :=
  Value.lookup_insert_self ((Value.beq_str_iff _ _).mpr rfl) md.bindings

theorem get?_bind_of_ne (hne : n ≠ x) (v : Value) : (md.bind x v).get? n = md.get? n := by
  refine Value.lookup_insert_of_ne ((Value.beq_str_iff _ _).mpr rfl) (fun k hk hk' => ?_)
    md.bindings
  rw [(Value.beq_str_iff _ _).mp hk, Value.beq_str_iff, Value.str.injEq] at hk'
  exact hne hk'.symm

theorem get?_withAnnotations_of_ne (hne : n ≠ "__annotations__") :
    md.withAnnotations.get? n = md.get? n := by
  unfold withAnnotations
  split
  · rfl
  · exact md.get?_bind_of_ne hne _

theorem source_withAnnotations : md.withAnnotations.source = md.source := by
  unfold withAnnotations
  split
  · rfl
  · rfl

/-- annotations that were not there are an empty mapping from then on -/
theorem get?_withAnnotations :
    md.withAnnotations.get? "__annotations__"
      = some ((md.get? "__annotations__").getD (.dict [])) := by
  unfold withAnnotations
  cases hthere : md.get? "__annotations__" with
  | some v => exact hthere
  | none => exact md.get?_bind_self _

end Module

namespace Catalog

variable {c c' : Catalog} {m : Nat}

/-- to ask a module for its annotations does not change what they say -/
theorem annotations_withAnnotations (hierarchy : c'.hierarchy = c.hierarchy)
    (h : c'.module m = (c.module m).withAnnotations) :
    (c'.annotations (.module m)).toOption = (c.annotations (.module m)).toOption := by
  cases hthere : (c.module m).get? "__annotations__" with
  | some v =>
    refine annotations_toOption_congr hierarchy ?_
    rw [h, Module.get?_withAnnotations, hthere]
    rfl
  | none =>
    have hthere' : (c'.module m).get? "__annotations__" = some (.dict []) := by
      rw [h, Module.get?_withAnnotations, hthere]
      rfl
    unfold annotations
    dsimp only
    rw [hthere, hthere']

theorem finalNames_withAnnotations (hierarchy : c'.hierarchy = c.hierarchy)
    (characters : c'.characters = c.characters)
    (h : c'.module m = c.module m ∨ c'.module m = (c.module m).withAnnotations) :
    c'.finalNames (.module m) = c.finalNames (.module m) := by
  rcases h with h | h
  · exact finalNames_congr hierarchy characters
      (annotations_toOption_congr hierarchy (by rw [h]))
      (source_toOption_congr hierarchy (by rw [h]) (by rw [h]))
  · have hfile : (c'.module m).get? "__file__" = (c.module m).get? "__file__" := by
      rw [h]
      exact Module.get?_withAnnotations_of_ne _ (by decide)
    have htext : (c'.module m).source = (c.module m).source := by
      rw [h, Module.source_withAnnotations]
    exact finalNames_congr hierarchy characters (annotations_withAnnotations hierarchy h)
      (source_toOption_congr hierarchy hfile htext)

end Catalog

namespace Session

variable (s : Session)

theorem module_modifyModule (k : Nat) (f : Module → Module) (m : Nat) :
    (s.modifyModule k f).module m = s.module m ∨ (s.modifyModule k f).module m = f (s.module m) := by
  show (s.modules.modify k f).getD m default = s.modules.getD m default
    ∨ (s.modules.modify k f).getD m default = f (s.modules.getD m default)
  by_cases hk : k < s.modules.size
  · rw [getD_modify _ _ _ hk]
    split
    · exact .inr rfl
    · exact .inl rfl
  · unfold Array.modify Array.modifyM
    rw [dif_neg hk]
    exact .inl rfl

theorem hierarchy_catalog : s.catalog.hierarchy = s.hierarchy := rfl

theorem hierarchy_modifyModule (k : Nat) (f : Module → Module) :
    (s.modifyModule k f).catalog.hierarchy = s.catalog.hierarchy := by
  rw [hierarchy_catalog, hierarchy_catalog]
  rfl

theorem annotationsRead_one (k : Nat) :
    s.annotationsRead [k] = s.modifyModule k Module.withAnnotations := rfl

/-- to read annotations does not change what is final -/
theorem finalNames_annotationsRead (k m : Nat) :
    (s.annotationsRead [k]).catalog.finalNames (.module m) = s.catalog.finalNames (.module m) := by
  rw [annotationsRead_one]
  exact Catalog.finalNames_withAnnotations (s.hierarchy_modifyModule k _) rfl
    (s.module_modifyModule k Module.withAnnotations m)

/-- the annotations of a module are there once they were read -/
theorem annotationsRead_there {m : Nat} (hm : m < s.modules.size) :
    (((s.annotationsRead [m]).module m).get? "__annotations__").isSome = true := by
  show (((s.modules.modify m Module.withAnnotations).getD m default).get? _).isSome = true
  rw [getD_modify _ _ _ hm, if_pos rfl, Module.get?_withAnnotations]
  rfl

/-- a change that leaves two names of a module and its text alone leaves its declarations -/
theorem leavesDeclarations_modifyModule {f : Module → Module}
    (hannotations : ∀ md, (f md).get? "__annotations__" = md.get? "__annotations__")
    (hfile : ∀ md, (f md).get? "__file__" = md.get? "__file__")
    (htext : ∀ md, (f md).source = md.source) (k m : Nat) :
    LeavesDeclarations m s (s.modifyModule k f) where
  annotations := apply_getD_modify (·.get? "__annotations__") hannotations s.modules default k m
  source := by
    refine Catalog.source_toOption_congr (s.hierarchy_modifyModule k f) ?_ ?_
    · exact apply_getD_modify (·.get? "__file__") hfile s.modules default k m
    · exact apply_getD_modify Module.source htext s.modules default k m

variable {name : String} (hannotations : name ≠ "__annotations__") (hfile : name ≠ "__file__")

include hannotations hfile in
theorem leavesDeclarations_bind (v : Value) (k m : Nat) :
    LeavesDeclarations m s (s.modifyModule k (·.bind name v)) :=
  s.leavesDeclarations_modifyModule (fun md => md.get?_bind_of_ne hannotations.symm v)
    (fun md => md.get?_bind_of_ne hfile.symm v) (fun _ => rfl) k m

include hannotations hfile in
theorem leavesDeclarations_unbind (k m : Nat) :
    LeavesDeclarations m s (s.modifyModule k (·.unbind name)) :=
  s.leavesDeclarations_modifyModule (Catalog.get?_unbind hannotations.symm)
    (Catalog.get?_unbind hfile.symm) (fun _ => rfl) k m

/-- annotations that are there are not made anew -/
theorem annotationsRead_of_there {m : Nat}
    (h : ((s.module m).get? "__annotations__").isSome = true) : s.annotationsRead [m] = s := by
  have hsame : s.modules.modify m Module.withAnnotations = s.modules :=
    modify_self (d := default) (if_pos h)
  show { s with modules := s.modules.modify m Module.withAnnotations } = s
  rw [hsame]

end Session

/-! ## One question -/

namespace Catalog

variable (c : Catalog) (name : String) {lookup : ModuleBindings} {k : Nat}

/-- a lookup reads nothing of its own about a name of another module -/
theorem bindingThrough_other (h : (Value.module k == lookup.module) = false) :
    c.bindingThrough (.module k) name lookup = (c.binding (.module k) name, lookup) := by
  unfold bindingThrough
  rw [Acting.bind_of_ok (Acting.get_apply lookup), h]
  exact Acting.liftExcept_apply _ _

/-- final names that are held are not read, whatever they would be -/
theorem bindingThrough_held (h : lookup.module = .module k) {known : Option (List Value)}
    (hknown : lookup.finalNames = some known) :
    c.bindingThrough (.module k) name lookup
      = (.ok (known.map (BindingInfo.of (c.module k).bindings name)), lookup) := by
  rw [c.bindingThrough_own k h]
  obtain ⟨own, held⟩ := lookup
  obtain rfl : held = some known := hknown
  rfl

/-- final names that are not held are read, and held unless that fails -/
theorem bindingThrough_unread (h : lookup.module = .module k) (hnone : lookup.finalNames = none) :
    c.bindingThrough (.module k) name lookup = match c.finalNames (.module k) with
      | .ok known =>
        (.ok (known.map (BindingInfo.of (c.module k).bindings name)), ⟨.module k, some known⟩)
      | .error e => (.error e, lookup) := by
  obtain ⟨own, held⟩ := lookup
  obtain rfl : own = .module k := h
  obtain rfl : held = none := hnone
  have hread := c.finalNamesThrough_fresh (.module k)
  unfold ModuleBindings.fresh at hread
  rw [c.bindingThrough_own k rfl, Acting.bind_apply, hread]
  cases c.finalNames (.module k) with
  | ok known => rfl
  | error e => rfl

theorem binding_eq :
    c.binding (.module k) name = (c.finalNames (.module k)).map
      (Option.map (BindingInfo.of (c.module k).bindings name)) := by
  rw [← c.bindingThrough_fresh, c.bindingThrough_own k rfl]
  rfl

end Catalog

/-! ## Lookups that hold nothing wrong -/

namespace KeptLookup

/-- the lookup holds nothing, or what its module declares; that was read when one reading succeeded,
and never again -/
structure Sound (m : Nat) (t : KeptLookup) : Prop where
  inside : m < t.session.modules.size
  knows : t.session.catalog.Knows (.module m) t.lookup
  there : t.lookup.finalNames.isSome = true →
    ((t.session.module m).get? "__annotations__").isSome = true
  readings : ∃ failed : List Fault,
    t.readings = failed.map .error ++ (t.lookup.finalNames.map .ok).toList

variable {m : Nat} {t : KeptLookup}

theorem sound_fresh {s : Session} (hm : m < s.modules.size) : Sound m (fresh s m) :=
  ⟨hm, s.catalog.knows_fresh _, nofun, [], rfl⟩

namespace Sound

theorem holds_iff (h : Sound m t) (k : Nat) :
    t.holds k = true ↔ k = m ∧ t.lookup.finalNames.isSome = true := by
  unfold holds
  rw [Bool.and_eq_true, h.knows.module, Value.beq_module_iff]

theorem other (h : Sound m t) {k : Nat} (hk : k ≠ m) :
    (Value.module k == t.lookup.module) = false := by
  rw [h.knows.module, Bool.eq_false_iff, ne_eq, Value.beq_module_iff]
  exact hk

theorem reads_iff (h : Sound m t) (k : Nat) :
    t.reads k = true ↔ k = m ∧ t.lookup.finalNames = none := by
  unfold reads
  rw [Bool.and_eq_true, h.knows.module, Value.beq_module_iff, Option.isNone_iff_eq_none]

/-- a question that needs no annotations finds the session as one that reads them -/
theorem sight_eq (h : Sound m t) (k : Nat) : t.sight k = t.session.annotationsRead [k] := by
  unfold sight
  by_cases hk : t.holds k = true
  · rw [if_pos hk]
    obtain ⟨rfl, hsome⟩ := (h.holds_iff k).mp hk
    exact (t.session.annotationsRead_of_there (h.there hsome)).symm
  · rw [if_neg hk]

theorem finalNames_sight (h : Sound m t) (k : Nat) :
    (t.sight k).catalog.finalNames (.module m) = t.session.catalog.finalNames (.module m) := by
  rw [h.sight_eq k]
  exact t.session.finalNames_annotationsRead k m

theorem knows_sight (h : Sound m t) (k : Nat) :
    (t.sight k).catalog.Knows (.module m) t.lookup :=
  ⟨h.knows.module, fun known hknown => (h.finalNames_sight k).trans (h.knows.finalNames known hknown)⟩

/-- what the lookup answers is what a new one answers -/
theorem answer_eq (h : Sound m t) (k : Nat) (name : String) :
    t.answer k name = t.freshAnswer k name := by
  unfold answer freshAnswer asked
  rw [← h.sight_eq k]
  have hknows := h.knows_sight k
  by_cases hk : k = m
  · subst hk
    cases hlookup : t.lookup.finalNames with
    | none =>
      rw [Catalog.bindingThrough_unread _ _ hknows.module hlookup, Catalog.binding_eq]
      cases (t.sight k).catalog.finalNames (.module k) with
      | ok known => rfl
      | error e => rfl
    | some known =>
      rw [Catalog.bindingThrough_held _ _ hknows.module hlookup, Catalog.binding_eq,
        hknows.finalNames known hlookup]
      rfl
  · rw [Catalog.bindingThrough_other _ _ (h.other hk)]

/-- a change to what is bound leaves the lookup as it is -/
theorem edited (h : Sound m t) (k : Nat) (f : Module → Module)
    (hleaves : LeavesDeclarations m t.session (t.session.modifyModule k f)) :
    Sound m { t with session := t.session.modifyModule k f } where
  inside := (Array.size_modify ..).symm ▸ h.inside
  knows := by
    have hsame : (t.session.modifyModule k f).catalog.finalNames (.module m)
        = t.session.catalog.finalNames (.module m) := by
      have hhierarchy := t.session.hierarchy_modifyModule k f
      exact Catalog.finalNames_congr hhierarchy rfl
        (Catalog.annotations_toOption_congr hhierarchy hleaves.annotations) hleaves.source
    exact ⟨h.knows.module, fun known hknown => hsame.trans (h.knows.finalNames known hknown)⟩
  there := fun hsome => (congrArg Option.isSome hleaves.annotations).trans (h.there hsome)
  readings := h.readings

/-- a question that reads nothing leaves the lookup as it is -/
theorem asked_of_not_reads (h : Sound m t) {k : Nat} (hk : ¬t.reads k = true) (name : String) :
    (t.asked k name).2 = t.lookup := by
  unfold asked
  by_cases hmodule : k = m
  · subst hmodule
    cases hlookup : t.lookup.finalNames with
    | none => exact absurd ((h.reads_iff k).mpr ⟨rfl, hlookup⟩) hk
    | some known => rw [Catalog.bindingThrough_held _ _ h.knows.module hlookup]
  · rw [Catalog.bindingThrough_other _ _ (h.other hmodule)]

/-- what is read is held, unless the reading fails -/
theorem asked_of_reads (h : Sound m t) (hm : t.reads m = true) (name : String) :
    (t.asked m name).2 = match (t.sight m).catalog.finalNames (.module m) with
      | .ok known => ⟨.module m, some known⟩
      | .error _ => t.lookup := by
  obtain ⟨-, hnone⟩ := (h.reads_iff m).mp hm
  unfold asked
  rw [Catalog.bindingThrough_unread _ _ h.knows.module hnone]
  cases (t.sight m).catalog.finalNames (.module m) with
  | ok known => rfl
  | error e => rfl

theorem there_sight (h : Sound m t) (k : Nat)
    (hthere : ((t.session.module m).get? "__annotations__").isSome = true) :
    (((t.sight k).module m).get? "__annotations__").isSome = true := by
  rw [h.sight_eq k, Session.annotationsRead_one]
  rcases t.session.module_modifyModule k Module.withAnnotations m with hsame | hread
  · rw [hsame]
    exact hthere
  · rw [hread, Module.get?_withAnnotations]
    rfl

/-- a question leaves the lookup without anything wrong, and a reading that it makes is the first that
succeeds, if it does -/
theorem afterAsking (h : Sound m t) (k : Nat) (name : String) :
    Sound m (t.afterAsking k name) := by
  have hinside : m < (t.sight k).modules.size := by
    rw [h.sight_eq k, Session.annotationsRead_one]
    exact (Array.size_modify ..).symm ▸ h.inside
  obtain ⟨failed, hreadings⟩ := h.readings
  by_cases hk : t.reads k = true
  · obtain ⟨rfl, hnone⟩ := (h.reads_iff k).mp hk
    have hafter := h.asked_of_reads hk name
    have hbefore : t.readings = failed.map .error := by
      rw [hreadings, hnone]
      exact List.append_nil _
    have hmore : (t.afterAsking k name).readings
        = failed.map .error ++ [(t.sight k).catalog.finalNames (.module k)] := by
      show t.readings ++ (if t.reads k then [(t.sight k).catalog.finalNames t.lookup.module]
        else []) = _
      rw [if_pos hk, hbefore, h.knows.module]
    cases hread : (t.sight k).catalog.finalNames (.module k) with
    | ok known =>
      rw [hread] at hafter hmore
      have hlookup : (t.afterAsking k name).lookup = ⟨.module k, some known⟩ := hafter
      refine ⟨hinside, ?_, fun _ => ?_, failed, ?_⟩
      · rw [hlookup]
        exact ⟨rfl, fun known' hknown => Option.some.inj hknown ▸ hread⟩
      · show (((t.sight k).module k).get? "__annotations__").isSome = true
        rw [h.sight_eq k]
        exact t.session.annotationsRead_there h.inside
      · rw [hlookup]
        exact hmore
    | error e =>
      rw [hread] at hafter hmore
      have hlookup : (t.afterAsking k name).lookup = t.lookup := hafter
      refine ⟨hinside, ?_, fun hsome => ?_, failed ++ [e], ?_⟩
      · rw [hlookup]
        exact h.knows_sight k
      · rw [hlookup, hnone] at hsome
        exact nomatch hsome
      · rw [hlookup, hnone, hmore, List.map_append]
        exact (List.append_nil _).symm
  · have hlookup : (t.afterAsking k name).lookup = t.lookup := h.asked_of_not_reads hk name
    have hsame : (t.afterAsking k name).readings = t.readings := by
      show t.readings ++ (if t.reads k then _ else []) = t.readings
      rw [if_neg hk, List.append_nil]
    refine ⟨hinside, ?_, fun hsome => h.there_sight k (h.there (hlookup ▸ hsome)), failed, ?_⟩
    · rw [hlookup]
      exact h.knows_sight k
    · rw [hlookup, hsame]
      exact hreadings

theorem step (h : Sound m t) {t' : KeptLookup} (hstep : Step m t t') : Sound m t' := by
  cases hstep with
  | bind k name v hleaves => exact h.edited k (·.bind name v) hleaves
  | unbind k name hleaves => exact h.edited k (·.unbind name) hleaves
  | ask k name => exact h.afterAsking k name

theorem reached {s : Session} (hm : m < s.modules.size) (h : Reached s m t) : Sound m t := by
  induction h with
  | refl => exact sound_fresh hm
  | tail _ hstep ih => exact ih.step hstep

end Sound

/-- A lookup that is kept answers every question about a name of a module as a new one would, whatever
was asked and whatever was bound or unbound before, as long as the annotations of its module and the
source are left as they are.  All readings of the final names that it made failed, except the last one
when the lookup holds final names, which are what was read then, be it that nothing is known. -/
theorem answers_as_fresh {s : Session} (hm : m < s.modules.size) (h : Reached s m t) :
    (∀ k name, t.answer k name = t.freshAnswer k name)
      ∧ ∃ failed : List Fault,
          t.readings = failed.map .error ++ (t.lookup.finalNames.map .ok).toList :=
  have hsound := Sound.reached hm h
  ⟨hsound.answer_eq, hsound.readings⟩

/-- a module that declares a name final, beside the module of the language -/
def declaring : Session where
  modules := #[builtinModule .base, { bindings := [
    (.str "__annotations__", .dict [(.str "limit", .str "typing.Final[int]")]),
    (.str "limit", .int 1)] }]

/-- a lookup that was asked, and asked again after its module had changed -/
def askedAgain : KeptLookup :=
  let asked := (fresh declaring 1).afterAsking 1 "limit"
  let bound := { asked with session := asked.session.modifyModule 1 (·.bind "other" (.int 2)) }
  let unbound := { bound with session := bound.session.modifyModule 1 (·.unbind "limit") }
  unbound.afterAsking 1 "limit"

theorem answers_as_fresh_unbound :
    1 < declaring.modules.size ∧ Reached declaring 1 askedAgain
      ∧ (∀ k name, askedAgain.answer k name = askedAgain.freshAnswer k name)
      ∧ ∃ failed : List Fault, askedAgain.readings
          = failed.map .error ++ (askedAgain.lookup.finalNames.map .ok).toList := by
  have hinside : 1 < declaring.modules.size := by decide
  have hreached : Reached declaring 1 askedAgain := by
    refine .tail (.tail (.tail (.tail .refl (.ask 1 "limit")) (.bind 1 "other" (.int 2) ?_))
      (.unbind 1 "limit" ?_)) (.ask 1 "limit")
    · exact Session.leavesDeclarations_bind _ (by decide) (by decide) _ 1 1
    · exact Session.leavesDeclarations_unbind _ (by decide) (by decide) 1 1
  exact ⟨hinside, hreached, answers_as_fresh hinside hreached⟩

end KeptLookup

end Introspect
