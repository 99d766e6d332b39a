import Introspect.Modules.Globals
import Introspect.Proofs.Acting
import Introspect.Proofs.Modules.Descendants

/-!
# Global variables by a shared lookup

The names of a module are enumerated with one lookup, which reads the final names when a name asks for
them and keeps them.  A question about one name reads them anew.  Both come to the same:

* `Catalog.Knows`           a lookup holds nothing of its module, or its final names;
* `Catalog.Steady`          an action gives the same result from all such lookups, and leaves one;
* `Catalog.globalsAmong_eq` the names that are kept are those that are global variables by themselves;
* `Catalog.globalNames_eq`  the same for the names of a module.
-/

namespace Introspect

namespace Catalog

/-! ## Lookups that were used before -/

/-- a lookup holds nothing of a module, or its final names -/
structure Knows (c : Catalog) (m : Value) (lookup : ModuleBindings) : Prop where
  module : lookup.module = m
  finalNames : ∀ known, lookup.finalNames = some known → c.finalNames m = .ok known

/-- the result is the same with every lookup that holds nothing wrong, and such a lookup is left -/
def Steady {α : Type} (c : Catalog) (m : Value) (x : Acting ModuleBindings α) : Prop :=
  ∀ lookup, c.Knows m lookup → (x lookup).1 = (x (.fresh m)).1 ∧ c.Knows m (x lookup).2

variable (c : Catalog) (m : Value)

theorem knows_fresh : c.Knows m (.fresh m) := ⟨rfl, nofun⟩

namespace Steady

variable {c : Catalog} {m : Value} {α β : Type}

theorem pure (a : α) : c.Steady m (Pure.pure a) := fun _ h => ⟨rfl, h⟩

theorem liftExcept (r : Except Fault α) : c.Steady m (liftM r) := by
  intro lookup h
  rw [Acting.liftExcept_apply, Acting.liftExcept_apply]
  exact ⟨rfl, h⟩

theorem bind {x : Acting ModuleBindings α} {f : α → Acting ModuleBindings β} (hx : c.Steady m x)
    (hf : ∀ a, c.Steady m (f a)) : c.Steady m (x >>= f) := by
  intro lookup h
  have hfresh := (hx _ (c.knows_fresh m)).2
  obtain ⟨hsame, hleft⟩ := hx lookup h
  rw [Acting.bind_apply, Acting.bind_apply]
  rcases hxl : x lookup with ⟨r, t⟩
  rcases hxf : x (.fresh m) with ⟨r', t'⟩
  rw [hxl] at hsame hleft
  rw [hxf] at hsame hfresh
  obtain rfl : r = r' := hsame
  cases r with
  | error e => exact ⟨rfl, hleft⟩
  | ok a =>
    obtain ⟨h₁, h₂⟩ := hf a t hleft
    exact ⟨h₁.trans (hf a t' hfresh).1.symm, h₂⟩

/-- what depends on the module of the lookup only -/
theorem module {f : Value → Acting ModuleBindings β} (hf : c.Steady m (f m)) :
    c.Steady m (get >>= fun lookup => f lookup.module) := by
  intro lookup h
  have hget : ∀ b : ModuleBindings, (get >>= fun lookup => f lookup.module :
      Acting ModuleBindings β) b = f b.module b := fun b =>
    Acting.bind_of_ok (Acting.get_apply b)
  rw [hget, hget, h.module]
  exact hf lookup h

end Steady

theorem finalNamesThrough_fresh :
    c.finalNamesThrough (.fresh m) = match c.finalNames m with
      | .ok known => (.ok known, ⟨m, some known⟩)
      | .error e => (.error e, .fresh m) := by
  have hget : c.finalNamesThrough (.fresh m) = (do
      let known ← c.finalNames m
      set (⟨m, some known⟩ : ModuleBindings)
      return known : Acting ModuleBindings (Option (List Value))) (.fresh m) := rfl
  rw [hget, Acting.bind_apply, Acting.liftExcept_apply]
  cases c.finalNames m with
  | ok known => rfl
  | error e => rfl

/-- the final names are read once, unless that fails -/
theorem steady_finalNamesThrough : c.Steady m c.finalNamesThrough := by
  intro lookup h
  obtain ⟨rfl, hknown⟩ := h
  obtain ⟨m, known⟩ := lookup
  cases known with
  | none =>
    refine ⟨rfl, ?_⟩
    show c.Knows m (c.finalNamesThrough (.fresh m)).2
    rw [finalNamesThrough_fresh]
    cases hread : c.finalNames m with
    | error e => exact c.knows_fresh m
    | ok known => exact ⟨rfl, fun _ h => Option.some.inj h ▸ hread⟩
  | some known =>
    have hread : c.finalNames m = .ok known := hknown known rfl
    have hkept : c.finalNamesThrough ⟨m, some known⟩ = (.ok known, ⟨m, some known⟩) := rfl
    rw [hkept, finalNamesThrough_fresh, hread]
    exact ⟨rfl, rfl, hknown⟩

theorem steady_bindingIn (k : Value) (name : String) : c.Steady m (c.bindingIn k name) := by
  unfold bindingIn
  cases c.namespaceOf k with
  | error e => exact .pure none
  | ok bindings => exact (c.steady_finalNamesThrough m).bind fun finals => .pure _

theorem steady_ownBinding (name : String) : c.Steady m (c.ownBinding name) :=
  .module (f := (c.bindingIn · name)) (c.steady_bindingIn m m name)

theorem steady_bindingThrough (k : Value) (name : String) :
    c.Steady m (c.bindingThrough k name) := by
  refine Steady.module (f := fun own => if k == own then c.ownBinding name
    else liftM (c.binding k name)) ?_
  by_cases hk : (k == m) = true
  · rw [if_pos hk]
    exact c.steady_ownBinding m name
  · rw [if_neg hk]
    exact .liftExcept _

variable (settings : Settings) (given : Option BindingLookup) (s : Selection)

theorem steady_lookupBinding (k : Value) (name : String) :
    c.Steady m (c.lookupBinding given k name) := by
  cases given with
  | none => exact c.steady_bindingThrough m k name
  | some lookup => exact .liftExcept _

theorem steady_passesConstness (k : Value) (name : String) (filter : Constness) :
    c.Steady m (c.passesConstness given k name filter) := by
  unfold passesConstness
  cases filter with
  | all => exact .pure true
  | const | nonconst =>
    refine (c.steady_lookupBinding m given k name).bind fun info => ?_
    cases info with
    | none => exact .pure false
    | some info => exact .pure _

theorem steady_qualifies (k : Value) (name : String) :
    c.Steady m (c.qualifies settings given s k name) := by
  refine (Steady.liftExcept _).bind fun v => ?_
  cases v with
  | none => exact .pure false
  | some v =>
    refine (c.steady_passesConstness m given k name s.constness).bind fun passes => ?_
    cases passes with
    | false => exact .pure false
    | true => exact .liftExcept _

/-! ## Enumerations -/

/-- a name is examined with a lookup that others used as it is by itself -/
theorem examine_eq {lookup : ModuleBindings} (h : c.Knows m lookup) (name : String) :
    (c.examine settings given s m name lookup).1 = c.isGlobal settings given s m name
      ∧ c.Knows m (c.examine settings given s m name lookup).2 := by
  obtain ⟨hsame, hleft⟩ := c.steady_qualifies m settings given s m name lookup h
  unfold isGlobal examine
  rcases hl : c.qualifies settings given s m name lookup with ⟨r, t⟩
  rcases hf : c.qualifies settings given s m name (.fresh m) with ⟨r', t'⟩
  rw [hl] at hsame hleft
  rw [hf] at hsame
  obtain rfl : r = r' := hsame
  cases r with
  | ok b => exact ⟨rfl, hleft⟩
  | error e => exact ⟨rfl, hleft⟩

/-- the names that are kept are those that are global variables by themselves -/
theorem globalsAmong_eq (names : List String) {lookup : ModuleBindings} (h : c.Knows m lookup) :
    (c.globalsAmong settings given s m names lookup).1
      = names.filter (c.isGlobal settings given s m) := by
  induction names generalizing lookup with
  | nil => rfl
  | cons name names ih =>
    obtain ⟨hkept, hleft⟩ := c.examine_eq m settings given s h name
    have hrest := ih hleft
    show (if (c.examine settings given s m name lookup).1 then
        name :: (c.globalsAmong settings given s m names
          (c.examine settings given s m name lookup).2).1
      else (c.globalsAmong settings given s m names
          (c.examine settings given s m name lookup).2).1) = _
    rw [hkept, hrest, List.filter_cons]

theorem globalNames_eq :
    c.globalNames settings given s m
      = (c.entriesOf m).map fun es => es.names.filter (c.isGlobal settings given s m) := by
  unfold globalNames
  cases c.entriesOf m with
  | error e => rfl
  | ok es =>
    exact congrArg Except.ok
      (c.globalsAmong_eq m settings given s es.names (c.knows_fresh m))

theorem globalNames_of_entries {i : Nat} {es : Bindings} (h : c.entriesOf (.module i) = .ok es) :
    c.globalNames settings given s (.module i)
      = .ok (es.names.filter (c.isGlobal settings given s (.module i))) := by
  rw [c.globalNames_eq (.module i) settings given s, h]
  rfl

theorem globalNames_of_unlistable {i : Nat} {e : Fault} (h : c.Unlistable i e) :
    c.globalNames settings given s (.module i) = .error e := by
  rw [c.globalNames_eq (.module i) settings given s]
  exact congrArg (Except.map _) h

end Catalog

end Introspect
