import Introspect.Acting
import Introspect.Modules.Basic
import Introspect.Value.Annotation
import Introspect.Value.Operations

/-!
# Constness of bindings

A name is constant when its annotation declares it final.  The annotations of a module are read as
values; when they are no mapping, the source text is read instead; when that cannot be done either,
constness is unknown.

* `BindingInfo`          whether a name is bound, and whether it is constant;
* `Catalog.annotations`  the annotations of a module;
* `Catalog.finalNames`   the names that a module declares final, nothing when that is unknown;
* `ModuleBindings`       a lookup for one module, which keeps its final names once they are read;
* `Catalog.binding`      what is known about one name, by a lookup of its own;
* `Catalog.bindingThrough`  what is known about one name, by a lookup that others share.
-/

namespace Introspect

structure BindingInfo where
  isBound : Bool
  isConst : Bool
  deriving DecidableEq, Repr

/-- a name in a namespace, of which some names are final -/
def BindingInfo.of (bindings : Bindings) (name : String) (finals : List Value) : BindingInfo :=
  let isBound := (Value.lookup (.str name) bindings).isSome
  ⟨isBound, isBound && finals.contains (.str name)⟩

/-- a lookup for the names of one module -/
structure ModuleBindings where
  module : Value
  /-- what was read of its final names, if they were read before -/
  finalNames : Option (Option (List Value))

/-- a lookup before anything is read -/
def ModuleBindings.fresh (m : Value) : ModuleBindings := ⟨m, none⟩

namespace Catalog

def annotations (c : Catalog) (m : Value) : Except Fault Bindings :=
  let unreadable : Except Fault Bindings := .error (.badAnnotations (m.display c.view))
  match m with
  | .module i =>
    match (c.module i).get? "__annotations__" with
    | none | some .none => .ok []
    | some (.dict entries) => .ok entries
    | some v => if v.isInstance c.hierarchy .dict then .ok [] else unreadable
  | .cls _ => .ok []
  | v => if c.hierarchy.someTrait (v.classOf c.hierarchy) Traits.callable then .ok []
    else unreadable

/-- the source text of a module; an empty one counts as none -/
def source (c : Catalog) (m : Value) : Except Fault String :=
  let builtin : Except Fault String :=
    .error (.noSource (m.display c.view ++ " is a built-in module"))
  match m with
  | .module i =>
    match (c.module i).get? "__file__" with
    | none => builtin
    | some file =>
      if !file.truthy c.hierarchy then builtin
      else
        match (c.module i).source with
        | none => .error (.noSource "source code not available")
        | some "" => .error (.noSource "could not get source code")
        | some text => .ok text
  | v => .error (.noSource (v.display c.view ++ " is no module"))

/-- the keys whose annotation declares a constant -/
def finalKeys (h : Hierarchy) : Bindings → Except Fault (List Value)
  | [] => .ok []
  | (k, a) :: rest => do
    let isFinal ← a.isFinal h
    let keys ← finalKeys h rest
    return if isFinal then k :: keys else keys

/-- the names declared final in the source text; nothing when there is no text, or no program in
it -/
def finalNamesInSource (c : Catalog) (m : Value) : Except Fault (Option (List Value)) :=
  match c.source m with
  | .error _ => .ok none
  | .ok text =>
    match Source.finalNames c.characters text with
    | .ok names => .ok (some (names.map Value.str))
    | .error .ungrammatical => .ok none
    | .error e => .error e

def finalNames (c : Catalog) (m : Value) : Except Fault (Option (List Value)) :=
  match c.annotations m with
  | .ok entries => (finalKeys c.hierarchy entries).map some
  | .error _ => c.finalNamesInSource m

/-- what a reader of diagnostics is told when the final names of a module are read -/
def finalNamesNotes (c : Catalog) (m : Value) : List String :=
  match c.annotations m with
  | .ok _ => []
  | .error e =>
    let shown := m.display c.view
    let fallback := "Annotations of " ++ shown ++ " are unavailable (" ++ e.message
      ++ "); falling back to source"
    let unavailable (e : Fault) : List String :=
      [fallback, "Source of " ++ shown ++ " is unavailable: " ++ e.message]
    match c.source m with
    | .error e => unavailable e
    | .ok text =>
      match Source.finalNames c.characters text with
      | .error .ungrammatical => unavailable .ungrammatical
      | _ => [fallback]

/-- the final names of the module of a lookup; a fault leaves them to be read again -/
def finalNamesThrough (c : Catalog) : Acting ModuleBindings (Option (List Value)) := do
  let lookup ← get
  match lookup.finalNames with
  | some known => return known
  | none =>
    let known ← c.finalNames lookup.module
    set { lookup with finalNames := some known }
    return known

/-- what is known about a name of a module, the final names being those of the lookup -/
def bindingIn (c : Catalog) (m : Value) (name : String) :
    Acting ModuleBindings (Option BindingInfo) :=
  match c.namespaceOf m with
  | .error _ => return none
  | .ok bindings => return (← c.finalNamesThrough).map (BindingInfo.of bindings name)

/-- what is known about a name of the module of a lookup -/
def ownBinding (c : Catalog) (name : String) : Acting ModuleBindings (Option BindingInfo) := do
  c.bindingIn (← get).module name

def binding (c : Catalog) (m : Value) (name : String) : Except Fault (Option BindingInfo) :=
  (c.ownBinding name (.fresh m)).1

/-- what is known about a name; a module other than that of the lookup is read by one of its own -/
def bindingThrough (c : Catalog) (m : Value) (name : String) :
    Acting ModuleBindings (Option BindingInfo) := do
  if m == (← get).module then c.ownBinding name else c.binding m name

end Catalog

end Introspect
