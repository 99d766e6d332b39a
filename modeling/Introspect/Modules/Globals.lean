import Introspect.Modules.Bindings
import Introspect.Vocabulary

/-!
# Global variables

The global variables of a module are the names bound to plain values.

* `Selection`              the two filters of an enumeration: on the constness of the binding, and
                           on the mutability of the value;
* `Catalog.qualifies`      whether a name is a global variable that passes the filters;
* `Catalog.examine`        the same, a name that cannot be examined being none;
* `Catalog.isGlobal`       the same for one name, by a lookup of its own;
* `Catalog.globalNames`    the global variables of a module, in order, by a lookup that they share;
* `Catalog.functionNames`  the names bound to what can be called, other than classes.
-/

namespace Introspect

structure Selection where
  constness : Constness := .all
  mutability : Mutability := .all
  deriving DecidableEq, Repr

/-- a lookup of the constness of names in place of the usual one -/
abbrev BindingLookup := Value → String → Except Fault (Option BindingInfo)

namespace Catalog

/-- the value of a name that is bound to a plain value and is not internal -/
def plainValue (c : Catalog) (settings : Settings) (m : Value) (name : String) :
    Except Fault (Option Value) :=
  if settings.isInternal name then .ok none
  else do
    match Value.lookup (.str name) (← c.namespaceOf m) with
    | none => return none
    | some v => return if (← v.bindingKind c.hierarchy) == .plain then some v else none

/-- what is known about a name, by a lookup that is given or by that of the module -/
def lookupBinding (c : Catalog) (given : Option BindingLookup) (m : Value) (name : String) :
    Acting ModuleBindings (Option BindingInfo) :=
  match given with
  | some lookup => liftM (lookup m name)
  | none => c.bindingThrough m name

/-- whether the constness of a name passes a filter; an unknown one passes only the filter that does
not ask -/
def passesConstness (c : Catalog) (given : Option BindingLookup) (m : Value) (name : String) :
    Constness → Acting ModuleBindings Bool
  | .all => return true
  | filter => do
    match ← c.lookupBinding given m name with
    | none => return false
    | some info => return info.isBound && filter.admits info.isConst

def passesMutability (h : Hierarchy) (v : Value) : Mutability → Except Fault Bool
  | .all => .ok true
  | filter => (v.isImmutable h).map filter.admits

def qualifies (c : Catalog) (settings : Settings) (given : Option BindingLookup) (s : Selection)
    (m : Value) (name : String) : Acting ModuleBindings Bool := do
  match ← c.plainValue settings m name with
  | none => return false
  | some v =>
    if ← c.passesConstness given m name s.constness then passesMutability c.hierarchy v s.mutability
    else return false

def examine (c : Catalog) (settings : Settings) (given : Option BindingLookup) (s : Selection)
    (m : Value) (name : String) : StateM ModuleBindings Bool := fun lookup =>
  match c.qualifies settings given s m name lookup with
  | (.ok b, lookup) => (b, lookup)
  | (.error _, lookup) => (false, lookup)

def isGlobal (c : Catalog) (settings : Settings) (given : Option BindingLookup) (s : Selection)
    (m : Value) (name : String) : Bool :=
  (c.examine settings given s m name (.fresh m)).1

/-- the names that are global variables, out of some names of a module -/
def globalsAmong (c : Catalog) (settings : Settings) (given : Option BindingLookup) (s : Selection)
    (m : Value) : List String → StateM ModuleBindings (List String)
  | [] => return []
  | name :: names => do
    let kept ← c.examine settings given s m name
    let rest ← c.globalsAmong settings given s m names
    return if kept then name :: rest else rest

def globalNames (c : Catalog) (settings : Settings) (given : Option BindingLookup) (s : Selection)
    (m : Value) : Except Fault (List String) := do
  let names := (← c.entriesOf m).names
  return (c.globalsAmong settings given s m names (.fresh m)).1

def valuesOf (c : Catalog) (m : Value) (names : List String) : Except Fault (List Value) := do
  let bindings ← c.namespaceOf m
  return names.filterMap fun n => Value.lookup (.str n) bindings

def objects (c : Catalog) (m : Value) : Except Fault (List Value) := do
  return (← c.entriesOf m).map Prod.snd

/-- the fault of a question that only a text can be asked -/
def notText (c : Catalog) : Value → Fault
  | .bytes _ => .badArguments
  | v => .noAttribute (v.className c.hierarchy) "startswith"

/-- whether a key is a name that is bound to something that can be called, other than a class -/
def isFunction (c : Catalog) (settings : Settings) (e : Value × Value) : Except Fault Bool :=
  match e.1 with
  | .str name =>
    if settings.isInternal name then .ok false
    else (e.2.bindingKind c.hierarchy).map (· == .callable)
  | key => .error (c.notText key)

def functionNames (c : Catalog) (settings : Settings) (m : Value) :
    Except Fault (List String) := do
  let kept ← (← c.entriesOf m).filterMapM fun e => do
    return if ← c.isFunction settings e then some e else none
  return Bindings.names kept

def asksConstness (c : Catalog) (settings : Settings) (s : Selection) (m : Value)
    (name : String) : Bool :=
  s.constness != .all &&
    match c.plainValue settings m name with
    | .ok (some _) => true
    | _ => false

/-- whether the annotations of a module are read in an enumeration of its global variables -/
def readsAnnotations (c : Catalog) (settings : Settings) (s : Selection) (m : Value) : Bool :=
  match c.entriesOf m with
  | .error _ => false
  | .ok entries => entries.names.any (c.asksConstness settings s m)

/-- the modules whose annotations are read in enumerations of several ones -/
def modulesRead (c : Catalog) (settings : Settings) (s : Selection) (ms : List Value) : List Nat :=
  ms.filterMap fun m =>
    match m with
    | .module i => if c.readsAnnotations settings s m then some i else none
    | _ => none

/-- what a reader of diagnostics is told of a key that cannot be classified -/
def failureNotes (c : Catalog) (m key : Value) : Except Fault Bool → List String
  | .ok _ => []
  | .error e =>
    ["Could not classify " ++ key.display c.view ++ " in " ++ m.display c.view ++ ": " ++ e.message]

/-- what a reader of diagnostics is told when keys are enumerated -/
def globalsNotes (c : Catalog) (settings : Settings) (s : Selection) (m : Value) :
    List Value → ModuleBindings → List String
  | [], _ => []
  | .str name :: rest, lookup =>
    let reads := c.asksConstness settings s m name && lookup.finalNames.isNone
    let reading := if reads then c.finalNamesNotes m else []
    let (result, lookup) := c.qualifies settings none s m name lookup
    reading ++ c.failureNotes m (.str name) result ++ c.globalsNotes settings s m rest lookup
  | key :: rest, lookup =>
    c.failureNotes m key (.error (c.notText key)) ++ c.globalsNotes settings s m rest lookup

end Catalog

end Introspect
