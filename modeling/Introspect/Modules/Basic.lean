import Introspect.Fault
import Introspect.Modules.Foundational
import Introspect.Settings.Basic
import Introspect.Source.CharacterNames
import Introspect.Value.Display
import Introspect.Value.Operations

/-!
# Modules

A module is a namespace that may have a name and a source text.

* `Module`               the bindings of a module, in the order of their making;
* `Bindings.inOrder`     the bindings of a namespace in the order of their keys;
* `Catalog`              all modules, how values are shown, and which characters have names;
* `Catalog.namespaceOf`  the bindings of a value that has a namespace;
* `Catalog.nameText`     the name of a value as text, empty when it has none;
* `topPackage`, `shortName`  the first and the last part of a dotted name.
-/

namespace Introspect

/-- the bindings of a namespace, in the order of their making; the keys are texts, as a rule -/
abbrev Bindings := List (Value × Value)

structure Module where
  bindings : Bindings
  /-- the text of the file that the module comes from -/
  source : Option String := none
  /-- whether the module belongs to the language itself -/
  isBuiltin : Bool := false
  deriving Inhabited

namespace Module

def get? (m : Module) (name : String) : Option Value := Value.lookup (.str name) m.bindings

/-- a name bound anew -/
def bind (m : Module) (name : String) (v : Value) : Module :=
  { m with bindings := Value.insert (.str name) v m.bindings }

/-- a name no longer bound -/
def unbind (m : Module) (name : String) : Module :=
  { m with bindings := m.bindings.filter fun e => !(e.1 == .str name) }

/-- the annotations are there after they were asked for -/
def withAnnotations (m : Module) : Module :=
  if (m.get? "__annotations__").isSome then m else m.bind "__annotations__" (.dict [])

/-- the display of a module between angle brackets -/
def display (shown : Value → String) (m : Module) : String :=
  "<module " ++ ((m.get? "__name__").map shown).getD "'?'"
    ++ (if m.isBuiltin then " (built-in)>" else ">")

end Module

def topPackage (name : String) : String := String.ofList (name.toList.takeWhile (· != '.'))

def shortName (name : String) : String :=
  String.ofList (name.toList.reverse.takeWhile (· != '.')).reverse

namespace Bindings

/-- one more entry, before the first one whose key is not below its own -/
def insertInOrder (h : Hierarchy) (e : Value × Value) : Bindings → Except Fault Bindings
  | [] => .ok [e]
  | x :: xs => do
    if ← e.1.exceeds h x.1 then return x :: (← insertInOrder h e xs) else return e :: x :: xs

/-- the entries in the order of their keys; not all keys can be compared -/
def inOrder (h : Hierarchy) : Bindings → Except Fault Bindings
  | [] => .ok []
  | e :: es => do insertInOrder h e (← inOrder h es)

/-- the names that are bound; a key that is no text is no name -/
def names (b : Bindings) : List String := b.filterMap fun e => e.1.str?

end Bindings

structure Catalog where
  view : Surroundings
  modules : Array Module
  /-- the characters that texts in a source may name -/
  characters : Source.CharacterNames := Source.latinCharacterNames

namespace Catalog

def hierarchy (c : Catalog) : Hierarchy := c.view.hierarchy

def module (c : Catalog) (m : Nat) : Module := c.modules.getD m default

def namespaceOf (c : Catalog) (v : Value) : Except Fault Bindings :=
  match v with
  | .module m => .ok (c.module m).bindings
  | .cls d =>
    .ok [(.str "__module__", .str (c.hierarchy.info d).module), (.str "__doc__", .none)]
  | .forwardHolder arg => .ok [(.str "__forward_arg__", arg)]
  | v => if c.hierarchy.someTrait (v.classOf c.hierarchy) Traits.namespaced then .ok []
    else .error .noNamespace

/-- the bindings of a value that has a namespace, in order -/
def entriesOf (c : Catalog) (v : Value) : Except Fault Bindings := do
  (← c.namespaceOf v).inOrder c.hierarchy

def nameOf (c : Catalog) (v : Value) : Option Value :=
  match v with
  | .module m => (c.module m).get? "__name__"
  | .cls d | .applied d _ => some (.str (c.hierarchy.className d))
  | .builtin name => some (.str name)
  | .generic f => some (.str (c.view.functionName f))
  | _ => none

def nameText (c : Catalog) (v : Value) : String :=
  ((c.nameOf v).map (Value.plainText c.view)).getD ""

def isFoundational (c : Catalog) (settings : Settings) (v : Value) : Bool :=
  let top := topPackage (c.nameText v)
  standardPackages.contains top || settings.foundationalModules.contains top

end Catalog

end Introspect
