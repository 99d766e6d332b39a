import Introspect.Modules.Globals
import Introspect.Modules.Walk

/-!
# Inventories of whole trees of modules

* `Catalog.inventoryModules`  the root and the modules below it; foundational ones are never entered;
* `Catalog.namesByModule`     the global variables of modules; those without any are left out;
* `Catalog.valuesByModule`    the same with the values;
* `Catalog.inventory`, `Catalog.inventoryValues`  both for a root and the modules below it.
-/

namespace Introspect

/-- the values of names in the namespace of a module, by module and name -/
def Bindings.valuesAt (b : Bindings) (m : Value) (names : List String) :
    List ((Value × String) × Value) :=
  names.filterMap fun n => (Value.lookup (.str n) b).map ((m, n), ·)

namespace Catalog

/-- the modules of an inventory: the root and those below it -/
def inventoryModules (c : Catalog) (settings : Settings) (imported : Bool) (root : Value) :
    Except Fault (List Value) := do
  return root :: (← c.descendants settings ⟨false, imported⟩ root).map Value.module

def namesByModule (c : Catalog) (settings : Settings) (given : Option BindingLookup)
    (s : Selection) : List Value → Except Fault (List (Value × List String))
  | [] => .ok []
  | m :: ms => do
    let found ← c.globalNames settings given s m
    let rest ← c.namesByModule settings given s ms
    return if found.isEmpty then rest else (m, found) :: rest

/-- the names of modules with their values -/
def valuesByModule (c : Catalog) :
    List (Value × List String) → Except Fault (List ((Value × String) × Value))
  | [] => .ok []
  | (m, names) :: groups => do
    let bindings ← c.namespaceOf m
    let rest ← c.valuesByModule groups
    return bindings.valuesAt m names ++ rest

def inventory (c : Catalog) (settings : Settings) (given : Option BindingLookup) (s : Selection)
    (imported : Bool) (root : Value) : Except Fault (List (Value × List String)) := do
  c.namesByModule settings given s (← c.inventoryModules settings imported root)

def inventoryValues (c : Catalog) (settings : Settings) (given : Option BindingLookup)
    (s : Selection) (imported : Bool) (root : Value) :
    Except Fault (List ((Value × String) × Value)) := do
  c.valuesByModule (← c.inventory settings given s imported root)

end Catalog

end Introspect
