import Introspect.Modules.Basic
import Introspect.Text.Parts

/-!
# Importing modules by name

* `Importable`         the modules that can be imported, and those that fail when they are;
* `Importable.importModule`  the module of a dotted name.
-/

namespace Introspect

structure Importable where
  /-- the modules that are there -/
  loaded : List (String × Nat)
  /-- the modules that fail, with the dependency that they miss or nothing for another reason -/
  broken : List (String × Option String)

namespace Importable

/-- the fault of a module that is not there -/
def noModule (missing : String) (reason : String) : Fault :=
  .missingModule (some missing) ("No module named " ++ Text.quoted missing ++ reason)

/-- a module that has no parent, or whose parent is there, and that is not loaded -/
def locate (i : Importable) (name : String) : Fault :=
  match i.broken.lookup name with
  | some (some dependency) => noModule dependency ""
  | some none => .importFailed ("cannot import from " ++ name)
  | none => noModule name ""

/-- the module of a dotted name, whose parts are given from the last to the first; its parent is
imported before it, and no module is a package -/
def importParts (i : Importable) : List String → Except Fault Nat
  | [] => .error .emptyModuleName
  | part :: parents =>
    let name := ".".intercalate (part :: parents).reverse
    match i.loaded.lookup name with
    | some m => .ok m
    | none =>
      if parents.isEmpty then .error (i.locate name)
      else do
        let _ ← i.importParts parents
        .error (noModule name
          ("; " ++ Text.quoted (".".intercalate parents.reverse) ++ " is not a package"))

def importModule (i : Importable) (name : String) : Except Fault Nat :=
  if name = "" then .error .emptyModuleName
  else if name.toList.head? = some '.' then
    .error (.relativeModuleName (Text.quoted name))
  else i.importParts (Text.parts '.' name).reverse

end Importable

end Introspect
