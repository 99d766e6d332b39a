import Introspect.Modules.Basic
import Introspect.Hierarchy.Builtin

/-!
# The module of the language itself

* `builtinModule`  the names that are always bound: functions, constants, classes and faults.
-/

namespace Introspect

/-- the functions that are always bound -/
def builtinFunctions : List String := [
  "__build_class__", "__import__", "abs", "all", "any", "ascii", "bin", "breakpoint", "callable",
  "chr", "compile", "delattr", "dir", "divmod", "eval", "exec", "format", "getattr", "globals",
  "hasattr", "hash", "hex", "id", "input", "isinstance", "issubclass", "iter", "aiter", "len",
  "locals", "max", "min", "next", "anext", "oct", "ord", "pow", "print", "repr", "round", "setattr",
  "sorted", "sum", "vars", "open"]

/-- the constants that are always bound -/
def builtinConstants : List (String × Value) := [
  ("__name__", .str "builtins"), ("__package__", .str ""), ("None", .none),
  ("Ellipsis", .ellipsis), ("NotImplemented", .notImplemented), ("False", .bool false),
  ("True", .bool true), ("__debug__", .bool true), ("quit", .instanceOf .quitter 0),
  ("exit", .instanceOf .quitter 1), ("copyright", .instanceOf .printer 0),
  ("credits", .instanceOf .printer 1), ("license", .instanceOf .printer 2),
  ("help", .instanceOf .helper 0)]

/-- the classes that are always bound, besides those of faults -/
def builtinClasses : List String := [
  "bool", "memoryview", "bytearray", "bytes", "classmethod", "complex", "dict", "enumerate",
  "filter", "float", "frozenset", "property", "int", "list", "map", "object", "range", "reversed",
  "set", "slice", "staticmethod", "str", "super", "tuple", "type", "zip"]

/-- the classes that are bound under another name -/
def builtinAliases : List (String × String) := [
  ("EnvironmentError", "OSError"), ("IOError", "OSError")]

def builtinModule (h : Hierarchy) : Module :=
  let cls (name target : String) : Option (Value × Value) :=
    (h.find? "builtins" target).map fun c => (.str name, .cls c)
  { bindings :=
      builtinConstants.map (fun e => (.str e.1, e.2))
        ++ builtinFunctions.map (fun n => (.str n, .builtin n))
        ++ (builtinClasses ++ faultClasses.map Prod.fst).filterMap (fun n => cls n n)
        ++ builtinAliases.filterMap (fun e => cls e.1 e.2)
    isBuiltin := true }

end Introspect
