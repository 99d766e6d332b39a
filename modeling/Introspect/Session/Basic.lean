import Introspect.Command.Run
import Introspect.Dispatch.Parameters
import Introspect.Targets.Builtins
import Introspect.Value.Report

/-!
# Sessions

A session holds everything that requests look at and change: classes, functions and modules, and the
names under which they are known.  It also holds what its programs run on, which nothing changes.

* `Session`             the state;
* `Run`                 what a request does: it changes the session and may fail;
* `Session.view`        how values are shown;
* `Session.catalog`     the modules, as inspections see them;
* `Session.scene`       what commands look at.
-/

namespace Introspect

def standardClassNames : List (String × ClassId) := [
  ("object", .object), ("int", .int), ("bool", .bool), ("float", .float), ("complex", .complex),
  ("str", .str), ("bytes", .bytes), ("bytearray", .bytearray), ("list", .list), ("dict", .dict),
  ("tuple", .tuple), ("set", .set), ("frozenset", .frozenset), ("range", .range), ("type", .type),
  ("NoneType", .noneType), ("OrderedDict", .orderedDict), ("numbers.Number", .number),
  ("numbers.Complex", .complexNumber), ("numbers.Real", .realNumber),
  ("numbers.Rational", .rationalNumber), ("numbers.Integral", .integralNumber)]

def annotationForms : List (String × Value) := [
  ("Optional", .typing .optional []), ("List", .typing .list []), ("Union", .typing .union [])]

structure Session where
  interpreter : Interpreter := .standard
  hierarchy : Hierarchy := .base
  /-- the classes that were declared, by their names -/
  declared : List (String × ClassId) := []
  store : Store := .empty
  /-- the functions by the names under which requests know them -/
  functions : List (String × Nat) := []
  /-- the module of the language itself is the first one -/
  modules : Array Module := #[builtinModule .base]
  /-- the modules by the names under which requests know them -/
  moduleIds : List (String × Nat) := []
  importable : Importable := ⟨[("builtins", 0)], []⟩
  /-- the views that were asked for -/
  views : List (String × VariantView) := []
  /-- the number of instances made so far -/
  serial : Nat := 0

abbrev Run := Acting Session

instance : Store.Holder Session := ⟨Session.store, fun s store => { s with store }⟩

namespace Session

/-- what is known under a name -/
def find {α : Type} (entries : List (String × α)) (name : String) : Except Fault α :=
  (entries.lookup name).elim (.error (.noKey (Text.quoted name))) .ok

def module (s : Session) (m : Nat) : Module := s.modules.getD m default

/-- how values are shown when the values inside of references are shown by `inner` -/
def viewOver (s : Session) (inner : Surroundings) : Surroundings where
  hierarchy := s.hierarchy
  reference
    | .module m => (s.module m).display (Value.display inner)
    | v => s.store.referenceText inner v
  functionName f := (s.store.function f).name
  moduleName m := (s.module m).get? "__name__"
  variantLabel v :=
    s.store.referenceText inner (.variant v) ++ " of "
      ++ s.store.referenceText inner (.method (s.store.variant v).method)

/-- how values are shown where references are left out -/
def plainView (s : Session) : Surroundings where
  hierarchy := s.hierarchy
  reference _ := ""
  functionName f := (s.store.function f).name
  moduleName m := (s.module m).get? "__name__"
  variantLabel _ := ""

def view (s : Session) : Surroundings := s.viewOver (s.viewOver s.plainView)

def catalog (s : Session) : Catalog := ⟨s.view, s.modules, s.interpreter.characters⟩

/-- what names mean in annotations -/
def scope (s : Session) : Scope := fun name =>
  (s.declared.lookup name).map Value.cls <|> annotationForms.lookup name
    <|> (s.module 0).get? name

/-- what targets are resolved against -/
def resolver (s : Session) : Resolver where
  scope := ⟨s.catalog, s.store⟩
  importModule := s.importable.importModule
  attributeOf := AttributeScope.attributeOf ⟨s.catalog, s.store⟩
  builtins := 0

def scene (s : Session) (settingsFile : List UInt8) : Scene :=
  ⟨s.resolver, some settingsFile, s.interpreter.limits⟩

def modifyModule (s : Session) (m : Nat) (f : Module → Module) : Session :=
  { s with modules := s.modules.modify m f }

/-- modules whose annotations were asked for -/
def annotationsRead (s : Session) (ms : List Nat) : Session :=
  ms.foldl (fun s m => s.modifyModule m Module.withAnnotations) s

/-- a value reported; a function without a table cannot be shown -/
def report (s : Session) (v : Value) : Except Fault Answer :=
  match v with
  | .generic f => (s.store.table? f).map fun _ => v.report s.view
  | v => .ok (v.report s.view)

def reports (s : Session) (vs : List Value) : Except Fault Answer :=
  (vs.mapM s.report).map Answer.list

end Session

end Introspect
