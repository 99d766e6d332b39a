import Introspect.Reflection.Specializations
import Introspect.Targets.Attributes
import Introspect.Targets.Imports
import Introspect.Text.Blank

/-!
# Resolving targets

A target names a value: `module:path` imports the module and follows the path; a dotted path imports
its longest part that is a module and follows the rest; a bare name that is always bound stands for
itself.

* `Resolver`                  what imports and attributes come to, and how values are shown;
* `Resolver.target`           the value of a target;
* `Resolver.classTarget`      the class of a target;
* `Resolver.parseSignature`   the classes of targets between commas.
-/

namespace Introspect

structure Resolver where
  scope : AttributeScope
  /-- what the import of a module name comes to -/
  importModule : String → Except Fault Nat
  /-- what an attribute of a value comes to: its value, nothing, or the fault of looking it up -/
  attributeOf : Value → String → Except Fault (Option Value)
  /-- the module whose names are always bound -/
  builtins : Nat

namespace Resolver

/-- how a value is shown, if it can be -/
def display (r : Resolver) (v : Value) : Except Fault String :=
  (requireDisplay r.scope.store v).map fun _ => v.display r.scope.catalog.view

/-- the fault of a step that leads nowhere, with the value before it -/
def missingPart (r : Resolver) (target : String) (v : Value) (part : String) : Fault :=
  match r.display v with
  | .ok shown => .missingPart (Text.quoted target) shown (Text.quoted part)
  | .error e => e

/-- the value at the end of a path of attributes -/
def follow (r : Resolver) (target : String) : List String → Value → Except Fault Value
  | [], v => .ok v
  | part :: path, v =>
    match r.attributeOf v part with
    | .ok (some w) => r.follow target path w
    | .ok none => .error (r.missingPart target v part)
    | .error e => .error e

/-- the parts of a dotted path, the empty ones left out -/
def pathParts (path : String) : List String := (Text.parts '.' path).filter (· != "")

def isSelfOrParent (name whole : String) : Bool :=
  whole == name || (name ++ ".").toList.isPrefixOf whole.toList

/-- whether an import ended because the module of that name is not there, or a parent of it; an import
that does not tell which module it misses is taken for one of these -/
def isMissing (name : String) (e : Fault) : Bool :=
  e.kind == .missingModule && e.missingName.all (isSelfOrParent · name)

/-- the longest importable part of a path: the first `n` parts, or fewer; a module that is there but
cannot be imported is a fault -/
def longestModule (r : Resolver) (target : String) (parts : List String) :
    Nat → Except Fault Value
  | 0 => .error (.unresolved (Text.quoted target))
  | n + 1 =>
    let name := ".".intercalate (parts.take (n + 1))
    match r.importModule name with
    | .ok m => r.follow target ((parts.drop (n + 1)).filter (· != "")) (.module m)
    | .error e => if isMissing name e then r.longestModule target parts n else .error e

/-- the value of a bare name that is always bound -/
def alwaysBound (r : Resolver) (parts : List String) (target : String) :
    Except Fault (Option Value) :=
  if parts.length = 1 then r.attributeOf (.module r.builtins) target else .ok none

def target (r : Resolver) (target : String) : Except Fault Value := do
  let cs := target.toList
  if cs.contains ':' then
    let m ← r.importModule (String.ofList (cs.takeWhile (· != ':')))
    r.follow target (pathParts (String.ofList ((cs.dropWhile (· != ':')).drop 1))) (.module m)
  else
    let parts := Text.parts '.' target
    match ← r.alwaysBound parts target with
    | some v => .ok v
    | none => r.longestModule target parts parts.length

/-- a target that has to be a class; to ask this of anything else looks up the class that it gives
itself -/
def classTarget (r : Resolver) (name : String) : Except Fault ClassId := do
  match ← r.target name with
  | .cls c => .ok c
  | v => do
    let _ ← r.attributeOf v "__class__"
    .error (.notClass (Text.quoted name) (v.className r.scope.hierarchy))

def moduleTarget (r : Resolver) (name : String) : Except Fault Nat :=
  r.importModule name

def parseSignature (r : Resolver) (text : String) : Except Fault Signature :=
  (((Text.parts ',' text).map Text.trim).filter (· != "")).mapM fun part =>
    (r.classTarget part).map Value.cls

end Resolver

end Introspect
