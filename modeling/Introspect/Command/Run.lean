import Introspect.Command.Basic
import Introspect.Console.Output
import Introspect.Hierarchy.Lineage
import Introspect.Modules.Inventory
import Introspect.Reflection.Backedges
import Introspect.Settings.Load
import Introspect.Targets.Resolve

/-!
# Running commands

A command writes to the console and ends with an exit code.  A target that cannot be resolved is
reported and ends it with code 1.

* `Scene`             what commands look at;
* `Ending`            the exit code, the output, and the modules whose annotations were read;
* `Scene.run`         runs a command;
* `Scene.invoke`      runs a whole command line.
-/

namespace Introspect

open Console (Output Level Column)

structure Scene where
  resolver : Resolver
  /-- the bytes of the nearest configuration file, if there is one -/
  settingsFile : Option (List UInt8)
  /-- what a configuration file may ask for -/
  limits : Toml.Limits := .standard

structure Ending where
  code : Nat
  output : Output
  /-- the modules whose annotations were read -/
  read : List Nat := []

namespace Scene

/-- the modules, and how values are shown -/
def catalog (s : Scene) : Catalog := s.resolver.scope.catalog

/-- how values are shown -/
def view (s : Scene) : Surroundings := s.catalog.view

def hierarchy (s : Scene) : Hierarchy := s.catalog.hierarchy

/-- the functions -/
def store (s : Scene) : Store := s.resolver.scope.store

/-- the end of a command after a message -/
def endWith (o : Output) (code : Nat) (level : Level) (message : String) : Except Fault Ending := do
  return ⟨code, ← o.report level message, []⟩

/-- what is made of a resolved target; a fault of the given kinds is reported -/
def resolving {α : Type} (o : Output) (phrase name : String) (reported : FaultKind → Bool)
    (target : Except Fault α) (use : α → Except Fault Ending) : Except Fault Ending :=
  match target with
  | .ok a => use a
  | .error e =>
    if reported e.kind then endWith o 1 .error (phrase ++ " " ++ name ++ ": " ++ e.message)
    else .error e

/-- faults of resolving the target of a function -/
def isUnresolved (k : FaultKind) : Bool := k.isImport || k == .attribute

/-- faults of resolving a target that has to be a class -/
def isUnresolvedClass (k : FaultKind) : Bool := isUnresolved k || k == .type

/-- notes for readers of diagnostics -/
def writeNotes (o : Output) (notes : List String) : Except Fault Output :=
  notes.foldlM Output.note o

/-- the result of an inspection, its notes written -/
def inspected {α : Type} (o : Output) (x : Noting α) : Except Fault (Output × α) := do
  let (result, notes) := x.run []
  let o ← writeNotes o notes
  return (o, ← result)

/-- the order of texts in listings -/
def byText {α : Type} (key : α → String) (a b : α) : Bool := !(key b < key a)

/-- the variants of a function -/
def specializations (s : Scene) (o : Output) (target : String) (signature : Option String) :
    Except Fault Ending :=
  let resolved : Except Fault (Value × Option Signature) := do
    let f ← s.resolver.target target
    match signature with
    | none => return (f, none)
    | some text => return (f, some (← s.resolver.parseSignature text))
  resolving o "Cannot resolve" target isUnresolvedClass resolved fun (f, filter) => do
    let (o, found) ← inspected o (Introspect.specializations s.store s.view slotsSource f filter)
    if found.isEmpty then endWith o 0 .info ("No specializations for " ++ target ++ ".")
    else
      let rows := found.map fun (v, m) =>
        ((Value.variant v).display s.view, (Value.method m).display s.view)
      let o ← o.table
        { title := "Specializations of " ++ target
          columns := [⟨"Variant", .ellipsis⟩, ⟨"Method", .ellipsis⟩]
          rows := (rows.mergeSort (byText Prod.fst)).map fun (v, m) => [v, m] }
      return ⟨0, o, []⟩

/-- the key of dependents in a listing -/
def edgeLabel (s : Scene) : EdgeKey → Except Fault String
  | .variant v => .ok ((Value.variant v).display s.view)
  | .table _ sig => do
    return "dispatch table " ++ signatureText s.view (← sig.items s.hierarchy)

/-- dependents in a listing, one a line -/
def dependentsText (s : Scene) (ds : List Value) : Except Fault String := do
  if ds.isEmpty then return "-" else return "\n".intercalate (← ds.mapM s.resolver.display)

/-- the dependents of a function -/
def backedges (s : Scene) (o : Output) (target : String) : Except Fault Ending :=
  resolving o "Cannot resolve" target isUnresolved (s.resolver.target target) fun f => do
    let (result, notes) := (Introspect.backedges s.store s.view slotsSource f).run []
    let o ← writeNotes o notes
    match result with
    | .error e => if e.kind == .malformed then endWith o 1 .error e.message else .error e
    | .ok [] => endWith o 0 .info ("No backedges for " ++ target ++ ".")
    | .ok found =>
      let rows ← found.mapM fun (k, ds) => do
        return [← s.edgeLabel k, ← s.dependentsText ds]
      let o ← o.table
        { title := "Backedges of " ++ target
          columns := [⟨"Source", .ellipsis⟩, ⟨"Dependents", .ellipsis⟩], rows }
      return ⟨0, o, []⟩

/-- the settings of the configuration file with explicit ones over them -/
def settings (s : Scene) (foundational imported : Option Bool) : Except Fault Settings :=
  let given (setting : Setting) (b : Option Bool) : List (String × Value) :=
    (b.map fun b => (setting.key, .bool b)).toList
  Settings.load s.limits s.hierarchy s.settingsFile
    (given .includeFoundational foundational ++ given .includeImported imported)

/-- the name of a module where it must have one -/
def moduleName (s : Scene) (m : Value) : Except Fault Value :=
  match s.catalog.nameOf m with
  | some v => .ok v
  | none => .error (.noAttribute "module" "__name__")

/-- the modules below a module -/
def submodules (s : Scene) (o : Output) (name : String) (direct : Bool)
    (foundational imported : Option Bool) : Except Fault Ending :=
  resolving o "Cannot import" name FaultKind.isImport (s.resolver.moduleTarget name) fun m => do
    let settings ← s.settings foundational imported
    let scope : WalkScope := ⟨settings.includeFoundational, settings.includeImported⟩
    let found ←
      if direct then s.catalog.children settings scope (.module m)
      else s.catalog.descendants settings scope (.module m)
    let walked := Value.module m :: (if direct then [] else found.map Value.module)
    let o ← writeNotes o (s.catalog.walkNotes walked)
    if found.isEmpty then endWith o 0 .info (name ++ " has no submodules.")
    else
      let o ← found.foldlM (fun o c => do
        o.print ((← s.moduleName (.module c)).plainText s.view)) o
      return ⟨0, o, []⟩

def functions (s : Scene) (o : Output) (name : String) : Except Fault Ending :=
  resolving o "Cannot import" name FaultKind.isImport (s.resolver.moduleTarget name) fun m => do
    let settings ← s.settings none none
    let names ← s.catalog.functionNames settings (.module m)
    return ⟨0, ← names.foldlM Output.print o, []⟩

def cellText (s : Scene) : Value → Except Fault String
  | .str t => .ok t
  | .none => .ok ""
  | v => .error (.unprintable (v.className s.hierarchy))

/-- the display of what is bound to a name -/
def boundText (s : Scene) (bindings : Bindings) (n : String) : Except Fault String :=
  match Value.lookup (.str n) bindings with
  | some v => s.resolver.display v
  | none => .error (.noKey (Text.quoted n))

/-- the row of a global variable; a module name that is no text is found out last -/
def globalRow (s : Scene) (withValues : Bool) (m : Value) (bindings : Bindings) (n : String) :
    Except Fault (List String) := do
  let name ← s.moduleName m
  let values ← if withValues then (s.boundText bindings n).map ([·]) else pure []
  return [← s.cellText name, n] ++ values

def globalRows (s : Scene) (withValues : Bool) (m : Value) (names : List String) :
    Except Fault (List (List String)) := do
  let bindings ← s.catalog.namespaceOf m
  names.mapM (s.globalRow withValues m bindings)

/-- the modules of an inventory or a single one -/
def scannedModules (s : Scene) (settings : Settings) (recursive : Bool) (m : Value) :
    Except Fault (List Value) :=
  if recursive then s.catalog.inventoryModules settings settings.includeImported m else .ok [m]

/-- the global variables of a module, or of all modules below it too -/
def globals (s : Scene) (o : Output) (name constness mutability : String) (recursive : Bool)
    (imported : Option Bool) (withValues : Bool) : Except Fault Ending :=
  resolving o "Cannot import" name FaultKind.isImport (s.resolver.moduleTarget name) fun m => do
    let c := s.catalog
    let settings ← s.settings none imported
    let modules ← s.scannedModules settings recursive (.module m)
    let constness ← Constness.vocabulary.read s.view (.str constness)
    let mutability ← Mutability.vocabulary.read s.view (.str mutability)
    let selection : Selection := ⟨constness, mutability⟩
    let found ← c.namesByModule settings none selection modules
    let notes ← modules.mapM fun m => do
      return c.globalsNotes settings selection m ((← c.entriesOf m).map Prod.fst) (.fresh m)
    let o ← writeNotes o notes.flatten
    let read := c.modulesRead settings selection modules
    if found.isEmpty then
      return { ← endWith o 0 .info ("No matching globals in " ++ name ++ ".") with read }
    else
      let rows ← found.mapM fun g => s.globalRows withValues g.1 g.2
      let o ← o.table
        { title := "Globals of " ++ name
          columns := [⟨"Module", .ellipsis⟩, ⟨"Name", .ellipsis⟩]
            ++ (if withValues then [⟨"Value", .fold⟩] else [])
          rows := rows.flatten }
      return ⟨0, o, read⟩

/-- the tree of classes below a class -/
def typeTree (s : Scene) (o : Output) (name : String) : Except Fault Ending :=
  resolving o "Cannot resolve" name isUnresolvedClass (s.resolver.classTarget name) fun c => do
    let lines ← s.hierarchy.tree s.hierarchy.subtypes 0 c
    return ⟨0, lines.foldl Output.printUnwrapped o, []⟩

/-- the chain of classes above a class -/
def supertypes (s : Scene) (o : Output) (name : String) : Except Fault Ending :=
  resolving o "Cannot resolve" name isUnresolvedClass (s.resolver.classTarget name) fun c =>
    let chain := (c :: s.hierarchy.supertypes c).map s.hierarchy.typeName
    .ok ⟨0, o.printPlain (" <: ".intercalate chain), []⟩

def run (s : Scene) (o : Output) : CommandLine → Except Fault Ending
  | .specializations target signature => s.specializations o target signature
  | .backedges target => s.backedges o target
  | .submodules name direct foundational imported =>
    s.submodules o name direct foundational imported
  | .functions name => s.functions o name
  | .globals name constness mutability recursive imported values =>
    s.globals o name constness mutability recursive imported values
  | .typeTree name => s.typeTree o name
  | .supertypes name => s.supertypes o name

def invoke (s : Scene) (i : Invocation) : Except Fault Ending :=
  let o : Output := {}
  s.run (if i.debug then { o with logging := o.logging.enableDebug } else o) i.command

end Scene

end Introspect
