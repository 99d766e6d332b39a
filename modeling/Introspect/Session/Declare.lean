import Introspect.Session.Literal

/-!
# Declaring classes and modules

A session starts with declarations.  Classes are made one after the other; modules are all there
before their bindings are made, so that they may refer to each other.

* `ClassDeclaration`, `ModuleDeclaration`  what is declared;
* `declareClass`, `declareModules`         make it;
* `Session.start`                          the session that results.
-/

namespace Introspect

structure ClassDeclaration where
  name : String
  bases : List Literal
  module : String
  qualname : String
  isAbstract : Bool
  /-- the classes that it adopts as virtual subclasses -/
  adopts : List Literal

/-- the annotations that a module starts with -/
inductive AnnotationsDeclaration where
  | entries (entries : List (String × Literal))
  | value (l : Literal)
  | absent

structure ModuleDeclaration where
  id : String
  name : String
  bindings : List (String × Literal)
  annotations : AnnotationsDeclaration
  importable : Bool
  source : Option String
  /-- the value that replaces the name in the end -/
  renamed : Option Literal
  nameless : Bool
  /-- bindings whose keys are no texts -/
  oddBindings : List (Literal × Literal)

/-- classes where they have to be -/
def classesOnly (h : Hierarchy) (vs : List Value) : Except Fault (List ClassId) :=
  vs.mapM fun v =>
    match v with
    | .cls c => .ok c
    | v => .error (.badClass (v.className h))

/-- an abstract class adopts classes, one after the other -/
def adoptAll (h : Hierarchy) (c : ClassId) (ds : List ClassId) : Except Fault Hierarchy :=
  ds.foldlM (fun h d => h.adopt c d) h

def declareClass (d : ClassDeclaration) : Run Unit := do
  let bases ← Literal.values d.bases
  let s ← get
  let baseClasses ← classesOnly s.hierarchy bases
  let (h, c) ← s.hierarchy.declare
    { name := d.name, qualname := d.qualname, module := d.module
      bases := orRoot baseClasses
      family := if d.isAbstract then .abstract else .plain
      traits := { namespaced := true } }
  set { s with hierarchy := h, declared := (d.name, c) :: s.declared }
  let adopted ← Literal.values d.adopts
  let h ← adoptAll h c (← classesOnly h adopted)
  modify fun s => { s with hierarchy := h }

/-- the name of the file that the source text of a module is kept in -/
def sourceFileName (id : String) : String := "lgsrc_" ++ id ++ ".py"

/-- the bindings that every module starts with -/
def initialBindings (name : String) : Bindings := [
  (.str "__name__", .str name), (.str "__doc__", .none), (.str "__package__", .none),
  (.str "__loader__", .none), (.str "__spec__", .none)]

/-- a module without bindings of its own -/
def emptyModule (d : ModuleDeclaration) : Module :=
  { bindings := initialBindings d.name, source := d.source }

/-- the modules are there, without bindings of their own -/
def addModules (ds : List ModuleDeclaration) : Run Unit :=
  modify fun s => ds.foldl (fun s d =>
    let m := s.modules.size
    { s with
      modules := s.modules.push (emptyModule d)
      moduleIds := (d.id, m) :: s.moduleIds
      importable := if d.importable then
          { s.importable with loaded := (d.name, m) :: s.importable.loaded }
        else s.importable }) s

/-- the annotations of a module as a value, if they are there -/
def annotationsValue : AnnotationsDeclaration → Run (Option Value)
  | .entries es => do
    let vs ← Literal.namedValues es
    return some (.dict (vs.map fun e => (.str e.1, e.2)))
  | .value l => do return some (← l.value)
  | .absent => return none

def bindIfSome (name : String) (v : Option Value) (m : Module) : Module :=
  (v.map (m.bind name)).getD m

def fillModule (d : ModuleDeclaration) : Run Unit := do
  let i ← Session.find (← get).moduleIds d.id
  let annotations ← annotationsValue d.annotations
  let bindings ← Literal.namedValues d.bindings
  let renamed ← Literal.value? d.renamed
  let odd ← Literal.entries d.oddBindings
  modify fun s => s.modifyModule i fun m =>
    let m := bindIfSome "__annotations__" annotations m
    let m := bindings.foldl (fun m e => m.bind e.1 e.2) m
    let m := bindIfSome "__file__" (d.source.map fun _ => .str (sourceFileName d.id)) m
    let m := bindIfSome "__name__" renamed m
    let m := if d.nameless then m.unbind "__name__" else m
    { m with bindings := odd.foldl (fun es e => Value.insert e.1 e.2 es) m.bindings }

def declareModules (ds : List ModuleDeclaration) : Run Unit := do
  addModules ds
  ds.forM fillModule

def Session.start (classes : List ClassDeclaration) (modules : List ModuleDeclaration)
    (broken : List (String × Option String)) (interpreter : Interpreter := .standard) :
    Except Fault Session :=
  let declare : Run Unit := do
    classes.forM declareClass
    declareModules modules
    modify fun s => { s with importable := { s.importable with broken } }
  match declare.run { interpreter } with
  | (.ok _, s) => .ok s
  | (.error e, _) => .error e

end Introspect
