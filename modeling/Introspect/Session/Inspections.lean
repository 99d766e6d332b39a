import Introspect.Session.Call

/-!
# Requests about modules and classes

* `bindName`, `unbindName`, `annotateName`  change a module;
* `Query`                  an enumeration with its filters, its settings and its lookup read;
* `isGlobalName`, `listGlobals`, …          the global variables of a module;
* `listChildren`, `listDescendants`, …      the modules below a module;
* `listInventory`, `listInventoryValues`    the global variables of a whole tree;
* `typeAnswer`, `typeTreeAnswer`            the classes above and below a class;
* `resolveTargetAnswer`, `runCommand`       targets and command lines.
-/

namespace Introspect

def modulePlace (h : Hierarchy) (v : Value) (name : String) : Except Fault Nat :=
  match v with
  | .module m => .ok m
  | v => .error (.noAttribute (v.className h) name)

/-- the module that a literal denotes -/
def moduleOf (l : Literal) (name : String) : Run Nat := do
  let v ← l.value
  modulePlace (← get).hierarchy v name

def changeModule (m : Nat) (change : Module → Module) : Run Answer := do
  modify fun s => s.modifyModule m change
  return .null

def bindName (m : Literal) (name : String) (value : Literal) : Run Answer := do
  let i ← moduleOf m name
  let v ← value.value
  changeModule i (·.bind name v)

def unbindName (m : Literal) (name : String) : Run Answer := do
  let i ← moduleOf m name
  match ((← get).module i).get? name with
  | none => throw (.noAttribute "module" name)
  | some _ => changeModule i (·.unbind name)

def annotateName (m : Literal) (name : String) (hint : Literal) : Run Answer := do
  let i ← moduleOf m "__annotations__"
  let v ← hint.value
  modify fun s => s.annotationsRead [i]
  let s ← get
  match (s.module i).get? "__annotations__" with
  | some (.dict entries) =>
    changeModule i (·.bind "__annotations__" (.dict (Value.insert (.str name) v entries)))
  | some old =>
    if old.isInstance s.hierarchy .dict then return .null
    else throw (.notSequence (old.className s.hierarchy))
  | none => throw (.noAttribute "module" "__annotations__")

/-- settings that are given explicitly, or the defaults -/
def settingsOf : Option GivenSettings → Except Fault Settings
  | none => .ok {}
  | some given => Settings.ofGiven given

structure Query where
  settings : Settings
  selection : Selection
  /-- the lookup that replaces the usual one -/
  lookup : Option LookupChoice

namespace Query

def read (e : Enumeration) : Run Query := do
  let settings ← settingsOf e.settings
  let constness ← e.constness.value
  let mutability ← e.mutability.value
  let view := (← get).view
  return {
    settings
    selection :=
      { constness := ← Constness.vocabulary.read view constness
        mutability := ← Mutability.vocabulary.read view mutability }
    lookup := e.lookup }

/-- how the constness of names is looked up when that is given -/
def bindingLookup (q : Query) : Option BindingLookup :=
  q.lookup.map fun
    | .unknown => fun _ _ => .ok none
    | .failing => fun _ _ => .error (.planted .runtime)
    | .fixed const absent => fun _ name =>
      .ok (some ⟨!absent.contains name, const.contains name⟩)

/-- the modules whose annotations are read, out of those that are enumerated -/
def readModules (q : Query) (c : Catalog) (ms : List Value) : List Nat :=
  match q.lookup with
  | none => c.modulesRead q.settings q.selection ms
  | some _ => []

end Query

/-- the annotations of modules were asked for -/
def noteRead (ms : List Nat) : Run Unit := modify fun s => s.annotationsRead ms

def isGlobalName (m : Literal) (name : String) (e : Enumeration) : Run Answer := do
  let v ← m.value
  let q ← Query.read e
  let c := (← get).catalog
  match v with
  | .module i =>
    if q.lookup.isNone && c.asksConstness q.settings q.selection v name then noteRead [i]
  | _ => pure ()
  return .bool (c.isGlobal q.settings q.bindingLookup q.selection v name)

/-- the global variables of a module -/
def globalNamesOf (v : Value) (q : Query) : Run (List String) := do
  let c := (← get).catalog
  noteRead (q.readModules c [v])
  c.globalNames q.settings q.bindingLookup q.selection v

def listGlobals (m : Literal) (e : Enumeration) : Run Answer := do
  let v ← m.value
  let q ← Query.read e
  return Answer.texts (← globalNamesOf v q)

def namedAnswer (s : Session) (name : String) (v : Value) : Except Fault Answer := do
  return .list [.text name, ← s.report v]

def listGlobalValues (m : Literal) (e : Enumeration) : Run Answer := do
  let v ← m.value
  let _ ← settingsOf e.settings
  let bindings ← (← get).catalog.namespaceOf v
  let names ← globalNamesOf v (← Query.read e)
  let s ← get
  return .list (← answers s bindings names)
where
  /-- names with their values -/
  answers (s : Session) (bindings : Bindings) (names : List String) :
      Except Fault (List Answer) :=
    names.mapM fun n => namedAnswer s n ((Value.lookup (.str n) bindings).getD .none)

def listObjects (m : Literal) : Run Answer := do
  let v ← m.value
  let s ← get
  s.reports (← s.catalog.objects v)

def listFunctionNames (m : Literal) (given : Option GivenSettings) : Run Answer := do
  let v ← m.value
  let settings ← settingsOf given
  return Answer.texts (← (← get).catalog.functionNames settings v)

def listFunctions (m : Literal) (given : Option GivenSettings) : Run Answer := do
  let v ← m.value
  let settings ← settingsOf given
  let s ← get
  s.reports (← s.catalog.valuesOf v (← s.catalog.functionNames settings v))

/-- what is known about a name -/
def bindingAnswer (info : Option BindingInfo) : Answer :=
  .ofOption (info.map fun i => .list [.bool i.isBound, .bool i.isConst])

/-- what is known about names of a module, each by a lookup of its own or all by one that is given; the
annotations of the module are there once a name is asked for -/
def lookupBindings (m : Literal) (names : List String) (via : Option Literal) : Run Answer := do
  let v ← m.value
  let via ← Literal.value? via
  match v with
  | .module i => unless names.isEmpty do noteRead [i]
  | _ => pure ()
  let c := (← get).catalog
  return .list ((← answers c v via names).map bindingAnswer)
where
  /-- what is known about names -/
  answers (c : Catalog) (v : Value) (via : Option Value) (names : List String) :
      Except Fault (List (Option BindingInfo)) :=
    match via with
    | none => names.mapM (c.binding v)
    | some own => (names.mapM (c.bindingThrough v) (.fresh own)).1

def moduleAnswer (s : Session) (m : Value) : Except Fault Answer :=
  match s.catalog.nameOf m with
  | none => .ok .null
  | some v => s.report v

def moduleAnswers (ms : List Nat) : Run Answer := do
  let s ← get
  return .list (← answers s)
where
  /-- modules by their names -/
  answers (s : Session) : Except Fault (List Answer) :=
    ms.mapM fun m => moduleAnswer s (.module m)

/-- a walk with its open flags taken from settings -/
def scopeOf (settings : Settings) (flags : WalkFlags) : WalkScope where
  foundational := flags.foundational.getD settings.includeFoundational
  imported := flags.imported.getD settings.includeImported

def listChildren (m : Literal) (flags : WalkFlags) (given : Option GivenSettings) : Run Answer := do
  let v ← m.value
  let settings ← settingsOf given
  moduleAnswers (← (← get).catalog.children settings (scopeOf settings flags) v)

def listDescendants (m : Literal) (flags : WalkFlags) (given : Option GivenSettings) :
    Run Answer := do
  let v ← m.value
  let settings ← settingsOf given
  moduleAnswers (← (← get).catalog.descendants settings (scopeOf settings flags) v)

/-- the submodules of a module under the default settings -/
def listSubmodules (m : Literal) (recursive base imported : Bool) : Run Answer :=
  let flags : WalkFlags := ⟨some base, some imported⟩
  if recursive then listDescendants m flags none else listChildren m flags none

/-- whether a name of a module is bound to a child -/
def isSubmoduleName (m : Literal) (name : String) : Run Answer := do
  let v ← m.value
  return .bool (← (← get).catalog.isSubmodule v name)

def isFoundationalModule (m : Literal) (given : Option GivenSettings) : Run Answer := do
  let v ← m.value
  let settings ← settingsOf given
  return .bool ((← get).catalog.isFoundational settings v)

/-- the modules of an inventory with the names of their global variables -/
def inventoryOf (m : Literal) (e : Enumeration) (imported : Option Bool) :
    Run (List (Value × List String)) := do
  let v ← m.value
  let settings ← settingsOf e.settings
  let c := (← get).catalog
  let ms ← c.inventoryModules settings (imported.getD settings.includeImported) v
  let q ← Query.read e
  noteRead (q.readModules c ms)
  c.namesByModule q.settings q.bindingLookup q.selection ms

def listInventory (m : Literal) (e : Enumeration) (imported : Option Bool) : Run Answer := do
  let groups ← inventoryOf m e imported
  let s ← get
  return .list (← answers s groups)
where
  /-- modules with names -/
  answers (s : Session) (groups : List (Value × List String)) : Except Fault (List Answer) :=
    groups.mapM fun g => do return .list [← moduleAnswer s g.1, Answer.texts g.2]

def listInventoryValues (m : Literal) (e : Enumeration) (imported : Option Bool) :
    Run Answer := do
  let groups ← inventoryOf m e imported
  let s ← get
  return .list (← answers s (← s.catalog.valuesByModule groups))
where
  /-- names of modules with values -/
  answers (s : Session) (entries : List ((Value × String) × Value)) : Except Fault (List Answer) :=
    entries.mapM fun e => do
      return .list [← moduleAnswer s e.1.1, .text e.1.2, ← s.report e.2]

def kindAnswer (l : Literal) : Run Answer := do
  let v ← l.value
  return .text (← v.bindingKind (← get).hierarchy).word

def immutableAnswer (l : Literal) : Run Answer := do
  let v ← l.value
  return .bool (← v.isImmutable (← get).hierarchy)

def fullName (s : Session) (v : Value) : Except Fault String :=
  match v with
  | .cls c | .applied c _ => .ok (s.hierarchy.typeName c)
  | .builtin name => .ok name
  | .generic f =>
    let fn := s.store.function f
    .ok (fn.home.getD (s.hierarchy.info .genericFunction).module ++ "." ++ fn.name)
  | v => .error (.noAttribute (v.className s.hierarchy) "__qualname__")

/-- the fault of a value that is no class where a class is examined -/
def notClass (h : Hierarchy) (v : Value) : Fault := .noAttribute (v.className h) "__base__"

def classNames (h : Hierarchy) (cs : List ClassId) : Answer := Answer.texts (cs.map h.typeName)

/-- an answer to a question about a class; a value stands for its class where classes above are
listed -/
def typeAnswerOf (s : Session) (q : TypeQuery) (v : Value) : Except Fault Answer :=
  let h := s.hierarchy
  match q with
  | .typeName => (fullName s v).map Answer.text
  | .supertype =>
    match v with
    | .cls c | .applied c _ => .ok (.text (h.typeName (h.supertype c)))
    | v => .error (notClass h v)
  | .supertypes =>
    match v with
    | .cls c => .ok (classNames h (h.supertypes c))
    | v =>
      let c := v.classOf h
      if v.refuses h then .error .refused else .ok (classNames h (c :: h.supertypes c))
  | .subtypes =>
    match v with
    | .cls c => .ok (classNames h (h.subtypes c))
    | v => .error (.notSequence (v.className h))

def typeAnswer (q : TypeQuery) (l : Literal) : Run Answer := do
  let v ← l.value
  typeAnswerOf (← get) q v

def listedBelow (h : Hierarchy) (entries : List (String × List Value)) (v : Value) : List Value :=
  match v with
  | .cls c | .applied c _ => (entries.lookup (h.className c)).getD []
  | _ => []

/-- the tree below a value along a listing, which may put anything below a class; a line needs a
name -/
def listedTree (s : Session) (entries : List (String × List Value)) (depth : Int) (v : Value) :
    Except Fault (List String) :=
  match preorder (listedBelow s.hierarchy entries) (entries.length + 1) depth v with
  | none => .error .tooDeep
  | some es => es.mapM fun e => (fullName s e.2).map (treeLine e.1)

def subclassTree (s : Session) (depth : Int) (v : Value) : Except Fault (List String) :=
  match v with
  | .cls c => s.hierarchy.tree s.hierarchy.subtypes depth c
  | v => do
    let _ ← fullName s v
    .error (.notSequence (v.className s.hierarchy))

def listingEntries (listing : List (String × List Literal)) : Run (List (String × List Value)) :=
  listing.mapM fun e => do return (e.1, ← Literal.values e.2)

def typeTreeAnswer (type : Literal) (depth : Int)
    (listing : Option (List (String × List Literal))) : Run Answer := do
  let v ← type.value
  let lines ←
    match listing with
    | none => do subclassTree (← get) depth v
    | some listing => do
      let entries ← listingEntries listing
      listedTree (← get) entries depth v
  return Answer.texts (lines.foldl Console.Output.printUnwrapped {}).lines

def resolveTargetAnswer (target : String) : Run Answer := do
  let s ← get
  s.report (← s.resolver.target target)

def resolveClassAnswer (target : String) : Run Answer := do
  let s ← get
  s.report (.cls (← s.resolver.classTarget target))

def resolveModuleAnswer (target : String) : Run Answer := do
  let s ← get
  s.report (.module (← s.resolver.moduleTarget target))

def parseSignatureAnswer (text : String) : Run Answer := do
  let s ← get
  return .text (signatureText s.view (← s.resolver.parseSignature text))

/-- how a command line ended -/
def commandAnswer (code : Answer) (out stdout : List String) (mistake : Option String) : Answer :=
  .record [("code", code), ("out", Answer.texts out), ("stdout", Answer.texts stdout),
    ("usage_error", .ofOption (mistake.map Answer.text))]

/-- the program ended before a command ran -/
def stopAnswer (code : Int) (stdout : List String) (mistake : Option String) : Answer :=
  commandAnswer (.tagged "exit" (.int code)) [] stdout mistake

def lastLine (text : String) : String := ((text.splitOn "\n").getLast?).getD ""

def runCommand (argv : List String) (settingsFile : String) : Run Answer := do
  match Invocation.of argv with
  | .error .help => return stopAnswer 0 [] none
  | .error .version =>
    return stopAnswer 0 [CommandLine.programName ++ " " ++ CommandLine.programVersion] none
  | .error (.usage program message) =>
    return stopAnswer 2 [] (some (lastLine (program ++ ": error: " ++ message)))
  | .ok invocation => do
    let ending ← ((← get).scene settingsFile.toUTF8.toList).invoke invocation
    noteRead ending.read
    return commandAnswer (.int ending.code) ending.output.lines [] none

end Introspect
