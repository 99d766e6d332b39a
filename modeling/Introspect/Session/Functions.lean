import Introspect.Session.Call
import Introspect.Vocabulary

/-!
# Requests about functions

* `newFunction`, `newGeneric`, `register`   make functions and methods;
* `callFunction`                            calls one and reports the result;
* `listed`                                  the order of variants in listings: variants in slots are
                                            listed by their display, a run of one method at a time;
* `functionState`                           everything that a function keeps;
* `listSpecializations`, `listBackedges`    what inspections say of a function;
* `damage`                                  replaces or removes a part of a function.
-/

namespace Introspect

def functionNamed (f : String) : Run Nat := do Session.find (← get).functions f

/-- an answer that depends on how values are shown -/
def shown (text : Surroundings → String) : Run Answer := do
  return .text (text (← get).view)

def shownAll (vs : List Value) : Run Answer := do
  return Answer.texts (vs.map (Value.display (← get).view))

def changeStore (change : Store → Store) : Run Unit :=
  modify fun s => { s with store := change s.store }

/-- a layout by its word; the current one, if none is given -/
def readLayout : Option Literal → Run Layout
  | none => do Layout.ofVersion (← get).hierarchy Layout.currentVersion
  | some l => do
    let v ← l.value
    Layout.vocabulary.read (← get).view v

/-- a new function without methods, under the name `f` -/
def addFunction (f : String) (fn : Function) : Run Nat := do
  let s ← get
  let (store, i) := s.store.addFunction fn
  set { s with store, functions := (f, i) :: s.functions }
  return i

def newFunction (f name : String) (layout : Option Literal) : Run Answer := do
  let layout ← readLayout layout
  let table : Table := ⟨[], .held []⟩
  let i ← addFunction f { name, doc := none, home := none, layout, table }
  return Answer.texts [(Value.generic i).display (← get).view, layout.word]

/-- parameters with their annotations and defaults evaluated -/
def evaluateParameters (params : List (Parameter Literal)) : Run (List (Parameter Value)) :=
  params.mapM fun p => do
    let hint ← Literal.value? p.hint
    let default ← Literal.value? p.default
    return { name := p.name, kind := p.kind, hint, default }

/-- a method without variants, for the given types or for those of the parameters -/
def newMethod (s : Session) (f : Nat) (signature : Option Signature)
    (implementation : Implementation) : Method :=
  let declared : DeclaredTypes :=
    match signature with
    | some types => ⟨types, [], none⟩
    | none => .ofFacade s.interpreter s.hierarchy s.scope implementation.shown
  let layout := (s.store.function f).layout
  { function := f, required := declared.required, optional := declared.optional
    variadic := declared.variadic, implementation, layout, storage := .empty layout }

/-- one more method of a function -/
def addMethod (f : Nat) (signature : Option Signature) (implementation : Implementation) :
    Run Nat := do
  let s ← get
  let (store, m) ← s.store.register (newMethod s f signature implementation)
  set { s with store }
  return m

def definingModule : String := "lgm"

def newGeneric (f name : String) (params : List (Parameter Literal)) (body : Script)
    (doc : Option String) (layout : Option Literal) : Run Answer := do
  let params ← evaluateParameters params
  let layout ← readLayout layout
  let table : Table := ⟨[], .held []⟩
  let i ← addFunction f { name, doc, home := some definingModule, layout, table }
  let m ← addMethod i none { params, body }
  let view := (← get).view
  return .list [.text ((Value.generic i).display view), .text ((Value.method m).display view),
    .text name, .text name, .text definingModule, .ofOption (doc.map Answer.text),
    .text layout.word]

/-- the displays of the methods of a function -/
def methodTexts (f : Nat) (filter : Option Signature) : Run Answer := do
  let s ← get
  shownAll ((← s.store.methodsOf s.hierarchy f filter).map Value.method)

/-- the types of a signature that may be missing -/
def signatureValues : Option (List Literal) → Run (Option Signature)
  | none => return none
  | some ls => return some (← Literal.values ls)

def register (f : String) (signature : Option (List Literal)) (params : List (Parameter Literal))
    (body : Script) : Run Answer := do
  let f ← functionNamed f
  let params ← evaluateParameters params
  let signature ← signatureValues signature
  let _ ← addMethod f signature { params, body }
  return .list [.bool true, ← methodTexts f none]

def callFunction (call : Caller) (f : String) (args : List Literal)
    (named : List (String × Literal)) : Run Answer := do
  let f ← functionNamed f
  let vs ← Literal.values args
  let ns ← Literal.namedValues named
  let v ← call f vs ns
  (← get).report v

/-- the method that a call with the given types chooses -/
def resolveMethod (f : String) (types : List Literal) : Run Answer := do
  let f ← functionNamed f
  let types ← Literal.values types
  let s ← get
  let m ← s.store.resolve s.view f types
  shown (Value.display · (.method m))

/-- the displays of a function and of its table, and its name -/
def describeFunction (f : String) : Run Answer := do
  let f ← functionNamed f
  let s ← get
  let _ ← s.store.table? f
  return Answer.texts [(Value.generic f).display s.view, (Value.table f).display s.view,
    (s.store.function f).name]

/-- the place of an index in a list of a length; a negative index counts from the end -/
def placeOf (length : Nat) (index : Int) : Nat :=
  (if index < 0 then index + length else index).toNat

/-- an element by its index, which counts from the end when it is negative -/
def elementAt {α : Type} (xs : List α) (index : Int) : Except Fault α :=
  if index + xs.length < 0 then .error .outOfRange
  else (xs[placeOf xs.length index]?).elim (.error .outOfRange) .ok

/-- a method by its index in the table of a function -/
def methodAt (f : Nat) (index : Int) : Run Nat := do
  let t ← (← get).store.table? f
  elementAt t.methods index

/-- a variant by its function, the index of its method and its types; it is made if need be -/
def variantOf (v : VariantRef) : Run Nat := do
  let m ← methodAt (← functionNamed v.function) v.method
  let types ← Literal.values v.types
  Store.within (Store.variantFor (← get).hierarchy m types)

/-- an answer to a question about a method -/
def queryMethod (f : String) (index : Int) (query : MethodQuery) : Run Answer := do
  let f ← functionNamed f
  let m ← methodAt f index
  let s ← get
  let i := s.store.method m
  match query with
  | .key =>
    return .list [.text (signatureText s.view i.required), .text (signatureText s.view i.optional),
      .ofOption (i.variadic.map fun t => .text (t.typeLabel s.view))]
  | .parameterTypes arity =>
    let types := arity.toNat?.bind i.parameterTypes
    return .ofOption (types.map fun sig => .text (signatureText s.view sig))
  | .isApplicable types => do
    return .bool (← i.isApplicable s.hierarchy (← Literal.values types))
  | .couldMatch types => do return .bool (← i.couldMatch s.hierarchy (← Literal.values types))
  | .isMoreSpecific other g arity => do
    let g ← (g.map functionNamed).getD (pure f)
    let o ← methodAt g other
    match arity.map Int.toNat? with
    | none => return .bool (← i.isMoreSpecific s.hierarchy (s.store.method o) none)
    | some (some n) => return .bool (← i.isMoreSpecific s.hierarchy (s.store.method o) (some n))
    | some none => return .bool false
  | .variantFor types => do
    let types ← Literal.values types
    let v ← Store.within (Store.variantFor s.hierarchy m types)
    (← get).report (.variant v)

/-- the order of variants in listings: those in slots by their display, a run of one method at a
time; those in a chain as they are -/
def listed (s : Session) (vs : List Nat) : List Nat :=
  let text (v : Nat) : String := (Value.variant v).display s.view
  let runs := vs.splitBy fun v w => (s.store.variant v).method == (s.store.variant w).method
  runs.flatMap fun run =>
    match run with
    | [] => []
    | v :: _ =>
      match (s.store.method (s.store.variant v).method).layout with
      | .slots => run.mergeSort (Scene.byText text)
      | .linked => run

/-- variants with their methods, each by its display -/
def ownedTexts (owned : List (Nat × Nat)) : Run Answer := do
  let s ← get
  return .list ((listed s (owned.map Prod.fst)).map fun v =>
    Answer.texts [(Value.variant v).display s.view,
      (Value.method ((owned.lookup v).getD 0)).display s.view])

def variantTexts (vs : List Nat) : Run Answer := do
  shownAll ((listed (← get) vs).map Value.variant)

/-- the way in which variants are read -/
def readerOf : ReaderChoice → Run VariantSource
  | .standard => do
    return (← Layout.ofVersionOrCurrent (← get).hierarchy Layout.currentVersion).source
  | .slots => return slotsSource
  | .linked => return linkedSource
  | .version l => do
    let v ← l.value
    return (← Layout.ofVersionOrCurrent (← get).hierarchy v).source
  | .failing kind none => return failingSource kind fun _ => true
  | .failing kind (some types) => do
    let types ← Literal.values types
    return failingSource kind fun m => m.required == types

def listSpecializations (target : Literal) (signature : Option (List Literal))
    (reader : ReaderChoice) : Run Answer := do
  let f ← target.value
  let source ← readerOf reader
  let filter ← signatureValues signature
  let s ← get
  ownedTexts (← (specializations s.store s.view source f filter).result)

def listMethodSpecializations (f : String) (index : Int) : Run Answer := do
  let m ← methodAt (← functionNamed f) index
  let source ← readerOf .standard
  let s ← get
  variantTexts (← (collectVariants s.store s.view source m).result)

def keepView (f : String) (index : Int) (id : String) (reader : ReaderChoice) : Run Answer := do
  let source ← readerOf reader
  let m ← methodAt (← functionNamed f) index
  let v : VariantView := ⟨source, m⟩
  modify fun s => { s with views := (id, v) :: s.views }
  shown v.display

/-- the variants that a view shows now -/
def iterateView (id : String) : Run Answer := do
  let s ← get
  let v ← Session.find s.views id
  variantTexts (← v.variants s.store s.hierarchy)

def edgeKeyAnswer (s : Session) : EdgeKey → Except Fault Answer
  | .variant v => s.report (.variant v)
  | .table f sig => do
    let shown ←
      match sig with
      | .tuple types => pure (Answer.text (signatureText s.view types))
      | v => s.report v
    return .record [("table", .text ((Value.table f).display s.view)), ("sig", shown)]

/-- dependents with what they depend on -/
def edgeAnswer (s : Session) (e : EdgeKey × List Value) : Except Fault Answer := do
  return .list [← edgeKeyAnswer s e.1, ← s.reports e.2]

/-- the edges on variants, in the order of listings, before those on tables -/
def listedEdges (s : Session) (edges : EdgeMap) : EdgeMap :=
  let onVariants := edges.filterMap fun e =>
    match e.1 with
    | .variant v => some (v, e.2)
    | .table .. => none
  let onTables := edges.filter fun e =>
    match e.1 with
    | .variant _ => false
    | .table .. => true
  (listed s (onVariants.map Prod.fst)).map (fun v =>
    (.variant v, (onVariants.lookup v).getD [])) ++ onTables

def listBackedges (target : Literal) (reader : ReaderChoice) : Run Answer := do
  let f ← target.value
  let source ← readerOf reader
  let s ← get
  let edges ← (backedges s.store s.view source f).result
  let answers ← liftExcept ((listedEdges s edges).mapM (edgeAnswer s))
  return .list answers
where
  /-- a result or a fault -/
  liftExcept {α : Type} (r : Except Fault α) : Run α := ExceptT.mk (pure r)

/-- the dependents of a variant, unless they cannot be read -/
def dependentsAnswer (s : Session) (v : Nat) : Except Fault Answer :=
  match (s.store.variant v).dependents with
  | .held items => s.reports items
  | .missing => .ok .null
  | .replaced old =>
    match old.items s.hierarchy with
    | .ok items => s.reports items
    | .error _ => .ok .null

def methodState (s : Session) (m : Nat) : Except Fault Answer := do
  let i := s.store.method m
  let y := i.layout.source s.hierarchy i
  let slots : Answer :=
    match i.layout, i.storage with
    | .slots, .slots t => .int t.size
    | _, _ => .null
  let variants ← (listed s y.variants).mapM fun v => do
    return .list [.text (signatureText s.view (s.store.variant v).types), ← dependentsAnswer s v]
  match y.stopped with
  | some e => .error e
  | none =>
    return .record [("method", .text ((Value.method m).display s.view)),
      ("layout", .text i.layout.word), ("slots", slots), ("variants", .list variants)]

/-- an element of the edges of a table: classes as a signature, anything else reported -/
def edgeElement (s : Session) (v : Value) : Except Fault Answer :=
  match v with
  | .tuple types =>
    if types.all isClass then .ok (.text (signatureText s.view types)) else s.report v
  | v => s.report v
where
  /-- whether a value is a class -/
  isClass : Value → Bool
    | .cls _ => true
    | _ => false

def tableState (s : Session) (t : Table) : Except Fault Answer :=
  match t.edges with
  | .held items => (items.mapM (edgeElement s)).map Answer.list
  | .replaced .none => .ok .null
  | .replaced v => do return .list (← (← v.items s.hierarchy).mapM (edgeElement s))
  | .missing => .error (.noAttribute "MethodTable" "backedges")

/-- everything that a function keeps -/
def stateAnswer (s : Session) (f : Nat) : Except Fault Answer := do
  let t ← s.store.table? f
  let methods ← t.methods.mapM (methodState s)
  return .record [("repr", .text ((Value.generic f).display s.view)),
    ("methods", .list methods), ("table", ← tableState s t)]

def functionState (f : String) : Run Answer := do
  let f ← functionNamed f
  stateAnswer (← get) f

def edgeValue : EdgeItem → Run Value
  | .signature types => do return .tuple (← Literal.values types)
  | .variant v => do return .variant (← variantOf v)
  | .value l => l.value

/-- edges that take the place of a list -/
def edgesOf : Value → Edges
  | .list items => .held items
  | v => .replaced v

def replaceEdges (f : Nat) (edges : Edges) : Run Unit := do
  let _ ← (← get).store.table? f
  changeStore fun s => s.modifyTable f fun t => { t with edges }

/-- replaces the edges of the table of a function -/
def setEdges (f : String) (items : List EdgeItem) : Run Answer := do
  let f ← functionNamed f
  let vs ← items.mapM edgeValue
  replaceEdges f (.held vs)
  return .null

/-- records a dependent on the dispatch of a function; the answer is the length of the list -/
def addEdge (f : String) (signature : List Literal) (dependent : VariantRef) : Run Answer := do
  let f ← functionNamed f
  let types ← Literal.values signature
  let v ← variantOf dependent
  Store.within (Store.addTableEdge (← get).hierarchy f types v)
  let s ← get
  return .int (← tableEdges s.store s.hierarchy (.generic f)).length

/-- records a dependent on a variant; the answer holds all of them -/
def addVariantEdge (owner dependent : VariantRef) : Run Answer := do
  let v ← variantOf owner
  let d ← variantOf dependent
  Store.within (Store.addDependent (← get).hierarchy v d)
  let s ← get
  s.reports (variantEdges s.store s.hierarchy v)

def replaceStorage (f : Nat) (index : Int) (storage : Storage) : Run Unit := do
  let m ← methodAt f index
  changeStore fun s => s.modifyMethod m fun i => { i with storage }

def damage (f : String) (what : Damage) : Run Answer := do
  let i ← functionNamed f
  match what with
  | .tableMissing =>
    let _ ← (← get).store.table? i
    changeStore fun s => s.modifyFunction i fun fn => { fn with table := none }
  | .edges l => replaceEdges i (edgesOf (← l.value))
  | .edgesMissing =>
    match (← (← get).store.table? i).edges with
    | .missing => throw (.noAttribute "MethodTable" "backedges")
    | _ => replaceEdges i .missing
  | .storage m l => replaceStorage i m (.chain ⟨[], .value (← l.value)⟩)
  | .storageMissing m =>
    match ((← get).store.method (← methodAt i m)).storage with
    | .missing => throw noStorage
    | _ => replaceStorage i m .missing
  | .variantEdges v l =>
    let v ← variantOf v
    let new ← l.value
    changeStore fun s => s.modifyVariant v fun i => { i with dependents := edgesOf new }
  | .chain m v l =>
    let v ← variantOf v
    let new ← l.value
    replaceStorage i m (.chain ⟨[([], v)], .value new⟩)
  return .null

end Introspect
