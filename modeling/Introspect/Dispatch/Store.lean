import Introspect.Dispatch.Layout
import Introspect.Script.Basic
import Introspect.Storage.Chain
import Introspect.Storage.SlotKey
import Introspect.Value.Display

/-!
# The store of functions, methods and variants

* `Facade`      the parameters and annotations that an implementation shows of itself;
* `Method`      one implementation of a function: declared types, body, and its compiled variants;
* `Variant`     a method made ready for one tuple of types, with the variants that depend on it;
* `Table`       the methods of a function and the dependents on its dispatch, as one interleaved
                list `[types, dependent, types, dependent, …]`;
* `Function`    a name, a layout for new methods, and a table;
* `Dispatch`    what a call found: its method, and the variant for its types;
* `Event`       a call that begins to be executed, or the end of the innermost one;
* `Store`       all of these, and the variant that is being executed.
-/

namespace Introspect

/-- what an implementation shows to those who ask for its signature; one that wraps another may show
the parameters and annotations of that -/
structure Facade where
  params : List (Parameter Value)
  /-- annotations by the names of parameters, and others -/
  annotations : List (String × Value)

/-- what a function does: its parameters and its body -/
structure Implementation where
  params : List (Parameter Value)
  body : Script
  /-- what it shows of itself, when that is something else than its own parameters -/
  facade : Option Facade := none

instance : Inhabited Implementation := ⟨{ params := [], body := .list [] }⟩

/-- parameters with their own annotations -/
def Facade.ofParameters (params : List (Parameter Value)) : Facade where
  params
  annotations := params.filterMap fun p => p.hint.map (p.name, ·)

def Implementation.shown (i : Implementation) : Facade := i.facade.getD (.ofParameters i.params)

/-- where a method keeps its variants; a variant is a place in the store -/
inductive Storage where
  | slots (t : ProbeTable Signature Nat)
  | chain (c : Chain Nat)
  | missing

/-- the storage of a new method -/
def Storage.empty : Layout → Storage
  | .slots => .slots (.empty 4)
  | .linked => .chain .empty

structure Method where
  function : Nat
  /-- the types of the required parameters -/
  required : Signature
  /-- the types of the parameters with a default -/
  optional : Signature
  /-- the type of further arguments, if there may be any -/
  variadic : Option Value
  implementation : Implementation
  layout : Layout
  storage : Storage

instance : Inhabited Method := ⟨⟨0, [], [], none, default, .slots, .missing⟩⟩

/-- a list of edges: kept, replaced by a value that is no list, or not there -/
inductive Edges where
  | held (items : List Value)
  | replaced (v : Value)
  | missing
  deriving Inhabited

structure Variant where
  method : Nat
  types : Signature
  dependents : Edges
  deriving Inhabited

structure Table where
  methods : List Nat
  edges : Edges
  deriving Inhabited

structure Function where
  name : String
  doc : Option String
  /-- the module in which it was defined, where that is known -/
  home : Option String
  layout : Layout
  table : Option Table
  deriving Inhabited

structure Dispatch where
  function : Nat
  /-- the classes of the arguments -/
  types : List ClassId
  method : Nat
  variant : Nat
  deriving DecidableEq, Repr

inductive Event where
  /-- a call that found its method and variant begins -/
  | entered (d : Dispatch)
  /-- the call that began last among those that did not end has ended -/
  | left
  deriving DecidableEq, Repr

structure Store where
  functions : Array Function
  methods : Array Method
  variants : Array Variant
  /-- the variant that is being executed -/
  active : Option Nat
  /-- what happened so far, the newest first; no call depends on it -/
  journal : List Event

namespace Store

/-- the store without functions -/
def empty : Store := ⟨#[], #[], #[], none, []⟩

def function (s : Store) (f : Nat) : Function := s.functions.getD f default

def method (s : Store) (m : Nat) : Method := s.methods.getD m default

def variant (s : Store) (v : Nat) : Variant := s.variants.getD v default

def modifyFunction (s : Store) (f : Nat) (g : Function → Function) : Store :=
  { s with functions := s.functions.modify f g }

def modifyMethod (s : Store) (m : Nat) (g : Method → Method) : Store :=
  { s with methods := s.methods.modify m g }

def modifyVariant (s : Store) (v : Nat) (g : Variant → Variant) : Store :=
  { s with variants := s.variants.modify v g }

/-- the table of a function changed -/
def modifyTable (s : Store) (f : Nat) (g : Table → Table) : Store :=
  s.modifyFunction f fun fn => { fn with table := fn.table.map g }

/-- the table of a function, unless it was taken away -/
def table? (s : Store) (f : Nat) : Except Fault Table :=
  match (s.function f).table with
  | some t => .ok t
  | none => .error (.noAttribute "GenericFunction" "table")

def addFunction (s : Store) (fn : Function) : Store × Nat :=
  ({ s with functions := s.functions.push fn }, s.functions.size)

end Store

namespace Method

/-- the types of the first `arity` parameters, if so many arguments fit -/
def parameterTypes (m : Method) (arity : Nat) : Option Signature :=
  let declared := m.required ++ m.optional
  if arity < m.required.length then none
  else if arity ≤ declared.length then some (declared.take arity)
  else m.variadic.map fun t => declared ++ List.replicate (arity - declared.length) t

/-- the display of a method of a function of the given name -/
def text (s : Surroundings) (name : String) (m : Method) : String :=
  let label := Value.typeLabel s
  name ++ "(" ++ ", ".intercalate
    (m.required.map label ++ m.optional.map (fun t => "[" ++ label t ++ "]")
      ++ (m.variadic.map fun t => "*" ++ label t).toList) ++ ")"

/-- whether two methods declare the same parameters; a table holds one of each -/
def sameKey (m n : Method) : Bool :=
  m.required == n.required && m.optional == n.optional && m.variadic == n.variadic

end Method

namespace Store

/-- the display of a function with its number of methods -/
def functionText (s : Store) (f : Nat) : String :=
  let fn := s.function f
  let n := (fn.table.map fun t => t.methods.length).getD 0
  "<generic function " ++ fn.name ++ " with " ++ toString n ++ " method"
    ++ (if n = 1 then "" else "s") ++ ">"

/-- the display of the parts of functions; `types` shows the values in signatures -/
def referenceText (s : Store) (types : Surroundings) : Value → String
  | .generic f => s.functionText f
  | .method m => (s.method m).text types (s.function (s.method m).function).name
  | .table f => "MethodTable(" ++ Text.quoted (s.function f).name ++ ")"
  | .variant v =>
    let i := s.variant v
    "CompiledVariant for " ++ (s.function (s.method i.method).function).name
      ++ signatureText types i.types
  | _ => ""

end Store

end Introspect
