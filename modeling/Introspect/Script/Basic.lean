import Introspect.Fault
import Introspect.Numeric.Written
import Introspect.Value.Basic

/-!
# Scripts and requests

The bodies of functions are small scripts.  A script may make any request of the session that runs
it, so both are defined together; they are plain data here.

* `Literal`    how a value is written, before the things it names are looked up;
* `Parameter`  a parameter of a function, with its annotation and default still literals;
* `Script`     what a function does when it is called;
* `Request`    what a session can be asked.
-/

namespace Introspect

inductive Literal where
  | none
  | bool (b : Bool)
  | int (n : Int)
  | float (x : Float)
  | str (s : String)
  | list (items : List Literal)
  | tuple (items : List Literal)
  | set (items : List Literal)
  | frozenset (items : List Literal)
  | dict (entries : List (Literal × Literal))
  | bytes (text : String)
  | bytearray (text : String)
  | range (start stop step : Int)
  | complex (re im : Float)
  | floatText (text : String)
  | decimal (text : String)
  | fraction (num den : Int)
  /-- a class by its name -/
  | className (name : String)
  /-- a new instance of a class -/
  | newInstance (of : Literal)
  | generic (f : String)
  | module (id : String)
  | union (members : List Literal)
  | applied (origin : Literal) (args : List Literal)
  /-- a sample record, or its class -/
  | dataclass (frozen derived callable asClass : Bool)
  /-- a sample validated record, or its class -/
  | model (frozen : Option Bool) (derived asClass : Bool)
  /-- a sample value by its name -/
  | sample (name : String)
  | final (of : Option Literal)
  | forward (text : String)
  | forwardArg (of : Literal)
  | optional (of : Literal)
  | classVar (of : Literal)
  | annotated (of : Literal)
  /-- nothing that could be written -/
  | unknown (form : String)
  deriving Inhabited

/-- how a parameter takes its arguments -/
inductive ParameterKind where
  | positionalOnly
  | positional
  | variadic
  | keywordOnly
  | keywordRest
  deriving DecidableEq, Repr

structure Parameter (α : Type) where
  name : String
  kind : ParameterKind
  hint : Option α
  default : Option α

/-- how variants are read from a method -/
inductive ReaderChoice where
  /-- the reader of the version at hand -/
  | standard
  | slots
  | linked
  /-- the reader of a version -/
  | version (v : Literal)
  /-- a reader that fails, for every method or for those of one required signature -/
  | failing (kind : FaultKind) (only : Option (List Literal))

/-- a variant by its function, the place of its method, and its types -/
structure VariantRef where
  function : String
  method : Int
  types : List Literal

/-- an element of an interleaved edge list -/
inductive EdgeItem where
  | signature (types : List Literal)
  | variant (v : VariantRef)
  | value (l : Literal)

/-- what can be asked about a method -/
inductive MethodQuery where
  | key
  | parameterTypes (arity : Int)
  | isApplicable (types : List Literal)
  | couldMatch (types : List Literal)
  | isMoreSpecific (other : Int) (function : Option String) (arity : Option Int)
  | variantFor (types : List Literal)

/-- how the inside of a function can be damaged -/
inductive Damage where
  | tableMissing
  | edges (replacement : Literal)
  | edgesMissing
  | storage (method : Int) (replacement : Literal)
  | storageMissing (method : Int)
  | variantEdges (v : VariantRef) (replacement : Literal)
  | chain (method : Int) (v : VariantRef) (replacement : Literal)

/-- settings that are given explicitly, by their keys -/
abbrev GivenSettings := List (String × Value)

/-- how the constness of names is looked up, in place of the usual way -/
inductive LookupChoice where
  | unknown
  | failing
  | fixed (const absent : List String)

/-- the two filters of an enumeration and the settings it runs under -/
structure Enumeration where
  constness : Literal
  mutability : Literal
  settings : Option GivenSettings
  lookup : Option LookupChoice

/-- the flags of a walk; an open one is taken from the settings -/
structure WalkFlags where
  foundational : Option Bool
  imported : Option Bool

/-- what can be asked about a class -/
inductive TypeQuery where
  | typeName
  | supertype
  | supertypes
  | subtypes
  deriving DecidableEq, Repr

mutual

inductive Script where
  | list (items : List Script)
  | literal (l : Literal)
  | parameter (name : String)
  | call (f : String) (args : List Script) (named : List (String × Script))
  | spread (f : String) (args : Script)
  | add (a b : Script)
  | sub (a b : Script)
  | mul (a b : Script)
  | exceeds (a b : Script)
  | cond (c a b : Script)
  /-- the second script if the first one fails -/
  | attempt (a b : Script)
  | raise (text : String)
  | className (a : Script)
  | step (r : Request)
  /-- a form without a meaning -/
  | unknown (form : String)

inductive Request where
  | newFunction (f name : String) (layout : Option Literal)
  | newGeneric (f name : String) (params : List (Parameter Literal)) (body : Script)
      (doc : Option String) (layout : Option Literal)
  | register (f : String) (signature : Option (List Literal)) (params : List (Parameter Literal))
      (body : Script)
  | call (f : String) (args : List Literal) (named : List (String × Literal))
  | methods (f : String) (signature : Option (List Literal))
  | resolve (f : String) (types : List Literal)
  | describe (f : String)
  | formatSignature (types : List Literal)
  | method (f : String) (index : Int) (query : MethodQuery)
  | state (f : String)
  | specializations (target : Literal) (signature : Option (List Literal)) (reader : ReaderChoice)
  | methodSpecializations (f : String) (index : Int)
  | view (f : String) (index : Int) (id : String) (reader : ReaderChoice)
  | iterateView (id : String)
  | backedges (target : Literal) (reader : ReaderChoice)
  | setEdges (f : String) (edges : List EdgeItem)
  | addEdge (f : String) (signature : List Literal) (dependent : VariantRef)
  | addVariantEdge (owner dependent : VariantRef)
  | damage (f : String) (what : Damage)
  | bindName (m : Literal) (name : String) (value : Literal)
  | unbindName (m : Literal) (name : String)
  | annotateName (m : Literal) (name : String) (hint : Literal)
  | setAnnotations (m : Literal) (value : Literal)
  | isGlobal (m : Literal) (name : String) (e : Enumeration)
  | globalNames (m : Literal) (e : Enumeration)
  | globalValues (m : Literal) (e : Enumeration)
  | objects (m : Literal)
  | functionNames (m : Literal) (settings : Option GivenSettings)
  | functions (m : Literal) (settings : Option GivenSettings)
  | lookupBindings (m : Literal) (names : List String) (via : Option Literal)
  | bindingKind (value : Literal)
  | isImmutable (value : Literal)
  | children (m : Literal) (flags : WalkFlags) (settings : Option GivenSettings)
  | descendants (m : Literal) (flags : WalkFlags) (settings : Option GivenSettings)
  | submodules (m : Literal) (recursive base imported : Bool)
  | isSubmodule (m : Literal) (name : String)
  | isFoundational (m : Literal) (settings : Option GivenSettings)
  | inventoryNames (m : Literal) (e : Enumeration) (imported : Option Bool)
  | inventoryValues (m : Literal) (e : Enumeration) (imported : Option Bool)
  | typeQuery (q : TypeQuery) (value : Literal)
  | typeTree (type : Literal) (depth : Int) (listing : Option (List (String × List Literal)))
  | resolveTarget (target : String)
  | resolveType (target : String)
  | resolveModule (target : String)
  | parseSignature (text : String)
  | command (argv : List String) (settingsFile : String)
  | unknown (form : String)

end

instance : Inhabited Script := ⟨.list []⟩

instance : Inhabited Request := ⟨.unknown ""⟩

end Introspect
