import Introspect.Numeric.Written
import Introspect.Session.Basic

/-!
# The values of literals

* `freshInstance`       a new instance of a class;
* `Session.construct`   a class called without arguments;
* `sampleValue`         the sample values by their names;
* `Literal.value`       the value of a literal, the things that it names looked up in the session.
-/

namespace Introspect

def freshInstance (c : ClassId) : Run Value := fun s =>
  (.ok (.instanceOf c s.serial), { s with serial := s.serial + 1 })

def construct (v : Value) : Run Value := do
  let h := (← get).hierarchy
  match v with
  | .cls c =>
    match Value.emptyOf c with
    | some v => return v
    | none =>
      let data := (h.mro c).any fun d => (Value.emptyOf d).isSome
      if h.someTrait c Traits.needsArguments && !data then throw (.badClass (h.className c))
      else freshInstance c
  | v => throw (.badOperands "call" (v.className h) "")

/-- the sample values that are instances of a class, by their names -/
def sampleInstances : List (String × ClassId) := [
  ("date", .date), ("slice", .slice), ("deque", .deque), ("memoryview", .memoryview),
  ("ordereddict", .orderedDict), ("object", .object), ("namespace", .simpleNamespace),
  ("mappingproxy", .mappingProxy), ("callable", .callableSample),
  ("fake_dataclass", .recordLookalike), ("hostile", .hostileSample), ("lambda", .function),
  ("partial", .partialCall), ("method", .builtinFunction), ("typevar", .typeVar),
  ("newtype", .newType), ("generator", .generator), ("property", .property),
  ("staticmethod", .staticMethod)]

/-- the sample values that there is one of, by their names -/
def sampleConstants : List (String × Value) := [
  ("enum", .instanceOf .colorSample 0), ("intenum", .instanceOf .numberSample 0),
  ("flag", .instanceOf .flagSample 0), ("namedtuple", .instanceOf .pointSample 0),
  ("len", .builtin "len"), ("ellipsis", .ellipsis), ("notimplemented", .notImplemented),
  ("final_form", .typing .final []), ("optional_int", .typing .optional [.cls .int]),
  ("typing_list", .typing .list []), ("typing_list_int", .typing .list [.cls .int]),
  ("literal", .typing .literal [.int 1]), ("enum_class", .cls .colorSample),
  ("abc_class", .cls .number)]

def sampleValue (name : String) : Run Value :=
  match sampleConstants.lookup name, sampleInstances.lookup name with
  | some v, _ => return v
  | none, some c => freshInstance c
  | none, none => throw (.noKey (Text.quoted name))

def recordClass (frozen derived callable : Bool) : ClassId :=
  match frozen, callable, derived with
  | true, false, false => .recordFrozen
  | true, true, false => .recordFrozenCallable
  | false, false, false => .recordOpen
  | false, true, false => .recordOpenCallable
  | true, false, true => .recordFrozenDerived
  | true, true, true => .recordFrozenCallableDerived
  | false, false, true => .recordOpenDerived
  | false, true, true => .recordOpenCallableDerived

/-- the class of sample validated records -/
def modelClass (frozen : Option Bool) (derived : Bool) : ClassId :=
  match frozen, derived with
  | some true, false => .modelFrozen
  | some false, false => .modelOpen
  | none, false => .modelDefault
  | some true, true => .modelFrozenDerived
  | some false, true => .modelOpenDerived
  | none, true => .modelDefaultDerived

/-- a class, or an instance of it; all instances of sample records are equal -/
def classOrInstance (c : ClassId) (asClass : Bool) : Value :=
  if asClass then .cls c else .instanceOf c 0

def latinBytes (text : String) : List UInt8 := text.toList.map fun c => c.toNat.toUInt8

/-- alternatives of several types, which all have to be such that they may be one -/
def unionOf (h : Hierarchy) (vs : List Value) : Except Fault Value :=
  match vs.find? fun v => !isAlternative v with
  | some v => .error (.badOperands "|" (v.className h) (v.className h))
  | none => .ok (alternatives vs)

/-- a form with one argument; nothing as an argument stands for its class -/
def formOf (form : TypingForm) (v : Value) : Value :=
  match v with
  | .none => .typing form [.cls .noneType]
  | v => .typing form [v]

mutual

def Literal.value : Literal → Run Value
  | .none => return .none
  | .bool b => return .bool b
  | .int n => return .int n
  | .float x => return .float x
  | .str s => return .str s
  | .list ls => return .list (← Literal.values ls)
  | .tuple ls => return .tuple (← Literal.values ls)
  | .set ls => do
    let vs ← Literal.values ls
    let h := (← get).hierarchy
    Value.requireKeys h vs
    return .set (Value.distinct vs)
  | .frozenset ls => do
    let vs ← Literal.values ls
    let h := (← get).hierarchy
    Value.requireKeys h vs
    return .frozenset (Value.distinct vs)
  | .dict es => do
    let vs ← Literal.entries es
    let h := (← get).hierarchy
    Value.requireKeys h (vs.map Prod.fst)
    return .dict (vs.foldl (fun es e => Value.insert e.1 e.2 es) [])
  | .bytes text => return .bytes (latinBytes text)
  | .bytearray text => return .bytearray (latinBytes text)
  | .range a b c => if c = 0 then throw (.badText "range") else return .range a b c
  | .complex x y => return .complex x y
  | .floatText text =>
    match Numeric.readFloat text with
    | some x => return .float x
    | Option.none => throw (.badText text)
  | .decimal text =>
    match Numeric.Decimal.ofText? text with
    | some d => return .decimal d
    | Option.none => throw (.noResult text)
  | .fraction n d => return .fraction ((n : Rat) / (d : Rat))
  | .className name => do
    let s ← get
    return .cls (← Session.find (s.declared ++ standardClassNames) name)
  | .newInstance l => do construct (← l.value)
  | .generic f => do return .generic (← Session.find (← get).functions f)
  | .module id => do return .module (← Session.find (← get).moduleIds id)
  | .union ls => do
    let vs ← Literal.values ls
    unionOf (← get).hierarchy vs
  | .applied l ls => do
    let base ← l.value
    let args ← Literal.values ls
    subscripted (← get).hierarchy base args
  | .dataclass frozen derived callable asClass =>
    return classOrInstance (recordClass frozen derived callable) asClass
  | .model frozen derived asClass => return classOrInstance (modelClass frozen derived) asClass
  | .sample name => sampleValue name
  | .final Option.none => return .typing .final []
  | .final (some l) => return formOf .final (← l.value)
  | .forward text => return .forwardRef text
  | .forwardArg l => return .forwardHolder (← l.value)
  | .optional l => do
    match ← l.value with
    | .none | .cls .noneType => return .cls .noneType
    | v => return .typing .optional [v]
  | .classVar l => return formOf .classVar (← l.value)
  | .annotated l => return formOf .annotated (← l.value)
  | .unknown form => throw (.noKey (Text.quoted form))
termination_by structural l => l

def Literal.values : List Literal → Run (List Value)
  | [] => return []
  | l :: ls => do
    let v ← l.value
    return v :: (← Literal.values ls)
termination_by structural ls => ls

def Literal.entries : List (Literal × Literal) → Run (List (Value × Value))
  | [] => return []
  | (k, l) :: es => do
    let key ← k.value
    let v ← l.value
    return (key, v) :: (← Literal.entries es)
termination_by structural es => es

end

def Literal.value? : Option Literal → Run (Option Value)
  | Option.none => return Option.none
  | some l => return some (← l.value)

def Literal.namedValues (ls : List (String × Literal)) : Run (List (String × Value)) :=
  ls.mapM fun e => do return (e.1, ← e.2.value)

end Introspect
