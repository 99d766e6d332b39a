import Introspect.Fault
import Introspect.Hierarchy.Builtin
import Introspect.Value.Basic

/-!
# What kind of value a value is

* `Value.classOf`       the class of a value, which is what dispatch looks at;
* `BindingKind`         class or annotation, module, other callable, or plain value;
* `Value.bindingKind`   the kind of a bound value;
* `Value.isImmutable`   whether the value itself cannot change, whatever it holds.
-/

namespace Introspect

inductive BindingKind where
  | type
  | callable
  | module
  | plain
  deriving DecidableEq, Repr

def BindingKind.word : BindingKind → String
  | .type => "type"
  | .callable => "callable"
  | .module => "namespace"
  | .plain => "plain_value"

namespace Value

def typingClass (form : TypingForm) (args : List Value) : ClassId :=
  if args.isEmpty then
    match form with
    | .list => .bareAlias
    | _ => .specialForm
  else
    match form with
    | .optional | .union => .unionAlias
    | .annotated => .annotatedAlias
    | .literal => .literalAlias
    | _ => .typingAlias

/-- the class of a class -/
def metaclass (h : Hierarchy) (c : ClassId) : ClassId :=
  match (h.info c).family with
  | .plain => .type
  | .abstract => .abstractMaker
  | .made maker => if maker = "EnumType" then .enumMaker else .modelMaker

def classOf (h : Hierarchy) : Value → ClassId
  | .none => .noneType
  | .ellipsis => .ellipsisType
  | .notImplemented => .notImplementedType
  | .bool _ => .bool
  | .int _ => .int
  | .float _ => .float
  | .complex .. => .complex
  | .decimal _ => .decimal
  | .fraction _ => .fraction
  | .str _ => .str
  | .bytes _ => .bytes
  | .bytearray _ => .bytearray
  | .list _ => .list
  | .tuple _ => .tuple
  | .set _ => .set
  | .frozenset _ => .frozenset
  | .dict _ => .dict
  | .range .. => .range
  | .cls c => metaclass h c
  | .instanceOf c _ => c
  | .union _ => .unionType
  | .applied .. => .genericAlias
  | .typing form args => typingClass form args
  | .forwardRef _ => .forwardRef
  | .forwardHolder _ => .simpleNamespace
  | .builtin _ => .builtinFunction
  | .generic _ => .genericFunction
  | .method _ => .methodDefinition
  | .table _ => .methodTable
  | .variant _ => .compiledVariant
  | .module _ => .moduleType

def className (h : Hierarchy) (v : Value) : String := h.className (v.classOf h)

/-- whether a value is an instance of a class, as its resolution order tells -/
def isInstance (h : Hierarchy) (v : Value) (c : ClassId) : Bool := h.inherits (v.classOf h) c

def refuses (h : Hierarchy) (v : Value) : Bool := h.someTrait (v.classOf h) Traits.refuses

/-- whether a value has an origin, as annotations with arguments do -/
def hasOrigin : Value → Bool
  | .union _ | .applied .. => true
  | .typing form args => !args.isEmpty || form == .list
  | _ => false

def bindingKind (h : Hierarchy) (v : Value) : Except Fault BindingKind :=
  if v.refuses h then .error .refused
  else if v.isInstance h .type || v.isInstance h .typeVar || v.hasOrigin then .ok .type
  else if v.isInstance h .moduleType then .ok .module
  else if h.someTrait (v.classOf h) Traits.callable then .ok .callable
  else .ok .plain

/-- the classes whose instances never change -/
def immutableClasses : List ClassId :=
  [.int, .float, .complex, .str, .bytes, .bool, .noneType, .ellipsisType, .notImplementedType,
    .tuple, .frozenset, .range, .decimal, .fraction, .enum]

def isImmutable (h : Hierarchy) (v : Value) : Except Fault Bool :=
  if v.refuses h then .error .refused
  else if immutableClasses.any (v.isInstance h) then .ok true
  else
    match h.recordKind (v.classOf h) with
    | .none => .ok false
    | .fields (some frozen) => .ok frozen
    | .fields Option.none => .error (.noAttribute (v.className h) "__dataclass_params__")
    | .model frozen => .ok frozen

def frozenRecord : RecordKind → Bool
  | .fields (some frozen) => frozen
  | .model frozen => frozen
  | _ => false

mutual

/-- the class that keeps a value from being a key, if there is one -/
def unhashable? (h : Hierarchy) : Value → Option String
  | .list _ => some "list"
  | .dict _ => some "dict"
  | .set _ => some "set"
  | .bytearray _ => some "bytearray"
  | .tuple vs => anyUnhashable? h vs
  | .instanceOf c _ =>
    if h.someTrait c Traits.unhashable && !frozenRecord (h.recordKind c) then some (h.className c)
    else Option.none
  | .forwardHolder _ => some "types.SimpleNamespace"
  | _ => Option.none
termination_by structural v => v

def anyUnhashable? (h : Hierarchy) : List Value → Option String
  | [] => Option.none
  | v :: vs => (v.unhashable? h).orElse fun _ => anyUnhashable? h vs
termination_by structural vs => vs

end

/-- the fault of using an unhashable value as a key -/
def requireHashable (h : Hierarchy) (v : Value) : Except Fault Unit :=
  match v.unhashable? h with
  | some owner => .error (.unhashable owner)
  | Option.none => .ok ()

/-- the fault of using an unhashable value of several as a key -/
def requireKeys (h : Hierarchy) (vs : List Value) : Except Fault Unit :=
  match anyUnhashable? h vs with
  | some owner => .error (.unhashable owner)
  | Option.none => .ok ()

end Value

end Introspect
