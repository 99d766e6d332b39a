import Introspect.Hierarchy.Declare

/-!
# The classes that are always there

* `ClassId.object`, `ClassId.int`, …   their places in every hierarchy;
* `builtinBlueprints`, `faultClasses`  what they are made from;
* `Hierarchy.base`                     the hierarchy that holds just them.
-/

namespace Introspect

namespace ClassId

@[match_pattern] def object : ClassId := ⟨0⟩
@[match_pattern] def type : ClassId := ⟨1⟩
@[match_pattern] def int : ClassId := ⟨2⟩
@[match_pattern] def bool : ClassId := ⟨3⟩
@[match_pattern] def float : ClassId := ⟨4⟩
@[match_pattern] def complex : ClassId := ⟨5⟩
@[match_pattern] def str : ClassId := ⟨6⟩
@[match_pattern] def bytes : ClassId := ⟨7⟩
@[match_pattern] def bytearray : ClassId := ⟨8⟩
@[match_pattern] def list : ClassId := ⟨9⟩
@[match_pattern] def dict : ClassId := ⟨10⟩
@[match_pattern] def tuple : ClassId := ⟨11⟩
@[match_pattern] def set : ClassId := ⟨12⟩
@[match_pattern] def frozenset : ClassId := ⟨13⟩
@[match_pattern] def range : ClassId := ⟨14⟩
@[match_pattern] def noneType : ClassId := ⟨15⟩
@[match_pattern] def ellipsisType : ClassId := ⟨16⟩
@[match_pattern] def notImplementedType : ClassId := ⟨17⟩
@[match_pattern] def orderedDict : ClassId := ⟨18⟩
@[match_pattern] def number : ClassId := ⟨19⟩
@[match_pattern] def complexNumber : ClassId := ⟨20⟩
@[match_pattern] def realNumber : ClassId := ⟨21⟩
@[match_pattern] def rationalNumber : ClassId := ⟨22⟩
@[match_pattern] def integralNumber : ClassId := ⟨23⟩
@[match_pattern] def decimal : ClassId := ⟨24⟩
@[match_pattern] def fraction : ClassId := ⟨25⟩
@[match_pattern] def enum : ClassId := ⟨26⟩
@[match_pattern] def reprEnum : ClassId := ⟨27⟩
@[match_pattern] def intEnum : ClassId := ⟨28⟩
@[match_pattern] def flag : ClassId := ⟨29⟩
@[match_pattern] def moduleType : ClassId := ⟨30⟩
@[match_pattern] def builtinFunction : ClassId := ⟨31⟩
@[match_pattern] def function : ClassId := ⟨32⟩
@[match_pattern] def boundMethod : ClassId := ⟨33⟩
@[match_pattern] def methodWrapper : ClassId := ⟨34⟩
@[match_pattern] def slotWrapper : ClassId := ⟨35⟩
@[match_pattern] def methodDescriptor : ClassId := ⟨36⟩
@[match_pattern] def classMethodDescriptor : ClassId := ⟨37⟩
@[match_pattern] def getSetDescriptor : ClassId := ⟨38⟩
@[match_pattern] def memberDescriptor : ClassId := ⟨39⟩
@[match_pattern] def property : ClassId := ⟨40⟩
@[match_pattern] def staticMethod : ClassId := ⟨41⟩
@[match_pattern] def classMethod : ClassId := ⟨42⟩
@[match_pattern] def generator : ClassId := ⟨43⟩
@[match_pattern] def slice : ClassId := ⟨44⟩
@[match_pattern] def memoryview : ClassId := ⟨45⟩
@[match_pattern] def mappingProxy : ClassId := ⟨46⟩
@[match_pattern] def genericAlias : ClassId := ⟨47⟩
@[match_pattern] def unionType : ClassId := ⟨48⟩
@[match_pattern] def typeVar : ClassId := ⟨49⟩
@[match_pattern] def forwardRef : ClassId := ⟨50⟩
@[match_pattern] def specialForm : ClassId := ⟨51⟩
@[match_pattern] def typingAlias : ClassId := ⟨52⟩
@[match_pattern] def unionAlias : ClassId := ⟨53⟩
@[match_pattern] def literalAlias : ClassId := ⟨54⟩
@[match_pattern] def annotatedAlias : ClassId := ⟨55⟩
@[match_pattern] def bareAlias : ClassId := ⟨56⟩
@[match_pattern] def newType : ClassId := ⟨57⟩
@[match_pattern] def annotated : ClassId := ⟨58⟩
@[match_pattern] def date : ClassId := ⟨59⟩
@[match_pattern] def deque : ClassId := ⟨60⟩
@[match_pattern] def simpleNamespace : ClassId := ⟨61⟩
@[match_pattern] def partialCall : ClassId := ⟨62⟩
@[match_pattern] def enumMaker : ClassId := ⟨63⟩
@[match_pattern] def abstractMaker : ClassId := ⟨64⟩
@[match_pattern] def modelMaker : ClassId := ⟨65⟩
@[match_pattern] def model : ClassId := ⟨66⟩
@[match_pattern] def colorSample : ClassId := ⟨67⟩
@[match_pattern] def numberSample : ClassId := ⟨68⟩
@[match_pattern] def flagSample : ClassId := ⟨69⟩
@[match_pattern] def pointSample : ClassId := ⟨70⟩
@[match_pattern] def callableSample : ClassId := ⟨71⟩
@[match_pattern] def recordLookalike : ClassId := ⟨72⟩
@[match_pattern] def hostileSample : ClassId := ⟨73⟩
@[match_pattern] def genericFunction : ClassId := ⟨74⟩
@[match_pattern] def methodDefinition : ClassId := ⟨75⟩
@[match_pattern] def methodTable : ClassId := ⟨76⟩
@[match_pattern] def compiledVariant : ClassId := ⟨77⟩
@[match_pattern] def slotTable : ClassId := ⟨78⟩
@[match_pattern] def chainEntry : ClassId := ⟨79⟩
@[match_pattern] def chainEnd : ClassId := ⟨80⟩
@[match_pattern] def dispatchTableKey : ClassId := ⟨81⟩
@[match_pattern] def recordFrozen : ClassId := ⟨82⟩
@[match_pattern] def recordFrozenCallable : ClassId := ⟨83⟩
@[match_pattern] def recordOpen : ClassId := ⟨84⟩
@[match_pattern] def recordOpenCallable : ClassId := ⟨85⟩
@[match_pattern] def recordFrozenDerived : ClassId := ⟨86⟩
@[match_pattern] def recordFrozenCallableDerived : ClassId := ⟨87⟩
@[match_pattern] def recordOpenDerived : ClassId := ⟨88⟩
@[match_pattern] def recordOpenCallableDerived : ClassId := ⟨89⟩
@[match_pattern] def modelFrozen : ClassId := ⟨90⟩
@[match_pattern] def modelOpen : ClassId := ⟨91⟩
@[match_pattern] def modelDefault : ClassId := ⟨92⟩
@[match_pattern] def modelFrozenDerived : ClassId := ⟨93⟩
@[match_pattern] def modelOpenDerived : ClassId := ⟨94⟩
@[match_pattern] def modelDefaultDerived : ClassId := ⟨95⟩
@[match_pattern] def storageLayout : ClassId := ⟨102⟩
@[match_pattern] def quitter : ClassId := ⟨103⟩
@[match_pattern] def printer : ClassId := ⟨104⟩
@[match_pattern] def helper : ClassId := ⟨105⟩

end ClassId

/-- the bases of a class, the root when none are named -/
def orRoot (bases : List ClassId) : List ClassId := if bases.isEmpty then [.object] else bases

/-- the blueprint of a class that is always there -/
def blueprint (name module : String) (bases : List ClassId) (ownLayout : Bool)
    (traits : Traits := {}) (family : Family := .plain) : Blueprint :=
  { name, qualname := name, module, bases, family, traits, ownLayout }

open ClassId in
def builtinBlueprints : List Blueprint := [
  blueprint "object" "builtins" [] true,
  blueprint "type" "builtins" [.object] true { callable := true, needsArguments := true },
  blueprint "int" "builtins" [.object] true,
  blueprint "bool" "builtins" [.int] false { sealed := true },
  blueprint "float" "builtins" [.object] true,
  blueprint "complex" "builtins" [.object] true,
  blueprint "str" "builtins" [.object] true,
  blueprint "bytes" "builtins" [.object] true,
  blueprint "bytearray" "builtins" [.object] true { unhashable := true },
  blueprint "list" "builtins" [.object] true { unhashable := true },
  blueprint "dict" "builtins" [.object] true { unhashable := true },
  blueprint "tuple" "builtins" [.object] true,
  blueprint "set" "builtins" [.object] true { unhashable := true },
  blueprint "frozenset" "builtins" [.object] true,
  blueprint "range" "builtins" [.object] true { sealed := true, needsArguments := true },
  blueprint "NoneType" "builtins" [.object] false { sealed := true },
  blueprint "ellipsis" "builtins" [.object] false { sealed := true },
  blueprint "NotImplementedType" "builtins" [.object] false { sealed := true },
  blueprint "OrderedDict" "collections" [.dict] true,
  blueprint "Number" "numbers" [.object] false {} .abstract,
  blueprint "Complex" "numbers" [.number] false { needsArguments := true } .abstract,
  blueprint "Real" "numbers" [.complexNumber] false { needsArguments := true } .abstract,
  blueprint "Rational" "numbers" [.realNumber] false { needsArguments := true } .abstract,
  blueprint "Integral" "numbers" [.rationalNumber] false { needsArguments := true } .abstract,
  blueprint "Decimal" "decimal" [.object] true,
  blueprint "Fraction" "fractions" [.rationalNumber] true {} .abstract,
  blueprint "Enum" "enum" [.object] false {} (.made "EnumType"),
  blueprint "ReprEnum" "enum" [.enum] false,
  blueprint "IntEnum" "enum" [.int, .reprEnum] false,
  blueprint "Flag" "enum" [.enum] false,
  blueprint "module" "builtins" [.object] true { needsArguments := true },
  blueprint "builtin_function_or_method" "builtins" [.object] true
    { callable := true, sealed := true, needsArguments := true },
  blueprint "function" "builtins" [.object] true
    { callable := true, sealed := true, needsArguments := true },
  blueprint "method" "builtins" [.object] true
    { callable := true, sealed := true, needsArguments := true },
  blueprint "method-wrapper" "builtins" [.object] true
    { callable := true, sealed := true, needsArguments := true },
  blueprint "wrapper_descriptor" "builtins" [.object] true
    { callable := true, sealed := true, needsArguments := true },
  blueprint "method_descriptor" "builtins" [.object] true
    { callable := true, sealed := true, needsArguments := true },
  blueprint "classmethod_descriptor" "builtins" [.object] true
    { callable := true, sealed := true, needsArguments := true },
  blueprint "getset_descriptor" "builtins" [.object] true
    { sealed := true, needsArguments := true },
  blueprint "member_descriptor" "builtins" [.object] true
    { sealed := true, needsArguments := true },
  blueprint "property" "builtins" [.object] true,
  blueprint "staticmethod" "builtins" [.object] true { callable := true, needsArguments := true },
  blueprint "classmethod" "builtins" [.object] true { needsArguments := true },
  blueprint "generator" "builtins" [.object] true { sealed := true, needsArguments := true },
  blueprint "slice" "builtins" [.object] true
    { unhashable := true, sealed := true, needsArguments := true },
  blueprint "memoryview" "builtins" [.object] true { sealed := true, needsArguments := true },
  blueprint "mappingproxy" "builtins" [.object] true
    { unhashable := true, sealed := true, needsArguments := true },
  blueprint "GenericAlias" "types" [.object] true { callable := true, needsArguments := true },
  blueprint "UnionType" "types" [.object] true { sealed := true, needsArguments := true },
  blueprint "TypeVar" "typing" [.object] true { sealed := true, needsArguments := true },
  blueprint "ForwardRef" "typing" [.object] true { sealed := true, needsArguments := true },
  blueprint "_SpecialForm" "typing" [.object] true
    { callable := true, sealed := true, needsArguments := true },
  blueprint "_GenericAlias" "typing" [.object] true { callable := true, needsArguments := true },
  blueprint "_UnionGenericAlias" "typing" [.typingAlias] false { needsArguments := true },
  blueprint "_LiteralGenericAlias" "typing" [.typingAlias] false { needsArguments := true },
  blueprint "_AnnotatedAlias" "typing" [.typingAlias] false { needsArguments := true },
  blueprint "_SpecialGenericAlias" "typing" [.object] true
    { callable := true, needsArguments := true },
  blueprint "NewType" "typing" [.object] true { callable := true, needsArguments := true },
  blueprint "Annotated" "typing" [.object] false { sealed := true, needsArguments := true },
  blueprint "date" "datetime" [.object] true { needsArguments := true },
  blueprint "deque" "collections" [.object] true { unhashable := true },
  blueprint "SimpleNamespace" "types" [.object] true { unhashable := true, namespaced := true },
  blueprint "partial" "functools" [.object] true { callable := true, needsArguments := true },
  blueprint "EnumType" "enum" [.type] false { needsArguments := true },
  blueprint "ABCMeta" "abc" [.type] false { needsArguments := true },
  blueprint "ModelMetaclass" "pydantic._internal._model_construction" [.abstractMaker] false
    { needsArguments := true },
  blueprint "BaseModel" "pydantic.main" [.object] true
    { unhashable := true, record := .model false } (.made "ModelMetaclass"),
  blueprint "_Color" "__main__" [.enum] false,
  blueprint "_Num" "__main__" [.intEnum] false,
  blueprint "_Flag" "__main__" [.flag] false,
  blueprint "Point" "__main__" [.tuple] false { needsArguments := true },
  blueprint "Callable0" "__main__" [.object] false { callable := true, namespaced := true },
  blueprint "FakeDataclass" "__main__" [.object] false { record := .fields none },
  blueprint "HostileClass" "__main__" [.object] false { refuses := true, namespaced := true },
  blueprint "GenericFunction" "looking_glass.runtime.dispatch" [.object] false
    { callable := true, needsArguments := true },
  blueprint "MethodDefinition" "looking_glass.runtime.dispatch" [.object] false
    { needsArguments := true },
  blueprint "MethodTable" "looking_glass.runtime.dispatch" [.object] false
    { needsArguments := true },
  blueprint "CompiledVariant" "looking_glass.runtime.dispatch" [.object] true
    { needsArguments := true },
  blueprint "SlotTable" "looking_glass.runtime.storage" [.object] false,
  blueprint "TypeMapEntry" "looking_glass.runtime.storage" [.object] true
    { needsArguments := true },
  blueprint "_EndOfEntries" "looking_glass.runtime.storage" [.object] false,
  blueprint "DispatchTableKey" "looking_glass.reflection.backedges" [.tuple] false
    { needsArguments := true },
  blueprint "DC" "types" [.object] false { record := .fields (some true) },
  blueprint "DC" "types" [.object] false { callable := true, record := .fields (some true) },
  blueprint "DC" "types" [.object] false { unhashable := true, record := .fields (some false) },
  blueprint "DC" "types" [.object] false
    { callable := true, unhashable := true, record := .fields (some false) },
  blueprint "DCSub" "__main__" [.recordFrozen] false,
  blueprint "DCSub" "__main__" [.recordFrozenCallable] false,
  blueprint "DCSub" "__main__" [.recordOpen] false,
  blueprint "DCSub" "__main__" [.recordOpenCallable] false,
  blueprint "M" "__main__" [.model] false { record := .model true },
  blueprint "M" "__main__" [.model] false { unhashable := true, record := .model false },
  blueprint "M" "__main__" [.model] false { unhashable := true, record := .model false },
  blueprint "MSub" "__main__" [.modelFrozen] false,
  blueprint "MSub" "__main__" [.modelOpen] false,
  blueprint "MSub" "__main__" [.modelDefault] false,
  blueprint "map" "builtins" [.object] true { needsArguments := true },
  blueprint "filter" "builtins" [.object] true { needsArguments := true },
  blueprint "zip" "builtins" [.object] true { needsArguments := true },
  blueprint "enumerate" "builtins" [.object] true { needsArguments := true },
  blueprint "reversed" "builtins" [.object] true { needsArguments := true },
  blueprint "super" "builtins" [.object] true { needsArguments := true },
  blueprint "StorageLayout" "looking_glass.enums" [.str, .enum] false,
  blueprint "Quitter" "_sitebuiltins" [.object] false { callable := true, needsArguments := true },
  blueprint "_Printer" "_sitebuiltins" [.object] false { callable := true, needsArguments := true },
  blueprint "_Helper" "_sitebuiltins" [.object] false { callable := true }]

def faultClasses : List (String × List String) := [
  ("BaseException", ["object"]), ("Exception", ["BaseException"]),
  ("GeneratorExit", ["BaseException"]), ("KeyboardInterrupt", ["BaseException"]),
  ("SystemExit", ["BaseException"]), ("BaseExceptionGroup", ["BaseException"]),
  ("ArithmeticError", ["Exception"]), ("AssertionError", ["Exception"]),
  ("AttributeError", ["Exception"]), ("BufferError", ["Exception"]), ("EOFError", ["Exception"]),
  ("ImportError", ["Exception"]), ("LookupError", ["Exception"]), ("MemoryError", ["Exception"]),
  ("NameError", ["Exception"]), ("OSError", ["Exception"]), ("ReferenceError", ["Exception"]),
  ("RuntimeError", ["Exception"]), ("StopAsyncIteration", ["Exception"]),
  ("StopIteration", ["Exception"]), ("SyntaxError", ["Exception"]),
  ("SystemError", ["Exception"]), ("TypeError", ["Exception"]), ("ValueError", ["Exception"]),
  ("Warning", ["Exception"]), ("FloatingPointError", ["ArithmeticError"]),
  ("OverflowError", ["ArithmeticError"]), ("ZeroDivisionError", ["ArithmeticError"]),
  ("ModuleNotFoundError", ["ImportError"]), ("IndexError", ["LookupError"]),
  ("KeyError", ["LookupError"]), ("UnboundLocalError", ["NameError"]),
  ("BlockingIOError", ["OSError"]), ("ChildProcessError", ["OSError"]),
  ("ConnectionError", ["OSError"]), ("FileExistsError", ["OSError"]),
  ("FileNotFoundError", ["OSError"]), ("InterruptedError", ["OSError"]),
  ("IsADirectoryError", ["OSError"]), ("NotADirectoryError", ["OSError"]),
  ("PermissionError", ["OSError"]), ("ProcessLookupError", ["OSError"]),
  ("TimeoutError", ["OSError"]), ("BrokenPipeError", ["ConnectionError"]),
  ("ConnectionAbortedError", ["ConnectionError"]),
  ("ConnectionRefusedError", ["ConnectionError"]), ("ConnectionResetError", ["ConnectionError"]),
  ("NotImplementedError", ["RuntimeError"]), ("RecursionError", ["RuntimeError"]),
  ("IndentationError", ["SyntaxError"]), ("TabError", ["IndentationError"]),
  ("UnicodeError", ["ValueError"]), ("UnicodeDecodeError", ["UnicodeError"]),
  ("UnicodeEncodeError", ["UnicodeError"]), ("UnicodeTranslateError", ["UnicodeError"]),
  ("BytesWarning", ["Warning"]), ("DeprecationWarning", ["Warning"]),
  ("EncodingWarning", ["Warning"]), ("FutureWarning", ["Warning"]),
  ("ImportWarning", ["Warning"]), ("PendingDeprecationWarning", ["Warning"]),
  ("ResourceWarning", ["Warning"]), ("RuntimeWarning", ["Warning"]),
  ("SyntaxWarning", ["Warning"]), ("UnicodeWarning", ["Warning"]), ("UserWarning", ["Warning"]),
  ("ExceptionGroup", ["BaseExceptionGroup", "Exception"])]

/-- the classes of faults whose instances have a layout of their own -/
def faultLayouts : List String := [
   "BaseException", "SystemExit", "BaseExceptionGroup", "AttributeError", "ImportError",
   "NameError", "OSError", "StopIteration", "SyntaxError", "UnicodeDecodeError",
   "UnicodeEncodeError", "UnicodeTranslateError"]

namespace Hierarchy

/-- the class of a full or short name, the first one made -/
def find? (h : Hierarchy) (module name : String) : Option ClassId :=
  h.ids.find? fun c => (h.info c).module == module && (h.info c).name == name

/-- one more class, if it can be made -/
def extend (h : Hierarchy) (b : Blueprint) : Hierarchy :=
  match h.declare b with
  | .ok (h, _) => h
  | .error _ => h

/-- one more class of faults -/
def extendFault (h : Hierarchy) (entry : String × List String) : Hierarchy :=
  h.extend (blueprint entry.1 "builtins" (orRoot (entry.2.filterMap (h.find? "builtins")))
    (faultLayouts.contains entry.1))

/-- an abstract class adopts a class, if it can -/
def adopting (h : Hierarchy) (c d : ClassId) : Hierarchy := (h.adopt c d).toOption.getD h

def base : Hierarchy :=
  let h := builtinBlueprints.foldl extend empty
  let h := faultClasses.foldl extendFault h
  (((h.adopting .integralNumber .int).adopting .realNumber .float).adopting
    .complexNumber .complex).adopting .number .decimal

end Hierarchy

end Introspect
