import Introspect.Settings.Problem

/-!
# Faults

Everything that can stop an inspection, named by its cause.

* `Subject`        what was inspected when a fault was found;
* `Fault`          the causes;
* `Fault.kind`     the class of a cause, which is all that a handler looks at;
* `Fault.message`  the wording of a cause;
* `Fault.isStated` whether the wording belongs to this library.  The other causes are faults of
                   the inspected runtime, whose wording is shown in diagnostics only.
-/

namespace Introspect

/-- the classes of faults that handlers tell apart -/
inductive FaultKind where
  | type
  | attribute
  | lookup
  | key
  | index
  | value
  | runtime
  | arithmetic
  | recursion
  | permission
  | unavailable
  | malformed
  | importing
  | missingModule
  | settings
  | undecodable
  | ungrammatical
  | malformedText
  | markup
  | unprintable
  | raised
  deriving DecidableEq, Repr

namespace FaultKind

/-- a failed look-up of any sort -/
def isLookup : FaultKind → Bool
  | .lookup | .key | .index => true
  | _ => false

/-- a module that could not be brought in -/
def isImport : FaultKind → Bool
  | .importing | .missingModule => true
  | _ => false

/-- the faults that make the storage of one method unreadable, and nothing else -/
def isStorage : FaultKind → Bool
  | .attribute | .type | .permission | .unavailable => true
  | k => k.isLookup

end FaultKind

/-- what was inspected when a fault was found: how it is shown, and its place if it is a function -/
structure Subject where
  function : Option Nat
  shown : String
  deriving DecidableEq, Repr

/-- what is wrong with a markup tag -/
inductive TagProblem where
  /-- it closes nothing -/
  | closing
  /-- the call of its handler cannot be read -/
  | handler
  /-- its style cannot be read -/
  | style
  deriving DecidableEq, Repr

inductive Fault where
  /-- no method of a function applies to the call -/
  | noMethod (call : String)
  /-- several applicable methods are beaten by none -/
  | ambiguous (call : String) (best : List String)
  /-- an interleaved edge list whose last element has no partner -/
  | oddEdges (count : Nat) (last : String) (subject : Option Subject)
  /-- a slot of a slot table that holds nothing -/
  | emptySlot (index : Int)
  /-- a word that is no member of a closed vocabulary -/
  | notMember (shown vocabulary : String)
  /-- a module that does not exist, `name` being the missing part where that is known -/
  | missingModule (name : Option String) (text : String)
  /-- a module that refuses to be imported -/
  | importFailed (text : String)
  /-- a dotted path of which no leading part is a module -/
  | unresolved (target : String)
  /-- a path whose step `part` leads nowhere -/
  | missingPart (target owner part : String)
  /-- a path that denotes no class -/
  | notClass (target got : String)
  /-- raised on purpose by a script -/
  | raised (text : String)
  /-- settings that do not validate -/
  | badSettings (problems : List Problem)
  /-- an attribute that a value of class `owner` lacks -/
  | noAttribute (owner name : String)
  /-- a value without a length -/
  | noLength (owner : String)
  /-- a value that cannot be iterated -/
  | notIterable (owner : String)
  /-- a value that is not a sequence -/
  | notSequence (owner : String)
  /-- a value that cannot be a key -/
  | unhashable (owner : String)
  /-- a subclass test between things that are no classes -/
  | badClassTest
  /-- values that an operation does not take -/
  | badOperands (operation left right : String)
  /-- arguments that do not fit the parameters -/
  | badArguments
  /-- values without an order -/
  | unordered (left right : String)
  /-- a decimal operation without a result -/
  | noResult (operation : String)
  /-- a value without a namespace -/
  | noNamespace
  /-- a class that cannot be instantiated or derived from -/
  | badClass (name : String)
  /-- a position outside of a sequence -/
  | outOfRange
  /-- a name that is not bound -/
  | noKey (shown : String)
  /-- a value that refuses to be examined -/
  | refused
  /-- calls nested beyond the limit -/
  | tooDeep
  /-- a text that denotes no value of its kind -/
  | badText (text : String)
  /-- a whole number with more digits than are read -/
  | longNumber
  /-- a module name without any text -/
  | emptyModuleName
  /-- a module name that starts with a dot -/
  | relativeModuleName (shown : String)
  /-- annotations that are no mapping -/
  | badAnnotations (owner : String)
  /-- a module whose source text cannot be had -/
  | noSource (reason : String)
  /-- a fault of the given kind planted by a reader -/
  | planted (kind : FaultKind)
  /-- bytes that are no text -/
  | undecodable
  /-- a source text that is no program -/
  | ungrammatical
  /-- a text between quotes with a malformed escape -/
  | badLiteral
  /-- a markup tag that has no meaning where it stands -/
  | badMarkup (problem : TagProblem) (tag : String)
  /-- a value that is no text where a cell of a table has to be -/
  | unprintable (owner : String)
  deriving Repr

namespace Fault

def kind : Fault → FaultKind
  | .noMethod _ | .ambiguous .. | .notClass .. | .noLength _ | .notIterable _ | .notSequence _
  | .unhashable _ | .badClassTest | .badOperands .. | .badArguments | .unordered .. | .noNamespace
  | .badClass _ | .relativeModuleName _ | .noSource _ => .type
  | .oddEdges .. => .malformed
  | .emptySlot _ => .lookup
  | .notMember .. | .emptyModuleName | .badAnnotations _ | .badText _ | .longNumber => .value
  | .missingModule .. => .missingModule
  | .importFailed _ | .unresolved _ => .importing
  | .missingPart .. | .noAttribute .. => .attribute
  | .raised _ => .raised
  | .badSettings _ => .settings
  | .outOfRange => .index
  | .noResult _ => .arithmetic
  | .noKey _ => .key
  | .refused => .runtime
  | .tooDeep => .recursion
  | .planted k => k
  | .undecodable => .undecodable
  | .ungrammatical => .ungrammatical
  | .badLiteral => .malformedText
  | .badMarkup .style _ => .value
  | .badMarkup _ _ => .markup
  | .unprintable _ => .unprintable

/-- the module that is missing, where that is known -/
def missingName : Fault → Option String
  | .missingModule name _ => name
  | _ => none

/-- items between brackets, as a list is written -/
def bracketed (items : List String) : String := "[" ++ ", ".intercalate items ++ "]"

def message : Fault → String
  | .noMethod call => "no method matching " ++ call
  | .ambiguous call best => call ++ " is ambiguous: " ++ bracketed best
  | .oddEdges count last subject =>
    "Dispatch table backedges have odd length " ++ toString count ++ "; trailing element " ++ last
      ++ " has no pair" ++
      match subject with
      | none => ""
      | some s => " (while inspecting " ++ s.shown ++ ")"
  | .emptySlot i => "Slot " ++ toString i ++ " is not assigned"
  | .notMember shown vocabulary => shown ++ " is not a valid " ++ vocabulary
  | .missingModule _ text | .importFailed text | .raised text => text
  | .unresolved target => "Cannot import any prefix of " ++ target
  | .missingPart target owner part => target ++ ": " ++ owner ++ " has no attribute " ++ part
  | .notClass target got => target ++ " is not a type (got " ++ got ++ ")"
  | .badSettings problems => toString problems.length ++ " validation errors"
  | .noAttribute owner name => "'" ++ owner ++ "' object has no attribute '" ++ name ++ "'"
  | .noLength owner => "object of type '" ++ owner ++ "' has no len()"
  | .notIterable owner => "'" ++ owner ++ "' object is not iterable"
  | .notSequence owner => "'" ++ owner ++ "' object is not subscriptable"
  | .unhashable owner => "unhashable type: '" ++ owner ++ "'"
  | .badClassTest => "issubclass() arg 1 must be a class"
  | .badOperands op l r =>
    "unsupported operand type(s) for " ++ op ++ ": '" ++ l ++ "' and '" ++ r ++ "'"
  | .badArguments => "arguments do not fit the parameters"
  | .unordered l r => "'<' not supported between instances of '" ++ l ++ "' and '" ++ r ++ "'"
  | .noResult op => "invalid operation: " ++ op
  | .noNamespace => "vars() argument must have __dict__ attribute"
  | .badClass name => "type '" ++ name ++ "' is not an acceptable base type"
  | .outOfRange => "list index out of range"
  | .noKey shown => shown
  | .refused => "inspection refused"
  | .tooDeep => "maximum recursion depth exceeded"
  | .badText text => "invalid text: " ++ text
  | .longNumber => "Exceeds the limit for integer string conversion"
  | .emptyModuleName => "Empty module name"
  | .relativeModuleName shown =>
    "the 'package' argument is required to perform a relative import for " ++ shown
  | .badAnnotations owner => owner ++ ".__annotations__ is neither a dict nor None"
  | .noSource reason => reason
  | .planted _ => "planted"
  | .undecodable => "invalid start byte"
  | .ungrammatical => "Syntax Error"
  | .badLiteral => "malformed escape"
  | .unprintable owner => "unable to render " ++ owner
  | .badMarkup .closing tag => "closing tag '" ++ tag ++ "' doesn't match any open tag"
  | .badMarkup .handler call => "error parsing '" ++ call ++ "'"
  | .badMarkup .style _ => "invalid literal for int() with base 10: ''"

def isStated : Fault → Bool
  | .noMethod _ | .ambiguous .. | .oddEdges .. | .emptySlot _ | .notMember .. | .missingModule ..
  | .importFailed _ | .unresolved _ | .missingPart .. | .notClass .. | .raised _ => true
  | _ => false

end Fault

end Introspect
