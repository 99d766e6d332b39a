import Introspect.Source.FinalNames
import Introspect.Value.Operations

/-!
# Annotations as values

* `Value.isFinal`        whether an annotation declares a constant: the form itself, with or without
                         arguments, or a text that says so;
* `evaluate`             the value of an annotation that was written as a text;
* `resolveWithin`        an annotation with the texts in it evaluated;
* `Value.dispatchType`   the class that stands for an annotation in dispatch: itself, the origin of
                         a class with arguments, or else the root.
-/

namespace Introspect

open Source (CharacterNames Expr)

def Value.isFinal (h : Hierarchy) (v : Value) : Except Fault Bool :=
  if v.refuses h then .error .refused
  else
    match v with
    | .typing .final _ => .ok true
    | .str s | .forwardRef s | .forwardHolder (.str s) => .ok (Source.isFinalText s)
    | _ => .ok false

/-- what names mean in an annotation -/
abbrev Scope := String → Option Value

def takesArguments (h : Hierarchy) (c : ClassId) : Bool :=
  [ClassId.list, .dict, .tuple, .set, .frozenset, .deque].any (h.inherits c) || c == .type

/-- alternatives, flattened and without repetitions; a single one stands for itself -/
def alternatives (vs : List Value) : Value :=
  let flat := vs.flatMap fun v =>
    match v with
    | .union ms => ms
    | .none => [.cls .noneType]
    | v => [v]
  match Value.distinct flat with
  | [v] => v
  | ms => if ms.any isForm then .typing .union ms else .union ms
where
  /-- whether a value is a special form -/
  isForm : Value → Bool
    | .typing .. => true
    | _ => false

/-- alternatives under a special form, without repetitions; a single one stands for itself -/
def unionForm (vs : List Value) : Value :=
  match Value.distinct vs with
  | [v] => v
  | ms => .typing .union ms

/-- an alternative to nothing, unless it is nothing itself -/
def optionalForm : List Value → Value
  | [.cls .noneType] => .cls .noneType
  | vs => .typing .optional vs

def isAlternative : Value → Bool
  | .cls _ | .none | .union _ | .applied .. | .typing .. => true
  | _ => false

def subscripted (h : Hierarchy) (base : Value) (args : List Value) : Except Fault Value :=
  match base, args with
  | .cls c, args =>
    if takesArguments h c then .ok (.applied c args) else .error (.notSequence "type")
  | .typing .optional [], [.none] | .typing .optional [], [.cls .noneType] =>
    .ok (.cls .noneType)
  | .typing .optional [], [v] => .ok (.typing .optional [v])
  | .typing .union [], _ :: _ => .ok (unionForm args)
  | .typing .list [], [v] => .ok (.typing .list [v])
  | v, _ => .error (.notSequence (v.className h))

mutual

def evaluate (table : CharacterNames) (h : Hierarchy) (scope : Scope) : Expr → Except Fault Value
  | .name s =>
    if s = "None" then .ok .none
    else if s = "True" then .ok (.bool true)
    else if s = "False" then .ok (.bool false)
    else (scope s).elim (.error (.noKey s)) .ok
  | .attribute base s => do
    let v ← evaluate table h scope base
    .error (.noAttribute (v.className h) s)
  | .subscript base args => do
    let v ← evaluate table h scope base
    subscripted h v (← evaluateAll table h scope args)
  | .text letters body =>
    match Source.denoted table letters body with
    | .chars cs => .ok (.str (String.ofList cs))
    | .bytes => .ok (.bytes [])
    | .malformed => .error .badLiteral
  | .texts parts => do
    let vs ← evaluateAll table h scope parts
    .ok (.str (String.join (vs.filterMap Value.str?)))
  | .number _ => .ok (.int 0)
  | .either a b => do
    let v ← evaluate table h scope a
    let w ← evaluate table h scope b
    if isAlternative v && isAlternative w && !(v == .none && w == .none) then
      .ok (alternatives [v, w])
    else .error (.badOperands "|" (v.className h) (w.className h))
  | .tuple items => do .ok (.tuple (← evaluateAll table h scope items))
  | .list items => do .ok (.list (← evaluateAll table h scope items))
  | .ellipsis => .ok .ellipsis
  | .choice condition yes no => do
    if (← evaluate table h scope condition).truthy h then evaluate table h scope yes
    else evaluate table h scope no
  | .other parts => do
    let _ ← evaluateAll table h scope parts
    return .ellipsis
termination_by structural e => e

/-- the values of several written annotations -/
def evaluateAll (table : CharacterNames) (h : Hierarchy) (scope : Scope) :
    List Expr → Except Fault (List Value)
  | [] => .ok []
  | e :: es => do
    let v ← evaluate table h scope e
    return v :: (← evaluateAll table h scope es)
termination_by structural es => es

end

/-- the value of a text, which must be a type when it is no text itself -/
def evaluateText (table : CharacterNames) (h : Hierarchy) (scope : Scope) (text : String) :
    Except Fault Value := do
  if text.toList.head?.any fun c => c == ' ' || c == '\t' || c == '*' then
    .error .ungrammatical
  else
    match Source.parseExpr? text with
    | none => .error .ungrammatical
    | some e =>
      match ← evaluate table h scope e with
      | .none => .ok (.cls .noneType)
      | .tuple vs => .error (.notClass "tuple" ((Value.tuple vs).className h))
      | .typing .list [] => .ok (.typing .list [])
      | .typing form [] => .error (.notClass "form" ((Value.typing form []).className h))
      | .typing .final _ => .error (.notClass "form" "_GenericAlias")
      | .typing .classVar _ => .error (.notClass "form" "_GenericAlias")
      | v => .ok v

mutual

/-- an annotation with the texts in it replaced by what `text` makes of them; alternatives that come
to the same are one, and what an annotation is annotated with is left out -/
def resolveWith (text : String → Except Fault Value) : Value → Except Fault Value
  | .none => .ok (.cls .noneType)
  | .str s | .forwardRef s => text s
  | .applied c vs => do return .applied c (← resolveAllWith text vs)
  | .union vs => do return alternatives (← resolveAllWith text vs)
  | .typing .annotated (v :: _) => resolveWith text v
  | .typing .union vs => do return unionForm (← resolveAllWith text vs)
  | .typing .optional vs => do return optionalForm (← resolveAllWith text vs)
  | .typing .literal vs => .ok (.typing .literal vs)
  | .typing f vs => do return .typing f (← resolveAllWith text vs)
  | v => .ok v
termination_by structural v => v

/-- several annotations, resolved -/
def resolveAllWith (text : String → Except Fault Value) : List Value → Except Fault (List Value)
  | [] => .ok []
  | v :: vs => do
    let w ← resolveWith text v
    return w :: (← resolveAllWith text vs)
termination_by structural vs => vs

end

/-- an annotation with the texts in it evaluated; they may be nested in each other up to a depth, and
a text within itself, `outer` being those around it, stays as it is -/
def resolveWithin (evaluated : String → Except Fault Value) :
    Nat → List String → Value → Except Fault Value
  | 0, _ => resolveWith fun _ => .error .tooDeep
  | n + 1, outer => resolveWith fun s =>
    if outer.contains s then .ok (.forwardRef s)
    else do resolveWithin evaluated n (s :: outer) (← evaluated s)

def Value.dispatchType : Value → Value
  | .cls c => .cls c
  | .union _ => .cls .unionType
  | .applied c _ => .cls c
  | .typing .list _ => .cls .list
  | .typing .annotated (_ :: _) => .cls .annotated
  | _ => .cls .object

end Introspect
