import Introspect.Text.Quoted
import Introspect.Value.Basic

/-!
# The display of values

* `Surroundings`  what a display has to know besides the value: the classes, and how references are
                  shown;
* `display`       the text of a value, as a program would write it down;
* `plainText`     the text that a value stands for;
* `functionsShown`  the functions that a display shows, as it would show them alone;
* `typeLabel`     a type inside a signature: its qualified name, or the display of anything
                  without one;
* `signatureText` a signature between parentheses.
-/

namespace Introspect

structure Surroundings where
  hierarchy : Hierarchy
  /-- the display of a function, method, table, variant or module -/
  reference : Value → String
  /-- the qualified name of a function -/
  functionName : Nat → String
  /-- the name of a module, if it has one -/
  moduleName : Nat → Option Value
  /-- a variant together with its method -/
  variantLabel : Nat → String

/-- items between parentheses; a single one is followed by a comma -/
def tupleText : List String → String
  | [s] => "(" ++ s ++ ",)"
  | ss => "(" ++ ", ".intercalate ss ++ ")"

/-- items between braces -/
def braced (items : List String) : String := "\x7b" ++ ", ".intercalate items ++ "\x7d"

/-- items between square brackets -/
def squared (items : List String) : String := "[" ++ ", ".intercalate items ++ "]"

def TypingForm.word : TypingForm → String
  | .final => "typing.Final"
  | .classVar => "typing.ClassVar"
  | .optional => "typing.Optional"
  | .union => "typing.Union"
  | .annotated => "typing.Annotated"
  | .list => "typing.List"
  | .literal => "typing.Literal"

namespace Value

/-- a type inside an annotation: classes by their name, `None` for the class of nothing -/
def annotationText (h : Hierarchy) (shown : String) : Value → String
  | .cls c => if h.typeName c = "NoneType" then "None" else h.typeName c
  | _ => shown

mutual

def display (s : Surroundings) : Value → String
  | .none => "None"
  | .ellipsis => "Ellipsis"
  | .notImplemented => "NotImplemented"
  | .bool b => if b then "True" else "False"
  | .int n => toString n
  | .float x => Numeric.standardFloat.text x
  | .complex re im => Numeric.complexText re im
  | .decimal d => "Decimal('" ++ d.text ++ "')"
  | .fraction q => "Fraction(" ++ toString q.num ++ ", " ++ toString q.den ++ ")"
  | .str t => Text.quoted t
  | .bytes bs => Text.quotedBytes bs
  | .bytearray bs => "bytearray(" ++ Text.quotedBuffer bs ++ ")"
  | .list vs => squared (displays s vs)
  | .tuple vs => tupleText (displays s vs)
  | .set vs => if vs.isEmpty then "set()" else braced (displays s vs)
  | .frozenset vs =>
    if vs.isEmpty then "frozenset()" else "frozenset(" ++ braced (displays s vs) ++ ")"
  | .dict es => braced (displayEntries s es)
  | .range a b c =>
    "range(" ++ toString a ++ ", " ++ toString b ++
      (if c = 1 then ")" else ", " ++ toString c ++ ")")
  | .cls c => s.hierarchy.display c
  | .instanceOf c _ => "<" ++ s.hierarchy.typeName c ++ " object>"
  | .union vs => " | ".intercalate (displayTypes s vs)
  | .applied c vs => s.hierarchy.typeName c ++ squared (displayTypes s vs)
  | .typing f vs => if vs.isEmpty then f.word else f.word ++ squared (displayTypes s vs)
  | .forwardRef t => "ForwardRef(" ++ Text.quoted t ++ ")"
  | .forwardHolder v => "namespace(__forward_arg__=" ++ v.display s ++ ")"
  | .builtin name => "<built-in function " ++ name ++ ">"
  | v => s.reference v
termination_by structural v => v

def displays (s : Surroundings) : List Value → List String
  | [] => []
  | v :: vs => v.display s :: displays s vs
termination_by structural vs => vs

def displayTypes (s : Surroundings) : List Value → List String
  | [] => []
  | v :: vs => v.annotationText s.hierarchy (v.display s) :: displayTypes s vs
termination_by structural vs => vs

def displayEntries (s : Surroundings) : List (Value × Value) → List String
  | [] => []
  | (k, v) :: es => (k.display s ++ ": " ++ v.display s) :: displayEntries s es
termination_by structural es => es

end

mutual

def functionsShown : Value → List Nat
  | .generic f => [f]
  | .list vs | .tuple vs | .set vs | .frozenset vs => functionsShownAll vs
  | .union vs | .applied _ vs | .typing _ vs => functionsShownAll vs
  | .dict es => functionsShownEntries es
  | .forwardHolder v => v.functionsShown
  | _ => []
termination_by structural v => v

def functionsShownAll : List Value → List Nat
  | [] => []
  | v :: vs => v.functionsShown ++ functionsShownAll vs
termination_by structural vs => vs

def functionsShownEntries : List (Value × Value) → List Nat
  | [] => []
  | (k, v) :: es => k.functionsShown ++ v.functionsShown ++ functionsShownEntries es
termination_by structural es => es

end

def plainText (s : Surroundings) : Value → String
  | .str t => t
  | .decimal d => d.text
  | .fraction q => if q.den = 1 then toString q.num else toString q.num ++ "/" ++ toString q.den
  | v => v.display s

def typeLabel (s : Surroundings) : Value → String
  | .cls c | .applied c _ => s.hierarchy.qualname c
  | .builtin name => name
  | .generic f => s.functionName f
  | v => v.display s

end Value

def signatureText (s : Surroundings) (sig : Signature) : String :=
  "(" ++ ", ".intercalate (sig.map (Value.typeLabel s)) ++ ")"

end Introspect
