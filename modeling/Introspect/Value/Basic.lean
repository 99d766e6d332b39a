import Introspect.Hierarchy.Basic
import Introspect.Numeric.Decimal
import Introspect.Numeric.Shortest

/-!
# Values

What a name can be bound to, an argument can be, and a script can compute.

* `Value`        data, classes, annotations, and references to functions, modules and the parts of
                 functions;
* `Value.same`   equality: numbers by their value, sequences item by item, sets and mappings
                 without regard to order, instances and references by identity.
-/

namespace Introspect

/-- the special forms of annotations -/
inductive TypingForm where
  | final
  | classVar
  | optional
  | union
  | annotated
  | list
  | literal
  deriving DecidableEq, Repr

inductive Value where
  | none
  | ellipsis
  | notImplemented
  | bool (b : Bool)
  | int (n : Int)
  | float (x : Float)
  | complex (re im : Float)
  | decimal (d : Numeric.Decimal)
  | fraction (q : Rat)
  | str (s : String)
  | bytes (bs : List UInt8)
  | bytearray (bs : List UInt8)
  | list (items : List Value)
  | tuple (items : List Value)
  | set (items : List Value)
  | frozenset (items : List Value)
  | dict (entries : List (Value × Value))
  | range (start stop step : Int)
  | cls (c : ClassId)
  | instanceOf (c : ClassId) (serial : Nat)
  /-- alternatives of an annotation, as in `int | str` -/
  | union (members : List Value)
  /-- a class with arguments, as in `list[int]` -/
  | applied (origin : ClassId) (args : List Value)
  /-- a special form, with arguments or bare -/
  | typing (form : TypingForm) (args : List Value)
  /-- a reference to a type that is not there yet -/
  | forwardRef (text : String)
  /-- an object that carries the argument of a forward reference -/
  | forwardHolder (arg : Value)
  | builtin (name : String)
  | generic (f : Nat)
  | method (m : Nat)
  | table (f : Nat)
  | variant (v : Nat)
  | module (m : Nat)
  deriving Inhabited

namespace Value

/-- a numeric value, exactly -/
inductive Magnitude where
  | undefined
  | infinite (negative : Bool)
  | exact (q : Rat)
  deriving DecidableEq

/-- the exact value of a double -/
def Magnitude.ofFloat (x : Float) : Magnitude :=
  match Numeric.exactValue x with
  | some q => .exact q
  | Option.none => if x.isNaN then .undefined else .infinite (x < 0.0)

def Magnitude.ofDecimal : Numeric.Decimal → Magnitude
  | .undefined _ => .undefined
  | .infinite negative => .infinite negative
  | d => .exact (d.rational?.getD 0)

/-- the exact value of a real number -/
def magnitude? : Value → Option Magnitude
  | .bool b => some (.exact (if b then 1 else 0))
  | .int n => some (.exact n)
  | .float x => some (.ofFloat x)
  | .decimal d => some (.ofDecimal d)
  | .fraction q => some (.exact q)
  | _ => Option.none

def Magnitude.same : Magnitude → Magnitude → Bool
  | .undefined, _ => false
  | _, .undefined => false
  | a, b => a == b

/-- equality of numbers, complex ones included -/
def sameNumber (a b : Value) : Bool :=
  match a, b with
  | .complex x y, .complex x' y' => x == x' && y == y'
  | .complex x y, v | v, .complex x y =>
    y == 0.0 && (v.magnitude?.map (Magnitude.same (.ofFloat x))).getD false
  | v, w =>
    match v.magnitude?, w.magnitude? with
    | some p, some q => p.same q
    | _, _ => false

/-- the number of items of a range -/
def rangeLength (start stop step : Int) : Nat :=
  if 0 < step then ((stop - start + step - 1) / step).toNat
  else if step < 0 then ((start - stop + (-step) - 1) / (-step)).toNat
  else 0

mutual

def same : Value → Value → Bool
  | .none, .none | .ellipsis, .ellipsis | .notImplemented, .notImplemented => true
  | .str s, .str t => s == t
  | .bytes x, .bytes y | .bytes x, .bytearray y | .bytearray x, .bytes y
  | .bytearray x, .bytearray y => x == y
  | .list xs, .list ys | .tuple xs, .tuple ys => sameItems xs ys
  | .set xs, .set ys | .set xs, .frozenset ys | .frozenset xs, .set ys
  | .frozenset xs, .frozenset ys => xs.length == ys.length && allIn xs ys
  | .dict xs, .dict ys => xs.length == ys.length && entriesIn xs ys
  | .range a b c, .range x y z =>
    let n := rangeLength a b c
    n == rangeLength x y z && (n == 0 || (a == x && (n == 1 || c == z)))
  | .cls c, .cls d => c == d
  | .instanceOf c i, .instanceOf d j => c == d && i == j
  | .union xs, .union ys => xs.length == ys.length && allIn xs ys
  | .applied c xs, .applied d ys => c == d && sameItems xs ys
  | .typing f xs, .typing g ys => f == g && sameItems xs ys
  | .forwardRef s, .forwardRef t => s == t
  | .forwardHolder v, .forwardHolder w => v.same w
  | .builtin s, .builtin t => s == t
  | .generic f, .generic g => f == g
  | .method m, .method n => m == n
  | .table f, .table g => f == g
  | .variant v, .variant w => v == w
  | .module m, .module n => m == n
  | v, w => sameNumber v w
termination_by structural x => x

def sameItems : List Value → List Value → Bool
  | [], [] => true
  | x :: xs, y :: ys => x.same y && sameItems xs ys
  | _, _ => false
termination_by structural x => x

/-- whether every item of the first list equals one of the second -/
def allIn : List Value → List Value → Bool
  | [], _ => true
  | x :: xs, ys => ys.any (fun y => x.same y) && allIn xs ys
termination_by structural x => x

/-- whether every entry of the first mapping is one of the second -/
def entriesIn : List (Value × Value) → List (Value × Value) → Bool
  | [], _ => true
  | (k, v) :: es, fs => fs.any (fun e => k.same e.1 && v.same e.2) && entriesIn es fs
termination_by structural x => x

end

instance : BEq Value := ⟨same⟩

/-- the value under a key of a mapping -/
def lookup (key : Value) (entries : List (Value × Value)) : Option Value :=
  (entries.find? fun e => e.1 == key).map Prod.snd

/-- a mapping with a key bound anew; a key that is there keeps its place -/
def insert (key value : Value) : List (Value × Value) → List (Value × Value)
  | [] => [(key, value)]
  | (k, v) :: es => if k == key then (k, value) :: es else (k, v) :: insert key value es

/-- values without the repetitions of earlier ones -/
def distinct (vs : List Value) : List Value :=
  vs.foldl (fun seen v => if seen.contains v then seen else seen ++ [v]) []

def str? : Value → Option String
  | .str s => some s
  | _ => Option.none

def module? : Value → Option Nat
  | .module m => some m
  | _ => Option.none

end Value

/-- the types of a call or of a declaration; values that are no classes may stand there too -/
abbrev Signature := List Value

def Signature.ofClasses (cs : List ClassId) : Signature := cs.map Value.cls

end Introspect
