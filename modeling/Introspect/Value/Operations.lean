import Introspect.Value.Kind

/-!
# Operations on values

* `Value.core`    the data under an instance of a class derived from a class of data;
* `Value.truthy`  whether a value counts as true in a condition;
* `Value.add`, `Value.sub`, `Value.mul`  arithmetic, and joining and repeating of sequences;
* `Value.exceeds` the strict order: numbers by value, sequences at the first difference, sets by
                  proper inclusion;
* `Value.items`   the items of a value that can be iterated;
* `Value.length`  the length of a value that has one.
-/

namespace Introspect.Value

/-- the empty data of a class of data -/
def emptyOf (c : ClassId) : Option Value :=
  match c with
  | .int => some (.int 0)
  | .bool => some (.bool false)
  | .float => some (.float 0.0)
  | .complex => some (.complex 0.0 0.0)
  | .str => some (.str "")
  | .bytes => some (.bytes [])
  | .bytearray => some (.bytearray [])
  | .list => some (.list [])
  | .dict => some (.dict [])
  | .tuple => some (.tuple [])
  | .set => some (.set [])
  | .frozenset => some (.frozenset [])
  | .decimal => some (.decimal (.ofInt 0))
  | .fraction => some (.fraction 0)
  | .noneType => some .none
  | _ => Option.none

def core (h : Hierarchy) : Value → Value
  | .instanceOf c i => ((h.mro c).findSome? emptyOf).getD (.instanceOf c i)
  | v => v

def truthy (h : Hierarchy) (v : Value) : Bool :=
  match v.core h with
  | .none => false
  | .bool b => b
  | .int n => n != 0
  | .float x => x != 0.0
  | .complex x y => x != 0.0 || y != 0.0
  | .decimal d => d.rational? != some 0
  | .fraction q => q != 0
  | .str s => s != ""
  | .bytes bs | .bytearray bs => !bs.isEmpty
  | .list vs | .tuple vs | .set vs | .frozenset vs => !vs.isEmpty
  | .dict es => !es.isEmpty
  | .range a b c => rangeLength a b c != 0
  | _ => true

/-- the integer under a value -/
def int? : Value → Option Int
  | .int n => some n
  | .bool b => some (if b then 1 else 0)
  | _ => Option.none

/-- the rational number under an integer or a fraction -/
def rational? : Value → Option Rat
  | .fraction q => some q
  | v => v.int?.map fun n => (n : Rat)

/-- the nearest double to a quotient of integers -/
def floatOfRat (q : Rat) : Float := Float.ofInt q.num / Float.ofNat q.den

/-- the double under a real binary number -/
def float? : Value → Option Float
  | .float x => some x
  | v => v.rational?.map floatOfRat

/-- the complex number under a number -/
def complex? : Value → Option (Float × Float)
  | .complex x y => some (x, y)
  | v => v.float?.map (·, 0.0)

def decimal? : Value → Option Numeric.Decimal
  | .decimal d => some d
  | v => v.int?.map Numeric.Decimal.ofInt

/-- an arithmetic operation at each kind of number -/
structure Arithmetic where
  ofInt : Int → Int → Int
  ofRat : Rat → Rat → Rat
  ofFloat : Float → Float → Float
  ofComplex : Float × Float → Float × Float → Float × Float
  ofDecimal : Numeric.Decimal → Numeric.Decimal → Numeric.Decimal

/-- an operation on two numbers, at the first kind that holds both -/
def Arithmetic.on? (op : Arithmetic) (a b : Value) : Option Value :=
  (do some (.int (op.ofInt (← a.int?) (← b.int?)))) <|>
  (do some (.fraction (op.ofRat (← a.rational?) (← b.rational?)))) <|>
  (do some (.float (op.ofFloat (← a.float?) (← b.float?)))) <|>
  (do
    let z := op.ofComplex (← a.complex?) (← b.complex?)
    some (.complex z.1 z.2)) <|>
  (do some (.decimal (op.ofDecimal (← a.decimal?) (← b.decimal?))))

def isUndefined : Value → Bool
  | .decimal (.undefined _) => true
  | _ => false

/-- the result of an operation; a decimal one without a value must come from one without -/
def Arithmetic.result (h : Hierarchy) (op : Arithmetic) (name : String) (a b x y : Value) :
    Except Fault Value :=
  match op.on? x y with
  | some v =>
    if v.isUndefined && !x.isUndefined && !y.isUndefined then .error (.noResult name) else .ok v
  | Option.none => .error (.badOperands name (a.className h) (b.className h))

def addition : Arithmetic :=
  ⟨(· + ·), (· + ·), (· + ·), fun z w => (z.1 + w.1, z.2 + w.2), Numeric.Decimal.add⟩

def subtraction : Arithmetic :=
  ⟨(· - ·), (· - ·), (· - ·), fun z w => (z.1 - w.1, z.2 - w.2), Numeric.Decimal.sub⟩

def multiplication : Arithmetic :=
  ⟨(· * ·), (· * ·), (· * ·),
    fun z w => (z.1 * w.1 - z.2 * w.2, z.1 * w.2 + z.2 * w.1), Numeric.Decimal.mul⟩

def add (h : Hierarchy) (a b : Value) : Except Fault Value :=
  match a.core h, b.core h with
  | .str s, .str t => .ok (.str (s ++ t))
  | .bytes x, .bytes y | .bytes x, .bytearray y => .ok (.bytes (x ++ y))
  | .bytearray x, .bytes y | .bytearray x, .bytearray y => .ok (.bytearray (x ++ y))
  | .list xs, .list ys => .ok (.list (xs ++ ys))
  | .tuple xs, .tuple ys => .ok (.tuple (xs ++ ys))
  | x, y => addition.result h "+" a b x y

def sub (h : Hierarchy) (a b : Value) : Except Fault Value :=
  match a.core h, b.core h with
  | .set xs, .set ys | .set xs, .frozenset ys =>
    .ok (.set (xs.filter fun x => !ys.contains x))
  | .frozenset xs, .set ys | .frozenset xs, .frozenset ys =>
    .ok (.frozenset (xs.filter fun x => !ys.contains x))
  | x, y => subtraction.result h "-" a b x y

/-- a sequence `n` times; not at all for negative `n` -/
def repeated? (v : Value) (n : Int) : Option Value :=
  let times {α : Type} (xs : List α) : List α := (List.replicate n.toNat xs).flatten
  match v with
  | .str s => some (.str (String.ofList (times s.toList)))
  | .bytes bs => some (.bytes (times bs))
  | .bytearray bs => some (.bytearray (times bs))
  | .list vs => some (.list (times vs))
  | .tuple vs => some (.tuple (times vs))
  | _ => Option.none

def mul (h : Hierarchy) (a b : Value) : Except Fault Value :=
  let x := a.core h
  let y := b.core h
  match (do x.repeated? (← y.int?)) <|> (do y.repeated? (← x.int?)) with
  | some v => .ok v
  | Option.none => multiplication.result h "*" a b x y

def Magnitude.exceeds : Magnitude → Magnitude → Bool
  | .undefined, _ | _, .undefined => false
  | .infinite negative, .infinite negative' => !negative && negative'
  | .infinite negative, .exact _ => !negative
  | .exact _, .infinite negative => negative
  | .exact p, .exact q => q < p

/-- the strict order of lists of bytes -/
def bytesExceed : List UInt8 → List UInt8 → Bool
  | [], _ => false
  | _ :: _, [] => true
  | x :: xs, y :: ys => y < x || (x == y && bytesExceed xs ys)

def isDecimal : Value → Bool
  | .decimal _ => true
  | _ => false

mutual

def exceeds (h : Hierarchy) : Value → Value → Except Fault Bool
  | .str s, .str t => .ok (t < s)
  | .bytes x, .bytes y | .bytes x, .bytearray y | .bytearray x, .bytes y
  | .bytearray x, .bytearray y => .ok (bytesExceed x y)
  | .list xs, .list ys | .tuple xs, .tuple ys => itemsExceed h xs ys
  | .set xs, .set ys | .set xs, .frozenset ys | .frozenset xs, .set ys
  | .frozenset xs, .frozenset ys => .ok (ys.length < xs.length && allIn ys xs)
  | v, w =>
    match (v.core h).magnitude?, (w.core h).magnitude? with
    | some p, some q =>
      if (isDecimal v || isDecimal w) && (p == .undefined || q == .undefined) then
        .error (.noResult ">")
      else .ok (p.exceeds q)
    | _, _ => .error (.unordered (w.className h) (v.className h))
termination_by structural v => v

/-- the strict order of sequences: that of the first items that differ, or of the lengths -/
def itemsExceed (h : Hierarchy) : List Value → List Value → Except Fault Bool
  | [], _ => .ok false
  | _ :: _, [] => .ok true
  | x :: xs, y :: ys => if x.same y then itemsExceed h xs ys else x.exceeds h y
termination_by structural vs => vs

end

def rangeItems (start stop step : Int) : List Value :=
  (List.range (rangeLength start stop step)).map fun (i : Nat) => .int (start + step * i)

def items (h : Hierarchy) (v : Value) : Except Fault (List Value) :=
  match v.core h with
  | .list vs | .tuple vs | .set vs | .frozenset vs => .ok vs
  | .dict es => .ok (es.map Prod.fst)
  | .str s => .ok (s.toList.map fun c => .str (String.singleton c))
  | .bytes bs | .bytearray bs => .ok (bs.map fun b => .int b.toNat)
  | .range a b c => .ok (rangeItems a b c)
  | _ => .error (.notIterable (v.className h))

def length (h : Hierarchy) (v : Value) : Except Fault Nat :=
  match v.items h with
  | .ok vs => .ok vs.length
  | .error _ => .error (.noLength (v.className h))

end Introspect.Value
