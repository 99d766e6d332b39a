/-!
# The shortest decimal that reads back

A finite binary floating-point number is `m * 2 ^ e`.  Every real number of an interval around it
rounds to it; among the decimals of that interval the one with the fewest digits is shown, and of
two with as few digits the nearer.

* `BinaryFloat`      a double, taken apart;
* `roundsTo`         membership in the interval, its ends included when `m` is even;
* `shortest`         the digits and the power of ten of the shown decimal;
* `FloatStyle`       where positional notation ends, and whether whole numbers keep a fraction;
* `FloatStyle.text`  the text of a double.
-/

namespace Introspect.Numeric

inductive BinaryFloat where
  | undefined
  | infinite (negative : Bool)
  | finite (negative : Bool) (mantissa : Nat) (exponent : Int)
  deriving DecidableEq, Repr

/-- the exponent of the smallest doubles -/
def leastExponent : Int := -1074

/-- the least mantissa that is not subnormal, `2 ^ 52` -/
def leastNormal : Nat := 0x10000000000000

/-- the parts of a double given by its bits -/
def BinaryFloat.ofBits (bits : Nat) : BinaryFloat :=
  let negative := bits / leastNormal / 2048 % 2 == 1
  let biased : Nat := bits / leastNormal % 2048
  let fraction : Nat := bits % leastNormal
  if biased = 2047 then
    if fraction = 0 then .infinite negative else .undefined
  else if biased = 0 then .finite negative fraction leastExponent
  else .finite negative (leastNormal + fraction) (leastExponent + ((biased : Int) - 1))

/-- the parts of a double -/
def BinaryFloat.ofFloat (x : Float) : BinaryFloat := .ofBits x.toBits.toNat

/-- `n * base ^ k`, as a quotient of natural numbers -/
def scale (base n : Nat) (k : Int) : Nat × Nat :=
  if 0 ≤ k then (n * Nat.pow base k.toNat, 1) else (n, Nat.pow base (-k).toNat)

/-- compares `a * 10 ^ k` with `b * 2 ^ e` -/
def compareScaled (a : Nat) (k : Int) (b : Nat) (e : Int) : Ordering :=
  let x := scale 10 a k
  let y := scale 2 b e
  compare (x.1 * y.2) (y.1 * x.2)

def roundsTo (m : Nat) (e : Int) (d : Nat) (k : Int) : Bool :=
  let low := if m = leastNormal ∧ leastExponent < e then 4 * m - 1 else 4 * m - 2
  let high := 4 * m + 2
  let closed := m % 2 == 0
  let above := compareScaled d k low (e - 2)
  let below := compareScaled d k high (e - 2)
  (above == .gt || (closed && above == .eq)) && (below == .lt || (closed && below == .eq))

/-- the number of decimal digits -/
def digitCount (n : Nat) : Nat := (Nat.toDigits 10 n).length

/-- the power of ten of the leading digit of `m * 2 ^ e`, for `m` positive -/
def leadingPower (m : Nat) (e : Int) : Int :=
  let q := scale 2 m e
  let guess : Int := (digitCount q.1 : Int) - digitCount q.2
  if compareScaled 1 guess m e == .gt then guess - 1 else guess

/-- the largest `d` with `d * 10 ^ k ≤ m * 2 ^ e` -/
def gridBelow (m : Nat) (e k : Int) : Nat :=
  let q := scale 2 m e
  let s := scale 10 1 k
  q.1 * s.2 / (q.2 * s.1)

/-- whether the grid point above `m * 2 ^ e` is nearer than the one below, `d * 10 ^ k`; a tie goes
to the even one -/
def aboveIsNearer (m : Nat) (e : Int) (d : Nat) (k : Int) : Bool :=
  let x := scale 10 (2 * d + 1) k
  let y := scale 2 (2 * m) e
  match compare (x.1 * y.2) (y.1 * x.2) with
  | .lt => true
  | .eq => d % 2 == 1
  | .gt => false

/-- the decimals of one grid that read back, the nearer first -/
def onGrid (m : Nat) (e k : Int) : Option Nat :=
  let d := gridBelow m e k
  match roundsTo m e d k, roundsTo m e (d + 1) k with
  | true, true => if aboveIsNearer m e d k then some (d + 1) else some d
  | true, false => some d
  | false, true => some (d + 1)
  | false, false => none

def shortest (m : Nat) (e : Int) : Nat × Int :=
  let p := leadingPower m e
  let grids := (List.range 18).map fun (n : Nat) => p + 1 - n
  match grids.findSome? fun k => (onGrid m e k).map (·, k) with
  | some r => r
  | none => (gridBelow m e (p - 16), p - 16)

structure FloatStyle where
  /-- positional when the point stands after more than `lowPoint` digits -/
  lowPoint : Int
  /-- and after at most `highPoint` digits -/
  highPoint : Int
  /-- whether a whole number is written with a fraction -/
  wholeFraction : Bool
  deriving DecidableEq, Repr

/-- digits with the point after `point` of them -/
def positional (style : FloatStyle) (digits : List Char) (point : Int) : List Char :=
  if point ≤ 0 then '0' :: '.' :: (List.replicate (-point).toNat '0' ++ digits)
  else
    let n := point.toNat
    let whole := digits.take n ++ List.replicate (n - digits.length) '0'
    match digits.drop n with
    | [] => if style.wholeFraction then whole ++ ['.', '0'] else whole
    | rest => whole ++ '.' :: rest

/-- digits with one of them before the point, and the power of ten -/
def scientific (digits : List Char) (point : Int) : List Char :=
  let power := point - 1
  let sign := if power < 0 then '-' else '+'
  let ds := Nat.toDigits 10 power.natAbs
  let exponent := 'e' :: sign :: (if ds.length < 2 then '0' :: ds else ds)
  match digits with
  | [d] => d :: exponent
  | d :: rest => d :: '.' :: (rest ++ exponent)
  | [] => exponent

/-- the text of a positive number `m * 2 ^ e`, or of zero -/
def FloatStyle.magnitude (style : FloatStyle) (m : Nat) (e : Int) : List Char :=
  if m = 0 then if style.wholeFraction then ['0', '.', '0'] else ['0']
  else
    let (d, k) := shortest m e
    let digits := Nat.toDigits 10 d
    let point : Int := digits.length + k
    if style.lowPoint < point ∧ point ≤ style.highPoint then positional style digits point
    else scientific digits point

def FloatStyle.text (style : FloatStyle) (x : Float) : String :=
  match BinaryFloat.ofFloat x with
  | .undefined => "nan"
  | .infinite negative => if negative then "-inf" else "inf"
  | .finite negative m e =>
    let t := style.magnitude m e
    String.ofList (if negative then '-' :: t else t)

/-- a number of its own keeps its fraction and is positional from `1e-4` to below `1e16` -/
def standardFloat : FloatStyle := ⟨-4, 16, true⟩

/-- a part of a complex number drops an empty fraction -/
def complexPart : FloatStyle := ⟨-4, 16, false⟩

/-- the text of a complex number; a real part that is plain zero is left out -/
def complexText (re im : Float) : String :=
  let i := complexPart.text im
  match BinaryFloat.ofFloat re with
  | .finite false 0 _ => i ++ "j"
  | _ =>
    let sign := if i.startsWith "-" then "" else "+"
    "(" ++ complexPart.text re ++ sign ++ i ++ "j)"

def exactValue (x : Float) : Option Rat :=
  match BinaryFloat.ofFloat x with
  | .finite negative m e =>
    let q := scale 2 m e
    let r := mkRat q.1 q.2
    some (if negative then -r else r)
  | _ => none

end Introspect.Numeric
