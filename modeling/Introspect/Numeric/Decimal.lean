import Introspect.Numeric.Written

/-!
# Decimal floating point

* `Decimal`          a signed coefficient and a power of ten, or a special value;
* `Decimal.ofText?`  reads one;
* `Decimal.text`     writes one: positional unless the power is positive or the number small;
* `Decimal.add`, `Decimal.mul`  exact results rounded to 28 digits, a half to the even neighbour.
-/

namespace Introspect.Numeric

inductive Decimal where
  | undefined (payload : List Char)
  | infinite (negative : Bool)
  | finite (negative : Bool) (coefficient : Nat) (power : Int)
  deriving DecidableEq, Repr

namespace Decimal

/-- the number of digits that a result keeps -/
def precision : Nat := 28

def ofText? (text : String) : Option Decimal :=
  let cs := (Text.trimChars text.toList).filter (· != '_')
  let (negative, r) := takeSign cs
  let word := r.map Char.toLower
  if word = "inf".toList ∨ word = "infinity".toList then some (.infinite negative)
  else if word.take 3 = "nan".toList ∧ (word.drop 3).all Char.isDigit then
    some (.undefined (word.drop 3))
  else (Written.ofChars? cs).map fun w => .finite w.negative w.digits w.power

/-- writes a finite number without its sign -/
def magnitude (coefficient : Nat) (power : Int) : List Char :=
  let ds := Nat.toDigits 10 coefficient
  let left : Int := power + ds.length
  let point : Int := if power ≤ 0 ∧ -6 < left then left else 1
  let body :=
    if point ≤ 0 then '0' :: '.' :: (List.replicate (-point).toNat '0' ++ ds)
    else if ds.length ≤ point.toNat then ds ++ List.replicate (point.toNat - ds.length) '0'
    else ds.take point.toNat ++ '.' :: ds.drop point.toNat
  if left = point then body
  else
    let e := left - point
    body ++ 'E' :: (if e < 0 then '-' else '+') :: Nat.toDigits 10 e.natAbs

def text (d : Decimal) : String :=
  let sign (negative : Bool) (cs : List Char) : String :=
    String.ofList (if negative then '-' :: cs else cs)
  match d with
  | .undefined payload => String.ofList ("NaN".toList ++ payload)
  | .infinite negative => sign negative "Infinity".toList
  | .finite negative c e => sign negative (magnitude c e)

/-- rounds to the kept precision, a half to the even neighbour -/
def rounded (negative : Bool) (c : Nat) (e : Int) : Decimal :=
  let size := (Nat.toDigits 10 c).length
  if size ≤ precision then .finite negative c e
  else
    let drop := size - precision
    let unit := Nat.pow 10 drop
    let q := c / unit
    let r := c % unit
    let up := unit < 2 * r || (2 * r == unit && q % 2 == 1)
    let q := if up then q + 1 else q
    if (Nat.toDigits 10 q).length ≤ precision then .finite negative q (e + drop)
    else .finite negative (q / 10) (e + drop + 1)

/-- the signed coefficient at a power not above its own -/
def aligned (negative : Bool) (c : Nat) (e low : Int) : Int :=
  let n : Int := (c * Nat.pow 10 (e - low).toNat : Nat)
  if negative then -n else n

def add : Decimal → Decimal → Decimal
  | .undefined p, _ => .undefined p
  | _, .undefined p => .undefined p
  | .infinite a, .infinite b => if a = b then .infinite a else .undefined []
  | .infinite a, _ => .infinite a
  | _, .infinite b => .infinite b
  | .finite s c e, .finite t d f =>
    let low := min e f
    let n := aligned s c e low + aligned t d f low
    if n = 0 then .finite (s && t) 0 low else rounded (n < 0) n.natAbs low

/-- the number with the other sign -/
def neg : Decimal → Decimal
  | .undefined p => .undefined p
  | .infinite a => .infinite (!a)
  | .finite s c e => .finite (!s) c e

/-- the difference -/
def sub (a b : Decimal) : Decimal := add a b.neg

def mul : Decimal → Decimal → Decimal
  | .undefined p, _ => .undefined p
  | _, .undefined p => .undefined p
  | .infinite a, .infinite b => .infinite (a != b)
  | .infinite a, .finite t d _ => if d = 0 then .undefined [] else .infinite (a != t)
  | .finite s c _, .infinite b => if c = 0 then .undefined [] else .infinite (s != b)
  | .finite s c e, .finite t d f => rounded (s != t) (c * d) (e + f)

/-- the number of an integer -/
def ofInt (n : Int) : Decimal := .finite (n < 0) n.natAbs 0

/-- the exact value of a finite number -/
def rational? : Decimal → Option Rat
  | .finite negative c e =>
    let r : Rat :=
      if 0 ≤ e then ((c * Nat.pow 10 e.toNat : Nat) : Rat) else mkRat c (Nat.pow 10 (-e).toNat)
    some (if negative then -r else r)
  | _ => none

end Decimal

end Introspect.Numeric
