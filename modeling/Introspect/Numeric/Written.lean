import Introspect.Text.Blank

/-!
# Numbers as they are written

A written number is a sign, digits with at most one point among them, and a power of ten.

* `Written`           a number read from a text, before it is rounded to anything;
* `Written.ofChars?`  reads one: `[sign] digits [. digits] [e [sign] digits]`;
* `readFloat`         a double from a text, blanks at the ends and the words for the special
                      values included.
-/

namespace Introspect.Numeric

structure Written where
  negative : Bool
  digits : Nat
  power : Int
  deriving DecidableEq, Repr

def digitsValue (cs : List Char) : Nat :=
  cs.foldl (fun n c => 10 * n + (c.toNat - '0'.toNat)) 0

/-- a sign, if there is one, and the rest -/
def takeSign : List Char → Bool × List Char
  | '-' :: r => (true, r)
  | '+' :: r => (false, r)
  | r => (false, r)

/-- the power of ten after the digits, which must end the text -/
def readPower : List Char → Option Int
  | [] => some 0
  | c :: r =>
    if c == 'e' || c == 'E' then
      let (negative, ds) := takeSign r
      if ds.isEmpty || !ds.all Char.isDigit then none
      else some (if negative then -(digitsValue ds : Int) else digitsValue ds)
    else none

def Written.ofChars? (cs : List Char) : Option Written :=
  let (negative, r) := takeSign cs
  let whole := r.takeWhile Char.isDigit
  let r := r.dropWhile Char.isDigit
  let (part, r) := match r with
    | '.' :: r => (r.takeWhile Char.isDigit, r.dropWhile Char.isDigit)
    | r => ([], r)
  if whole.isEmpty && part.isEmpty then none
  else (readPower r).map fun p => ⟨negative, digitsValue (whole ++ part), p - part.length⟩

/-- whether every underscore stands between two digits -/
def underscoresFit : List Char → Bool
  | [] => true
  | ['_'] => false
  | [_] => true
  | a :: b :: r =>
    (if b == '_' then a.isDigit && (r.head?.map Char.isDigit).getD false else a != '_' || b.isDigit)
      && underscoresFit (b :: r)

/-- the nearest double to a written number -/
def Written.toFloat (w : Written) : Float :=
  let x := if w.power < 0 then Float.ofScientific w.digits true (-w.power).toNat
    else Float.ofScientific w.digits false w.power.toNat
  if w.negative then -x else x

def readFloat (text : String) : Option Float :=
  let cs := (Text.trimChars text.toList).map Char.toLower
  let (negative, word) := takeSign cs
  let sign (x : Float) : Float := if negative then -x else x
  if word = "inf".toList ∨ word = "infinity".toList then some (sign (1.0 / 0.0))
  else if word = "nan".toList then some (0.0 / 0.0)
  else if cs.head? == some '_' || !underscoresFit cs then none
  else (Written.ofChars? (cs.filter (· != '_'))).map Written.toFloat

end Introspect.Numeric
