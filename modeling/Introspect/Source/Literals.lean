import Introspect.Source.CharacterNames
import Introspect.Source.Escapes
import Introspect.Source.Syntax

/-!
# Literals

A literal is made of numbers, texts and constants by sequences, sets and mappings; a sum is one when
it writes a complex number.

* `LiteralSort`    what a literal is, as far as others are made of it;
* `literalSort`    the sort of a tree, if it is a literal;
* `isLiteralText`  whether a text is a literal.
-/

namespace Introspect.Source

inductive LiteralSort where
  | number (isImaginary isSigned : Bool)
  | text
  | bytes
  /-- another one that can be in a set -/
  | hashable
  /-- one that cannot -/
  | unhashable
  deriving DecidableEq, Repr

namespace LiteralSort

def isHashable (s : LiteralSort) : Bool := s != .unhashable

/-- a number as it is written; whole ones have a limit -/
def ofNumber (s : String) : Option LiteralSort :=
  let cs := s.toList.filter (· != '_')
  if cs.all Char.isDigit then
    if cs.length ≤ 4300 then some (.number false false) else none
  else
    let isBased := ["0x", "0o", "0b"].contains (String.ofList ((cs.take 2).map Char.toLower))
    some (.number (!isBased && (cs.getLast?.map Char.toLower) == some 'j') false)

def ofToken (table : CharacterNames) : Token → Option LiteralSort
  | .number s => ofNumber s
  | .text letters body =>
    match denoted table letters body with
    | .chars _ => some .text
    | .bytes => some .bytes
    | .malformed => none
  | .word s => if ["True", "False", "None"].contains s then some .hashable else none
  | .op "..." => some .hashable
  | _ => none

/-- texts side by side, which are all of one sort -/
def beside : List LiteralSort → Option LiteralSort
  | [] => none
  | s :: rest => if rest.all (· == s) then some s else none

def tupleOf (items : List LiteralSort) : LiteralSort :=
  if items.all isHashable then .hashable else .unhashable

/-- what stands between braces: a mapping, in which keys and values take turns, or a set -/
def braced (isMapping : Bool) (items : List LiteralSort) : Option LiteralSort :=
  let keys := if isMapping then (items.zipIdx.filter (·.2 % 2 == 0)).map Prod.fst else items
  if keys.all isHashable then some .unhashable else none

def signed : LiteralSort → Option LiteralSort
  | .number isImaginary false => some (.number isImaginary true)
  | _ => none

/-- a real number and an imaginary one after it, which has no sign of its own -/
def sum : LiteralSort → LiteralSort → Option LiteralSort
  | .number false _, .number true false => some .hashable
  | _, _ => none

/-- a node by its symbol, given its children and their sorts -/
def ofNode (s : Symbol) (cs : List (Syntree × Option LiteralSort)) : Option LiteralSort :=
  let operators := cs.filterMap fun c => match c.1 with | .leaf (.op o) => some o | _ => none
  let items := ((cs.filter fun c => !Shape.isOperator c.1).map Prod.snd).mapM id
  match s, cs with
  | .texts, _ => items.bind beside
  | .parenthesized, [_, x, _] => x.2
  | .parenthesized, _ => items.map tupleOf
  | .bracketed, _ => items.map fun _ => .unhashable
  | .braced, _ =>
    if operators.contains "**" then none else items.bind (braced (operators.contains ":"))
  | .starredList, _ :: _ :: _ => items.map tupleOf
  | .signed, [(.leaf (.op o), _), x] => if o == "~" then none else x.2.bind signed
  | .sum, [x, _, y] => do sum (← x.2) (← y.2)
  -- the set without elements is written as a call
  | .primary, [(.leaf (.word "set"), _), (.node .call [_, _], _)] => some .unhashable
  | _, [x] => x.2
  | _, _ => none

end LiteralSort

mutual

def literalSort (table : CharacterNames) : Syntree → Option LiteralSort
  | .leaf t => LiteralSort.ofToken table t
  | .node s cs => LiteralSort.ofNode s (literalSorts table cs)
termination_by structural t => t

def literalSorts (table : CharacterNames) : List Syntree → List (Syntree × Option LiteralSort)
  | [] => []
  | t :: ts => (t, literalSort table t) :: literalSorts table ts
termination_by structural ts => ts

end

def isLiteralText (table : CharacterNames) (text : String) : Bool :=
  let sort? := do
    let ts ← tokens? text
    match ts.reverse with
    | .newline :: rest => literalSort table (← language.match? .starredList rest.reverse)
    | _ => none
  sort?.isSome

end Introspect.Source
