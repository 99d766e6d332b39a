import Introspect.Source.CharacterNames
import Introspect.Source.Token

/-!
# The characters that a text between quotes denotes

* `unescape`  the characters of a body, its escapes resolved; nothing when an escape is malformed or
              names no character;
* `denoted`   the characters of a text token, if it denotes characters at all: texts of bytes do
              not.
-/

namespace Introspect.Source

/-- the value of a digit of any base up to sixteen -/
def digitValue (c : Char) : Option Nat :=
  if c.isDigit then some (c.toNat - '0'.toNat)
  else if 'a' ≤ c ∧ c ≤ 'f' then some (c.toNat - 'a'.toNat + 10)
  else if 'A' ≤ c ∧ c ≤ 'F' then some (c.toNat - 'A'.toNat + 10)
  else none

/-- the value of exactly `n` hexadecimal digits, and the rest -/
def hexValue : Nat → Nat → List Char → Option (Nat × List Char)
  | 0, v, cs => some (v, cs)
  | n + 1, v, c :: cs => (digitValue c).bind fun d => hexValue n (16 * v + d) cs
  | _ + 1, _, [] => none

/-- the value of at most `n` further octal digits, and the rest -/
def octalValue : Nat → Nat → List Char → Nat × List Char
  | n + 1, v, c :: cs =>
    if '0' ≤ c ∧ c ≤ '7' then octalValue n (8 * v + (c.toNat - '0'.toNat)) cs else (v, c :: cs)
  | _, v, cs => (v, cs)

/-- the character of a code; a lone half of a pair shows as the replacement character -/
def charOfCode (n : Nat) : Option Char :=
  if n < 0x110000 then
    if 0xd800 ≤ n ∧ n < 0xe000 then some '\ufffd' else some (Char.ofNat n)
  else none

def simpleEscapes : List (Char × Char) :=
  [('\\', '\\'), ('\'', '\''), ('"', '"'), ('a', '\x07'), ('b', '\x08'), ('f', '\x0c'),
    ('n', '\n'), ('r', '\r'), ('t', '\t'), ('v', '\x0b')]

/-- the characters of a body; every step shortens it, so `n` bounds the steps -/
def unescapeWithin (table : CharacterNames) : Nat → List Char → Option (List Char)
  | _, [] => some []
  | 0, _ :: _ => none
  | n + 1, '\\' :: c :: r =>
    if c = '\n' then unescapeWithin table n r
    else
      match simpleEscapes.lookup c with
      | some d => (unescapeWithin table n r).map (d :: ·)
      | none =>
        let width := if c = 'x' then 2 else if c = 'u' then 4 else if c = 'U' then 8 else 0
        if 0 < width then do
          let (v, r) ← hexValue width 0 r
          let d ← charOfCode v
          return d :: (← unescapeWithin table n r)
        else if '0' ≤ c ∧ c ≤ '7' then do
          let (v, r) := octalValue 3 0 (c :: r)
          let d ← charOfCode v
          return d :: (← unescapeWithin table n r)
        else if c = 'N' then
          match r with
          | '\x7b' :: r =>
            match r.takeWhile (· != '\x7d'), r.dropWhile (· != '\x7d') with
            | c :: name, _ :: r => do
              let d ← table (c :: name)
              return d :: (← unescapeWithin table n r)
            | _, _ => none
          | _ => none
        else do return '\\' :: c :: (← unescapeWithin table n r)
  | n + 1, c :: r => (unescapeWithin table n r).map (c :: ·)

def unescape (table : CharacterNames) (body : List Char) : Option (List Char) :=
  unescapeWithin table body.length body

/-- what a text token denotes: characters, bytes, or nothing because it is malformed -/
inductive Denoted where
  | chars (cs : List Char)
  | bytes
  | malformed
  deriving DecidableEq, Repr

def denoted (table : CharacterNames) (letters body : List Char) : Denoted :=
  if letters.contains 'b' then
    if body.all fun c => c.toNat < 128 then
      if letters.contains 'r' then .bytes
      else
        let cs := unescapeWithin table body.length
          (body.map fun c => if c = 'u' ∨ c = 'U' ∨ c = 'N' then 'c' else c)
        if cs.isSome then .bytes else .malformed
    else .malformed
  else if letters.contains 'r' then .chars body
  else
    match unescape table body with
    | some cs => .chars cs
    | none => .malformed

end Introspect.Source
