import Introspect.Text.Printable

/-!
# Quoted texts

A text is shown between quotes, with a backslash before the quote in use and before a backslash,
and with a code in place of a character without a visible form.

* `quoteMark`   single quotes, unless the text has a single quote and no double one;
* `quoted`      the quoted form of a text;
* `quotedBytes` the same for bytes, where everything beyond ASCII is a code.
-/

namespace Introspect.Text

/-- the hexadecimal digits of a number, at least `width` of them -/
def hexDigits (width n : Nat) : List Char :=
  let ds := Nat.toDigits 16 n
  List.replicate (width - ds.length) '0' ++ ds

def escapeCode (c : Char) : List Char :=
  let n := c.toNat
  if n < 0x100 then '\\' :: 'x' :: hexDigits 2 n
  else if n < 0x10000 then '\\' :: 'u' :: hexDigits 4 n
  else '\\' :: 'U' :: hexDigits 8 n

def escapeChar (mark : Char) (c : Char) : List Char :=
  if c == mark || c == '\\' then ['\\', c]
  else if c == '\n' then ['\\', 'n']
  else if c == '\r' then ['\\', 'r']
  else if c == '\t' then ['\\', 't']
  else if isPrintable c then [c]
  else escapeCode c

def quoteMark (cs : List Char) : Char :=
  if cs.contains '\'' && !cs.contains '"' then '"' else '\''

def quotedChars (cs : List Char) : List Char :=
  let mark := quoteMark cs
  mark :: cs.flatMap (escapeChar mark) ++ [mark]

def quoted (s : String) : String := String.ofList (quotedChars s.toList)

def escapeByte (mark : Char) (b : UInt8) : List Char :=
  let c := Char.ofNat b.toNat
  if b.toNat < 128 then escapeChar mark c else escapeCode c

def bytesBetween (write : Char → UInt8 → List Char) (bs : List UInt8) : String :=
  let mark := quoteMark (bs.map fun b => Char.ofNat b.toNat)
  String.ofList ('b' :: mark :: bs.flatMap (write mark) ++ [mark])

def quotedBytes (bs : List UInt8) : String := bytesBetween escapeByte bs

/-- the quoted form of bytes that can change: single quotes are escaped between double ones, too -/
def quotedBuffer (bs : List UInt8) : String :=
  bytesBetween (fun mark b => if b.toNat = 39 then ['\\', '\''] else escapeByte mark b) bs

example : quoted "a'b" = "\"a'b\"" := by decide +kernel
example : quoted "a'\"\n" = "'a\\'\"\\n'" := by decide +kernel

end Introspect.Text
