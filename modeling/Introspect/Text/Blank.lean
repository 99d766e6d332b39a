import Introspect.Text.Parts

/-!
# Blank characters

* `isBlank`   the characters that are trimmed at the ends of a text: the separators of Unicode and
              the control characters that end or separate lines and fields;
* `trim`      a text without blanks at its ends;
* `wordsOf`   the words of a text between blanks.
-/

namespace Introspect.Text

def isBlank (c : Char) : Bool :=
  let n := c.toNat
  (9 ≤ n && n ≤ 13) || (28 ≤ n && n ≤ 32) || n == 0x85 || n == 0xa0 || n == 0x1680
    || (0x2000 ≤ n && n ≤ 0x200a) || n == 0x2028 || n == 0x2029 || n == 0x202f || n == 0x205f
    || n == 0x3000

/-- characters without the blanks at both ends -/
def trimChars (cs : List Char) : List Char :=
  ((cs.dropWhile isBlank).reverse.dropWhile isBlank).reverse

def trimEndChars (cs : List Char) : List Char := (cs.reverse.dropWhile isBlank).reverse

def trim (s : String) : String := String.ofList (trimChars s.toList)

def wordsOf (cs : List Char) : List String :=
  (parts ' ' (String.ofList (cs.map fun c => if isBlank c then ' ' else c))).filter (· != "")

end Introspect.Text
