/-!
# Tokens of a source text

* `Token`     names, numbers, texts, operators, the pieces of formatted texts, and the marks of
              lines and blocks;
* `keywords`  the words that are no names.
-/

namespace Introspect.Source

inductive Token where
  | word (s : String)
  | number (s : String)
  /-- a text between quotes: the letters before it, and what stands between the quotes -/
  | text (letters body : List Char)
  | op (s : String)
  /-- the start, a literal piece, and the end of a formatted text -/
  | formattedStart
  | formattedPiece
  | formattedEnd
  | newline
  | indent
  | dedent
  deriving DecidableEq, Repr, Inhabited

def keywords : List String :=
  ["False", "None", "True", "and", "as", "assert", "async", "await", "break", "class", "continue",
    "def", "del", "elif", "else", "except", "finally", "for", "from", "global", "if", "import",
    "in", "is", "lambda", "nonlocal", "not", "or", "pass", "raise", "return", "try", "while",
    "with", "yield"]

def plainLetters : List (List Char) :=
  ["", "r", "u", "b", "br", "rb"].map String.toList

def formattedLetters : List (List Char) :=
  ["f", "fr", "rf", "t", "tr", "rt"].map String.toList

/-- the operators of three characters -/
def longOperators : List String := ["**=", "//=", ">>=", "<<=", "..."]

/-- the operators of two characters -/
def pairOperators : List String :=
  ["**", "//", ">>", "<<", "!=", "->", ":=", "+=", "-=", "*=", "/=", "%=", "&=", "|=", "^=", "@=",
    "==", "<=", ">="]

def singleOperators : List Char := "+-*/%@&|^~<>()[]\x7b\x7d,:.;=".toList

end Introspect.Source
