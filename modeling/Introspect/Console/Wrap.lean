import Introspect.Text.Blank
import Introspect.Text.CellWidth

/-!
# Wrapping lines

A text is broken between words so that each line fits a number of cells.  A word that is too long
for any line is either folded or put on a line of its own and cut off.

* `Overflow`     what happens to words that are too long;
* `takeWord`     a word with the blanks around it;
* `wrapLine`     the lines of a text without line ends;
* `wrapText`     the lines of a text.
-/

namespace Introspect.Console

open Text

inductive Overflow where
  | fold
  | ellipsis
  deriving DecidableEq, Repr

def takeWord (cs : List Char) : Option (List Char × List Char) :=
  let before := cs.takeWhile isBlank
  let rest := cs.dropWhile isBlank
  if rest.isEmpty then none
  else
    let word := rest.takeWhile fun c => !isBlank c
    let rest := rest.dropWhile fun c => !isBlank c
    some (before ++ word ++ rest.takeWhile isBlank, rest.dropWhile isBlank)

/-- the words of a text, with the blanks around them, and blanks without a word; `n` bounds their
number -/
def wordsWithin : Nat → List Char → List (List Char) × List Char
  | 0, cs => ([], cs)
  | n + 1, cs =>
    match takeWord cs with
    | none => ([], cs)
    | some (word, rest) =>
      let (words, blanks) := wordsWithin n rest
      (word :: words, blanks)

/-- characters in lines of at most `width` cells; `line` is the last line so far, backwards -/
def chop (width : Nat) : List Char → Nat → List Char → List (List Char)
  | line, _, [] => [line.reverse]
  | line, used, c :: cs =>
    let w := cellWidth c
    if width < used + w then line.reverse :: chop width [c] w cs
    else chop width (c :: line) (used + w) cs

/-- a word that is too long, cut into lines; the first one continues the line before only if there
is none -/
def foldWord (width : Nat) (word : List Char) : List (List Char) := chop width [] 0 word

/-- lines under construction: the finished ones backwards, the last one, and its cells -/
structure Layout where
  finished : List (List Char) := []
  current : List Char := []
  used : Nat := 0

/-- a new line, unless nothing has been written yet -/
def Layout.breakLine (l : Layout) : Layout :=
  if l.finished.isEmpty && l.current.isEmpty then l
  else { finished := l.current :: l.finished, current := [], used := 0 }

/-- characters at the end of the last line -/
def Layout.write (l : Layout) (cs : List Char) (used : Nat) : Layout :=
  { l with current := l.current ++ cs, used }

def Layout.addWord (width : Nat) (overflow : Overflow) (l : Layout) (word : List Char) : Layout :=
  let length := cells (trimEndChars word)
  if length + l.used ≤ width then l.write word (l.used + cells word)
  else if width < length then
    match overflow with
    | .fold =>
      (foldWord width word).foldl (fun l piece => (l.breakLine).write piece (cells piece)) l
    | .ellipsis => (l.breakLine).write word (cells word)
  else if l.used = 0 then l.write word 0
  else (l.breakLine).write word (cells word)

/-- the lines of a text before they are cut -/
def brokenLines (width : Nat) (overflow : Overflow) (cs : List Char) : List (List Char) :=
  let (words, blanks) := wordsWithin cs.length cs
  let l := words.foldl (Layout.addWord width overflow) {}
  ((l.current ++ blanks) :: l.finished).reverse

/-- a line without blanks at its end that go beyond a number of characters -/
def trimExcess (width : Nat) (cs : List Char) : List Char :=
  let blanks := (cs.reverse.takeWhile isBlank).length
  cs.take (cs.length - min blanks (cs.length - width))

/-- the characters of a line that fit a number of cells, a blank standing for half of a wide one -/
def cropTo : Nat → List Char → List Char
  | _, [] => []
  | room, c :: cs =>
    let w := cellWidth c
    if w ≤ room then c :: cropTo (room - w) cs
    else List.replicate room ' '

/-- a line of at most `width` cells -/
def truncate (width : Nat) (overflow : Overflow) (cs : List Char) : List Char :=
  if cells cs ≤ width then cs
  else
    match overflow with
    | .fold => cropTo width cs
    | .ellipsis => cropTo (width - 1) cs ++ ['…']

/-- blanks in place of tabs, up to the next multiple of eight cells -/
def expandTabs : Nat → List Char → List Char
  | _, [] => []
  | column, c :: cs =>
    if c = '\t' then
      let n := 8 - column % 8
      List.replicate n ' ' ++ expandTabs (column + n) cs
    else c :: expandTabs (column + cellWidth c) cs

def wrapLine (width : Nat) (overflow : Overflow) (cs : List Char) : List (List Char) :=
  (brokenLines width overflow (expandTabs 0 cs)).map fun line =>
    truncate width overflow (trimExcess width line)

/-- the parts of a text between line ends -/
def splitLines (cs : List Char) : List (List Char) :=
  match cs with
  | [] => [[]]
  | c :: r =>
    if c = '\n' then [] :: splitLines r
    else
      match splitLines r with
      | [] => [[c]]
      | line :: lines => (c :: line) :: lines

def wrapText (width : Nat) (overflow : Overflow) (cs : List Char) : List (List Char) :=
  (splitLines cs).flatMap (wrapLine width overflow)

def blanks (n : Nat) : List Char := List.replicate n ' '

/-- a line filled up with blanks -/
def padTo (width : Nat) (cs : List Char) : List Char := cs ++ blanks (width - cells cs)

/-- a line in the middle of a width -/
def centred (width : Nat) (cs : List Char) : List Char :=
  let cs := trimEndChars cs
  blanks ((width - cells cs) / 2) ++ cs

end Introspect.Console
