import Introspect.Console.Logging
import Introspect.Console.Table

/-!
# Output

Everything that is written goes to one console, whose lines are 200 cells wide.

* `Output`        the lines written so far, the logger, and how tags are read;
* `Output.print`  a text, with markup or without, wrapped;
* `Output.log`    a record, as often as it reaches the console: its level, its message beside it;
* `Output.table`  a table;
* `Entry`         what can be written one after the other: `Output.writeEntries`.
-/

namespace Introspect.Console

def consoleWidth : Nat := 200

/-- the width of the column of levels, with the blank after it -/
def levelWidth : Nat := 9

structure Output where
  lines : List String := []
  logging : Logging := .initial
  dialect : Markup.Dialect := .console

namespace Output

/-- lines at the end, without the blanks at their ends -/
def write (o : Output) (lines : List (List Char)) : Output :=
  { o with lines := o.lines ++ lines.map fun l => String.ofList (Text.trimEndChars l) }

/-- the characters of a text without markup that are shown -/
def verbatim (text : String) : List Char :=
  (showPictures text.toList).filter fun c => !Markup.isCursorControl c

def printPlain (o : Output) (text : String) : Output :=
  o.write (wrapText consoleWidth .fold (verbatim text))

def print (o : Output) (text : String) : Except Fault Output := do
  return o.write (wrapText consoleWidth .fold (← o.dialect.plainOf text))

/-- a text that is never wrapped -/
def printUnwrapped (o : Output) (text : String) : Output :=
  o.write ((splitLines (verbatim text)).map (expandTabs 0))

/-- a record on the console: its level, and what is shown of its message beside it -/
def writeRecord (o : Output) (level : Level) (shown : List Char) : Output :=
  let lines := wrapText (consoleWidth - levelWidth) .fold shown
  let word := padTo levelWidth level.word.toList
  o.write ((lines.zipIdx).map fun (line, i) => (if i = 0 then word else blanks levelWidth) ++ line)

/-- a record of the first of some loggers, as often as it reaches the console in use -/
def log (o : Output) (loggers : List Logger) (level : Level) (message : String) :
    Except Fault Output := do
  let delivered ← o.logging.deliveries o.dialect loggers level.rank message
  return (delivered.filter (·.1 == o.logging.active)).foldl (·.writeRecord level ·.2) o

/-- a message to the user -/
def report (o : Output) (level : Level) (message : String) : Except Fault Output :=
  o.log [] level (level.mark ++ message)

/-- a note of a logger that leaves everything to the one at the top -/
def note (o : Output) (text : String) : Except Fault Output := o.log [{}] .debug text

def table (o : Output) (t : Table) : Except Fault Output := do
  return o.write (← t.lines o.dialect consoleWidth)

end Output

inductive Entry where
  /-- a message to the user -/
  | message (level : Level) (text : String)
  /-- a note for readers of diagnostics -/
  | note (text : String)
  /-- a text without markup -/
  | plain (text : String)
  /-- from here on notes are written, too -/
  | enableDebug
  deriving DecidableEq, Repr

namespace Output

def writeEntry (o : Output) : Entry → Except Fault Output
  | .message level text => o.report level text
  | .note text => o.note text
  | .plain text => .ok (o.printPlain text)
  | .enableDebug => .ok { o with logging := o.logging.enableDebug }

/-- entries, one after the other -/
def writeEntries (o : Output) (entries : List Entry) : Except Fault Output :=
  entries.foldlM writeEntry o

end Output

end Introspect.Console
