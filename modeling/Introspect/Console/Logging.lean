import Introspect.Console.Markup

/-!
# Log levels and handlers

Records go from a logger to its handlers and to those of the loggers above it; both have a
threshold.  One of the handlers at the top writes to the console that is in use.

* `Level`               the levels of records, with their words and marks;
* `Handler`             a handler that writes to a console, or another one;
* `Logger`              a logger below the one at the top;
* `Logging`             the console in use, and the threshold and the handlers at the top;
* `Logging.setConsole`  another console comes into use;
* `Logging.enableDebug` the thresholds are lowered;
* `Change`              one of these calls, and `Logging.after` several of them;
* `Logging.deliveries`  the consoles that a record reaches, with what they show of it.
-/

namespace Introspect.Console

inductive Level where
  | debug
  | info
  | success
  | warning
  | error
  deriving DecidableEq, Repr

namespace Level

def rank : Level → Int
  | .debug => 10
  | .info => 20
  | .success => 25
  | .warning => 30
  | .error => 40

def word : Level → String
  | .debug => "DEBUG"
  | .info => "INFO"
  | .success => "SUCCESS"
  | .warning => "WARNING"
  | .error => "ERROR"

/-- what stands before a message to the user -/
def mark : Level → String
  | .debug => ""
  | .info => "ℹ️  "
  | .success => "✅ "
  | .warning => "⚠️  "
  | .error => "❌ "

end Level

inductive Handler where
  /-- writes records from a rank on to a console -/
  | console (id : Nat) (threshold : Int)
  /-- some other handler -/
  | other (id : Nat)
  deriving DecidableEq, Repr

namespace Handler

/-- whether a handler writes to a console -/
def isConsole : Handler → Bool
  | .console .. => true
  | .other _ => false

/-- the threshold of a handler lowered, if it writes to a console -/
def lowered (rank : Int) : Handler → Handler
  | .console id _ => .console id rank
  | h => h

/-- the console that a handler writes a record of a rank to -/
def receiver? (rank : Int) : Handler → Option Nat
  | .console id threshold => if threshold ≤ rank then some id else none
  | .other _ => none

end Handler

/-- a logger below the one at the top, which all records reach that are passed on -/
structure Logger where
  /-- otherwise that of the next logger above it which has one -/
  threshold : Option Int := none
  /-- whether the handlers above it get its records, too -/
  propagates : Bool := true
  handlers : List Handler := []
  deriving DecidableEq, Repr

structure Logging where
  active : Nat
  threshold : Int
  handlers : List Handler
  /-- the consoles made so far -/
  made : Nat
  deriving DecidableEq, Repr

namespace Logging

/-- the logger writes to a console, from the level of information on; other handlers stay -/
def pointTo (l : Logging) (console : Nat) : Logging :=
  { l with
    active := console
    threshold := Level.info.rank
    handlers := l.handlers.filter (fun h => !h.isConsole) ++ [.console console Level.info.rank] }

def setConsole (l : Logging) (console : Nat) : Logging :=
  { l with made := max l.made (console + 1) }.pointTo console

/-- a new console comes into use -/
def resetConsole (l : Logging) : Logging := l.setConsole l.made

def enableDebug (l : Logging) : Logging :=
  { l with
    threshold := Level.debug.rank
    handlers := l.handlers.map (Handler.lowered Level.debug.rank) }

/-- a logger with given handlers, before any console is in use -/
def ofHandlers (handlers : List Handler) : Logging := ⟨0, 30, handlers, 0⟩

/-- the logger at the start -/
def initial : Logging := (ofHandlers []).resetConsole

end Logging

/-- the calls that change where records go -/
inductive Change where
  | setConsole (console : Nat)
  | resetConsole
  | enableDebug
  deriving DecidableEq, Repr

/-- whether another console comes into use -/
def Change.isSwap : Change → Bool
  | .enableDebug => false
  | _ => true

namespace Logging

def change (l : Logging) : Change → Logging
  | .setConsole console => l.setConsole console
  | .resetConsole => l.resetConsole
  | .enableDebug => l.enableDebug

/-- after some calls, one after the other -/
def after (l : Logging) (changes : List Change) : Logging := changes.foldl change l

/-! Loggers are listed from the one that takes a record up to the last one below the top. -/

/-- from which rank on the first of some loggers takes records -/
def thresholdOf (l : Logging) (loggers : List Logger) : Int :=
  (loggers.findSome? Logger.threshold).getD l.threshold

/-- the handlers that get the records of the first of some loggers -/
def handlersOf (l : Logging) : List Logger → List Handler
  | [] => l.handlers
  | g :: gs => g.handlers ++ if g.propagates then l.handlersOf gs else []

/-- the consoles that a record of the first of some loggers reaches -/
def receivers (l : Logging) (loggers : List Logger) (rank : Int) : List Nat :=
  if l.thresholdOf loggers ≤ rank then (l.handlersOf loggers).filterMap (Handler.receiver? rank)
  else []

/-- a record, read as markup, on each console that it reaches -/
def deliveries (l : Logging) (d : Markup.Dialect) (loggers : List Logger) (rank : Int)
    (message : String) : Except Fault (List (Nat × List Char)) :=
  (l.receivers loggers rank).mapM fun console => do return (console, ← d.plainOf message)

end Logging

end Introspect.Console
