import Introspect.Command.Arguments
import Introspect.Vocabulary

/-!
# Commands

* `CommandLine`    what can be asked from the command line;
* `Invocation`     a whole command line: a command, or a reason to stop;
* `Invocation.of`  reads a command line.
-/

namespace Introspect

open Command (ParserSpec OptionSpec Parsed Stop)

/-- what can be asked from the command line -/
inductive CommandLine where
  | specializations (target : String) (signature : Option String)
  | backedges (target : String)
  | submodules (name : String) (direct : Bool) (foundational imported : Option Bool)
  | functions (name : String)
  | globals (name : String) (constness mutability : String) (recursive : Bool)
      (imported : Option Bool) (values : Bool)
  | typeTree (name : String)
  | supertypes (name : String)
  deriving DecidableEq, Repr

namespace CommandLine

def programName : String := "looking-glass"

def programVersion : String := "0.1.0"

def helpOption : OptionSpec := ⟨["-h", "--help"], .help⟩

/-- the options of the program itself; everything after the command belongs to it -/
def mainParser : ParserSpec where
  program := programName
  options := [helpOption, ⟨["--version"], .version⟩, ⟨["--debug"], .flag⟩]
  argument := "command"
  takesRest := true

def switch (word : String) : OptionSpec := ⟨[word], .flag⟩

def parserOf (command argument : String) (options : List OptionSpec) : ParserSpec where
  program := programName ++ " " ++ command
  options := helpOption :: options
  argument := argument

/-- a switch that leaves the settings alone when it is not given -/
def override (p : Parsed) (key : String) : Option Bool := if p.has key then some true else none

/-- the commands: their names, their parsers, and what they make of what was given -/
def table : List (String × ParserSpec × (Parsed → String → CommandLine)) := [
  ("specializations",
    parserOf "specializations" "target" [⟨["--signature"], .value []⟩],
    fun p a => .specializations a (p.value? "--signature")),
  ("backedges", parserOf "backedges" "target" [], fun _ a => .backedges a),
  ("submodules",
    parserOf "submodules" "module"
      [switch "--direct", switch "--foundational", switch "--imported"],
    fun p a => .submodules a (p.has "--direct") (override p "--foundational")
      (override p "--imported")),
  ("functions", parserOf "functions" "module" [], fun _ a => .functions a),
  ("globals",
    parserOf "globals" "module"
      [⟨["--constness"], .value Constness.vocabulary.words⟩,
        ⟨["--mutability"], .value Mutability.vocabulary.words⟩, switch "--recursive",
        switch "--imported", switch "--values"],
    fun p a => .globals a ((p.value? "--constness").getD "all")
      ((p.value? "--mutability").getD "all") (p.has "--recursive") (override p "--imported")
      (p.has "--values")),
  ("typetree", parserOf "typetree" "type" [], fun _ a => .typeTree a),
  ("supertypes", parserOf "supertypes" "type" [], fun _ a => .supertypes a)]

end CommandLine

structure Invocation where
  debug : Bool
  command : CommandLine

namespace Invocation

open CommandLine

/-- the command of a word, and what was given to it -/
def ofWords (debug : Bool) (extras : List String) : List String → Except Stop Invocation
  | [] => .error (.usage programName "the following arguments are required: command")
  | name :: rest =>
    match CommandLine.table.lookup name with
    | none =>
      mainParser.mistake "command" ("invalid choice: " ++ Text.quoted name ++ " (choose from "
        ++ ", ".intercalate (CommandLine.table.map fun e => Text.quoted e.1) ++ ")")
    | some (parser, make) => do
      let p ← parser.read rest
      let extras := extras ++ p.extras
      if extras.isEmpty then return ⟨debug, make p ((p.argument.getD []).headD "")⟩
      else .error (.usage programName ("unrecognized arguments: " ++ " ".intercalate extras))

def of (argv : List String) : Except Stop Invocation := do
  let p ← mainParser.read argv
  ofWords (p.has "--debug") p.extras (p.argument.getD [])

end Invocation

end Introspect
