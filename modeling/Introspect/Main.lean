import Introspect.Session.Basic

/-!
# The program

Runs one command line against the modules that are always there, with the configuration file that is
nearest to the working directory.

* `nearestSettings`  the bytes of that file;
* `main`             runs the command line and writes its output.
-/

namespace Introspect.Program

/-- the bytes of a file, if it can be read -/
def readBytes? (path : String) : IO (Option (List UInt8)) := do
  try return some (← IO.FS.readBinFile path).toList
  catch _ => return none

def nearestSettings : Nat → String → IO (Option (List UInt8))
  | 0, _ => return none
  | n + 1, directory => do
    match ← readBytes? (directory ++ settingsFileName) with
    | some bytes => return some bytes
    | none => nearestSettings n (directory ++ "../")

/-- how many directories above the working directory are looked into -/
def searchDepth : Nat := 64

def commandNames : String := ", ".intercalate (CommandLine.table.map Prod.fst)

/-- what the scene of a program without modules of its own looks like -/
def scene (settingsFile : Option (List UInt8)) : Scene :=
  { Session.scene {} [] with settingsFile }

/-- runs a command line that was read; the result is the exit code -/
def run (invocation : Invocation) : IO UInt32 := do
  let file ← nearestSettings searchDepth ""
  match (scene file).invoke invocation with
  | .ok ending =>
    ending.output.lines.forM IO.println
    return ending.code.toUInt32
  | .error e =>
    IO.eprintln e.message
    return 1

end Introspect.Program

open Introspect in
def main (args : List String) : IO UInt32 := do
  match Invocation.of args with
  | .ok invocation => Program.run invocation
  | .error .help =>
    IO.println (CommandLine.programName ++ ": " ++ Program.commandNames)
    return 0
  | .error .version =>
    IO.println (CommandLine.programName ++ " " ++ CommandLine.programVersion)
    return 0
  | .error (.usage program message) =>
    IO.eprintln (program ++ ": error: " ++ message)
    return 2
