import Introspect.Fault

/-!
# Directory trees

* `Path`                a place below the root of a tree, by the names on the way;
* `Path.resolved?`      a place from a text with `.` and `..`, nothing when it lies outside of the
                        tree;
* `Directory`           a tree, as a list of places with what stands there;
* `Directory.nearest?`  the content of a file of a given name in the nearest directory that holds
                        one, from a place upwards.
-/

namespace Introspect

abbrev Path := List String

namespace Path

/-- a place further along a text; `reversed` holds the names so far, the last one first -/
def follow : List String → List String → Option Path
  | reversed, [] => some reversed.reverse
  | reversed, part :: rest =>
    if part = "" ∨ part = "." then follow reversed rest
    else if part = ".." then
      match reversed with
      | [] => none
      | _ :: up => follow up rest
    else follow (part :: reversed) rest

def parts (text : String) : List String := text.splitOn "/"

/-- the place of a text below a place; a text that starts with a slash lies outside -/
def below (path : Path) (text : String) : Option Path :=
  if text.toList.head? = some '/' then none else follow path.reverse (parts text)

def resolved? (texts : List String) : Option Path :=
  texts.foldl (fun path text => path.bind fun p => below p text) (some [])

/-- a place and all above it, the place itself first -/
def upward : Path → List Path
  | [] => [[]]
  | name :: rest => (upward rest).map (name :: ·) ++ [[]]

end Path

/-- what stands at a place -/
inductive Node where
  | file (bytes : List UInt8)
  | folder
  deriving DecidableEq, Repr

abbrev Directory := List (Path × Node)

namespace Directory

/-- the content of the file at a place -/
def file? (d : Directory) (path : Path) : Option (List UInt8) :=
  match d.lookup path with
  | some (.file bytes) => some bytes
  | _ => none

def nearest? (d : Directory) (name : String) (path : Path) : Option (List UInt8) :=
  path.upward.findSome? fun p => d.file? (p ++ [name])

end Directory

end Introspect
