import Introspect.Settings.Basic
import Introspect.Settings.Directory
import Introspect.Settings.Toml
import Introspect.Value.Operations

/-!
# Settings from a file and from explicit arguments

* `fileSettings`       the table of settings in the bytes of a configuration file; a file that
                       breaks the format has none, and one that exceeds a limit is refused;
* `Settings.merged`    explicit arguments over the table of the file over the defaults;
* `Settings.load`      the settings that result, validated.
-/

namespace Introspect

mutual

/-- the value of a part of a configuration file -/
def Toml.toValue : Toml → Value
  | .text s => .str s
  | .int n => .int n
  | .float x => .float x
  | .bool b => .bool b
  | .moment => .instanceOf .date 0
  | .array items => .list (Toml.toValues items)
  | .table entries => .dict (Toml.toEntries entries)
termination_by structural t => t

def Toml.toValues : List Toml → List Value
  | [] => []
  | t :: ts => t.toValue :: Toml.toValues ts
termination_by structural ts => ts

def Toml.toEntries : List (String × Toml) → List (Value × Value)
  | [] => []
  | (k, t) :: es => (.str k, t.toValue) :: Toml.toEntries es
termination_by structural es => es

end

def settingsFileName : String := "pyproject.toml"

/-- the table under a name of a table, empty when it is not there -/
def subtable (name : String) (t : Value) : Except Fault Value :=
  match t with
  | .dict entries => .ok ((Value.lookup (.str name) entries).getD (.dict []))
  | _ => .error (.noAttribute "value" "get")

def fileSettings (l : Toml.Limits) (bytes : List UInt8) : Except Fault Value :=
  match String.fromUTF8? (ByteArray.mk bytes.toArray) with
  | none => .error .undecodable
  | some text =>
    match Toml.parse l text with
    | .error .malformed => .ok (.dict [])
    | .error .longNumber => .error .longNumber
    | .error .tooDeep => .error .tooDeep
    | .ok entries => do
      let tools ← subtable "tool" (.dict (Toml.toEntries entries))
      subtable "looking_glass" tools

namespace Settings

/-- the entry of a table under the key of a setting -/
def entry? (table : Value) (s : Setting) : Except Fault (Option Value) :=
  match table with
  | .dict entries => .ok (Value.lookup (.str s.key) entries)
  | _ => .error (.noAttribute "value" "get")

/-- an explicit argument; nothing counts as not given -/
def argument? (given : List (String × Value)) (s : Setting) : Option Value :=
  match given.lookup s.key with
  | some .none => none
  | v => v

/-- a list followed by the values that it does not hold yet, each once -/
def joined (vs extra : List Value) : List Value :=
  extra.foldl (fun vs v => if vs.contains v then vs else vs ++ [v]) vs

/-- the values of the settings: an explicit argument, or else the value of the file; the packages of
both are joined -/
def merged (h : Hierarchy) (table : Value) (given : List (String × Value)) :
    Except Fault (Setting → Option Value) := do
  let explicit := argument? given
  let listed ← entry? table .foundationalModules
  let modules ← (listed.getD (.list [])).items h
  let extra ←
    match explicit .foundationalModules with
    | none => pure []
    | some v => if v.truthy h then v.items h else pure []
  let internal := (explicit .internalPrefix).filter fun v => v.truthy h
  let prefixEntry ← entry? table .internalPrefix
  let foundationalEntry ← entry? table .includeFoundational
  let importedEntry ← entry? table .includeImported
  return fun
    | .internalPrefix => internal <|> prefixEntry
    | .includeFoundational => explicit .includeFoundational <|> foundationalEntry
    | .includeImported => explicit .includeImported <|> importedEntry
    | .foundationalModules => some (.list (joined modules extra))

/-- validation as an inspection does it -/
def ofValues (given : Setting → Option Value) : Except Fault Settings :=
  match validated given with
  | .ok s => .ok s
  | .error ps => .error (.badSettings ps)

/-- settings from explicit values only; keys of no setting are left out of account -/
def ofGiven (given : List (String × Value)) : Except Fault Settings :=
  ofValues fun s => given.lookup s.key

def load (l : Toml.Limits) (h : Hierarchy) (file : Option (List UInt8))
    (given : List (String × Value)) : Except Fault Settings := do
  let table ← (file.map (fileSettings l)).getD (.ok (.dict []))
  ofValues (← merged h table given)

/-- whether every explicit argument is one of a setting -/
def areArguments (given : List (String × Value)) : Bool :=
  given.all fun e => Setting.all.any fun s => s.key == e.1

/-- settings for an inspection that starts at a place of a directory tree; nothing is found for a
place outside -/
def loadFrom (l : Toml.Limits) (h : Hierarchy) (d : Directory) (start : Option Path)
    (given : List (String × Value)) : Except Fault Settings :=
  if areArguments given then load l h (start.bind (d.nearest? settingsFileName)) given
  else .error .badArguments

end Settings

end Introspect
