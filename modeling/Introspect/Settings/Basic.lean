import Introspect.Settings.Problem
import Introspect.Value.Basic

/-!
# Settings of an inspection

* `Settings`             what an inspection can be told: which names are internal, which modules a
                         walk enters, and which packages count as foundational;
* `Settings.isInternal`  whether a name is left out of reports;
* `Settings.validated`   settings from given values, or all problems with them in the order of the
                         settings.
-/

namespace Introspect

structure Settings where
  /-- names that start like this are internal -/
  internalPrefix : String := "__"
  /-- whether walks enter foundational modules -/
  includeFoundational : Bool := false
  /-- whether walks enter modules that are bound by import -/
  includeImported : Bool := false
  /-- packages that are foundational, besides the standard ones -/
  foundationalModules : List String := []
  deriving DecidableEq, Repr

namespace Settings

def isInternal (s : Settings) (name : String) : Bool :=
  s.internalPrefix.toList.isPrefixOf name.toList

def negativeWords : List String := ["0", "off", "f", "false", "n", "no"]

/-- the words that mean yes -/
def positiveWords : List String := ["1", "on", "t", "true", "y", "yes"]

/-- the truth value that a word means, in letters of either case -/
def ofWord (s : String) : Except Mismatch Bool :=
  let w := String.ofList (s.toList.map Char.toLower)
  if positiveWords.contains w then .ok true
  else if negativeWords.contains w then .ok false
  else .error .unclearTruth

/-- the integers of 64 bits -/
def isWord64 (n : Int) : Bool := -0x8000000000000000 ≤ n && n < 0x8000000000000000

def ofInteger (n : Int) : Except Mismatch Bool :=
  if n = 0 then .ok false
  else if n = 1 then .ok true
  else if isWord64 n then .error .unclearTruth
  else .error .notTruth

/-- the integer that a value stands for where a truth value is expected -/
def integer? (v : Value) : Option Int :=
  match v with
  | .int n => some n
  | .float x =>
    match Value.Magnitude.ofFloat x with
    | .exact q => if q.den = 1 then some q.num else none
    | _ => none
  | _ => none

def truth (v : Value) : Except Mismatch Bool :=
  match v with
  | .bool b => .ok b
  | .str s => ofWord s
  | v =>
    match integer? v with
    | some n => ofInteger n
    | none => .error .notTruth

def text (v : Value) : Except Mismatch String :=
  match v with
  | .str s => .ok s
  | _ => .error .notText

/-- the prefix that a value is; every name would start with an empty one -/
def nonEmptyText (v : Value) : Except Mismatch String := do
  let s ← text v
  if s = "" then .error .emptyPrefix else .ok s

/-- the value of one setting, or its problem -/
def check {α : Type} (setting : Setting) (read : Value → Except Mismatch α) (v : Value) :
    Except (List Problem) α :=
  match read v with
  | .ok a => .ok a
  | .error m => .error [{ setting, mismatch := m }]

/-- the texts of a list, or a problem for each item that is none; `i` is the place of the first -/
def checkItems (setting : Setting) : Nat → List Value → Except (List Problem) (List String)
  | _, [] => .ok []
  | i, v :: vs =>
    match text v, checkItems setting (i + 1) vs with
    | .ok s, .ok ss => .ok (s :: ss)
    | .ok _, .error ps => .error ps
    | .error m, .ok _ => .error [⟨setting, some i, m⟩]
    | .error m, .error ps => .error (⟨setting, some i, m⟩ :: ps)

def checkTexts (setting : Setting) (v : Value) : Except (List Problem) (List String) :=
  match v with
  | .list vs => checkItems setting 0 vs
  | _ => .error [{ setting, mismatch := .notList }]

def problems {α : Type} : Except (List Problem) α → List Problem
  | .ok _ => []
  | .error ps => ps

/-- settings from given values, an open one being the default; all problems are reported, in the
order of the settings -/
def validated (given : Setting → Option Value) : Except (List Problem) Settings :=
  let d : Settings := {}
  let read {α : Type} (s : Setting) (f : Value → Except (List Problem) α) (otherwise : α) :
      Except (List Problem) α := (given s).elim (.ok otherwise) f
  let internal := read .internalPrefix (check .internalPrefix nonEmptyText) d.internalPrefix
  let foundational :=
    read .includeFoundational (check .includeFoundational truth) d.includeFoundational
  let imported := read .includeImported (check .includeImported truth) d.includeImported
  let modules := read .foundationalModules (checkTexts .foundationalModules) d.foundationalModules
  match internal, foundational, imported, modules with
  | .ok p, .ok f, .ok i, .ok ms => .ok ⟨p, f, i, ms⟩
  | _, _, _, _ =>
    .error (problems internal ++ problems foundational ++ problems imported ++ problems modules)

end Settings

end Introspect
