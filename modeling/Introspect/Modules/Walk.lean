import Introspect.Modules.Basic

/-!
# Walking modules

The children of a module are the other modules bound in it; a module may have several parents, and
there may be cycles.

* `Catalog.childAt`      the child that a key is bound to;
* `Catalog.children`     the children of a module that pass the filters of a walk, by name, each
                         once;
* `discover`             everything found from a start, level by level, each once;
* `Catalog.boundModules` the modules that are bound somewhere, which bound the length of a walk;
* `Catalog.descendants`  the modules below a root, in the order of their discovery.
-/

namespace Introspect

/-- what a walk enters besides the modules that belong to their parent -/
structure WalkScope where
  /-- foundational modules -/
  foundational : Bool
  /-- modules bound by import -/
  imported : Bool
  deriving DecidableEq, Repr

/-- the elements that are not there yet, each once -/
def fresh (seen xs : List Nat) : List Nat := (xs.filter fun x => !seen.contains x).eraseDups

/-- everything found from the pending elements: the first of them is replaced, at the end, by those
of its successors that were not seen before; `n` bounds the steps -/
def discover (next : Nat → Except Fault (List Nat)) :
    Nat → List Nat → List Nat → Except Fault (List Nat)
  | 0, seen, _ => .ok seen
  | _ + 1, seen, [] => .ok seen
  | n + 1, seen, x :: pending => do
    let new := fresh seen (← next x)
    discover next n (seen ++ new) (pending ++ new)

namespace Catalog

/-- the module that a key is bound to, other than the module itself; the short name of a module
stands for the module itself -/
def childAt (c : Catalog) (m : Value) (e : Value × Value) : Except Fault (Option Nat) :=
  if e.1 == .str (shortName (c.nameText m)) then .ok none
  else if e.2.refuses c.hierarchy then .error .refused
  else
    match e.2 with
    | .module i => .ok (if m == .module i then none else some i)
    | _ => .ok none

/-- whether a name is bound to a child -/
def isSubmodule (c : Catalog) (m : Value) (name : String) : Except Fault Bool := do
  match Value.lookup (.str name) (← c.namespaceOf m) with
  | none => return false
  | some v => return (← c.childAt m (.str name, v)).isSome

/-- whether a walk below `root` goes from a module to a child -/
def enters (c : Catalog) (settings : Settings) (scope : WalkScope) (root m : Value)
    (child : Nat) : Bool :=
  let childName := c.nameText (.module child)
  (scope.foundational || !c.isFoundational settings (.module child)
      || topPackage childName == topPackage (c.nameText root))
    && (scope.imported || (c.nameText m ++ ".").toList.isPrefixOf childName.toList)

/-- the children of a module below `root`, by name; a value without a namespace has none, and neither
has one whose keys cannot be compared -/
def childrenBelow (c : Catalog) (settings : Settings) (scope : WalkScope) (root m : Value) :
    Except Fault (List Nat) :=
  match c.entriesOf m with
  | .error e => if e.kind = .type then .ok [] else .error e
  | .ok entries => do
    let found ← entries.mapM (c.childAt m)
    return ((found.filterMap id).filter (c.enters settings scope root m)).eraseDups

/-- what a reader of diagnostics is told about modules that were walked -/
def walkNotes (c : Catalog) (ms : List Value) : List String :=
  ms.filterMap fun m =>
    match c.entriesOf m with
    | .ok _ => none
    | .error _ => some (m.display c.view ++ " exposes no namespace")

def children (c : Catalog) (settings : Settings) (scope : WalkScope) (m : Value) :
    Except Fault (List Nat) := c.childrenBelow settings scope m m

/-- the modules that are bound in modules, one for each binding -/
def boundModules (c : Catalog) : List Nat :=
  c.modules.toList.flatMap fun m => m.bindings.filterMap fun e => e.2.module?

/-- the modules below a root; a walk takes one step for each module that it finds -/
def descendants (c : Catalog) (settings : Settings) (scope : WalkScope) (root : Value) :
    Except Fault (List Nat) := do
  let start := match root with | .module r => [r] | _ => []
  let first := fresh start (← c.children settings scope root)
  let seen ← discover (fun m => c.childrenBelow settings scope root (.module m))
    (first.length + c.boundModules.length) (start ++ first) first
  return seen.drop start.length

end Catalog

end Introspect
