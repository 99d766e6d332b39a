import Introspect.Value.Operations

/-!
# Storage layouts and the versions that use them

* `Layout`            variants in a table of slots, or in a chain of entries;
* `Layout.ofVersion`  the layout of a version: slots from version `1.5` on.
-/

namespace Introspect

inductive Layout where
  | slots
  | linked
  deriving DecidableEq, Repr, Inhabited

namespace Layout

def word : Layout → String
  | .slots => "slots"
  | .linked => "linked"

def readerName : Layout → String
  | .slots => "SlotArraySource"
  | .linked => "LinkedEntrySource"

/-- the first version that keeps variants in slots -/
def slotsSince : List Value := [.int 1, .int 5]

def currentVersion : Value := .tuple [.int 2, .int 1]

/-- whether the first sequence is not below the second: decided at the first items that differ, or
else by the lengths -/
def reaches (h : Hierarchy) : List Value → List Value → Except Fault Bool
  | _, [] => .ok true
  | [], _ :: _ => .ok false
  | x :: xs, y :: ys => if x == y then reaches h xs ys else x.exceeds h y

def ofVersion (h : Hierarchy) (version : Value) : Except Fault Layout := do
  let vs ← version.items h
  return if ← reaches h vs slotsSince then .slots else .linked

/-- the layout of a version that may be left open -/
def ofVersionOrCurrent (h : Hierarchy) (version : Value) : Except Fault Layout :=
  ofVersion h (if version.truthy h then version else currentVersion)

end Layout

end Introspect
