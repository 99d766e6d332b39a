import Introspect.Hierarchy.Basic

/-!
# Subclass tests

An ordinary class is tested by the resolution order.  An abstract class also counts the classes
that it has adopted, the subclasses of those, and whatever its own subclasses count.

* `Hierarchy.directSubclasses`  the classes that name a class among their bases;
* `Hierarchy.isSubclass`        the subclass test.
-/

namespace Introspect.Hierarchy

def directSubclasses (h : Hierarchy) (c : ClassId) : List ClassId :=
  h.ids.filter fun d => (h.info d).bases.contains c

/-- the subclass test with at most `n` steps through adopted classes and subclasses -/
def isSubclassWithin (h : Hierarchy) : Nat → ClassId → ClassId → Bool
  | 0, c, d => h.inherits c d
  | n + 1, c, d =>
    h.inherits c d
      || ((h.info d).family == .abstract
        && ((h.info d).adopted.any (h.isSubclassWithin n c)
          || (h.directSubclasses d).any (h.isSubclassWithin n c)))

def isSubclass (h : Hierarchy) (c d : ClassId) : Bool := h.isSubclassWithin h.size c d

theorem isSubclass_of_inherits {h : Hierarchy} {c d : ClassId} (hc : h.inherits c d = true) :
    h.isSubclass c d = true := by
  unfold isSubclass
  cases h.size <;> simp [isSubclassWithin, hc]

end Introspect.Hierarchy
