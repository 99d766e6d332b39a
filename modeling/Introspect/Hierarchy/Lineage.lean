import Introspect.Fault
import Introspect.Hierarchy.Subclass

/-!
# Lineage: the classes above and below a class

* `Hierarchy.supertype`   the primary base; the root is its own;
* `Hierarchy.supertypes`  the chain of primary bases, nearest first;
* `Hierarchy.subtypes`    the direct subclasses, by module and qualified name;
* `preorder`              the paths down a listing, depth first, each by its depth and its end;
* `Hierarchy.tree`        the tree below a class, one line a path, four blanks a generation.
-/

namespace Introspect

namespace Hierarchy

def supertype (h : Hierarchy) (c : ClassId) : ClassId := (h.info c).primary.getD c

/-- at most `n` primary bases above a class -/
def supertypesWithin (h : Hierarchy) : Nat → ClassId → List ClassId
  | 0, _ => []
  | n + 1, c =>
    match (h.info c).primary with
    | none => []
    | some p => if p = c then [] else p :: h.supertypesWithin n p

/-- the chain of primary bases above a class, nearest first; bases stand before the classes made
from them, so the place of the class bounds the length -/
def supertypes (h : Hierarchy) (c : ClassId) : List ClassId := h.supertypesWithin c.index c

/-- the order of classes in listings: by module, then by qualified name -/
def listedBefore (h : Hierarchy) (c d : ClassId) : Bool :=
  let i := h.info c
  let j := h.info d
  i.module < j.module || (i.module == j.module && !(j.qualname < i.qualname))

def subtypes (h : Hierarchy) (c : ClassId) : List ClassId :=
  (h.directSubclasses c).mergeSort h.listedBefore

end Hierarchy

/-- four blanks a generation; above the first one there are none -/
def indentation (depth : Int) : String := String.ofList (List.replicate (4 * depth).toNat ' ')

/-- the paths from `c` along `below`, depth first, each by its depth and its end; nothing when one
of them has `n` steps or more, which no path of an acyclic listing over fewer elements has -/
def preorder {α : Type} (below : α → List α) : Nat → Int → α → Option (List (Int × α))
  | 0, _, _ => none
  | n + 1, depth, c =>
    ((below c).mapM (preorder below n (depth + 1))).map fun es => (depth, c) :: es.flatten

def treeLine (depth : Int) (name : String) : String := indentation depth ++ name

namespace Hierarchy

def tree (h : Hierarchy) (below : ClassId → List ClassId) (depth : Int) (c : ClassId) :
    Except Fault (List String) :=
  match preorder below (h.size + 1) depth c with
  | some es => .ok (es.map fun e => treeLine e.1 (h.typeName e.2))
  | none => .error .tooDeep

end Hierarchy

end Introspect
