/-!
# Classes and hierarchies

A hierarchy is a table of classes in the order in which they came to be, so that every class stands
after its bases.

* `ClassId`            the place of a class in the table;
* `ClassInfo`          what is known about one class, its resolution order included;
* `Hierarchy.mro`      the resolution order of a class, itself first;
* `Hierarchy.inherits` real subclassing: membership in the resolution order.
-/

namespace Introspect

structure ClassId where
  index : Nat
  deriving DecidableEq, Repr, Inhabited

/-- what kind of thing a class itself is -/
inductive Family where
  /-- an ordinary class -/
  | plain
  /-- an abstract class, which may adopt virtual subclasses -/
  | abstract
  /-- a class made by another kind of class maker, which is named -/
  | made (maker : String)
  deriving DecidableEq, Repr

/-- whether the instances of a class are records -/
inductive RecordKind where
  | none
  /-- a record with fields; whether it is frozen may be missing -/
  | fields (frozen : Option Bool)
  /-- a validated record -/
  | model (frozen : Bool)
  deriving DecidableEq, Repr

/-- what the instances of a class can do, as far as inspections ask -/
structure Traits where
  callable : Bool := false
  unhashable : Bool := false
  /-- instances refuse to be examined -/
  refuses : Bool := false
  /-- no class may derive from this one -/
  sealed : Bool := false
  /-- the class cannot be instantiated without arguments -/
  needsArguments : Bool := false
  /-- instances have a namespace of their own, which is empty at first -/
  namespaced : Bool := false
  record : RecordKind := .none
  deriving DecidableEq, Repr

structure ClassInfo where
  name : String
  qualname : String
  module : String
  bases : List ClassId
  /-- the base whose instances this class extends -/
  primary : Option ClassId
  /-- the resolution order, the class itself first -/
  mro : List ClassId
  /-- the ancestor that fixes the layout of instances -/
  layout : ClassId
  family : Family
  /-- classes adopted as virtual subclasses -/
  adopted : List ClassId
  traits : Traits
  deriving Repr

instance : Inhabited ClassInfo :=
  ⟨⟨"object", "object", "builtins", [], none, [], ⟨0⟩, .plain, [], {}⟩⟩

/-- a table of classes, bases before the classes derived from them -/
structure Hierarchy where
  classes : Array ClassInfo
  /-- no class stands in the resolution order of one that was made before it -/
  ordered : ∀ (i : Nat) (c : ClassInfo), classes[i]? = some c → ∀ d ∈ c.mro, d.index ≤ i

namespace Hierarchy

/-- the hierarchy without classes -/
def empty : Hierarchy := ⟨#[], by simp⟩

/-- the number of classes -/
def size (h : Hierarchy) : Nat := h.classes.size

/-- what is known about a class -/
def info (h : Hierarchy) (c : ClassId) : ClassInfo := h.classes.getD c.index default

def mro (h : Hierarchy) (c : ClassId) : List ClassId := (h.info c).mro

def inherits (h : Hierarchy) (c d : ClassId) : Bool := (h.mro c).contains d

theorem index_le_of_mem_mro {h : Hierarchy} {c d : ClassId} (hd : d ∈ h.mro c) :
    d.index ≤ c.index := by
  unfold mro info at hd
  rw [Array.getD_eq_getD_getElem?] at hd
  cases hc : h.classes[c.index]? with
  | none =>
    rw [hc] at hd
    exact absurd hd List.not_mem_nil
  | some i =>
    rw [hc] at hd
    exact h.ordered c.index i hc d hd

/-- two classes that inherit from each other are the same -/
theorem inherits_antisymm {h : Hierarchy} {c d : ClassId} (hcd : h.inherits c d = true)
    (hdc : h.inherits d c = true) : c = d := by
  have h1 := index_le_of_mem_mro (List.contains_iff_mem.mp hcd)
  have h2 := index_le_of_mem_mro (List.contains_iff_mem.mp hdc)
  exact congrArg ClassId.mk (Nat.le_antisymm h2 h1)

def className (h : Hierarchy) (c : ClassId) : String := (h.info c).name

/-- the name of a class inside its module -/
def qualname (h : Hierarchy) (c : ClassId) : String := (h.info c).qualname

/-- the full name of a class; its module is left out for the classes of the language itself -/
def typeName (h : Hierarchy) (c : ClassId) : String :=
  let i := h.info c
  if i.module = "builtins" then i.qualname else i.module ++ "." ++ i.qualname

/-- a class between angle brackets -/
def display (h : Hierarchy) (c : ClassId) : String := "<class '" ++ h.typeName c ++ "'>"

/-- all classes, in the order of their making -/
def ids (h : Hierarchy) : List ClassId := (List.range h.size).map ClassId.mk

/-- whether some class of the resolution order has a trait -/
def someTrait (h : Hierarchy) (c : ClassId) (p : Traits → Bool) : Bool :=
  (h.mro c).any fun d => p (h.info d).traits

/-- the record kind of a class: that of the nearest ancestor with one -/
def recordKind (h : Hierarchy) (c : ClassId) : RecordKind :=
  ((h.mro c).map fun d => (h.info d).traits.record).find? (· != .none) |>.getD .none

end Hierarchy

end Introspect
