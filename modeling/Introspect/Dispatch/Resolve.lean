import Introspect.Dispatch.Store

/-!
# Choosing a method

* `subclassTest`            the subclass test between types, alternatives and tuples included;
* `Method.isApplicable`     every argument type is a subclass of the declared one;
* `Method.couldMatch`       some call with arguments of the given types may choose the method;
* `Method.isMoreSpecific`   strictly narrower at a number of arguments;
* `Store.resolve`           the applicable method that no applicable one is narrower than.
-/

namespace Introspect

mutual

def subclassTest (h : Hierarchy) (a : Value) : Value → Except Fault Bool
  | .cls d =>
    match a with
    | .cls c => .ok (h.isSubclass c d)
    | _ => .error .badClassTest
  | .union ms | .tuple ms => subclassOfAny h a ms
  | .typing form ms =>
    match form with
    | .union => subclassOfAny h a ms
    | .optional => do
      if ← subclassOfAny h a ms then .ok true
      else
        match a with
        | .cls c => .ok (h.isSubclass c .noneType)
        | _ => .error .badClassTest
    | .list =>
      match ms, a with
      | [], .cls c => .ok (h.isSubclass c .list)
      | _, _ => .error .badClassTest
    | _ => .error .badClassTest
  | _ => .error .badClassTest
termination_by structural s => s

/-- whether `a` is a subclass of one of several types, the first success or fault deciding -/
def subclassOfAny (h : Hierarchy) (a : Value) : List Value → Except Fault Bool
  | [] => .ok false
  | s :: ss => do if ← subclassTest h a s then .ok true else subclassOfAny h a ss
termination_by structural ss => ss

end

/-- a test of two signatures position by position, up to the first failure -/
def allPairs (test : Value → Value → Except Fault Bool) :
    Signature → Signature → Except Fault Bool
  | a :: as, b :: bs => do if ← test a b then allPairs test as bs else .ok false
  | _, _ => .ok true

/-- the first test that succeeds or fails decides -/
def anyOf {α : Type} (test : α → Except Fault Bool) : List α → Except Fault Bool
  | [] => .ok false
  | x :: xs => do if ← test x then .ok true else anyOf test xs

/-- the elements that pass a test -/
def filterBy {α : Type} (test : α → Except Fault Bool) : List α → Except Fault (List α)
  | [] => .ok []
  | x :: xs => do
    let keep ← test x
    let rest ← filterBy test xs
    .ok (if keep then x :: rest else rest)

namespace Method

def isApplicable (h : Hierarchy) (m : Method) (types : Signature) : Except Fault Bool :=
  match m.parameterTypes types.length with
  | none => .ok false
  | some ps => allPairs (subclassTest h) types ps

/-- either type is a subclass of the other -/
def related (h : Hierarchy) (a b : Value) : Except Fault Bool := do
  if ← subclassTest h a b then .ok true else subclassTest h b a

def couldMatch (h : Hierarchy) (m : Method) (types : Signature) : Except Fault Bool :=
  match m.parameterTypes types.length with
  | none => .ok false
  | some ps => allPairs (related h) types ps

/-- whether the first signature differs from the second and is nowhere wider -/
def narrower (h : Hierarchy) (mine theirs : Signature) : Except Fault Bool :=
  if mine == theirs then .ok false else allPairs (subclassTest h) mine theirs

/-- whether a method is strictly narrower than another: at a number of arguments, or else by the
required parameters -/
def isMoreSpecific (h : Hierarchy) (m other : Method) (arity : Option Nat) : Except Fault Bool :=
  match arity with
  | none => narrower h m.required other.required
  | some n =>
    match m.parameterTypes n, other.parameterTypes n with
    | some mine, some theirs => narrower h mine theirs
    | _, _ => .ok false

end Method

namespace Store

/-- the methods of a table that apply to the types of a call -/
def candidates (s : Store) (h : Hierarchy) (t : Table) (types : Signature) :
    Except Fault (List Nat) :=
  filterBy (fun m => (s.method m).isApplicable h types) t.methods

/-- the candidates than which no candidate is narrower -/
def unbeaten (s : Store) (h : Hierarchy) (arity : Nat) (candidates : List Nat) :
    Except Fault (List Nat) :=
  filterBy (fun m => (anyOf (fun o => (s.method o).isMoreSpecific h (s.method m) (some arity))
    candidates).map (!·)) candidates

def resolve (s : Store) (view : Surroundings) (f : Nat) (types : Signature) :
    Except Fault Nat := do
  let h := view.hierarchy
  let t ← s.table? f
  let call := (s.function f).name ++ signatureText view types
  match ← s.candidates h t types with
  | [] => .error (.noMethod call)
  | cs =>
    match ← s.unbeaten h types.length cs with
    | [m] => .ok m
    | [] => .error .outOfRange
    | ms => .error (.ambiguous call (ms.map fun m => (Value.method m).display view))

/-- the methods of a function, or those that may match a signature -/
def methodsOf (s : Store) (h : Hierarchy) (f : Nat) (filter : Option Signature) :
    Except Fault (List Nat) := do
  let t ← s.table? f
  match filter with
  | none => .ok t.methods
  | some types => filterBy (fun m => (s.method m).couldMatch h types) t.methods

end Store

end Introspect
