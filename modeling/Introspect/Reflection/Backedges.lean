import Introspect.Reflection.Specializations

/-!
# What depends on a function

* `pairInterleaved`  pairs the elements of a list `[a, b, a, b, …]`, which must be of even length;
* `pairValue`        the same for a value that has items;
* `EdgeKey`          a variant, or a dispatch table together with a signature;
* `backedges`        the dependents of a function by key: its variants first, then the signatures of
                     its table in the order in which they first occur.
-/

namespace Introspect

/-- the pairs of an interleaved list; an element without a partner is left out -/
def pairs {α : Type} : List α → List (α × α)
  | a :: b :: rest => (a, b) :: pairs rest
  | _ => []

/-- a value as what is inspected -/
def Subject.of (view : Surroundings) (v : Value) : Subject where
  function := match v with | .generic f => some f | _ => none
  shown := v.display view

def pairInterleaved (display : Value → String) (subject : Option Subject) (flat : List Value) :
    Except Fault (List (Value × Value)) :=
  if flat.length % 2 = 0 then .ok (pairs flat)
  else .error (.oddEdges flat.length ((flat.getLast?.map display).getD "") subject)

/-- the items of a value by their positions; these are no keys of a mapping -/
def positionedItems (h : Hierarchy) (v : Value) : Except Fault (List Value) :=
  match v, v.items h with
  | .dict (_ :: _), _ => .error (.noKey "0")
  | _, .ok items => .ok items
  | v, .error _ => .error (.noLength (v.className h))

def pairValue (view : Surroundings) (subject : Option Value) (flat : Value) :
    Except Fault (List (Value × Value)) := do
  let items ← positionedItems view.hierarchy flat
  pairInterleaved (Value.display view) (subject.map (Subject.of view)) items

inductive EdgeKey where
  | variant (v : Nat)
  /-- the dispatch of a function on a signature, which may be any value that can be a key -/
  | table (f : Nat) (signature : Value)

/-- the dependents by key, in the order of the keys -/
abbrev EdgeMap := List (EdgeKey × List Value)

/-- the dependents of a variant; a list that cannot be read counts as empty -/
def variantEdges (s : Store) (h : Hierarchy) (v : Nat) : List Value :=
  match (s.variant v).dependents with
  | .held items => items
  | .missing => []
  | .replaced v => (v.items h).toOption.getD []

/-- the interleaved list of a function's table -/
def tableEdges (s : Store) (h : Hierarchy) (f : Value) : Except Fault (List Value) :=
  match f with
  | .generic f => do
    match (← s.table? f).edges with
    | .held items => .ok items
    | .missing => .error (.noAttribute "MethodTable" "backedges")
    | .replaced v => v.items h
  | v => .error (.noAttribute (v.className h) "table")

/-- a dependent under a signature; a signature that is there keeps its place -/
def addGrouped (groups : List (Value × List Value)) (signature dependent : Value) :
    List (Value × List Value) :=
  match groups with
  | [] => [(signature, [dependent])]
  | (k, ds) :: rest =>
    if k == signature then (k, ds ++ [dependent]) :: rest
    else (k, ds) :: addGrouped rest signature dependent

/-- the dependents by signature, in the order in which the signatures first occur -/
def groupEdges (h : Hierarchy) :
    List (Value × Value) → List (Value × List Value) → Except Fault (List (Value × List Value))
  | [], groups => .ok groups
  | (k, d) :: rest, groups => do
    k.requireHashable h
    groupEdges h rest (addGrouped groups k d)

def backedges (s : Store) (view : Surroundings) (source : VariantSource) (f : Value) :
    Noting EdgeMap := do
  let h := view.hierarchy
  let owned ← specializations s view source f none
  let onVariants : EdgeMap := owned.map fun e => (.variant e.1, variantEdges s h e.1)
  let flat ←
    match tableEdges s h f with
    | .ok flat => pure flat
    | .error e =>
      if e.kind == .attribute || e.kind == .type then do
        note ("Dispatch table edges of " ++ (← describe s view f) ++ " are unavailable: "
          ++ e.message)
        pure []
      else throw e
  let edges ← liftNoting (pairInterleaved (Value.display view) (some (.of view f)) flat)
  let groups ← liftNoting (groupEdges h edges [])
  let place := match f with | .generic f => f | _ => 0
  return onVariants ++ groups.map fun g => (.table place g.1, g.2)

end Introspect
