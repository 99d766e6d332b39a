import Introspect.Reflection.Source

/-!
# The variants of a function

* `collectVariants`   the variants of one method: all of them, or none when its storage cannot be
                      read;
* `specializations`   the variants of all methods of a function, each with its method;
* `VariantView`       a view of the variants of a method, which reads them anew each time.
-/

namespace Introspect

/-- the fault of a display that needs the table of a function which has none -/
def requireDisplay (s : Store) (v : Value) : Except Fault Unit :=
  (v.functionsShown.mapM s.table?).map fun _ => ()

/-- the display of a value in a note -/
def describe (s : Store) (view : Surroundings) (v : Value) : Noting String := do
  liftNoting (requireDisplay s v)
  return v.display view

def collectVariants (s : Store) (view : Surroundings) (source : VariantSource) (m : Nat) :
    Noting (List Nat) := do
  let y := source view.hierarchy (s.method m)
  match y.stopped with
  | none => return y.variants
  | some e =>
    if e.kind.isStorage then
      note ("Specialization storage of " ++ (Value.method m).display view ++ " is unavailable: "
        ++ e.message)
      return []
    else throw e

/-- a variant with its method; a variant that is there keeps its place -/
def addOwned (owned : List (Nat × Nat)) (v m : Nat) : List (Nat × Nat) :=
  if owned.any (·.1 == v) then owned.map fun e => if e.1 == v then (v, m) else e
  else owned ++ [(v, m)]

/-- the variants of several methods, each with its method -/
def specializationsOf (s : Store) (view : Surroundings) (source : VariantSource) :
    List Nat → List (Nat × Nat) → Noting (List (Nat × Nat))
  | [], owned => return owned
  | m :: ms, owned => do
    let vs ← collectVariants s view source m
    specializationsOf s view source ms (vs.foldl (fun o v => addOwned o v m) owned)

def methodsOfValue (s : Store) (h : Hierarchy) (f : Value) (filter : Option Signature) :
    Except Fault (List Nat) :=
  match f with
  | .generic f => s.methodsOf h f filter
  | v => .error (.noAttribute (v.className h) "methods")

/-- the variants of a function, each with its method; only the methods that may match the filter are
read, and a value without methods has no variants -/
def specializations (s : Store) (view : Surroundings) (source : VariantSource) (f : Value)
    (filter : Option Signature) : Noting (List (Nat × Nat)) := do
  match methodsOfValue s view.hierarchy f filter with
  | .ok ms => specializationsOf s view source ms []
  | .error e =>
    if e.kind == .attribute || e.kind == .type then
      note ((← describe s view f) ++ " has no readable method table")
      return []
    else throw e

structure VariantView where
  source : VariantSource
  method : Nat

namespace VariantView

def display (view : Surroundings) (v : VariantView) : String :=
  "VariantView(" ++ (Value.method v.method).display view ++ ")"

/-- the variants that a view shows now -/
def variants (s : Store) (h : Hierarchy) (v : VariantView) : Except Fault (List Nat) :=
  let y := v.source h (s.method v.method)
  match y.stopped with
  | none => .ok y.variants
  | some e => .error e

end VariantView

end Introspect
