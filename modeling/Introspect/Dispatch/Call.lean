import Introspect.Acting
import Introspect.Dispatch.Resolve

/-!
# Registering methods and entering calls

* `Store.register`    one more method, in place of one with the same declared parameters;
* `Store.variantFor`  the variant of a method for a tuple of types, made on first use;
* `Store.enter`       a call finds its method and variant, and the variant that is being executed
                      becomes a dependent of both as far as they could change;
* `Store.during`      an action with another variant being executed, and the former one afterwards.
-/

namespace Introspect

namespace Store

def register (s : Store) (m : Method) : Except Fault (Store × Nat) := do
  let t ← s.table? m.function
  let kept := t.methods.filter fun n => !(s.method n).sameKey m
  let i := s.methods.size
  let s := { s with methods := s.methods.push m }
  .ok (s.modifyTable m.function fun t => { t with methods := kept ++ [i] }, i)

/-- a new variant of a method -/
def addVariant (s : Store) (m : Nat) (types : Signature) : Store × Nat :=
  ({ s with variants := s.variants.push ⟨m, types, .missing⟩ }, s.variants.size)

def variantFor (view : Hierarchy) (m : Nat) (types : Signature) : Acting Store Nat := fun s =>
  let i := s.method m
  let made (keep : Nat → Storage) : Except Fault Nat × Store :=
    let (s, v) := s.addVariant m types
    (.ok v, s.modifyMethod m fun i => { i with storage := keep v })
  let refuse (owner : String) : Except Fault Nat × Store := (.error (.noAttribute owner "get"), s)
  match i.storage, i.layout with
  | .missing, _ => (.error (.noAttribute "MethodDefinition" "specializations"), s)
  | .slots t, .slots =>
    match t.get? types with
    | some v => (.ok v, s)
    | none => made fun v => .slots (t.insert types v)
  | .slots _, .linked => made fun v => .chain ⟨[(types, v)], .mark⟩
  | .chain c, .linked =>
    match c.lookup types with
    | some v => (.ok v, s)
    | none => made fun v => .chain (c.push types v)
  | .chain ⟨_ :: _, _⟩, .slots => refuse "TypeMapEntry"
  | .chain ⟨[], .mark⟩, .slots => refuse "_EndOfEntries"
  | .chain ⟨[], .value v⟩, .slots => refuse (v.className view)

/-- why a value in the place of a list takes no more elements -/
def refusal (h : Hierarchy) (v : Value) (operation : String) : Fault :=
  match v with
  | .bytearray _ => .badOperands operation "bytearray" "CompiledVariant"
  | v => .noAttribute (v.className h) operation

/-- why a value in the place of a list of dependents takes no more of them -/
def dependentRefusal (h : Hierarchy) (v : Value) : Fault :=
  match v.items h with
  | .error e => e
  | .ok _ => refusal h v "append"

/-- the first even position of pairs that a value with `n` items has nothing at -/
def missingPosition (n : Nat) : Value → Option Fault
  | .dict entries =>
    ((List.range (n - 1)).find? fun (i : Nat) =>
      i % 2 == 0 && !entries.any fun e => e.1 == .int i).map fun i => .noKey (toString i)
  | .set _ => if n < 2 then none else some (.notSequence "set")
  | .frozenset _ => if n < 2 then none else some (.notSequence "frozenset")
  | _ => none

/-- why a value in the place of the edges of a table takes no more pairs -/
def edgeRefusal (h : Hierarchy) (v : Value) : Fault :=
  match v.length h with
  | .error e => e
  | .ok n => (missingPosition n v).getD (refusal h v "extend")

/-- a variant becomes a dependent of another one, once -/
def addDependent (h : Hierarchy) (v dependent : Nat) : Acting Store Unit := fun s =>
  let new : Value := .variant dependent
  let store (items : List Value) : Store :=
    s.modifyVariant v fun i => { i with dependents := .held items }
  match (s.variant v).dependents with
  | .missing => (.ok (), store [new])
  | .held items => (.ok (), if items.contains new then s else store (items ++ [new]))
  | .replaced old => (.error (dependentRefusal h old), s)

/-- whether an interleaved list has a pair, elements without a partner left aside -/
def hasPair (key dependent : Value) : List Value → Bool
  | k :: d :: rest => (k == key && d == dependent) || hasPair key dependent rest
  | _ => false

/-- a variant becomes a dependent on the dispatch of a tuple of types, once -/
def addTableEdge (h : Hierarchy) (f : Nat) (types : Signature) (dependent : Nat) :
    Acting Store Unit := fun s =>
  let key : Value := .tuple types
  let new : Value := .variant dependent
  let store (items : List Value) : Store :=
    s.modifyTable f fun t => { t with edges := .held items }
  match s.table? f with
  | .error e => (.error e, s)
  | .ok t =>
    match t.edges with
    | .missing => (.error (.noAttribute "MethodTable" "backedges"), s)
    | .held items =>
      (.ok (), if hasPair key new items then s else store (items ++ [key, new]))
    | .replaced old => (.error (edgeRefusal h old), s)

/-- a call finds its method and variant.  The variant that is being executed becomes a dependent of
the variant; when the declared types are wider than those of the call, a new method could change
the choice, so it becomes a dependent on the dispatch too. -/
def enter (viewOf : Store → Surroundings) (f : Nat) (classes : List ClassId) :
    Acting Store Dispatch := do
  let s ← get
  let view := viewOf s
  let types := Signature.ofClasses classes
  let m ← ExceptT.mk (pure (s.resolve view f types))
  let v ← variantFor view.hierarchy m types
  match s.active with
  | none => pure ()
  | some caller =>
    addDependent view.hierarchy v caller
    unless (s.method m).parameterTypes types.length == some types do
      addTableEdge view.hierarchy f types caller
  return ⟨f, classes, m, v⟩

/-- the variant that a call found is being executed -/
def beginCall (d : Dispatch) (s : Store) : Store :=
  { s with active := some d.variant, journal := .entered d :: s.journal }

/-- the innermost call has ended, and the former variant, if any, is being executed -/
def endCall (former : Option Nat) (s : Store) : Store :=
  { s with active := former, journal := .left :: s.journal }

/-- a state that has a store as one of its parts -/
class Holder (σ : Type) where
  store : σ → Store
  withStore : σ → Store → σ

variable {σ α : Type}

/-- an action on the store of a larger state -/
def within [Holder σ] (x : Acting Store α) : Acting σ α := fun s =>
  let (r, t) := x (Holder.store s)
  (r, Holder.withStore s t)

/-- a larger state with its store changed -/
def changing [Holder σ] (change : Store → Store) (s : σ) : σ :=
  Holder.withStore s (change (Holder.store s))

def during [Holder σ] (d : Dispatch) (body : Acting σ α) : Acting σ α := fun s =>
  let (r, t) := body (changing (beginCall d) s)
  (r, changing (endCall (Holder.store s).active) t)

end Store

end Introspect
