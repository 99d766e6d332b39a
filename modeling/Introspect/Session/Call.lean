import Introspect.Session.Literal

/-!
# Running scripts and calling functions

* `Caller`         calls a function of the session with arguments by position and by name;
* `Script.run`     what a script does, given how functions are called and requests are answered;
* `findMethod`     a call finds its method and variant;
* `enterCall`      the body of the method runs while the variant is being executed;
* `callMethod`     the arguments of a call are bound to the parameters, and the body runs.
-/

namespace Introspect

abbrev Caller := Nat → List Value → List (String × Value) → Run Value

mutual

def Answer.toValue : Answer → Value
  | .null => .none
  | .bool b => .bool b
  | .int n => .int n
  | .text s => .str s
  | .list items => .list (Answer.toValues items)
  | .record fields => .dict (Answer.toEntries fields)
termination_by structural a => a

def Answer.toValues : List Answer → List Value
  | [] => []
  | a :: as => a.toValue :: Answer.toValues as
termination_by structural as => as

/-- the fields of a record as entries of a mapping -/
def Answer.toEntries : List (String × Answer) → List (Value × Value)
  | [] => []
  | (k, a) :: fields => (.str k, a.toValue) :: Answer.toEntries fields
termination_by structural fields => fields

end

/-- an operation on two values, under the classes of the session -/
def operate {α : Type} (op : Hierarchy → Value → Value → Except Fault α) (v w : Value) : Run α := do
  op (← get).hierarchy v w

/-- what an action does if another one fails; what that did stays done -/
def orElseRun {α : Type} (a b : Run α) : Run α := tryCatch a fun _ => b

mutual

def Script.run (call : Caller) (step : Request → Run Value) (env : Environment) :
    Script → Run Value
  | .list items => return .list (← Script.runAll call step env items)
  | .literal l => l.value
  | .parameter name => Session.find env name
  | .call f args named => do
    let vs ← Script.runAll call step env args
    let ns ← Script.runNamed call step env named
    call (← Session.find (← get).functions f) vs ns
  | .spread f args => do
    let v ← args.run call step env
    call (← Session.find (← get).functions f) (← v.items (← get).hierarchy) []
  | .add a b => do
    let v ← a.run call step env
    operate Value.add v (← b.run call step env)
  | .sub a b => do
    let v ← a.run call step env
    operate Value.sub v (← b.run call step env)
  | .mul a b => do
    let v ← a.run call step env
    operate Value.mul v (← b.run call step env)
  | .exceeds a b => do
    let v ← a.run call step env
    return .bool (← operate Value.exceeds v (← b.run call step env))
  | .cond c a b => do
    let v ← c.run call step env
    if v.truthy (← get).hierarchy then a.run call step env else b.run call step env
  | .attempt a b => orElseRun (a.run call step env) (b.run call step env)
  | .raise text => throw (.raised text)
  | .className a => do
    let v ← a.run call step env
    return .str (v.className (← get).hierarchy)
  | .step r => step r
  | .unknown form => throw (.noKey (Text.quoted form))
termination_by structural s => s

/-- what several scripts do, in order -/
def Script.runAll (call : Caller) (step : Request → Run Value) (env : Environment) :
    List Script → Run (List Value)
  | [] => return []
  | s :: ss => do
    let v ← s.run call step env
    return v :: (← Script.runAll call step env ss)
termination_by structural ss => ss

/-- what named scripts do, in order -/
def Script.runNamed (call : Caller) (step : Request → Run Value) (env : Environment) :
    List (String × Script) → Run (List (String × Value))
  | [] => return []
  | (name, s) :: ss => do
    let v ← s.run call step env
    return (name, v) :: (← Script.runNamed call step env ss)
termination_by structural ss => ss

end

def argumentClasses (h : Hierarchy) (args : List Value) : List ClassId :=
  args.map (Value.classOf h)

/-- how values are shown when the store of a session is another one -/
def Session.viewWith (s : Session) (store : Store) : Surroundings := { s with store }.view

def findMethod (f : Nat) (args : List Value) : Run Dispatch := do
  let s ← get
  Store.within (Store.enter s.viewWith f (argumentClasses s.hierarchy args))

def enterCall (f : Nat) (args : List Value) (body : Method → Run Value) : Run Value := do
  let d ← findMethod f args
  Store.during d (body ((← get).store.method d.method))

def callMethod (call : Caller) (step : Request → Run Value) (args : List Value)
    (named : List (String × Value)) (m : Method) : Run Value := do
  let env ← bindArguments m.implementation.params args named
  m.implementation.body.run call step env

end Introspect
