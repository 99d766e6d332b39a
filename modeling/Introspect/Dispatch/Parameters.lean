import Introspect.Dispatch.Store
import Introspect.Interpreter

/-!
# Parameters

* `DeclaredTypes.ofFacade`  the types on which the parameters that an implementation shows dispatch:
                            its annotations with all texts evaluated, or as they are when one of
                            them cannot be;
* `bindArguments`           the values of the parameters of a call.
-/

namespace Introspect

/-- the types on which a method dispatches -/
structure DeclaredTypes where
  required : Signature
  optional : Signature
  variadic : Option Value

namespace DeclaredTypes

section
variable (i : Interpreter) (h : Hierarchy) (scope : Scope)

/-- annotations by their names, evaluated -/
def hints? (annotations : List (String × Value)) : Except Fault (List (String × Value)) :=
  annotations.mapM fun e => (i.resolve h scope e.2).map (e.1, ·)

/-- the annotations that count: all of them evaluated, or none -/
def counting (annotations : List (String × Value)) : List (String × Value) :=
  match hints? i h scope annotations with
  | .ok hints => hints
  | .error _ => annotations

/-- the type on which a parameter of a facade dispatches -/
def dispatchTypeOf (f : Facade) (p : Parameter Value) : Value :=
  (((counting i h scope f.annotations).lookup p.name).map Value.dispatchType).getD (.cls .object)

/-- whether a parameter takes one argument by position -/
def isPositional (p : Parameter Value) : Bool :=
  p.kind == .positionalOnly || p.kind == .positional

def ofFacade (f : Facade) : DeclaredTypes :=
  let positional := f.params.filter isPositional
  let type := dispatchTypeOf i h scope f
  { required := (positional.filter fun p => p.default.isNone).map type
    optional := (positional.filter fun p => p.default.isSome).map type
    variadic := (f.params.find? fun p => p.kind == .variadic).map type }

end

end DeclaredTypes

abbrev Environment := List (String × Value)

/-- the value of a parameter that takes one argument: the given one by position or by name, or else
the default -/
def bindOne (p : Parameter Value) (given : Option Value) (named : List (String × Value)) :
    Except Fault Value :=
  let byName := if p.kind == .positionalOnly then none else named.lookup p.name
  match given, byName with
  | some _, some _ => .error .badArguments
  | some v, none | none, some v => .ok v
  | none, none => p.default.elim (.error .badArguments) .ok

/-- the values of the parameters of a call, the arguments by position left over so far in `args` -/
def bindFrom (named : List (String × Value)) :
    List (Parameter Value) → List Value → Except Fault (Environment × List Value)
  | [], args => .ok ([], args)
  | p :: ps, args => do
    match p.kind with
    | .positionalOnly | .positional =>
      let v ← bindOne p args.head? named
      let (env, rest) ← bindFrom named ps args.tail
      return ((p.name, v) :: env, rest)
    | .variadic =>
      let (env, rest) ← bindFrom named ps []
      return ((p.name, .tuple args) :: env, rest)
    | .keywordOnly =>
      let v ← bindOne p none named
      let (env, rest) ← bindFrom named ps args
      return ((p.name, v) :: env, rest)
    | .keywordRest =>
      let (env, rest) ← bindFrom named ps args
      return ((p.name, .none) :: env, rest)

/-- the named arguments that no parameter takes by its name -/
def unclaimed (params : List (Parameter Value)) (named : List (String × Value)) :
    List (String × Value) :=
  named.filter fun e => !params.any fun p =>
    p.name == e.1 && (p.kind == .positional || p.kind == .keywordOnly)

def bindArguments (params : List (Parameter Value)) (args : List Value)
    (named : List (String × Value)) : Except Fault Environment := do
  let (env, rest) ← bindFrom named params args
  let extra := unclaimed params named
  let takesRest := params.find? fun p => p.kind == .keywordRest
  if !rest.isEmpty then .error .badArguments
  else
    match takesRest with
    | none => if extra.isEmpty then .ok env else .error .badArguments
    | some p =>
      let mapping : Value := .dict (extra.map fun e => (.str e.1, e.2))
      .ok (env.map fun e => if e.1 == p.name then (e.1, mapping) else e)

end Introspect
