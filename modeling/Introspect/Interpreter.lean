import Introspect.Settings.Toml
import Introspect.Value.Annotation

/-!
# What programs run on

What the inspected programs run on decides some things that no program says itself.

* `Interpreter`           the names of characters, the values of texts in annotations, and the limits;
* `Interpreter.resolve`   an annotation with the texts in it evaluated;
* `Interpreter.standard`  the one that sessions have, unless they are given another one.
-/

namespace Introspect

structure Interpreter where
  /-- the characters that texts may name -/
  characters : Source.CharacterNames
  /-- the value of a text in an annotation, given what names mean there; it is refused unless it may
  stand for a type -/
  evaluate : Hierarchy → Scope → String → Except Fault Value
  /-- how deep texts may be nested in an annotation -/
  depth : Nat
  /-- whether the stack does not suffice for an annotation -/
  exhausts : Value → Bool
  /-- what configuration files may ask for -/
  limits : Toml.Limits

namespace Interpreter

def resolve (i : Interpreter) (h : Hierarchy) (scope : Scope) (v : Value) : Except Fault Value :=
  if i.exhausts v then .error .tooDeep else resolveWithin (i.evaluate h scope) i.depth [] v

def standard : Interpreter where
  characters := Source.latinCharacterNames
  evaluate := evaluateText Source.latinCharacterNames
  depth := 100
  exhausts _ := false
  limits := .standard

end Interpreter

end Introspect
