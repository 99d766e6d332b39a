import Introspect.Dispatch.Store
import Introspect.Modules.Basic
import Introspect.Targets.Members

/-!
# Attributes of values

* `AttributeScope`              the modules and functions that attributes are read from;
* `AttributeScope.attributeOf`  the value of an attribute, if there is one: what a module binds,
                                what a function keeps, the parts of a number, and the members of
                                the class of the value; to look it up may fail.
-/

namespace Introspect

structure AttributeScope where
  catalog : Catalog
  store : Store

namespace AttributeScope

def hierarchy (s : AttributeScope) : Hierarchy := s.catalog.hierarchy

/-- the members of a class that can be called, seen from an instance -/
def instanceMember (h : Hierarchy) (c : ClassId) (name : String) : Option Value :=
  (h.mro c).findSome? fun d =>
    let ms := membersOf d
    if ms.methods.contains name || ms.classMethods.contains name then
      some (.instanceOf .builtinFunction 0)
    else if ms.operators.contains name then some (.instanceOf .methodWrapper 0)
    else none

/-- the members of a class that can be called, seen from the class -/
def classMember (h : Hierarchy) (c : ClassId) (name : String) : Option Value :=
  (h.mro c).findSome? fun d =>
    let ms := membersOf d
    if ms.methods.contains name then some (.instanceOf .methodDescriptor 0)
    else if ms.classMethods.contains name then some (.instanceOf .builtinFunction 0)
    else if ms.operators.contains name then some (.instanceOf .slotWrapper 0)
    else none

/-- the parts of a number or a range -/
def part (v : Value) (name : String) : Option Value :=
  match v, name with
  | .int n, "real" | .int n, "numerator" => some (.int n)
  | .int _, "imag" => some (.int 0)
  | .int _, "denominator" => some (.int 1)
  | .bool b, "real" | .bool b, "numerator" => some (.int (if b then 1 else 0))
  | .bool _, "imag" => some (.int 0)
  | .bool _, "denominator" => some (.int 1)
  | .float x, "real" => some (.float x)
  | .float _, "imag" => some (.float 0.0)
  | .complex x _, "real" => some (.float x)
  | .complex _ y, "imag" => some (.float y)
  | .fraction q, "real" => some (.fraction q)
  | .fraction _, "imag" => some (.int 0)
  | .fraction q, "numerator" => some (.int q.num)
  | .fraction q, "denominator" => some (.int q.den)
  | .decimal d, "real" => some (.decimal d)
  | .decimal _, "imag" => some (.decimal (.ofInt 0))
  | .range a _ _, "start" => some (.int a)
  | .range _ b _, "stop" => some (.int b)
  | .range _ _ c, "step" => some (.int c)
  | .applied c _, "__origin__" => some (.cls c)
  | .applied _ vs, "__args__" => some (.tuple vs)
  | .builtin n, "__name__" | .builtin n, "__qualname__" => some (.str n)
  | .builtin _, "__module__" => some (.str "builtins")
  | _, _ => none

/-- what a class says of itself -/
def classPart (h : Hierarchy) (c : ClassId) (name : String) : Option Value :=
  let i := h.info c
  match name with
  | "__name__" => some (.str i.name)
  | "__qualname__" => some (.str i.qualname)
  | "__module__" => some (.str i.module)
  | "__bases__" => some (.tuple (i.bases.map Value.cls))
  | "__mro__" => some (.tuple (i.mro.map Value.cls))
  | "__base__" => some ((i.primary.map Value.cls).getD .none)
  | "__dict__" => some (.instanceOf .mappingProxy 0)
  | _ => none

/-- the word of a method that belongs to a function or a part of it -/
def boundMethods : Value → List String
  | .generic _ => ["methods", "register"]
  | .table _ => ["insert", "resolve", "add_backedge"]
  | .method _ => ["param_types", "is_applicable", "could_match", "is_more_specific", "variant_for"]
  | .variant _ => ["add_backedge"]
  | _ => []

def functionPart (s : AttributeScope) (v : Value) (name : String) : Option Value :=
  match v, name with
  | .generic f, "table" => (s.store.function f).table.map fun _ => .table f
  | .generic f, "__name__" | .generic f, "__qualname__" => some (.str (s.store.function f).name)
  | .generic f, "__module__" =>
    some (.str ((s.store.function f).home.getD "looking_glass.runtime.dispatch"))
  | .generic _, "layout" | .method _, "layout" => some (.instanceOf .storageLayout 0)
  | .table f, "name" => some (.str (s.store.function f).name)
  | .table f, "methods" =>
    (s.store.function f).table.map fun t => .list (t.methods.map Value.method)
  | .table f, "backedges" =>
    match (s.store.function f).table.map Table.edges with
    | some (.held items) => some (.list items)
    | some (.replaced v) => some v
    | _ => none
  | _, _ =>
    if (boundMethods v).contains name then some (.instanceOf .boundMethod 0) else none

/-- the attribute of a value that lets itself be looked at -/
def plainAttribute (s : AttributeScope) (v : Value) (name : String) : Option Value :=
  let h := s.hierarchy
  let own :=
    match v with
    | .module m =>
      let m := s.catalog.module m
      if name = "__dict__" then some (.dict m.bindings) else m.get? name
    | .cls c => classPart h c name <|> classMember h c name
    | v => part v name <|> s.functionPart v name
  own <|> (if name = "__class__" then some (.cls (v.classOf h)) else none)
    <|> instanceMember h (v.classOf h) name

/-- a value that refuses to be examined does not give its class away -/
def attributeOf (s : AttributeScope) (v : Value) (name : String) : Except Fault (Option Value) :=
  if name = "__class__" && v.refuses s.hierarchy then .error .refused
  else .ok (s.plainAttribute v name)

end AttributeScope

end Introspect
