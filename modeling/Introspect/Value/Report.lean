import Introspect.Answer
import Introspect.Value.Display
import Introspect.Value.Kind

/-!
# How values are reported

* `Value.isData`   plain data all the way down, whose display says everything;
* `Value.report`   simple data as itself, other plain data and functions by their display, variants
                   with their method, modules and classes by name, anything else by its class.
-/

namespace Introspect.Value

mutual

def isData : Value → Bool
  | .none | .ellipsis | .notImplemented | .bool _ | .int _ | .float _ | .complex .. | .decimal _
  | .fraction _ | .str _ | .bytes _ | .bytearray _ | .range .. => true
  | .list vs | .tuple vs => allData vs
  | .set vs | .frozenset vs => vs.length ≤ 1 && allData vs
  | .dict es => allEntriesData es
  | _ => false
termination_by structural v => v

def allData : List Value → Bool
  | [] => true
  | v :: vs => v.isData && allData vs
termination_by structural vs => vs

def allEntriesData : List (Value × Value) → Bool
  | [] => true
  | (k, v) :: es => k.isData && v.isData && allEntriesData es
termination_by structural es => es

end

def reportInstance (h : Hierarchy) (v : Value) : Answer :=
  .tagged "instance" (.text (v.className h))

def reportPlain (s : Surroundings) (v : Value) : Answer :=
  match v with
  | .none => .null
  | .bool b => .bool b
  | .int n => .int n
  | .str t => .text t
  | .variant i => .text (s.variantLabel i)
  | .generic _ | .method _ | .table _ => .tagged "repr" (.text (v.display s))
  | .cls c =>
    match (s.hierarchy.info c).family with
    | .made _ => v.reportInstance s.hierarchy
    | _ => .tagged "type" (.text (s.hierarchy.typeName c))
  | v => if v.isData then .tagged "repr" (.text (v.display s)) else v.reportInstance s.hierarchy

def report (s : Surroundings) (v : Value) : Answer :=
  match v with
  | .module m => .tagged "module" (.ofOption ((s.moduleName m).map (reportPlain s)))
  | v => v.reportPlain s

end Introspect.Value
