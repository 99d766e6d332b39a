import Introspect.Storage.ProbeTable
import Introspect.Value.Basic

/-!
# Keys of probe tables

* `wrapWeight`   an integer reduced to the range of weights: modulo `2 ^ 61 - 1`, the sign kept, and
                 never `-1`;
* `SlotKey`      integers, truth values (which are the integers 1 and 0), and labels with a weight
                 of their own;
* signatures     weigh the sum of their classes;
* `slotCount`    the number of slots that a value asks for, at least one;
* `slotIndex`    the index that a value stands for.
-/

namespace Introspect

def avoidReserved (w : Int) : Int := if w = -1 then -2 else w

/-- the prime `2 ^ 61 - 1` -/
def weightModulus : Nat := 0x1fffffffffffffff

def wrapWeight (n : Int) : Int :=
  let m : Int := (n.natAbs % weightModulus : Nat)
  avoidReserved (if n < 0 then -m else m)

inductive SlotKey where
  | number (n : Int)
  | truth (b : Bool)
  | label (weight : Int) (name : Value)

namespace SlotKey

/-- the integer that a key equals -/
def number? : SlotKey → Option Int
  | .number n => some n
  | .truth b => some (if b then 1 else 0)
  | .label .. => none

/-- equality: numbers by value, labels by name -/
def same : SlotKey → SlotKey → Bool
  | .label _ a, .label _ b => a == b
  | a, b =>
    match a.number?, b.number? with
    | some m, some n => m == n
    | _, _ => false

instance : BEq SlotKey := ⟨same⟩

instance : Weighted SlotKey where
  weight
    | .number n => wrapWeight n
    | .truth b => if b then 1 else 0
    | .label w _ => avoidReserved w

end SlotKey

def slotCount (v : Value) : Except Fault Nat :=
  match v with
  | .int n => .ok (max 1 n.toNat)
  | .bool _ => .ok 1
  | .float x => if 1.0 < x then .error (.notSequence "float") else .ok 1
  | _ => .error (.unordered "value" "int")

def slotIndex (v : Value) : Except Fault Int :=
  match v with
  | .int n => .ok n
  | .bool b => .ok (if b then 1 else 0)
  | _ => .error (.badOperands "index" "list" "value")

/-- the weight of a type in a signature -/
def Value.weight : Value → Int
  | .cls c => c.index + 1
  | _ => 0

instance : Weighted Signature := ⟨fun sig => sig.foldr (fun v total => v.weight + total) 0⟩

end Introspect
