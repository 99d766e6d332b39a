import Introspect.Fault

/-!
# Open addressing with linear probing

A probe table keeps entries in a row of slots.  A key starts at its weight modulo the number of
slots and walks to the right, around the end, until it meets itself or an empty slot.

* `ProbeTable`         the slots and the number of entries;
* `ProbeTable.get?`    the value under a key;
* `ProbeTable.insert`  a value under a key; the slots double when they would be more than half full;
* `ProbeTable.values`  the values, in the order of the slots;
* `ProbeTable.isAssigned`, `ProbeTable.item`  a slot by its index, from the end when negative.
-/

namespace Introspect

/-- keys with an integer weight, which decides where they are kept -/
class Weighted (κ : Type) where
  weight : κ → Int

structure ProbeTable (κ ν : Type) where
  slots : Array (Option (κ × ν))
  count : Nat

namespace ProbeTable

variable {κ ν : Type}

/-- a table without entries; there is at least one slot -/
def empty (capacity : Nat) : ProbeTable κ ν := ⟨Array.replicate (max 1 capacity) none, 0⟩

/-- the number of slots -/
def size (t : ProbeTable κ ν) : Nat := t.slots.size

/-- the entries, in the order of the slots -/
def entries (t : ProbeTable κ ν) : List (κ × ν) := t.slots.toList.filterMap id

def values (t : ProbeTable κ ν) : List ν := t.entries.map Prod.snd

/-- the slot at which the walk of a weight starts -/
def start (size : Nat) (weight : Int) : Nat := (weight % (size : Int)).toNat

/-- the slots in the order in which a walk meets them -/
def path (size start : Nat) : List Nat := (List.range size).map fun o => (start + o) % size

def walk [Weighted κ] (t : ProbeTable κ ν) (key : κ) : List Nat :=
  path t.size (start t.size (Weighted.weight key))

/-- the value under a key along a walk, which an empty slot ends -/
def getAlong [BEq κ] (slots : Array (Option (κ × ν))) (key : κ) : List Nat → Option ν
  | [] => none
  | i :: rest =>
    match slots[i]?.join with
    | none => none
    | some (k, v) => if k == key then some v else getAlong slots key rest

def get? [BEq κ] [Weighted κ] (t : ProbeTable κ ν) (key : κ) : Option ν :=
  getAlong t.slots key (t.walk key)

/-- an entry at the first slot of a walk that is empty or holds the key -/
def placeAlong [BEq κ] (t : ProbeTable κ ν) (key : κ) (value : ν) : List Nat → ProbeTable κ ν
  | [] => t
  | i :: rest =>
    match t.slots[i]?.join with
    | none => ⟨t.slots.set! i (some (key, value)), t.count + 1⟩
    | some (k, _) =>
      if k == key then ⟨t.slots.set! i (some (key, value)), t.count⟩
      else t.placeAlong key value rest

/-- an entry, without more slots -/
def place [BEq κ] [Weighted κ] (t : ProbeTable κ ν) (key : κ) (value : ν) : ProbeTable κ ν :=
  t.placeAlong key value (t.walk key)

/-- whether one more entry would leave less than half of the slots empty -/
def isCrowded (t : ProbeTable κ ν) : Bool := t.size < (t.count + 1) * 2

/-- twice as many slots, the entries placed anew in the order of the old slots -/
def grow [BEq κ] [Weighted κ] (t : ProbeTable κ ν) : ProbeTable κ ν :=
  t.entries.foldl (fun t e => t.place e.1 e.2) (empty (t.size * 2))

def insert [BEq κ] [Weighted κ] (t : ProbeTable κ ν) (key : κ) (value : ν) : ProbeTable κ ν :=
  (if t.isCrowded then t.grow else t).place key value

/-- the slot of an index, which counts from the end when it is negative -/
def slotAt (t : ProbeTable κ ν) (index : Int) : Except Fault (Option (κ × ν)) :=
  let i := if index < 0 then index + t.size else index
  if 0 ≤ i then
    match t.slots[i.toNat]? with
    | some slot => .ok slot
    | none => .error .outOfRange
  else .error .outOfRange

def isAssigned (t : ProbeTable κ ν) (index : Int) : Except Fault Bool :=
  (t.slotAt index).map Option.isSome

def item (t : ProbeTable κ ν) (index : Int) : Except Fault ν :=
  match t.slotAt index with
  | .error e => .error e
  | .ok none => .error (.emptySlot index)
  | .ok (some e) => .ok e.2

end ProbeTable

end Introspect
