import Introspect.Reflection.Note

/-!
# Sources of variants

* `Yielded`         the variants that a source yields, and the fault that stops it, if one does;
* `VariantSource`   reads the variants of a method;
* `slotsSource`     reads a table of slots, the empty ones left out;
* `linkedSource`    follows a chain up to its ending;
* `failingSource`   fails, for all methods or for those of one required signature.
-/

namespace Introspect

structure Yielded where
  variants : List Nat
  stopped : Option Fault

abbrev VariantSource := Hierarchy → Method → Yielded

/-- a source that stops at once -/
def Yielded.fault (e : Fault) : Yielded := ⟨[], some e⟩

/-- the fault of a method without storage -/
def noStorage : Fault := .noAttribute "MethodDefinition" "specializations"

def slotsSource : VariantSource := fun h m =>
  match m.storage with
  | .slots t => ⟨t.values, none⟩
  | .chain ⟨_ :: _, _⟩ => .fault (.noLength "TypeMapEntry")
  | .chain ⟨[], .mark⟩ => .fault (.noLength "_EndOfEntries")
  | .chain ⟨[], .value v⟩ =>
    match v.length h with
    | .ok 0 => ⟨[], none⟩
    | .ok _ => .fault (.noAttribute (v.className h) "is_assigned")
    | .error e => .fault e
  | .missing => .fault noStorage

def linkedSource : VariantSource := fun _ m =>
  match m.storage with
  | .chain c => ⟨c.values, none⟩
  | .slots _ => ⟨[], none⟩
  | .missing => .fault noStorage

def failingSource (kind : FaultKind) (chosen : Method → Bool) : VariantSource := fun h m =>
  if chosen m then .fault (.planted kind) else slotsSource h m

def Layout.source : Layout → VariantSource
  | .slots => slotsSource
  | .linked => linkedSource

end Introspect
