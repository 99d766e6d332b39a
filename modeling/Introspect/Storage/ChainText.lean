import Introspect.Storage.Chain
import Introspect.Value.Display
import Introspect.Value.Operations

/-!
# The display of chains

* `Chain.headText`        the first entry of a chain by its signature, or its ending;
* `ChainEnding.text`      the display of an ending;
* `ChainEnding.isTruthy`  whether an ending counts as true; the mark of the end does not.
-/

namespace Introspect

namespace ChainEnding

def text (s : Surroundings) : ChainEnding → String
  | .mark => "END_OF_ENTRIES"
  | .value v => v.display s

def isTruthy (h : Hierarchy) : ChainEnding → Bool
  | .mark => false
  | .value v => v.truthy h

end ChainEnding

namespace Chain

variable {ν : Type}

def headText (s : Surroundings) (c : Chain ν) : String :=
  match c.entries with
  | [] => c.ending.text s
  | (sig, _) :: _ => "TypeMapEntry(" ++ (Value.tuple sig).display s ++ ")"

/-- a chain without entries that ends with a value -/
def endingWith (v : Value) : Chain ν := ⟨[], .value v⟩

def signatureTexts (s : Surroundings) (c : Chain ν) : List (String × ν) :=
  c.entries.map fun e => (signatureText s e.1, e.2)

end Chain

end Introspect
