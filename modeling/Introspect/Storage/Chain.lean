import Introspect.Value.Basic

/-!
# Chains of entries

A chain is a list of entries, the newest first, and whatever ends it: the mark of the end, or a
value that was put in its place.

* `Chain`          the entries and the ending;
* `Chain.lookup`   the value of the first entry with a signature;
* `Chain.push`     one more entry in front.
-/

namespace Introspect

/-- what ends a chain -/
inductive ChainEnding where
  | mark
  | value (v : Value)

structure Chain (ν : Type) where
  entries : List (Signature × ν)
  ending : ChainEnding

namespace Chain

variable {ν : Type}

/-- the chain without entries -/
def empty : Chain ν := ⟨[], .mark⟩

def lookup (c : Chain ν) (sig : Signature) : Option ν :=
  (c.entries.find? fun e => e.1 == sig).map Prod.snd

def push (c : Chain ν) (sig : Signature) (value : ν) : Chain ν :=
  { c with entries := (sig, value) :: c.entries }

/-- the values, the newest first -/
def values (c : Chain ν) : List ν := c.entries.map Prod.snd

end Chain

end Introspect
