/-!
# Sets of characters given by ranges

* `inRanges`  membership in a set given as a table of closed ranges of code points.
-/

namespace Introspect.Text

def inRanges (table : List (Nat × Nat)) (code : Nat) : Bool :=
  table.any fun r => r.1 ≤ code && code ≤ r.2

theorem inRanges_iff (table : List (Nat × Nat)) (code : Nat) :
    inRanges table code = true ↔ ∃ r ∈ table, r.1 ≤ code ∧ code ≤ r.2 := by
  simp [inRanges]

end Introspect.Text
