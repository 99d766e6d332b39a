import Introspect.Fault

/-!
# Actions that may fail

* `Acting`  actions on a state that may fail.
-/

namespace Introspect

/-- actions on a state that may fail; what was done before the fault stays done -/
abbrev Acting (σ : Type) := ExceptT Fault (StateM σ)

end Introspect
