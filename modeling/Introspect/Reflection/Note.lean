import Introspect.Dispatch.Call

/-!
# Notes on what could not be read

An inspection goes on past a part that cannot be read and leaves a note, which only a reader of
diagnostics sees.

* `Noting`  inspections that leave notes and may fail;
* `note`    leaves one.
-/

namespace Introspect

abbrev Noting := Acting (List String)

def note (text : String) : Noting Unit := modify (· ++ [text])

/-- a result or a fault, without notes -/
def liftNoting {α : Type} (r : Except Fault α) : Noting α := ExceptT.mk (pure r)

/-- the result of an inspection, its notes put aside -/
def Noting.result {α : Type} (x : Noting α) : Except Fault α := (x.run []).1

end Introspect
