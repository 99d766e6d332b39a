import Introspect.Dispatch.Layout
import Introspect.Script.Basic

/-!
# Programs that are laid out in one way or another

A program makes functions, registers methods and calls functions; what it does is written down
without regard to layouts, and then laid out by asking for the same layout wherever it makes a
function.

* `Script.laidOut`, `Request.laidOut`   a script or a request that asks for one layout;
* `Script.Plain`, `Request.Plain`       those that programs are made from.  The answer to the making
                                        of a function names its layout, so a script may test it, but
                                        not use it otherwise.
-/

namespace Introspect

mutual

/-- a script that asks for one layout wherever it makes a function -/
def Script.laidOut (l : Layout) : Script → Script
  | .list items => .list (Script.laidOutAll l items)
  | .literal v => .literal v
  | .parameter name => .parameter name
  | .call f args named => .call f (Script.laidOutAll l args) (Script.laidOutNamed l named)
  | .spread f a => .spread f (a.laidOut l)
  | .add a b => .add (a.laidOut l) (b.laidOut l)
  | .sub a b => .sub (a.laidOut l) (b.laidOut l)
  | .mul a b => .mul (a.laidOut l) (b.laidOut l)
  | .exceeds a b => .exceeds (a.laidOut l) (b.laidOut l)
  | .cond c a b => .cond (c.laidOut l) (a.laidOut l) (b.laidOut l)
  | .attempt a b => .attempt (a.laidOut l) (b.laidOut l)
  | .raise text => .raise text
  | .className a => .className (a.laidOut l)
  | .step r => .step (r.laidOut l)
  | .unknown form => .unknown form
termination_by structural s => s

/-- several scripts that ask for one layout -/
def Script.laidOutAll (l : Layout) : List Script → List Script
  | [] => []
  | s :: ss => s.laidOut l :: Script.laidOutAll l ss
termination_by structural ss => ss

/-- several named scripts that ask for one layout -/
def Script.laidOutNamed (l : Layout) : List (String × Script) → List (String × Script)
  | [] => []
  | (name, s) :: ss => (name, s.laidOut l) :: Script.laidOutNamed l ss
termination_by structural ss => ss

/-- a request that asks for one layout, in the bodies of its methods too -/
def Request.laidOut (l : Layout) : Request → Request
  | .newFunction f name _ => .newFunction f name (some (.str l.word))
  | .newGeneric f name params body doc _ =>
    .newGeneric f name params (body.laidOut l) doc (some (.str l.word))
  | .register f signature params body => .register f signature params (body.laidOut l)
  | r => r
termination_by structural r => r

end

mutual

/-- a script of a program, whose value may be used, or is tested only -/
def Script.Plain : Script → Bool → Prop
  | .list items, _ => Script.AllPlain items
  | .literal _, _ | .parameter _, _ | .raise _, _ | .unknown _, _ => True
  | .call _ args named, _ => Script.AllPlain args ∧ Script.NamedPlain named
  | .spread _ a, _ | .className a, _ => a.Plain true
  | .add a b, _ | .sub a b, _ | .mul a b, _ | .exceeds a b, _ => a.Plain true ∧ b.Plain true
  | .cond c a b, used => c.Plain false ∧ a.Plain used ∧ b.Plain used
  | .attempt a b, used => a.Plain used ∧ b.Plain used
  | .step r, used => r.Plain used
termination_by structural s => s

/-- several scripts of a program, whose values may be used -/
def Script.AllPlain : List Script → Prop
  | [] => True
  | s :: ss => s.Plain true ∧ Script.AllPlain ss
termination_by structural ss => ss

/-- several named scripts of a program, whose values may be used -/
def Script.NamedPlain : List (String × Script) → Prop
  | [] => True
  | (_, s) :: ss => s.Plain true ∧ Script.NamedPlain ss
termination_by structural ss => ss

/-- a request of a program; the answer to the making of a function may not be used -/
def Request.Plain : Request → Bool → Prop
  | .newFunction _ _ _, used => used = false
  | .newGeneric _ _ _ body _ _, used => used = false ∧ body.Plain true
  | .register _ _ _ body, _ => body.Plain true
  | .call _ _ _, _ => True
  | _, _ => False
termination_by structural r => r

end

end Introspect
