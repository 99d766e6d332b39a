import Introspect.Fault
import Introspect.Source.Escapes
import Introspect.Source.Syntax
import Introspect.Text.Blank

/-!
# Names that a module declares final

* `isFinalText`     whether the text of an annotation says final: the word itself or with arguments,
                    each of the qualifiers allowed once and in order;
* `Expr.saysFinal`  the same of a parsed annotation;
* `declaredFinal`   the final names of statements: scopes are left out, blocks are not;
* `finalNames`      the final names of a source text.
-/

namespace Introspect.Source

/-- the rest of a text after what it starts with, or the text itself -/
def dropStart (start cs : List Char) : List Char :=
  if start.isPrefixOf cs then cs.drop start.length else cs

/-- the qualifiers that are taken away, one after the other -/
def qualifiers : List (List Char) := ["typing.", "typing_extensions.", "t."].map String.toList

def isFinalChars (cs : List Char) : Bool :=
  let rest := qualifiers.foldl (fun cs q => dropStart q cs) (Text.trimChars cs)
  rest == "Final".toList || "Final[".toList.isPrefixOf rest

def isFinalText (s : String) : Bool := isFinalChars s.toList

namespace Expr

def withoutSubscript : Expr → Expr
  | .subscript base _ => base
  | e => e

def saysFinal (table : CharacterNames) (e : Expr) : Except Fault Bool :=
  match e.withoutSubscript with
  | .name s => .ok (s == "Final")
  | .attribute _ s => .ok (s == "Final")
  | .text letters body =>
    match denoted table letters body with
    | .chars cs => .ok (isFinalChars cs)
    | .bytes => .ok false
    | .malformed => .error .badLiteral
  | _ => .ok false

end Expr

mutual

def Statement.declaredFinal (table : CharacterNames) : Statement → Except Fault (List String)
  | .annotated (.name n) annotation => do
    return if ← annotation.saysFinal table then [n] else []
  | .annotated _ _ | .scope _ | .other => .ok []
  | .block body => declaredFinal table body
termination_by structural s => s

def declaredFinal (table : CharacterNames) : List Statement → Except Fault (List String)
  | [] => .ok []
  | s :: ss => do
    let names ← s.declaredFinal table
    return names ++ (← declaredFinal table ss)
termination_by structural ss => ss

end

def finalNames (table : CharacterNames) (source : String) : Except Fault (List String) :=
  match parseModule? source with
  | none => .error .ungrammatical
  | some ss => declaredFinal table ss

/-- names in order, each once -/
def sortedNames (names : List String) : List String :=
  (names.mergeSort fun a b => !(b < a)).eraseDups

end Introspect.Source
