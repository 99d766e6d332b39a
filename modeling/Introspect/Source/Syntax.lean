import Introspect.Source.Lexer
import Introspect.Source.Language

/-!
# Modules as nested statements

* `Expr`            the expressions that annotations are made of; all others are one of a kind, with
                    the parts that are evaluated whatever they come to;
* `Statement`       annotated assignments, scopes (bodies of functions and classes), blocks (bodies
                    of conditions, loops and the like), and everything else;
* `parseModule?`    the statements of a source text;
* `parseExpr?`      the expression that is a whole text.
-/

namespace Introspect.Source

inductive Expr where
  | name (s : String)
  | attribute (base : Expr) (name : String)
  | subscript (base : Expr) (args : List Expr)
  | text (letters body : List Char)
  /-- several texts side by side -/
  | texts (parts : List Expr)
  | number (s : String)
  | either (a b : Expr)
  | tuple (items : List Expr)
  | list (items : List Expr)
  | ellipsis
  | choice (condition yes no : Expr)
  | other (parts : List Expr)
  deriving Inhabited

inductive Statement where
  | annotated (target annotation : Expr)
  /-- the body of a function or class -/
  | scope (body : List Statement)
  /-- the bodies of a compound statement -/
  | block (body : List Statement)
  | other
  deriving Inhabited

namespace Expr

/-- the expression of a single token -/
def ofToken : Token → Expr
  | .word s => .name s
  | .number s => .number s
  | .text letters body => .text letters body
  | .op "..." => .ellipsis
  | _ => .other []

def attributeName : List Syntree → String
  | [_, .leaf (.word s)] => s
  | _ => ""

/-- the first of some alternatives that holds, or the last one -/
def anyOf : List Expr → Expr
  | [] => .other []
  | [e] => e
  | e :: es => .choice e e (anyOf es)

/-- the first of some conditions that does not hold, or the last one -/
def allOf : List Expr → Expr
  | [] => .other []
  | [e] => e
  | e :: es => .choice e (allOf es) e

/-- a node by its symbol, given its children and their expressions -/
def ofNode (s : Symbol) (cs : List (Syntree × Expr)) : Expr :=
  let items := (cs.filter fun c => !Shape.isOperator c.1).map Prod.snd
  let parts := cs.filterMap fun c => match c.1 with | .node _ _ => some c.2 | .leaf _ => none
  let comprehends := cs.any fun c => match c.1 with | .node .comprehension _ => true | _ => false
  match s, cs with
  | .texts, [x] => x.2
  | .texts, _ => .texts items
  | .subscript, _ => .list items
  | .attribute, _ => .other []
  | .primary, x :: rest =>
    rest.foldl (fun base t =>
      match t.1, t.2 with
      | .node .attribute cs, _ => .attribute base (attributeName cs)
      | .node .subscript _, .list args => .subscript base args
      | _, arguments => .other [base, arguments]) x.2
  | .alternation, x :: rest =>
    (rest.filter fun c => !Shape.isOperator c.1).foldl (fun a b => .either a b.2) x.2
  | .parenthesized, [_, (.node .yielded _, _), _] => .other []
  | .parenthesized, [_, x, _] => x.2
  | .parenthesized, _ => if comprehends then .other [] else .tuple items
  | .bracketed, _ => if comprehends then .other [] else .list items
  | .starredList, [x] => x.2
  | .starredList, _ => .tuple items
  | .expression, [yes, _, condition, _, no] => .choice condition.2 yes.2 no.2
  | .disjunction, _ => anyOf parts
  | .conjunction, _ => allOf parts
  | .inversion, [_, x] => .choice x.2 (.name "False") (.name "True")
  | .lambda, _ | .comprehension, _ => .other []
  | .yielded, _ | .formatted, _ | .braced, _ | .call, _ =>
    .other (if comprehends then [] else parts)
  | _, [x] => if Shape.isOperator x.1 then .other [] else x.2
  | _, _ => .other parts

mutual

def ofTree : Syntree → Expr
  | .leaf t => ofToken t
  | .node s cs => ofNode s (eachOfTree cs)
termination_by structural t => t

def eachOfTree : List Syntree → List (Syntree × Expr)
  | [] => []
  | t :: ts => (t, ofTree t) :: eachOfTree ts
termination_by structural ts => ts

end

end Expr

namespace Statement

/-- the parts of an annotated assignment -/
def ofAnnotated : List Syntree → Statement
  | target :: .leaf (.op ":") :: annotation :: _ =>
    .annotated (Expr.ofTree target) (Expr.ofTree annotation)
  | _ => .other

mutual

def ofTree : Syntree → List Statement
  | .leaf _ => []
  | .node s cs =>
    match s with
    | .annotated => [ofAnnotated cs]
    | .scope => [.scope (ofTrees cs)]
    | .compound => [.block (ofTrees cs)]
    | .simple => match ofTrees cs with | [] => [.other] | ss => ss
    | _ => ofTrees cs
termination_by structural t => t

def ofTrees : List Syntree → List Statement
  | [] => []
  | t :: ts => ofTree t ++ ofTrees ts
termination_by structural ts => ts

end

end Statement

def parseModule? (source : String) : Option (List Statement) := do
  let ts ← tokens? source
  let t ← language.match? .file ts
  return Statement.ofTree t

def parseExpr? (text : String) : Option Expr := do
  let ts ← tokens? text
  match ts.reverse with
  | .newline :: rest =>
    let t ← language.match? .starredList rest.reverse
    return Expr.ofTree t
  | _ => none

end Introspect.Source
