import Introspect.Source.Token

/-!
# Grammars and their recognition

A grammar gives a form to every symbol.  Forms are tried in order: a choice keeps to its first form
that matches, a repetition matches as often as it can.

* `Form`   tokens, sequences, ordered choices, repetitions, look-ahead, and forms whose tree has a
           shape;
* `Tree`   what was matched: tokens, and nodes under a symbol;
* `match?` the trees of a form at the start of a list of tokens, and the rest.
-/

namespace Introspect.Source

inductive Form (σ ρ : Type) where
  | empty
  | word (s : String)
  | op (s : String)
  /-- a word that is no keyword -/
  | name
  | number
  | text
  | mark (t : Token)
  | seq (a b : Form σ ρ)
  | choice (a b : Form σ ρ)
  | many (a : Form σ ρ)
  | unless (a : Form σ ρ)
  | ahead (a : Form σ ρ)
  | symbol (s : σ)
  /-- the trees of a form, if they have a shape -/
  | shaped (r : ρ) (a : Form σ ρ)

inductive Tree (σ : Type) where
  | leaf (t : Token)
  | node (s : σ) (children : List (Tree σ))
  deriving Inhabited

/-- the forms of all symbols, and the meaning of the shapes -/
structure Grammar (σ ρ : Type) where
  form : σ → Form σ ρ
  hasShape : ρ → List (Tree σ) → Bool

namespace Form

variable {σ ρ : Type}

/-- forms one after another -/
def seqs : List (Form σ ρ) → Form σ ρ
  | [] => .empty
  | [a] => a
  | a :: rest => .seq a (seqs rest)

/-- the first form that matches -/
def firstOf : List (Form σ ρ) → Form σ ρ
  | [] => .unless .empty
  | [a] => a
  | a :: rest => .choice a (firstOf rest)

/-- a form or nothing -/
def optional (a : Form σ ρ) : Form σ ρ := .choice a .empty

/-- a form at least once -/
def many1 (a : Form σ ρ) : Form σ ρ := .seq a (.many a)

/-- a form between separators -/
def separated (a sep : Form σ ρ) : Form σ ρ := .seq a (.many (.seq sep a))

/-- a form between commas, one of which may follow -/
def commas (a : Form σ ρ) : Form σ ρ := .seq (separated a (.op ",")) (optional (.op ","))

/-- one of several operators -/
def ops (ss : List String) : Form σ ρ := firstOf (ss.map .op)

end Form

namespace Grammar

variable {σ ρ : Type}

/-- one token that passes a test -/
def token (test : Token → Bool) : List Token → Option (List (Tree σ) × List Token)
  | t :: rest => if test t then some ([.leaf t], rest) else none
  | [] => none

/-- the trees of a form at the start of some tokens, and the rest; `n` bounds the nesting -/
def matchWithin (g : Grammar σ ρ) : Nat → Form σ ρ → List Token →
    Option (List (Tree σ) × List Token)
  | 0, _, _ => none
  | n + 1, form, ts =>
    match form with
    | .empty => some ([], ts)
    | .word s => token (· == .word s) ts
    | .op s => token (· == .op s) ts
    | .name => token (fun t => match t with | .word s => !keywords.contains s | _ => false) ts
    | .number => token (fun t => match t with | .number _ => true | _ => false) ts
    | .text => token (fun t => match t with | .text .. => true | _ => false) ts
    | .mark m => token (· == m) ts
    | .seq a b =>
      match g.matchWithin n a ts with
      | none => none
      | some (xs, ts) => (g.matchWithin n b ts).map fun (ys, ts) => (xs ++ ys, ts)
    | .choice a b =>
      match g.matchWithin n a ts with
      | none => g.matchWithin n b ts
      | r => r
    | .many a =>
      match g.matchWithin n a ts with
      | none => some ([], ts)
      | some (xs, rest) =>
        if rest.length < ts.length then
          (g.matchWithin n (.many a) rest).map fun (ys, ts) => (xs ++ ys, ts)
        else some (xs, rest)
    | .unless a => if (g.matchWithin n a ts).isSome then none else some ([], ts)
    | .ahead a => if (g.matchWithin n a ts).isSome then some ([], ts) else none
    | .symbol s => (g.matchWithin n (g.form s) ts).map fun (xs, ts) => ([.node s xs], ts)
    | .shaped r a =>
      match g.matchWithin n a ts with
      | some (xs, rest) => if g.hasShape r xs then some (xs, rest) else none
      | none => none

/-- the tree of a symbol that covers all tokens; every symbol is entered at most a fixed number of
times between two tokens, which bounds the nesting -/
def match? (g : Grammar σ ρ) (s : σ) (ts : List Token) : Option (Tree σ) :=
  match g.matchWithin (400 * (ts.length + 2)) (.symbol s) ts with
  | some ([t], []) => some t
  | _ => none

end Grammar

end Introspect.Source
