import Mathlib.Data.List.Basic
import Introspect.Proofs.Source.Derivations
import Introspect.Source.FinalNames

/-!
# Declarations of a source text

The names that are found in a source text are those of its annotated assignments outside of functions
and classes, whatever other statements are around them.

* `sourceTree?`          the tree of a source text;
* `DeclaredIn`           a tree has an annotated assignment of a name that is in no scope;
* `annotated_shape`      the parts of an annotated assignment;
* `not_annotated_below`  expressions hold no annotated assignment;
* `Collects`             what comes of collecting the final names of such declarations;
* `collects_ofTree`      the statements of a tree are collected like that;
* `finalNames_cases`     the same for a source text.
-/

namespace Introspect.Source

open Grammar

/-- the node of an annotated assignment to a name -/
def assignment (n : String) (hint : Syntree) (rest : List Syntree) : Syntree :=
  .node .annotated (.leaf (.word n) :: .leaf (.op ":") :: hint :: rest)

/-- an annotated assignment to a name is in a tree, with neither a function nor a class around it -/
def DeclaredIn (t : Syntree) (n : String) (hint : Syntree) : Prop :=
  ∃ rest, t.Reaches (· ≠ .scope) (assignment n hint rest)

/-! ## Parts of an annotated assignment -/

/-- the symbols that expressions are made of -/
def expressionSymbols : List Symbol :=
  [.starred, .starredList, .named, .starredNamed, .yielded, .expression, .disjunction,
    .conjunction, .inversion, .comparison, .alternation, .exclusive, .joint, .shifted, .sum,
    .product, .signed, .power, .awaited, .primary, .attribute, .call, .subscript, .slice,
    .parenthesized, .bracketed, .braced, .texts, .formatted, .replacement, .arguments, .argument,
    .comprehension, .lambda, .target, .targets]

theorem symbols_subset_expressionSymbols :
    ∀ s ∈ expressionSymbols, (Symbol.form s).symbols ⊆ expressionSymbols := by
  decide +kernel

theorem symbols_annotated : (Symbol.form .annotated).symbols ⊆ expressionSymbols := by
  decide +kernel

/-- expressions hold no annotated assignment -/
theorem not_annotated_below {cs : List Syntree} (h : language.Derives (Symbol.form .annotated) cs)
    {c : Syntree} (hc : c ∈ cs) {enters : Symbol → Prop} {cs' : List Syntree} :
    ¬c.Reaches enters (.node .annotated cs') := by
  intro hreach
  have hmem : Symbol.annotated ∈ expressionSymbols :=
    Derives.symbol_of_reaches (g := language) (s := .annotated)
      symbols_subset_expressionSymbols symbols_annotated h hc hreach
  exact absurd hmem (by decide)

/-- the target of an annotated assignment is a name, or else it ends in an attribute or subscript -/
theorem annotated_shape {cs : List Syntree} (h : language.Derives (Symbol.form .annotated) cs) :
    ∃ target hint rest, cs = target :: .leaf (.op ":") :: hint :: rest
      ∧ ((∃ n, target = .leaf (.word n)) ∨ ∃ x trailers,
        target = .node .primary (x :: trailers) ∧ Shape.endsInPart trailers = true) := by
  obtain ⟨ts, cs, rfl, htarget, h⟩ := Derives.seq_iff.mp h
  obtain ⟨colon, cs, rfl, hcolon, h⟩ := Derives.seq_iff.mp h
  obtain ⟨as, rest, rfl, hhint, -⟩ := Derives.seq_iff.mp h
  cases hcolon
  obtain ⟨hint, rfl, -⟩ := Derives.symbol_iff.mp hhint
  rcases Derives.choice_iff.mp htarget with hname | hpart
  · obtain ⟨names, nothing, rfl, hword, hahead⟩ := Derives.seq_iff.mp hname
    cases hahead
    cases hword with
    | @name n => exact ⟨.leaf (.word n), _, rest, rfl, .inl ⟨n, rfl⟩⟩
  · cases hpart with
    | shaped hprimary hshape =>
      obtain ⟨parts, rfl, -⟩ := Derives.symbol_iff.mp hprimary
      cases parts with
      | nil => exact nomatch hshape
      | cons x trailers => exact ⟨_, _, rest, rfl, .inr ⟨x, trailers, rfl, hshape⟩⟩

namespace Expr

/-- a part of something is no name -/
theorem foldl_ne_name {step : Expr → Syntree × Expr → Expr}
    (hattribute : ∀ base cs e n, step base (.node .attribute cs, e) ≠ .name n)
    (hsubscript : ∀ base cs e n, step base (.node .subscript cs, e) ≠ .name n)
    {trailers : List Syntree} (h : Shape.endsInPart trailers = true) (base : Expr) (n : String) :
    (eachOfTree trailers).foldl step base ≠ .name n := by
  induction trailers generalizing base with
  | nil => exact nomatch h
  | cons t ts ih =>
    show (eachOfTree ts).foldl step (step base (t, ofTree t)) ≠ .name n
    cases ts with
    | cons t' ts => exact ih (by simpa [Shape.endsInPart] using h) _
    | nil =>
      show step base (t, ofTree t) ≠ .name n
      unfold Shape.endsInPart at h
      split at h
      · exact nomatch h
      · next heq =>
        obtain ⟨rfl, -⟩ := List.cons.inj heq
        exact hattribute base _ _ n
      · next heq =>
        obtain ⟨rfl, -⟩ := List.cons.inj heq
        exact hsubscript base _ _ n
      · next heq =>
        obtain ⟨-, rfl⟩ := List.cons.inj heq
        exact nomatch h

theorem ofTree_ne_name {x : Syntree} {trailers : List Syntree}
    (h : Shape.endsInPart trailers = true) (n : String) :
    ofTree (.node .primary (x :: trailers)) ≠ .name n := by
  refine foldl_ne_name (fun base cs e n => ?_) (fun base cs e n => ?_) h _ n
  · exact nofun
  · cases e <;> exact nofun

theorem saysFinal_cases (table : CharacterNames) (e : Expr) :
    (∃ verdict, e.saysFinal table = .ok verdict) ∨ e.saysFinal table = .error .badLiteral := by
  unfold saysFinal
  split
  · exact .inl ⟨_, rfl⟩
  · exact .inl ⟨_, rfl⟩
  · split
    · exact .inl ⟨_, rfl⟩
    · exact .inl ⟨_, rfl⟩
    · exact .inr rfl
  · exact .inl ⟨_, rfl⟩

end Expr

/-! ## Collected names -/

/-- what comes of collecting the final names of declarations: one whose annotation is no proper text
spoils it; the table tells which characters have names -/
inductive Collects (table : CharacterNames) (declared : String → Syntree → Prop) :
    Except Fault (List String) → Prop where
  | malformed {n : String} {hint : Syntree} (declaration : declared n hint)
      (h : (Expr.ofTree hint).saysFinal table = .error .badLiteral) :
      Collects table declared (.error .badLiteral)
  | found {names : List String}
      (proper : ∀ n hint, declared n hint →
        (Expr.ofTree hint).saysFinal table ≠ .error .badLiteral)
      (mem_iff : ∀ n, n ∈ names ↔
        ∃ hint, declared n hint ∧ (Expr.ofTree hint).saysFinal table = .ok true) :
      Collects table declared (.ok names)

namespace Collects

variable {table : CharacterNames} {declared declared' : String → Syntree → Prop}
  {r r' : Except Fault (List String)}

theorem congr (h : Collects table declared r) (hiff : ∀ n a, declared n a ↔ declared' n a) :
    Collects table declared' r := by
  have hsame : declared = declared' := funext fun n => funext fun a => propext (hiff n a)
  exact hsame ▸ h

theorem nothing (h : ∀ n a, ¬declared n a) : Collects table declared (.ok []) :=
  .found (fun n a ha => absurd ha (h n a))
    fun n => iff_of_false List.not_mem_nil fun ⟨a, ha, _⟩ => h n a ha

/-- names that are collected one after the other; the first fault is that of both -/
theorem append (h : Collects table declared r) (h' : Collects table declared' r') :
    Collects table (fun n a => declared n a ∨ declared' n a)
      (do let names ← r; return names ++ (← r')) := by
  cases h with
  | malformed declaration hbad => exact .malformed (.inl declaration) hbad
  | found proper mem_iff =>
    cases h' with
    | malformed declaration hbad => exact .malformed (.inr declaration) hbad
    | found proper' mem_iff' =>
      refine .found (fun n a ha => ha.elim (proper n a) (proper' n a)) fun n => ?_
      rw [List.mem_append, mem_iff, mem_iff']
      constructor
      · rintro (⟨a, ha, hfinal⟩ | ⟨a, ha, hfinal⟩)
        · exact ⟨a, .inl ha, hfinal⟩
        · exact ⟨a, .inr ha, hfinal⟩
      · rintro ⟨a, ha | ha, hfinal⟩
        · exact .inl ⟨a, ha, hfinal⟩
        · exact .inr ⟨a, ha, hfinal⟩

end Collects

variable {table : CharacterNames}

theorem declaredFinal_append (ss ss' : List Statement) :
    declaredFinal table (ss ++ ss') = (do
      let names ← declaredFinal table ss
      return names ++ (← declaredFinal table ss')) := by
  induction ss with
  | nil =>
    show declaredFinal table ss' = (do return [] ++ (← declaredFinal table ss'))
    cases declaredFinal table ss' with
    | error e => rfl
    | ok names => rfl
  | cons s ss ih =>
    show (do
      let names ← s.declaredFinal table
      return names ++ (← declaredFinal table (ss ++ ss'))) = _
    rw [ih]
    show _ = (do
      let names ← (do
        let names ← s.declaredFinal table
        return names ++ (← declaredFinal table ss))
      return names ++ (← declaredFinal table ss'))
    cases s.declaredFinal table with
    | error e => rfl
    | ok names =>
      cases declaredFinal table ss with
      | error e => rfl
      | ok names' =>
        cases declaredFinal table ss' with
        | error e => rfl
        | ok names'' => exact congrArg Except.ok (List.append_assoc ..).symm

theorem declaredFinal_single (s : Statement) :
    declaredFinal table [s] = s.declaredFinal table := by
  show (do let names ← s.declaredFinal table; return names ++ []) = s.declaredFinal table
  cases s.declaredFinal table with
  | error e => rfl
  | ok names => exact congrArg Except.ok (List.append_nil names)

/-! ## Statements of a tree -/

/-- the children of a node are as its form has them -/
def Parsed : Syntree → Prop
  | .leaf _ => True
  | .node s cs => language.Derives (language.form s) cs

theorem Parsed.child {s : Symbol} {cs : List Syntree} (h : Parsed (.node s cs)) {c : Syntree}
    (hc : c ∈ cs) : Parsed c := by
  cases c with
  | leaf t => trivial
  | node s' cs' => exact (Derives.of_mem h hc).2

theorem declaredIn_leaf (t : Token) (n : String) (a : Syntree) : ¬DeclaredIn (.leaf t) n a := by
  rintro ⟨rest, h⟩
  exact nomatch h

/-- nothing in a function or class counts as declared -/
theorem declaredIn_scope (cs : List Syntree) (n : String) (a : Syntree) :
    ¬DeclaredIn (.node .scope cs) n a := by
  rintro ⟨rest, h⟩
  cases h with
  | inside enter _ _ => exact enter rfl

/-- what is declared in any other statement is declared in a part of it -/
theorem declaredIn_node {s : Symbol} (hscope : s ≠ .scope) (hannotated : s ≠ .annotated)
    (cs : List Syntree) (n : String) (a : Syntree) :
    DeclaredIn (.node s cs) n a ↔ ∃ c ∈ cs, DeclaredIn c n a := by
  constructor
  · rintro ⟨rest, h⟩
    cases h with
    | here => exact absurd rfl hannotated
    | inside _ child h => exact ⟨_, child, rest, h⟩
  · rintro ⟨c, hc, rest, h⟩
    exact ⟨rest, .inside hscope hc h⟩

/-- an annotated assignment declares its own target only -/
theorem declaredIn_annotated {cs : List Syntree}
    (h : language.Derives (Symbol.form .annotated) cs) (n : String) (a : Syntree) :
    DeclaredIn (.node .annotated cs) n a ↔
      ∃ rest, cs = .leaf (.word n) :: .leaf (.op ":") :: a :: rest := by
  constructor
  · rintro ⟨rest, hreach⟩
    generalize hnode : assignment n a rest = t at hreach
    cases hreach with
    | here => exact ⟨rest, ((Tree.node.inj hnode).2).symm⟩
    | inside _ child hreach =>
      subst hnode
      exact absurd hreach (not_annotated_below h child)
  · rintro ⟨rest, rfl⟩
    exact ⟨rest, .here _⟩

/-- an assignment to a name declares that name, with its annotation, and nothing else -/
theorem declaredIn_assignment {n : String} {hint : Syntree} {rest : List Syntree}
    (h : language.Derives (Symbol.form .annotated)
      (.leaf (.word n) :: .leaf (.op ":") :: hint :: rest)) (n' : String) (a : Syntree) :
    DeclaredIn (assignment n hint rest) n' a ↔ n' = n ∧ a = hint := by
  refine (declaredIn_annotated h n' a).trans ⟨?_, ?_⟩
  · rintro ⟨rest', hsame⟩
    injection hsame with hword hsame
    injection hsame with _ hsame
    injection hsame with hhint _
    injection hword with hword
    injection hword with hword
    exact ⟨hword.symm, hhint.symm⟩
  · rintro ⟨rfl, rfl⟩
    exact ⟨rest, rfl⟩

/-- the one name that a statement declares is collected when its annotation says final -/
theorem collects_single {declared : String → Syntree → Prop} {n : String} {hint : Syntree}
    (h : ∀ n' a, declared n' a ↔ n' = n ∧ a = hint) :
    Collects table declared
      (do return if ← (Expr.ofTree hint).saysFinal table then [n] else []) := by
  have hdeclared : declared n hint := (h n hint).mpr ⟨rfl, rfl⟩
  rcases (Expr.ofTree hint).saysFinal_cases table with ⟨verdict, hverdict⟩ | hbad
  · rw [hverdict]
    refine .found (fun n' a ha => ?_) fun n' => ⟨fun hn => ?_, ?_⟩
    · obtain ⟨-, rfl⟩ := (h n' a).mp ha
      rw [hverdict]
      exact nofun
    · cases verdict with
      | false => exact nomatch hn
      | true =>
        obtain rfl := List.mem_singleton.mp hn
        exact ⟨hint, hdeclared, hverdict⟩
    · rintro ⟨a, ha, hfinal⟩
      obtain ⟨rfl, rfl⟩ := (h n' a).mp ha
      obtain rfl := Except.ok.inj (hverdict.symm.trans hfinal)
      exact List.mem_singleton_self _
  · rw [hbad]
    exact .malformed hdeclared hbad

theorem collects_ofAnnotated {cs : List Syntree}
    (h : language.Derives (Symbol.form .annotated) cs) :
    Collects table (DeclaredIn (.node .annotated cs))
      ((Statement.ofAnnotated cs).declaredFinal table) := by
  obtain ⟨target, hint, rest, rfl, htarget⟩ := annotated_shape h
  show Collects table _
    ((Statement.annotated (Expr.ofTree target) (Expr.ofTree hint)).declaredFinal table)
  rcases htarget with ⟨n, rfl⟩ | ⟨x, trailers, rfl, hends⟩
  · exact collects_single (declaredIn_assignment h)
  · have hplain : (Statement.annotated (Expr.ofTree (.node .primary (x :: trailers)))
        (Expr.ofTree hint)).declaredFinal table = .ok [] := by
      cases htree : Expr.ofTree (.node .primary (x :: trailers)) with
      | name n => exact absurd htree (Expr.ofTree_ne_name hends n)
      | _ => rfl
    rw [hplain]
    refine .nothing fun n a ha => ?_
    obtain ⟨rest', hsame⟩ := (declaredIn_annotated h n a).mp ha
    injection hsame with hword _
    exact nomatch hword

mutual

/-- the statements of a tree are collected as its declarations tell -/
theorem collects_ofTree : ∀ t : Syntree, Parsed t →
    Collects table (DeclaredIn t) (declaredFinal table (Statement.ofTree t))
  | .leaf token, _ => .nothing (declaredIn_leaf token)
  | .node s cs, h => by
    have hchildren := collects_ofTrees cs fun c hc => h.child hc
    unfold Statement.ofTree
    split
    · rw [declaredFinal_single]
      exact collects_ofAnnotated h
    · rw [declaredFinal_single]
      exact .nothing (declaredIn_scope cs)
    · rw [declaredFinal_single]
      exact hchildren.congr fun n a =>
        (declaredIn_node (s := .compound) (by decide) (by decide) cs n a).symm
    · have hsame :
          declaredFinal table (match Statement.ofTrees cs with | [] => [.other] | ss => ss)
            = declaredFinal table (Statement.ofTrees cs) := by
        cases Statement.ofTrees cs with
        | nil => rfl
        | cons s ss => rfl
      exact hsame ▸ hchildren.congr fun n a =>
        (declaredIn_node (s := .simple) (by decide) (by decide) cs n a).symm
    · next hannotated hscope _ _ =>
      exact hchildren.congr fun n a => (declaredIn_node hscope hannotated cs n a).symm

theorem collects_ofTrees : ∀ ts : List Syntree, (∀ t ∈ ts, Parsed t) →
    Collects table (fun n a => ∃ t ∈ ts, DeclaredIn t n a)
      (declaredFinal table (Statement.ofTrees ts))
  | [], _ => .nothing fun n a ⟨t, ht, _⟩ => nomatch ht
  | t :: ts, h => by
    have hhead := collects_ofTree t (h t List.mem_cons_self)
    have htail := collects_ofTrees ts fun t' ht' => h t' (List.mem_cons_of_mem _ ht')
    show Collects table _ (declaredFinal table (Statement.ofTree t ++ Statement.ofTrees ts))
    rw [declaredFinal_append]
    exact (hhead.append htail).congr fun n a =>
      (List.exists_mem_cons_iff (DeclaredIn · n a) t ts).symm

end

example : (finalNames latinCharacterNames
    "if a:\n  for b in c:\n    A: Final\nclass K:\n  if d:\n    B: Final\n"
      matches .ok ["A"]) = true := by
  decide +kernel

example : (finalNames (fun _ => none) "A: Final\nB: \"\\N\x7bSPACE\x7dFinal\"\n"
    matches .error .badLiteral) = true := by
  decide +kernel

end Introspect.Source
