import Introspect.Proofs.Source.Agreement

/-!
# Which texts say final

The qualifiers are taken away from a text one after the other, and the search goes on after a
qualifier was found.  So a text says final when the word stands behind some of the qualifiers in
their order: not only behind none of them or behind one, as the grammar of annotations has it, but
also behind two or three.

* `SaysFinal`                a text is a beginning and the word, and may go on with a bracket;
* `InGrammar`, `Stacked`     that beginning is one qualifier at most, or several of them;
* `exists_foldl_dropStart`   what is taken away from a text are some of the qualifiers;
* `isFinalChars_iff`         which texts say final;
* `SaysFinal.unique`         the qualifiers before the word can be read off a text;
* `isFinal_reference_iff`    which annotations do that are texts, or hold one.
-/

namespace Introspect

namespace Source

open Introspect.Text (trimChars)

/-- a text is the word after a beginning, or goes on with a bracket after it -/
def SaysFinal (start cs : List Char) : Prop :=
  cs = start ++ finalWord.chars ∨ start ++ finalWord.chars ++ ['['] <+: cs

/-- what follows the word in a text that says final -/
theorem saysFinal_iff {start cs : List Char} :
    SaysFinal start cs ↔ ∃ tail : List Char, (tail = [] ∨ ∃ more, tail = '[' :: more)
      ∧ cs = start ++ (finalWord.chars ++ tail) := by
  constructor
  · rintro (rfl | ⟨more, rfl⟩)
    · exact ⟨[], .inl rfl, by rw [List.append_nil]⟩
    · exact ⟨'[' :: more, .inr ⟨more, rfl⟩, by simp only [List.append_assoc, List.cons_append,
        List.nil_append]⟩
  · rintro ⟨tail, rfl | ⟨more, rfl⟩, rfl⟩
    · exact .inl (by rw [List.append_nil])
    · exact .inr ⟨more, by simp only [List.append_assoc, List.cons_append, List.nil_append]⟩

/-- the word stands behind nothing or behind one of the qualifiers -/
def InGrammar (cs : List Char) : Prop := ∃ q, (q = [] ∨ q ∈ qualifiers) ∧ SaysFinal q cs

/-- the word stands behind two of the qualifiers or more, in their order -/
def Stacked (cs : List Char) : Prop :=
  ∃ used : List (List Char), used.Sublist qualifiers ∧ 2 ≤ used.length ∧ SaysFinal used.flatten cs

/-! ## What is taken away -/

/-- beginnings that are taken away one after the other are some of those that are asked for -/
theorem exists_foldl_dropStart (qs : List (List Char)) (cs : List Char) :
    ∃ used : List (List Char), used.Sublist qs
      ∧ cs = used.flatten ++ qs.foldl (fun cs q => dropStart q cs) cs := by
  induction qs generalizing cs with
  | nil => exact ⟨[], .slnil, rfl⟩
  | cons q qs ih =>
    obtain ⟨used, hused, hcs⟩ := ih (dropStart q cs)
    rw [List.foldl_cons]
    unfold dropStart at hcs ⊢
    split at hcs
    · next hstart =>
      obtain ⟨rest, rfl⟩ := List.isPrefixOf_iff_prefix.mp hstart
      rw [List.drop_left] at hcs
      refine ⟨q :: used, hused.cons_cons q, ?_⟩
      rw [if_pos hstart, List.drop_left, List.flatten_cons, List.append_assoc, ← hcs]
    · next hstart =>
      rw [if_neg hstart]
      exact ⟨used, hused.cons q, hcs⟩

/-- the word behind some qualifiers, as a dotted name -/
theorem exists_spelled (used : List Identifier) (f : Identifier) (tail : List Char) :
    ∃ p ps, p :: ps = used ++ [f]
      ∧ spelled tail p ps = (used.map fun q => q.chars ++ ['.']).flatten ++ (f.chars ++ tail) := by
  induction used with
  | nil => exact ⟨f, [], rfl, rfl⟩
  | cons u us ih =>
    obtain ⟨p, ps, hparts, hspelled⟩ := ih
    refine ⟨u, p :: ps, congrArg (u :: ·) hparts, ?_⟩
    rw [List.map_cons, List.flatten_cons, List.append_assoc, ← hspelled, List.append_assoc]
    rfl

/-- what may follow the word goes on with no name -/
theorem stops_tail {tail : List Char} (htail : tail = [] ∨ ∃ more, tail = '[' :: more) :
    Stops tail ∧ tail.head? ≠ some '.' := by
  rcases htail with rfl | ⟨more, rfl⟩
  · exact ⟨stops_nil, nofun⟩
  · exact ⟨stops_cons isNamePart_bracket more, fun h => absurd (Option.some.inj h) (by decide)⟩

/-- some of the qualifiers are the texts of some of the known words -/
theorem exists_of_sublist_qualifiers {used : List (List Char)} (h : used.Sublist qualifiers) :
    ∃ words : List Identifier, words.Sublist knownQualifiers
      ∧ used = words.map fun q => q.chars ++ ['.'] := by
  rw [qualifiers_eq] at h
  exact List.sublist_map_iff.mp h

/-- a text says final when the word stands behind some of the qualifiers -/
theorem isFinalChars_iff (cs : List Char) :
    isFinalChars cs = true
      ↔ ∃ used : List (List Char), used.Sublist qualifiers
        ∧ SaysFinal used.flatten (trimChars cs) := by
  unfold isFinalChars
  dsimp only
  rw [Bool.or_eq_true, beq_iff_eq, List.isPrefixOf_iff_prefix]
  constructor
  · intro hrest
    obtain ⟨used, hused, hcs⟩ := exists_foldl_dropStart qualifiers (trimChars cs)
    refine ⟨used, hused, saysFinal_iff.mpr ?_⟩
    rcases hrest with hrest | ⟨more, hrest⟩
    · rw [hrest] at hcs
      exact ⟨[], .inl rfl, hcs⟩
    · rw [← hrest] at hcs
      exact ⟨'[' :: more, .inr ⟨more, rfl⟩, hcs⟩
  · rintro ⟨used, hused, hsays⟩
    obtain ⟨tail, htail, hcs⟩ := saysFinal_iff.mp hsays
    obtain ⟨hstops, hdot⟩ := stops_tail htail
    obtain ⟨words, hwords, rfl⟩ := exists_of_sublist_qualifiers hused
    obtain ⟨p, ps, hparts, hspelled⟩ := exists_spelled words finalWord tail
    have hleft : withoutQualifiers knownQualifiers p ps = (finalWord, []) :=
      (withoutQualifiers_eq_iff _ _ _ _).mpr ⟨words, hwords, hparts⟩
    have hrest : qualifiers.foldl (fun cs q => dropStart q cs) (trimChars cs)
        = finalWord.chars ++ tail := by
      rw [hcs, ← hspelled, qualifiers_eq, foldl_dropStart hstops hdot, hleft]
      rfl
    rw [hrest]
    rcases htail with rfl | ⟨more, rfl⟩
    · exact .inl (List.append_nil _)
    · exact .inr ⟨more, rfl⟩

/-! ## The qualifiers of a text -/

/-- the parts of a dotted name can be read off its text -/
theorem spelled_inj {tail tail' : List Char} (htail : Stops tail) (hdot : tail.head? ≠ some '.')
    (htail' : Stops tail') (hdot' : tail'.head? ≠ some '.') {p q : Identifier}
    {ps qs : List Identifier} (h : spelled tail p ps = spelled tail' q qs) : p :: ps = q :: qs := by
  induction ps generalizing p q qs with
  | nil =>
    obtain ⟨rfl, hrest⟩ := spelled_eq_append htail (stops_continued htail' qs) h
    cases qs with
    | nil => rfl
    | cons q qs => exact absurd (congrArg List.head? hrest) hdot
  | cons p' ps ih =>
    obtain ⟨rfl, hrest⟩ := spelled_eq_append htail (stops_continued htail' qs) h
    cases qs with
    | nil => exact absurd (congrArg List.head? hrest).symm hdot'
    | cons q' qs => rw [ih (List.cons.inj hrest).2]

/-- a text does not say final behind different qualifiers -/
theorem SaysFinal.unique {used used' : List (List Char)} {cs : List Char}
    (hused : used.Sublist qualifiers) (hused' : used'.Sublist qualifiers)
    (h : SaysFinal used.flatten cs) (h' : SaysFinal used'.flatten cs) : used = used' := by
  obtain ⟨words, -, rfl⟩ := exists_of_sublist_qualifiers hused
  obtain ⟨words', -, rfl⟩ := exists_of_sublist_qualifiers hused'
  obtain ⟨tail, htail, rfl⟩ := saysFinal_iff.mp h
  obtain ⟨tail', htail', hcs⟩ := saysFinal_iff.mp h'
  obtain ⟨hstops, hdot⟩ := stops_tail htail
  obtain ⟨hstops', hdot'⟩ := stops_tail htail'
  obtain ⟨p, ps, hparts, hspelled⟩ := exists_spelled words finalWord tail
  obtain ⟨q, qs, hparts', hspelled'⟩ := exists_spelled words' finalWord tail'
  have hsame := spelled_inj hstops hdot hstops' hdot' ((hspelled.trans hcs).trans hspelled'.symm)
  rw [hparts, hparts'] at hsame
  rw [List.append_cancel_right hsame]

/-- the grammar allows one qualifier at most -/
theorem inGrammar_iff {cs : List Char} : InGrammar cs
    ↔ ∃ used : List (List Char), used.Sublist qualifiers ∧ used.length ≤ 1
      ∧ SaysFinal used.flatten cs := by
  constructor
  · rintro ⟨q, rfl | hq, hsays⟩
    · exact ⟨[], List.nil_sublist _, Nat.zero_le _, hsays⟩
    · refine ⟨[q], List.singleton_sublist.mpr hq, Nat.le_refl _, ?_⟩
      rwa [List.flatten_singleton]
  · rintro ⟨used, hused, hlen, hsays⟩
    match used, hlen with
    | [], _ => exact ⟨[], .inl rfl, hsays⟩
    | [q], _ =>
      rw [List.flatten_singleton] at hsays
      exact ⟨q, .inr (List.singleton_sublist.mp hused), hsays⟩

/-- a text that says final is in the grammar, or it has more qualifiers than that allows -/
theorem isFinalChars_cases (cs : List Char) :
    (isFinalChars cs = true ↔ InGrammar (trimChars cs) ∨ Stacked (trimChars cs))
      ∧ ¬ (InGrammar (trimChars cs) ∧ Stacked (trimChars cs)) := by
  rw [isFinalChars_iff, inGrammar_iff]
  constructor
  · constructor
    · rintro ⟨used, hused, hsays⟩
      rcases Nat.lt_or_ge 1 used.length with hlen | hlen
      · exact .inr ⟨used, hused, hlen, hsays⟩
      · exact .inl ⟨used, hused, hlen, hsays⟩
    · rintro (⟨used, hused, -, hsays⟩ | ⟨used, hused, -, hsays⟩)
      · exact ⟨used, hused, hsays⟩
      · exact ⟨used, hused, hsays⟩
  · rintro ⟨⟨used, hused, hlen, hsays⟩, ⟨used', hused', hlen', hsays'⟩⟩
    obtain rfl := SaysFinal.unique hused hused' hsays hsays'
    omega

end Source

open Source

/-! ## Annotations that are texts -/

/-- neither texts nor what may hold one refuse to be looked at -/
structure Hierarchy.LooksAtReferences (h : Hierarchy) : Prop extends h.LooksAtTexts where
  forwardRef : h.someTrait .forwardRef Traits.refuses = false
  holder : h.someTrait .simpleNamespace Traits.refuses = false

/-- a text, a reference to what a text means, and something that holds a text are answered alike;
the answer is yes for the texts of the grammar, and besides for those with several qualifiers -/
theorem isFinal_reference_iff {h : Hierarchy} (hlooks : h.LooksAtReferences) (s : String) :
    ∃ answer, (Value.str s).isFinal h = .ok answer
      ∧ (Value.forwardRef s).isFinal h = .ok answer
      ∧ (Value.forwardHolder (.str s)).isFinal h = .ok answer
      ∧ (answer = true ↔ InGrammar (Text.trimChars s.toList) ∨ Stacked (Text.trimChars s.toList))
      ∧ ¬ (InGrammar (Text.trimChars s.toList) ∧ Stacked (Text.trimChars s.toList)) := by
  have hstr : (Value.str s).refuses h = false := hlooks.str
  have href : (Value.forwardRef s).refuses h = false := hlooks.forwardRef
  have hholder : (Value.forwardHolder (.str s)).refuses h = false := hlooks.holder
  unfold Value.isFinal
  rw [hstr, href, hholder]
  exact ⟨isFinalText s, rfl, rfl, rfl, isFinalChars_cases s.toList⟩

/-- with two qualifiers a text is outside of the grammar, and says final all the same -/
theorem isFinal_twoQualifiers :
    (Hierarchy.baseOf 62).LooksAtReferences
      ∧ Stacked (Text.trimChars " typing.t.Final[int]".toList)
      ∧ (Value.forwardRef " typing.t.Final[int]").isFinal (.baseOf 62) = .ok true
      ∧ ¬ InGrammar (Text.trimChars " typing.t.Final[int]".toList) := by
  have hlooks : (Hierarchy.baseOf 62).LooksAtReferences :=
    ⟨⟨by decide +kernel, by decide +kernel⟩, by decide +kernel, by decide +kernel⟩
  have hstacked : Stacked (Text.trimChars " typing.t.Final[int]".toList) :=
    ⟨["typing.", "t."].map String.toList, by decide +kernel, by decide, .inr (by decide +kernel)⟩
  obtain ⟨answer, -, href, -, hanswer, hnotboth⟩ :=
    isFinal_reference_iff hlooks " typing.t.Final[int]"
  rw [hanswer.mpr (.inr hstacked)] at href
  exact ⟨hlooks, hstacked, href, fun hgrammar => hnotboth ⟨hgrammar, hstacked⟩⟩

end Introspect
