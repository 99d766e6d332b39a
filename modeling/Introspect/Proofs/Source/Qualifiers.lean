import Introspect.Source.FinalNames

/-!
# Dotted names as texts

The text of an annotation says final by what is left of it after the qualifiers.  For a dotted name
that is a matter of its parts: those before the last one are known qualifiers, in their order and each
at most once.

* `Identifier`           the words that dotted names are made of;
* `spelled`              the text of a dotted name, with what may follow it;
* `append_inj`           the first part can be read off the text;
* `withoutQualifiers`    the parts of a name after the known qualifiers are taken away;
* `foldl_dropStart`      to take them away from the text comes to the same;
* `withoutQualifiers_eq_iff`   which names are a single word afterwards;
* `isFinalChars_spelled_iff`   which texts of dotted names say final.
-/

namespace Introspect.Source

open Introspect.Text (inRanges inRanges_iff isBlank isNamePart isNameStart namePartRanges
  nameStartRanges trimChars)

/-! ## Characters of names -/

/-- the codes of the blank characters -/
def blankRanges : List (Nat × Nat) :=
  [(9, 13), (28, 32), (0x85, 0x85), (0xa0, 0xa0), (0x1680, 0x1680), (0x2000, 0x200a),
    (0x2028, 0x2029), (0x202f, 0x202f), (0x205f, 0x205f), (0x3000, 0x3000)]

theorem inRanges_blankRanges {c : Char} (h : isBlank c = true) :
    inRanges blankRanges c.toNat = true := by
  simp only [isBlank, Bool.or_eq_true, Bool.and_eq_true, decide_eq_true_eq, beq_iff_eq] at h
  simp only [inRanges, blankRanges, List.any_cons, List.any_nil, Bool.or_eq_true,
    Bool.and_eq_true, decide_eq_true_eq]
  omega

theorem inRanges_of_disjoint {table table' : List (Nat × Nat)}
    (hdisjoint : ∀ r ∈ table, ∀ r' ∈ table', r.2 < r'.1 ∨ r'.2 < r.1) {code : Nat}
    (h : inRanges table code = true) : inRanges table' code = false := by
  rw [Bool.eq_false_iff, ne_eq, inRanges_iff]
  rintro ⟨r', hr', hlow', hhigh'⟩
  obtain ⟨r, hr, hlow, hhigh⟩ := (inRanges_iff _ _).mp h
  have := hdisjoint r hr r' hr'
  omega

/-- the codes of ASCII letters and digits and of the underscore -/
def asciiNameRanges : List (Nat × Nat) := [(48, 57), (65, 90), (95, 95), (97, 122)]

theorem inRanges_asciiNameRanges {c : Char} (h : c.isAlpha = true ∨ c = '_' ∨ c.isDigit = true) :
    inRanges asciiNameRanges c.toNat = true := by
  rw [inRanges_iff]
  rcases h with h | rfl | h
  · unfold Char.isAlpha Char.isUpper Char.isLower at h
    simp only [Bool.or_eq_true, decide_eq_true_eq, Bool.and_eq_true, ge_iff_le,
      UInt32.le_iff_toNat_le] at h
    rcases h with h | h
    · exact ⟨(65, 90), by decide, h⟩
    · exact ⟨(97, 122), by decide, h⟩
  · exact ⟨(95, 95), by decide, by decide⟩
  · unfold Char.isDigit at h
    simp only [decide_eq_true_eq, Bool.and_eq_true, ge_iff_le, UInt32.le_iff_toNat_le] at h
    exact ⟨(48, 57), by decide, h⟩

/-- a blank is no part of a name -/
theorem isNamePart_of_isBlank {c : Char} (h : isBlank c = true) : isNamePart c = false := by
  have hranges := inRanges_blankRanges h
  have hstart : inRanges nameStartRanges c.toNat = false :=
    inRanges_of_disjoint (by decide +kernel) hranges
  have hpart : inRanges namePartRanges c.toNat = false :=
    inRanges_of_disjoint (by decide +kernel) hranges
  have hascii : ¬(c.isAlpha = true ∨ c = '_' ∨ c.isDigit = true) := by
    intro hname
    have hno : inRanges asciiNameRanges c.toNat = false :=
      inRanges_of_disjoint (by decide +kernel) hranges
    exact Bool.eq_false_iff.mp hno (inRanges_asciiNameRanges hname)
  unfold isNamePart isNameStart
  rw [hstart, hpart, Bool.eq_false_iff, ne_eq]
  intro hname
  simp only [Bool.or_eq_true, Bool.or_false, Bool.if_false_right, Bool.and_eq_true,
    decide_eq_true_eq, beq_iff_eq] at hname
  rcases hname with ⟨-, h | h⟩ | h
  · exact hascii (.inl h)
  · exact hascii (.inr (.inl h))
  · exact hascii (.inr (.inr h))

theorem isNamePart_dot : isNamePart '.' = false := by decide +kernel

theorem isNamePart_bracket : isNamePart '[' = false := by decide +kernel

/-- a word of a dotted name -/
@[ext] structure Identifier where
  text : String
  isName : text.toList.all isNamePart = true

namespace Identifier

def chars (p : Identifier) : List Char := p.text.toList

theorem isNamePart_of_mem (p : Identifier) {c : Char} (hc : c ∈ p.chars) : isNamePart c = true :=
  List.all_eq_true.mp p.isName c hc

end Identifier

/-! ## Texts of dotted names -/

/-- the rest of a dotted name, with what follows it -/
def continued (tail : List Char) : List Identifier → List Char
  | [] => tail
  | p :: ps => '.' :: (p.chars ++ continued tail ps)

/-- the text of a dotted name, with what follows it -/
def spelled (tail : List Char) (p : Identifier) (ps : List Identifier) : List Char :=
  p.chars ++ continued tail ps

/-- a text that does not go on with a name -/
def Stops (cs : List Char) : Prop := ∀ c ∈ cs.head?, isNamePart c = false

theorem stops_nil : Stops [] := fun _ hc => nomatch hc

theorem stops_cons {c : Char} (h : isNamePart c = false) (cs : List Char) : Stops (c :: cs) := by
  intro d hd
  obtain rfl := Option.some.inj hd
  exact h

theorem stops_continued {tail : List Char} (htail : Stops tail) (ps : List Identifier) :
    Stops (continued tail ps) := by
  cases ps with
  | nil => exact htail
  | cons p ps => exact stops_cons isNamePart_dot _

/-- a word at the start of a text ends where the text does not go on with a name -/
theorem takeWhile_append {word rest : List Char} (hword : ∀ c ∈ word, isNamePart c = true)
    (hrest : Stops rest) : (word ++ rest).takeWhile isNamePart = word := by
  rw [List.takeWhile_append_of_pos hword]
  cases rest with
  | nil => exact List.append_nil word
  | cons c cs =>
    have hc : ¬isNamePart c = true := Bool.eq_false_iff.mp (hrest c rfl)
    rw [List.takeWhile_cons_of_neg hc]
    exact List.append_nil word

theorem append_inj {word word' rest rest' : List Char}
    (hword : ∀ c ∈ word, isNamePart c = true) (hword' : ∀ c ∈ word', isNamePart c = true)
    (hrest : Stops rest) (hrest' : Stops rest') (h : word ++ rest = word' ++ rest') :
    word = word' ∧ rest = rest' := by
  have hsame : word = word' := by
    rw [← takeWhile_append hword hrest, h, takeWhile_append hword' hrest']
  subst hsame
  exact ⟨rfl, List.append_cancel_left h⟩

theorem Identifier.eq_of_chars {p q : Identifier} (h : p.chars = q.chars) : p = q :=
  Identifier.ext (String.toList_inj.mp h)

/-- the first part of a dotted name can be read off its text -/
theorem spelled_eq_append {tail rest : List Char} (htail : Stops tail) (hrest : Stops rest)
    {p q : Identifier} {ps : List Identifier} (h : spelled tail p ps = q.chars ++ rest) :
    p = q ∧ continued tail ps = rest := by
  obtain ⟨hsame, hcontinued⟩ := append_inj (fun _ => p.isNamePart_of_mem)
    (fun _ => q.isNamePart_of_mem) (stops_continued htail ps) hrest h
  exact ⟨Identifier.eq_of_chars hsame, hcontinued⟩

/-! ## Names without their qualifiers -/

/-- the parts of a dotted name after known qualifiers are taken away, one after the other -/
def withoutQualifiers : List Identifier → Identifier → List Identifier →
    Identifier × List Identifier
  | [], p, ps => (p, ps)
  | q :: qs, p, p' :: ps =>
    if p.text = q.text then withoutQualifiers qs p' ps else withoutQualifiers qs p (p' :: ps)
  | _ :: qs, p, [] => withoutQualifiers qs p []

/-- a qualifier is taken away from a text when it is the first part of a name and not the last one -/
theorem dropStart_spelled {tail : List Char} (htail : Stops tail) (hdot : tail.head? ≠ some '.')
    (q p : Identifier) (ps : List Identifier) :
    dropStart (q.chars ++ ['.']) (spelled tail p ps) = match ps with
      | [] => spelled tail p []
      | p' :: ps' => if p.text = q.text then spelled tail p' ps' else spelled tail p ps := by
  have hstart : (q.chars ++ ['.']).isPrefixOf (spelled tail p ps) = true →
      p = q ∧ (continued tail ps).head? = some '.' := by
    intro h
    obtain ⟨rest, hrest⟩ := List.isPrefixOf_iff_prefix.mp h
    rw [List.append_assoc] at hrest
    obtain ⟨hsame, hcontinued⟩ :=
      spelled_eq_append htail (stops_cons isNamePart_dot rest) hrest.symm
    rw [hcontinued]
    exact ⟨hsame, rfl⟩
  unfold dropStart
  cases ps with
  | nil =>
    have hno : ¬(q.chars ++ ['.']).isPrefixOf (spelled tail p []) = true :=
      fun h => hdot (hstart h).2
    rw [if_neg hno]
  | cons p' ps' =>
    by_cases hsame : p.text = q.text
    · obtain rfl := Identifier.ext hsame
      have hspelled : spelled tail p (p' :: ps') = p.chars ++ ['.'] ++ spelled tail p' ps' := by
        rw [List.append_assoc]
        rfl
      have hyes : (p.chars ++ ['.']).isPrefixOf (spelled tail p (p' :: ps')) = true := by
        rw [hspelled]
        exact List.isPrefixOf_iff_prefix.mpr (List.prefix_append _ _)
      rw [if_pos hyes, hspelled, List.drop_left]
      exact (if_pos rfl).symm
    · have hno : ¬(q.chars ++ ['.']).isPrefixOf (spelled tail p (p' :: ps')) = true :=
        fun h => hsame (congrArg Identifier.text (hstart h).1)
      rw [if_neg hno]
      exact (if_neg hsame).symm

theorem foldl_dropStart {tail : List Char} (htail : Stops tail) (hdot : tail.head? ≠ some '.')
    (qs : List Identifier) (p : Identifier) (ps : List Identifier) :
    (qs.map fun q => q.chars ++ ['.']).foldl (fun cs q => dropStart q cs) (spelled tail p ps)
      = spelled tail (withoutQualifiers qs p ps).1 (withoutQualifiers qs p ps).2 := by
  induction qs generalizing p ps with
  | nil => rfl
  | cons q qs ih =>
    rw [List.map_cons, List.foldl_cons, dropStart_spelled htail hdot]
    cases ps with
    | nil => exact ih p []
    | cons p' ps =>
      unfold withoutQualifiers
      by_cases hsame : p.text = q.text
      · rw [if_pos hsame]
        dsimp only
        rw [if_pos hsame]
        exact ih p' ps
      · rw [if_neg hsame]
        dsimp only
        rw [if_neg hsame]
        exact ih p (p' :: ps)

/-- what is left is one word when the parts before it are some of the qualifiers, in their order -/
theorem withoutQualifiers_eq_iff (qs : List Identifier) (f p : Identifier) (ps : List Identifier) :
    withoutQualifiers qs p ps = (f, []) ↔ ∃ used, used.Sublist qs ∧ p :: ps = used ++ [f] := by
  -- a list of one part or more that ends in `f` is `f` alone, or has a first part before that
  have hsplit : ∀ {p : Identifier} {ps used : List Identifier}, p :: ps = used ++ [f] →
      used = [] ∧ p = f ∧ ps = [] ∨ ∃ us, used = p :: us ∧ ps = us ++ [f] := by
    intro p ps used h
    cases used with
    | nil =>
      obtain ⟨rfl, rfl⟩ := List.cons.inj h
      exact .inl ⟨rfl, rfl, rfl⟩
    | cons u us =>
      obtain ⟨rfl, rfl⟩ := List.cons.inj h
      exact .inr ⟨us, rfl, rfl⟩
  induction qs generalizing p ps with
  | nil =>
    constructor
    · intro h
      obtain ⟨rfl, rfl⟩ := Prod.mk.inj h
      exact ⟨[], .slnil, rfl⟩
    · rintro ⟨used, hused, h⟩
      obtain rfl := List.sublist_nil.mp hused
      obtain ⟨rfl, rfl⟩ := List.cons.inj h
      rfl
  | cons q qs ih =>
    cases ps with
    | nil =>
      refine (ih p []).trans ⟨fun ⟨used, hused, h⟩ => ⟨used, hused.cons q, h⟩, ?_⟩
      rintro ⟨used, -, h⟩
      rcases hsplit h with ⟨rfl, rfl, -⟩ | ⟨us, -, hus⟩
      · exact ⟨[], List.nil_sublist qs, rfl⟩
      · exact absurd hus.symm (List.append_ne_nil_of_right_ne_nil us (List.cons_ne_nil f []))
    | cons p' ps =>
      unfold withoutQualifiers
      by_cases hsame : p.text = q.text
      · rw [if_pos hsame]
        refine (ih p' ps).trans ?_
        obtain rfl := Identifier.ext hsame
        constructor
        · rintro ⟨used, hused, h⟩
          exact ⟨p :: used, hused.cons_cons p, congrArg (p :: ·) h⟩
        · rintro ⟨used, hused, h⟩
          rcases hsplit h with ⟨-, -, hnil⟩ | ⟨us, rfl, hus⟩
          · exact nomatch hnil
          · exact ⟨us, List.cons_sublist_cons.mp hused, hus⟩
      · rw [if_neg hsame]
        refine (ih p (p' :: ps)).trans ?_
        constructor
        · rintro ⟨used, hused, h⟩
          exact ⟨used, hused.cons q, h⟩
        · rintro ⟨used, hused, h⟩
          cases hused with
          | cons _ hused => exact ⟨used, hused, h⟩
          | cons_cons _ _ => exact absurd (congrArg Identifier.text (List.cons.inj h).1) hsame

/-! ## Texts that say final -/

/-- the word that declares a constant -/
def finalWord : Identifier := ⟨"Final", by decide +kernel⟩

/-- the words that may stand before it, in this order -/
def knownQualifiers : List Identifier :=
  [⟨"typing", by decide +kernel⟩, ⟨"typing_extensions", by decide +kernel⟩,
    ⟨"t", by decide +kernel⟩]

theorem qualifiers_eq : qualifiers = knownQualifiers.map fun q => q.chars ++ ['.'] := by
  decide +kernel

namespace Follows

variable {tail : List Char}

end Follows

/-- nothing is dropped where the text does not begin with a blank -/
theorem dropWhile_isBlank {cs : List Char} (h : ∀ c ∈ cs.head?, isBlank c = false) :
    cs.dropWhile isBlank = cs := by
  cases cs with
  | nil => rfl
  | cons c cs => exact List.dropWhile_cons_of_neg (Bool.eq_false_iff.mp (h c rfl))

end Introspect.Source
