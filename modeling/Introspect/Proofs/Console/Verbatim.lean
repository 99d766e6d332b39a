import Introspect.Console.Markup
import Introspect.Proofs.Acting
import Mathlib.Data.List.TakeWhile

/-!
# Texts that are shown as they are

Markup, names of pictures and characters that move the cursor are all that is not shown as it
stands.  Brackets and backslashes are only ever taken away, which decides the converse: no picture
makes up for a lost one.

* `Markup.HasTag`, `Markup.HasEscape`   a tag, or a backslash before a bracket, somewhere in a text;
* `Markup.Literal`                      texts without anything that is not shown as it stands;
* `Markup.marks_shownPieces_le`         no brackets or backslashes come up in showing;
* `Markup.plainOf_eq_iff`               exactly the literal texts are shown as they are, however
                                        tags are read.
-/

namespace Introspect

/-- the characters that markup takes away -/
def isMark (c : Char) : Bool := c == '[' || c == '\\'

def marks (cs : List Char) : Nat := cs.countP isMark

@[simp] theorem marks_nil : marks [] = 0 := rfl

theorem marks_cons (c : Char) (cs : List Char) :
    marks (c :: cs) = marks cs + if isMark c then 1 else 0 := List.countP_cons

@[simp] theorem marks_append (xs ys : List Char) : marks (xs ++ ys) = marks xs + marks ys :=
  List.countP_append

@[simp] theorem marks_reverse (cs : List Char) : marks cs.reverse = marks cs :=
  List.countP_reverse

theorem marks_eq_zero {cs : List Char} (h : ∀ c ∈ cs, isMark c = false) : marks cs = 0 :=
  List.countP_eq_zero.mpr fun c hc => Bool.eq_false_iff.mp (h c hc)

namespace Console

/-! ## Pictures -/

theorem isMark_of_isPictorial {c : Char} (h : isPictorial c = true) : isMark c = false := by
  unfold isPictorial at h
  unfold isMark
  rw [Bool.and_eq_true, Bool.and_eq_true] at h
  rw [Bool.or_eq_false_iff]
  exact ⟨Bool.not_eq_true' _ |>.mp h.1.1, Bool.not_eq_true' _ |>.mp h.1.2⟩

theorem isPictorial_of_splitEnding {cs : List Char} {c : Char} (hc : c ∈ (splitEnding cs).2) :
    isPictorial c = true := by
  unfold splitEnding at hc
  split at hc
  · rw [List.mem_singleton.mp hc]; rfl
  · rw [List.mem_singleton.mp hc]; rfl
  · exact nomatch hc

theorem isPictorial_of_namedPicture? {cs shown : List Char} (h : namedPicture? cs = some shown) :
    ∀ c ∈ shown, isPictorial c = true := by
  unfold namedPicture? at h
  dsimp only at h
  obtain ⟨p, -, rfl⟩ := Option.map_eq_some_iff.mp h
  intro c hc
  rcases List.mem_append.mp hc with hc | hc
  · exact p.pictorial c hc
  · exact isPictorial_of_splitEnding hc

theorem mem_shownName {cs : List Char} {c : Char} (hc : c ∈ shownName cs) :
    c ∈ cs ∨ isPictorial c = true := by
  unfold shownName at hc
  cases hname : namedPicture? cs with
  | some shown =>
    rw [hname] at hc
    exact .inr (isPictorial_of_namedPicture? hname c hc)
  | none =>
    rw [hname] at hc
    rcases List.mem_cons.mp hc with rfl | hc
    · exact .inr rfl
    · rcases List.mem_append.mp hc with hc | hc
      · exact .inl hc
      · rw [List.mem_singleton.mp hc]
        exact .inr rfl

theorem marks_shownName_le (cs : List Char) : marks (shownName cs) ≤ marks cs := by
  unfold shownName
  cases hname : namedPicture? cs with
  | some shown =>
    have hzero : marks shown = 0 :=
      marks_eq_zero fun c hc => isMark_of_isPictorial (isPictorial_of_namedPicture? hname c hc)
    rw [Option.getD_some, hzero]
    exact Nat.zero_le _
  | none =>
    rw [Option.getD_none, marks_append, marks_cons]
    exact Nat.le_refl _

/-- what is shown stands in the text, or belongs to a picture -/
theorem mem_showPicturesFrom {opened : Option (List Char)} {cs : List Char} {c : Char}
    (hc : c ∈ showPicturesFrom opened cs) :
    c ∈ opened.getD [] ∨ c ∈ cs ∨ isPictorial c = true := by
  induction cs generalizing opened with
  | nil =>
    cases opened with
    | none => exact nomatch hc
    | some opened =>
      rcases List.mem_cons.mp hc with rfl | hc
      · exact .inr (.inr rfl)
      · exact .inl (List.mem_reverse.mp hc)
  | cons d ds ih =>
    have hlater : ∀ {o : Option (List Char)}, o.getD [] = [] → c ∈ showPicturesFrom o ds →
        c ∈ d :: ds ∨ isPictorial c = true := by
      intro o ho hc
      rcases ih hc with hc | hc | hc
      · rw [ho] at hc
        exact nomatch hc
      · exact .inl (List.mem_cons_of_mem d hc)
      · exact .inr hc
    cases opened with
    | none =>
      refine .inr ?_
      rw [showPicturesFrom] at hc
      split at hc
      · exact hlater rfl hc
      · rcases List.mem_cons.mp hc with rfl | hc
        · exact .inl List.mem_cons_self
        · exact hlater rfl hc
    | some opened =>
      rw [showPicturesFrom] at hc
      split at hc
      · rcases List.mem_append.mp hc with hc | hc
        · rcases mem_shownName hc with hc | hc
          · exact .inl (List.mem_reverse.mp hc)
          · exact .inr (.inr hc)
        · exact .inr (hlater rfl hc)
      · split at hc
        · rcases List.mem_cons.mp hc with rfl | hc
          · exact .inr (.inr rfl)
          · rcases List.mem_append.mp hc with hc | hc
            · exact .inl (List.mem_reverse.mp hc)
            · rcases List.mem_cons.mp hc with rfl | hc
              · exact .inr (.inl List.mem_cons_self)
              · exact .inr (hlater rfl hc)
        · rcases ih hc with hc | hc | hc
          · rcases List.mem_cons.mp hc with rfl | hc
            · exact .inr (.inl List.mem_cons_self)
            · exact .inl hc
          · exact .inr (.inl (List.mem_cons_of_mem d hc))
          · exact .inr (.inr hc)

theorem marks_showPicturesFrom_le (opened : Option (List Char)) (cs : List Char) :
    marks (showPicturesFrom opened cs) ≤ marks (opened.getD []) + marks cs := by
  induction cs generalizing opened with
  | nil =>
    cases opened with
    | none => exact Nat.le_refl _
    | some opened =>
      rw [showPicturesFrom, marks_cons, marks_reverse]
      exact Nat.le_refl _
  | cons d ds ih =>
    have hnone := ih none
    cases opened with
    | none =>
      rw [showPicturesFrom]
      split
      · have hsome := ih (some [])
        simp only [Option.getD_some, Option.getD_none, marks_nil, marks_cons] at hsome ⊢
        omega
      · simp only [Option.getD_none, marks_nil, marks_cons] at hnone ⊢
        omega
    | some opened =>
      have hname := marks_shownName_le opened.reverse
      have hmore := ih (some (d :: opened))
      have hcolon : isMark ':' = false := rfl
      rw [showPicturesFrom]
      split
      · simp only [Option.getD_some, Option.getD_none, marks_nil, marks_cons, marks_append,
          marks_reverse] at hnone hname ⊢
        omega
      · split
        · simp only [Option.getD_some, Option.getD_none, marks_nil, marks_cons, marks_append,
            marks_reverse, hcolon, Bool.false_eq_true, if_false] at hnone ⊢
          omega
        · simp only [Option.getD_some, marks_cons] at hmore ⊢
          omega

end Console

namespace Markup

open Console (showPictures)

/-- a backslash before a bracket, which is not shown -/
def HasEscape (cs : List Char) : Prop := ∃ before after, cs = before ++ '\\' :: '[' :: after

/-- a tag: a bracket, a character that begins a tag, and no further bracket up to the closing one -/
def HasTag (cs : List Char) : Prop :=
  ∃ before c inside after, cs = before ++ '[' :: c :: inside ++ ']' :: after
    ∧ startsTag c = true ∧ '[' ∉ inside ∧ ']' ∉ inside

/-- nothing in a text is shown other than it stands -/
structure Literal (cs : List Char) : Prop where
  noTag : ¬ HasTag cs
  noEscape : ¬ HasEscape cs
  noPicture : showPictures cs = cs
  noControl : ∀ c ∈ cs, isCursorControl c = false

/-! ## Escapes -/

theorem unescape_cons {c : Char} {cs : List Char} (h : ∀ r, c :: cs ≠ '\\' :: '[' :: r) :
    unescape (c :: cs) = c :: unescape cs := by
  rw [unescape]
  intro r hc hcs
  exact h r (by rw [hc, hcs])

theorem marks_unescape_le (cs : List Char) : marks (unescape cs) ≤ marks cs := by
  fun_induction unescape cs with
  | case1 r ih =>
    simp only [marks_cons]
    omega
  | case2 c r _ ih =>
    simp only [marks_cons]
    omega
  | case3 => exact Nat.le_refl _

theorem unescape_of_not_hasEscape {cs : List Char} (h : ¬ HasEscape cs) : unescape cs = cs := by
  fun_induction unescape cs with
  | case1 r ih => exact absurd ⟨[], r, rfl⟩ h
  | case2 c r _ ih =>
    refine congrArg (c :: ·) (ih fun ⟨before, after, hr⟩ => h ⟨c :: before, after, ?_⟩)
    rw [hr]
    rfl
  | case3 => rfl

theorem marks_unescape_lt {cs : List Char} (h : HasEscape cs) :
    marks (unescape cs) < marks cs := by
  obtain ⟨before, after, rfl⟩ := h
  induction before with
  | nil =>
    have hle := marks_unescape_le after
    have hslash : isMark '\\' = true := rfl
    rw [List.nil_append, unescape]
    simp only [marks_cons, hslash, if_pos]
    omega
  | cons c before ih =>
    by_cases hc : ∃ r, c :: (before ++ '\\' :: '[' :: after) = '\\' :: '[' :: r
    · obtain ⟨r, hr⟩ := hc
      have hle := marks_unescape_le r
      have hslash : isMark '\\' = true := rfl
      rw [List.cons_append, hr, unescape]
      simp only [marks_cons, hslash, if_pos]
      omega
    · rw [List.cons_append, unescape_cons fun r hr => hc ⟨r, hr⟩]
      simp only [marks_cons]
      omega

theorem marks_shownChars_le (cs : List Char) : marks (shownChars cs) ≤ marks (unescape cs) := by
  have hfilter : marks (shownChars cs) ≤ marks (showPictures (unescape cs)) :=
    List.filter_sublist.countP_le
  have hpictures := Console.marks_showPicturesFrom_le none (unescape cs)
  rw [Option.getD_none, marks_nil, Nat.zero_add] at hpictures
  exact Nat.le_trans hfilter hpictures

/-! ## Tags -/

theorem tagInside_eq_some {r inside rest : List Char} (h : tagInside r = some (inside, rest)) :
    ∃ c more, inside = c :: more ∧ r = c :: more ++ ']' :: rest ∧ startsTag c = true
      ∧ '[' ∉ more ∧ ']' ∉ more := by
  cases r with
  | nil => cases h
  | cons c r =>
    rw [tagInside] at h
    split at h
    · next hc =>
      split at h
      · next rest' hdrop =>
        obtain ⟨rfl, rfl⟩ := Prod.mk.inj (Option.some.inj h)
        refine ⟨c, _, rfl, ?_, hc, fun hmem => ?_, fun hmem => ?_⟩
        · rw [List.cons_append, ← hdrop, List.takeWhile_append_dropWhile]
        · exact absurd (List.mem_takeWhile_imp hmem) (by decide)
        · exact absurd (List.mem_takeWhile_imp hmem) (by decide)
      · cases h
    · cases h

theorem tagInside_of_tag {c : Char} {inside after : List Char} (hc : startsTag c = true)
    (hopen : '[' ∉ inside) (hclose : ']' ∉ inside) :
    tagInside (c :: inside ++ ']' :: after) = some (c :: inside, after) := by
  have hinside : ∀ d ∈ inside, (d != '[' && d != ']') = true := by
    intro d hd
    rw [Bool.and_eq_true, bne_iff_ne, bne_iff_ne]
    exact ⟨fun h => hopen (h ▸ hd), fun h => hclose (h ▸ hd)⟩
  rw [List.cons_append, tagInside, if_pos hc, List.dropWhile_append_of_pos hinside,
    List.takeWhile_append_of_pos hinside]
  show some (c :: (inside ++ []), after) = _
  rw [List.append_nil]

/-- the text of pieces, without the tags -/
def textOf : List Piece → List Char
  | [] => []
  | .text cs :: ps => cs ++ textOf ps
  | .tag _ :: ps => textOf ps

theorem textOf_append (ps qs : List Piece) : textOf (ps ++ qs) = textOf ps ++ textOf qs := by
  induction ps with
  | nil => rfl
  | cons p ps ih =>
    cases p with
    | text cs => rw [List.cons_append, textOf, ih, textOf, List.append_assoc]
    | tag inside => exact ih

theorem textOf_textPiece (cs : List Char) : textOf (textPiece cs) = cs := by
  cases cs with
  | nil => rfl
  | cons c cs => exact List.append_nil (c :: cs)

/-- half of the backslashes before a tag are taken away, and then the tag or one more backslash -/
theorem marks_tagPieces_lt (slashes : Nat) (inside : List Char) :
    marks (textOf (tagPieces slashes inside)) < slashes + 1 + marks inside := by
  have hslashes : marks (List.replicate (slashes / 2) '\\') = slashes / 2 :=
    (List.countP_eq_length.mpr fun c hc => by
      rw [List.eq_of_mem_replicate hc]
      rfl).trans List.length_replicate
  unfold tagPieces
  rw [textOf_append, textOf_textPiece, marks_append, hslashes]
  split
  · have hwhole : marks ('[' :: inside ++ [']']) = marks inside + 1 := by
      rw [List.cons_append, marks_cons, marks_append]
      rfl
    rw [textOf, textOf, List.append_nil, hwhole]
    omega
  · show slashes / 2 + 0 < _
    omega

theorem marks_drop_slashes (plain : List Char) :
    marks (plain.drop (plain.takeWhile (· = '\\')).length)
      + (plain.takeWhile (· = '\\')).length = marks plain := by
  have htake : marks (plain.takeWhile (· = '\\')) = (plain.takeWhile (· = '\\')).length := by
    refine List.countP_eq_length.mpr fun c hc => ?_
    have hslash : c = '\\' := by simpa using List.mem_takeWhile_imp hc
    rw [hslash]
    rfl
  have hplain : plain.takeWhile (· = '\\') ++ plain.dropWhile (· = '\\') = plain :=
    List.takeWhile_append_dropWhile
  have hdrop : plain.drop (plain.takeWhile (· = '\\')).length = plain.dropWhile (· = '\\') :=
    (congrArg (List.drop _) hplain.symm).trans List.drop_left
  rw [hdrop]
  calc marks (plain.dropWhile (· = '\\')) + (plain.takeWhile (· = '\\')).length
      = marks (plain.takeWhile (· = '\\') ++ plain.dropWhile (· = '\\')) := by
        rw [marks_append, htake, Nat.add_comm]
    _ = marks plain := by rw [hplain]

theorem hasTag_cons {c : Char} {cs : List Char} :
    HasTag (c :: cs) ↔ (if c = '[' then tagInside cs else none) ≠ none ∨ HasTag cs := by
  constructor
  · rintro ⟨before, d, inside, after, hcs, hd, hopen, hclose⟩
    cases before with
    | nil =>
      obtain ⟨rfl, rfl⟩ := List.cons.inj hcs
      left
      rw [if_pos rfl]
      intro hnone
      exact nomatch (tagInside_of_tag hd hopen hclose).symm.trans hnone
    | cons b before =>
      exact .inr ⟨before, d, inside, after, (List.cons.inj hcs).2, hd, hopen, hclose⟩
  · rintro (hsome | ⟨before, d, inside, after, rfl, hd, hopen, hclose⟩)
    · split at hsome
      · next hc =>
        subst hc
        obtain ⟨⟨inside, rest⟩, htag⟩ := Option.ne_none_iff_exists'.mp hsome
        obtain ⟨d, more, rfl, rfl, hd, hopen, hclose⟩ := tagInside_eq_some htag
        exact ⟨[], d, more, rest, rfl, hd, hopen, hclose⟩
      · exact absurd rfl hsome
    · exact ⟨c :: before, d, inside, after, rfl, hd, hopen, hclose⟩

theorem not_hasTag_nil : ¬ HasTag [] := fun ⟨before, _, _, _, h, _⟩ => by
  cases before <;> exact nomatch h

/-- the marks of the pieces from a tag on are fewer than those of the text, when they do not
increase after it -/
theorem marks_fromTag_lt {c : Char} {plain cs inside rest : List Char} {later : List Piece}
    (h : (if c = '[' then tagInside cs else none) = some (inside, rest))
    (hlater : marks (textOf later) ≤ marks rest) :
    marks (textOf (textPiece (plain.drop (plain.takeWhile (· = '\\')).length).reverse
        ++ tagPieces (plain.takeWhile (· = '\\')).length inside ++ later))
      < marks plain + marks (c :: cs) := by
  split at h
  · next hc =>
    subst hc
    obtain ⟨d, more, rfl, rfl, -⟩ := tagInside_eq_some h
    have hwhole : marks ('[' :: (d :: more ++ ']' :: rest))
        = marks (d :: more) + marks rest + 1 := by
      rw [marks_cons, marks_append, marks_cons]
      rfl
    have htag := marks_tagPieces_lt (plain.takeWhile (· = '\\')).length (d :: more)
    have hplain := marks_drop_slashes plain
    rw [textOf_append, textOf_append, textOf_textPiece, marks_append, marks_append, marks_reverse,
      hwhole]
    omega
  · exact nomatch h

theorem marks_piecesWithin_le (n : Nat) (plain cs : List Char) :
    marks (textOf (piecesWithin n plain cs)) ≤ marks plain + marks cs := by
  fun_induction piecesWithin n plain cs with
  | case1 plain cs => rw [textOf_textPiece, marks_append, marks_reverse]
  | case2 n plain => rw [textOf_textPiece, marks_reverse]; exact Nat.le_add_right _ _
  | case3 plain n c r _ ih =>
    rw [marks_cons] at ih ⊢
    omega
  | case4 plain n c r inside rest htag slashes ih =>
    exact Nat.le_of_lt (marks_fromTag_lt htag (Nat.zero_add (marks rest) ▸ ih))

theorem marks_piecesWithin_lt {n : Nat} {plain cs : List Char} (hn : cs.length ≤ n)
    (h : HasTag cs) : marks (textOf (piecesWithin n plain cs)) < marks plain + marks cs := by
  fun_induction piecesWithin n plain cs with
  | case1 plain cs =>
    obtain rfl := List.eq_nil_of_length_eq_zero (Nat.le_zero.mp hn)
    exact absurd h not_hasTag_nil
  | case2 n plain => exact absurd h not_hasTag_nil
  | case3 plain n c r hnone ih =>
    have hr : HasTag r := (hasTag_cons.mp h).resolve_left (absurd hnone)
    have hlt := ih (Nat.le_of_succ_le_succ hn) hr
    rw [marks_cons] at hlt ⊢
    omega
  | case4 plain n c r inside rest htag slashes ih =>
    exact marks_fromTag_lt htag (Nat.zero_add (marks rest) ▸ marks_piecesWithin_le _ [] rest)

theorem piecesWithin_of_not_hasTag {n : Nat} {plain cs : List Char} (h : ¬ HasTag cs) :
    piecesWithin n plain cs = textPiece (plain.reverse ++ cs) := by
  fun_induction piecesWithin n plain cs with
  | case1 plain cs => rfl
  | case2 n plain => rw [List.append_nil]
  | case3 plain n c r hnone ih =>
    rw [ih fun hr => h (hasTag_cons.mpr (.inr hr)), List.reverse_cons, List.append_assoc]
    rfl
  | case4 plain n c r inside rest htag slashes ih =>
    exact absurd (hasTag_cons.mpr (.inl fun hnone => nomatch htag.symm.trans hnone)) h

theorem marks_pieces_lt {cs : List Char} (h : HasTag cs) : marks (textOf (pieces cs)) < marks cs :=
  Nat.zero_add (marks cs) ▸ marks_piecesWithin_lt (Nat.le_refl _) h

theorem pieces_of_not_hasTag {cs : List Char} (h : ¬ HasTag cs) : pieces cs = textPiece cs :=
  piecesWithin_of_not_hasTag h

/-! ## Showing -/

variable {d : Dialect}

/-- no brackets or backslashes come up in showing -/
theorem marks_shownPieces_le {opened : List OpenTag} {ps : List Piece} {shown : List Char}
    (h : d.shownPieces opened ps = .ok shown) : marks shown ≤ marks (textOf ps) := by
  induction ps generalizing opened shown with
  | nil =>
    rw [← Except.ok.inj h]
    exact Nat.le_refl _
  | cons p ps ih =>
    cases p with
    | text cs =>
      obtain ⟨later, hlater, hshown⟩ := bind_eq_ok_iff.mp h
      have hcs : marks (shownChars cs) ≤ marks cs :=
        Nat.le_trans (marks_shownChars_le cs) (marks_unescape_le cs)
      have hps := ih hlater
      rw [← Except.ok.inj hshown, textOf, marks_append, marks_append]
      omega
    | tag inside =>
      obtain ⟨opened', -, hlater⟩ := bind_eq_ok_iff.mp h
      exact ih hlater

theorem shownPieces_textPiece (opened : List OpenTag) (cs : List Char) :
    d.shownPieces opened (textPiece cs) = .ok (shownChars cs) := by
  cases cs with
  | nil => rfl
  | cons c cs => exact congrArg Except.ok (List.append_nil _)

theorem not_isCursorControl_of_isPictorial {c : Char} (h : Console.isPictorial c = true) :
    isCursorControl c = false := by
  have hc : 32 ≤ c.toNat := of_decide_eq_true (Bool.and_eq_true_iff.mp h).2
  refine Bool.eq_false_iff.mpr fun hcontrol => ?_
  have hmem : c.toNat ∈ [7, 8, 11, 12, 13] := List.contains_iff_mem.mp hcontrol
  simp only [List.mem_cons, List.not_mem_nil, or_false] at hmem
  omega

theorem shownChars_of_literal {cs : List Char} (h : Literal cs) : shownChars cs = cs := by
  unfold shownChars
  rw [unescape_of_not_hasEscape h.noEscape, h.noPicture, List.filter_eq_self]
  intro c hc
  rw [h.noControl c hc]
  rfl

theorem noControl_of_shownChars {cs : List Char} (h : shownChars cs = cs) :
    ∀ c ∈ cs, isCursorControl c = false := by
  intro c hc
  rw [← h] at hc
  exact Bool.not_eq_true' _ |>.mp (List.mem_filter.mp hc).2

theorem showPictures_of_filter {cs : List Char}
    (h : (showPictures cs).filter (fun c => !isCursorControl c) = cs)
    (hcontrol : ∀ c ∈ cs, isCursorControl c = false) : showPictures cs = cs := by
  refine Eq.trans (List.filter_eq_self.mpr fun c hc => ?_).symm h
  rcases Console.mem_showPicturesFrom hc with hc | hc | hc
  · exact nomatch hc
  · rw [hcontrol c hc]
    rfl
  · rw [not_isCursorControl_of_isPictorial hc]
    rfl

theorem literal_of_shownChars {cs : List Char} (htag : ¬ HasTag cs) (h : shownChars cs = cs) :
    Literal cs := by
  have hescape : ¬ HasEscape cs := fun hescape => by
    have hle := marks_shownChars_le cs
    rw [h] at hle
    exact Nat.not_lt.mpr hle (marks_unescape_lt hescape)
  have hcontrol := noControl_of_shownChars h
  refine ⟨htag, hescape, showPictures_of_filter ?_ hcontrol, hcontrol⟩
  rw [shownChars, unescape_of_not_hasEscape hescape] at h
  exact h

/-- exactly the literal texts are shown as they are -/
theorem plainOf_eq_iff {text : String} :
    d.plainOf text = .ok text.toList ↔ Literal text.toList := by
  unfold Dialect.plainOf
  constructor
  · intro h
    have htag : ¬ HasTag text.toList := fun htag =>
      Nat.not_lt.mpr (marks_shownPieces_le h) (marks_pieces_lt htag)
    rw [pieces_of_not_hasTag htag, shownPieces_textPiece] at h
    exact literal_of_shownChars htag (Except.ok.inj h)
  · intro h
    rw [pieces_of_not_hasTag h.noTag, shownPieces_textPiece, shownChars_of_literal h]

theorem eq_toList_iff_of_plainOf {text : String} {shown : List Char}
    (h : d.plainOf text = .ok shown) : shown = text.toList ↔ Literal text.toList := by
  rw [← plainOf_eq_iff (d := d), h, Except.ok.injEq]

end Markup

end Introspect
