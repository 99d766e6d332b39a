import Introspect.Console.Wrap
import Mathlib.Data.List.TakeWhile

/-!
# Lines that fit

A line that fits a width is one line after wrapping, too: nothing is broken, folded or cut off, and
only blanks at its end may be left out.

* `Console.standing`             the lines of a text as they stand on a console;
* `Console.Fits`                 no line of a text is wider than a width;
* `Console.brokenLines_of_fits`  a line that fits is not broken;
* `Console.wrapText_of_fits`     wrapping leaves a text that fits as it stands.
-/

namespace Introspect

namespace Text

theorem trimEndChars_append {cs bs : List Char} (h : ∀ c ∈ bs, isBlank c = true) :
    trimEndChars (cs ++ bs) = trimEndChars cs := by
  unfold trimEndChars
  rw [List.reverse_append,
    List.dropWhile_append_of_pos fun c hc => h c (List.mem_reverse.mp hc)]

theorem trimEndChars_split (cs : List Char) :
    trimEndChars cs ++ (cs.reverse.takeWhile isBlank).reverse = cs := by
  unfold trimEndChars
  rw [← List.reverse_append, List.takeWhile_append_dropWhile, List.reverse_reverse]

theorem cells_trimEndChars_le (cs : List Char) : cells (trimEndChars cs) ≤ cells cs := by
  have hcells : cells (trimEndChars cs) + cells (cs.reverse.takeWhile isBlank).reverse
      = cells cs := by
    rw [← cells_append, trimEndChars_split]
  omega

end Text

namespace Console

open Text

/-- the lines of a text as they stand on a console: with blanks for tabs, and none at the ends -/
def standing (cs : List Char) : List (List Char) :=
  (splitLines cs).map fun line => trimEndChars (expandTabs 0 line)

def Fits (width : Nat) (cs : List Char) : Prop :=
  ∀ line ∈ splitLines cs, cells (expandTabs 0 line) ≤ width

/-! ## Words -/

theorem takeWord_eq_some {cs word rest : List Char} (h : takeWord cs = some (word, rest)) :
    word ++ rest = cs := by
  unfold takeWord at h
  dsimp only at h
  split at h
  · exact nomatch h
  · obtain ⟨rfl, rfl⟩ := Prod.mk.inj (Option.some.inj h)
    rw [List.append_assoc, List.append_assoc, List.takeWhile_append_dropWhile,
      List.takeWhile_append_dropWhile, List.takeWhile_append_dropWhile]

theorem flatten_wordsWithin (n : Nat) (cs : List Char) :
    (wordsWithin n cs).1.flatten ++ (wordsWithin n cs).2 = cs := by
  induction n generalizing cs with
  | zero => rfl
  | succ n ih =>
    rw [wordsWithin]
    split
    · rfl
    · next word rest hword =>
      calc word ++ (wordsWithin n rest).1.flatten ++ (wordsWithin n rest).2
          = word ++ rest := by rw [List.append_assoc, ih rest]
        _ = cs := takeWord_eq_some hword

/-! ## One line -/

namespace Layout

/-- nothing but one line so far -/
def onLine (cs : List Char) : Layout := { current := cs, used := cells cs }

theorem addWord_onLine {width : Nat} {overflow : Overflow} {cs word : List Char}
    (h : cells (cs ++ word) ≤ width) :
    (onLine cs).addWord width overflow word = onLine (cs ++ word) := by
  have hword : cells (trimEndChars word) + (onLine cs).used ≤ width := by
    have hle := cells_trimEndChars_le word
    rw [cells_append] at h
    show cells (trimEndChars word) + cells cs ≤ width
    omega
  unfold addWord
  dsimp only
  rw [if_pos hword]
  exact congrArg (Layout.mk [] (cs ++ word)) (cells_append cs word).symm

theorem foldl_addWord_onLine {width : Nat} {overflow : Overflow} {cs : List Char}
    {words : List (List Char)} (h : cells (cs ++ words.flatten) ≤ width) :
    words.foldl (addWord width overflow) (onLine cs) = onLine (cs ++ words.flatten) := by
  induction words generalizing cs with
  | nil => exact (congrArg onLine (List.append_nil cs)).symm
  | cons word words ih =>
    rw [List.flatten_cons, ← List.append_assoc] at h ⊢
    have hword : cells (cs ++ word) ≤ width := by
      rw [cells_append] at h
      omega
    rw [List.foldl_cons, addWord_onLine hword, ih h]

end Layout

theorem brokenLines_of_fits {width : Nat} {overflow : Overflow} {cs : List Char}
    (h : cells cs ≤ width) : brokenLines width overflow cs = [cs] := by
  have hcs := flatten_wordsWithin cs.length cs
  have hwords : cells ([] ++ (wordsWithin cs.length cs).1.flatten) ≤ width := by
    rw [← hcs, cells_append] at h
    rw [List.nil_append]
    omega
  have hfold : (wordsWithin cs.length cs).1.foldl (Layout.addWord width overflow) {}
      = Layout.onLine ([] ++ (wordsWithin cs.length cs).1.flatten) :=
    Layout.foldl_addWord_onLine hwords
  unfold brokenLines
  dsimp only
  rw [hfold]
  exact congrArg (fun line => [line]) hcs

/-! ## Blanks at the end of a line -/

/-- blanks that a line ends with are taken away one by one, up to all of them -/
theorem trimExcess_split (width : Nat) (cs : List Char) :
    ∃ bs, trimExcess width cs ++ bs = cs ∧ ∀ c ∈ bs, isBlank c = true := by
  refine ⟨cs.drop (cs.length - min (cs.reverse.takeWhile isBlank).length (cs.length - width)),
    List.take_append_drop _ cs, fun c hc => ?_⟩
  have hle : min (cs.reverse.takeWhile isBlank).length (cs.length - width)
      ≤ (cs.reverse.takeWhile isBlank).length := Nat.min_le_left _ _
  generalize min (cs.reverse.takeWhile isBlank).length (cs.length - width) = k at hc hle
  have hmem : c ∈ cs.reverse.take k := by
    rw [List.take_reverse]
    exact List.mem_reverse.mpr hc
  rw [← List.takeWhile_append_dropWhile (p := isBlank) (l := cs.reverse),
    List.take_append_of_le_length hle] at hmem
  exact List.mem_takeWhile_imp (List.mem_of_mem_take hmem)

theorem trimEndChars_trimExcess (width : Nat) (cs : List Char) :
    trimEndChars (trimExcess width cs) = trimEndChars cs := by
  obtain ⟨bs, hcs, hbs⟩ := trimExcess_split width cs
  rw [← trimEndChars_append hbs, hcs]

theorem cells_trimExcess_le (width : Nat) (cs : List Char) :
    cells (trimExcess width cs) ≤ cells cs := by
  obtain ⟨bs, hcs, -⟩ := trimExcess_split width cs
  have hcells : cells (trimExcess width cs) + cells bs = cells cs := by rw [← cells_append, hcs]
  omega

theorem trimEndChars_padTo (width : Nat) (cs : List Char) :
    trimEndChars (padTo width cs) = trimEndChars cs :=
  trimEndChars_append fun _ hc => List.eq_of_mem_replicate hc ▸ rfl

/-! ## Texts that fit -/

theorem truncate_of_fits {width : Nat} {overflow : Overflow} {cs : List Char}
    (h : cells cs ≤ width) : truncate width overflow cs = cs := if_pos h

theorem wrapLine_of_fits {width : Nat} {overflow : Overflow} {cs : List Char}
    (h : cells (expandTabs 0 cs) ≤ width) :
    wrapLine width overflow cs = [trimExcess width (expandTabs 0 cs)] := by
  have hcells := Nat.le_trans (cells_trimExcess_le width (expandTabs 0 cs)) h
  rw [wrapLine, brokenLines_of_fits h, List.map_singleton, truncate_of_fits hcells]

/-- wrapping leaves a text that fits as it stands -/
theorem wrapText_of_fits {width : Nat} {overflow : Overflow} {cs : List Char}
    (h : Fits width cs) : (wrapText width overflow cs).map trimEndChars = standing cs := by
  unfold wrapText standing
  unfold Fits at h
  generalize splitLines cs = lines at h ⊢
  induction lines with
  | nil => rfl
  | cons line lines ih =>
    rw [List.flatMap_cons, List.map_append, wrapLine_of_fits (h line List.mem_cons_self),
      List.map_singleton, trimEndChars_trimExcess, List.map_cons,
      ih fun l hl => h l (List.mem_cons_of_mem _ hl)]
    rfl

end Console

end Introspect
