import Introspect.Console.Output
import Introspect.Proofs.Console.Verbatim
import Introspect.Proofs.Console.Wrapping
import Introspect.Proofs.Hierarchy.Outlines
import Introspect.Proofs.Source.Qualifiers
import Introspect.Text.Parts

/-!
# Indented lines

The lines of an outline show by their indentation how deep each entry stands.  That is enough to
read the outline back, where no name begins with a blank.

* `Outline.read?`                             the outline that lines show;
* `Outline.read?_lines`                       from the lines of an outline the outline is read;
* `Console.Output.lines_foldl_printUnwrapped` what stands on the console after texts that are not
                                              wrapped;
* `Console.unwrapped_eq_indented`             a name without line ends makes one line, behind its
                                              indentation;
* `Console.indented_eq`                       behind its indentation a dotted name is shown as it is.
-/

namespace Introspect

theorem toList_treeLine (n : Nat) (name : String) :
    (treeLine n name).toList = List.replicate (4 * n) ' ' ++ name.toList := by
  have hn : (4 * (n : Int)).toNat = 4 * n := by omega
  rw [treeLine, indentation, String.toList_append, String.toList_ofList, hn]

/-! ## Reading outlines -/

namespace Outline

variable {α : Type}

/-- how deep a line stands, and what stands on it -/
def readLine (line : String) : Nat × String :=
  ((line.toList.takeWhile (· == ' ')).length / 4, String.ofList (line.toList.dropWhile (· == ' ')))

/-- the outlines of entries at some depths, from the last entry on: below an entry stand those after
it that are deeper, up to the first one that is not -/
def gather : List (Nat × α) → List (Nat × Outline α)
  | [] => []
  | (d, a) :: es =>
    let os := gather es
    (d, .entry a ((os.takeWhile (d < ·.1)).map Prod.snd)) :: os.dropWhile (d < ·.1)

/-- the outline that lines show, if they show exactly one -/
def read? (lines : List String) : Option (Outline String) :=
  match gather (lines.map readLine) with
  | [(0, o)] => some o
  | _ => none

/-- entries with their depths, when the top stands at depth `d` -/
def levels (d : Nat) (es : List (List Nat × α)) : List (Nat × α) :=
  es.map fun e => (d + e.1.length, e.2)

/-- what comes first stands at most at depth `d` -/
def Shallow (d : Nat) (os : List (Nat × Outline α)) : Prop := ∀ o ∈ os.head?, o.1 ≤ d

theorem takeWhile_append_shallow {d : Nat} {os : List (Nat × Outline α)} (hos : ∀ o ∈ os, d < o.1)
    {rest : List (Nat × Outline α)} (hrest : Shallow d rest) :
    (os ++ rest).takeWhile (d < ·.1) = os ∧ (os ++ rest).dropWhile (d < ·.1) = rest := by
  have hdeep : ∀ o ∈ os, decide (d < o.1) = true := fun o ho => decide_eq_true (hos o ho)
  rw [List.takeWhile_append_of_pos hdeep, List.dropWhile_append_of_pos hdeep]
  cases rest with
  | nil => exact ⟨List.append_nil os, rfl⟩
  | cons o rest =>
    have ho : ¬ decide (d < o.1) = true :=
      fun hlt => Nat.not_lt.mpr (hrest o rfl) (of_decide_eq_true hlt)
    exact ⟨(congrArg (os ++ ·) (List.takeWhile_cons_of_neg ho)).trans (List.append_nil os),
      List.dropWhile_cons_of_neg ho⟩

/-- outlines that can be gathered one by one can be gathered from below one entry -/
theorem gather_levels_placedFrom {os : List (Outline α)}
    (hos : ∀ o ∈ os, ∀ (d : Nat) (rest : List (Nat × α)), Shallow d (gather rest) →
      gather (levels d o.placed ++ rest) = (d, o) :: gather rest)
    (i d : Nat) {rest : List (Nat × α)} (hrest : Shallow d (gather rest)) :
    gather (levels d (placedFrom i os) ++ rest) = os.map (Prod.mk (d + 1)) ++ gather rest := by
  induction os generalizing i with
  | nil => rfl
  | cons o os ih =>
    obtain ⟨ho, hos⟩ := List.forall_mem_cons.mp hos
    have hlater := ih hos (i + 1)
    have hshallow : Shallow (d + 1) (gather (levels d (placedFrom (i + 1) os) ++ rest)) := by
      rw [hlater]
      cases os with
      | nil => exact fun e he => Nat.le_succ_of_le (hrest e he)
      | cons o' os => exact fun e he => Option.some.inj he ▸ Nat.le_refl _
    have hlevels : levels d (placedFrom i (o :: os)) ++ rest
        = levels (d + 1) o.placed ++ (levels d (placedFrom (i + 1) os) ++ rest) := by
      rw [placedFrom, levels, List.map_append, List.append_assoc, List.map_map]
      refine congrArg (· ++ _) (List.map_congr_left fun e _ => ?_)
      show (d + (i :: e.1).length, e.2) = (d + 1 + e.1.length, e.2)
      rw [List.length_cons, Nat.add_comm e.1.length 1, Nat.add_assoc]
    rw [hlevels, ho (d + 1) _ hshallow, hlater]
    rfl

/-- the entries of an outline are gathered to the outline, whatever comes after them -/
theorem gather_levels_placed (o : Outline α) (d : Nat) (rest : List (Nat × α))
    (hrest : Shallow d (gather rest)) :
    gather (levels d o.placed ++ rest) = (d, o) :: gather rest := by
  induction o generalizing d rest with
  | entry a os ih =>
    have hbelow := gather_levels_placedFrom ih 0 d hrest
    have hdeep : ∀ o ∈ os.map (Prod.mk (d + 1)), d < o.1 := by
      intro o ho
      obtain ⟨o', -, rfl⟩ := List.mem_map.mp ho
      exact Nat.lt_succ_self d
    obtain ⟨htake, hdrop⟩ := takeWhile_append_shallow hdeep hrest
    show gather ((d, a) :: (levels d (placedFrom 0 os) ++ rest)) = _
    rw [gather, hbelow, htake, hdrop, List.map_map]
    exact congrArg (fun os => (d, Outline.entry a os) :: gather rest) (List.map_id os)

theorem readLine_treeLine (n : Nat) {name : String} (h : ∀ c ∈ name.toList.head?, c ≠ ' ') :
    readLine (treeLine n name) = (n, name) := by
  have hblanks : ∀ c ∈ List.replicate (4 * n) ' ', (c == ' ') = true := fun c hc =>
    beq_iff_eq.mpr (List.eq_of_mem_replicate hc)
  have hname : name.toList.takeWhile (· == ' ') = []
      ∧ name.toList.dropWhile (· == ' ') = name.toList := by
    cases hcs : name.toList with
    | nil => exact ⟨rfl, rfl⟩
    | cons c cs =>
      have hc : ¬ (c == ' ') = true := fun hc => h c (by rw [hcs]; rfl) (beq_iff_eq.mp hc)
      exact ⟨List.takeWhile_cons_of_neg hc, List.dropWhile_cons_of_neg hc⟩
  rw [readLine, toList_treeLine, List.takeWhile_append_of_pos hblanks,
    List.dropWhile_append_of_pos hblanks, hname.1, hname.2, List.append_nil, List.length_replicate,
    Nat.mul_div_cancel_left n (by decide), String.ofList_toList]

/-- from the lines of an outline the outline is read, where no name begins with a blank -/
theorem read?_lines {o : Outline String}
    (h : ∀ e ∈ o.placed, ∀ c ∈ e.2.toList.head?, c ≠ ' ') :
    read? (o.placed.map fun e => treeLine e.1.length e.2) = some o := by
  have hread : (o.placed.map fun e => treeLine e.1.length e.2).map readLine = levels 0 o.placed := by
    rw [List.map_map]
    refine List.map_congr_left fun e he => ?_
    rw [Function.comp_apply, readLine_treeLine e.1.length (h e he), Nat.zero_add]
  have hgather := gather_levels_placed o 0 [] nofun
  rw [List.append_nil] at hgather
  rw [read?, hread, hgather]
  rfl

end Outline

/-! ## Lines on the console -/

namespace Text

theorem trimEndChars_eq_self {cs : List Char} (h : ∀ c ∈ cs.getLast?, isBlank c = false) :
    trimEndChars cs = cs := by
  have hkept : cs.reverse.dropWhile isBlank = cs.reverse :=
    Source.dropWhile_isBlank (by rwa [List.head?_reverse])
  rw [trimEndChars, hkept, List.reverse_reverse]

end Text

namespace Console

open Text

/-- the lines that a text makes when it is not wrapped -/
def unwrapped (text : String) : List String :=
  (standing (Output.verbatim text)).map String.ofList

theorem Output.lines_foldl_printUnwrapped (o : Output) (texts : List String) :
    (texts.foldl Output.printUnwrapped o).lines = o.lines ++ texts.flatMap unwrapped := by
  induction texts generalizing o with
  | nil => exact (List.append_nil _).symm
  | cons text texts ih =>
    have hone : (o.printUnwrapped text).lines = o.lines ++ unwrapped text := by
      unfold Output.printUnwrapped Output.write unwrapped standing
      rw [List.map_map, List.map_map]
      rfl
    rw [List.foldl_cons, ih, hone, List.flatMap_cons, List.append_assoc]

theorem splitLines_of_not_mem {cs : List Char} (h : '\n' ∉ cs) : splitLines cs = [cs] := by
  induction cs with
  | nil => rfl
  | cons c cs ih =>
    obtain ⟨hc, hcs⟩ := not_or.mp (mt List.mem_cons.mpr h)
    rw [splitLines, if_neg (Ne.symm hc), ih hcs]

theorem expandTabs_of_not_mem {cs : List Char} (h : '\t' ∉ cs) (column : Nat) :
    expandTabs column cs = cs := by
  induction cs generalizing column with
  | nil => rfl
  | cons c cs ih =>
    obtain ⟨hc, hcs⟩ := not_or.mp (mt List.mem_cons.mpr h)
    rw [expandTabs, if_neg (Ne.symm hc), ih hcs]

/-- a text without line ends makes one line -/
theorem unwrapped_eq {text : String} (h : '\n' ∉ text.toList) :
    unwrapped text
      = [String.ofList (trimEndChars (expandTabs 0 (Output.verbatim text)))] := by
  have hverbatim : '\n' ∉ Output.verbatim text := by
    intro hc
    rcases mem_showPicturesFrom (List.mem_filter.mp hc).1 with hc | hc | hc
    · exact nomatch hc
    · exact h hc
    · exact absurd hc (by decide)
  rw [unwrapped, standing, splitLines_of_not_mem hverbatim]
  rfl

theorem showPictures_blanks (n : Nat) (cs : List Char) :
    showPictures (List.replicate n ' ' ++ cs) = List.replicate n ' ' ++ showPictures cs := by
  induction n with
  | zero => rfl
  | succ n ih =>
    rw [List.replicate_succ, List.cons_append, List.cons_append, ← ih, showPictures,
      showPicturesFrom, if_neg (by decide)]
    rfl

theorem expandTabs_blanks (n column : Nat) (cs : List Char) :
    expandTabs column (List.replicate n ' ' ++ cs)
      = List.replicate n ' ' ++ expandTabs (column + n) cs := by
  induction n generalizing column with
  | zero => rfl
  | succ n ih =>
    have hwidth : cellWidth ' ' = 1 := by decide
    rw [List.replicate_succ, List.cons_append, List.cons_append, expandTabs, if_neg (by decide),
      hwidth, ih, Nat.add_assoc, Nat.add_comm 1 n]

/-- a name behind its indentation, as it is shown -/
def indented (n : Nat) (name : String) : String :=
  String.ofList (trimEndChars
    (List.replicate (4 * n) ' ' ++ expandTabs (4 * n) (Output.verbatim name)))

/-- a name without line ends makes one line, behind its indentation -/
theorem unwrapped_eq_indented {name : String} (h : '\n' ∉ name.toList) (n : Nat) :
    unwrapped (treeLine n name) = [indented n name] := by
  have hline := toList_treeLine n name
  have hend : '\n' ∉ (treeLine n name).toList := by
    rw [hline, List.mem_append]
    rintro (hblank | hname)
    · exact absurd (List.eq_of_mem_replicate hblank) (by decide)
    · exact h hname
  have hverbatim : Output.verbatim (treeLine n name)
      = List.replicate (4 * n) ' ' ++ Output.verbatim name := by
    rw [Output.verbatim, hline, showPictures_blanks, List.filter_append,
      List.filter_eq_self.mpr fun c hc => List.eq_of_mem_replicate hc ▸ rfl]
    rfl
  rw [unwrapped_eq hend, hverbatim, expandTabs_blanks, Nat.zero_add]
  rfl

/-- characters that are not shown as they stand in a text without markup, or that end its line -/
def altered : List Char := [':', '\n', '\t', '\x07', '\x08', '\x0b', '\x0c', '\r']

theorem mem_altered {c : Char} (h : Markup.isCursorControl c = true) : c ∈ altered := by
  have hc : c.toNat ∈ [7, 8, 11, 12, 13] := List.contains_iff_mem.mp h
  rw [← Char.ofNat_toNat c]
  simp only [List.mem_cons, List.not_mem_nil, or_false] at hc
  rcases hc with hc | hc | hc | hc | hc <;> rw [hc] <;> decide

theorem verbatim_eq {text : String} (h : ∀ c ∈ altered, c ∉ text.toList) :
    Output.verbatim text = text.toList := by
  rw [Output.verbatim, showPictures_of_not_mem (h ':' (by decide)), List.filter_eq_self]
  intro c hc
  rw [Bool.not_eq_true', Bool.eq_false_iff]
  exact fun hcontrol => h c (mem_altered hcontrol) hc

/-! ## Dotted names -/

/-- identifiers with dots between them -/
def isDotted (name : String) : Bool :=
  (parts '.' name).all fun word =>
    word.toList.head?.any isNameStart && word.toList.all isNamePart

theorem mem_intercalate {sep : List Char} {words : List (List Char)} {c : Char}
    (h : c ∈ sep.intercalate words) : c ∈ sep ∨ ∃ word ∈ words, c ∈ word := by
  induction words with
  | nil => exact nomatch h
  | cons word words ih =>
    cases words with
    | nil =>
      rw [List.intercalate_singleton] at h
      exact .inr ⟨word, List.mem_cons_self, h⟩
    | cons next words =>
      rw [List.intercalate_cons_cons, List.mem_append, List.mem_append] at h
      rcases h with (h | h) | h
      · exact .inr ⟨word, List.mem_cons_self, h⟩
      · exact .inl h
      · exact (ih h).imp_right fun ⟨w, hw, hc⟩ => ⟨w, List.mem_cons_of_mem word hw, hc⟩

section
variable {name : String}

theorem isNamePart_or_dot (h : isDotted name = true) {c : Char} (hc : c ∈ name.toList) :
    isNamePart c = true ∨ c = '.' := by
  rw [← intercalate_parts '.' name, toList_intercalate_singleton] at hc
  rcases mem_intercalate hc with hc | ⟨cs, hcs, hc⟩
  · exact .inr (List.mem_singleton.mp hc)
  · obtain ⟨word, hword, rfl⟩ := List.mem_map.mp hcs
    have hall := (Bool.and_eq_true_iff.mp (List.all_eq_true.mp h word hword)).2
    exact .inl (List.all_eq_true.mp hall c hc)

theorem toList_ne_nil_of_isDotted (h : isDotted name = true) : name.toList ≠ [] := by
  intro hnil
  obtain rfl : name = "" := String.toList_inj.mp hnil
  exact absurd h (by decide)

theorem isBlank_of_isDotted (h : isDotted name = true) {c : Char} (hc : c ∈ name.toList) :
    isBlank c = false := by
  rcases isNamePart_or_dot h hc with hpart | rfl
  · exact Bool.eq_false_iff.mpr fun hblank =>
      Bool.eq_false_iff.mp (Source.isNamePart_of_isBlank hblank) hpart
  · decide

theorem isNamePart_of_mem_altered {c : Char} (hc : c ∈ altered) : isNamePart c = false := by
  simp only [altered, List.mem_cons, List.not_mem_nil, or_false] at hc
  rcases hc with rfl | rfl | rfl | rfl | rfl | rfl | rfl | rfl
  case inl | inr.inr.inr.inl | inr.inr.inr.inr.inl => decide +kernel
  all_goals exact Source.isNamePart_of_isBlank (by decide)

theorem not_mem_of_isDotted (h : isDotted name = true) : ∀ c ∈ altered, c ∉ name.toList := by
  intro c hc hmem
  rcases isNamePart_or_dot h hmem with hpart | rfl
  · exact Bool.eq_false_iff.mp (isNamePart_of_mem_altered hc) hpart
  · exact absurd hc (by decide)

/-- a line that ends in a dotted name is shown as it is -/
theorem indented_eq (h : isDotted name = true) (n : Nat) : indented n name = treeLine n name := by
  have hline := toList_treeLine n name
  -- the last character is one of the name
  have hlast : ∀ c ∈ (treeLine n name).toList.getLast?, isBlank c = false := by
    intro c hc
    rw [hline, List.getLast?_append_of_ne_nil _ (toList_ne_nil_of_isDotted h)] at hc
    exact isBlank_of_isDotted h (List.mem_of_getLast? hc)
  have hname := not_mem_of_isDotted h
  rw [indented, verbatim_eq hname, expandTabs_of_not_mem (hname '\t' (by decide)), ← hline,
    trimEndChars_eq_self hlast, String.ofList_toList]

end

end Console

end Introspect
