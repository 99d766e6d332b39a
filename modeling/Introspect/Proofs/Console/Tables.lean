import Introspect.Console.Table
import Introspect.Proofs.Console.Verbatim
import Introspect.Proofs.Console.Wrapping
import Introspect.Proofs.Lists

/-!
# What tables show

The rows of a table stand one below the other, and the cells of a row side by side.  The cells of a
row are equally high, and a cell whose text fits its column has the lines of the text.

* `Table.Block`       cells of one height, side by side between bars;
* `Table.Reads`       the lines of a cell are those of a text;
* `Table.ShowsCell`   a cell whose text fits shows what markup makes of the text, which is the text
                      itself exactly when it is literal;
* `Table.Shows`       lines that show a table with all its cells;
* `Table.lines_ends`  the lines of a table show it, or one of its texts has faulty markup.
-/

namespace Introspect.Console

open Text

/-! ## The widths of columns -/

theorem length_shareReduction (most total sharers : Nat) (widths : List (Nat × Bool)) :
    (shareReduction most total sharers widths).length = widths.length := by
  induction widths generalizing total sharers with
  | nil => rfl
  | cons w widths ih =>
    obtain ⟨w, isMarked⟩ := w
    rw [shareReduction]
    split
    · exact congrArg Nat.succ (ih _ _)
    · exact congrArg Nat.succ (ih _ _)

theorem length_reduceMarked (most total : Nat) (widths : List (Nat × Bool)) :
    (reduceMarked most total widths).length = widths.length :=
  length_shareReduction _ _ _ _

theorem length_collapse (room n : Nat) (widths : List Nat) :
    (collapse room n widths).length = widths.length := by
  induction n generalizing widths with
  | zero => rfl
  | succ n ih =>
    unfold collapse
    dsimp only
    split
    · rfl
    · split
      · rfl
      · rw [ih, length_reduceMarked, List.length_map]

theorem length_columnWidths (room : Nat) (widths : List Nat) :
    (columnWidths room widths).length = widths.length := by
  unfold columnWidths
  dsimp only
  split
  · exact length_collapse _ _ _
  · rw [length_reduceMarked, List.length_map, length_collapse]

namespace Table

/-! ## Cells -/

/-- the lines of a cell are those of a text, with blank ones after them -/
def Reads (cell : List (List Char)) (cs : List Char) : Prop :=
  ∃ n, cell.map trimEndChars = standing cs ++ List.replicate n []

/-- a cell whose text fits shows what markup makes of the text: the text itself, exactly when it is
literal -/
def ShowsCell (d : Markup.Dialect) (width : Nat) (text : String) (cell : List (List Char)) : Prop :=
  ∃ shown, d.plainOf text = .ok shown ∧ (Fits width shown → Reads cell shown)
    ∧ (shown = text.toList ↔ Markup.Literal text.toList)

/-- the lines of a cell, with blank ones after them up to a height -/
def filled (height : Nat) (cell : Nat × List (List Char)) : List (List Char) :=
  cell.2 ++ List.replicate (height - cell.2.length) (blanks cell.1)

theorem length_filled {height : Nat} {cell : Nat × List (List Char)} (h : cell.2.length ≤ height) :
    (filled height cell).length = height := by
  rw [filled, List.length_append, List.length_replicate]
  omega

theorem reads_filled (height : Nat) {width : Nat} (overflow : Overflow) {cs : List Char}
    (h : Fits width cs) : Reads (filled height (width, cellLines width overflow cs)) cs := by
  have hlines : (cellLines width overflow cs).map trimEndChars = standing cs := by
    rw [cellLines, List.map_map, ← wrapText_of_fits h]
    exact List.map_congr_left fun line _ => trimEndChars_padTo width line
  have hblank : trimEndChars ([] ++ blanks width) = trimEndChars [] :=
    trimEndChars_append fun _ hc => List.eq_of_mem_replicate hc ▸ rfl
  refine ⟨height - (cellLines width overflow cs).length, ?_⟩
  rw [filled, List.map_append, List.map_replicate, hlines]
  exact congrArg (standing cs ++ List.replicate _ ·) hblank

/-! ## Rows -/

/-- cells of one height -/
structure Block where
  height : Nat
  cells : List (List (List Char))
  length_eq : ∀ cell ∈ cells, cell.length = height

/-- the lines of cells side by side, between bars -/
def Block.lines (bar : Char) (b : Block) : List (List Char) :=
  (List.range b.height).map fun i =>
    bar :: b.cells.flatMap fun cell => ' ' :: cell.getD i [] ++ [' ', bar]

theorem le_foldl_max {xs : List Nat} {x : Nat} (n : Nat) (h : x ∈ xs) : x ≤ xs.foldl max n := by
  rw [List.foldl_max]
  exact Nat.le_trans (List.le_max?_getD_of_mem h) (Nat.le_max_right _ _)

/-- the lines of the cells of a row, with the widths of their columns -/
def rowCells (columns : List (Nat × Overflow)) (row : List (List Char)) :
    List (Nat × List (List Char)) :=
  (columns.zip row).map fun (col, cs) => (col.1 - 2, cellLines (col.1 - 2) col.2 cs)

/-- the cells of a row, as high as the highest one -/
def Block.ofRow (columns : List (Nat × Overflow)) (row : List (List Char)) : Block where
  height := ((rowCells columns row).map fun c => c.2.length).foldl max 1
  cells := (rowCells columns row).map
    (filled (((rowCells columns row).map fun c => c.2.length).foldl max 1))
  length_eq cell hcell := by
    obtain ⟨c, hc, rfl⟩ := List.mem_map.mp hcell
    exact length_filled (le_foldl_max 1 (List.mem_map_of_mem hc))

theorem Block.getElem?_cells_ofRow {columns : List (Nat × Overflow)} {row : List (List Char)}
    {j : Nat} {col : Nat × Overflow} {cs : List Char} (hcol : columns[j]? = some col)
    (hcs : row[j]? = some cs) :
    (Block.ofRow columns row).cells[j]? = some (filled (Block.ofRow columns row).height
      (col.1 - 2, cellLines (col.1 - 2) col.2 cs)) := by
  have hzip : (columns.zip row)[j]? = some (col, cs) :=
    List.getElem?_zip_eq_some.mpr ⟨hcol, hcs⟩
  have hcell : (rowCells columns row)[j]? = some (col.1 - 2, cellLines (col.1 - 2) col.2 cs) := by
    rw [rowCells, List.getElem?_map, hzip]
    rfl
  rw [Block.ofRow, List.getElem?_map, hcell]
  rfl

/-- the cells of a row show its texts -/
def ShowsRow (d : Markup.Dialect) (widths : List Nat) (row : List String) (b : Block) : Prop :=
  ∀ (j : Nat) (text : String), row[j]? = some text →
    ∃ width cell, widths[j]? = some width ∧ b.cells[j]? = some cell
      ∧ ShowsCell d (width - 2) text cell

theorem showsRow_ofRow {d : Markup.Dialect} {widths : List Nat} {overflows : List Overflow}
    {row : List String} {shown : List (List Char)} (hwidths : row.length ≤ widths.length)
    (hoverflows : row.length ≤ overflows.length)
    (hshown : List.Forall₂ (fun text cs => d.plainOf text = .ok cs) row shown) :
    ShowsRow d widths row (Block.ofRow (widths.zip overflows) shown) := by
  intro j text htext
  obtain ⟨hj, rfl⟩ := List.getElem?_eq_some_iff.mp htext
  have hjs : j < shown.length := hshown.length_eq ▸ hj
  have hplain : d.plainOf row[j] = .ok shown[j] := hshown.get hj hjs
  have hwidth : widths[j]? = some _ := List.getElem?_eq_getElem (Nat.lt_of_lt_of_le hj hwidths)
  have hoverflow : overflows[j]? = some _ :=
    List.getElem?_eq_getElem (Nat.lt_of_lt_of_le hj hoverflows)
  have hcolumn : (widths.zip overflows)[j]? = some (_, _) :=
    List.getElem?_zip_eq_some.mpr ⟨hwidth, hoverflow⟩
  exact ⟨_, _, hwidth, Block.getElem?_cells_ofRow hcolumn (List.getElem?_eq_getElem hjs), _, hplain,
    reads_filled _ _, Markup.eq_toList_iff_of_plainOf hplain⟩

/-! ## Lines -/

/-- lines that show a table: rows of cells below other lines, and the edge with its widths -/
def Shows (t : Table) (d : Markup.Dialect) (lines : List (List Char)) : Prop :=
  ∃ (head : List (List Char)) (blocks : List Block) (widths : List Nat),
    lines = head ++ blocks.flatMap (Block.lines '│') ++ [rule '└' '─' '┴' '┘' widths]
      ∧ List.Forall₂ (ShowsRow d widths) t.rows blocks

/-- the texts of a table -/
def texts (t : Table) : List String := t.columns.map Column.heading ++ t.rows.flatten ++ [t.title]

/-- one of the texts of a table has faulty markup -/
def Faulty (t : Table) (d : Markup.Dialect) (e : Fault) : Prop :=
  ∃ text ∈ t.texts, d.plainOf text = .error e

theorem plainOf_ends {t : Table} (d : Markup.Dialect) {text : String} (h : text ∈ t.texts) :
    Ends (fun _ => True) (t.Faulty d) (d.plainOf text) := by
  cases hplain : d.plainOf text with
  | ok shown => exact .ok trivial
  | error e => exact .error ⟨text, h, hplain⟩

theorem mem_texts {t : Table} {row : List String} {text : String} (hrow : row ∈ t.rows)
    (htext : text ∈ row) : text ∈ t.texts :=
  List.mem_append_left _ (List.mem_append_right _ (List.mem_flatten_of_mem hrow htext))

/-- the lines of a table show it, or one of its texts has faulty markup -/
theorem lines_ends {t : Table} (d : Markup.Dialect) (width : Nat)
    (hrows : ∀ row ∈ t.rows, row.length ≤ t.columns.length) :
    Ends (t.Shows d) (t.Faulty d) (t.lines d width) := by
  have hheadings : Ends (fun _ => True) (t.Faulty d)
      (t.columns.mapM fun c => d.plainOf c.heading) :=
    .mapM fun c hc => plainOf_ends d (List.mem_append_left _
      (List.mem_append_left _ (List.mem_map_of_mem hc)))
  have hcells : Ends (fun _ => True) (t.Faulty d) (t.rows.mapM fun row => row.mapM d.plainOf) :=
    .mapM fun row hrow => .mapM fun text htext => plainOf_ends d (mem_texts hrow htext)
  have htitle : Ends (fun _ => True) (t.Faulty d) (d.plainOf t.title) :=
    plainOf_ends d (List.mem_append_right _ (List.mem_singleton_self _))
  unfold lines
  refine hheadings.bind fun headings _ => hcells.of_result.bind fun rows hshown =>
    htitle.bind fun title _ => .ok ?_
  generalize hwidths : columnWidths _ _ = widths
  have hlength : widths.length = t.columns.length := by
    rw [← hwidths, length_columnWidths, List.length_map, List.length_map, List.length_range]
  have hblocks : rows.flatMap (rowLines '│' false (widths.zip (t.columns.map Column.overflow)))
      = (rows.map (Block.ofRow (widths.zip (t.columns.map Column.overflow)))).flatMap
          (Block.lines '│') := by
    rw [List.flatMap_map]
    rfl
  refine ⟨_, rows.map (Block.ofRow _), widths, congrArg (_ ++ · ++ _) hblocks, ?_⟩
  rw [List.forall₂_map_right_iff]
  have hrow : List.Forall₂ (fun row shown => row.length ≤ t.columns.length
      ∧ row.mapM d.plainOf = .ok shown) t.rows rows :=
    (List.forall₂_and_left _ _).mpr ⟨hrows, mapM_eq_ok_iff.mp hshown⟩
  refine hrow.imp fun row shown h => showsRow_ofRow ?_ ?_ (mapM_eq_ok_iff.mp h.2)
  · rw [hlength]
    exact h.1
  · rw [List.length_map]
    exact h.1

end Table

end Introspect.Console
