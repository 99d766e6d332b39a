import Introspect.Console.Markup
import Introspect.Console.Wrap

/-!
# Tables

A table has a title, a row of headings, and rows of cells, all of them texts with markup.  Every
column is as wide as its widest line, as long as the table fits the console; otherwise the widest
columns give way first.

* `Column`        a heading, and what happens to words that are too long;
* `Table`         a title, columns, and rows;
* `columnWidths`  the widths of columns that fit the console;
* `Table.lines`   the lines of a table.
-/

namespace Introspect.Console

structure Column where
  heading : String
  overflow : Overflow := .ellipsis

structure Table where
  title : String
  columns : List Column
  rows : List (List String)

/-- the characters that end a line when a width is measured -/
def endsMeasuredLine (c : Char) : Bool :=
  c = '\n' || (0x1c ≤ c.toNat && c.toNat ≤ 0x1e) || c.toNat = 0x85 || c.toNat = 0x2028
    || c.toNat = 0x2029

/-- the cells of the widest line of a text, the cells of the line so far being given -/
def widestLine : Nat → List Char → Nat
  | used, [] => used
  | used, c :: cs =>
    if endsMeasuredLine c then max used (widestLine 0 cs)
    else widestLine (used + Text.cellWidth c) cs

/-- half of a number, an exact half going to the even neighbour -/
def roundHalfEven (num den : Nat) : Nat :=
  let q := num / den
  let r := num % den
  if 2 * r < den then q else if den < 2 * r then q + 1 else if q % 2 = 0 then q else q + 1

def totalWidth (widths : List Nat) : Nat := widths.foldr (· + ·) 0

/-- widths reduced by `total` in sum, shared by the marked ones, none by more than `most`; `sharers`
is the number of marked ones left -/
def shareReduction (most : Nat) : Nat → Nat → List (Nat × Bool) → List Nat
  | _, _, [] => []
  | total, sharers, (w, isMarked) :: rest =>
    if isMarked ∧ 0 < sharers then
      let part := min most (roundHalfEven total sharers)
      (w - part) :: shareReduction most (total - part) (sharers - 1) rest
    else w :: shareReduction most total sharers rest

def reduceMarked (most total : Nat) (widths : List (Nat × Bool)) : List Nat :=
  shareReduction most total (widths.filter Prod.snd).length widths

/-- the widest columns reduced to the next width, until all fit or are alike; `n` bounds the
rounds -/
def collapse (room : Nat) : Nat → List Nat → List Nat
  | 0, widths => widths
  | n + 1, widths =>
    if totalWidth widths ≤ room then widths
    else
      let widest := widths.foldl max 0
      let next := (widths.filter (· != widest)).foldl max 0
      if widest = next then widths
      else
        let excess := totalWidth widths - room
        collapse room n
          (reduceMarked (min excess (widest - next)) excess (widths.map fun w => (w, w == widest)))

def columnWidths (room : Nat) (widths : List Nat) : List Nat :=
  let collapsed := collapse room (room + totalWidth widths + 1) widths
  if totalWidth collapsed ≤ room then collapsed
  else
    let whole := totalWidth collapsed
    reduceMarked whole (whole - room) (collapsed.map fun w => (w, true))

namespace Table

/-- the lines of a cell, filled up to the width of its column without the blanks at its sides -/
def cellLines (width : Nat) (overflow : Overflow) (cs : List Char) : List (List Char) :=
  (wrapText width overflow cs).map (padTo width)

/-- the lines of a row between vertical bars -/
def rowLines (bar : Char) (atBottom : Bool) (columns : List (Nat × Overflow))
    (row : List (List Char)) : List (List Char) :=
  let cells := (columns.zip row).map fun (col, cs) => (col.1 - 2, cellLines (col.1 - 2) col.2 cs)
  let height := (cells.map fun c => c.2.length).foldl max 1
  let filled := cells.map fun (width, lines) =>
    let rest := List.replicate (height - lines.length) (blanks width)
    if atBottom then rest ++ lines else lines ++ rest
  (List.range height).map fun i =>
    bar :: filled.flatMap fun lines => ' ' :: lines.getD i [] ++ [' ', bar]

def rule (left line cross right : Char) (widths : List Nat) : List Char :=
  left :: ([cross].intercalate (widths.map fun w => List.replicate w line)) ++ [right]

/-- the lines of a table on a console of `width` cells -/
def lines (t : Table) (d : Markup.Dialect) (width : Nat) : Except Fault (List (List Char)) := do
  let headings ← t.columns.mapM fun c => d.plainOf c.heading
  let rows ← t.rows.mapM fun row => row.mapM d.plainOf
  let title ← d.plainOf t.title
  let edges := t.columns.length + 1
  let natural := (List.range t.columns.length).map fun i =>
    ((headings :: rows).map fun row => widestLine 0 (row.getD i []) + 2).foldl max 1
  let widths := columnWidths (width - edges) (natural.map (min (width - edges)))
  let columns := widths.zip (t.columns.map Column.overflow)
  let whole := totalWidth widths + edges
  return (if t.title = "" then [] else (wrapText whole .fold title).map (centred whole))
    ++ [rule '┏' '━' '┳' '┓' widths]
    ++ rowLines '┃' true columns headings
    ++ [rule '┡' '━' '╇' '┩' widths]
    ++ rows.flatMap (rowLines '│' false columns)
    ++ [rule '└' '─' '┴' '┘' widths]

end Table

end Introspect.Console
