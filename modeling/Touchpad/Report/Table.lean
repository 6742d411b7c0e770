import Touchpad.Text.Width

/-!
# Tables

A table has a panel, which is one cell over all columns and may have several lines, a header and
rows. Lines with rounded corners are drawn around it and between all rows; the joints of the columns
are drawn in every line, also next to the panel.

A column is as wide as its widest cell with a blank on either side. Where the panel is wider than
all columns together, what is missing is shared out evenly, and the first column gets the rest.
-/

namespace Touchpad

/-- A table of text. -/
structure Table where
  panel : String
  header : List String
  rows : List (List String)

namespace Table

/-- The widths of the cells of a row, each with a blank on either side. -/
def rowWidths (row : List String) : List Nat := row.map fun cell => Text.width cell + 2

/-- The widths that the header and the rows need. -/
def neededWidths (t : Table) : List Nat :=
  t.rows.foldl (fun ws row => List.zipWith max ws (rowWidths row)) (rowWidths t.header)

/-- The width between the left and the right border, with the lines between the columns. -/
def innerWidth (widths : List Nat) : Nat := widths.foldr (· + ·) 0 + (widths.length - 1)

def panelLines (t : Table) : List String := t.panel.splitOn "\n"

/-- The width that the panel needs. -/
def panelWidth (t : Table) : Nat := (t.panelLines.map Text.width).foldl max 0 + 2

/-- Widths that are enlarged by `missing` columns in all. -/
def widen (missing : Nat) : List Nat → List Nat
  | [] => []
  | w :: ws =>
    let count := ws.length + 1
    (w + missing / count + missing % count) :: ws.map (· + missing / count)

def widths (t : Table) : List Nat := widen (t.panelWidth - innerWidth t.neededWidths) t.neededWidths

/-- A text with a blank in front, filled up to a width. -/
def cell (text : String) (width : Nat) : String :=
  " " ++ text ++ String.ofList (List.replicate (width - 1 - Text.width text) ' ')

/-- A horizontal line with the given ends and joints. -/
def rule (left joint right : String) (widths : List Nat) : String :=
  left ++ joint.intercalate (widths.map fun w => String.ofList (List.replicate w '─')) ++ right

def rowLine (widths : List Nat) (row : List String) : String :=
  "│" ++ "│".intercalate (List.zipWith cell row widths) ++ "│"

def lines (t : Table) : List String :=
  let widths := t.widths
  let panel := t.panelLines.map fun line => "│" ++ cell line (innerWidth widths) ++ "│"
  let rows := (t.header :: t.rows).flatMap fun row =>
    [rule "├" "┼" "┤" widths, rowLine widths row]
  rule "╭" "┬" "╮" widths :: (panel ++ rows ++ [rule "╰" "┴" "╯" widths])

/-- The text of a table, without a line feed at the end. -/
def render (t : Table) : String := "\n".intercalate t.lines

end Table

end Touchpad
