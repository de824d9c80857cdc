import TaskEngine.Text.Columns
import TaskEngine.Text.Split

/-!
# Drawn tables

A table is drawn with a rule above, below and between its rows. Cells are aligned to the left with
one blank on either side; a cell of several lines makes its row as high.
-/

namespace TaskEngine.Console

/-- A table: the headers of its columns, and the cells of its rows. -/
structure Table where
  headers : List String
  rows : List (List String)
  deriving DecidableEq, Repr

namespace Table

/-- The lines of a cell, always at least one. -/
def cellLines (cell : String) : List String :=
  (Text.splitAll '\n' cell.toList).map String.ofList

/-- The columns that a cell takes. -/
def cellWidth (cell : String) : Nat := ((cellLines cell).map Text.columns).foldl max 0

/-- The greater of two widths at every place. -/
def widen : List Nat → List Nat → List Nat
  | a :: as, b :: bs => max a b :: widen as bs
  | [], bs => bs
  | as, [] => as

/-- The widths of the columns. -/
def widths (t : Table) : List Nat :=
  (t.headers :: t.rows).foldl (fun widths row => widen widths (row.map cellWidth)) []

/-- Some blanks. -/
def blanks (n : Nat) : String := String.ofList (List.replicate n ' ')

/-- A text filled up to a width. -/
def padded (width : Nat) (text : String) : String := text ++ blanks (width - Text.columns text)

/-- A rule. -/
def rule (widths : List Nat) : String :=
  "+" ++ String.join (widths.map fun w => String.ofList (List.replicate (w + 2) '-') ++ "+")

/-- One line of a row. A cell that has no such line is blank there. -/
def rowLine (widths : List Nat) (cells : List (List String)) (i : Nat) : String :=
  "|" ++ String.join ((widths.zip cells).map fun (width, lines) =>
    " " ++ padded width (lines[i]?.getD "") ++ " |")

/-- The lines of a row. -/
def rowLines (widths : List Nat) (row : List String) : List String :=
  let cells := row.map cellLines
  let height := (cells.map List.length).foldl max 1
  (List.range height).map (rowLine widths cells)

/-- The drawn table. -/
def render (t : Table) : String :=
  let widths := t.widths
  let line := rule widths
  Text.joinWith "\n" (line :: (t.headers :: t.rows).flatMap fun row => rowLines widths row ++ [line])

end Table

end TaskEngine.Console
