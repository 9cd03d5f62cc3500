import PolicyRouting.Text.Columns
import PolicyRouting.Text.Split

/-!
# Grids

A grid is drawn with rounded corners and one line below its header.  A cell
starts one blank behind its border, a column is as wide as its widest line,
and a cell of several lines makes its row as high as it needs.
-/

namespace PolicyRouting.Text

structure Grid where
  header : List String
  rows : List (List String)
  deriving Repr

namespace Grid

def cellLines (cell : String) : List (List Char) := pieces '\n' cell.toList

def cellWidth (cell : String) : Nat := (cellLines cell).foldl (fun w line => max w (columns line)) 0

def padded (width : Nat) (line : List Char) : List Char :=
  line ++ List.replicate (width - columns line) ' '

def widths (grid : Grid) : List Nat :=
  grid.rows.foldl (fun widths row => List.zipWith max widths (row.map cellWidth))
    (grid.header.map cellWidth)

def bordered (left divider right : Char) (parts : List (List Char)) : List Char :=
  left :: [divider].intercalate parts ++ [right]

def rule (left divider right : Char) (widths : List Nat) : List Char :=
  bordered left divider right (widths.map fun width => List.replicate (width + 2) '─')

/-- The lines of a row; a cell that has fewer lines than the row is blank in the others. -/
def rowLines (widths : List Nat) (row : List String) : List (List Char) :=
  let cells := row.map cellLines
  let height := cells.foldl (fun h lines => max h lines.length) 0
  (List.range height).map fun i =>
    bordered '│' '│' '│'
      (List.zipWith (fun width lines => ' ' :: padded width (lines[i]?.getD []) ++ [' '])
        widths cells)

def lines (grid : Grid) : List (List Char) :=
  let widths := grid.widths
  [rule '╭' '┬' '╮' widths] ++ rowLines widths grid.header
    ++ (if grid.rows.isEmpty then [] else [rule '├' '┼' '┤' widths])
    ++ grid.rows.flatMap (rowLines widths) ++ [rule '╰' '┴' '╯' widths]

def text (grid : Grid) : String := joined "\n" (grid.lines.map String.ofList)

end Grid

end PolicyRouting.Text
