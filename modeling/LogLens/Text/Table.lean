/-
Module: LogLens.Text.Table
Purpose: Tables in box characters.  Columns are as wide as their widest cell, with a blank on each
  side; a cell of several lines makes its row that high; rows are separated by dashed rules and the
  heading by a double one.
Main exports: renderTable
-/
import LogLens.Text.Columns

namespace LogLens.Text

/-- The lines of a cell. -/
abbrev Cell : Type := List (List Char)

/-- The pieces of a text between line feeds, the last one included even if it is empty. -/
def splitFeeds : List Char → List (List Char)
  | [] => [[]]
  | c :: rest =>
    if c = '\n' then [] :: splitFeeds rest
    else match splitFeeds rest with
      | [] => [[c]]
      | l :: ls => (c :: l) :: ls

def Cell.ofString (s : String) : Cell := splitFeeds s.toList

def Cell.width (cell : Cell) : Nat := cell.foldl (fun w l => max w (columns l)) 0

/-- A line filled up with blanks to the given number of columns, with a blank on each side. -/
def pad (width : Nat) (line : List Char) : List Char :=
  ' ' :: line ++ List.replicate (width - columns line + 1) ' '

/-- A rule between rows: its left end, its line, its crossings and its right end. -/
def rule (left line cross right : Char) (widths : List Nat) : List Char :=
  left :: (([cross].intercalate (widths.map fun w => List.replicate (w + 2) line)) ++ [right])

def rowLines (widths : List Nat) (cells : List Cell) : List (List Char) :=
  let height := cells.foldl (fun h c => max h c.length) 0
  (List.range height).map fun i =>
    let lines := List.zipWith (fun w (c : Cell) => pad w (c.getD i [])) widths cells
    '│' :: (['┆'].intercalate lines ++ ['│'])

def columnWidths (heading : List Cell) (rows : List (List Cell)) : List Nat :=
  rows.foldl (fun widths row => List.zipWith (fun w (c : Cell) => max w c.width) widths row)
    (heading.map Cell.width)

/-- A table with a heading, without a line feed at its end. -/
def renderTable (heading : List String) (rows : List (List String)) : String :=
  let heading := heading.map Cell.ofString
  let rows := rows.map (·.map Cell.ofString)
  let widths := columnWidths heading rows
  let dashes := rule '├' '╌' '┼' '┤' widths
  let body := ([dashes].intercalate (rows.map (rowLines widths)))
  let lines :=
    [rule '┌' '─' '┬' '┐' widths] ++ rowLines widths heading ++ [rule '╞' '═' '╪' '╡' widths] ++
      body ++ [rule '└' '─' '┴' '┘' widths]
  String.ofList (['\n'].intercalate lines)

end LogLens.Text
