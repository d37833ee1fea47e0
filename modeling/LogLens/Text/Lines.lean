/-
Module: LogLens.Text.Lines
Purpose: A text as its lines.  A line ends with a line feed, and one carriage return right before
  the line feed belongs to the line end; the last line need not end.
Main exports: lines, dropReturn
-/

namespace LogLens.Text

/-- Put a character in front of the first line. -/
def consLine (c : Char) : List (List Char) → List (List Char)
  | [] => [[c]]
  | l :: ls => (c :: l) :: ls

/-- The lines of a text.  An empty piece after the last line feed is no line. -/
def lines : List Char → List (List Char)
  | [] => []
  | '\n' :: rest => [] :: lines rest
  | '\r' :: '\n' :: rest => [] :: lines rest
  | c :: rest => consLine c (lines rest)

/-- A line without one final carriage return. -/
def dropReturn (line : List Char) : List Char :=
  if line.getLast? = some '\r' then line.dropLast else line

end LogLens.Text
