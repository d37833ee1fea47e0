/-
Module: LogLens.View.Display
Purpose: Views as text and as JSON documents, and the table of filters.  Both forms of a view show
  the same lines with the same marks.
Main exports: OutputRules, ViewOptions, LogView.shownLines, LogView.renderText,
  LogView.document, LogView.renderJson, LogView.renderFilters, LogView.renderFiltersJson
-/
import LogLens.Text.Document
import LogLens.Text.Table
import LogLens.View.Basic

namespace LogLens

open Text (Document)

/-- How lines are written. -/
structure OutputRules where
  lineNumbers : Bool := true
  /-- What stands in front of a line that the user marked. -/
  markSymbol : String := ">"
deriving Repr, DecidableEq, Inhabited

/-- What to show of a view, and how. -/
structure ViewOptions where
  rules : OutputRules := {}
  /-- Show only lines that are marked in some category. -/
  markedOnly : Bool := false
  /-- Use the colours of a terminal. -/
  color : Bool := false
deriving Repr, DecidableEq, Inhabited

/-! ### Colours -/

/-- The sequence that ends a colour on a terminal. -/
def resetCode : List Char := ['\x1b', '[', '0', 'm']

/-- A text in a colour.  Where the text itself ends a colour, the outer one is begun again. -/
def resume (opening : List Char) : List Char → List Char
  | '\x1b' :: '[' :: '0' :: 'm' :: rest => resetCode ++ opening ++ resume opening rest
  | c :: rest => c :: resume opening rest
  | [] => []

/-- A text in bold letters of the colour with the given number, if colours are used. -/
def paint (color : Bool) (number : String) (text : String) : String :=
  if color then
    let opening := ['\x1b', '[', '1', ';'] ++ number.toList ++ ['m']
    String.ofList (opening ++ resume opening text.toList ++ resetCode)
  else text

/-! ### What is shown -/

/-- A line as it is shown: its number, counted from 1, its text, and the names of its marks. -/
structure ShownLine where
  number : Nat
  text : String
  marks : List String
deriving Repr, DecidableEq

/-- A filter as it is shown. -/
structure ShownFilter where
  index : Nat
  kind : FilterKind
  enabled : Bool
  hits : Nat
  pattern : String
deriving Repr, DecidableEq

/-- A view as it is shown. -/
structure ViewDocument where
  totalLines : Nat
  hiddenLines : Nat
  filters : List ShownFilter
  lines : List ShownLine
deriving Repr, DecidableEq

namespace LogView

/-- The lines to show, in order. -/
def shownLines (view : LogView) (options : ViewOptions) : List ShownLine :=
  let lines := view.visibleLines.map fun number =>
    let text := (view.buffer.lines[number]?).elim "" Line.text
    ShownLine.mk (number + 1) text (view.marksFor number)
  lines.filter fun line => !options.markedOnly || !line.marks.isEmpty

/-- The filters to show, in order. -/
def shownFilters (view : LogView) : List ShownFilter :=
  view.filters.filters.map fun f =>
    ⟨f.index.val, f.kind, f.enabled, (view.hits? f.id).getD 0, f.id⟩

/-- The view as a document. -/
def document (view : LogView) (options : ViewOptions) : ViewDocument :=
  { totalLines := view.lineCount
    hiddenLines := view.hiddenCount
    filters := view.shownFilters
    lines := view.shownLines options }

end LogView

/-! ### Text -/

/-- A number filled up with blanks on the left to six characters. -/
def alignedNumber (n : Nat) : String :=
  let digits := toString n
  String.ofList (List.replicate (6 - digits.length) ' ') ++ digits

namespace ShownLine

/-- What stands in front of a line: the symbol if the user marked it, and as many blanks as the
symbol has characters, but at least one, otherwise. -/
def marker (options : ViewOptions) (line : ShownLine) : String :=
  if line.marks.contains CategoryRegistry.user then
    paint options.color "36" options.rules.markSymbol
  else String.ofList (List.replicate (max 1 options.rules.markSymbol.length) ' ')

/-- A line with its marker and its number. -/
def render (options : ViewOptions) (line : ShownLine) : String :=
  let text :=
    if line.marks.contains CategoryRegistry.search then paint options.color "33" line.text
    else line.text
  let number := if options.rules.lineNumbers then alignedNumber line.number ++ ": " else ""
  line.marker options ++ number ++ text ++ "\n"

/-- A line as a record; a line without marks has no field for them. -/
def toDocument (line : ShownLine) : Document :=
  .record ([("line", .number line.number), ("text", .text line.text)] ++
    if line.marks.isEmpty then [] else [("marks", .list (line.marks.map .text))])

end ShownLine

namespace ShownFilter

/-- A filter as a record. -/
def toDocument (filter : ShownFilter) : Document :=
  .record [("index", .number filter.index), ("kind", .text filter.kind.command),
    ("enabled", .flag filter.enabled), ("hits", .number filter.hits),
    ("pattern", .text filter.pattern)]

def row (filter : ShownFilter) : List String :=
  [toString filter.index, filter.kind.label, if filter.enabled then "yes" else "no",
    toString filter.hits, filter.pattern]

end ShownFilter

def ViewDocument.toDocument (view : ViewDocument) : Document :=
  .record [("total_lines", .number view.totalLines), ("filtered_lines", .number view.hiddenLines),
    ("filters", .list (view.filters.map ShownFilter.toDocument)),
    ("lines", .list (view.lines.map ShownLine.toDocument))]

namespace LogView

/-- The view as text, one line after the other. -/
def renderText (view : LogView) (options : ViewOptions) : String :=
  String.join ((view.shownLines options).map (ShownLine.render options))

def renderJson (view : LogView) (options : ViewOptions) : String :=
  (view.document options).toDocument.render

def renderFiltersJson (view : LogView) : String :=
  (Document.list (view.shownFilters.map ShownFilter.toDocument)).render

/-- The filters as a table, with the number of hidden lines below. -/
def renderFilters (view : LogView) : String :=
  if view.filters.isEmpty then "No filters defined.\n"
  else
    Text.renderTable ["Index", "Type", "Enabled", "Hits", "Pattern"]
      (view.shownFilters.map ShownFilter.row) ++
      "\n" ++ toString view.hiddenCount ++ " of " ++ toString view.lineCount ++ " lines hidden\n"

end LogView

end LogLens
