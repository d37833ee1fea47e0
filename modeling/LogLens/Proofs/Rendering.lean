/-
Module: LogLens.Proofs.Rendering
Purpose: A view is written as text and as a document, and both show the same lines.  The text has a row
  for each line, with a marker, a number and the text of the line.  The markers are equally wide unless
  the symbol for marks is empty: then a line that the user marked has no marker, and its row begins in
  front of the others.
Main exports: ShownLine.read?, Row, Row.Shows, ShownLine.row, Desk.serveAll_rendered
-/
import LogLens.Proofs.CommandText
import LogLens.Proofs.Requesting
import LogLens.Proofs.Serving
import LogLens.Regex.Compile

namespace LogLens

open Text (Document)

/-! ### Documents that are read -/

namespace Text.Document

def field? (document : Document) (key : String) : Option Document :=
  match document with
  | record fields => fields.lookup key
  | _ => none

def number? : Document → Option Nat
  | number n => some n
  | _ => none

def text? : Document → Option String
  | text s => some s
  | _ => none

def items? : Document → Option (List Document)
  | list items => some items
  | _ => none

/-- What is written item by item is read item by item. -/
theorem mapM_map {α : Type} (write : α → Document) (read : Document → Option α)
    (reads : ∀ a, read (write a) = some a) (values : List α) :
    (values.map write).mapM read = some values := by
  induction values with
  | nil => rfl
  | cons value rest ih =>
      rw [List.map_cons, List.mapM_cons, reads, ih]
      rfl

end Text.Document

namespace ShownLine

/-- The line that a record describes.  A record without a field for marks describes a line that has
none. -/
def read? (entry : Document) : Option ShownLine := do
  let number ← (← entry.field? "line").number?
  let text ← (← entry.field? "text").text?
  let marks ← ((entry.field? "marks").getD (.list [])).items?
  return { number, text, marks := ← marks.mapM Document.text? }

/-- The record of a line describes the line. -/
theorem read?_toDocument (line : ShownLine) : read? line.toDocument = some line := by
  have number : line.toDocument.field? "line" = some (.number line.number) := rfl
  have text : line.toDocument.field? "text" = some (.text line.text) := rfl
  have marks : (line.toDocument.field? "marks").getD (.list []) = .list (line.marks.map .text) := by
    obtain ⟨_, _, marks⟩ := line
    cases marks with
    | nil => rfl
    | cons mark rest => rfl
  have names : (line.marks.map Document.text).mapM Document.text? = some line.marks :=
    Document.mapM_map .text Document.text? (fun _ => rfl) line.marks
  simp [read?, number, text, marks, names, Document.number?, Document.text?, Document.items?]

end ShownLine

/-! ### Rows -/

/-- The row of a line in three parts. -/
structure Row where
  marker : String
  number : String
  text : String

/-- How wide the marker of a row should be. -/
def OutputRules.markerWidth (rules : OutputRules) : Nat := max 1 rules.markSymbol.length

namespace Row

def whole (row : Row) : String := row.marker ++ row.number ++ row.text

/-- A row shows a line: its mark, its number on the right of at least six characters, and its text. -/
structure Shows (rules : OutputRules) (row : Row) (line : ShownLine) : Prop where
  marked : CategoryRegistry.user ∈ line.marks → row.marker = rules.markSymbol
  unmarked : CategoryRegistry.user ∉ line.marks →
    row.marker = String.ofList (List.replicate rules.markerWidth ' ')
  numbered : rules.lineNumbers = true → ∃ blanks,
    row.number = String.ofList (List.replicate blanks ' ') ++ toString line.number ++ ": " ∧
      blanks + (toString line.number).length = max 6 (toString line.number).length
  unnumbered : rules.lineNumbers = false → row.number = ""
  text : row.text = line.text

/-- The marker of a row has its width, but where the line is marked with an empty symbol. -/
theorem Shows.width_iff {rules : OutputRules} {row : Row} {line : ShownLine}
    (shows : row.Shows rules line) :
    row.marker.length = rules.markerWidth ↔
      rules.markSymbol ≠ "" ∨ CategoryRegistry.user ∉ line.marks := by
  by_cases isMarked : CategoryRegistry.user ∈ line.marks
  · have empty : rules.markSymbol = "" ↔ rules.markSymbol.length = 0 := String.length_eq_zero_iff.symm
    rw [shows.marked isMarked, OutputRules.markerWidth, Ne, empty]
    simp only [isMarked, not_true, or_false]
    omega
  · rw [shows.unmarked isMarked, String.length_ofList, List.length_replicate]
    simp [isMarked]

end Row

namespace ShownLine

variable {options : ViewOptions} {line : ShownLine}

/-- The parts of the row in which a line is written. -/
def row (options : ViewOptions) (line : ShownLine) : Row where
  marker := line.marker options
  number := if options.rules.lineNumbers then alignedNumber line.number ++ ": " else ""
  text := line.text

/-- Without colours a line is written as its row. -/
theorem render_eq (plain : options.color = false) (line : ShownLine) :
    line.render options = (line.row options).whole ++ "\n" := by
  simp [render, row, Row.whole, paint, plain]

/-- Without colours a row shows its line by the rules of the options. -/
theorem shows_row (plain : options.color = false) (line : ShownLine) :
    (line.row options).Shows options.rules line where
  marked isMarked := by
    simp [row, marker, isMarked, paint, plain]
  unmarked noMark := by
    simp [row, marker, noMark, OutputRules.markerWidth]
  numbered isNumbered := by
    refine ⟨6 - (toString line.number).length, ?_, by omega⟩
    simp [row, isNumbered, alignedNumber]
  unnumbered noNumber := by
    simp [row, noNumber]
  text := rfl

/-- The row of a line has no end of line in it. -/
theorem not_newline_row (plain : options.color = false)
    (symbol : '\n' ∉ options.rules.markSymbol.toList) (text : '\n' ∉ line.text.toList) :
    '\n' ∉ (line.row options).whole.toList := by
  have blanks : ∀ count, '\n' ∉ (String.ofList (List.replicate count ' ')).toList := by
    intro count member
    rw [String.toList_ofList] at member
    exact absurd (List.eq_of_mem_replicate member) (by decide)
  have shows := shows_row plain line
  have marker : '\n' ∉ (line.row options).marker.toList := by
    by_cases isMarked : CategoryRegistry.user ∈ line.marks
    · rwa [shows.marked isMarked]
    · rw [shows.unmarked isMarked]
      exact blanks _
  have number : '\n' ∉ (line.row options).number.toList := by
    cases numbered : options.rules.lineNumbers with
    | false =>
        rw [shows.unnumbered numbered]
        exact List.not_mem_nil
    | true =>
        obtain ⟨count, isNumber, _⟩ := shows.numbered numbered
        simp only [isNumber, String.toList_append, List.mem_append, not_or]
        exact ⟨⟨blanks count, not_newline_toString _⟩, by decide⟩
  simp only [Row.whole, String.toList_append, List.mem_append, not_or]
  exact ⟨⟨marker, number⟩, text⟩

/-- The markers of the rows are equally wide unless a line is marked with an empty symbol. -/
theorem width_rows_iff (plain : options.color = false) (lines : List ShownLine) :
    (∀ shown ∈ lines.map (row options), shown.marker.length = options.rules.markerWidth) ↔
      options.rules.markSymbol ≠ "" ∨ ∀ line ∈ lines, CategoryRegistry.user ∉ line.marks := by
  rw [List.forall_mem_map]
  simp only [(shows_row plain _).width_iff]
  by_cases empty : options.rules.markSymbol = ""
  · simp [empty]
  · simp [empty]

end ShownLine

namespace LogView

variable {view : LogView}

theorem mem_of_text {buffer : LineBuffer} {number : Nat} {text : String}
    (isText : buffer.text number = .ok text) : ∃ line ∈ buffer.lines, line.text = text := by
  unfold LineBuffer.text at isText
  split at isText
  next line there =>
    cases isText
    exact ⟨line, Array.mem_of_getElem? there, rfl⟩
  next => cases isText

/-- The lines that are written are those to be seen; where only marked lines are asked for, those of them
that have a mark. -/
theorem numbers_shownLines (view : LogView) (options : ViewOptions) :
    (view.shownLines options).map ShownLine.number =
      (view.visibleLines.filter fun number =>
        !options.markedOnly || !(view.marksFor number).isEmpty).map (· + 1) := by
  rw [shownLines, List.filter_map, List.map_map]
  rfl

/-- What is written of a line is its text and the names of its marks. -/
theorem Orderly.of_mem_shownLines (orderly : view.Orderly) {options : ViewOptions} {line : ShownLine}
    (member : line ∈ view.shownLines options) :
    view.buffer.text (line.number - 1) = .ok line.text ∧
      line.marks = view.marksFor (line.number - 1) := by
  obtain ⟨seen, _⟩ := List.mem_filter.1 member
  obtain ⟨number, isSeen, rfl⟩ := List.mem_map.1 seen
  refine ⟨?_, rfl⟩
  have inRange : number < view.buffer.lines.size := orderly.seen number isSeen
  simp [LineBuffer.text, Array.getElem?_eq_getElem inRange]

end LogView

namespace Desk

/-- Whatever was asked of a view, its text without colours has a row for each line of its document, in
the same order, and no end of line inside of a row.  The lines are those to be seen, with their texts and
marks.  All markers are equally wide unless the symbol is empty and a line is shown that the user
marked. -/
theorem serveAll_rendered [PatternCompiler] {name : String} {messageStart : Option String}
    {caseSensitive : Bool} {view : LogView}
    (isNew : LogView.new name messageStart caseSensitive = .ok view)
    {requests : List Request} {desk : Desk}
    (serves : (Desk.mk view []).serveAll requests = .ok desk)
    (oneLine : ∀ line ∈ desk.view.buffer.lines, '\n' ∉ line.text.toList) {options : ViewOptions}
    (plain : options.color = false) (symbol : '\n' ∉ options.rules.markSymbol.toList) :
    ∃ entries lines rows,
      desk.view.renderJson options = (desk.view.document options).toDocument.render ∧
      (desk.view.document options).toDocument.field? "lines" = some (.list entries) ∧
      entries.mapM ShownLine.read? = some lines ∧
      desk.view.renderText options = scriptText (rows.map Row.whole) ∧
      (∀ row ∈ rows, '\n' ∉ row.whole.toList) ∧ List.Forall₂ (Row.Shows options.rules) rows lines ∧
      lines.map ShownLine.number =
        (desk.view.visibleLines.filter fun number =>
          !options.markedOnly || !(desk.view.marksFor number).isEmpty).map (· + 1) ∧
      (∀ line ∈ lines, desk.view.buffer.text (line.number - 1) = .ok line.text ∧
        line.marks = desk.view.marksFor (line.number - 1)) ∧
      ((∀ row ∈ rows, row.marker.length = options.rules.markerWidth) ↔
        options.rules.markSymbol ≠ "" ∨ ∀ line ∈ lines, CategoryRegistry.user ∉ line.marks) := by
  have orderly := (inStep_serveAll (LogView.inStep_new isNew) serves).orderly
  let lines := desk.view.shownLines options
  have told : ∀ line ∈ lines, desk.view.buffer.text (line.number - 1) = .ok line.text ∧
      line.marks = desk.view.marksFor (line.number - 1) :=
    fun _ member => orderly.of_mem_shownLines member
  refine ⟨lines.map ShownLine.toDocument, lines, lines.map (ShownLine.row options), rfl, rfl, ?_, ?_, ?_,
    ?_, desk.view.numbers_shownLines options, told, ?_⟩
  · exact Document.mapM_map _ _ ShownLine.read?_toDocument lines
  · rw [LogView.renderText, scriptText, List.map_map, List.map_map]
    exact congrArg String.join (List.map_congr_left fun line _ => line.render_eq plain)
  · intro row isRow
    obtain ⟨line, member, rfl⟩ := List.mem_map.1 isRow
    obtain ⟨source, inBuffer, same⟩ := LogView.mem_of_text (told line member).1
    exact ShownLine.not_newline_row plain symbol (same ▸ oneLine source inBuffer)
  · rw [List.forall₂_map_left_iff, List.forall₂_same]
    exact fun line _ => line.shows_row plain
  · exact ShownLine.width_rows_iff plain lines

/-- A view with two hidden lines, a line that was found and one that the user marked. -/
theorem serveAll_rendered_marked :
    let requests : List Request := [.work (.appendText "E a\n b\nE c"),
      .work (.apply (.add .hide "b")), .work (.appendLine "E d"), .work .refresh, .toggleMark 3,
      .search "c"]
    let options : ViewOptions := { rules := { markSymbol := "=>" }, markedOnly := true }
    ∃ desk, (Desk.mk .sample []).serveAll requests = .ok desk ∧
      desk.view.renderText options = "       3: E c\n=>     4: E d\n" ∧
      ∃ rows : List Row, desk.view.renderText options = scriptText (rows.map Row.whole) ∧
        ∀ row ∈ rows, row.marker.length = options.rules.markerWidth := by
  intro requests options
  have served : ((Desk.mk .sample []).serveAll requests).toOption.map (fun desk =>
      (decide (∀ line ∈ desk.view.buffer.lines.toList, '\n' ∉ line.text.toList),
        desk.view.renderText options)) = some (true, "       3: E c\n=>     4: E d\n") := by
    decide +kernel
  obtain ⟨desk, serves, shown⟩ := Option.map_eq_some_iff.1 served
  obtain ⟨oneLine, isText⟩ := Prod.ext_iff.1 shown
  have serves := ok_of_toOption serves
  obtain ⟨_, _, rows, _, _, _, ofRows, _, _, _, _, aligned⟩ :=
    serveAll_rendered LogView.new_sample serves
      (fun line member => of_decide_eq_true oneLine line (Array.mem_toList_iff.2 member))
      (show options.color = false from rfl) (by decide)
  exact ⟨desk, serves, isText, rows, ofRows, aligned.2 (Or.inl (by decide))⟩

/-- With an empty symbol the row of a marked line begins one character too early, so that a text in which
all markers are one character wide would have to be longer. -/
theorem serveAll_rendered_narrow :
    let requests : List Request := [.work (.appendLine "a"), .work (.appendLine "b"), .work .refresh,
      .toggleMark 0]
    let options : ViewOptions := { rules := { markSymbol := "" } }
    ∃ view desk, LogView.new "a.log" none false = .ok view ∧
      (Desk.mk view []).serveAll requests = .ok desk ∧
      desk.view.shownLines options = [⟨1, "a", ["user"]⟩, ⟨2, "b", []⟩] ∧
      desk.view.renderText options = "     1: a\n      2: b\n" ∧
      ¬∃ rows : List Row, desk.view.renderText options = scriptText (rows.map Row.whole) ∧
        rows.map Row.number = ["     1: ", "     2: "] ∧ rows.map Row.text = ["a", "b"] ∧
        ∀ row ∈ rows, row.marker.length = options.rules.markerWidth := by
  intro requests options
  have served : (LogView.new "a.log" none false).toOption.bind (fun view =>
      ((Desk.mk view []).serveAll requests).toOption.map fun desk =>
        (desk.view.shownLines options, desk.view.renderText options)) =
      some ([⟨1, "a", ["user"]⟩, ⟨2, "b", []⟩], "     1: a\n      2: b\n") := by
    decide +kernel
  obtain ⟨view, isNew, served⟩ := Option.bind_eq_some_iff.1 served
  obtain ⟨desk, serves, shown⟩ := Option.map_eq_some_iff.1 served
  obtain ⟨isShown, isText⟩ := Prod.ext_iff.1 shown
  refine ⟨view, desk, ok_of_toOption isNew, ok_of_toOption serves, isShown, isText, ?_⟩
  rintro ⟨rows, ofRows, numbers, texts, wide⟩
  obtain ⟨first, second, rfl⟩ : ∃ first second, rows = [first, second] := by
    have two : rows.length = 2 := by simpa using congrArg List.length texts
    exact List.length_eq_two.1 two
  simp only [List.map_cons, List.map_nil, List.cons.injEq, and_true] at numbers texts
  have firstWide : first.marker.length = 1 := wide first List.mem_cons_self
  have secondWide : second.marker.length = 1 := wide second (by simp)
  have longer := congrArg String.length (isText.symm.trans ofRows)
  simp only [scriptText, List.map_cons, Row.whole, numbers, texts, List.map_nil, String.join_cons,
    String.join_nil, String.append_empty, String.length_append, firstWide, secondWide] at longer
  exact absurd longer (by decide)

end Desk

end LogLens
