/-
Module: LogLens.View.Basic
Purpose: A view of one or more logs: their lines, the filters on them and the bookmarks, which keep
  to the numbers of the lines whatever the filters are.
Main exports: LogView, LogView.appendLine, LogView.appendText, LogView.appendFile, LogView.refresh,
  LogView.apply, LogView.commitEdit, LogView.amendLast, LogView.search
-/
import LogLens.Bookmark.Store
import LogLens.Filter.Command
import LogLens.Filter.EditSession
import LogLens.View.Buffer

namespace LogLens

/-- A view of one or more logs. -/
structure LogView where
  buffer : LineBuffer
  /-- What the first line of a message matches.  Without it every line is a message. -/
  messageStart : Option Pattern
  /-- Whether letter case counts in filters and searches. -/
  caseSensitive : Bool
  engine : Engine
  categories : CategoryRegistry := .withDefaults
  bookmarks : Bookmarks Nat := {}
  /-- Whether the next line is the first one of a log. -/
  fileStart : Bool := false
deriving Repr

variable [PatternCompiler]

namespace LogView

/-- The category of marks that the user sets. -/
def userCategory : CategoryId := (CategoryRegistry.withDefaults.register CategoryRegistry.user).1

/-- The category of search hits. -/
def searchCategory : CategoryId :=
  (CategoryRegistry.withDefaults.register CategoryRegistry.search).1

/-- A view without lines.  The pattern for message starts heeds letter case. -/
def new (name : String) (messageStart : Option String) (caseSensitive : Bool) :
    Except FilterError LogView := do
  let messageStart ← messageStart.mapM (Pattern.compile · true)
  return { buffer := { name }, messageStart, caseSensitive, engine := Engine.new name }

/-! ### Lines -/

def lineCount (view : LogView) : Nat := view.buffer.size

/-- The numbers of the lines that are seen, in order. -/
def visibleLines (view : LogView) : List Nat := view.engine.visible

def hiddenCount (view : LogView) : Nat := view.lineCount - view.visibleLines.length

/-- Whether a line that is appended next begins a message.  The first line of a view and the first
one of each log do so in any case. -/
def startsMessage (view : LogView) (text : String) : Bool :=
  view.buffer.isEmpty || view.fileStart
    || view.messageStart.all fun pattern => pattern.isMatch (Utf8.encode text)

/-- Append one line and let every filter read it. -/
def appendLine (view : LogView) (text : String) : Except Fault LogView :=
  let line : Line := ⟨text, view.startsMessage text⟩
  (view.engine.observe view.lineCount line.raw).map fun engine =>
    { view with buffer := view.buffer.push line, engine, fileStart := false }

def appendLines (view : LogView) (texts : List String) : Except Fault LogView :=
  texts.foldlM appendLine view

/-- The lines of a text.  One more carriage return is dropped from the end of each. -/
def linesOf (text : String) : List String :=
  (Text.lines text.toList).map fun line => String.ofList (Text.dropReturn line)

/-- Append the lines of a text. -/
def appendText (view : LogView) (text : String) : Except Fault LogView :=
  view.appendLines (linesOf text)

/-- Append the lines of another log, the first of which begins a message. -/
def appendFile (view : LogView) (text : String) : Except Fault LogView :=
  let view : LogView := { view with fileStart := true }
  (view.appendText text).map fun view => { view with fileStart := false }

/-- End the last message and find out which lines are seen. -/
def refresh (view : LogView) : Except Fault LogView :=
  (view.engine.refresh view.buffer.source).map fun engine => { view with engine }

/-! ### Filters -/

def filters (view : LogView) : Registry := view.engine.registry

/-- The view with other filters. -/
def withFilters (view : LogView) (registry : Registry) : LogView :=
  { view with engine := { view.engine with registry } }

/-- The number of lines that a filter matches. -/
def hits? (view : LogView) (id : String) : Option Nat :=
  (view.filters.find? id).map fun filter => view.engine.state.hits filter.index

end LogView

namespace Registry

/-- What was found, or that the filter is unknown. -/
def orUnknown {α : Type} (id : String) : Option α → Except FilterError α
  | some a => .ok a
  | none => .error (.unknownFilter id)

/-- Carry out a command.  A filter that is added again is turned on and takes the given kind. -/
def apply (registry : Registry) (caseSensitive : Bool) : Command → Except FilterError Registry
  | .add kind pattern =>
    match (registry.setEnabled? pattern true).bind (·.setKind? pattern kind) with
    | some registry => .ok registry
    | none => (registry.addPattern kind pattern caseSensitive).map Prod.snd
  | .enable id => orUnknown id (registry.setEnabled? id true)
  | .disable id => orUnknown id (registry.setEnabled? id false)
  | .delete id => orUnknown id (registry.delete? id)

end Registry

namespace LogView

/-- Carry out a command on the filters.  One that is refused changes nothing. -/
def apply (view : LogView) (command : Command) : Except Fault (Except FilterError LogView) :=
  match view.filters.apply view.caseSensitive command with
  | .error e => .ok (.error e)
  | .ok registry => (view.withFilters registry).refresh.map .ok

/-- Change the kind of a filter to the other one; answers the new kind. -/
def toggleKind (view : LogView) (id : String) :
    Except Fault (Except FilterError (FilterKind × LogView)) :=
  match view.filters.find? id with
  | none => .ok (.error (.unknownFilter id))
  | some filter =>
    let kind := filter.kind.opposite
    let registry := (view.filters.setKind? id kind).getD view.filters
    (view.withFilters registry).refresh.map fun view => .ok (kind, view)

/-- Start to edit a filter that does not exist yet. -/
def beginNew (view : LogView) (kind : FilterKind) : Except FilterError EditSession :=
  EditSession.beginNew view.filters kind view.caseSensitive

/-- Start to edit a filter; the view is shown without it meanwhile. -/
def beginEdit (view : LogView) (id : String) :
    Except Fault (Except FilterError (EditSession × LogView)) :=
  match EditSession.beginExisting view.filters id view.caseSensitive with
  | .error e => .ok (.error e)
  | .ok (session, registry) => (view.withFilters registry).refresh.map fun view => .ok (session, view)

/-- Install what was edited. -/
def commitEdit (view : LogView) (session : EditSession) :
    Except Fault (Except FilterError Slot × LogView) :=
  let (result, registry) := session.commit view.filters
  (view.withFilters registry).refresh.map fun view => (result, view)

/-- Give an edit up. -/
def cancelEdit (view : LogView) (session : EditSession) : Except Fault LogView :=
  (view.withFilters (session.cancel view.filters)).refresh

/-- Let an engine revise the last message of some filters, one after the other, up to the first one
for which it refuses. -/
def reviseAll (source : Source) (engine : Engine) :
    List String → Except Fault (Except FilterError Unit × Engine)
  | [] => .ok (.ok (), engine)
  | id :: rest => do
    match ← engine.revise id source with
    | .error e => return (.error e, engine)
    | .ok engine => reviseAll source engine rest

/-- Replace the text of the last line, as when a line grows.  The filters are revised one at a time,
so that they never diverge.  Nothing happens if there is no line. -/
def amendLast (view : LogView) (text : String) :
    Except Fault (Except FilterError Unit × LogView) :=
  if view.buffer.isEmpty then .ok (.ok (), view)
  else do
    let amended : LogView := { view with buffer := view.buffer.amendLast text }
    let view ← amended.refresh
    let ids := view.filters.filters.map Filter.id
    let (result, engine) ← reviseAll view.buffer.source view.engine ids
    return (result, { view with engine })

/-! ### Bookmarks -/

/-- Let an operation act on the marked lines of a category. -/
def updateMarks {β : Type} (view : LogView) (category : CategoryId)
    (act : BookmarkIndex Nat → Except Fault (β × BookmarkIndex Nat)) :
    Except Fault (β × LogView) :=
  (view.bookmarks.update category act).map fun (answer, bookmarks) =>
    (answer, { view with bookmarks })

/-- Set or take away the user's mark on a line; tells whether it is set now. -/
def toggleMark (view : LogView) (line : Nat) : Except Fault (Bool × LogView) :=
  view.updateMarks userCategory (·.toggle line)

def registerCategory (view : LogView) (name : String) : CategoryId × LogView :=
  let (id, categories) := view.categories.register name
  (id, { view with categories })

/-- The numbers of the lines that are seen and match a pattern. -/
def matchingLines (view : LogView) (pattern : Pattern) : List Nat :=
  view.visibleLines.filter fun number =>
    (view.buffer.lines[number]?).any fun line => pattern.isMatch line.raw.bytes

/-- Make the lines that are seen and match a pattern the search hits, in place of those of an
earlier search; answers their number. -/
def search (view : LogView) (pattern : String) : Except FilterError (Nat × LogView) := do
  let pattern ← Pattern.compile pattern view.caseSensitive
  let hits := (view.matchingLines pattern).foldl BookmarkIndex.mark {}
  return (hits.size, { view with bookmarks := view.bookmarks.put searchCategory hits })

/-- The line that is come to first on a way among those that are marked in a category and seen. -/
def seekMark? (way : Way) (view : LogView) (category : CategoryId) (start : Nat) : Option Nat :=
  (view.bookmarks.get? category).bind fun index => way.seek index view.engine.sees start

/-- The first line behind a line that is marked in a category and seen. -/
def nextMark? (view : LogView) : CategoryId → Nat → Option Nat := seekMark? .forward view

/-- The last line before a line that is marked in a category and seen. -/
def prevMark? (view : LogView) : CategoryId → Nat → Option Nat := seekMark? .back view

/-- The names of the categories in which a line is marked. -/
def marksFor (view : LogView) (line : Nat) : List String :=
  (view.bookmarks.categoriesOf view.categories.ids line).filterMap view.categories.name?

end LogView

end LogLens
