/-
Module: LogLens.View.Buffer
Purpose: The lines of a view and where the messages among them begin.
Main exports: Line, LineBuffer
-/
import LogLens.Filter.Engine

namespace LogLens

/-- A line of a log. -/
structure Line where
  text : String
  /-- Whether the line begins a message. -/
  starts : Bool
deriving Repr, DecidableEq, Inhabited

/-- The line as the filters read it. -/
def Line.raw (line : Line) : RawLine := ⟨Utf8.encode line.text, line.starts⟩

/-- The lines of a view. -/
structure LineBuffer where
  name : String
  lines : Array Line := #[]
deriving Repr, DecidableEq, Inhabited

namespace LineBuffer

def size (buffer : LineBuffer) : Nat := buffer.lines.size

def isEmpty (buffer : LineBuffer) : Bool := buffer.lines.isEmpty

def push (buffer : LineBuffer) (line : Line) : LineBuffer :=
  { buffer with lines := buffer.lines.push line }

/-- The text of a line, which must exist. -/
def text (buffer : LineBuffer) (number : Nat) : Except Fault String :=
  match buffer.lines[number]? with
  | some line => .ok line.text
  | none => .error (.noSuchLine number)

/-- Change the text of the last line.  The line begins a message if it did before. -/
def amendLast (buffer : LineBuffer) (text : String) : LineBuffer :=
  { buffer with
    lines := buffer.lines.modify (buffer.lines.size - 1) fun line => { line with text } }

/-- The lines as the filters read them. -/
def source (buffer : LineBuffer) : Source := ⟨buffer.name, buffer.lines.toList.map Line.raw⟩

end LineBuffer

end LogLens
