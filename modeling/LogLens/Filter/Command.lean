/-
Module: LogLens.Filter.Command
Purpose: Filter commands as written in scripts and as printed, one line each.
Main exports: Command, Command.parse, Command.render, ScriptError, parseScript
-/
import LogLens.Filter.Kind
import LogLens.Text.Blank
import LogLens.Text.Lines

namespace LogLens

open Text

/-- A change to the set of filters.  Filters are named by their pattern. -/
inductive Command where
  /-- Add a filter, or turn it on again as the given kind if it is there. -/
  | add (kind : FilterKind) (pattern : String)
  | enable (id : String)
  | disable (id : String)
  | delete (id : String)
deriving Repr, DecidableEq

namespace Command

/-- The first word of the command. -/
def name : Command → String
  | add kind _ => kind.command
  | enable _ => "enable-filter"
  | disable _ => "disable-filter"
  | delete _ => "delete-filter"

/-- What follows the first word. -/
def argument : Command → String
  | add _ text | enable text | disable text | delete text => text

/-- The command as a line of a script. -/
def render (command : Command) : String := command.name ++ " " ++ command.argument

/-- The command that a word introduces, as a function of its argument. -/
def ofName? (word : List Char) : Option (String → Command) :=
  let name := String.ofList word
  match Unicode.lowerCase name with
  | "filter-in" | "filter-out" => (FilterKind.parse name).toOption.map add
  | "enable-filter" => some enable
  | "disable-filter" => some disable
  | "delete-filter" => some delete
  | _ => none

/-- The text after one optional colon. -/
def dropColon : List Char → List Char
  | ':' :: rest => rest
  | text => text

/-- Read a command.  Blanks around it and one colon in front are skipped; its name is the text up
to the first blank, and all that follows is the argument, so that patterns may hold blanks. -/
def parseChars (text : List Char) : Except CommandError Command :=
  let line := dropColon (trim text)
  let word := line.takeWhile (!isBlank ·)
  let rest := trim (line.dropWhile (!isBlank ·))
  match ofName? word with
  | none => .error (.unknownCommand (String.ofList word))
  | some make =>
    if rest.isEmpty then .error (.missingArgument (String.ofList word))
    else .ok (make (String.ofList rest))

/-- Read a command from a text. -/
def parse (text : String) : Except CommandError Command := parseChars text.toList

end Command

/-- A line of a script that is no command.  Lines count from 1. -/
structure ScriptError where
  line : Nat
  cause : CommandError
deriving Repr, DecidableEq

/-- Whether a script line is skipped: it is blank or a comment. -/
def isRemark (line : List Char) : Bool :=
  match trim line with
  | [] => true
  | c :: _ => c = '#'

/-- Read the commands of the given lines, the first of which has the given number. -/
def parseScriptLines : Nat → List (List Char) → Except ScriptError (List Command)
  | _, [] => .ok []
  | number, line :: rest =>
    if isRemark line then parseScriptLines (number + 1) rest
    else match Command.parseChars line with
      | .error cause => .error ⟨number, cause⟩
      | .ok command => (parseScriptLines (number + 1) rest).map (command :: ·)

/-- Read a script: one command a line, in order, up to the first line that is none. -/
def parseScript (script : String) : Except ScriptError (List Command) :=
  parseScriptLines 1 (lines script.toList)

end LogLens
