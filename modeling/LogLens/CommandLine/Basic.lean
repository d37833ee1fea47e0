/-
Module: LogLens.CommandLine.Basic
Purpose: What a command line can ask for, and why it may be refused.
Main exports: OutputFormat, ColorMode, Request, Invocation, UsageError
-/
import LogLens.Config.Replay

namespace LogLens

inductive OutputFormat where
  | text
  | json
deriving Repr, DecidableEq, Inhabited

inductive ColorMode where
  | auto
  | always
  | never
deriving Repr, DecidableEq, Inhabited

def OutputFormat.ofName? : String → Option OutputFormat
  | "text" => some text
  | "json" => some json
  | _ => none

def ColorMode.ofName? : String → Option ColorMode
  | "auto" => some auto
  | "always" => some always
  | "never" => some never
  | _ => none

/-- The task of a run. -/
inductive Request where
  /-- Show the lines that pass the filters. -/
  | view (logs : List String) (filters : FilterOptions) (search : Option String)
      (marks : List Nat) (markedOnly : Bool)
  /-- List the filters with the number of lines that each one matches. -/
  | filters (logs : List String) (filters : FilterOptions)
  /-- Write the filters as commands. -/
  | export (filters : FilterOptions)
deriving Repr, DecidableEq

/-- A command line that was understood. -/
structure Invocation where
  config : Option String
  format : OutputFormat
  color : ColorMode
  verbose : Nat
  request : Request
deriving Repr, DecidableEq

/-- Why a command line is not carried out. -/
inductive UsageError where
  /-- The value of an option is missing or not one of those that it can have. -/
  | invalidValue
  | unknownArgument
  | invalidSubcommand
  /-- The value of an option cannot be read. -/
  | valueValidation
  /-- A value was given to an option that has none. -/
  | tooManyValues
  /-- An option that can be given once was given twice. -/
  | argumentConflict
  | missingRequiredArgument
  | missingSubcommand
  /-- Help was asked for. -/
  | displayHelp
  /-- Nothing was asked for. -/
  | nothingAsked
  /-- The version was asked for. -/
  | displayVersion
deriving Repr, DecidableEq

end LogLens
