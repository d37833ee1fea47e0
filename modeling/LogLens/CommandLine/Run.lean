/-
Module: LogLens.CommandLine.Run
Purpose: Carrying out a command line on the files that can be read: what is written, and how the run
  ends.
Main exports: Outcome, Invocation.execute, run
-/
import LogLens.CommandLine.Parser
import LogLens.Regex.Compile

namespace LogLens

open Text (Document)

structure Outcome where
  exitCode : Nat
  /-- What is written to the standard output. -/
  output : String := ""
  /-- What is said of an error. -/
  error : Option String := none
deriving Repr, DecidableEq

/-- The exit code of a run that a fault ends. -/
def faultExit : Nat := 101

def versionText : String := "logsieve 0.1.0\n"

def usageText : String :=
  "Usage: logsieve [OPTIONS] <COMMAND>\n\nCommands:\n" ++
    "  view     Print the lines that pass the filters\n" ++
    "  filters  List the active filters with the number of lines each one matched\n" ++
    "  export   Print the filters as commands that can be replayed with --script\n" ++
    "  help     Print this message\n"

def firstLine (text : String) : String := String.ofList (text.toList.takeWhile (· != '\n'))

/-- What is said of an error: what was being done, or else what went wrong. -/
def RunError.headline (error : RunError) : String :=
  match error.context with
  | text :: _ => text
  | [] =>
    match error.failure with
    | .filter e => e.fullMessage
    | failure => failure.message?.getD ""

/-- Set the marks that a command line asks for, one after the other.  Lines are counted from 1; one
that is not there is an error. -/
def markLines (view : LogView) : List Nat → Except RunError LogView
  | [] => .ok view
  | n :: rest =>
    if n = 0 ∨ view.lineCount < n then
      .error (.plain (.other ("Line " ++ toString n ++ " is out of range (1..=" ++
        toString view.lineCount ++ ")")))
    else do
      let (_, view) ← unfaulted (view.toggleMark (n - 1))
      markLines view rest

variable [PatternCompiler]

/-- Search a view if a pattern is given. -/
def searchLines (view : LogView) : Option String → Except RunError LogView
  | none => .ok view
  | some pattern =>
    (explain "Invalid search pattern" .filter (view.search pattern)).map Prod.snd

namespace Invocation

/-- Carry out the task; answers what is written. -/
def perform (files : Files) (config : ViewerConfig) (call : Invocation) :
    Except RunError String :=
  match call.request with
  | .view logs filters search marks markedOnly => do
    let view ← buildView files logs config filters
    let view ← markLines view marks
    let view ← searchLines view search
    let options : ViewOptions := ⟨config.output, markedOnly, call.color == .always⟩
    return match call.format with
      | .text => view.renderText options
      | .json => view.renderJson options ++ "\n"
  | .filters logs filters => do
    let view ← buildView files logs config filters
    return match call.format with
      | .text => view.renderFilters
      | .json => view.renderFiltersJson ++ "\n"
  | .export filters => do
    let commands ← exportCommands files config filters
    return match call.format with
      | .text => String.join (commands.map (· ++ "\n"))
      | .json => (Document.list (commands.map .text)).render ++ "\n"

/-- Carry out a command line that was understood. -/
def execute (files : Files) (call : Invocation) : Outcome :=
  let result := do
    let config ← explain "Failed to load config" .config (ViewerConfig.load files call.config)
    call.perform files config
  match result with
  | .ok output => { exitCode := 0, output }
  | .error ⟨_, .fault _⟩ => { exitCode := faultExit }
  | .error e => { exitCode := 1, error := some (firstLine e.headline) }

/-- The files that a command line may read. -/
def paths (call : Invocation) : List String :=
  let script (filters : FilterOptions) := filters.script.toList
  call.config.toList ++
    match call.request with
    | .view logs filters _ _ _ => script filters ++ logs
    | .filters logs filters => script filters ++ logs
    | .export filters => script filters

end Invocation

def UsageError.outcome : UsageError → Outcome
  | .displayHelp => { exitCode := 0, output := usageText }
  | .displayVersion => { exitCode := 0, output := versionText }
  | _ => { exitCode := 2 }

/-- Run the program on a command line, given the configuration file that the environment names. -/
def run (files : Files) (words : List String) (environment : Option String) : Outcome :=
  match Invocation.parse words environment with
  | .ok call => call.execute files
  | .error e => e.outcome

end LogLens
