/-
Module: LogLens.Config.Replay
Purpose: Building a view, or a set of filters alone, from a configuration and the filter options of
  a command line: first the commands of the configuration, then those of the script, then the
  patterns to keep and the patterns to hide.
Main exports: FilterOptions, RunError, buildView, exportCommands
-/
import LogLens.Config.Basic

namespace LogLens

/-- The filter options of a command line. -/
structure FilterOptions where
  filterIn : List String := []
  filterOut : List String := []
  script : Option String := none
  messageStart : Option String := none
  caseSensitive : Bool := false
deriving Repr, DecidableEq, Inhabited

/-- What made a run fail in the end. -/
inductive Failure where
  | filter (error : FilterError)
  | config (error : ConfigError)
  /-- A file cannot be read; what was tried with it stands in the context. -/
  | file
  /-- Any other reason, in words. -/
  | other (text : String)
  /-- Something was asked for that no caller may ask for. -/
  | fault (fault : Fault)
deriving Repr, DecidableEq

/-- Why a run fails: what was being done, outermost first, and what went wrong. -/
structure RunError where
  context : List String
  failure : Failure
deriving Repr, DecidableEq

namespace Failure

/-- The wording of a failure, if it has one of its own. -/
def message? : Failure → Option String
  | filter e => some e.message
  | config e => some e.message
  | file => none
  | other text => some text
  | fault _ => none

end Failure

namespace RunError

def plain (failure : Failure) : RunError := ⟨[], failure⟩

/-- Say what was being done when the error came up. -/
def during (text : String) (error : RunError) : RunError :=
  { error with context := text :: error.context }

/-- All that is said of an error, outermost first. -/
def messages (error : RunError) : List String := error.context ++ error.failure.message?.toList

end RunError

/-- Say what was being done when an error comes up. -/
def explain {ε α : Type} (text : String) (failure : ε → Failure) : Except ε α → Except RunError α :=
  Except.mapError fun e => (RunError.plain (failure e)).during text

/-- What was asked for; a fault ends the run. -/
def unfaulted {α : Type} : Except Fault α → Except RunError α :=
  Except.mapError fun fault => RunError.plain (.fault fault)

/-- The commands of a script file. -/
def scriptCommands (files : Files) (path : String) : Except RunError (List Command) :=
  match files.readText? path with
  | none => .error ⟨["Failed to read filter script '" ++ path ++ "'"], .file⟩
  | some text =>
    match parseScript text with
    | .ok commands => .ok commands
    | .error e =>
      .error (.plain (.other (path ++ ":" ++ toString e.line ++ ": " ++ e.cause.message)))

/-- All filter commands in the order in which they are carried out. -/
def allCommands (files : Files) (config : ViewerConfig) (options : FilterOptions) :
    Except RunError (List Command) := do
  let configured ← config.commands.mapError fun e => RunError.plain (.config e)
  let scripted ← (options.script.map (scriptCommands files)).getD (.ok [])
  return configured ++ scripted ++ options.filterIn.map (Command.add .keep) ++
    options.filterOut.map (Command.add .hide)

/-- Whether letter case counts: if the configuration or the command line says so. -/
def heedsCase (config : ViewerConfig) (options : FilterOptions) : Bool :=
  options.caseSensitive || config.filters.caseSensitive

/-- The name of a view: that of its log if there is one, and their number otherwise. -/
def viewName : List String → String
  | [log] => log
  | logs => toString logs.length ++ " files"

def loadLog (files : Files) (view : LogView) (path : String) : Except RunError LogView :=
  match files.read? path with
  | none => .error ⟨["Failed to read log file '" ++ path ++ "'"], .file⟩
  | some bytes => unfaulted (view.appendFile (Utf8.decodeLossy bytes))

variable [PatternCompiler]

def applyTo (view : LogView) (command : Command) : Except RunError LogView := do
  explain ("Failed to apply '" ++ command.render ++ "'") .filter (← unfaulted (view.apply command))

/-- Build a view of log files with all filters applied. -/
def buildView (files : Files) (logs : List String) (config : ViewerConfig)
    (options : FilterOptions) : Except RunError LogView := do
  let start := options.messageStart.or config.messages.startPattern
  let view ← explain "Invalid message start pattern" .filter
    (LogView.new (viewName logs) start (heedsCase config options))
  let view ← logs.foldlM (loadLog files) view
  let view ← (← allCommands files config options).foldlM applyTo view
  unfaulted view.refresh

/-- Carry out a command on filters that no view shows.  A pattern that is there already is turned on
and takes the given kind; a name that no filter has ends the run. -/
def exportStep (caseSensitive : Bool) (registry : Registry) (command : Command) :
    Except RunError Registry :=
  let known (id : String) : Option Registry → Except RunError Registry
    | some registry => .ok registry
    | none => .error (.plain (.filter (.unknownFilter id)))
  match command with
  | .add kind pattern =>
    if (registry.find? pattern).isSome then
      let enabled := (registry.setEnabled? pattern true).getD registry
      .ok ((enabled.setKind? pattern kind).getD enabled)
    else match registry.addPattern kind pattern caseSensitive with
      | .ok (_, registry) => .ok registry
      | .error e => .error (.plain (.filter e))
  | .enable id | .disable id => known id (registry.setEnabled? id (command matches .enable _))
  | .delete id => known id (registry.delete? id)

/-- The commands that create the filters of a configuration and a command line again. -/
def exportCommands (files : Files) (config : ViewerConfig) (options : FilterOptions) :
    Except RunError (List String) := do
  let commands ← allCommands files config options
  let registry ← commands.foldlM (exportStep (heedsCase config options)) {}
  return registry.script

end LogLens
