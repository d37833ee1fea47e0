/-
Module: LogLens.Config.Basic
Purpose: The configuration of a viewer and how it is read from a TOML file.  Every setting may be
  missing; settings that are not known are skipped.
Main exports: ViewerConfig, ConfigError, ViewerConfig.ofText?, ViewerConfig.load,
  ViewerConfig.commands
-/
import LogLens.Config.Files
import LogLens.Filter.Command
import LogLens.Toml.Reader
import LogLens.View.Display

namespace LogLens

open Toml (Node Entries)

/-- How lines are put together to messages. -/
structure MessageRules where
  /-- What the first line of a message matches.  Without it every line is a message. -/
  startPattern : Option String := none
deriving Repr, DecidableEq, Inhabited

structure FilterRules where
  caseSensitive : Bool := false
  /-- Commands that are carried out before those of the command line. -/
  commands : List String := []
deriving Repr, DecidableEq, Inhabited

/-- The configuration of a viewer. -/
structure ViewerConfig where
  profileName : String := "base"
  messages : MessageRules := {}
  filters : FilterRules := {}
  output : OutputRules := {}
deriving Repr, DecidableEq, Inhabited

inductive ConfigError where
  /-- The file cannot be read as text. -/
  | unreadable (path : String)
  /-- The text is no TOML document, or a setting has a value of the wrong kind. -/
  | malformed (path : String)
  /-- A filter command, counted from 1, is none. -/
  | badCommand (position : Nat) (cause : CommandError)
deriving Repr, DecidableEq

def ConfigError.message : ConfigError → String
  | unreadable path => "Failed to read config file '" ++ path ++ "'"
  | malformed path => "Failed to parse config file '" ++ path ++ "'"
  | badCommand position cause =>
    "Invalid filter command #" ++ toString position ++ " in config: " ++ cause.message

/-! ### Settings -/

/-- The settings of a group: by name, or as a list in the order in which the group has them. -/
inductive Settings where
  | named (entries : Entries)
  | listed (items : List Node)

namespace Settings

/-- The settings of a group that was given as a value.  A date counts as a group without any. -/
def ofNode? : Node → Option Settings
  | .inlined entries => some (.named entries)
  | .table _ _ entries => some (.named entries)
  | .list items => some (.listed items)
  | .tables items => some (.listed (items.map Node.inlined))
  | .moment => some (.named [])
  | _ => none

/-- The value of a setting, by its name and its place in the group. -/
def get? (settings : Settings) (name : String) (place : Nat) : Option Node :=
  match settings with
  | named entries => entries.get? name
  | listed items => items[place]?

/-- Read a setting.  A missing one has its default; none if the value is of the wrong kind. -/
def read {α : Type} (settings : Settings) (name : String) (place : Nat) (kind : Node → Option α)
    (default : α) : Option α :=
  (settings.get? name place).elim (some default) kind

end Settings

def textOf? : Node → Option String
  | .text s => some s
  | _ => none

def flagOf? : Node → Option Bool
  | .flag b => some b
  | _ => none

def textsOf? : Node → Option (List String)
  | .list items => items.mapM textOf?
  | _ => none

def MessageRules.ofNode? (node : Node) : Option MessageRules := do
  let s ← Settings.ofNode? node
  return ⟨← s.read "start_pattern" 0 (fun v => (textOf? v).map some) none⟩

def FilterRules.ofNode? (node : Node) : Option FilterRules := do
  let s ← Settings.ofNode? node
  return ⟨← s.read "case_sensitive" 0 flagOf? false, ← s.read "commands" 1 textsOf? []⟩

def OutputRules.ofNode? (node : Node) : Option OutputRules := do
  let s ← Settings.ofNode? node
  return ⟨← s.read "line_numbers" 0 flagOf? true, ← s.read "mark_symbol" 1 textOf? ">"⟩

namespace ViewerConfig

/-- The configuration that a text describes. -/
def ofText? (text : String) : Option ViewerConfig := do
  let s := Settings.named (← Toml.parse? text)
  return ⟨← s.read "profile_name" 0 textOf? "base", ← s.read "messages" 1 MessageRules.ofNode? {},
    ← s.read "filters" 2 FilterRules.ofNode? {}, ← s.read "output" 3 OutputRules.ofNode? {}⟩

/-- Load a configuration; without a file all settings have their defaults. -/
def load (files : Files) : Option String → Except ConfigError ViewerConfig
  | none => .ok {}
  | some path =>
    match files.readText? path with
    | none => .error (.unreadable path)
    | some text =>
      match ofText? text with
      | none => .error (.malformed path)
      | some config => .ok config

/-- Read commands, the first of which has the given number. -/
def parseCommands : Nat → List String → Except ConfigError (List Command)
  | _, [] => .ok []
  | position, text :: rest =>
    match Command.parse text with
    | .error cause => .error (.badCommand position cause)
    | .ok command => (parseCommands (position + 1) rest).map (command :: ·)

/-- The filter commands of a configuration, in order. -/
def commands (config : ViewerConfig) : Except ConfigError (List Command) :=
  parseCommands 1 config.filters.commands

end ViewerConfig

end LogLens
