/-
Module: LogLens.CommandLine.Parser
Purpose: Reading a command line.  Words are read from left to right; options may stand anywhere
  before a `--`, with their value in the same word or in the next one.  A value in a word of its own
  is looked at only when the next option or the end of the command is reached.
Main exports: Invocation.parse
-/
import LogLens.CommandLine.Basic

namespace LogLens

namespace CommandLine

inductive Opt where
  | config
  | format
  | color
  | verbose
  | help
  | version
  | filterIn
  | filterOut
  | script
  | messageStart
  | caseSensitive
  | search
  | mark
  | markedOnly
deriving Repr, DecidableEq

inductive Subcommand where
  | view
  | filters
  | export
deriving Repr, DecidableEq

/-- Where words are read: in front of the command or behind it. -/
inductive Scope where
  | program
  | command (name : Subcommand)
deriving Repr, DecidableEq

def Subcommand.ofName? : String → Option Subcommand
  | "view" => some view
  | "filters" => some filters
  | "export" => some .export
  | _ => none

def Scope.takesLogs : Scope → Bool
  | command .view => true
  | command .filters => true
  | _ => false

namespace Opt

def isIn (scope : Scope) : Opt → Bool
  | config | format | color | verbose | help => true
  | version => scope == .program
  | filterIn | filterOut | script | messageStart | caseSensitive => scope != .program
  | search | mark | markedOnly => scope == .command .view

def ofLong? : String → Option Opt
  | "config" => some config
  | "format" => some format
  | "color" => some color
  | "verbose" => some verbose
  | "help" => some help
  | "version" => some version
  | "filter-in" => some filterIn
  | "filter-out" => some filterOut
  | "script" => some script
  | "message-start" => some messageStart
  | "case-sensitive" => some caseSensitive
  | "search" => some search
  | "mark" => some mark
  | "marked-only" => some markedOnly
  | _ => none

def ofShort? : Char → Option Opt
  | 'c' => some config
  | 'F' => some format
  | 'v' => some verbose
  | 'h' => some help
  | 'V' => some version
  | 'i' => some filterIn
  | 'x' => some filterOut
  | 's' => some script
  | 'm' => some messageStart
  | 'g' => some search
  | 'k' => some mark
  | _ => none

def takesValue : Opt → Bool
  | verbose | help | version | caseSensitive | markedOnly => false
  | _ => true

end Opt

/-- What has been read in one scope. -/
structure Found where
  config : Option String := none
  format : Option OutputFormat := none
  color : Option ColorMode := none
  verbose : Option Nat := none
  filters : FilterOptions := {}
  search : Option String := none
  marks : List Nat := []
  markedOnly : Bool := false
  logs : List String := []
deriving Repr, DecidableEq

/-- What the value in the next words is for. -/
inductive Target where
  | option (opt : Opt)
  | logs
deriving Repr, DecidableEq

/-- A command line as read so far. -/
structure Progress where
  found : Found := {}
  /-- Values not looked at yet, in order. -/
  pending : Option (Target × List String) := none
  /-- Whether the next word is the value of the pending option. -/
  awaiting : Bool := false
  /-- Whether a `--` was read. -/
  trailing : Bool := false
deriving Repr

/-- A path, which is not empty. -/
def path (value : String) : Except UsageError String :=
  if value.isEmpty then .error .invalidValue else .ok value

def numberLimit : Nat := UInt64.size - 1

/-- A number: digits, perhaps behind a plus sign. -/
def number (value : String) : Except UsageError Nat :=
  let digits := match value.toList with
    | '+' :: rest => rest
    | chars => chars
  if digits.isEmpty || !digits.all Char.isDigit then .error .valueValidation
  else
    let n := digits.foldl (fun n c => n * 10 + (c.toNat - '0'.toNat)) 0
    if n ≤ numberLimit then .ok n else .error .valueValidation

/-- One of the values that have a name. -/
def named {α : Type} (ofName? : String → Option α) (value : String) : Except UsageError α :=
  match ofName? value with
  | some a => .ok a
  | none => .error .invalidValue

/-- The value of an option that can be given once. -/
def once {α : Type} (known : Option α) (read : Except UsageError α) :
    Except UsageError (Option α) :=
  if known.isSome then .error .argumentConflict else read.map some

def countLimit : Nat := 255

/-- Note an option and its values. -/
def Found.note (found : Found) (opt : Opt) (values : List String) : Except UsageError Found :=
  let filters := found.filters
  match opt, values with
  | .verbose, _ => .ok { found with verbose := some (min countLimit (found.verbose.getD 0 + 1)) }
  | .caseSensitive, _ =>
    if filters.caseSensitive then .error .argumentConflict
    else .ok { found with filters := { filters with caseSensitive := true } }
  | .markedOnly, _ =>
    if found.markedOnly then .error .argumentConflict else .ok { found with markedOnly := true }
  | .help, _ => .error .displayHelp
  | .version, _ => .error .displayVersion
  | _, [] => .error .invalidValue
  | .config, value :: _ => do return { found with config := ← once found.config (path value) }
  | .format, value :: _ => do
    return { found with format := ← once found.format (named OutputFormat.ofName? value) }
  | .color, value :: _ => do
    return { found with color := ← once found.color (named ColorMode.ofName? value) }
  | .filterIn, value :: _ =>
    .ok { found with filters := { filters with filterIn := filters.filterIn ++ [value] } }
  | .filterOut, value :: _ =>
    .ok { found with filters := { filters with filterOut := filters.filterOut ++ [value] } }
  | .script, value :: _ => do
    let script ← once filters.script (path value)
    return { found with filters := { filters with script } }
  | .messageStart, value :: _ => do
    let messageStart ← once filters.messageStart (.ok value)
    return { found with filters := { filters with messageStart } }
  | .search, value :: _ => do return { found with search := ← once found.search (.ok value) }
  | .mark, value :: _ => do return { found with marks := found.marks ++ [← number value] }

/-- Look at the pending values. -/
def Progress.resolve (p : Progress) : Except UsageError Progress :=
  match p.pending with
  | none => .ok p
  | some (.option opt, values) => do
    return { p with found := ← p.found.note opt values, pending := none }
  | some (.logs, values) => do
    let logs ← values.mapM path
    return { p with found := { p.found with logs := p.found.logs ++ logs }, pending := none }

/-- Note an option whose value, if it has one, is known. -/
def Progress.react (p : Progress) (opt : Opt) (values : List String) :
    Except UsageError Progress := do
  let p ← p.resolve
  return { p with found := ← p.found.note opt values, awaiting := false }

/-- Note an option whose value is the next word. -/
def Progress.await (p : Progress) (opt : Opt) : Except UsageError Progress := do
  let p ← p.resolve
  return { p with pending := some (.option opt, []), awaiting := true }

/-- Read a word with a long option, less its hyphens. -/
def Progress.readLong (p : Progress) (scope : Scope) (word : List Char) :
    Except UsageError Progress :=
  let name := word.takeWhile (· != '=')
  let value? := match word.dropWhile (· != '=') with
    | _ :: value => some (String.ofList value)
    | [] => none
  match (Opt.ofLong? (String.ofList name)).filter (Opt.isIn scope) with
  | none => .error .unknownArgument
  | some opt =>
    match opt.takesValue, value? with
    | true, some value => p.react opt [value]
    | true, none => p.await opt
    | false, some _ => .error .tooManyValues
    | false, none => p.react opt []

/-- Read a word with short options, less its hyphen.  What follows an option that has a value is its
value, with or without an equals sign. -/
def Progress.readShort (scope : Scope) : List Char → Progress → Except UsageError Progress
  | [], p => .ok p
  | c :: rest, p =>
    match (Opt.ofShort? c).filter (Opt.isIn scope) with
    | none => .error .unknownArgument
    | some opt =>
      if opt.takesValue then
        match rest with
        | [] => p.await opt
        | '=' :: value => p.react opt [String.ofList value]
        | value => p.react opt [String.ofList value]
      else do
        let p ← p.react opt []
        readShort scope rest p

def Progress.readPlain (p : Progress) (scope : Scope) (word : String) :
    Except UsageError Progress :=
  if p.awaiting && !p.trailing then
    let pending := p.pending.map fun (target, values) => (target, values ++ [word])
    .ok { p with pending, awaiting := false }
  else if scope.takesLogs then
    match p.pending with
    | some (.logs, values) => .ok { p with pending := some (.logs, values ++ [word]) }
    | _ => do
      let p ← p.resolve
      return { p with pending := some (.logs, [word]), awaiting := false }
  else if scope == .program then
    if p.trailing && (word == "help" || (Subcommand.ofName? word).isSome) then
      .error .unknownArgument
    else .error .invalidSubcommand
  else .error .unknownArgument

def Progress.readWord (p : Progress) (scope : Scope) (word : String) : Except UsageError Progress :=
  if p.trailing then p.readPlain scope word
  else match word.toList with
    | ['-', '-'] => .ok { p with trailing := true }
    | '-' :: '-' :: rest => p.readLong scope rest
    | '-' :: c :: rest => Progress.readShort scope (c :: rest) p
    | _ => p.readPlain scope word

/-- Look at what is pending at the end of a scope. -/
def Progress.finish (p : Progress) : Except UsageError Found := (p.resolve).map Progress.found

/-- Read the words behind a command. -/
def readCommand (name : Subcommand) (words : List String) : Except UsageError Found := do
  let p ← words.foldlM (fun p word => Progress.readWord p (.command name) word) {}
  p.finish

/-- Answer a request for help on the named commands. -/
def help : List String → UsageError
  | [] => .displayHelp
  | [name] => if name == "help" || (Subcommand.ofName? name).isSome then .displayHelp
    else .invalidSubcommand
  | _ => .invalidSubcommand

/-- A command with the words behind it. -/
abbrev Tail := Option (Subcommand × List String)

/-- Read words up to the command.  A word that names a command is one unless an option waits for its
value. -/
def readProgram : List String → Progress → Except UsageError (Progress × Tail)
  | [], p => .ok (p, none)
  | word :: rest, p =>
    if !p.trailing && !p.awaiting && word == "help" then .error (help rest)
    else if !p.trailing && !p.awaiting && (Subcommand.ofName? word).isSome then
      .ok (p, (Subcommand.ofName? word).map fun name => (name, rest))
    else do
      let p ← p.readWord .program word
      readProgram rest p

/-- The configuration file of a scope: the one given there, or else the one of the environment,
which must not be empty. -/
def checkEnvironment (environment : Option String) (found : Found) : Except UsageError Unit :=
  match found.config, environment with
  | none, some value => (path value).map fun _ => ()
  | _, _ => .ok ()

/-- The task that a command and its options describe.  A command that reads logs needs one. -/
def task (name : Subcommand) (found : Found) : Except UsageError Request :=
  match name with
  | .export => .ok (.export found.filters)
  | .view =>
    if found.logs.isEmpty then .error .missingRequiredArgument
    else .ok (.view found.logs found.filters found.search found.marks found.markedOnly)
  | .filters =>
    if found.logs.isEmpty then .error .missingRequiredArgument
    else .ok (.filters found.logs found.filters)

end CommandLine

open CommandLine

namespace Invocation

/-- Understand a command line.  What is given behind the command wins over what is given in front of
it, and both over the environment, which may name a configuration file. -/
def parse (words : List String) (environment : Option String) : Except UsageError Invocation := do
  let (program, tail) ← readProgram words {}
  match tail with
  | none =>
    let found ← program.finish
    checkEnvironment environment found
    if found == {} && environment.isNone then .error .nothingAsked else .error .missingSubcommand
  | some (name, rest) =>
    let inner ← readCommand name rest
    checkEnvironment environment inner
    let request ← task name inner
    let outer ← program.finish
    checkEnvironment environment outer
    return {
      config := (inner.config.or outer.config).or environment
      format := (inner.format.or outer.format).getD .text
      color := (inner.color.or outer.color).getD .auto
      verbose := (inner.verbose.or outer.verbose).getD 0
      request }

end Invocation

end LogLens
