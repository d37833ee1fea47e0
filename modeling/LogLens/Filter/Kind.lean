/-
Module: LogLens.Filter.Kind
Purpose: The two kinds of filter and the names by which commands ask for them.
Main exports: FilterKind, CommandError, FilterKind.parse
-/
import LogLens.Unicode.LowerCase

namespace LogLens

/-- What a filter does with the messages it matches. -/
inductive FilterKind where
  /-- Messages that match are shown. -/
  | keep
  /-- Messages that match are hidden. -/
  | hide
deriving Repr, DecidableEq, Inhabited

/-- Why a text is no filter command. -/
inductive CommandError where
  /-- The first word is no command; it is kept as it was written. -/
  | unknownCommand (name : String)
  /-- The command is known but nothing follows it. -/
  | missingArgument (name : String)
deriving Repr, DecidableEq

/-- The wording of a command error. -/
def CommandError.message : CommandError → String
  | .unknownCommand name =>
    "Unknown filter command: '" ++ name ++ "'. Valid commands are: filter-in, filter-out, " ++
      "enable-filter, disable-filter, delete-filter"
  | .missingArgument name => "Command '" ++ name ++ "' expects an argument"

namespace FilterKind

/-- The command that creates a filter of this kind. -/
def command : FilterKind → String
  | keep => "filter-in"
  | hide => "filter-out"

/-- The short name shown in tables. -/
def label : FilterKind → String
  | keep => "IN"
  | hide => "OUT"

/-- The other kind. -/
def opposite : FilterKind → FilterKind
  | keep => hide
  | hide => keep

/-- A word with its ASCII capitals made small. -/
def smallLetters (word : String) : String := String.ofList (word.toList.map Char.toLower)

/-- Whether a word is of ASCII characters, none of which is a `k`, the one small ASCII letter that is
the small form of a character outside ASCII.  All names of commands are such words. -/
def isPlain (word : String) : Bool := word.toList.all fun c => c.toNat < 0x80 && c != 'k'

/-- Only the case of ASCII letters matters where a word is compared with a plain name. -/
theorem lowerCase_eq_iff {name : String} (plain : isPlain name = true) (word : String) :
    Unicode.lowerCase word = name ↔ smallLetters word = name := by
  rw [Unicode.lowerCase_eq_iff, smallLetters, ← String.toList_inj, String.toList_ofList]
  simpa [isPlain] using plain

/-- The kind that a word asks for, whatever its letter case. -/
def parse (word : String) : Except CommandError FilterKind :=
  match Unicode.lowerCase word with
  | "filter-in" | "in" | "include" => .ok keep
  | "filter-out" | "out" | "exclude" => .ok hide
  | _ => .error (.unknownCommand word)

@[simp] theorem opposite_opposite (kind : FilterKind) : kind.opposite.opposite = kind := by
  cases kind <;> rfl

end FilterKind

end LogLens
