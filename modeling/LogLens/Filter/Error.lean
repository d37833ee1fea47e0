/-
Module: LogLens.Filter.Error
Purpose: Why a change to the filters is refused, and the requests that no caller may make.
Main exports: FilterError, FilterError.message, Fault
-/
import LogLens.Filter.Mask

namespace LogLens

/-- Why filters cannot be created, edited or revised as asked. -/
inductive FilterError where
  /-- The text cannot be used as a pattern. -/
  | invalidPattern (pattern cause : String)
  | tooManyFilters
  | duplicateFilter (id : String)
  | indexInUse (index : Nat)
  | unknownFilter (id : String)
  /-- The filters at these indices have not read as far as the others. -/
  | divergentCounters (indices : List Nat)
  /-- An edit was to be installed although nothing was entered. -/
  | noPattern
deriving Repr, DecidableEq

namespace FilterError

/-- Numbers in brackets, with a comma and a blank between them. -/
def bracketed (numbers : List Nat) : String :=
  "[" ++ ", ".intercalate (numbers.map toString) ++ "]"

/-- The wording of a filter error. -/
def message : FilterError → String
  | invalidPattern pattern _ => "Invalid filter pattern '" ++ pattern ++ "'"
  | tooManyFilters =>
    "Filter limit of " ++ toString maxFilters ++
      " reached, try combining filters with a pipe symbol (e.g. foo|bar)"
  | duplicateFilter id => "Filter already exists: '" ++ id ++ "'"
  | indexInUse index => "Filter index " ++ toString index ++ " is already in use"
  | unknownFilter id => "Unknown filter: '" ++ id ++ "'"
  | divergentCounters indices =>
    "Filter counters have diverged (indices " ++ bracketed indices ++
      "), only one filter may be revised at a time"
  | noPattern => "No valid pattern has been entered for this filter"

/-- The wording together with the first line of what is said of a pattern. -/
def fullMessage (error : FilterError) : String :=
  match error with
  | invalidPattern _ cause => error.message ++ ": " ++ cause
  | _ => error.message

end FilterError

/-- A request outside of what a caller may ask; it has no answer and ends the conversation. -/
inductive Fault where
  /-- A place beyond the last one. -/
  | noSuchSlot (index : Nat)
  /-- A line behind the last one. -/
  | noSuchLine (line : Nat)
  /-- A decision was to be stamped on a line for which no room was made. -/
  | noMask (line : Nat)
  /-- A stamp was to be taken back at a place that has none. -/
  | nothingStamped (index : Nat)
  /-- The number that means "no line" was to be stored. -/
  | noLine
  /-- Room was asked for more lines than a state can ever have. -/
  | noRoom (length : Nat)
  /-- Two filters were found at one place. -/
  | placeTwice (index : Nat)
deriving Repr, DecidableEq

/-- The place of the given number, which must be one. -/
def Slot.ofIndex (index : Nat) : Except Fault Slot :=
  if h : index < maxFilters then .ok ⟨index, h⟩ else .error (.noSuchSlot index)

end LogLens
