/-
Module: LogLens.Filter.State
Purpose: What the filters have found on the lines of one log: a mask for each line, with one bit for
  each place, and for each place how many lines its filter has stamped and how many of them match.
Main exports: FilterState, FilterState.resizeTo, FilterState.write, FilterState.stampLines,
  FilterState.takeBack, FilterState.forget
-/
import LogLens.Filter.Error

namespace LogLens

/-- The results of all filters on one log. -/
structure FilterState where
  /-- The name of the log; empty once the state is cleared. -/
  logfile : String
  /-- The mask of each line that there is room for.  Room grows only. -/
  masks : Array Mask := #[]
  /-- How many lines the filter of each place has stamped, which is the number of the line that it
  stamps next. -/
  counts : Vector Nat maxFilters := Vector.replicate maxFilters 0
  /-- How many lines the filter of each place has stamped as matching. -/
  hitCounts : Vector Nat maxFilters := Vector.replicate maxFilters 0
deriving Repr, DecidableEq

namespace FilterState

/-- The state before any line. -/
def new (logfile : String) : FilterState := { logfile }

def length (state : FilterState) : Nat := state.masks.size

/-- The number of lines that the filter of a place has stamped. -/
def count (state : FilterState) (slot : Slot) : Nat := state.counts[slot]

/-- The number of lines that the filter of a place has stamped as matching. -/
def hits (state : FilterState) (slot : Slot) : Nat := state.hitCounts[slot]

/-- The places whose filters match a line; none for lines not yet stored. -/
def mask (state : FilterState) (line : Nat) : Mask := state.masks[line]?.getD 0

def isHidden (state : FilterState) (kept hidden : Mask) (line : Nat) : Bool :=
  !isVisible (state.mask line) kept hidden

def attach (state : FilterState) (logfile : String) : FilterState := { state with logfile }

/-- Make room for a number of lines; room is never given up. -/
def resize (state : FilterState) (length : Nat) : FilterState :=
  { state with masks := state.masks ++ Array.replicate (length - state.length) 0 }

/-- Announce that room for a number of lines will be needed.  Nothing that is stored changes. -/
def reserve (state : FilterState) (_ : Nat) : FilterState := state

/-- The most lines that a state can have.  A mask takes four bytes, and all masks together have to
take fewer than `2 ^ 63`. -/
def maxLength : Nat := Nat.pow 2 61 - 1

/-- Whether a state can have room for a number of lines. -/
def checkRoom (length : Nat) : Except Fault Unit :=
  if length ≤ maxLength then .ok () else .error (.noRoom length)

/-- Make room for as many lines as a caller asks for. -/
def resizeTo (state : FilterState) (length : Nat) : Except Fault FilterState :=
  (checkRoom length).map fun _ => state.resize length

/-- Announce room for as many lines as a caller asks for. -/
def reserveFor (state : FilterState) (length : Nat) : Except Fault FilterState :=
  (checkRoom length).map fun _ => state.reserve length

/-- Forget the log and everything found on it. -/
def clear (_ : FilterState) : FilterState := new ""

/-- Forget what the filters of some places have found. -/
def forget (state : FilterState) (mask : Mask) : FilterState :=
  { state with
    masks := state.masks.map (· &&& ~~~mask)
    counts := Vector.ofFn fun slot => if mask.has slot then 0 else state.count slot
    hitCounts := Vector.ofFn fun slot => if mask.has slot then 0 else state.hits slot }

/-- Forget what the filters of all other places have found. -/
def retain (state : FilterState) (used : Mask) : FilterState := state.forget (~~~used)

/-! ### Stamping -/

/-- Write one decision into the mask of a line, which must have one. -/
def write (state : FilterState) (line : Nat) (bit : Mask) (matched : Bool) :
    Except Fault FilterState :=
  if h : line < state.masks.size then
    let others := state.masks[line] &&& ~~~bit
    .ok { state with masks := state.masks.set line (if matched then others ||| bit else others) }
  else .error (.noMask line)

/-- Count one more stamped line of a place.  The line must have a mask. -/
def advance (state : FilterState) (slot : Slot) (matched : Bool) : Except Fault FilterState :=
  if state.count slot < state.length then
    .ok { state with
      counts := state.counts.set slot (state.count slot + 1)
      hitCounts := state.hitCounts.set slot (state.hits slot + if matched then 1 else 0) }
  else .error (.noMask (state.count slot))

/-- Count one stamped line of a place less.  There must be one; the lines that match are not counted
below zero. -/
def retreat (state : FilterState) (slot : Slot) (matched : Bool) : Except Fault FilterState :=
  match state.count slot with
  | 0 => .error (.nothingStamped slot.val)
  | count + 1 =>
    .ok { state with
      counts := state.counts.set slot count
      hitCounts := state.hitCounts.set slot (state.hits slot - if matched then 1 else 0) }

/-- Stamp the next line of a place. -/
def stampNext (state : FilterState) (slot : Slot) (matched : Bool) : Except Fault FilterState := do
  let state ← state.write (state.count slot) slot.bit matched
  state.advance slot matched

/-- Take back the last stamp of a place. -/
def takeBackLast (state : FilterState) (slot : Slot) (matched : Bool) :
    Except Fault FilterState := do
  let state ← state.retreat slot matched
  state.write (state.count slot) slot.bit false

/-- Stamp one decision of a place on a number of lines, one after the other. -/
def stampLines (slot : Slot) (matched : Bool) : Nat → FilterState → Except Fault FilterState
  | 0, state => .ok state
  | lines + 1, state => do
    let state ← state.stampNext slot matched
    stampLines slot matched lines state

/-- Take back the last stamps of a place, one after the other, up to the given number or until no
line is stamped.  Answers how many were taken back. -/
def takeBack (slot : Slot) (matched : Bool) :
    Nat → FilterState → Except Fault (Nat × FilterState)
  | 0, state => .ok (0, state)
  | lines + 1, state =>
    if state.count slot = 0 then .ok (0, state)
    else do
      let state ← state.takeBackLast slot matched
      let (taken, state) ← takeBack slot matched lines state
      return (taken + 1, state)

end FilterState

end LogLens
