/-
Module: LogLens.Filter.Basic
Purpose: A filter and the message it is reading.  Lines are read one by one while a message is open;
  when the message ends, one decision is stamped on all of its lines, and the last decision can be
  taken back.
Main exports: Filter, Installed, Filter.addLine, Filter.endMessage, Filter.reopen, Filter.stepBack
-/
import LogLens.Filter.Error
import LogLens.Filter.Kind
import LogLens.Filter.Pattern
import LogLens.Filter.State

namespace LogLens

/-- A message as far as one filter has read it. -/
structure Message where
  /-- Whether some line matched. -/
  matched : Bool := false
  /-- The number of lines. -/
  lines : Nat := 0
deriving Repr, DecidableEq, Inhabited

/-- A filter.  Its place is a number of any size until the filter is installed. -/
structure Filter (place : Type) where
  kind : FilterKind
  index : place
  pattern : Pattern
  /-- The name by which the filter is asked for. -/
  id : String := pattern.source
  enabled : Bool := true
  /-- The message being read. -/
  pending : Message := {}
  /-- The last message that was stamped, if it can still be reopened. -/
  last : Option Message := none
  /-- Filters are named by their pattern. -/
  named : id = pattern.source := by exact rfl
deriving Repr

/-- A filter that has one of the places. -/
abbrev Installed : Type := Filter Slot

namespace Filter

variable {place : Type}

/-- A filter's name is read off its pattern alone. -/
theorem id_eq_of_pattern {other : Type} {first : Filter place} {second : Filter other}
    (same : second.pattern = first.pattern) : second.id = first.id := by
  rw [second.named, first.named, same]

@[ext] theorem ext {first second : Filter place} (kind : first.kind = second.kind)
    (index : first.index = second.index) (pattern : first.pattern = second.pattern)
    (enabled : first.enabled = second.enabled) (pending : first.pending = second.pending)
    (last : first.last = second.last) : first = second := by
  have id := id_eq_of_pattern pattern
  cases first
  cases second
  simp_all

/-- A filter that is on and has read nothing. -/
def new (kind : FilterKind) (index : place) (pattern : Pattern) : Filter place :=
  { kind, index, pattern, named := rfl }

section

variable (kind : FilterKind) (index : place) (pattern : Pattern)

@[simp] theorem kind_new : (new kind index pattern).kind = kind := rfl

@[simp] theorem index_new : (new kind index pattern).index = index := rfl

@[simp] theorem pattern_new : (new kind index pattern).pattern = pattern := rfl

@[simp] theorem id_new : (new kind index pattern).id = pattern.source := rfl

@[simp] theorem enabled_new : (new kind index pattern).enabled = true := rfl

end

/-- The filter at another place. -/
def moveTo {other : Type} (filter : Filter place) (index : other) : Filter other :=
  { filter with index }

/-- The command that creates the filter. -/
def render (filter : Filter place) : String := filter.kind.command ++ " " ++ filter.pattern.source

def isMatch (filter : Filter place) (line : Bytes) : Bool := filter.pattern.isMatch line

def setEnabled (filter : Filter place) (enabled : Bool) : Filter place := { filter with enabled }

def setKind (filter : Filter place) (kind : FilterKind) : Filter place := { filter with kind }

/-- Leave the open message unread. -/
def discardPending (filter : Filter place) : Filter place := { filter with pending := {} }

/-- Forget the open message and the last one. -/
def reset (filter : Filter place) : Filter place := { filter with pending := {}, last := none }

/-- Change the pattern and forget all messages. -/
def replacePattern (filter : Filter place) (pattern : Pattern) : Filter place :=
  { filter.reset with pattern, id := pattern.source, named := rfl }

/-- Read one more line of the open message. -/
def addLine (filter : Filter place) (line : Bytes) : Filter place :=
  { filter with
    pending := ⟨filter.pending.matched || filter.isMatch line, filter.pending.lines + 1⟩ }

/-- End the open message and stamp its decision on its lines. -/
def endMessage (filter : Installed) (state : FilterState) :
    Except Fault (Installed × FilterState) := do
  let message := filter.pending
  let state := state.resize (state.count filter.index + message.lines)
  let state ← state.stampLines filter.index message.matched message.lines
  return ({ filter with pending := {}, last := some message }, state)

/-- End the open message if it has lines. -/
def settle (filter : Installed) (state : FilterState) : Except Fault (Installed × FilterState) :=
  if filter.pending.lines > 0 then filter.endMessage state else .ok (filter, state)

/-- Take back the last decision and open its message again, all lines included.  Nothing happens if
no decision can be taken back.  Where fewer lines are stamped than the message had, it is reopened
with these.  Answers how many lines were put back into the open message. -/
def reopen (filter : Installed) (state : FilterState) :
    Except Fault (Nat × Installed × FilterState) :=
  match filter.last with
  | none => .ok (0, filter, state)
  | some message => do
    let (lines, state) ← state.takeBack filter.index message.matched message.lines
    return (lines, { filter with pending := ⟨message.matched && lines > 0, lines⟩, last := none },
      state)

/-- Take back the last decision and open its message again without its last line, so that this line
can be read anew. -/
def stepBack (filter : Installed) (state : FilterState) :
    Except Fault (Installed × FilterState) := do
  let (lines, filter, state) ← filter.reopen state
  if lines = 0 then return (filter, state)
  else
    let message : Message := ⟨filter.pending.matched && lines > 1, lines - 1⟩
    return ({ filter with pending := message }, state)

/-! ### Filters that are not installed -/

/-- Let a filter act at the place that its number names. -/
def atSlot (act : Installed → FilterState → Except Fault (Installed × FilterState))
    (filter : Filter Nat) (state : FilterState) : Except Fault (Filter Nat × FilterState) := do
  let slot ← Slot.ofIndex filter.index
  let (filter, state) ← act (filter.moveTo slot) state
  return (filter.moveTo slot.val, state)

/-- The bit of the filter in the mask of every line. -/
def bit (filter : Filter Nat) : Except Fault Mask := (Slot.ofIndex filter.index).map Slot.bit

/-- End the open message of a filter that is not installed. -/
def endMessageAt (filter : Filter Nat) (state : FilterState) :
    Except Fault (Filter Nat × FilterState) := filter.atSlot endMessage state

/-- Take back the last decision of a filter that is not installed.  One without such a decision
needs no place. -/
def stepBackAt (filter : Filter Nat) (state : FilterState) :
    Except Fault (Filter Nat × FilterState) :=
  if filter.last.isNone then .ok (filter, state) else filter.atSlot stepBack state

end Filter

end LogLens
