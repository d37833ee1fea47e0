/-
Module: LogLens.Filter.Engine
Purpose: Driving all filters over the lines of one log.  Every filter reads each line once and in
  order, whatever lines are delivered and however often; lines it has not read are skipped until
  they come again.
Main exports: RawLine, Source, Engine, Engine.observe, Engine.newLines, Engine.endOfFile,
  Engine.sync, Engine.refresh, Engine.rebuild, Engine.revise
-/
import LogLens.Filter.Registry

namespace LogLens

/-- A line as the filters read it. -/
structure RawLine where
  bytes : Bytes
  /-- Whether the line begins a message; other lines continue the one before. -/
  starts : Bool
deriving Repr, DecidableEq

/-- The lines of a log. -/
structure Source where
  name : String
  lines : List RawLine
deriving Repr

/-- The filters, what they have found on the lines of a log, and the lines that are seen. -/
structure Engine where
  registry : Registry := {}
  state : FilterState
  /-- The numbers of the lines that were seen at the last rebuild, in order. -/
  visible : List Nat := []
deriving Repr

/-- Let each filter in turn act on the state. -/
def driveAll (act : Installed → FilterState → Except Fault (Installed × FilterState)) :
    List Installed → FilterState → Except Fault (List Installed × FilterState)
  | [], state => .ok ([], state)
  | filter :: rest, state => do
    let (filter, state) ← act filter state
    let (rest, state) ← driveAll act rest state
    return (filter :: rest, state)

namespace Filter

/-- The number of lines that a filter has read: those stamped and those of the open message. -/
def position (filter : Installed) (state : FilterState) : Nat :=
  state.count filter.index + filter.pending.lines

/-- Make ready for a line: one that begins a message ends the open one, and one that continues a
message already stamped opens it again, so that all lines of a message share one decision. -/
def prepare (starts : Bool) (filter : Installed) (state : FilterState) :
    Except Fault (Installed × FilterState) :=
  if starts then filter.settle state
  else if filter.pending.lines = 0 then (filter.reopen state).map Prod.snd
  else .ok (filter, state)

/-- Read a line if it is the next one for the filter. -/
def observe (number : Nat) (line : RawLine) (filter : Installed) (state : FilterState) :
    Except Fault (Installed × FilterState) :=
  if number ≠ filter.position state then .ok (filter, state)
  else (filter.prepare line.starts state).map fun (filter, state) =>
    (filter.addLine line.bytes, state)

end Filter

namespace Engine

/-- No filters and no lines. -/
def new (logfile : String) : Engine := { state := FilterState.new logfile }

/-- Let each filter in turn act on the state. -/
def drive (engine : Engine)
    (act : Installed → FilterState → Except Fault (Installed × FilterState)) :
    Except Fault Engine :=
  (driveAll act engine.registry.filters engine.state).map fun (filters, state) =>
    { engine with registry := { engine.registry with filters }, state }

/-- Let every filter read a line, unless it has read it or has not come to it. -/
def observe (engine : Engine) (number : Nat) (line : RawLine) : Except Fault Engine :=
  { engine with state := engine.state.resize (number + 1) }.drive (Filter.observe number line)

/-- Let the filters read consecutive lines, the first of which has the given number. -/
def observeAll (engine : Engine) : Nat → List RawLine → Except Fault Engine
  | _, [] => .ok engine
  | number, line :: rest => do
    let engine ← engine.observe number line
    observeAll engine (number + 1) rest

/-- Let the filters read the lines from `first` up to but not including `stop`, which must exist. -/
def newLines (engine : Engine) (source : Source) (first stop : Nat) : Except Fault Engine :=
  if first < stop ∧ source.lines.length < stop then .error (.noSuchLine source.lines.length)
  else engine.observeAll first ((source.lines.drop first).take (stop - first))

/-- End the message that each filter still has open. -/
def endOfFile (engine : Engine) : Except Fault Engine := engine.drive Filter.settle

/-- The least number of lines that a filter has stamped, but no more than the given number. -/
def minCount (engine : Engine) (most : Nat) : Nat :=
  engine.registry.filters.foldl (fun n filter => min n (engine.state.count filter.index)) most

/-- Forget the decisions of filters that were added, changed or deleted. -/
def sync (engine : Engine) : Engine :=
  let (dirty, registry) := engine.registry.takeDirty
  { engine with registry, state := (engine.state.forget dirty).retain registry.usedMask }

/-- Whether a line is seen, by the masks as they stand. -/
def sees (engine : Engine) (line : Nat) : Bool :=
  let (kept, hidden) := engine.registry.enabledMasks
  !engine.state.isHidden kept hidden line

/-- Find out which of the given number of lines are seen. -/
def rebuild (engine : Engine) (lineCount : Nat) : Engine :=
  { engine with visible := (List.range lineCount).filter engine.sees }

/-- Bring every filter up to date and find out which lines are seen.  Only the lines behind those
that all filters have stamped are read again. -/
def refresh (engine : Engine) (source : Source) : Except Fault Engine := do
  let engine := engine.sync
  let lineCount := source.lines.length
  let first := engine.minCount lineCount
  let engine := { engine with state := engine.state.resize lineCount }
  let engine ← engine.newLines source first lineCount
  let engine ← engine.endOfFile
  return engine.rebuild lineCount

/-- The places of the filters that have not read as far as the furthest one. -/
def diverged (engine : Engine) : List Nat :=
  let positions := engine.registry.filters.map fun f => (f.index.val, f.position engine.state)
  let front := positions.foldl (fun n p => max n p.2) 0
  (positions.filter fun p => p.2 ≠ front).map Prod.fst

/-- Refuse if some filter has not read as far as the others. -/
def checkAligned (engine : Engine) : Except FilterError Unit :=
  if engine.diverged.isEmpty then .ok () else .error (.divergentCounters engine.diverged)

end Engine

/-- Take back the last decision of a filter and decide anew on that message, as its lines now read
in the source. -/
def Filter.revise (source : Source) (filter : Installed) (state : FilterState) :
    Except Fault (Installed × FilterState) := do
  let (filter, state) ← filter.settle state
  let (taken, filter, state) ← filter.reopen state
  let lines := (source.lines.drop (state.count filter.index)).take taken
  let filter := lines.foldl (fun f line => f.addLine line.bytes) filter.discardPending
  filter.settle state

namespace Engine

/-- Revise the last message of one filter.  All filters must have read equally far, so that they
have again when this is done. -/
def revise (engine : Engine) (id : String) (source : Source) :
    Except Fault (Except FilterError Engine) :=
  match engine.checkAligned, engine.registry.find? id with
  | .error e, _ => .ok (.error e)
  | .ok (), none => .ok (.error (.unknownFilter id))
  | .ok (), some filter => do
    let (revised, state) ← filter.revise source engine.state
    let filters := Registry.modifyFirst (·.id == id) (fun _ => revised) engine.registry.filters
    let engine := { engine with registry := { engine.registry with filters }, state }
    return .ok (engine.rebuild source.lines.length)

/-- Forget all lines and turn to another log.  The filters stay. -/
def reset (engine : Engine) (logfile : String) : Engine :=
  { registry := { engine.registry with filters := engine.registry.filters.map Filter.reset }
    state := engine.state.clear.attach logfile
    visible := [] }

end Engine

end LogLens
