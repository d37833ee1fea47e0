/-
Module: LogLens.Proofs.Repeating
Purpose: A refresh after a refresh on the same log.  The first one leaves nothing to do: no column is
  to be emptied, no line to be stamped, no message to be ended, and it is known which lines are seen.
  The second one therefore ends where it began.
Main exports: Engine.Tidy.sync_eq, Engine.UpToDate, Engine.UpToDate.refresh_eq,
  Engine.Ordered.refresh_upToDate, Engine.refresh_again
-/
import LogLens.Proofs.Resuming
import LogLens.Regex.Compile

namespace LogLens.Engine

variable {engine : Engine}

/-- There is nothing in a tidy engine that could be emptied. -/
theorem Tidy.sync_eq (tidy : engine.Tidy) : engine.sync = engine := by
  have registry : engine.sync.registry = engine.registry := by
    rw [show engine.sync.registry = { engine.registry with dirty := 0 } from rfl, ← tidy.dirty]
  have state : engine.sync.state = engine.state := by
    apply FilterState.ext_columns (bounded_sync tidy.bounded) tidy.bounded rfl (length_sync engine)
    intro slot
    by_cases used : slot ∈ engine.places
    · obtain ⟨filter, member, rfl⟩ := List.mem_map.1 used
      rw [column_sync member, tidy.dirty, Mask.has_zero, if_neg Bool.false_ne_true]
    · rw [column_sync_of_unused used, tidy.unused slot used]
  calc engine.sync
      = { engine with registry := engine.sync.registry, state := engine.sync.state } := rfl
    _ = engine := by rw [registry, state]

/-- Nothing is left to do on a log of the given length. -/
structure UpToDate (engine : Engine) (lineCount : Nat) : Prop extends engine.Tidy where
  room : lineCount ≤ engine.state.length
  allClosed : ∀ filter ∈ engine.registry.filters, filter.pending.lines = 0
  stamped : ∀ filter ∈ engine.registry.filters, lineCount ≤ engine.state.count filter.index
  shown : (engine.rebuild lineCount).visible = engine.visible

/-- Rebuilding an engine that is up to date changes nothing. -/
theorem UpToDate.rebuild_eq {lineCount : Nat} (upToDate : engine.UpToDate lineCount) :
    engine.rebuild lineCount = engine := by
  calc engine.rebuild lineCount
      = { engine with visible := (engine.rebuild lineCount).visible } := rfl
    _ = engine := by rw [upToDate.shown]

/-- All lines of the log are behind all filters. -/
theorem UpToDate.observeAll_eq {lines : List RawLine} (upToDate : engine.UpToDate lines.length) :
    engine.observeAll 0 lines = .ok engine := by
  have behind : ∀ filter ∈ engine.registry.filters,
      0 + lines.length ≤ filter.position engine.state := by
    intro filter member
    rw [Nat.zero_add]
    exact (upToDate.stamped filter member).trans (Nat.le_add_right _ _)
  have skips := observeAll_behind ((Nat.zero_add lines.length).symm ▸ upToDate.room) behind []
  rw [List.append_nil] at skips
  exact skips

/-- A refresh with nothing to do changes nothing. -/
theorem UpToDate.refresh_eq {source : Source} (upToDate : engine.UpToDate source.lines.length) :
    engine.refresh source = .ok engine := by
  rw [← refreshFrom_of_le (Nat.zero_le _), refreshFrom_eq_readOut, upToDate.sync_eq,
    FilterState.resize_of_le upToDate.room, List.drop_zero]
  simp only [readOut, upToDate.observeAll_eq, bind, Except.bind,
    endOfFile_of_closed upToDate.allClosed, Except.map, upToDate.rebuild_eq]

/-- A refresh leaves nothing to do, whether the filters had stamped fewer lines or more than the log
has. -/
theorem Ordered.refresh_upToDate (ordered : engine.Ordered) (source : Source) :
    ∃ after, engine.refresh source = .ok after ∧ after.UpToDate source.lines.length := by
  obtain ⟨after, refreshes, tidy, room, allClosed, moves⟩ := ordered.refresh_moves source
  refine ⟨_, refreshes, ⟨tidy.rebuild _, room, allClosed, ?_, rfl⟩⟩
  intro filter' member
  obtain ⟨filter, _, _, moved⟩ := exists_left_of_forall₂ moves member
  rw [Filter.position, allClosed filter' member, Nat.add_zero] at moved
  exact (Nat.le_max_left _ _).trans moved.ge

/-- A refresh that is repeated on the same log changes nothing: no result, no filter and no line that
is seen. -/
theorem refresh_again (ordered : engine.Ordered) (source : Source) :
    ∃ after, engine.refresh source = .ok after ∧ after.refresh source = .ok after := by
  obtain ⟨after, refreshes, upToDate⟩ := ordered.refresh_upToDate source
  exact ⟨after, refreshes, upToDate.refresh_eq⟩

/-- A filter has ended the message of the last line, which the log continues meanwhile.  Its column is
noted to be emptied, though it can still open that message again; another filter has read nothing and
a third is off. -/
theorem refresh_again_stale :
    let log : Source := ⟨"a.log", [⟨[98], true⟩, ⟨[97], true⟩, ⟨[98], false⟩]⟩
    let grown : Source := ⟨"a.log", log.lines ++ [⟨[97], false⟩]⟩
    let operations : List Operation := [.change (.addPattern .keep "b" false),
      .change (.addPattern .hide "a" false), .newLines log 0 3, .endOfFile,
      .change (.setEnabled "a" false), .change (.addPattern .hide "c" false)]
    ∃ engine after, operations.foldlM perform (Engine.new "a.log") = .ok engine ∧
      (engine.registry.filters.map fun filter =>
        (engine.registry.dirty.has filter.index, filter.last, engine.state.count filter.index)) =
        [(true, some ⟨true, 2⟩, 3), (true, some ⟨true, 2⟩, 3), (true, none, 0)] ∧
      engine.refresh grown = .ok after ∧ after.refresh grown = .ok after := by
  intro log grown operations
  have standing : (operations.foldlM perform (Engine.new "a.log")).map (fun engine =>
      engine.registry.filters.map fun filter =>
        (engine.registry.dirty.has filter.index, filter.last, engine.state.count filter.index)) =
      .ok [(true, some ⟨true, 2⟩, 3), (true, some ⟨true, 2⟩, 3), (true, none, 0)] := by
    decide +kernel
  obtain ⟨engine, runs, stands⟩ := ok_of_map standing
  obtain ⟨after, refreshes, again⟩ := refresh_again (ordered_run runs) grown
  exact ⟨engine, after, runs, stands, refreshes, again⟩

end LogLens.Engine
