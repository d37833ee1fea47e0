/-
Module: LogLens.Proofs.Operating
Purpose: All that can be done with an engine.  Every operation keeps its filters at places and under
  names of their own and its columns within the masks, so that it is told of each what the filters
  read further or which of them changes.
Main exports: Engine.Operation, Engine.perform, Engine.Ordered, Engine.Ordered.delivers,
  Engine.Ordered.revise_alters, Engine.ordered_run
-/
import LogLens.Proofs.Incremental
import LogLens.Proofs.Revising

namespace LogLens.Engine

/-! ### Operations -/

/-- What can be done with an engine. -/
inductive Operation where
  | change (change : Registry.Change)
  | observe (number : Nat) (line : RawLine)
  | newLines (source : Source) (first stop : Nat)
  | endOfFile
  | sync
  | room (length : Nat)
  | rebuild (lineCount : Nat)
  | revise (id : String) (source : Source)
  | reset (logfile : String)

/-- Do it.  What is refused changes nothing. -/
def perform [PatternCompiler] (engine : Engine) : Operation → Except Fault Engine
  | .change change => .ok { engine with registry := engine.registry.change change }
  | .observe number line => engine.observe number line
  | .newLines source first stop => engine.newLines source first stop
  | .endOfFile => engine.endOfFile
  | .sync => .ok engine.sync
  | .room length => .ok { engine with state := engine.state.resize length }
  | .rebuild lineCount => .ok (engine.rebuild lineCount)
  | .revise id source => (engine.revise id source).map fun result => result.toOption.getD engine
  | .reset logfile => .ok (engine.reset logfile)

/-- No column is longer than the masks, none holds a mark behind its lines, and no two filters have
one place or one name. -/
structure Ordered (engine : Engine) : Prop where
  bounded : engine.state.Bounded
  wellFormed : engine.registry.WellFormed

variable {engine next : Engine}

theorem ordered_new (logfile : String) : (Engine.new logfile).Ordered :=
  ⟨FilterState.bounded_new logfile, Registry.wellFormed_empty⟩

/-- Driving the filters keeps the cursors ordered. -/
theorem Ordered.of_drives (ordered : engine.Ordered) {further : Nat → List RawLine} {room : Nat}
    (drives : Drives further room engine next) : next.Ordered :=
  ⟨drives.bounded, ordered.wellFormed.of_alike drives.alike⟩

/-- There is a position that no filter is ahead of. -/
theorem exists_position_le (filters : List Installed) (state : FilterState) :
    ∃ room, ∀ filter ∈ filters, filter.position state ≤ room := by
  induction filters with
  | nil => exact ⟨0, List.forall_mem_nil _⟩
  | cons filter rest ih =>
      obtain ⟨room, each⟩ := ih
      refine ⟨max (filter.position state) room, List.forall_mem_cons.2 ⟨Nat.le_max_left _ _, ?_⟩⟩
      exact fun other inRest => (each other inRest).trans (Nat.le_max_right _ _)

/-- Whether an operation lets filters read lines, or ends their messages. -/
def Operation.Delivers : Operation → Prop
  | .observe _ _ | .newLines _ _ _ | .endOfFile => True
  | _ => False

/-- What a filter at a position reads further. -/
def Operation.further : Operation → Nat → List RawLine
  | .observe number line, position => if number = position then [line] else []
  | .newLines source first stop, position =>
    if position < first then []
    else ((source.lines.drop first).take (stop - first)).drop (position - first)
  | _, _ => []

/-- What is delivered, the filters read on. -/
theorem Ordered.delivers [PatternCompiler] (ordered : engine.Ordered) {operation : Operation}
    (delivers : operation.Delivers) (performs : engine.perform operation = .ok next) :
    ∃ room, Drives operation.further room engine next := by
  obtain ⟨bounded, wellFormed⟩ := ordered
  cases operation with
  | observe number line =>
      obtain ⟨after, observes, drives, _⟩ := observe_drives bounded wellFormed.places number line
      rw [perform, observes] at performs
      cases performs
      exact ⟨_, drives⟩
  | newLines source first stop =>
      obtain ⟨after, observes, drives⟩ := observeAll_drives bounded wellFormed.places first
        ((source.lines.drop first).take (stop - first))
      rw [perform, newLines, observes] at performs
      split at performs
      · cases performs
      · cases performs
        exact ⟨_, drives⟩
  | endOfFile =>
      obtain ⟨room, fits⟩ := exists_position_le engine.registry.filters engine.state
      obtain ⟨after, ends, drives, _⟩ := endOfFile_drives bounded wellFormed.places fits
      rw [perform, ends] at performs
      cases performs
      exact ⟨room, drives⟩
  | change _ | sync | room _ | rebuild _ | revise _ _ | reset _ => exact delivers.elim

/-- A revision changes one filter and its column, and room for lines. -/
theorem Ordered.revise_alters (ordered : engine.Ordered) (source : Source) {filter : Installed}
    (member : filter ∈ engine.registry.filters) (aligned : engine.checkAligned = .ok ()) :
    ∃ front back filter' column length state,
      engine.registry.filters = front ++ filter :: back ∧
      engine.revise filter.id source =
        .ok (.ok ((engine.put (front ++ filter' :: back) state).rebuild source.lines.length)) ∧
      filter.Alike filter' ∧
      FilterState.Alters filter.index column length engine.state state ∧
      engine.state.length ≤ length ∧
      length ≤ max engine.state.length (filter.position engine.state) ∧ filter'.pending.lines = 0 ∧
      ∀ heard, filter.Reads {} (engine.state.column filter.index) heard →
        (source.lines.take heard.length).map RawLine.starts = heard.map RawLine.starts →
        filter'.Reads {} column (reread heard source.lines) := by
  have found : engine.registry.find? filter.id = some filter :=
    Registry.find?_of_nodup Filter.id ordered.wellFormed.names member
  obtain ⟨front, back, whole, _, first⟩ := Registry.between_of_find? found
  obtain ⟨filter', column, length, state, revises, alike, alters, grows, fits, closed, reads⟩ :=
    filter.revise_leads ordered.bounded source
  exact ⟨front, back, filter', column, length, state, whole,
    revise_of_between whole first aligned revises, alike, alters, grows, fits, closed, reads⟩

/-- A revision that is not refused was asked of filters at one position and of one of them. -/
theorem of_revise_eq_ok {id : String} {source : Source}
    (revises : engine.revise id source = .ok (.ok next)) :
    engine.checkAligned = .ok () ∧ ∃ filter, engine.registry.find? id = some filter := by
  unfold revise at revises
  split at revises
  next => cases revises
  next => cases revises
  next filter aligned found => exact ⟨aligned, filter, found⟩

/-- Every operation keeps an engine in order. -/
theorem Ordered.perform [PatternCompiler] (ordered : engine.Ordered) {operation : Operation}
    (performs : engine.perform operation = .ok next) : next.Ordered := by
  have delivered : operation.Delivers → next.Ordered := by
    intro delivers
    obtain ⟨room, drives⟩ := ordered.delivers delivers performs
    exact ordered.of_drives drives
  cases operation with
  | observe _ _ | newLines _ _ _ | endOfFile => exact delivered trivial
  | change change =>
      cases performs
      exact ⟨ordered.bounded, (Registry.change_evolves ordered.wellFormed change).wellFormed⟩
  | sync =>
      cases performs
      exact ⟨bounded_sync ordered.bounded, ⟨ordered.wellFormed.places, ordered.wellFormed.names⟩⟩
  | room length =>
      cases performs
      exact ⟨ordered.bounded.resize length, ordered.wellFormed⟩
  | rebuild lineCount =>
      cases performs
      exact ⟨ordered.bounded, ordered.wellFormed⟩
  | revise id source =>
      obtain ⟨result, revises, rfl⟩ := ok_of_map performs
      cases result with
      | error e => exact ordered
      | ok next =>
          obtain ⟨aligned, filter, found⟩ := of_revise_eq_ok revises
          obtain ⟨_, _, _, named, _⟩ := Registry.between_of_find? found
          obtain ⟨front, back, filter', _, _, state, whole, revisesSame, alike, alters, _⟩ :=
            ordered.revise_alters source (List.mem_of_find?_eq_some found) aligned
          rw [named, revises] at revisesSame
          cases revisesSame
          refine ⟨alters.bounded, ordered.wellFormed.of_alike ?_⟩
          rw [whole]
          exact forall₂_alike_around front back alike
  | reset logfile =>
      cases performs
      refine ⟨FilterState.bounded_new logfile, ordered.wellFormed.of_alike ?_⟩
      refine List.forall₂_map_right_iff.2 (List.forall₂_same.2 ?_)
      exact fun filter _ => filter.alike_reset

/-- Whatever is done with a new engine, it is in order. -/
theorem ordered_run [PatternCompiler] {logfile : String} {operations : List Operation}
    (runs : operations.foldlM Engine.perform (Engine.new logfile) = .ok engine) : engine.Ordered :=
  foldlM_keeps (fun _ _ _ _ ordered performs => Ordered.perform ordered performs)
    (ordered_new logfile) runs

end LogLens.Engine
