/-
Module: LogLens.Proofs.Revising
Purpose: A last line that changes its text.  A filter that has read all lines takes its last decision
  back, reads the lines of that message anew and decides again, so that it stands as if the line had
  always read so; the filters do so one at a time, and at no time do their positions differ.
Main exports: Amended, Filter.revise_amended, Engine.Stage, LogView.reviseAll_ok
-/
import LogLens.Proofs.Refreshing
import LogLens.Proofs.Rereading
import LogLens.View.Basic

namespace LogLens

/-- The last line has another text and begins a message if it did before. -/
def Amended (lines lines' : List RawLine) : Prop :=
  ∃ front line line', lines = front ++ [line] ∧ lines' = front ++ [line'] ∧
    line'.starts = line.starts

/-- Amending the last line adds no line. -/
theorem Amended.length_eq {lines lines' : List RawLine} (amended : Amended lines lines') :
    lines'.length = lines.length := by
  obtain ⟨front, line, line', rfl, rfl, _⟩ := amended
  rw [List.length_append, List.length_append, List.length_singleton, List.length_singleton]

theorem Amended.ne_nil {lines lines' : List RawLine} (amended : Amended lines lines') :
    lines ≠ [] := by
  obtain ⟨front, line, line', rfl, _, _⟩ := amended
  exact List.concat_ne_nil line front

/-- A message that is read anew where its last line was amended. -/
theorem Amended.reread_eq {lines lines' : List RawLine} (amended : Amended lines lines') :
    reread lines lines' = lines' := by
  have inFront := lastStart_lt amended.ne_nil
  have length := amended.length_eq
  obtain ⟨front, line, line', rfl, rfl, _⟩ := amended
  rw [List.length_append, List.length_singleton] at inFront
  rw [reread, ← length, List.take_length, List.take_append_of_le_length (by omega),
    List.drop_append_of_le_length (by omega), ← List.append_assoc, List.take_append_drop]

/-- Amending the last line does not change where messages start. -/
theorem Amended.starts_eq {lines lines' : List RawLine} (amended : Amended lines lines') :
    lines'.map RawLine.starts = lines.map RawLine.starts := by
  obtain ⟨front, line, line', rfl, rfl, starts⟩ := amended
  rw [List.map_append, List.map_append, List.map_singleton, List.map_singleton, starts]

namespace Filter

theorem settle_of_closed {filter : Installed} (closed : filter.pending.lines = 0)
    (state : FilterState) : filter.settle state = .ok (filter, state) := by
  rw [settle, if_neg]
  rw [closed]
  exact Nat.lt_irrefl 0

/-- A filter that has read all lines and decided on them does so on the lines as they now read. -/
theorem revise_amended {filter : Installed} {before : FilterState} (bounded : before.Bounded)
    {source : Source} {lines : List RawLine} (allClosed : filter.pending.lines = 0)
    (reads : filter.Reads {} (before.column filter.index) lines)
    (amended : Amended lines source.lines) :
    filter.Leads before before.length (filter.revise source before) fun filter' column =>
      filter'.pending.lines = 0 ∧ filter'.Reads {} column source.lines := by
  obtain ⟨filter', column, length, after, revises, alike, alters, grows, fits, closed, rereads⟩ :=
    filter.revise_leads bounded source
  have counted := bounded.count_le filter.index
  rw [position, allClosed] at fits
  refine ⟨filter', column, length, after, revises, alike, alters, grows, by omega, closed, ?_⟩
  have starts : (source.lines.take lines.length).map RawLine.starts = lines.map RawLine.starts := by
    rw [← amended.length_eq, List.take_length, amended.starts_eq]
  have readsNow := rereads lines reads starts
  rw [amended.reread_eq] at readsNow
  exact readsNow

end Filter

namespace Engine

variable {engine : Engine}

/-- Where all messages are closed, the end of the log changes nothing. -/
theorem endOfFile_of_closed
    (allClosed : ∀ filter ∈ engine.registry.filters, filter.pending.lines = 0) :
    engine.endOfFile = .ok engine :=
  drive_idle fun filter member => Filter.settle_of_closed (allClosed filter member) _

/-! ### Equal positions -/

theorem foldl_max_eq {positions : List (Nat × Nat)} {position start : Nat}
    (all : ∀ p ∈ positions, p.2 = position) (notAhead : start ≤ position)
    (some : positions ≠ []) : positions.foldl (fun n p => max n p.2) start = position := by
  induction positions generalizing start with
  | nil => exact absurd rfl some
  | cons first rest ih =>
      have isFirst := all first (List.mem_cons_self ..)
      rw [List.foldl_cons, isFirst, Nat.max_eq_right notAhead]
      by_cases none : rest = []
      · rw [none, List.foldl_nil]
      · exact ih (fun p member => all p (List.mem_cons_of_mem _ member)) (Nat.le_refl _) none

/-- Filters at one position do not diverge. -/
theorem checkAligned_ok {position : Nat}
    (all : ∀ filter ∈ engine.registry.filters, filter.position engine.state = position) :
    engine.checkAligned = .ok () := by
  have allPairs : ∀ p ∈ engine.registry.filters.map fun filter =>
      (filter.index.val, filter.position engine.state), p.2 = position := by
    intro p member
    obtain ⟨filter, isFilter, rfl⟩ := List.mem_map.1 member
    exact all filter isFilter
  have aligned : engine.diverged = [] := by
    unfold diverged
    rw [List.map_eq_nil_iff, List.filter_eq_nil_iff]
    intro p member
    rw [foldl_max_eq allPairs (Nat.zero_le _) (List.ne_nil_of_mem member), allPairs p member]
    simp
  rw [checkAligned, aligned]
  rfl

/-- The engine with other filters in their places, and other results. -/
def put (engine : Engine) (filters : List Installed) (state : FilterState) : Engine :=
  { engine with registry := { engine.registry with filters }, state }

/-- Where no filter is behind the others, the filter of a name is revised where it stands. -/
theorem revise_of_between {source : Source} {front back : List Installed}
    {filter filter' : Installed} {after : FilterState}
    (whole : engine.registry.filters = front ++ filter :: back)
    (first : ∀ other ∈ front, other.id ≠ filter.id) (aligned : engine.checkAligned = .ok ())
    (revises : filter.revise source engine.state = .ok (filter', after)) :
    engine.revise filter.id source =
      .ok (.ok ((engine.put (front ++ filter' :: back) after).rebuild source.lines.length)) := by
  have found : engine.registry.find? filter.id = some filter :=
    Registry.find?_of_between whole rfl first
  have modified : Registry.modifyFirst (·.id == filter.id) (fun _ => filter')
      engine.registry.filters = front ++ filter' :: back := by
    rw [whole]
    apply Registry.modifyFirst_append
    · exact beq_self_eq_true _
    · intro other inFront
      rw [beq_eq_false_iff_ne]
      exact first other inFront
  simp only [Engine.revise, aligned, found, revises, modified, bind, Except.bind]
  rfl

/-- Some filters have read the lines as they were and the others, in front of them, the lines as
they are now.  All messages are closed. -/
structure Stage (engine : Engine) (old new : List RawLine) (done todo : List Installed) : Prop where
  tidy : engine.Tidy
  filters : engine.registry.filters = done ++ todo
  allClosed : ∀ filter ∈ engine.registry.filters, filter.pending.lines = 0
  hasReadNew : ∀ filter ∈ done, filter.Reads {} (engine.state.column filter.index) new
  hasReadOld : ∀ filter ∈ todo, filter.Reads {} (engine.state.column filter.index) old

/-- At every stage of the revision each filter stands behind the last line. -/
theorem Stage.position_eq {old new : List RawLine} {done todo : List Installed}
    (stage : engine.Stage old new done todo) (amended : Amended old new) {filter : Installed}
    (member : filter ∈ engine.registry.filters) :
    filter.position engine.state = old.length := by
  have read : ∃ lines, lines.length = old.length ∧
      filter.Reads {} (engine.state.column filter.index) lines := by
    rw [stage.filters] at member
    rcases List.mem_append.1 member with isDone | isTodo
    · exact ⟨new, amended.length_eq, stage.hasReadNew filter isDone⟩
    · exact ⟨old, rfl, stage.hasReadOld filter isTodo⟩
  obtain ⟨lines, length, reads⟩ := read
  rw [reads.position_of, Column.count_empty, Nat.zero_add, length]

/-- A filter among others is replaced by one that is like it. -/
theorem forall₂_alike_around (front back : List Installed) {filter filter' : Installed}
    (alike : filter.Alike filter') :
    List.Forall₂ Filter.Alike (front ++ filter :: back) (front ++ filter' :: back) :=
  List.rel_append (List.forall₂_same.2 fun other _ => Filter.Alike.refl other)
    (.cons alike (List.forall₂_same.2 fun other _ => Filter.Alike.refl other))

/-- The next filter in turn has decided anew. -/
theorem Stage.step {old new : List RawLine} {done rest : List Installed}
    {filter filter' : Installed} (stage : engine.Stage old new done (filter :: rest))
    {column : Column} {length : Nat} {after : FilterState} (alike : filter.Alike filter')
    (alters : FilterState.Alters filter.index column length engine.state after)
    (closed : filter'.pending.lines = 0) (reads : filter'.Reads {} column new) :
    ({ engine with
      registry := { engine.registry with filters := done ++ filter' :: rest }
      state := after } : Engine).Stage old new (done ++ [filter']) rest := by
  have places := stage.tidy.wellFormed.places
  rw [stage.filters] at places
  have kept : ∀ other ∈ done ++ rest,
      after.column other.index = engine.state.column other.index :=
    fun other inRest => alters.other other.index (Registry.ne_of_nodup Filter.index places inRest)
  have alikeAll : List.Forall₂ Filter.Alike engine.registry.filters (done ++ filter' :: rest) := by
    rw [stage.filters]
    exact forall₂_alike_around done rest alike
  have samePlaces := Filter.map_eq_of_alike Filter.Alike.index alikeAll
  refine ⟨⟨alters.bounded, stage.tidy.wellFormed.of_alike alikeAll, stage.tidy.dirty, ?_⟩, ?_, ?_,
    ?_, ?_⟩
  · intro slot unused
    rw [Engine.places, samePlaces] at unused
    have apart : slot ≠ filter.index := by
      rintro rfl
      apply unused
      rw [stage.filters]
      exact List.mem_map_of_mem (List.mem_append_right done (List.mem_cons_self ..))
    exact (alters.other slot apart).trans (stage.tidy.unused slot unused)
  · rw [List.append_assoc]
    rfl
  · intro other member
    rcases List.mem_append.1 member with isDone | isTodo
    · apply stage.allClosed other
      rw [stage.filters]
      exact List.mem_append_left _ isDone
    · rcases List.mem_cons.1 isTodo with rfl | inRest
      · exact closed
      · apply stage.allClosed other
        rw [stage.filters]
        exact List.mem_append_right _ (List.mem_cons_of_mem _ inRest)
  · intro other isDone
    rcases List.mem_append.1 isDone with wasDone | isNew
    · rw [kept other (List.mem_append_left rest wasDone)]
      exact stage.hasReadNew other wasDone
    · rw [List.mem_singleton.1 isNew, alike.index, alters.own]
      exact reads
  · intro other isTodo
    rw [kept other (List.mem_append_right done isTodo)]
    exact stage.hasReadOld other (List.mem_cons_of_mem _ isTodo)

/-- The next filter in turn is revised. -/
theorem Stage.revise {source : Source} {old : List RawLine} {done rest : List Installed}
    {filter : Installed} (stage : engine.Stage old source.lines done (filter :: rest))
    (amended : Amended old source.lines) :
    ∃ (next : Engine) (filter' : Installed), engine.revise filter.id source =
        .ok (.ok (next.rebuild source.lines.length)) ∧
      next.Stage old source.lines (done ++ [filter']) rest ∧ engine.Rereads 0 next := by
  have member : filter ∈ engine.registry.filters := by
    rw [stage.filters]
    exact List.mem_append_right done (List.mem_cons_self ..)
  obtain ⟨filter', column, length, after, revises, alike, alters, grows, fits, closed, reads⟩ :=
    Filter.revise_amended stage.tidy.bounded (stage.allClosed filter member)
      (stage.hasReadOld filter (List.mem_cons_self ..)) amended
  have first : ∀ other ∈ done, other.id ≠ filter.id := by
    have names := stage.tidy.wellFormed.names
    rw [stage.filters] at names
    exact fun other isDone => Registry.ne_of_nodup Filter.id names (List.mem_append_left rest isDone)
  have aligned := checkAligned_ok fun filter member => stage.position_eq amended member
  refine ⟨_, filter', revise_of_between stage.filters first aligned revises,
    stage.step alike alters closed reads, ?_⟩
  constructor
  case alike =>
    rw [stage.filters]
    exact forall₂_alike_around done rest alike
  case logfile => exact alters.logfile
  case length_eq =>
    refine alters.length_eq.trans ?_
    omega

end Engine

/-- All filters in turn are revised, and none is refused. -/
theorem LogView.reviseAll_ok {source : Source} {old : List RawLine}
    (amended : Amended old source.lines) {engine : Engine} {done todo : List Installed}
    (stage : engine.Stage old source.lines done todo)
    (seen : engine.visible = (engine.rebuild source.lines.length).visible) :
    ∃ (after : Engine) (filters : List Installed),
      LogView.reviseAll source engine (todo.map Filter.id) = .ok (.ok (), after) ∧
      after.Stage old source.lines filters [] ∧
      after.visible = (after.rebuild source.lines.length).visible ∧ engine.Rereads 0 after := by
  induction todo generalizing engine done with
  | nil => exact ⟨engine, done, rfl, stage, seen, Engine.rereads_refl engine⟩
  | cons filter rest ih =>
      obtain ⟨next, filter', revises, stageNext, rereads⟩ := stage.revise amended
      have stageShown : (next.rebuild source.lines.length).Stage old source.lines
          (done ++ [filter']) rest :=
        ⟨stageNext.tidy.rebuild _, stageNext.filters, stageNext.allClosed, stageNext.hasReadNew,
          stageNext.hasReadOld⟩
      obtain ⟨after, filters, revisesRest, stageAfter, seenAfter, rereadsRest⟩ := ih stageShown rfl
      have rereadsShown : engine.Rereads 0 (next.rebuild source.lines.length) :=
        ⟨rereads.alike, rereads.logfile, rereads.length_eq⟩
      refine ⟨after, filters, ?_, stageAfter, seenAfter, rereadsShown.trans rereadsRest⟩
      simp only [List.map_cons, LogView.reviseAll, revises, bind, Except.bind]
      exact revisesRest

end LogLens
