/-
Module: LogLens.Proofs.Standing
Purpose: Engines whose filters have all read one log to its end.  Lines, refreshes and amendments
  keep them so.  Once all messages are closed nothing but the log and the settings of the filters
  counts: two such engines with the same log and the same settings are the same.
Main exports: Engine.InStep, Engine.Level, Engine.Settled, Engine.Settled.eq
-/
import LogLens.Proofs.Revising
import LogLens.Proofs.Settings

namespace LogLens

namespace Engine

/-! ### In step -/

/-- All filters have read the same lines, and no line is seen that is not among them. -/
structure InStep (engine : Engine) (lines : List RawLine) : Prop where
  tidy : engine.Tidy
  reads : ∀ filter ∈ engine.registry.filters,
    filter.Reads {} (engine.state.column filter.index) lines
  seen : ∀ line ∈ engine.visible, line < lines.length

variable {engine : Engine}

/-- Only lines of the log become visible. -/
theorem seen_rebuild (engine : Engine) (lineCount : Nat) :
    ∀ line ∈ (engine.rebuild lineCount).visible, line < lineCount := by
  intro line member
  exact List.mem_range.1 (List.mem_filter.1 member).1

/-- One line more for all filters. -/
theorem InStep.observe {lines : List RawLine} (inStep : engine.InStep lines) (line : RawLine) :
    ∃ after : Engine, engine.observe lines.length line = .ok after ∧
      after.InStep (lines ++ [line]) ∧ engine.Rereads (lines.length + 1) after ∧
      after.visible = engine.visible := by
  obtain ⟨after, observes, drives, enough⟩ :=
    observe_drives inStep.tidy.bounded inStep.tidy.wellFormed.places lines.length line
  refine ⟨after, observes, ⟨inStep.tidy.drives drives, ?_, ?_⟩, drives.rereads enough,
    drives.visible⟩
  · intro filter' member
    obtain ⟨filter, isFilter, alike, readsOn⟩ := exists_left_of_forall₂ drives.filters member
    have reads := readsOn {} lines (inStep.reads filter isFilter)
    rw [Column.count_empty, Nat.zero_add, ← alike.index] at reads
    dsimp only at reads
    rw [if_pos rfl] at reads
    exact reads
  · intro number isSeen
    rw [drives.visible] at isSeen
    have before := inStep.seen number isSeen
    rw [List.length_append]
    omega

/-- Whatever has changed among the filters, a refresh brings them in step. -/
theorem InStep.refresh {source : Source} (inStep : engine.InStep source.lines)
    {registry : Registry} (evolves : engine.registry.Evolves registry) :
    ∃ after : Engine, ({ engine with registry } : Engine).refresh source =
        .ok (after.rebuild source.lines.length) ∧
      (after.rebuild source.lines.length).InStep source.lines ∧
      ({ engine with registry } : Engine).Rereads source.lines.length after ∧
      ∀ filter ∈ after.registry.filters, filter.pending.lines = 0 := by
  let changed : Engine := { engine with registry }
  have bounded : changed.state.Bounded := inStep.tidy.bounded
  have reads : ∀ filter ∈ changed.registry.filters, ∃ heard,
      filter.Reads {} (changed.sync.state.column filter.index) heard ∧
        heard.length ≤ source.lines.length ∧
        heard ++ source.lines.drop heard.length = source.lines := by
    intro filter member
    rw [column_sync member]
    -- A filter to evaluate anew has read nothing; all others have read every line.
    rcases evolves.each filter member with ⟨fresh, noted⟩ | ⟨old, isOld, keeps, sameNote⟩
    · rw [if_pos noted]
      exact ⟨[], Filter.reads_of_fresh fresh {}, Nat.zero_le _, rfl⟩
    · have notNoted : ¬registry.dirty.has filter.index = true := by
        rw [sameNote, inStep.tidy.dirty, Mask.has_zero]
        exact Bool.false_ne_true
      rw [if_neg notNoted, keeps.index]
      refine ⟨source.lines, ?_, Nat.le_refl _, ?_⟩
      · exact (inStep.reads old isOld).congr keeps.pattern keeps.pending keeps.last
      · rw [List.drop_length, List.append_nil]
  obtain ⟨after, refreshes, tidy, rereads, readsAll⟩ :=
    refresh_reads bounded evolves.wellFormed source reads
  exact ⟨after, refreshes, ⟨tidy.rebuild _, fun filter member => (readsAll filter member).2,
    after.seen_rebuild _⟩, rereads, fun filter member => (readsAll filter member).1⟩

/-- Before the last line is revised all filters are brought to its end as it was. -/
theorem InStep.stage {source : Source} {old : List RawLine} (inStep : engine.InStep old)
    (amended : Amended old source.lines) :
    ∃ refreshed : Engine, engine.refresh source =
        .ok (refreshed.rebuild source.lines.length) ∧
      (refreshed.rebuild source.lines.length).Stage old source.lines []
        refreshed.registry.filters ∧ engine.Rereads source.lines.length refreshed := by
  have reads : ∀ filter ∈ engine.registry.filters, ∃ heard,
      filter.Reads {} (engine.sync.state.column filter.index) heard ∧
        heard.length ≤ source.lines.length ∧ heard ++ source.lines.drop heard.length = old := by
    intro filter member
    rw [column_sync member, inStep.tidy.dirty, Mask.has_zero, if_neg Bool.false_ne_true]
    refine ⟨old, inStep.reads filter member, Nat.le_of_eq amended.length_eq.symm, ?_⟩
    rw [← amended.length_eq, List.drop_length, List.append_nil]
  obtain ⟨refreshed, refreshes, tidy, rereads, readsOld⟩ :=
    refresh_reads inStep.tidy.bounded inStep.tidy.wellFormed source reads
  refine ⟨refreshed, refreshes, ⟨tidy.rebuild _, rfl, ?_, ?_, ?_⟩, rereads⟩
  · exact fun filter member => (readsOld filter member).1
  · exact fun _ none => nomatch none
  · exact fun filter member => (readsOld filter member).2

/-- Once all filters are revised they are in step on the lines as they are now. -/
theorem Stage.inStep {old new : List RawLine} {filters : List Installed}
    (stage : engine.Stage old new filters [])
    (seen : engine.visible = (engine.rebuild new.length).visible) : engine.InStep new where
  tidy := stage.tidy
  reads filter member := by
    rw [stage.filters, List.append_nil] at member
    exact stage.hasReadNew filter member
  seen := seen ▸ engine.seen_rebuild new.length

/-! ### A log without lines -/

/-- Filters read nothing in a log without lines. -/
theorem refresh_nil (engine : Engine) {source : Source} (none : source.lines = [])
    (allClosed : ∀ filter ∈ engine.registry.filters, filter.pending.lines = 0) :
    ∃ after : Engine, engine.refresh source = .ok after ∧
      after.registry.filters = engine.registry.filters := by
  let resized : Engine := { engine.sync with state := engine.sync.state.resize 0 }
  have ends : resized.endOfFile = .ok resized := endOfFile_of_closed allClosed
  refine ⟨resized.rebuild 0, ?_, rfl⟩
  rw [refresh_eq_readOut, none]
  simp only [List.length_nil, List.drop_nil, readOut, observeAll, bind, Except.bind]
  exact congrArg (Except.map (·.rebuild 0)) ends

/-! ### Level engines -/

/-- All filters have read a log to its end, and there is room for its lines and no more. -/
structure Level (engine : Engine) (source : Source) : Prop extends engine.InStep source.lines where
  logfile : engine.state.logfile = source.name
  length_eq : engine.state.length = source.lines.length
  unread : source.lines = [] → ∀ filter ∈ engine.registry.filters, filter.last = none
  ascending : engine.visible.Pairwise (· < ·)

/-- A level engine has closed all messages and shows what the masks say. -/
structure Settled (engine : Engine) (source : Source) : Prop extends engine.Level source where
  allClosed : ∀ filter ∈ engine.registry.filters, filter.pending.lines = 0
  shown : engine.visible = (engine.rebuild source.lines.length).visible

theorem ascending_rebuild (engine : Engine) (lineCount : Nat) :
    (engine.rebuild lineCount).visible.Pairwise (· < ·) :=
  List.pairwise_lt_range.sublist List.filter_sublist

theorem level_new (name : String) : (Engine.new name).Level ⟨name, []⟩ where
  tidy := ⟨FilterState.bounded_new name, Registry.wellFormed_empty, rfl,
    fun slot _ => FilterState.column_new name slot⟩
  reads _ none := nomatch none
  seen _ none := nomatch none
  logfile := rfl
  length_eq := rfl
  unread _ _ none := nomatch none
  ascending := List.Pairwise.nil

variable {source : Source}

/-- One line more. -/
theorem Level.observe (level : engine.Level source) (line : RawLine) :
    ∃ after : Engine, engine.observe source.lines.length line = .ok after ∧
      after.Level ⟨source.name, source.lines ++ [line]⟩ ∧
      after.registry.bare = engine.registry.bare := by
  obtain ⟨after, observes, inStep, rereads, visible⟩ := level.toInStep.observe line
  have dirty : after.registry.dirty = engine.registry.dirty :=
    inStep.tidy.dirty.trans level.tidy.dirty.symm
  refine ⟨after, observes, ⟨inStep, rereads.logfile.trans level.logfile, ?_, ?_, ?_⟩,
    Registry.bare_eq_of_alike rereads.alike dirty⟩
  · rw [rereads.length_eq, level.length_eq, List.length_append, List.length_singleton]
    exact Nat.max_eq_right (Nat.le_succ _)
  · intro none
    exact absurd none (List.concat_ne_nil line _)
  · rw [visible]
    exact level.ascending

/-- Whatever has changed among the filters, a refresh settles them. -/
theorem Level.refresh (level : engine.Level source) {registry : Registry}
    (evolves : engine.registry.Evolves registry) :
    ∃ after : Engine, ({ engine with registry } : Engine).refresh source = .ok after ∧
      after.Settled source ∧ after.registry.bare = registry.bare.takeDirty.2 := by
  obtain ⟨after, refreshes, inStep, rereads, allClosed⟩ := level.toInStep.refresh evolves
  have alike : List.Forall₂ Filter.Alike registry.takeDirty.2.filters after.registry.filters :=
    rereads.alike
  have dirty : after.registry.dirty = registry.takeDirty.2.dirty := inStep.tidy.dirty
  refine ⟨after.rebuild source.lines.length, refreshes,
    ⟨⟨inStep, rereads.logfile.trans level.logfile, ?_, ?_, after.ascending_rebuild _⟩, allClosed,
      rfl⟩,
    Registry.bare_eq_of_alike alike dirty⟩
  · have length := rereads.length_eq
    rw [level.length_eq, Nat.max_self] at length
    exact length
  · intro noLines
    -- Each filter is fresh or has found no line to read so far.
    have untouched : ∀ filter ∈ registry.filters,
        filter.pending.lines = 0 ∧ filter.last = none := by
      intro filter member
      rcases evolves.each filter member with ⟨fresh, _⟩ | ⟨old, isOld, keeps, _⟩
      · exact ⟨congrArg Message.lines fresh.pending, fresh.last⟩
      · have position := (level.reads old isOld).position_eq
        rw [noLines, Column.count_empty, List.length_nil] at position
        refine ⟨?_, keeps.last.trans (level.unread noLines old isOld)⟩
        rw [keeps.pending]
        omega
    obtain ⟨same, refreshesSame, filters⟩ := refresh_nil { engine with registry } noLines
      fun filter member => (untouched filter member).1
    rw [refreshes] at refreshesSame
    cases refreshesSame
    intro filter member
    rw [filters] at member
    exact (untouched filter member).2

/-- When the last line is amended, a refresh and a revision of all filters in turn settle them. -/
theorem Level.amend {old : Source} (level : engine.Level old)
    (amended : Amended old.lines source.lines) (name : source.name = old.name) :
    ∃ refreshed after : Engine, engine.refresh source = .ok refreshed ∧
      LogView.reviseAll source refreshed (refreshed.registry.filters.map Filter.id) =
        .ok (.ok (), after) ∧
      after.Settled source ∧ after.registry.bare = engine.registry.bare := by
  obtain ⟨refreshed, refreshes, stage, rereads⟩ := level.toInStep.stage amended
  obtain ⟨after, filters, revises, stageAfter, shown, rereadsRest⟩ :=
    LogView.reviseAll_ok amended stage rfl
  have rereadsShown : engine.Rereads source.lines.length
      (refreshed.rebuild source.lines.length) :=
    ⟨rereads.alike, rereads.logfile, rereads.length_eq⟩
  have rereadsAll := rereadsShown.trans rereadsRest
  have inStep := stageAfter.inStep shown
  have dirty : after.registry.dirty = engine.registry.dirty :=
    inStep.tidy.dirty.trans level.tidy.dirty.symm
  refine ⟨_, after, refreshes, revises, ⟨⟨inStep, ?_, ?_, ?_, ?_⟩, stageAfter.allClosed, shown⟩,
    Registry.bare_eq_of_alike rereadsAll.alike dirty⟩
  · rw [rereadsAll.logfile, level.logfile, name]
  · rw [rereadsAll.length_eq, level.length_eq, amended.length_eq, Nat.max_self]
  · intro none
    have length := amended.length_eq
    rw [none] at length
    exact absurd (List.length_eq_zero_iff.1 length.symm) amended.ne_nil
  · rw [shown]
    exact after.ascending_rebuild _

/-! ### What settles an engine -/

/-- Filters with one setting that have closed all messages of the same lines are the same. -/
theorem eq_of_stands {filter other : Installed} {column column' : Column} {lines : List RawLine}
    (bare : filter.reset = other.reset) (stands : filter.Stands {} column lines [])
    (stands' : other.Stands {} column' lines [])
    (unread : lines = [] → filter.last = none ∧ other.last = none) : filter = other := by
  have test : other.isMatch = filter.isMatch := by
    rw [← other.alike_reset.isMatch_eq, ← bare, filter.alike_reset.isMatch_eq]
  have pending : filter.pending = other.pending := by
    rw [stands.pending, stands'.pending, test]
  have last : filter.last = other.last := by
    rcases stands.reopens rfl with ⟨none, _⟩ | ⟨earlier, message, rfl, some, behind, isLast⟩
    · rw [(unread none).1, (unread none).2]
    rcases stands'.reopens rfl with ⟨none, _⟩ | ⟨_, _, whole, some', behind', isLast'⟩
    · rw [(unread none).1, (unread none).2]
    · rw [isLast, isLast', test, behind.unique behind' some some' whole]
  cases filter
  cases other
  simp only [Filter.reset, Filter.mk.injEq] at bare
  simp_all

theorem eq_of_map_reset {filters others : List Installed}
    (bare : filters.map Filter.reset = others.map Filter.reset)
    (same : ∀ filter ∈ filters, ∀ other ∈ others, filter.reset = other.reset → filter = other) :
    filters = others := by
  induction filters generalizing others with
  | nil => exact (List.map_eq_nil_iff.1 bare.symm).symm
  | cons filter rest ih =>
      cases others with
      | nil => cases bare
      | cons other others =>
          rw [List.map_cons, List.map_cons, List.cons_eq_cons] at bare
          rw [same filter (List.mem_cons_self ..) other (List.mem_cons_self ..) bare.1,
            ih bare.2 fun filter inRest other inOthers => same filter
              (List.mem_cons_of_mem _ inRest) other (List.mem_cons_of_mem _ inOthers)]

/-- What the filters are set to and the log settle an engine. -/
theorem Settled.eq {first second : Engine} (one : first.Settled source)
    (two : second.Settled source) (bare : first.registry.bare = second.registry.bare) :
    first = second := by
  have stands : ∀ filter ∈ first.registry.filters,
      filter.Stands {} (first.state.column filter.index) source.lines [] := fun filter member =>
    (one.reads filter member).stands_closed (one.allClosed filter member)
  have stands' : ∀ filter ∈ second.registry.filters,
      filter.Stands {} (second.state.column filter.index) source.lines [] := fun filter member =>
    (two.reads filter member).stands_closed (two.allClosed filter member)
  have filters : first.registry.filters = second.registry.filters := by
    apply eq_of_map_reset (congrArg Registry.filters bare)
    intro filter member other member' same
    exact eq_of_stands same (stands filter member) (stands' other member') fun none =>
      ⟨one.unread none filter member, two.unread none other member'⟩
  have registry : first.registry = second.registry :=
    Registry.ext_registry filters (one.tidy.dirty.trans two.tidy.dirty.symm)
  have state : first.state = second.state := by
    apply FilterState.ext_columns one.tidy.bounded two.tidy.bounded
    · rw [one.logfile, two.logfile]
    · rw [one.length_eq, two.length_eq]
    · intro slot
      by_cases used : slot ∈ first.places
      · obtain ⟨filter, member, rfl⟩ := List.mem_map.1 used
        rw [(stands filter member).column_eq, (stands' filter (filters ▸ member)).column_eq]
      · have unused : slot ∉ second.places := by
          rw [places, ← filters]
          exact used
        rw [one.tidy.unused slot used, two.tidy.unused slot unused]
  have visible : first.visible = second.visible := by
    rw [one.shown, two.shown]
    exact visible_rebuild_congr state (fun kind => by rw [registry]) _
  cases first
  cases second
  simp_all

end Engine

end LogLens
