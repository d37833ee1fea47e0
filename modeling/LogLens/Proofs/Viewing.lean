/-
Module: LogLens.Proofs.Viewing
Purpose: What a view shows of its lines, by the messages that they form and the filters in force,
  and what becomes of it by further lines, refreshes and amendments.  Its outline is the view
  without what the filters have read; once all messages are closed a view is determined by its
  outline.
Main exports: Registry.admits, Engine.Decided, LogView.Evaluated, LogView.InStep, LogView.Settled,
  LogView.outline, LogView.Settled.eq
-/
import LogLens.Proofs.Standing

namespace LogLens

/-! ### What the filters say of a line -/

/-- Whether filters let a line be seen: an enabled one keeps its message, or there is none that
keeps, and no enabled one hides it. -/
def Registry.admits (registry : Registry) (lines : List RawLine) (line : Nat) : Bool :=
  let decides kind := (registry.acting kind).any fun filter => decision filter.isMatch lines line
  ((registry.acting .keep).isEmpty || decides .keep) && !decides .hide

/-- A mask meets the enabled places of a kind exactly when an acting filter of that kind is in it. -/
theorem Registry.meets_enabledMask (registry : Registry) (mask : Mask) (kind : FilterKind) :
    (mask &&& registry.enabledMask kind != 0) =
      (registry.acting kind).any fun filter => mask.has filter.index := by
  rw [Bool.eq_iff_iff, bne_iff_ne, Ne, Mask.eq_zero_iff, List.any_eq_true, not_forall]
  constructor
  · rintro ⟨slot, met⟩
    rw [Mask.has_and, has_enabledMask, Bool.not_eq_false, Bool.and_eq_true, List.any_eq_true] at met
    obtain ⟨marked, filter, member, isPlace⟩ := met
    exact ⟨filter, member, of_decide_eq_true isPlace ▸ marked⟩
  · rintro ⟨filter, member, marked⟩
    refine ⟨filter.index, ?_⟩
    rw [Mask.has_and, has_enabledMask, Bool.not_eq_false, Bool.and_eq_true, List.any_eq_true]
    exact ⟨marked, filter, member, decide_eq_true rfl⟩

theorem Registry.enabledMask_eq_zero (registry : Registry) (kind : FilterKind) :
    (registry.enabledMask kind == 0) = (registry.acting kind).isEmpty := by
  rw [Bool.eq_iff_iff, beq_iff_eq, Mask.eq_zero_iff, List.isEmpty_iff]
  simp only [has_enabledMask]
  constructor
  · intro empty
    apply List.eq_nil_iff_forall_not_mem.2
    intro filter member
    have isPlace := List.any_eq_false.1 (empty filter.index) filter member
    exact isPlace (decide_eq_true rfl)
  · intro none slot
    rw [none, List.any_nil]

/-- The masks let those lines be seen that the filters admit. -/
theorem Engine.sees_eq {engine : Engine} {lines : List RawLine} {line : Nat}
    (decided : ∀ filter ∈ engine.registry.filters,
      (engine.state.mask line).has filter.index = decision filter.isMatch lines line) :
    engine.sees line = engine.registry.admits lines line := by
  have meets : ∀ kind, (engine.state.mask line &&& engine.registry.enabledMask kind != 0) =
      (engine.registry.acting kind).any fun filter => decision filter.isMatch lines line := by
    intro kind
    rw [Registry.meets_enabledMask, Bool.eq_iff_iff, List.any_eq_true, List.any_eq_true]
    apply exists_congr
    intro filter
    apply and_congr_right
    intro isActing
    rw [decided filter (List.mem_of_mem_filter isActing)]
  have hides := meets .hide
  rw [bne, Bool.not_eq_eq_eq_not] at hides
  have isVisible : engine.sees line = isVisible (engine.state.mask line)
      (engine.registry.enabledMask .keep) (engine.registry.enabledMask .hide) := Bool.not_not _
  rw [isVisible, LogLens.isVisible, meets .keep, hides, Registry.enabledMask_eq_zero, Bool.or_comm]
  rfl

/-! ### What an engine shows -/

namespace Engine

/-- An engine shows what its filters give on the lines of a log as they stand, and holds nothing
else. -/
structure Decided (engine : Engine) (lines : List RawLine) : Prop where
  length_eq : engine.state.length = lines.length
  /-- A place is marked on a line if its filter matches a line of the message. -/
  marked : ∀ line, line < lines.length → ∀ slot, ((engine.state.mask line).has slot = true ↔
    ∃ filter ∈ engine.registry.filters, filter.index = slot ∧
      decision filter.isMatch lines line = true)
  counted : ∀ filter ∈ engine.registry.filters, engine.state.count filter.index = lines.length
  /-- The hits of a place are the lines on which it is marked. -/
  hits : ∀ slot, engine.state.hits slot =
    (List.range lines.length).countP fun line => (engine.state.mask line).has slot
  closed : ∀ filter ∈ engine.registry.filters, filter.pending.lines = 0
  /-- The lines that the filters admit are seen, in order. -/
  seen : engine.visible = (List.range lines.length).filter (engine.registry.admits lines)

/-- Where every filter has read the lines and closed its messages and all other places are empty,
the masks say what the filters decide. -/
theorem decided_of_reads {engine : Engine} {lines : List RawLine} (bounded : engine.state.Bounded)
    (length : engine.state.length = lines.length)
    (reads : ∀ filter ∈ engine.registry.filters, filter.pending.lines = 0 ∧
      filter.Reads {} (engine.state.column filter.index) lines)
    (unused : ∀ slot, slot ∉ engine.places → engine.state.column slot = {})
    (shown : engine.visible = (engine.rebuild lines.length).visible) : engine.Decided lines := by
  have decides : ∀ filter ∈ engine.registry.filters, engine.state.Decides filter lines := by
    intro filter member
    obtain ⟨closed, reads⟩ := reads filter member
    exact bounded.decides (reads.stands_closed closed).column_eq
  have blank : ∀ slot, slot ∉ engine.places → ∀ line, (engine.state.mask line).has slot = false := by
    intro slot notUsed line
    rw [bounded.has_mask, unused slot notUsed]
    rfl
  constructor
  case length_eq => exact length
  case marked =>
    intro line inRange slot
    constructor
    · intro marked
      by_cases used : slot ∈ engine.places
      · obtain ⟨filter, member, rfl⟩ := List.mem_map.1 used
        exact ⟨filter, member, rfl,
          ((decides filter member).decided line inRange).symm.trans marked⟩
      · rw [blank slot used line] at marked
        exact absurd marked Bool.false_ne_true
    · rintro ⟨filter, member, rfl, matched⟩
      exact ((decides filter member).decided line inRange).trans matched
  case counted => exact fun filter member => (decides filter member).count_eq
  case hits =>
    intro slot
    have inMasks : engine.state.masks.countP (·.has slot) =
        (List.range lines.length).countP fun line => (engine.state.mask line).has slot := by
      rw [← Array.countP_toList, FilterState.toList_masks, List.countP_map, length]
      rfl
    by_cases used : slot ∈ engine.places
    · obtain ⟨filter, member, rfl⟩ := List.mem_map.1 used
      exact (decides filter member).hits_eq.trans inMasks
    · rw [← FilterState.hits_column, unused slot used, eq_comm, List.countP_eq_zero]
      intro line _
      rw [blank slot used line]
      exact Bool.false_ne_true
  case closed => exact fun filter member => (reads filter member).1
  case seen =>
    rw [shown]
    apply List.filter_congr
    intro line inLines
    exact sees_eq fun filter member =>
      (decides filter member).decided line (List.mem_range.1 inLines)

end Engine

/-! ### What a view shows -/

namespace LogView

/-- A view shows what its lines and filters give as they stand. -/
structure Evaluated (view : LogView) : Prop where
  /-- A place is marked on a line if its filter matches a line of the message. -/
  marked : ∀ line, line < view.lineCount → ∀ slot,
    ((view.engine.state.mask line).has slot = true ↔
      ∃ filter ∈ view.filters.filters, filter.index = slot ∧
        decision filter.isMatch view.buffer.source.lines line = true)
  /-- The hits of a filter are the lines on which its place is marked. -/
  hits : ∀ filter ∈ view.filters.filters, view.hits? filter.id =
    some ((List.range view.lineCount).countP fun line =>
      (view.engine.state.mask line).has filter.index)
  /-- The lines that the filters admit are seen, in order. -/
  seen : view.visibleLines =
    (List.range view.lineCount).filter (view.filters.admits view.buffer.source.lines)

/-- All filters of a view have read its lines, and there is room for them and no more. -/
def InStep (view : LogView) : Prop := view.engine.Level view.buffer.source

/-- Besides, all messages are closed, and what is shown is what the masks say. -/
def Settled (view : LogView) : Prop := view.engine.Settled view.buffer.source

variable {view : LogView}

theorem Settled.inStep (settled : view.Settled) : view.InStep := settled.toLevel

theorem length_source (view : LogView) : view.buffer.source.lines.length = view.lineCount := by
  rw [LineBuffer.source, List.length_map, Array.length_toList]
  rfl

/-- In a settled view every filter has decided every line of the log. -/
theorem Settled.decided (settled : view.Settled) :
    view.engine.Decided view.buffer.source.lines :=
  Engine.decided_of_reads settled.tidy.bounded settled.length_eq
    (fun filter member => ⟨settled.allClosed filter member, settled.reads filter member⟩)
    settled.tidy.unused settled.shown

/-- When all messages are closed, the masks say what the filters decide. -/
theorem Settled.evaluated (settled : view.Settled) : view.Evaluated := by
  have decided := settled.decided
  constructor
  case marked =>
    exact fun line inRange => decided.marked line (view.length_source.symm ▸ inRange)
  case hits =>
    intro filter member
    have found : view.filters.find? filter.id = some filter :=
      Registry.find?_of_nodup Filter.id settled.tidy.wellFormed.names member
    rw [hits?, found, Option.map_some, decided.hits, length_source]
  case seen =>
    rw [visibleLines, decided.seen, length_source]
    rfl

/-! ### The outline of a view -/

/-- A view without what its filters have read and what is shown. -/
def outline (view : LogView) : LogView :=
  { view with engine := { Engine.new view.buffer.name with registry := view.filters.bare } }

/-- A settled view is determined by its outline. -/
theorem Settled.eq {first second : LogView} (one : first.Settled) (two : second.Settled)
    (same : first.outline = second.outline) : first = second := by
  have buffer : first.outline.buffer = second.outline.buffer := congrArg LogView.buffer same
  have bare : first.outline.filters = second.outline.filters := congrArg LogView.filters same
  have settled : second.engine.Settled first.outline.buffer.source := by
    rw [buffer]
    exact two
  have engine : first.engine = second.engine := Engine.Settled.eq one settled bare
  cases first
  cases second
  simp_all [outline]

/-- A line more, which no filter has read yet. -/
def record (view : LogView) (text : String) : LogView :=
  { view with buffer := view.buffer.push ⟨text, view.startsMessage text⟩, fileStart := false }

/-- Further lines, which no filter has read yet. -/
def recordText (view : LogView) (text : String) : LogView := (linesOf text).foldl record view

/-- The lines of another log, which no filter has read yet. -/
def recordFile (view : LogView) (text : String) : LogView :=
  { ({ view with fileStart := true } : LogView).recordText text with fileStart := false }

theorem filters_foldl_record (texts : List String) (view : LogView) :
    (texts.foldl record view).filters = view.filters := by
  induction texts generalizing view with
  | nil => rfl
  | cons text rest ih => exact ih (view.record text)

theorem filters_recordFile (text : String) (view : LogView) :
    (view.recordFile text).filters = view.filters :=
  filters_foldl_record (linesOf text) { view with fileStart := true }

theorem caseSensitive_foldl_record (texts : List String) (view : LogView) :
    (texts.foldl record view).caseSensitive = view.caseSensitive := by
  induction texts generalizing view with
  | nil => rfl
  | cons text rest ih => exact ih (view.record text)

theorem caseSensitive_recordFile (text : String) (view : LogView) :
    (view.recordFile text).caseSensitive = view.caseSensitive :=
  caseSensitive_foldl_record (linesOf text) { view with fileStart := true }

/-! ### Lines -/

/-- A new view is in step with its empty buffer. -/
theorem inStep_new [PatternCompiler] {name : String} {messageStart : Option String}
    {caseSensitive : Bool} (isNew : LogView.new name messageStart caseSensitive = .ok view) :
    view.InStep := by
  unfold LogView.new at isNew
  obtain ⟨pattern, _, isNew⟩ := ok_of_bind isNew
  cases isNew
  exact Engine.level_new name

theorem source_push (buffer : LineBuffer) (line : Line) :
    (buffer.push line).source = ⟨buffer.source.name, buffer.source.lines ++ [line.raw]⟩ := by
  rw [LineBuffer.source, LineBuffer.push, Array.toList_push, List.map_append]
  rfl

/-- A line that was appended takes another text. -/
theorem amendLast_push (buffer : LineBuffer) (line : Line) (text : String) :
    (buffer.push line).amendLast text = buffer.push { line with text } := by
  simp only [LineBuffer.amendLast, LineBuffer.push, Array.size_push, Nat.add_sub_cancel]
  congr 1
  apply Array.ext'
  rw [Array.toList_modify, List.modify_eq_set_getElem?]
  simp

/-- Amending the last line of a buffer that has one amends the source. -/
theorem amended_amendLast (buffer : LineBuffer) (text : String) (some : buffer.isEmpty = false) :
    Amended buffer.source.lines (buffer.amendLast text).source.lines := by
  have notEmpty : buffer.lines.size ≠ 0 := fun empty => by
    rw [LineBuffer.isEmpty, Array.isEmpty_iff_size_eq_zero.2 empty] at some
    cases some
  obtain ⟨front, last, whole⟩ := Array.eq_push_of_size_ne_zero notEmpty
  have pushed : buffer = LineBuffer.push ⟨buffer.name, front⟩ last := by
    rw [LineBuffer.push, ← whole]
  rw [pushed, amendLast_push, source_push, source_push]
  exact ⟨_, last.raw, Line.raw { last with text }, rfl, rfl, rfl⟩

theorem amendLast_of_isEmpty {buffer : LineBuffer} (empty : buffer.isEmpty = true) (text : String) :
    buffer.amendLast text = buffer := by
  cases buffer with
  | mk name lines =>
      cases (Array.isEmpty_iff.1 empty : lines = #[])
      rfl

/-- Appending a line never fails, and it does to the outline what recording does. -/
theorem InStep.appendLine (inStep : view.InStep) (text : String) :
    ∃ after, view.appendLine text = .ok after ∧ after.InStep ∧
      after.outline = view.outline.record text := by
  let line : Line := ⟨text, view.startsMessage text⟩
  obtain ⟨engine, observes, after, bare⟩ := Engine.Level.observe inStep line.raw
  rw [length_source] at observes
  have level : engine.Level (view.buffer.push line).source := by
    rw [source_push]
    exact after
  refine ⟨{ view.record text with engine }, congrArg (Except.map _) observes, level, ?_⟩
  · simp only [outline, filters, bare]
    rfl

theorem InStep.appendLines (inStep : view.InStep) (texts : List String) :
    ∃ after, view.appendLines texts = .ok after ∧ after.InStep ∧
      after.outline = texts.foldl record view.outline := by
  let Tracks (view outline : LogView) : Prop := view.InStep ∧ view.outline = outline
  have tracks : Tracks view view.outline := ⟨inStep, rfl⟩
  refine foldlM_tracks record ?_ texts view.outline tracks
  rintro view _ text ⟨inStep, rfl⟩
  exact inStep.appendLine text

/-- Appending a file never fails, and it does to the outline what recording it does. -/
theorem InStep.appendFile (inStep : view.InStep) (text : String) :
    ∃ after, view.appendFile text = .ok after ∧ after.InStep ∧
      after.outline = view.outline.recordFile text := by
  have starting : ({ view with fileStart := true } : LogView).InStep := inStep
  obtain ⟨after, appends, inStepAfter, same⟩ := starting.appendLines (linesOf text)
  refine ⟨{ after with fileStart := false }, congrArg (Except.map _) appends, inStepAfter, ?_⟩
  exact congrArg (fun outline : LogView => { outline with fileStart := false }) same

/-! ### Refreshes -/

/-- After a change of the filters a view is refreshed, and then it is settled. -/
theorem InStep.refresh (inStep : view.InStep) {registry : Registry}
    (evolves : view.filters.Evolves registry) :
    ∃ after, (view.withFilters registry).refresh = .ok after ∧ after.Settled ∧
      after.outline = (view.withFilters registry.takeDirty.2).outline := by
  obtain ⟨engine, refreshes, settled, bare⟩ := Engine.Level.refresh inStep evolves
  refine ⟨{ view with engine }, congrArg (Except.map _) refreshes, settled, ?_⟩
  simp only [outline, filters, bare]
  rfl

/-- A view without lines is settled. -/
theorem InStep.settled_empty (inStep : view.InStep) (empty : view.buffer.isEmpty = true) :
    view.Settled := by
  have length := view.length_source
  rw [lineCount, LineBuffer.size, Array.isEmpty_iff_size_eq_zero.1 empty] at length
  refine ⟨inStep, ?_, ?_⟩
  · intro filter member
    have moved := (inStep.reads filter member).position_eq
    rw [length, Column.count_empty] at moved
    omega
  · rw [length]
    apply List.eq_nil_iff_forall_not_mem.2
    intro line isSeen
    have before := inStep.seen line isSeen
    rw [length] at before
    exact Nat.not_lt_zero line before

/-- The filters read the amended line one after the other, and none refuses. -/
theorem InStep.amendLast (inStep : view.InStep) (text : String) :
    ∃ after, view.amendLast text = .ok (.ok (), after) ∧ after.Settled ∧
      after.outline = { view.outline with buffer := view.buffer.amendLast text } := by
  unfold LogView.amendLast
  cases empty : view.buffer.isEmpty with
  | true =>
      refine ⟨view, rfl, inStep.settled_empty empty, ?_⟩
      rw [amendLast_of_isEmpty empty]
      rfl
  | false =>
      let buffer := view.buffer.amendLast text
      have amended : Amended view.buffer.source.lines buffer.source.lines :=
        amended_amendLast view.buffer text empty
      obtain ⟨refreshed, engine, refreshes, revises, settled, bare⟩ :=
        Engine.Level.amend inStep amended rfl
      refine ⟨{ view with buffer, engine }, ?_, settled, ?_⟩
      · have amends : ({ view with buffer } : LogView).refresh =
            .ok { view with buffer, engine := refreshed } := congrArg (Except.map _) refreshes
        rw [if_neg Bool.false_ne_true]
        dsimp only
        rw [amends]
        change Except.bind (reviseAll buffer.source refreshed
          (refreshed.registry.filters.map Filter.id)) _ = _
        rw [revises]
        rfl
      · simp only [outline, filters, bare]
        rfl

end LogView

end LogLens
