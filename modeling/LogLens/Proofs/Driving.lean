/-
Module: LogLens.Proofs.Driving
Purpose: All filters of an engine read on together.  What lines are delivered says for each position
  what a filter at that position reads further; the registry and the columns without a filter stay.
Main exports: Engine.Drives, Engine.observe_drives, Engine.observeAll_drives,
  Engine.endOfFile_drives, Engine.readOut_drives
-/
import LogLens.Proofs.Reading

namespace LogLens

/-! ### Reading on in a log -/

/-- What is further for a position are lines of a log, the line at that position first. -/
def Continues (lines : List RawLine) (further : Nat → List RawLine) : Prop :=
  ∀ position, position ≤ lines.length →
    position + (further position).length ≤ lines.length ∧
      lines.take position ++ further position = lines.take (position + (further position).length)

theorem continues_nothing (lines : List RawLine) : Continues lines fun _ => [] :=
  fun _ inLog => ⟨inLog, List.append_nil _⟩

/-- Offering one line advances only the filters that wait for it. -/
theorem continues_line {lines : List RawLine} {number : Nat} {line : RawLine}
    (isLine : lines[number]? = some line) :
    Continues lines fun position => if number = position then [line] else [] := by
  obtain ⟨inRange, isLine⟩ := List.getElem?_eq_some_iff.1 isLine
  intro position inLog
  by_cases isNext : number = position
  · subst isNext
    simp only [if_true, List.length_singleton]
    rw [← isLine]
    exact ⟨inRange, List.take_append_getElem inRange⟩
  · simp only [isNext, if_false, List.length_nil]
    exact ⟨inLog, List.append_nil _⟩

/-- Offering a range of lines gives each filter what of it lies ahead of the filter. -/
theorem continues_lines {lines : List RawLine} {first stop : Nat} (inLog : stop ≤ lines.length) :
    Continues lines fun position => if position < first then [] else
      ((lines.drop first).take (stop - first)).drop (position - first) := by
  intro position inLines
  by_cases before : position < first
  · simp only [before, if_true, List.length_nil]
    exact ⟨inLines, List.append_nil _⟩
  · have rest : ((lines.drop first).take (stop - first)).drop (position - first) =
        (lines.take stop).drop position := by
      rw [← List.drop_take, List.drop_drop]
      congr 1
      omega
    simp only [before, if_false, rest]
    by_cases notPast : position ≤ stop
    · have length : position + ((lines.take stop).drop position).length = stop := by
        rw [List.length_drop, List.length_take]
        omega
      have same : lines.take position = (lines.take stop).take position := by
        rw [List.take_take, Nat.min_eq_left notPast]
      rw [length, same, List.take_append_drop]
      exact ⟨inLog, rfl⟩
    · have none : (lines.take stop).drop position = [] := by
        rw [List.drop_eq_nil_iff, List.length_take]
        omega
      rw [none]
      exact ⟨inLines, List.append_nil _⟩

theorem continues_rest (lines : List RawLine) : Continues lines (lines.drop ·) := by
  intro position inLog
  have length : position + (lines.drop position).length = lines.length := by
    rw [List.length_drop]
    omega
  dsimp only
  rw [length, List.take_append_drop, List.take_length]
  exact ⟨Nat.le_refl _, rfl⟩

/-- A filter has read some lines behind a given column and then a log from there up to its own
position. -/
def Filter.HasRead (filter : Installed) (lines : List RawLine) (base : Column)
    (head : List RawLine) (column : Column) : Prop :=
  ∃ position, base.count + head.length ≤ position ∧ position ≤ lines.length ∧
    filter.Reads base column (head ++ (lines.take position).drop (base.count + head.length))

namespace Filter

variable {filter filter' : Installed} {lines : List RawLine} {base column column' : Column}
  {head : List RawLine}

theorem position_of_read {position : Nat} (notBefore : base.count + head.length ≤ position)
    (inLog : position ≤ lines.length) :
    base.count + (head ++ (lines.take position).drop (base.count + head.length)).length =
      position := by
  rw [List.length_append, List.length_drop, List.length_take]
  omega

/-- The position of a filter is that up to which it has read the log. -/
theorem HasRead.at_position (hasRead : filter.HasRead lines base head column) :
    base.count + head.length ≤ column.count + filter.pending.lines ∧
      column.count + filter.pending.lines ≤ lines.length ∧
      filter.Reads base column (head ++
        (lines.take (column.count + filter.pending.lines)).drop (base.count + head.length)) := by
  obtain ⟨position, notBefore, inLog, reads⟩ := hasRead
  have isPosition : column.count + filter.pending.lines = position := by
    rw [reads.position_eq, position_of_read notBefore inLog]
  rw [isPosition]
  exact ⟨notBefore, inLog, reads⟩

/-- Reading on extends what a filter has read by the lines that come next. -/
theorem HasRead.readsOn (hasRead : filter.HasRead lines base head column)
    {further : Nat → List RawLine} (continues : Continues lines further)
    (readsOn : filter.ReadsOn column further filter' column') :
    filter'.HasRead lines base head column' := by
  obtain ⟨position, notBefore, inLog, reads⟩ := hasRead
  obtain ⟨inLogNext, grown⟩ := continues position inLog
  have readsNext := readsOn base _ reads
  rw [position_of_read notBefore inLog, List.append_assoc, ← List.drop_append_of_le_length (by
    rw [List.length_take]
    omega), grown] at readsNext
  exact ⟨_, by omega, inLogNext, readsNext⟩

theorem hasRead_of_fresh (fresh : filter.Fresh) (inLog : column.count ≤ lines.length) :
    filter.HasRead lines column [] column := by
  refine ⟨column.count, Nat.le_refl _, inLog, ?_⟩
  have nothing : (lines.take column.count).drop (column.count + ([] : List RawLine).length) = [] := by
    rw [List.drop_eq_nil_iff, List.length_take, List.length_nil]
    omega
  rw [nothing]
  exact reads_of_fresh fresh column

theorem HasRead.congr (hasRead : filter.HasRead lines base head column)
    (pattern : filter'.pattern = filter.pattern) (pending : filter'.pending = filter.pending)
    (last : filter'.last = filter.last) : filter'.HasRead lines base head column := by
  obtain ⟨position, notBefore, inLog, reads⟩ := hasRead
  exact ⟨position, notBefore, inLog, reads.congr pattern pending last⟩

/-- If its column is emptied, a filter starts anew with the lines of the log that it holds open. -/
theorem HasRead.emptied (hasRead : filter.HasRead lines base [] column) :
    filter.HasRead lines {} ((lines.drop column.count).take filter.pending.lines) {} := by
  obtain ⟨_, inLog, reads⟩ := hasRead.at_position
  have behind := reads.count_le
  have length : ((lines.drop column.count).take filter.pending.lines).length =
      filter.pending.lines := by
    rw [List.length_take, List.length_drop]
    omega
  have readsOpened := reads.opened
  rw [List.nil_append, List.length_nil, Nat.add_zero, List.drop_drop, List.length_drop,
    List.length_take, Nat.min_eq_left inLog,
    show base.count + (column.count + filter.pending.lines - base.count - filter.pending.lines) =
      column.count by omega, List.drop_take, Nat.add_sub_cancel_left] at readsOpened
  refine ⟨filter.pending.lines, ?_, by omega, ?_⟩
  · rw [length, Column.count_empty]
    omega
  · have nothing : (lines.take filter.pending.lines).drop (({} : Column).count +
        ((lines.drop column.count).take filter.pending.lines).length) = [] := by
      rw [length, Column.count_empty, Nat.zero_add, List.drop_eq_nil_iff, List.length_take]
      omega
    rw [nothing, List.append_nil]
    exact readsOpened

/-- Lines that are appended to the log have not been read. -/
theorem HasRead.append (hasRead : filter.HasRead lines base head column) (more : List RawLine) :
    filter.HasRead (lines ++ more) base head column := by
  obtain ⟨position, notBefore, inLog, reads⟩ := hasRead
  refine ⟨position, notBefore, ?_, ?_⟩
  · rw [List.length_append]
    omega
  · rw [List.take_append_of_le_length inLog]
    exact reads

/-- A filter reads the whole log if it reads on up to its end. -/
theorem HasRead.reads_all (hasRead : filter.HasRead lines base head column)
    (readsOn : filter.ReadsOn column (lines.drop ·) filter' column') :
    filter'.Reads base column' (head ++ lines.drop (base.count + head.length)) := by
  obtain ⟨position, notBefore, inLog, reads⟩ := hasRead
  have readsNext := readsOn base _ reads
  rw [position_of_read notBefore inLog, List.append_assoc, ← List.drop_append_of_le_length (by
    rw [List.length_take]
    omega), List.take_append_drop] at readsNext
  exact readsNext

end Filter

namespace Engine

def places (engine : Engine) : List Slot := engine.registry.filters.map Filter.index

/-- The filters of the one engine have read on to the other.  For each position it is said what a
filter there reads further.  No more room is taken than is needed. -/
structure Drives (further : Nat → List RawLine) (room : Nat) (before after : Engine) : Prop where
  bounded : after.state.Bounded
  logfile : after.state.logfile = before.state.logfile
  dirty : after.registry.dirty = before.registry.dirty
  visible : after.visible = before.visible
  grows : before.state.length ≤ after.state.length
  fits : after.state.length ≤ max before.state.length room
  filters : List.Forall₂ (fun filter filter' => filter.Alike filter' ∧
    filter.ReadsOn (before.state.column filter.index) further filter'
      (after.state.column filter.index)) before.registry.filters after.registry.filters
  untouched : ∀ slot, slot ∉ before.places → after.state.column slot = before.state.column slot

variable {engine before middle after : Engine}

theorem drives_refl (bounded : engine.state.Bounded) (room : Nat) :
    Drives (fun _ => []) room engine engine where
  bounded := bounded
  logfile := rfl
  dirty := rfl
  visible := rfl
  grows := Nat.le_refl _
  fits := Nat.le_max_left _ _
  filters := List.forall₂_same.2 fun filter _ => ⟨Filter.Alike.refl filter, filter.readsOn_refl _⟩
  untouched _ _ := rfl

theorem Drives.alike {further : Nat → List RawLine} {room : Nat}
    (drives : Drives further room before after) :
    List.Forall₂ Filter.Alike before.registry.filters after.registry.filters :=
  drives.filters.imp fun _ _ related => related.1

theorem Drives.places_eq {further : Nat → List RawLine} {room : Nat}
    (drives : Drives further room before after) : after.places = before.places :=
  Filter.map_eq_of_alike Filter.Alike.index drives.alike

/-- Two drives in a row are one drive over both pieces. -/
theorem Drives.trans {one two both : Nat → List RawLine} {roomOne roomTwo room : Nat}
    (drivesOne : Drives one roomOne before middle) (drivesTwo : Drives two roomTwo middle after)
    (fitsOne : roomOne ≤ room) (fitsTwo : roomTwo ≤ room)
    (split : ∀ position, both position = one position ++ two (position + (one position).length)) :
    Drives both room before after where
  bounded := drivesTwo.bounded
  logfile := drivesTwo.logfile.trans drivesOne.logfile
  dirty := drivesTwo.dirty.trans drivesOne.dirty
  visible := drivesTwo.visible.trans drivesOne.visible
  grows := drivesOne.grows.trans drivesTwo.grows
  fits := by
    have one := drivesOne.fits
    have two := drivesTwo.fits
    omega
  filters := by
    apply forall₂_comp ?_ drivesOne.filters drivesTwo.filters
    intro filter filter' filter'' relatedOne relatedTwo
    rw [relatedOne.1.index] at relatedTwo
    exact ⟨relatedOne.1.trans relatedTwo.1, relatedOne.2.trans relatedTwo.2 split⟩
  untouched slot unused := by
    rw [drivesTwo.untouched slot (drivesOne.places_eq ▸ unused), drivesOne.untouched slot unused]

/-- Room that is made beforehand is room that is needed. -/
theorem Drives.of_resized {further : Nat → List RawLine} {length room : Nat} (fits : length ≤ room)
    (drives : Drives further room { before with state := before.state.resize length } after) :
    Drives further room before after where
  bounded := drives.bounded
  logfile := drives.logfile
  dirty := drives.dirty
  visible := drives.visible
  grows := by
    have grows := drives.grows
    rw [FilterState.length_resize] at grows
    omega
  fits := by
    have fits := drives.fits
    rw [FilterState.length_resize] at fits
    omega
  filters := drives.filters.imp fun filter filter' related => by
    rw [FilterState.column_resize] at related
    exact related
  untouched slot unused := by
    rw [drives.untouched slot unused, FilterState.column_resize]

/-- Where no filter has anything to do, the engine stays as it is. -/
theorem drive_idle {act : Installed → FilterState → Except Fault (Installed × FilterState)}
    (idle : ∀ filter ∈ engine.registry.filters,
      act filter engine.state = .ok (filter, engine.state)) : engine.drive act = .ok engine := by
  rw [drive, driveAll_idle idle]
  rfl

/-- What each filter does by itself, all of them do together. -/
theorem drive_drives {act : Installed → FilterState → Except Fault (Installed × FilterState)}
    {further : Nat → List RawLine} {room : Nat} {told : Installed → Prop}
    (bounded : engine.state.Bounded) (distinct : engine.places.Nodup)
    (each : ∀ filter ∈ engine.registry.filters, ∀ state : FilterState, state.Bounded →
      engine.state.length ≤ state.length →
      state.column filter.index = engine.state.column filter.index →
      filter.Leads state room (act filter state) fun filter' column =>
        told filter' ∧ filter.ReadsOn (state.column filter.index) further filter' column) :
    ∃ after, engine.drive act = .ok after ∧ Drives further room engine after ∧
      ∀ filter ∈ after.registry.filters, told filter := by
  obtain ⟨filters', after, drives, boundedAfter, logfile, grows, fits, all, untouched⟩ :=
    driveAll_leads (fun filter filter' column => told filter' ∧
      filter.ReadsOn (engine.state.column filter.index) further filter' column) bounded distinct
      fun filter member state boundedState growsState _ own => own ▸ each filter member state
        boundedState growsState own
  refine ⟨{ engine with registry := { engine.registry with filters := filters' }, state := after },
    ?_, ⟨boundedAfter, logfile, rfl, rfl, grows, fits, ?_, untouched⟩, ?_⟩
  · rw [drive, drives]
    rfl
  · exact all.imp fun filter filter' related => ⟨related.1, related.2.2⟩
  · intro filter' member
    obtain ⟨filter, _, related⟩ := exists_left_of_forall₂ all member
    exact related.2.1

/-! ### Delivered lines -/

/-- A line is read by the filters for which it is the next one. -/
theorem observe_drives (bounded : engine.state.Bounded) (distinct : engine.places.Nodup)
    (number : Nat) (line : RawLine) :
    ∃ after, engine.observe number line = .ok after ∧
      Drives (fun position => if number = position then [line] else []) (number + 1) engine after ∧
      number + 1 ≤ after.state.length := by
  let resized : Engine := { engine with state := engine.state.resize (number + 1) }
  have drove : ∃ after, resized.drive (Filter.observe number line) = .ok after ∧
      Drives (fun position => if number = position then [line] else []) (number + 1) resized
        after ∧ ∀ filter ∈ after.registry.filters, True := by
    refine drive_drives (bounded.resize (number + 1)) distinct
      fun filter _ state boundedState grows _ => ?_
    have inRange : number ≤ state.length := by
      rw [FilterState.length_resize] at grows
      omega
    exact (filter.observe_leads boundedState (number + 1) line inRange).mono
      fun _ _ _ readsOn => ⟨trivial, readsOn⟩
  obtain ⟨after, observes, drives, _⟩ := drove
  refine ⟨after, observes, Drives.of_resized (Nat.le_refl _) drives, ?_⟩
  have grows := drives.grows
  rw [FilterState.length_resize] at grows
  omega

/-- Consecutive lines are read by each filter from its position on, unless the first of them is
behind it. -/
theorem observeAll_drives (bounded : engine.state.Bounded) (distinct : engine.places.Nodup)
    (first : Nat) (lines : List RawLine) :
    ∃ after, engine.observeAll first lines = .ok after ∧
      Drives (fun position => if position < first then [] else lines.drop (position - first))
        (first + lines.length) engine after := by
  induction lines generalizing engine first with
  | nil =>
      refine ⟨engine, rfl, ?_⟩
      have nothing : (fun position => if position < first then [] else
          ([] : List RawLine).drop (position - first)) = fun _ => [] := by
        funext position
        rw [List.drop_nil, ite_self]
      rw [nothing]
      exact drives_refl bounded _
  | cons line rest ih =>
      obtain ⟨next, observes, drives, _⟩ := observe_drives bounded distinct first line
      obtain ⟨after, observesRest, drivesRest⟩ :=
        ih drives.bounded (drives.places_eq ▸ distinct) (first + 1)
      refine ⟨after, ?_, drives.trans drivesRest ?_ ?_ ?_⟩
      · simp only [observeAll, observes, bind, Except.bind]
        exact observesRest
      · rw [List.length_cons]
        omega
      · rw [List.length_cons]
        omega
      · -- A filter at the first line reads it and then stands where the rest begins.
        intro position
        rcases Nat.lt_trichotomy position first with before | rfl | behind
        · simp [before, Nat.ne_of_gt before, show position < first + 1 by omega]
        · simp
        · have notBefore : ¬position < first := by omega
          have notNext : ¬position < first + 1 := by omega
          have apart : ¬first = position := by omega
          have dropped : position - first = position - (first + 1) + 1 := by omega
          simp [notBefore, notNext, apart, dropped]

/-- The end of the log ends the open messages. -/
theorem endOfFile_drives (bounded : engine.state.Bounded) (distinct : engine.places.Nodup)
    {room : Nat}
    (fits : ∀ filter ∈ engine.registry.filters, filter.position engine.state ≤ room) :
    ∃ after, engine.endOfFile = .ok after ∧ Drives (fun _ => []) room engine after ∧
      ∀ filter ∈ after.registry.filters, filter.pending.lines = 0 := by
  apply drive_drives bounded distinct
  intro filter member state boundedState _ own
  refine filter.settle_leads boundedState ?_
  have position : filter.position state = filter.position engine.state := by
    rw [Filter.position_eq_count, Filter.position_eq_count, own]
  exact position ▸ fits filter member

/-! ### A whole pass -/

/-- Let the filters read consecutive lines and end the open messages. -/
def readOut (engine : Engine) (first : Nat) (lines : List RawLine) : Except Fault Engine := do
  let engine ← engine.observeAll first lines
  engine.endOfFile

/-- A pass decides all that was read before and all that it brings.  No filter may stand behind its
end. -/
theorem readOut_drives (bounded : engine.state.Bounded) (distinct : engine.places.Nodup)
    (first : Nat) (lines : List RawLine)
    (reads : ∀ filter ∈ engine.registry.filters, ∃ base heard,
      filter.Reads base (engine.state.column filter.index) heard ∧
        base.count + heard.length ≤ first + lines.length) :
    ∃ after, engine.readOut first lines = .ok after ∧
      Drives (fun position => if position < first then [] else lines.drop (position - first))
        (first + lines.length) engine after ∧
      ∀ filter ∈ after.registry.filters, filter.pending.lines = 0 := by
  obtain ⟨middle, observes, drives⟩ := observeAll_drives bounded distinct first lines
  have fits : ∀ filter ∈ middle.registry.filters,
      filter.position middle.state ≤ first + lines.length := by
    intro filter' member
    obtain ⟨filter, isFilter, alike, readsOn⟩ := exists_left_of_forall₂ drives.filters member
    obtain ⟨base, heard, reads, inLines⟩ := reads filter isFilter
    have readsNext := readsOn base heard reads
    rw [← alike.index] at readsNext
    rw [readsNext.position_of, List.length_append]
    dsimp only
    split
    · rw [List.length_nil]
      omega
    · rw [List.length_drop]
      omega
  obtain ⟨after, ends, drivesEnd, allClosed⟩ :=
    endOfFile_drives drives.bounded (drives.places_eq ▸ distinct) fits
  refine ⟨after, ?_, drives.trans drivesEnd (Nat.le_refl _) (Nat.le_refl _) ?_, allClosed⟩
  · simp only [readOut, observes, bind, Except.bind]
    exact ends
  · intro position
    rw [List.append_nil]

end Engine

end LogLens
