/-
Module: LogLens.Proofs.Delivery
Purpose: Lines of a log that reach the filters in any order, with gaps and more than once, and with
  the end of the log announced at any time.  Each filter reads the log from its start on, line by
  line, and what it has found is what one pass over the lines it has read finds.
Main exports: Delivery, Engine.deliver, Engine.deliverAll, Engine.ReadsPrefixes,
  Engine.deliverAll_prefix
-/
import LogLens.Proofs.Driving

namespace LogLens

/-- What reaches the filters: one of the lines of a log, or its end. -/
inductive Delivery (source : Source) where
  | line (number : Fin source.lines.length)
  | endOfFile

/-- The lines that a filter at a position reads of a delivery. -/
def Delivery.further {source : Source} : Delivery source → Nat → List RawLine
  | .line number, position => if number.val = position then [source.lines[number]] else []
  | .endOfFile, _ => []

/-- Whether a delivery is the line at a position. -/
def Delivery.isAt {source : Source} : Delivery source → Nat → Bool
  | .line number, position => number.val == position
  | .endOfFile, _ => false

theorem Delivery.length_further {source : Source} (delivery : Delivery source) (position : Nat) :
    (delivery.further position).length = if delivery.isAt position then 1 else 0 := by
  cases delivery with
  | endOfFile => rfl
  | line number =>
      simp only [further, isAt, beq_iff_eq]
      split <;> rfl

theorem Delivery.continues {source : Source} (delivery : Delivery source) :
    Continues source.lines delivery.further := by
  cases delivery with
  | endOfFile => exact continues_nothing source.lines
  | line number => exact continues_line (List.getElem?_eq_getElem number.isLt)

namespace Engine

variable {source : Source} {engine : Engine}

def deliver (engine : Engine) : Delivery source → Except Fault Engine
  | .line number => engine.observe number source.lines[number]
  | .endOfFile => engine.endOfFile

def deliverAll (engine : Engine) (deliveries : List (Delivery source)) : Except Fault Engine :=
  deliveries.foldlM deliver engine

/-- Every filter has read the lines of a log up to its position. -/
structure ReadsPrefixes (engine : Engine) (lines : List RawLine) : Prop where
  bounded : engine.state.Bounded
  distinct : engine.places.Nodup
  reads : ∀ filter ∈ engine.registry.filters,
    filter.HasRead lines {} [] (engine.state.column filter.index)

theorem readsPrefixes_of_fresh {filters : List Installed} (fresh : ∀ filter ∈ filters, filter.Fresh)
    (distinct : (filters.map Filter.index).Nodup) (dirty : Mask) (logfile : String)
    (lines : List RawLine) :
    ReadsPrefixes { registry := { filters, dirty }, state := FilterState.new logfile } lines where
  bounded := FilterState.bounded_new logfile
  distinct := distinct
  reads filter member := by
    refine ⟨0, Nat.le_refl 0, Nat.zero_le _, ?_⟩
    rw [FilterState.column_new, List.take_zero, List.drop_nil]
    exact Filter.reads_of_fresh (fresh filter member) {}

/-- A filter's position is the length of the prefix it has read. -/
theorem ReadsPrefixes.position_le {lines : List RawLine} (prefixes : engine.ReadsPrefixes lines)
    {filter : Installed} (member : filter ∈ engine.registry.filters) :
    filter.position engine.state ≤ lines.length ∧
      filter.Reads {} (engine.state.column filter.index)
        (lines.take (filter.position engine.state)) := by
  obtain ⟨_, inLog, reads⟩ := (prefixes.reads filter member).at_position
  rw [Filter.position_eq_count]
  exact ⟨inLog, reads⟩

/-- One delivery: whatever it is, it takes each filter to the line behind at most. -/
theorem ReadsPrefixes.deliver (prefixes : engine.ReadsPrefixes source.lines)
    (delivery : Delivery source) :
    ∃ next room, engine.deliver delivery = .ok next ∧
      Drives delivery.further room engine next ∧ next.ReadsPrefixes source.lines := by
  have drives : ∃ next room, engine.deliver delivery = .ok next ∧
      Drives delivery.further room engine next := by
    cases delivery with
    | line number =>
        obtain ⟨next, observes, drives, _⟩ := observe_drives prefixes.bounded prefixes.distinct
          number.val source.lines[number]
        exact ⟨next, _, observes, drives⟩
    | endOfFile =>
        obtain ⟨next, ends, drives, _⟩ := endOfFile_drives prefixes.bounded prefixes.distinct
          fun filter member => (prefixes.position_le member).1
        exact ⟨next, _, ends, drives⟩
  obtain ⟨next, room, delivers, drives⟩ := drives
  refine ⟨next, room, delivers, drives, drives.bounded, drives.places_eq ▸ prefixes.distinct, ?_⟩
  intro filter' member
  obtain ⟨filter, isFilter, alike, readsOn⟩ := exists_left_of_forall₂ drives.filters member
  rw [alike.index]
  exact (prefixes.reads filter isFilter).readsOn delivery.continues readsOn

/-- A delivery moves a filter by one line if it is the line at its position, and else not at all. -/
theorem ReadsPrefixes.moves (prefixes : engine.ReadsPrefixes source.lines)
    (delivery : Delivery source) :
    ∃ next, engine.deliver delivery = .ok next ∧
      List.Forall₂ (fun filter filter' => filter.Alike filter' ∧
        filter'.position next.state = filter.position engine.state +
          if delivery.isAt (filter.position engine.state) then 1 else 0)
        engine.registry.filters next.registry.filters := by
  obtain ⟨next, _, delivers, drives, _⟩ := prefixes.deliver delivery
  refine ⟨next, delivers, ?_⟩
  have standing := (List.forall₂_and_left _ _).2
    ⟨fun filter member => (prefixes.position_le member).2, drives.filters⟩
  apply standing.imp
  rintro filter filter' ⟨reads, alike, readsOn⟩
  refine ⟨alike, ?_⟩
  rw [← delivery.length_further]
  exact readsOn.position_eq alike reads

/-- Whatever is delivered, in whatever order, each filter has read a prefix of the log afterwards. -/
theorem ReadsPrefixes.deliverAll (prefixes : engine.ReadsPrefixes source.lines)
    (deliveries : List (Delivery source)) :
    ∃ after, engine.deliverAll deliveries = .ok after ∧ after.ReadsPrefixes source.lines ∧
      List.Forall₂ Filter.Alike engine.registry.filters after.registry.filters := by
  have unchanged : List.Forall₂ Filter.Alike engine.registry.filters engine.registry.filters :=
    List.forall₂_same.2 fun filter _ => Filter.Alike.refl filter
  apply foldlM_ok _ deliveries ⟨prefixes, unchanged⟩
  rintro middle delivery ⟨prefixesMiddle, alike⟩
  obtain ⟨next, room, delivers, drives, prefixesNext⟩ := prefixesMiddle.deliver delivery
  refine ⟨next, delivers, prefixesNext, ?_⟩
  exact forall₂_comp (fun _ _ _ one two => one.trans two) alike drives.alike

/-- At the end of the log each filter decides on the lines up to its position. -/
theorem ReadsPrefixes.endOfFile {lines : List RawLine} (prefixes : engine.ReadsPrefixes lines) :
    ∃ final, engine.endOfFile = .ok final ∧ final.state.Bounded ∧
      ∀ filter ∈ engine.registry.filters, final.state.column filter.index =
        ({} : Column).extend filter.isMatch (lines.take (filter.position engine.state)) := by
  obtain ⟨final, ends, drives, allClosed⟩ := endOfFile_drives prefixes.bounded prefixes.distinct
    fun filter member => (prefixes.position_le member).1
  refine ⟨final, ends, drives.bounded, ?_⟩
  intro filter member
  obtain ⟨filter', isFinal, alike, readsOn⟩ := exists_right_of_forall₂ drives.filters member
  have readsFinal := readsOn {} _ (prefixes.position_le member).2
  have column := (readsFinal.stands_closed (allClosed filter' isFinal)).column_eq
  rw [List.append_nil, alike.isMatch_eq] at column
  exact column

/-- Filters that have read nothing decide in one pass over lines by the messages that these form. -/
theorem readOut_columns (bounded : engine.state.Bounded) (distinct : engine.places.Nodup)
    (unread : ∀ filter ∈ engine.registry.filters,
      filter.Reads {} (engine.state.column filter.index) []) (lines : List RawLine) :
    ∃ after, engine.readOut 0 lines = .ok after ∧ ∀ filter ∈ engine.registry.filters,
      after.state.column filter.index = ({} : Column).extend filter.isMatch lines := by
  obtain ⟨after, readsOut, drives, allClosed⟩ := readOut_drives bounded distinct 0 lines
    fun filter member => ⟨{}, [], unread filter member, Nat.zero_le _⟩
  refine ⟨after, readsOut, ?_⟩
  intro filter member
  obtain ⟨filter', isNext, alike, readsOn⟩ := exists_right_of_forall₂ drives.filters member
  have stands := (readsOn {} [] (unread filter member)).stands_closed (allClosed filter' isNext)
  rw [stands.column_eq, alike.isMatch_eq]
  rfl

/-- Fresh filters at different places read whatever reaches them without fail.  A delivery moves a
filter by one line if it is the line at its position, and else not at all.  Once the log is ended,
each filter has decided on the lines up to its position, by the messages that these lines form, as
in one pass over them. -/
theorem deliverAll_prefix {filters : List Installed} (fresh : ∀ filter ∈ filters, filter.Fresh)
    (distinct : (filters.map Filter.index).Nodup) (dirty : Mask) (logfile : String)
    (source : Source) (deliveries : List (Delivery source)) :
    let start : Engine := { registry := { filters, dirty }, state := FilterState.new logfile }
    ∃ engine, start.deliverAll deliveries = .ok engine ∧
      List.Forall₂ Filter.Alike filters engine.registry.filters ∧
      (∀ delivery : Delivery source, ∃ next, engine.deliver delivery = .ok next ∧
        List.Forall₂ (fun filter filter' => filter.Alike filter' ∧
          filter'.position next.state = filter.position engine.state +
            if delivery.isAt (filter.position engine.state) then 1 else 0)
          engine.registry.filters next.registry.filters) ∧
      ∃ final, engine.endOfFile = .ok final ∧
        ∀ filter ∈ engine.registry.filters,
          let read := source.lines.take (filter.position engine.state)
          read.length = filter.position engine.state ∧ final.state.Decides filter read ∧
            ∃ once, start.readOut 0 read = .ok once ∧
              once.state.column filter.index = final.state.column filter.index := by
  intro start
  obtain ⟨engine, delivers, prefixes, alike⟩ :=
    (readsPrefixes_of_fresh fresh distinct dirty logfile source.lines).deliverAll deliveries
  obtain ⟨final, ends, bounded, columns⟩ := prefixes.endOfFile
  refine ⟨engine, delivers, alike, prefixes.moves, final, ends, ?_⟩
  intro filter member read
  have distinctStart : start.places.Nodup := distinct
  have unread : ∀ filter ∈ start.registry.filters,
      filter.Reads {} (start.state.column filter.index) [] := by
    intro filter member
    rw [FilterState.column_new]
    exact Filter.reads_of_fresh (fresh filter member) {}
  obtain ⟨once, readsOut, columnsOnce⟩ :=
    readOut_columns (FilterState.bounded_new logfile) distinctStart unread read
  refine ⟨?_, bounded.decides (columns filter member), once, readsOut, ?_⟩
  · have inLog := (prefixes.position_le member).1
    rw [List.length_take, Nat.min_eq_left inLog]
  · obtain ⟨first, isFirst, alikeFirst⟩ := exists_left_of_forall₂ alike member
    rw [columns filter member, alikeFirst.index, alikeFirst.isMatch_eq]
    exact columnsOnce first isFirst

/-- The second line comes after the end of its message was announced, once too early and once too
late. -/
theorem deliverAll_prefix_late :
    let filters := [Filter.sample .keep 0, Filter.sample .hide 1]
    let source : Source := ⟨"a.log", [⟨[97], true⟩, ⟨[98], false⟩, ⟨[97], true⟩]⟩
    let deliveries : List (Delivery source) := [.line ⟨1, by decide⟩, .line ⟨0, by decide⟩,
      .endOfFile, .line ⟨1, by decide⟩, .line ⟨2, by decide⟩, .line ⟨1, by decide⟩]
    let start : Engine := { registry := { filters }, state := FilterState.new "a.log" }
    (∀ filter ∈ filters, filter.Fresh) ∧ (filters.map Filter.index).Nodup ∧
      ∃ engine final, start.deliverAll deliveries = .ok engine ∧ engine.endOfFile = .ok final ∧
        ∀ filter ∈ engine.registry.filters,
          final.state.Decides filter (source.lines.take (filter.position engine.state)) := by
  intro filters source deliveries start
  have fresh : ∀ filter ∈ filters, filter.Fresh := by
    intro filter member
    rcases List.mem_pair.1 member with rfl | rfl <;> exact Filter.fresh_sample _ _
  have distinct : (filters.map Filter.index).Nodup := by decide
  obtain ⟨engine, delivers, _, _, final, ends, decided⟩ :=
    deliverAll_prefix fresh distinct 0 "a.log" source deliveries
  exact ⟨fresh, distinct, engine, final, delivers, ends, fun filter member =>
    (decided filter member).2.1⟩

end Engine

end LogLens
