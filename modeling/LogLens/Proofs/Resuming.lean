/-
Module: LogLens.Proofs.Resuming
Purpose: A refresh has only the lines read again that some filter may lack.  Lines behind all
  positions change nothing, so that a refresh from the first line on ends in the same engine; and
  each filter has then stamped every line of the log, and all that it had read beyond.
Main exports: Engine.observeAll_behind, Engine.refreshFrom_of_le, Engine.Moves,
  Engine.Ordered.refresh_moves, Engine.refresh_resumes
-/
import LogLens.Proofs.Operating
import LogLens.Regex.Compile

namespace LogLens

/-! ### How far a filter comes

The open message and the last one may be any: nothing is asked of what a filter has read. -/

namespace Filter

variable {before : FilterState}

/-- Once its message has ended, a filter has stamped what it had read. -/
theorem settle_moves (filter : Installed) (bounded : before.Bounded) {room : Nat}
    (fits : filter.position before ≤ room) :
    filter.Leads before room (filter.settle before) fun filter' column =>
      filter'.pending.lines = 0 ∧ column.count = filter.position before := by
  obtain ⟨filter', column, length, after, settles, alike, alters, grows, fits, closed, _⟩ :=
    filter.settle_leads bounded fits
  refine ⟨filter', column, length, after, settles, alike, alters, grows, fits, closed, ?_⟩
  rw [← alters.own, FilterState.count_column]
  exact count_of_settle bounded settles

/-- Making ready for a line keeps the position, whatever message is ended or opened again. -/
theorem prepare_moves (filter : Installed) (bounded : before.Bounded) {room : Nat}
    (fits : filter.position before ≤ room) (starts : Bool) :
    filter.Leads before room (filter.prepare starts before) fun filter' column =>
      column.count + filter'.pending.lines = filter.position before := by
  have stays : filter.Leads before room (.ok (filter, before)) fun filter' column =>
      column.count + filter'.pending.lines = filter.position before :=
    Leads.refl bounded (filter.position_eq_count before).symm
  unfold prepare
  cases starts with
  | true =>
      apply (filter.settle_moves bounded fits).mono
      rintro filter' column _ ⟨closed, counted⟩
      simp only [closed, counted, Nat.add_zero]
  | false =>
      rw [if_neg Bool.false_ne_true]
      by_cases closed : filter.pending.lines = 0
      · rw [if_pos closed]
        cases isLast : filter.last with
        | none =>
            rw [reopen_none isLast]
            exact stays
        | some message =>
            obtain ⟨after, reopens, alters⟩ := reopen_alters isLast bounded
            rw [reopens]
            refine ⟨_, _, _, after, rfl, ⟨rfl, rfl, rfl, rfl⟩, alters, Nat.le_refl _,
              Nat.le_max_left _ _, ?_⟩
            simp only [Column.count_unstamp, FilterState.count_column, position, closed]
            omega
      · rw [if_neg closed]
        exact stays

/-- A filter moves by the line that is next for it. -/
theorem observe_moves (filter : Installed) (bounded : before.Bounded) (room : Nat) {number : Nat}
    (line : RawLine) (inRange : number ≤ before.length) :
    filter.Leads before room (filter.observe number line before) fun filter' column =>
      column.count + filter'.pending.lines =
        if number = filter.position before then filter.position before + 1
        else filter.position before := by
  unfold observe
  by_cases isNext : number = filter.position before
  · have hasRoom : filter.position before ≤ before.length := isNext ▸ inRange
    obtain ⟨filter', column, length, after, prepares, alike, alters, grows, fits, moved⟩ :=
      filter.prepare_moves bounded hasRoom line.starts
    rw [if_neg (not_not_intro isNext), prepares]
    refine ⟨filter'.addLine line.bytes, column, length, after, rfl,
      alike.trans (alike_addLine filter' line.bytes), alters, grows, by omega, ?_⟩
    rw [if_pos isNext, ← moved]
    rfl
  · rw [if_pos isNext]
    apply Leads.refl bounded
    rw [if_neg isNext, filter.position_eq_count]

end Filter

namespace Engine

variable {engine before middle after : Engine}

/-! ### Lines behind all positions -/

/-- A line that every filter has read changes nothing. -/
theorem observe_behind {number : Nat} (room : number < engine.state.length)
    (behind : ∀ filter ∈ engine.registry.filters, number < filter.position engine.state)
    (line : RawLine) : engine.observe number line = .ok engine := by
  rw [observe, FilterState.resize_of_le room]
  apply drive_idle
  intro filter member
  rw [Filter.observe, if_pos (Nat.ne_of_lt (behind filter member))]

/-- Lines that every filter has read may be left out. -/
theorem observeAll_behind {first : Nat} {lines : List RawLine}
    (room : first + lines.length ≤ engine.state.length)
    (behind : ∀ filter ∈ engine.registry.filters,
      first + lines.length ≤ filter.position engine.state) (rest : List RawLine) :
    engine.observeAll first (lines ++ rest) = engine.observeAll (first + lines.length) rest := by
  induction lines generalizing first with
  | nil => rfl
  | cons line lines ih =>
      have shift : first + (line :: lines).length = first + 1 + lines.length := by
        simp [Nat.add_comm, Nat.add_left_comm]
      rw [shift] at room behind ⊢
      have isBehind : ∀ filter ∈ engine.registry.filters, first < filter.position engine.state := by
        intro filter member
        have notBefore := behind filter member
        omega
      rw [List.cons_append, observeAll, observe_behind (by omega) isBehind]
      exact ih room behind

/-- It is all one from which line on a refresh has the log read again, if every filter has stamped
the lines in front of it. -/
theorem refreshFrom_of_le {first : Nat} {source : Source}
    (inFront : first ≤ engine.sync.minCount source.lines.length) :
    engine.refreshFrom first source = engine.refresh source := by
  rw [refreshFrom_eq_readOut, refresh_eq_readOut]
  generalize isLeast : engine.sync.minCount source.lines.length = least at inFront
  have inLog : least ≤ source.lines.length := isLeast ▸ minCount_le _ _
  let resized : Engine := { engine.sync with
    state := engine.sync.state.resize source.lines.length }
  let again := (source.lines.drop first).take (least - first)
  have stop : first + again.length = least := by
    simp only [again, List.length_take, List.length_drop]
    omega
  have whole : source.lines.drop first = again ++ source.lines.drop least := by
    rw [← List.take_append_drop (least - first) (source.lines.drop first), List.drop_drop,
      Nat.add_sub_cancel' inFront]
  have room : least ≤ resized.state.length := by
    rw [FilterState.length_resize]
    exact inLog.trans (Nat.le_max_right _ _)
  have behind : ∀ filter ∈ resized.registry.filters, least ≤ filter.position resized.state := by
    intro filter member
    have stamped : engine.sync.minCount source.lines.length ≤ engine.sync.state.count filter.index :=
      minCount_le_count member _
    rw [isLeast] at stamped
    exact stamped.trans (Nat.le_add_right _ _)
  have skips : resized.observeAll first (source.lines.drop first) =
      resized.observeAll least (source.lines.drop least) := by
    rw [whole, observeAll_behind (stop ▸ room) (stop ▸ behind), stop]
  simp only [readOut, resized, skips]

/-! ### How far all filters come -/

/-- The filters of the one engine stand, in the other, at the positions that follow theirs. -/
def Moves (next : Nat → Nat) (before after : Engine) : Prop :=
  List.Forall₂ (fun filter filter' => filter.Alike filter' ∧
    filter'.position after.state = next (filter.position before.state))
    before.registry.filters after.registry.filters

theorem Moves.trans {one two both : Nat → Nat} (movesOne : Moves one before middle)
    (movesTwo : Moves two middle after) (split : ∀ position, both position = two (one position)) :
    Moves both before after := by
  apply forall₂_comp ?_ movesOne movesTwo
  rintro filter filter' filter'' ⟨alike, moved⟩ ⟨alikeNext, movedNext⟩
  exact ⟨alike.trans alikeNext, by rw [movedNext, moved, split]⟩

/-- How far each filter comes by itself, all of them come together. -/
theorem drive_moves {act : Installed → FilterState → Except Fault (Installed × FilterState)}
    {next : Nat → Nat} (room : Nat) (bounded : engine.state.Bounded)
    (distinct : engine.places.Nodup)
    (each : ∀ filter ∈ engine.registry.filters, ∀ state : FilterState, state.Bounded →
      engine.state.length ≤ state.length → filter.position state = filter.position engine.state →
      filter.Leads state room (act filter state) fun filter' column =>
        column.count + filter'.pending.lines = next (filter.position state))
    (drives : engine.drive act = .ok after) : Moves next engine after := by
  obtain ⟨filters', state, drove, _, _, _, _, all, _⟩ :=
    driveAll_leads (fun filter filter' column =>
      column.count + filter'.pending.lines = next (filter.position engine.state)) bounded distinct
      fun filter member state boundedState grows _ own => by
        have position : filter.position state = filter.position engine.state := by
          rw [Filter.position_eq_count, Filter.position_eq_count, own]
        exact position ▸ each filter member state boundedState grows position
  rw [drive, drove] at drives
  cases drives
  apply all.imp
  rintro filter filter' ⟨alike, moved⟩
  refine ⟨alike, ?_⟩
  rw [Filter.position_eq_count, alike.index]
  exact moved

/-- Observing a line moves the filters that wait for it, and no others. -/
theorem observe_moves (bounded : engine.state.Bounded) (distinct : engine.places.Nodup)
    {number : Nat} {line : RawLine} (observes : engine.observe number line = .ok after) :
    Moves (fun position => if number = position then position + 1 else position) engine after := by
  let resized : Engine := { engine with state := engine.state.resize (number + 1) }
  have moves : Moves (fun position => if number = position then position + 1 else position) resized
      after := by
    refine drive_moves (number + 1) (bounded.resize (number + 1)) distinct ?_ observes
    intro filter _ state boundedState grows _
    have inRange : number ≤ state.length := by
      rw [FilterState.length_resize] at grows
      omega
    exact filter.observe_moves boundedState (number + 1) line inRange
  exact moves

/-- Of consecutive lines a filter reads those from its position on, if it has come to the first. -/
theorem observeAll_moves (bounded : engine.state.Bounded) (distinct : engine.places.Nodup)
    {first : Nat} {lines : List RawLine} (observes : engine.observeAll first lines = .ok after) :
    Moves (fun position => if position < first then position else max position (first + lines.length))
      engine after := by
  induction lines generalizing engine first with
  | nil =>
      cases observes
      refine List.forall₂_same.2 fun filter _ => ⟨Filter.Alike.refl filter, ?_⟩
      simp only [List.length_nil]
      split <;> omega
  | cons line rest ih =>
      obtain ⟨next, observesLine, drives, _⟩ := observe_drives bounded distinct first line
      simp only [observeAll, observesLine, bind, Except.bind] at observes
      apply (observe_moves bounded distinct observesLine).trans
        (ih drives.bounded (drives.places_eq ▸ distinct) observes)
      intro position
      rw [List.length_cons]
      rcases Nat.lt_trichotomy position first with before | rfl | behind
      · simp [before, Nat.ne_of_gt before, Nat.lt_succ_of_lt before]
      · simp [Nat.add_comm, Nat.add_left_comm]
      · simp [Nat.ne_of_lt behind, Nat.not_lt_of_gt behind, Nat.not_lt_of_ge behind,
          Nat.add_comm, Nat.add_left_comm]

/-- The end of the log moves no filter. -/
theorem endOfFile_moves (bounded : engine.state.Bounded) (distinct : engine.places.Nodup)
    (ends : engine.endOfFile = .ok after) : Moves (fun position => position) engine after := by
  obtain ⟨room, fits⟩ := exists_position_le engine.registry.filters engine.state
  refine drive_moves room bounded distinct ?_ ends
  intro filter member state boundedState _ position
  have fits : filter.position state ≤ room := position ▸ fits filter member
  apply (filter.settle_moves boundedState fits).mono
  rintro filter' column _ ⟨closed, counted⟩
  simp only [closed, counted, Nat.add_zero]

/-- A refresh brings each filter to the end of the log and closes its message.  One that had read
more lines than the log has stays where it was. -/
theorem Ordered.refresh_moves (ordered : engine.Ordered) (source : Source) :
    ∃ after : Engine, engine.refresh source = .ok (after.rebuild source.lines.length) ∧
      after.Tidy ∧ source.lines.length ≤ after.state.length ∧
      (∀ filter ∈ after.registry.filters, filter.pending.lines = 0) ∧
      Moves (max source.lines.length) engine.sync after := by
  let resized : Engine := { engine.sync with
    state := engine.sync.state.resize source.lines.length }
  have bounded : resized.state.Bounded := (bounded_sync ordered.bounded).resize _
  have distinct : resized.places.Nodup := ordered.wellFormed.places
  obtain ⟨middle, observes, drives⟩ := observeAll_drives bounded distinct 0 source.lines
  have distinctMiddle : middle.places.Nodup := drives.places_eq ▸ distinct
  obtain ⟨room, fits⟩ := exists_position_le middle.registry.filters middle.state
  obtain ⟨after, ends, drivesEnd, allClosed⟩ := endOfFile_drives drives.bounded distinctMiddle fits
  have moves := (observeAll_moves bounded distinct observes).trans
    (endOfFile_moves drives.bounded distinctMiddle ends) fun _ => rfl
  have readsOut : resized.readOut 0 source.lines = .ok after := by
    simp only [readOut, observes, bind, Except.bind]
    exact ends
  refine ⟨after, ?_, ?_, ?_, allClosed, ?_⟩
  · rw [← refreshFrom_of_le (Nat.zero_le _), refreshFrom_eq_readOut, List.drop_zero]
    exact congrArg (Except.map _) readsOut
  · have tidy := tidy_sync ordered.bounded ordered.wellFormed
    have drivesLog := Drives.of_resized (Nat.zero_add source.lines.length).ge drives
    exact tidy.drives (drivesLog.trans drivesEnd (Nat.le_max_left _ room) (Nat.le_max_right _ _)
      fun _ => rfl)
  · have grows := drives.grows.trans drivesEnd.grows
    rw [FilterState.length_resize] at grows
    exact (Nat.le_max_right _ _).trans grows
  · apply moves.imp
    rintro filter filter' ⟨alike, moved⟩
    refine ⟨alike, moved.trans ?_⟩
    simp only [Nat.not_lt_zero, if_false, Nat.zero_add]
    exact Nat.max_comm _ _

/-- A refresh has the lines read again from the first one on that some filter has yet to stamp.  Had
it begun with the first line of the log, it would have come to the same engine.  All messages are
closed then, and each filter has stamped all lines of the log, or all that it had read if these are
more.  In order are all engines that operations lead to (`ordered_run`), and those that have the
results of one and the filters of another. -/
theorem refresh_resumes (ordered : engine.Ordered) (source : Source) :
    ∃ after, engine.refresh source = .ok after ∧ engine.refreshFrom 0 source = .ok after ∧
      List.Forall₂ (fun filter filter' => filter.Alike filter' ∧ filter'.pending.lines = 0 ∧
          after.state.count filter'.index =
            max source.lines.length (filter.position engine.sync.state))
        engine.registry.filters after.registry.filters := by
  obtain ⟨after, refreshes, _, _, allClosed, moves⟩ := ordered.refresh_moves source
  refine ⟨_, refreshes, ?_, ?_⟩
  · rw [refreshFrom_of_le (Nat.zero_le _), refreshes]
  · apply ((List.forall₂_and_left _ _).2 ⟨allClosed, moves.flip⟩).flip.imp
    rintro filter filter' ⟨closed, alike, moved⟩
    rw [Filter.position, closed, Nat.add_zero] at moved
    exact ⟨alike, closed, moved⟩

/-- One filter has read three lines and holds the last two open.  Another one came later, has read one
line and is noted to be evaluated anew.  The log was then cut to two lines. -/
theorem refresh_resumes_cut :
    let log : Source := ⟨"a.log", [⟨[98], true⟩, ⟨[97], true⟩, ⟨[98], false⟩]⟩
    let cut : Source := ⟨"a.log", [⟨[98], true⟩, ⟨[97], true⟩]⟩
    let operations : List Operation := [.change (.addPattern .keep "b" false), .sync,
      .newLines log 0 3, .change (.addPattern .hide "a" false), .observe 0 ⟨[98], true⟩]
    ∃ engine after, operations.foldlM perform (Engine.new "a.log") = .ok engine ∧
      (engine.registry.filters.map fun filter => filter.position engine.sync.state) = [3, 1] ∧
      engine.refresh cut = .ok after ∧ engine.refreshFrom 0 cut = .ok after ∧
      (after.registry.filters.map fun filter => after.state.count filter.index) = [3, 2] := by
  intro log cut operations
  have standing : (operations.foldlM perform (Engine.new "a.log")).map (fun engine =>
      engine.registry.filters.map fun filter => filter.position engine.sync.state) =
      .ok [3, 1] := by
    decide +kernel
  obtain ⟨engine, runs, positions⟩ := ok_of_map standing
  obtain ⟨after, refreshes, restarts, all⟩ := refresh_resumes (ordered_run runs) cut
  refine ⟨engine, after, runs, positions, refreshes, restarts, ?_⟩
  have counts : (after.registry.filters.map fun filter => after.state.count filter.index) =
      (engine.registry.filters.map fun filter => filter.position engine.sync.state).map (max 2) := by
    rw [List.map_map, ← List.forall₂_eq_eq_eq, List.forall₂_map_left_iff,
      List.forall₂_map_right_iff]
    exact all.flip.imp fun _ _ related => related.2.2
  simp [counts, positions]

end Engine

end LogLens
