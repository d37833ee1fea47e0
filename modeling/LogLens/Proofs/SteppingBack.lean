/-
Module: LogLens.Proofs.SteppingBack
Purpose: The step back from the end of a message.  It restores the state as it was before the message
  ended, up to the room that was made for its lines, and leaves all of its lines but the last one
  open; if this line is read again and the message ended again, all is as it was before the step back.
  There is one step back for each message that ended.
Main exports: FilterState.Reached, Filter.stepBack_endMessage, Filter.endMessage_again, Bench.Spent,
  Bench.run_stepBack
-/
import LogLens.Proofs.FreeFilters
import LogLens.Proofs.Reading

namespace LogLens

open FilterState (Alters)

/-- A state that fresh filters at different places have left, however they were driven. -/
def FilterState.Reached (state : FilterState) : Prop :=
  ∃ filters logfile actions bench, (∀ filter ∈ filters, filter.Fresh) ∧
    (filters.map Filter.index).Nodup ∧
      (Bench.mk filters (FilterState.new logfile)).run actions = .ok bench ∧ bench.state = state

theorem FilterState.Reached.bounded {state : FilterState} (reached : state.Reached) :
    state.Bounded := by
  obtain ⟨filters, logfile, actions, bench, fresh, distinct, runs, rfl⟩ := reached
  exact ((Bench.sound_of_fresh fresh distinct logfile).run runs).bounded

/-! ### One filter -/

namespace Filter

variable {filter : Installed} {state stamped : FilterState}

/-- Lines that are read are noted of the open message, and nothing else changes. -/
theorem foldl_addLine_eq (filter : Installed) (lines : List Bytes) :
    lines.foldl addLine filter = { filter with
      pending := ⟨filter.pending.matched || lines.any filter.isMatch,
        filter.pending.lines + lines.length⟩ } := by
  induction lines generalizing filter with
  | nil => simp
  | cons line rest ih =>
      have same : (filter.addLine line).isMatch = filter.isMatch := rfl
      rw [List.foldl_cons, ih, same]
      simp [addLine, Bool.or_assoc, Nat.add_assoc, Nat.add_comm 1]

/-- The filter as the end of its message leaves it. -/
def ended (filter : Installed) : Installed :=
  { filter with pending := {}, last := some filter.pending }

/-- The filter as the step back leaves it: the last line of its message is unread, and what was found
stands unless it was the only line. -/
def steppedBack (filter : Installed) : Installed :=
  { filter with
    pending := ⟨filter.pending.matched && filter.pending.lines > 1, filter.pending.lines - 1⟩
    last := none }

/-- A message that has just ended is opened again as it was; the state is as before the end, but for
the room. -/
theorem reopen_endMessage (bounded : state.Bounded) (hasLines : 0 < filter.pending.lines)
    (ends : filter.endMessage state = .ok (filter.ended, stamped)) :
    filter.ended.reopen stamped =
      .ok (filter.pending.lines, { filter with last := none }, state.resize stamped.length) := by
  obtain ⟨stamped', ends', stamps⟩ := filter.endMessage_alters bounded
  cases ends.symm.trans ends'
  have last : filter.ended.last = some filter.pending := rfl
  obtain ⟨restored, reopens, takesBack⟩ := reopen_alters last stamps.bounded
  have stampedLines : stamped.count filter.ended.index =
      state.count filter.index + filter.pending.lines := by
    rw [← FilterState.count_column, ← FilterState.count_column]
    exact (congrArg Column.count stamps.own).trans (Column.count_stamp _ _ _)
  have allLines : min filter.pending.lines (stamped.count filter.ended.index) =
      filter.pending.lines := by omega
  have same : restored = state.resize stamped.length := by
    apply FilterState.ext_columns takesBack.bounded (bounded.resize _)
    · exact takesBack.logfile.trans stamps.logfile
    · rw [takesBack.length_eq, FilterState.length_resize, stamps.length_eq]
      omega
    · intro slot
      rw [FilterState.column_resize]
      by_cases own : slot = filter.index
      · subst own
        refine takesBack.own.trans ?_
        rw [show stamped.column filter.ended.index = stamped.column filter.index from rfl,
          stamps.own, Column.unstamp_stamp]
      · exact (takesBack.other slot own).trans (stamps.other slot own)
  simp only [allLines] at reopens
  simpa [same, ended, hasLines] using reopens

/-- What a step back makes of a message that has just ended. -/
theorem stepBack_endMessage (bounded : state.Bounded) (hasLines : 0 < filter.pending.lines)
    (ends : filter.endMessage state = .ok (filter.ended, stamped)) :
    filter.ended.stepBack stamped = .ok (filter.steppedBack, state.resize stamped.length) := by
  simp only [stepBack, reopen_endMessage bounded hasLines ends, bind, Except.bind,
    Nat.ne_of_gt hasLines, if_false]
  rfl

/-- Room that is there for the lines of a message does not matter when it ends. -/
theorem endMessage_roomy (filter : Installed) {state : FilterState} {room : Nat}
    (enough : room ≤ max state.length (filter.position state)) :
    filter.endMessage (state.resize room) = filter.endMessage state := by
  have same : (state.resize room).resize (filter.position state) =
      state.resize (filter.position state) := by
    rcases Nat.lt_or_ge state.length room with grows | fits
    · rw [FilterState.resize_resize, Nat.max_eq_right (by omega)]
    · rw [FilterState.resize_of_le fits]
  unfold position at same
  simp only [endMessage, FilterState.count_resize, same]

/-- Ending a message makes the room it needs by itself. -/
theorem endMessage_resize (filter : Installed) (state : FilterState) :
    filter.endMessage (state.resize (filter.position state)) = filter.endMessage state :=
  filter.endMessage_roomy (Nat.le_max_right _ _)

/-- Once the line that was unread is read again, the message is the one that had ended. -/
theorem addLine_steppedBack {line : Bytes} (hasLines : 0 < filter.pending.lines)
    (counted : filter.isMatch line = true → filter.pending.matched = true)
    (only : filter.pending.lines = 1 → filter.pending.matched = filter.isMatch line) :
    filter.steppedBack.addLine line = { filter with last := none } := by
  have same : filter.steppedBack.isMatch line = filter.isMatch line := rfl
  have again : (filter.pending.matched && decide (filter.pending.lines > 1) ||
      filter.isMatch line) = filter.pending.matched := by
    by_cases single : filter.pending.lines = 1
    · simp [single, only single]
    · have several : filter.pending.lines > 1 := by omega
      cases found : filter.isMatch line <;> simp_all
  have lines : filter.pending.lines - 1 + 1 = filter.pending.lines := by omega
  rw [addLine, same]
  simp [steppedBack, again, lines]

/-- An end of the message does not look at the message before. -/
theorem endMessage_forgets (filter : Installed) (state : FilterState) :
    ({ filter with last := none } : Installed).endMessage state = filter.endMessage state := rfl

end Filter

namespace Bench

variable {bench after : Bench} {number : Nat} {filter : Installed}

/-! ### Filters on a bench -/

theorem run_append (bench : Bench) (first second : List Action) :
    bench.run (first ++ second) = bench.run first >>= (·.run second) := List.foldlM_append

theorem drive_of_getElem? (isFilter : bench.filters[number]? = some filter)
    (act : Installed → FilterState → Except Fault (Installed × FilterState)) :
    bench.drive number act = (act filter bench.state).map fun (filter, state) =>
      ⟨bench.filters.set number filter, state⟩ := by
  simp only [drive, isFilter]

/-- The step of one filter leaves the filters beside it. -/
theorem of_drive_eq_ok {act : Installed → FilterState → Except Fault (Installed × FilterState)}
    (isFilter : bench.filters[number]? = some filter) (drives : bench.drive number act = .ok after) :
    ∃ filter' state, act filter bench.state = .ok (filter', state) ∧
      after = ⟨bench.filters.set number filter', state⟩ := by
  rw [drive_of_getElem? isFilter] at drives
  obtain ⟨⟨filter', state⟩, acts, rfl⟩ := ok_of_map drives
  exact ⟨filter', state, acts, rfl⟩

section

variable {filters : List Installed} (inRange : number < filters.length) (filter : Installed)
  (state : FilterState)
include inRange

/-- One filter after the other takes the place of a number. -/
theorem drive_set (act : Installed → FilterState → Except Fault (Installed × FilterState)) :
    (Bench.mk (filters.set number filter) state).drive number act =
      (act filter state).map fun (filter', state') => ⟨filters.set number filter', state'⟩ := by
  rw [drive_of_getElem? (List.getElem?_set_self inRange)]
  simp only [List.set_set]

/-- Lines that are read do not touch the state. -/
theorem run_addLine (lines : List Bytes) :
    (Bench.mk (filters.set number filter) state).run (lines.map (.addLine number)) =
      .ok ⟨filters.set number (lines.foldl Filter.addLine filter), state⟩ := by
  induction lines generalizing filter with
  | nil => rfl
  | cons line rest ih =>
      have performs : (Bench.mk (filters.set number filter) state).perform (.addLine number line) =
          .ok ⟨filters.set number (filter.addLine line), state⟩ :=
        drive_set inRange filter state fun filter state => .ok (filter.addLine line, state)
      rw [List.map_cons, run, List.foldlM_cons, performs]
      exact ih (filter.addLine line)

end

/-! ### Steps back that are used up -/

/-- The filter of a number has no decision that it can take back. -/
def Spent (bench : Bench) (number : Nat) : Prop :=
  ∃ filter, bench.filters[number]? = some filter ∧ filter.last = none

/-- A filter that has no decision to take back does nothing in a step back. -/
theorem Spent.stepBack (spent : bench.Spent number) : bench.perform (.stepBack number) = .ok bench := by
  obtain ⟨filter, isFilter, last⟩ := spent
  obtain ⟨inRange, atNumber⟩ := List.getElem?_eq_some_iff.1 isFilter
  have nothing : filter.stepBack bench.state = .ok (filter, bench.state) := by
    simp only [Filter.stepBack, Filter.reopen_none last]
    rfl
  rw [perform, drive_of_getElem? isFilter, nothing, ← atNumber]
  simp [Except.map]

/-- Nothing but the end of its message gives a filter a decision that it can take back. -/
theorem Spent.drive (spent : bench.Spent number) {own : Nat}
    {act : Installed → FilterState → Except Fault (Installed × FilterState)}
    (drives : bench.drive own act = .ok after)
    (keeps : own = number → ∀ filter state filter' state', filter.last = none →
      act filter state = .ok (filter', state') → filter'.last = none) : after.Spent number := by
  obtain ⟨filter, isFilter, last⟩ := spent
  cases isOwn : bench.filters[own]? with
  | none =>
      simp only [Bench.drive, isOwn] at drives
      cases drives
      exact ⟨filter, isFilter, last⟩
  | some acting =>
      obtain ⟨acting', state, acts, rfl⟩ := of_drive_eq_ok isOwn drives
      by_cases here : own = number
      · subst here
        cases isOwn.symm.trans isFilter
        obtain ⟨inRange, _⟩ := List.getElem?_eq_some_iff.1 isFilter
        exact ⟨acting', List.getElem?_set_self inRange, keeps rfl _ _ _ _ last acts⟩
      · exact ⟨filter, (List.getElem?_set_ne here).trans isFilter, last⟩

theorem Spent.change (spent : bench.Spent number) {own : Nat} {update : Installed → Installed}
    (changes : bench.change own update = .ok after)
    (keeps : ∀ filter : Installed, filter.last = none → (update filter).last = none) :
    after.Spent number := by
  apply spent.drive changes
  rintro - filter state _ _ last ⟨⟩
  exact keeps filter last

/-- Nothing but the end of its message gives a spent filter a decision to take back. -/
theorem Spent.perform (spent : bench.Spent number) {action : Action}
    (notEnd : action ≠ .endMessage number) (performs : bench.perform action = .ok after) :
    after.Spent number := by
  cases action with
  | addLine own line => exact spent.change performs fun _ last => last
  | endMessage own =>
      apply spent.drive performs
      rintro rfl
      exact absurd rfl notEnd
  | stepBack own =>
      apply spent.drive performs
      rintro - filter state filter' state' last steps
      simp only [Filter.stepBack, Filter.reopen_none last] at steps
      cases steps
      exact last
  | reopen own =>
      have drives : bench.drive own (fun filter state => (filter.reopen state).map Prod.snd) =
        .ok after := performs
      apply spent.drive drives
      rintro - filter state filter' state' last reopens
      rw [Filter.reopen_none last] at reopens
      cases reopens
      exact last
  | discardPending own => exact spent.change performs fun _ last => last
  | reset own => exact spent.change performs fun _ _ => rfl
  | setEnabled own enabled => exact spent.change performs fun _ last => last
  | setKind own kind => exact spent.change performs fun _ last => last
  | resize length =>
      obtain ⟨_, rfl⟩ := perform_resize.1 performs
      exact spent
  | reserve length =>
      obtain ⟨_, rfl⟩ := perform_reserve.1 performs
      exact spent
  | clear | attach logfile | forget places | retain places =>
      cases performs
      exact spent

/-- Until its message ends, a spent filter stays spent. -/
theorem Spent.run (spent : bench.Spent number) {actions : List Action}
    (noEnd : Action.endMessage number ∉ actions) (runs : bench.run actions = .ok after) :
    after.Spent number := by
  have step : ∀ action ∈ actions, ∀ bench next : Bench, bench.Spent number →
      bench.perform action = .ok next → next.Spent number := by
    rintro action member bench next spent performs
    apply spent.perform _ performs
    rintro rfl
    exact noEnd member
  exact foldlM_keeps step spent runs

/-! ### The step back -/

/-- A filter that has no message open reads one and ends it.  The step back restores the state as it
was before the end, but for the room, and leaves all lines of the message but the last one open.  If
this one is read and the message ended again, state and filters are as they were at the first end.
Until then no further step back does anything. -/
theorem run_stepBack (reached : bench.state.Reached) (isFilter : bench.filters[number]? = some filter)
    (closed : filter.pending = {}) (lines : List Bytes) (line : Bytes) :
    ∃ fed ended back, bench.run ((lines ++ [line]).map (.addLine number)) = .ok fed ∧
      fed.perform (.endMessage number) = .ok ended ∧ ended.perform (.stepBack number) = .ok back ∧
      back.state = fed.state.resize ended.state.length ∧
      (back.filters[number]?.map fun filter => filter.pending.lines) = some lines.length ∧
      back.run [.addLine number line, .endMessage number] = .ok ended ∧
      ∀ between after, Action.endMessage number ∉ between → back.run between = .ok after →
        after.perform (.stepBack number) = .ok after := by
  obtain ⟨filters, state⟩ := bench
  obtain ⟨inRange, atNumber⟩ := List.getElem?_eq_some_iff.1 isFilter
  have bounded : state.Bounded := reached.bounded
  let read := (lines ++ [line]).foldl Filter.addLine filter
  have isRead : read = _ := filter.foldl_addLine_eq (lines ++ [line])
  have hasLines : read.pending.lines = lines.length + 1 := by simp [isRead, closed]
  have found : read.pending.matched = (lines.any filter.isMatch || read.isMatch line) := by
    simp [isRead, closed, Filter.isMatch]
  obtain ⟨stamped, ends, stamps⟩ := read.endMessage_alters bounded
  have stepsBack := Filter.stepBack_endMessage bounded (by omega) ends
  have readsAgain : read.steppedBack.addLine line = { read with last := none } := by
    apply Filter.addLine_steppedBack (by omega)
    · intro counted
      simp [found, counted]
    · intro single
      have alone : lines = [] := List.length_eq_zero_iff.1 (by omega)
      simp [found, alone]
  have room : state.resize stamped.length = state.resize (read.position state) := by
    rw [stamps.length_eq, FilterState.resize_max]
  have endsAgain : ({ read with last := none } : Installed).endMessage
      (state.resize stamped.length) = .ok (read.ended, stamped) := by
    rw [Filter.endMessage_forgets, room, Filter.endMessage_resize]
    exact ends
  let fed : Bench := ⟨filters.set number read, state⟩
  let ended : Bench := ⟨filters.set number read.ended, stamped⟩
  let back : Bench := ⟨filters.set number read.steppedBack, state.resize stamped.length⟩
  refine ⟨fed, ended, back, ?_, ?_, ?_, rfl, ?_, ?_, ?_⟩
  · have runs := run_addLine inRange filter state (lines ++ [line])
    have same : filters.set number filter = filters := by rw [← atNumber, List.set_getElem_self]
    rw [same] at runs
    exact runs
  · refine (drive_set inRange read state Filter.endMessage).trans ?_
    rw [ends]
    rfl
  · refine (drive_set inRange read.ended stamped Filter.stepBack).trans ?_
    rw [stepsBack]
    rfl
  · simp [back, inRange, Filter.steppedBack, hasLines]
  · have runs := run_addLine inRange read.steppedBack (state.resize stamped.length) [line]
    have again : back.run [.addLine number line] =
        .ok ⟨filters.set number { read with last := none }, state.resize stamped.length⟩ := by
      simpa [readsAgain] using runs
    have endsLast := drive_set inRange { read with last := none } (state.resize stamped.length)
      Filter.endMessage
    rw [endsAgain] at endsLast
    rw [← List.singleton_append, run_append, again]
    refine (bind_pure _).trans endsLast
  · intro between after noEnd runs
    have spent : back.Spent number := ⟨read.steppedBack, List.getElem?_set_self inRange, rfl⟩
    exact (spent.run noEnd runs).stepBack

/-- Two filters have stamped a line each.  One of them reads a message of two lines, the last of which
matches, and takes one step back. -/
theorem run_stepBack_last :
    let filters := [Filter.sample .keep 0, Filter.sample .hide 1]
    let actions := [.addLine 0 [98], .endMessage 0, .addLine 1 [98], .endMessage 1]
    ∃ start fed ended back, (Bench.mk filters (FilterState.new "a.log")).run actions = .ok start ∧
      start.run [.addLine 0 [97], .addLine 0 [98]] = .ok fed ∧
      fed.perform (.endMessage 0) = .ok ended ∧ ended.perform (.stepBack 0) = .ok back ∧
      back.state = fed.state.resize ended.state.length ∧
      (back.filters[0]?.map fun filter => filter.pending.lines) = some 1 ∧
      back.run [.addLine 0 [98], .endMessage 0] = .ok ended := by
  intro filters actions
  have fresh : ∀ filter ∈ filters, filter.Fresh := by
    intro filter member
    rcases List.mem_pair.1 member with rfl | rfl <;> exact Filter.fresh_sample _ _
  have distinct : (filters.map Filter.index).Nodup := by decide
  have closed : ((Bench.mk filters (FilterState.new "a.log")).run actions).toOption.bind
      (fun bench => bench.filters[0]?.map Filter.pending) = some {} := by
    decide +kernel
  cases runs : (Bench.mk filters (FilterState.new "a.log")).run actions with
  | error e =>
      rw [runs] at closed
      cases closed
  | ok start =>
      rw [runs] at closed
      obtain ⟨filter, isFilter, pending⟩ := Option.map_eq_some_iff.1 closed
      have reached : start.state.Reached :=
        ⟨filters, "a.log", actions, start, fresh, distinct, runs, rfl⟩
      obtain ⟨fed, ended, back, reads, ends, steps, restores, unread, again, _⟩ :=
        run_stepBack reached isFilter pending [[97]] [98]
      exact ⟨start, fed, ended, back, rfl, reads, ends, steps, restores, unread, again⟩

end Bench

end LogLens
