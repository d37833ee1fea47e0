/-
Module: LogLens.Proofs.Separation
Purpose: Filters that share one state do not meet.  Each of them reads and writes at its own place
  only, so what becomes of it and of its column is what its own actions make of them, whatever other
  filters do in between; and it is all one in which order the filters take their turns.
Main exports: FilterState.AgreesAt, Lane, Lane.perform, Bench.Follows, Bench.run_follows,
  Bench.run_alone
-/
import LogLens.Proofs.FreeFilters

namespace LogLens

open FilterState (Alters)

/-! ### What states hold at one place -/

/-- Two states hold the same at a place; lines without a mask count as not marked. -/
structure FilterState.AgreesAt (slot : Slot) (first second : FilterState) : Prop where
  count : first.count slot = second.count slot
  hits : first.hits slot = second.hits slot
  marks : ∀ line, (first.mask line).has slot = (second.mask line).has slot

theorem FilterState.AgreesAt.column_eq {slot : Slot} {first second : FilterState}
    (agrees : first.AgreesAt slot second) : first.column slot = second.column slot :=
  column_congr agrees.count agrees.hits fun line _ => agrees.marks line

theorem FilterState.AgreesAt.trans {slot : Slot} {first second third : FilterState}
    (one : AgreesAt slot first second) (two : AgreesAt slot second third) :
    AgreesAt slot first third where
  count := one.count.trans two.count
  hits := one.hits.trans two.hits
  marks line := (one.marks line).trans (two.marks line)

/-- Between bounded states the column alone decides agreement at its place. -/
theorem FilterState.Bounded.agreesAt {slot : Slot} {first second : FilterState}
    (bounded : first.Bounded) (bounded' : second.Bounded)
    (same : first.column slot = second.column slot) : first.AgreesAt slot second where
  count := by rw [← count_column, same, count_column]
  hits := by rw [← hits_column, same, hits_column]
  marks line := by rw [bounded.has_mask, bounded'.has_mask, same]

/-! ### Lanes -/

/-- A filter with its own column, and the number of lines for which it has made room. -/
structure Lane where
  filter : Installed
  column : Column
  room : Nat := 0

namespace Lane

def change (lane : Lane) (update : Installed → Installed) : Lane :=
  { lane with filter := update lane.filter }

def endMessage (lane : Lane) : Lane where
  filter := { lane.filter with pending := {}, last := some lane.filter.pending }
  column := lane.column.stamp lane.filter.pending.lines lane.filter.pending.matched
  room := max lane.room (lane.column.count + lane.filter.pending.lines)

def reopen (lane : Lane) : Lane :=
  match lane.filter.last with
  | none => lane
  | some message =>
    let lines := min message.lines lane.column.count
    { lane with
      filter := { lane.filter with pending := ⟨message.matched && lines > 0, lines⟩, last := none }
      column := lane.column.unstamp message.lines message.matched }

def stepBack (lane : Lane) : Lane :=
  match lane.filter.last with
  | none => lane
  | some _ =>
    let message := lane.reopen.filter.pending
    if message.lines = 0 then lane.reopen
    else lane.reopen.change fun filter =>
      { filter with pending := ⟨message.matched && message.lines > 1, message.lines - 1⟩ }

/-- What an action makes of the lane of its filter. -/
def perform (lane : Lane) : Bench.Action → Lane
  | .addLine _ line => lane.change (·.addLine line)
  | .endMessage _ => lane.endMessage
  | .stepBack _ => lane.stepBack
  | .reopen _ => lane.reopen
  | .discardPending _ => lane.change Filter.discardPending
  | .reset _ => lane.change Filter.reset
  | .setEnabled _ enabled => lane.change (·.setEnabled enabled)
  | .setKind _ kind => lane.change (·.setKind kind)
  | .resize _ | .reserve _ | .clear | .attach _ | .forget _ | .retain _ => lane

/-- What a filter does on a state that holds its column is what is done on the lane.  It changes no
other column and makes room for the lines of the lane. -/
def Tells (lane : Lane) (after : Lane)
    (act : Installed → FilterState → Except Fault (Installed × FilterState)) : Prop :=
  after.filter.index = lane.filter.index ∧ lane.room ≤ after.room ∧
    ∀ state : FilterState, state.Bounded → lane.room ≤ state.length →
      state.column lane.filter.index = lane.column → ∃ next,
        act lane.filter state = .ok (after.filter, next) ∧
          Alters lane.filter.index after.column (max state.length after.room) state next

/-- An action that does not touch the state. -/
theorem tells_of_kept {lane after : Lane}
    {act : Installed → FilterState → Except Fault (Installed × FilterState)}
    (place : after.filter.index = lane.filter.index) (column : after.column = lane.column)
    (room : after.room = lane.room)
    (acts : ∀ state, act lane.filter state = .ok (after.filter, state)) :
    lane.Tells after act := by
  refine ⟨place, Nat.le_of_eq room.symm, ?_⟩
  intro state bounded enough own
  have same := bounded.alters_refl lane.filter.index
  refine ⟨state, acts state, ?_⟩
  rw [own] at same
  rw [column, room, Nat.max_eq_left enough]
  exact same

theorem tells_change (lane : Lane) {update : Installed → Installed}
    (place : ∀ filter, (update filter).index = filter.index) :
    lane.Tells (lane.change update) fun filter state => .ok (update filter, state) :=
  tells_of_kept (place lane.filter) rfl rfl fun _ => rfl

/-- Ending a message is told by the lane alone. -/
theorem tells_endMessage (lane : Lane) : lane.Tells lane.endMessage Filter.endMessage := by
  refine ⟨rfl, Nat.le_max_left _ _, ?_⟩
  intro state bounded enough own
  obtain ⟨next, ends, alters⟩ := lane.filter.endMessage_alters bounded
  refine ⟨next, ends, ?_⟩
  have isRoom : lane.endMessage.room =
      max lane.room (lane.column.count + lane.filter.pending.lines) := rfl
  have room : max state.length (lane.filter.position state) =
      max state.length lane.endMessage.room := by
    rw [Filter.position_eq_count, own, isRoom]
    omega
  rw [own, room] at alters
  exact alters

/-- Only the lines that are stamped can be put back into the message. -/
theorem reopen_tells {lane : Lane} {message : Message} (last : lane.filter.last = some message)
    {state : FilterState} (bounded : state.Bounded) (enough : lane.room ≤ state.length)
    (own : state.column lane.filter.index = lane.column) : ∃ next,
      lane.filter.reopen state =
        .ok (lane.reopen.filter.pending.lines, lane.reopen.filter, next) ∧
      Alters lane.filter.index lane.reopen.column (max state.length lane.reopen.room) state next := by
  obtain ⟨next, reopens, alters⟩ := Filter.reopen_alters last bounded
  rw [← FilterState.count_column, own] at reopens
  rw [own] at alters
  refine ⟨next, ?_, ?_⟩
  · simp only [reopen, last, reopens]
  · simp only [reopen, last, Nat.max_eq_left enough]
    exact alters

theorem reopen_of_none {lane : Lane} (last : lane.filter.last = none) : lane.reopen = lane := by
  simp only [reopen, last]

theorem index_reopen (lane : Lane) : lane.reopen.filter.index = lane.filter.index := by
  unfold reopen
  split <;> rfl

theorem room_reopen (lane : Lane) : lane.reopen.room = lane.room := by
  unfold reopen
  split <;> rfl

/-- Reopening a message is told by the lane alone. -/
theorem tells_reopen (lane : Lane) :
    lane.Tells lane.reopen fun filter state => (filter.reopen state).map Prod.snd := by
  cases last : lane.filter.last with
  | none =>
      rw [reopen_of_none last]
      apply tells_of_kept rfl rfl rfl
      intro state
      rw [Filter.reopen_none last]
      rfl
  | some message =>
      refine ⟨lane.index_reopen, Nat.le_of_eq lane.room_reopen.symm, ?_⟩
      intro state bounded enough own
      obtain ⟨next, reopens, alters⟩ := reopen_tells last bounded enough own
      exact ⟨next, congrArg (Except.map Prod.snd) reopens, alters⟩

theorem tells_stepBack (lane : Lane) : lane.Tells lane.stepBack Filter.stepBack := by
  cases last : lane.filter.last with
  | none =>
      simp only [stepBack, last]
      apply tells_of_kept rfl rfl rfl
      intro state
      simp only [Filter.stepBack, Filter.reopen_none last]
      rfl
  | some message =>
      simp only [stepBack, last]
      by_cases noLines : lane.reopen.filter.pending.lines = 0
      · rw [if_pos noLines]
        refine ⟨lane.index_reopen, Nat.le_of_eq lane.room_reopen.symm, ?_⟩
        intro state bounded enough own
        obtain ⟨next, reopens, alters⟩ := reopen_tells last bounded enough own
        refine ⟨next, ?_, alters⟩
        simp only [Filter.stepBack, reopens, bind, Except.bind, if_pos noLines]
        rfl
      · rw [if_neg noLines]
        refine ⟨lane.index_reopen, Nat.le_of_eq lane.room_reopen.symm, ?_⟩
        intro state bounded enough own
        obtain ⟨next, reopens, alters⟩ := reopen_tells last bounded enough own
        refine ⟨next, ?_, alters⟩
        simp only [Filter.stepBack, reopens, bind, Except.bind, if_neg noLines]
        rfl

end Lane

namespace Bench

/-! ### Turns -/

/-- The number of the filter whose turn an action is; none if it is done to the state itself. -/
def Action.number? : Action → Option Nat
  | .addLine number _ | .endMessage number | .stepBack number | .reopen number
  | .discardPending number | .reset number | .setEnabled number _ | .setKind number _ => some number
  | .resize _ | .reserve _ | .clear | .attach _ | .forget _ | .retain _ => none

/-- The turns of the filter of one number, in their order. -/
def turnsOf (number : Nat) (actions : List Action) : List Action :=
  actions.filter (·.number? == some number)

/-- What an action makes of all lanes; only that of its filter changes. -/
def performOn (lanes : List Lane) (action : Action) : List Lane :=
  match action.number? with
  | none => lanes
  | some number => lanes.modify number (·.perform action)

/-- The lanes of the filters of a bench, none of which has made room yet. -/
def lanes (bench : Bench) : List Lane :=
  bench.filters.map fun filter => { filter, column := bench.state.column filter.index }

/-- An action lets the filter of one number act, and every lane tells what this does. -/
def Action.IsTurn (action : Action) (number : Nat) : Prop :=
  ∃ act, (∀ bench : Bench, bench.perform action = bench.drive number act) ∧
    ∀ lane : Lane, lane.Tells (lane.perform action) act

theorem isTurn_of_change {action : Action} {number : Nat} (update : Installed → Installed)
    (changes : ∀ bench : Bench, bench.perform action = bench.change number update)
    (performs : ∀ lane : Lane, lane.perform action = lane.change update)
    (place : ∀ filter, (update filter).index = filter.index) : action.IsTurn number := by
  refine ⟨_, changes, ?_⟩
  intro lane
  rw [performs]
  exact lane.tells_change place

/-- Whatever names a filter is a turn of this filter. -/
theorem isTurn_of_number {action : Action} {number : Nat} (turn : action.number? = some number) :
    action.IsTurn number := by
  cases action with
  | addLine own line =>
      cases turn
      exact isTurn_of_change (·.addLine line) (fun _ => rfl) (fun _ => rfl) fun _ => rfl
  | endMessage own =>
      cases turn
      exact ⟨_, fun _ => rfl, Lane.tells_endMessage⟩
  | stepBack own =>
      cases turn
      exact ⟨_, fun _ => rfl, Lane.tells_stepBack⟩
  | reopen own =>
      cases turn
      exact ⟨_, fun _ => rfl, Lane.tells_reopen⟩
  | discardPending own =>
      cases turn
      exact isTurn_of_change Filter.discardPending (fun _ => rfl) (fun _ => rfl) fun _ => rfl
  | reset own =>
      cases turn
      exact isTurn_of_change Filter.reset (fun _ => rfl) (fun _ => rfl) fun _ => rfl
  | setEnabled own enabled =>
      cases turn
      exact isTurn_of_change (·.setEnabled enabled) (fun _ => rfl) (fun _ => rfl) fun _ => rfl
  | setKind own kind =>
      cases turn
      exact isTurn_of_change (·.setKind kind) (fun _ => rfl) (fun _ => rfl) fun _ => rfl
  | resize _ | reserve _ | clear | attach _ | forget _ | retain _ => cases turn

/-- One lane sees its own turns only. -/
theorem getElem?_foldl_performOn (actions : List Action) (lanes : List Lane) (number : Nat) :
    (actions.foldl performOn lanes)[number]? =
      lanes[number]?.map fun lane => (turnsOf number actions).foldl Lane.perform lane := by
  induction actions generalizing lanes with
  | nil => exact Option.map_id'.symm
  | cons action rest ih =>
      rw [List.foldl_cons, ih]
      unfold performOn turnsOf
      cases turn : action.number? with
      | none => simp [turn]
      | some own =>
          by_cases here : own = number
          · subst here
            simp [turn, Function.comp_def]
          · simp [turn, here]

/-! ### Lanes side by side -/

/-- The lanes are those of the filters of the bench.  The other places and the log are as at the
start, and there is no more room than there was or the lanes need. -/
structure Follows (start bench : Bench) (lanes : List Lane) : Prop where
  bounded : bench.state.Bounded
  logfile : bench.state.logfile = start.state.logfile
  filters : bench.filters = lanes.map Lane.filter
  places : bench.filters.map Filter.index = start.filters.map Filter.index
  distinct : (bench.filters.map Filter.index).Nodup
  own : ∀ lane ∈ lanes, bench.state.column lane.filter.index = lane.column
  unused : ∀ slot, slot ∉ start.filters.map Filter.index →
    bench.state.column slot = start.state.column slot
  room : ∀ bound, bench.state.length ≤ bound ↔
    start.state.length ≤ bound ∧ ∀ lane ∈ lanes, lane.room ≤ bound

/-- At the start every filter follows its own lane. -/
theorem follows_lanes {bench : Bench} (bounded : bench.state.Bounded)
    (distinct : (bench.filters.map Filter.index).Nodup) :
    Follows bench bench bench.lanes where
  bounded := bounded
  logfile := rfl
  places := rfl
  filters := by simp [lanes, Function.comp_def]
  distinct := distinct
  own lane member := by
    obtain ⟨filter, _, rfl⟩ := List.mem_map.1 member
    rfl
  unused _ _ := rfl
  room bound := by
    constructor
    · intro fits
      refine ⟨fits, ?_⟩
      intro lane member
      obtain ⟨filter, _, rfl⟩ := List.mem_map.1 member
      exact Nat.zero_le bound
    · exact And.left

namespace Follows

variable {start bench other : Bench} {lanes : List Lane} {lane : Lane} {number : Nat}

theorem getElem?_filters (follows : Follows start bench lanes) (number : Nat) :
    bench.filters[number]? = lanes[number]?.map Lane.filter := by
  rw [follows.filters, List.getElem?_map]

theorem places_eq (follows : Follows start bench lanes) :
    bench.filters.map Filter.index = lanes.map fun lane => lane.filter.index := by
  rw [follows.filters, List.map_map]
  rfl

/-- The room of a lane never shrinks, so a lane that took a step fits only where it fitted before. -/
theorem fits_set_iff {after : Lane} (isLane : lanes[number]? = some lane)
    (roomier : lane.room ≤ after.room) (bound : Nat) :
    (∀ second ∈ lanes.set number after, second.room ≤ bound) ↔
      (∀ second ∈ lanes, second.room ≤ bound) ∧ after.room ≤ bound := by
  obtain ⟨inRange, _⟩ := List.getElem?_eq_some_iff.1 isLane
  constructor
  · intro fits
    have fitsAfter := fits after (List.mem_set inRange after)
    refine ⟨?_, fitsAfter⟩
    intro second inLanes
    obtain ⟨position, isSecond⟩ := List.mem_iff_getElem?.1 inLanes
    by_cases here : number = position
    · subst here
      cases isLane.symm.trans isSecond
      exact Nat.le_trans roomier fitsAfter
    · apply fits second
      apply List.mem_iff_getElem?.2
      exact ⟨position, by rw [List.getElem?_set_ne here, isSecond]⟩
  · rintro ⟨fits, fitsAfter⟩ second inSet
    rcases List.mem_or_eq_of_mem_set inSet with inLanes | rfl
    · exact fits second inLanes
    · exact fitsAfter

/-- One filter acts as its lane tells; the lanes beside it are followed as before. -/
theorem drive (follows : Follows start bench lanes) {after : Lane}
    {act : Installed → FilterState → Except Fault (Installed × FilterState)}
    (isLane : lanes[number]? = some lane) (tells : lane.Tells after act) :
    ∃ next, bench.drive number act = .ok next ∧ Follows start next (lanes.set number after) := by
  obtain ⟨place, roomier, acts⟩ := tells
  obtain ⟨inRange, _⟩ := List.getElem?_eq_some_iff.1 isLane
  have member : lane ∈ lanes := List.mem_of_getElem? isLane
  obtain ⟨state, performs, alters⟩ := acts bench.state follows.bounded
    (((follows.room _).1 (Nat.le_refl _)).2 lane member) (follows.own lane member)
  have found : bench.filters[number]? = some lane.filter := by
    rw [follows.getElem?_filters, isLane, Option.map_some]
  have places := map_index_set found place
  refine ⟨⟨bench.filters.set number after.filter, state⟩, ?_, ?_⟩
  · simp only [Bench.drive, found, performs]
    rfl
  · constructor
    case bounded => exact alters.bounded
    case logfile => exact alters.logfile.trans follows.logfile
    case filters => rw [List.map_set, ← follows.filters]
    case places => exact places.trans follows.places
    case distinct => exact places ▸ follows.distinct
    case own =>
      intro second inSet
      obtain ⟨position, isSecond⟩ := List.mem_iff_getElem?.1 inSet
      by_cases here : number = position
      · subst here
        rw [List.getElem?_set_self inRange] at isSecond
        cases isSecond
        rw [place]
        exact alters.own
      · rw [List.getElem?_set_ne here] at isSecond
        have isOther : bench.filters[position]? = some second.filter := by
          rw [follows.getElem?_filters, isSecond, Option.map_some]
        rw [alters.other _ (index_ne_of_ne follows.distinct found isOther here)]
        exact follows.own second (List.mem_of_getElem? isSecond)
    case unused =>
      intro slot unused
      rw [alters.other, follows.unused slot unused]
      rintro rfl
      apply unused
      rw [← follows.places, follows.places_eq]
      exact List.mem_map_of_mem member
    case room =>
      intro bound
      have length : state.length = max bench.state.length after.room := alters.length_eq
      rw [length, Nat.max_le, follows.room, fits_set_iff isLane roomier, and_assoc]

/-- A turn is followed on the lanes. -/
theorem perform (follows : Follows start bench lanes) {action : Action}
    (turn : action.number?.isSome) : ∃ next, bench.perform action = .ok next ∧
      Follows start next (performOn lanes action) := by
  obtain ⟨number, isTurn⟩ := Option.isSome_iff_exists.1 turn
  obtain ⟨act, performs, tells⟩ := isTurn_of_number isTurn
  rw [performs, performOn, isTurn]
  cases isLane : lanes[number]? with
  | none =>
      have outside := List.getElem?_eq_none_iff.1 isLane
      refine ⟨bench, ?_, ?_⟩
      · simp only [Bench.drive, follows.getElem?_filters, isLane, Option.map_none]
      · dsimp only
        rw [List.modify_eq_self outside]
        exact follows
  | some lane =>
      have changed : lanes.modify number (·.perform action) =
          lanes.set number (lane.perform action) := by
        rw [List.modify_eq_set_getElem?, isLane]
        rfl
      dsimp only
      rw [changed]
      exact follows.drive isLane (tells lane)

/-- The place of a lane is where its filter was at the start. -/
theorem index_eq (follows : Follows start bench lanes) (isLane : lanes[number]? = some lane)
    {filter : Installed} (isFilter : start.filters[number]? = some filter) :
    lane.filter.index = filter.index := by
  have place : (lanes.map fun lane => lane.filter.index)[number]? =
      (start.filters.map Filter.index)[number]? := by
    rw [← follows.places_eq, follows.places]
  rw [List.getElem?_map, List.getElem?_map, isLane, isFilter] at place
  exact Option.some.inj place

/-- Benches that have a lane in common hold the same at its place. -/
theorem agreesAt {start' : Bench} {lanes' : List Lane} (first : Follows start bench lanes)
    (second : Follows start' other lanes') (isFirst : lane ∈ lanes) (isSecond : lane ∈ lanes') :
    bench.state.AgreesAt lane.filter.index other.state :=
  first.bounded.agreesAt second.bounded
    ((first.own lane isFirst).trans (second.own lane isSecond).symm)

/-- What is known of the lanes is all there is. -/
theorem unique (first : Follows start bench lanes) (second : Follows start other lanes) :
    bench = other := by
  have filters : bench.filters = other.filters := first.filters.trans second.filters.symm
  have length : bench.state.length = other.state.length := by
    apply Nat.le_antisymm
    · exact (first.room _).2 ((second.room _).1 (Nat.le_refl _))
    · exact (second.room _).2 ((first.room _).1 (Nat.le_refl _))
  have state : bench.state = other.state := by
    apply FilterState.ext_columns first.bounded second.bounded
    · exact first.logfile.trans second.logfile.symm
    · exact length
    · intro slot
      by_cases used : slot ∈ bench.filters.map Filter.index
      · rw [first.places_eq] at used
        obtain ⟨lane, member, rfl⟩ := List.mem_map.1 used
        exact (first.own lane member).trans (second.own lane member).symm
      · rw [first.places] at used
        rw [first.unused slot used, second.unused slot used]
  cases bench
  cases other
  simp_all

end Follows

/-! ### Whole runs -/

/-- However the turns are interleaved, each filter ends where its own turns take it. -/
theorem run_follows (bench : Bench) (bounded : bench.state.Bounded)
    (distinct : (bench.filters.map Filter.index).Nodup) {actions : List Action}
    (turns : ∀ action ∈ actions, action.number?.isSome) :
    ∃ after, bench.run actions = .ok after ∧
      Follows bench after (actions.foldl performOn bench.lanes) := by
  apply foldlM_tracks_of_mem performOn _ bench.lanes (follows_lanes bounded distinct)
  intro action member bench lanes follows
  exact follows.perform (turns action member)

/-- The lane of a filter comes from its own turns. -/
theorem getElem?_lanes_run (filters : List Installed) (state : FilterState)
    (actions : List Action) (number : Nat) :
    (actions.foldl performOn (Bench.mk filters state).lanes)[number]? =
      filters[number]?.map fun filter => (turnsOf number actions).foldl Lane.perform
        { filter, column := state.column filter.index } := by
  rw [getElem?_foldl_performOn, lanes, List.getElem?_map, Option.map_map]
  rfl

theorem turnsOf_turnsOf (number : Nat) (actions : List Action) :
    turnsOf number (turnsOf number actions) = turnsOf number actions := by
  simp [turnsOf, List.filter_filter]

/-- Filters at different places that share a state take their turns in any order.  No turn fails,
and each filter ends up, in its messages and settings as in its count, its hits and its marks, as if
it had taken its own turns on a state of its own that held the same for it.  The places of no filter
keep what they held.  Any other order in which each filter takes the same turns leaves the same. -/
theorem run_alone {filters : List Installed} (distinct : (filters.map Filter.index).Nodup)
    {state : FilterState} (bounded : state.Bounded) {actions : List Action}
    (turns : ∀ action ∈ actions, action.number?.isSome) :
    ∃ after, (Bench.mk filters state).run actions = .ok after ∧
      (∀ number filter, filters[number]? = some filter → ∀ own : FilterState, own.Bounded →
        own.AgreesAt filter.index state → ∃ alone,
          (Bench.mk filters own).run (turnsOf number actions) = .ok alone ∧
            alone.filters[number]? = after.filters[number]? ∧
            alone.state.AgreesAt filter.index after.state) ∧
      (∀ slot, slot ∉ filters.map Filter.index → after.state.AgreesAt slot state) ∧
      ∀ others : List Action, (∀ action ∈ others, action.number?.isSome) →
        (∀ number, turnsOf number others = turnsOf number actions) →
        (Bench.mk filters state).run others = .ok after := by
  obtain ⟨after, runs, follows⟩ := run_follows ⟨filters, state⟩ bounded distinct turns
  refine ⟨after, runs, ?_, ?_, ?_⟩
  · intro number filter isFilter own boundedOwn agrees
    have ownTurns : ∀ action ∈ turnsOf number actions, action.number?.isSome :=
      fun action member => turns action (List.mem_of_mem_filter member)
    obtain ⟨alone, runsAlone, followsAlone⟩ :=
      run_follows ⟨filters, own⟩ boundedOwn distinct ownTurns
    let first : Lane := { filter, column := state.column filter.index }
    let last := (turnsOf number actions).foldl Lane.perform first
    have isLast : (actions.foldl performOn (Bench.mk filters state).lanes)[number]? = some last := by
      rw [getElem?_lanes_run, isFilter]
      rfl
    have isLastAlone : ((turnsOf number actions).foldl performOn
        (Bench.mk filters own).lanes)[number]? = some last := by
      rw [getElem?_lanes_run, isFilter, turnsOf_turnsOf, Option.map_some, agrees.column_eq]
    refine ⟨alone, runsAlone, ?_, ?_⟩
    · rw [followsAlone.getElem?_filters, follows.getElem?_filters, isLastAlone, isLast]
    · have place : last.filter.index = filter.index := follows.index_eq isLast isFilter
      rw [← place]
      exact followsAlone.agreesAt follows (List.mem_of_getElem? isLastAlone)
        (List.mem_of_getElem? isLast)
  · intro slot unused
    exact follows.bounded.agreesAt bounded (follows.unused slot unused)
  · intro others turnsOthers sameTurns
    obtain ⟨second, runsOthers, followsOthers⟩ :=
      run_follows ⟨filters, state⟩ bounded distinct turnsOthers
    have lanes : others.foldl performOn (Bench.mk filters state).lanes =
        actions.foldl performOn (Bench.mk filters state).lanes := by
      apply List.ext_getElem?
      intro number
      rw [getElem?_lanes_run, getElem?_lanes_run, sameTurns]
    rw [lanes] at followsOthers
    rw [runsOthers, followsOthers.unique follows]

/-- Two filters that read a message each, the first of which takes its decision back and decides
anew while the second reads on; it is the same to read the one filter's turns first. -/
theorem run_alone_interleaved :
    let filters := [Filter.sample .keep 0, Filter.sample .hide 1]
    let actions := [.addLine 0 [98], .addLine 1 [98], .endMessage 0, .addLine 1 [97], .endMessage 1,
      .stepBack 0, .setEnabled 1 false, .addLine 0 [97], .endMessage 0]
    (filters.map Filter.index).Nodup ∧ (∀ action ∈ actions, action.number?.isSome) ∧
      ∃ after, (Bench.mk filters (FilterState.new "a.log")).run actions = .ok after ∧
        (Bench.mk filters (FilterState.new "a.log")).run (turnsOf 0 actions ++ turnsOf 1 actions) =
          .ok after := by
  intro filters actions
  have distinct : (filters.map Filter.index).Nodup := by decide
  have turns : ∀ action ∈ actions, action.number?.isSome := by
    intro action member
    simp only [actions, List.mem_cons, List.not_mem_nil, or_false] at member
    rcases member with rfl | rfl | rfl | rfl | rfl | rfl | rfl | rfl | rfl <;> rfl
  obtain ⟨after, runs, _, _, reordered⟩ :=
    run_alone distinct (FilterState.bounded_new "a.log") turns
  refine ⟨distinct, turns, after, runs, reordered _ ?_ ?_⟩
  · intro action member
    rcases List.mem_append.1 member with own | own <;>
      exact turns action (List.mem_of_mem_filter own)
  · intro number
    rcases number with _ | _ | number <;> rfl

end Bench

end LogLens
