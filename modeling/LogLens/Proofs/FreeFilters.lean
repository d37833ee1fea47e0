/-
Module: LogLens.Proofs.FreeFilters
Purpose: Filters driven by hand over one state, in any order and with the state cleared beneath them.
  No such run can fail, unless room is asked for more lines than a state can have, and the counters
  always say what the masks show.  What makes it so is a relation between a filter and its column: the
  last decision, if it can be taken back at all, stands at the end of the column.  That the filters ask
  for no such room themselves is seen by the lines they have read.
Main exports: Bench, Bench.Action, Bench.perform, Bench.Sound, Bench.Within, Bench.perform_sound,
  Bench.run_counters
-/
import LogLens.Proofs.OwnPlace

namespace LogLens

open FilterState (Alters)

/-- One state and the filters that are driven over it. -/
structure Bench where
  filters : List Installed
  state : FilterState

namespace Bench

/-- What can be done with the filters and the state.  Filters are named by their number on the
bench. -/
inductive Action where
  | addLine (number : Nat) (line : Bytes)
  | endMessage (number : Nat)
  | stepBack (number : Nat)
  | reopen (number : Nat)
  | discardPending (number : Nat)
  | reset (number : Nat)
  | setEnabled (number : Nat) (enabled : Bool)
  | setKind (number : Nat) (kind : FilterKind)
  | resize (length : Nat)
  | reserve (length : Nat)
  | clear
  | attach (logfile : String)
  | forget (places : Mask)
  | retain (places : Mask)

/-- Let the filter of a number act; nothing happens if there is none. -/
def drive (bench : Bench) (number : Nat)
    (act : Installed → FilterState → Except Fault (Installed × FilterState)) : Except Fault Bench :=
  match bench.filters[number]? with
  | none => .ok bench
  | some filter => (act filter bench.state).map fun (filter, state) =>
      ⟨bench.filters.set number filter, state⟩

/-- Change the filter of a number and not the state. -/
def change (bench : Bench) (number : Nat) (update : Installed → Installed) : Except Fault Bench :=
  bench.drive number fun filter state => .ok (update filter, state)

def perform (bench : Bench) : Action → Except Fault Bench
  | .addLine number line => bench.change number (·.addLine line)
  | .endMessage number => bench.drive number Filter.endMessage
  | .stepBack number => bench.drive number Filter.stepBack
  | .reopen number => bench.drive number fun filter state =>
      (filter.reopen state).map Prod.snd
  | .discardPending number => bench.change number Filter.discardPending
  | .reset number => bench.change number Filter.reset
  | .setEnabled number enabled => bench.change number (·.setEnabled enabled)
  | .setKind number kind => bench.change number (·.setKind kind)
  | .resize length => (bench.state.resizeTo length).map fun state => { bench with state }
  | .reserve length => (bench.state.reserveFor length).map fun state => { bench with state }
  | .clear => .ok { bench with state := bench.state.clear }
  | .attach logfile => .ok { bench with state := bench.state.attach logfile }
  | .forget places => .ok { bench with state := bench.state.forget places }
  | .retain places => .ok { bench with state := bench.state.retain places }

def run (bench : Bench) (actions : List Action) : Except Fault Bench :=
  actions.foldlM perform bench

/-- The number of lines for which an action asks for room. -/
def Action.asked? : Action → Option Nat
  | .resize length | .reserve length => some length
  | _ => none

/-- Whether a filter reads a line by an action. -/
def Action.isAddLine : Action → Bool
  | .addLine .. => true
  | _ => false

end Bench

/-! ### The last decision of a filter -/

/-- The message was stamped at the end of the column.  In an emptied column nothing of it is left. -/
def Column.EndsWith (column : Column) (message : Message) : Prop :=
  column.count = 0 ∨ (message.lines ≤ column.count ∧
    column.marks.drop (column.count - message.lines) =
      List.replicate message.lines message.matched)

namespace Column

/-- A column that was just stamped ends with the message stamped on it. -/
theorem endsWith_stamp (column : Column) (message : Message) :
    (column.stamp message.lines message.matched).EndsWith message := by
  refine Or.inr ⟨by rw [count_stamp]; omega, ?_⟩
  rw [count_stamp, Nat.add_sub_cancel]
  exact List.drop_left

/-- The hits that a decision contributed are there when it is taken back. -/
theorem EndsWith.taken_le_hits {column : Column} {message : Message}
    (endsWith : column.EndsWith message) (exact : column.Exact) (matched : message.matched = true) :
    min message.lines column.count ≤ column.hits := by
  rcases endsWith with empty | ⟨fits, last⟩
  · omega
  · have counted : (column.marks.drop (column.count - message.lines)).count true = message.lines := by
      rw [last, matched, List.count_replicate_self]
    have within := (List.drop_sublist (column.count - message.lines) column.marks).count_le true
    rw [counted, ← exact] at within
    omega

/-- Taking back a decision that stands at the end leaves the hits exact. -/
theorem EndsWith.exact_unstamp {column : Column} {message : Message}
    (endsWith : column.EndsWith message) (exact : column.Exact) :
    (column.unstamp message.lines message.matched).Exact := by
  rcases endsWith with empty | ⟨fits, last⟩
  · rw [unstamp_of_count_eq_zero empty]
    exact exact
  · have parts := List.take_append_drop (column.count - message.lines) column.marks
    have counted := congrArg (List.count true) parts
    rw [List.count_append, last, List.count_replicate, ← exact] at counted
    unfold Exact unstamp
    rw [Nat.min_eq_left fits]
    dsimp only
    cases matched : message.matched <;> simp_all
    omega

end Column

/-- A filter that has a last decision finds it at the end of its column. -/
def Filter.Backed (filter : Installed) (column : Column) : Prop :=
  ∀ message, filter.last = some message → column.EndsWith message

theorem Filter.backed_empty (filter : Installed) : filter.Backed {} :=
  fun _ _ => Or.inl Column.count_empty

/-- An action of a filter succeeds and changes no column but its own, which it leaves exact and, if
the filter can take a decision back, with this decision at its end.  It makes no more room than the
open message needs, and the filter goes on by no more lines than it reads. -/
def Filter.ActsExactly (filter : Installed) (read : Nat) (before : FilterState)
    (result : Except Fault (Installed × FilterState)) : Prop :=
  ∃ filter' column length after, result = .ok (filter', after) ∧ filter'.index = filter.index ∧
    Alters filter.index column length before after ∧ column.Exact ∧ filter'.Backed column ∧
    length ≤ max before.length (filter.position before) ∧
    column.count + filter'.pending.lines ≤ filter.position before + read

namespace Bench

/-- What holds of every bench that can be reached. -/
structure Sound (bench : Bench) : Prop where
  bounded : bench.state.Bounded
  distinct : (bench.filters.map Filter.index).Nodup
  exact : ∀ slot, (bench.state.column slot).Exact
  backed : ∀ filter ∈ bench.filters, filter.Backed (bench.state.column filter.index)

/-- Fresh filters in distinct places over an empty state are sound. -/
theorem sound_of_fresh {filters : List Installed} (fresh : ∀ filter ∈ filters, filter.Fresh)
    (distinct : (filters.map Filter.index).Nodup) (logfile : String) :
    (Bench.mk filters (FilterState.new logfile)).Sound where
  bounded := FilterState.bounded_new logfile
  distinct := distinct
  exact slot := by
    rw [FilterState.column_new]
    exact Column.exact_empty
  backed filter member := by
    intro message last
    rw [(fresh filter member).last] at last
    cases last

/-- No filter has gone on by more than a number of lines, and there is room for no more lines than these
or than can be asked for. -/
structure Within (lines : Nat) (bench : Bench) : Prop where
  length_le : bench.state.length ≤ max FilterState.maxLength lines
  position_le : ∀ filter ∈ bench.filters, filter.position bench.state ≤ lines

theorem within_of_fresh {filters : List Installed} (fresh : ∀ filter ∈ filters, filter.Fresh)
    (logfile : String) : (Bench.mk filters (FilterState.new logfile)).Within 0 where
  length_le := Nat.zero_le _
  position_le filter member := by
    rw [Filter.position_eq_count, FilterState.column_new, (fresh filter member).pending]
    exact Nat.le_refl 0

/-- A step succeeds and keeps the bench sound, and the filters go on by no more lines than are read. -/
def Steps (bench : Bench) (read : Nat) (result : Except Fault Bench) : Prop :=
  ∃ after, result = .ok after ∧ after.Sound ∧
    ∀ lines, bench.Within lines → after.Within (lines + read)

/-! ### One action -/

/-- Making room succeeds exactly for lengths a state can have. -/
theorem perform_resize {bench after : Bench} {length : Nat} :
    bench.perform (.resize length) = .ok after ↔
      length ≤ FilterState.maxLength ∧ after = { bench with state := bench.state.resize length } := by
  rw [perform, FilterState.resizeTo, FilterState.checkRoom, eq_comm (a := after)]
  split <;> simp [Except.map, *]

/-- Reserving room is refused beyond the greatest length and changes nothing below it. -/
theorem perform_reserve {bench after : Bench} {length : Nat} :
    bench.perform (.reserve length) = .ok after ↔ length ≤ FilterState.maxLength ∧ after = bench := by
  rw [perform, FilterState.reserveFor, FilterState.checkRoom, eq_comm (a := after)]
  split <;> simp [Except.map, FilterState.reserve, *]

/-- A filter that keeps its place leaves the list of places. -/
theorem map_index_set {filters : List Installed} {number : Nat} {filter filter' : Installed}
    (found : filters[number]? = some filter) (place : filter'.index = filter.index) :
    (filters.set number filter').map Filter.index = filters.map Filter.index := by
  obtain ⟨inRange, atNumber⟩ := List.getElem?_eq_some_iff.1 found
  have inPlaces : number < (filters.map Filter.index).length := by
    rwa [List.length_map]
  rw [List.map_set, place, ← atNumber, ← List.getElem_map Filter.index]
  exact List.set_getElem_self inPlaces

/-- Filters of different numbers have different places. -/
theorem index_ne_of_ne {filters : List Installed} (distinct : (filters.map Filter.index).Nodup)
    {number position : Nat} {filter other : Installed} (found : filters[number]? = some filter)
    (isOther : filters[position]? = some other) (apart : number ≠ position) :
    other.index ≠ filter.index := by
  intro same
  apply apart
  obtain ⟨inRange, _⟩ := List.getElem?_eq_some_iff.1 found
  apply (List.getElem?_inj (by rwa [List.length_map]) distinct).1
  rw [List.getElem?_map, List.getElem?_map, found, isOther, Option.map_some, Option.map_some, same]

/-- A step of one filter leaves the other filters what they have at the ends of their columns. -/
theorem Sound.drive {bench : Bench} (sound : bench.Sound) (number : Nat)
    (act : Installed → FilterState → Except Fault (Installed × FilterState)) {read : Nat}
    (exactly : ∀ filter ∈ bench.filters,
      filter.ActsExactly read bench.state (act filter bench.state)) :
    bench.Steps read (bench.drive number act) := by
  unfold Bench.drive
  cases found : bench.filters[number]? with
  | none =>
      refine ⟨bench, rfl, sound, fun lines within => ⟨?_, ?_⟩⟩
      · have before := within.length_le
        omega
      · exact fun filter member => Nat.le_add_right_of_le (within.position_le filter member)
  | some filter =>
      have isFilter := List.mem_of_getElem? found
      obtain ⟨filter', column, length, after, acts, place, alters, exactOwn, backedOwn, room, goesOn⟩ :=
        exactly filter isFilter
      -- The other filters have other places, whose columns did not change.
      have others : ∀ other ∈ bench.filters.set number filter', other = filter' ∨
          other ∈ bench.filters ∧ after.column other.index = bench.state.column other.index := by
        intro other member
        obtain ⟨position, isOther⟩ := List.mem_iff_getElem?.1 member
        rw [List.getElem?_set] at isOther
        split at isOther
        · split at isOther <;> cases isOther
          exact Or.inl rfl
        next here =>
          exact Or.inr ⟨List.mem_of_getElem? isOther,
            alters.other _ (index_ne_of_ne sound.distinct found isOther here)⟩
      refine ⟨⟨bench.filters.set number filter', after⟩, by simp only [acts]; rfl, ?_, ?_⟩
      · constructor
        case bounded => exact alters.bounded
        case distinct => exact map_index_set found place ▸ sound.distinct
        case exact =>
          intro slot
          by_cases own : slot = filter.index
          · subst own
            rw [alters.own]
            exact exactOwn
          · rw [alters.other slot own]
            exact sound.exact slot
        case backed =>
          intro other member
          rcases others other member with rfl | ⟨isOther, kept⟩
          · rw [place, alters.own]
            exact backedOwn
          · rw [kept]
            exact sound.backed other isOther
      · intro lines within
        have reached := within.position_le filter isFilter
        constructor
        case length_le =>
          have before := within.length_le
          rw [alters.length_eq]
          omega
        case position_le =>
          intro other member
          rcases others other member with rfl | ⟨isOther, kept⟩
          · rw [Filter.position_eq_count, place, alters.own]
            omega
          · have reachedOther := within.position_le other isOther
            rw [Filter.position_eq_count] at reachedOther ⊢
            rw [kept]
            omega

/-- A change of a filter that makes no decision keeps the bench sound. -/
theorem Sound.change {bench : Bench} (sound : bench.Sound) (number : Nat)
    {update : Installed → Installed} {read : Nat}
    (place : ∀ filter, (update filter).index = filter.index)
    (last : ∀ filter message, (update filter).last = some message →
      filter.last = some message)
    (reads : ∀ filter, (update filter).pending.lines ≤ filter.pending.lines + read) :
    bench.Steps read (bench.change number update) := by
  apply sound.drive number _
  intro filter member
  have more := reads filter
  refine ⟨update filter, _, _, bench.state, rfl, place filter,
    sound.bounded.alters_refl filter.index, sound.exact filter.index,
    fun message found => sound.backed filter member message (last filter message found),
    Nat.le_max_left _ _, ?_⟩
  rw [Filter.position_eq_count]
  omega

/-- The columns stay, or become empty, when only the state changes. -/
theorem Sound.restate {bench : Bench} (sound : bench.Sound) {state : FilterState}
    (bounded : state.Bounded) (room : state.length ≤ max bench.state.length FilterState.maxLength)
    (columns : ∀ slot, state.column slot = {} ∨ state.column slot = bench.state.column slot) :
    bench.Steps 0 (.ok { bench with state }) := by
  refine ⟨_, rfl, ?_, fun lines within => ?_⟩
  · constructor
    case bounded => exact bounded
    case distinct => exact sound.distinct
    case exact =>
      intro slot
      rcases columns slot with emptied | kept
      · exact emptied ▸ Column.exact_empty
      · exact kept ▸ sound.exact slot
    case backed =>
      intro filter member
      rcases columns filter.index with emptied | kept
      · exact emptied ▸ filter.backed_empty
      · exact kept ▸ sound.backed filter member
  · constructor
    case length_le =>
      have before := within.length_le
      dsimp only
      omega
    case position_le =>
      intro filter member
      have reached := within.position_le filter member
      rw [Filter.position_eq_count] at reached ⊢
      rcases columns filter.index with emptied | kept
      · rw [emptied, Column.count_empty]
        omega
      · rwa [kept]

end Bench

namespace Filter

variable {filter : Installed} {state : FilterState}

/-- The lines that are put back are those that are open then. -/
theorem reopen_lines {opened : Installed} {next : FilterState} {lines : Nat}
    (reopens : filter.reopen state = .ok (lines, opened, next)) :
    lines = 0 ∨ opened.pending.lines = lines := by
  cases last : filter.last with
  | none =>
      rw [reopen_none last] at reopens
      cases reopens
      exact Or.inl rfl
  | some message =>
      simp only [reopen, last] at reopens
      obtain ⟨_, _, opens⟩ := ok_of_bind reopens
      cases opens
      exact Or.inr rfl

/-- Ending a message writes the column of the filter that ends it, and no other. -/
theorem endMessage_exactly (bounded : state.Bounded) (exact : (state.column filter.index).Exact) :
    filter.ActsExactly 0 state (filter.endMessage state) := by
  obtain ⟨after, ends, alters⟩ := filter.endMessage_alters bounded
  refine ⟨_, _, _, after, ends, rfl, alters, exact.stamp _ _, ?_, Nat.le_refl _, ?_⟩
  · intro message last
    cases last
    exact Column.endsWith_stamp _ _
  · rw [position_eq_count]
    exact Nat.le_of_eq (Column.count_stamp ..)

theorem reopen_exactly (bounded : state.Bounded) (exact : (state.column filter.index).Exact)
    (backed : filter.Backed (state.column filter.index)) :
    filter.ActsExactly 0 state ((filter.reopen state).map Prod.snd) := by
  cases last : filter.last with
  | none =>
      rw [reopen_none last]
      exact ⟨filter, _, _, state, rfl, rfl, bounded.alters_refl filter.index, exact, backed,
        Nat.le_max_left _ _, Nat.le_of_eq (filter.position_eq_count state).symm⟩
  | some message =>
      obtain ⟨after, reopens, alters⟩ := reopen_alters last bounded
      rw [reopens]
      refine ⟨_, _, _, after, rfl, rfl, alters, (backed message last).exact_unstamp exact,
        (fun _ none => by cases none), Nat.le_max_left _ _, ?_⟩
      rw [Column.count_unstamp, position_eq_count, FilterState.count_column]
      dsimp only
      omega

/-- Leaving the last line of the reopened message unread does not touch the column. -/
theorem stepBack_exactly (bounded : state.Bounded) (exact : (state.column filter.index).Exact)
    (backed : filter.Backed (state.column filter.index)) :
    filter.ActsExactly 0 state (filter.stepBack state) := by
  obtain ⟨filter', column, length, after, reopens, place, alters, exactOwn, backedOwn, room, goesOn⟩ :=
    reopen_exactly bounded exact backed
  obtain ⟨⟨lines, opened, next⟩, whole, same⟩ := ok_of_map reopens
  cases same
  simp only [stepBack, whole, bind, Except.bind]
  by_cases noLines : lines = 0
  · rw [if_pos noLines]
    exact ⟨filter', column, length, after, rfl, place, alters, exactOwn, backedOwn, room, goesOn⟩
  · rw [if_neg noLines]
    have unread := reopen_lines whole
    refine ⟨_, column, length, after, rfl, place, alters, exactOwn, backedOwn, room, ?_⟩
    dsimp only
    omega

end Filter

namespace Bench

/-- No action can fail that asks for no more room than there can be, and each keeps the bench sound. -/
theorem perform_sound {bench : Bench} (sound : bench.Sound) {action : Action}
    (asked : ∀ length ∈ action.asked?, length ≤ FilterState.maxLength) :
    bench.Steps (if action.isAddLine then 1 else 0) (bench.perform action) := by
  cases action with
  | addLine number line =>
      exact sound.change number (fun _ => rfl) (fun _ _ last => last) fun _ => Nat.le_refl _
  | endMessage number =>
      exact sound.drive number Filter.endMessage fun filter _ =>
        Filter.endMessage_exactly sound.bounded (sound.exact filter.index)
  | stepBack number =>
      exact sound.drive number Filter.stepBack fun filter member =>
        Filter.stepBack_exactly sound.bounded (sound.exact filter.index)
          (sound.backed filter member)
  | reopen number =>
      refine sound.drive number (fun filter state => (filter.reopen state).map Prod.snd)
        fun filter member => ?_
      exact Filter.reopen_exactly sound.bounded (sound.exact filter.index)
        (sound.backed filter member)
  | discardPending number =>
      exact sound.change number (fun _ => rfl) (fun _ _ last => last) fun _ => Nat.zero_le _
  | reset number =>
      exact sound.change number (fun _ => rfl) (fun _ _ last => nomatch last) fun _ => Nat.zero_le _
  | setEnabled number enabled =>
      exact sound.change number (fun _ => rfl) (fun _ _ last => last) fun _ => Nat.le_refl _
  | setKind number kind =>
      exact sound.change number (fun _ => rfl) (fun _ _ last => last) fun _ => Nat.le_refl _
  | resize length =>
      have fits : length ≤ FilterState.maxLength := asked length rfl
      rw [perform_resize.2 ⟨fits, rfl⟩]
      refine sound.restate (sound.bounded.resize length) ?_ fun slot =>
        Or.inr (FilterState.column_resize _ _ slot)
      rw [FilterState.length_resize]
      omega
  | reserve length =>
      rw [perform_reserve.2 ⟨asked length rfl, rfl⟩]
      exact sound.restate sound.bounded (Nat.le_max_left _ _) fun _ => Or.inr rfl
  | clear =>
      exact sound.restate (FilterState.bounded_new "") (Nat.zero_le _) fun slot =>
        Or.inl (FilterState.column_new "" slot)
  | attach logfile =>
      exact sound.restate ⟨sound.bounded.count_le, sound.bounded.blank⟩ (Nat.le_max_left _ _)
        fun _ => Or.inr rfl
  | forget places =>
      refine sound.restate (sound.bounded.forget places) ?_ fun slot => ?_
      · rw [FilterState.length_forget]
        exact Nat.le_max_left _ _
      · rw [FilterState.column_forget]
        exact ite_eq_or_eq ..
  | retain places =>
      refine sound.restate (sound.bounded.retain places) ?_ fun slot => ?_
      · rw [FilterState.length_retain]
        exact Nat.le_max_left _ _
      · rw [FilterState.column_retain]
        exact (ite_eq_or_eq ..).symm

/-- An action that succeeds asks for no more room than there can be. -/
theorem asked_of_perform {bench after : Bench} {action : Action}
    (performs : bench.perform action = .ok after) :
    ∀ length ∈ action.asked?, length ≤ FilterState.maxLength := by
  intro length asks
  cases action with
  | resize length =>
      cases asks
      exact (perform_resize.1 performs).1
  | reserve length =>
      cases asks
      exact (perform_reserve.1 performs).1
  | _ => cases asks

/-- An action that is carried out keeps the bench sound. -/
theorem Sound.perform {bench after : Bench} (sound : bench.Sound) {action : Action}
    (performs : bench.perform action = .ok after) : after.Sound := by
  obtain ⟨_, performs', soundAfter, _⟩ := perform_sound sound (asked_of_perform performs)
  cases performs.symm.trans performs'
  exact soundAfter

/-! ### Whole runs -/

theorem Sound.run {bench after : Bench} (sound : bench.Sound) {actions : List Action}
    (runs : bench.run actions = .ok after) : after.Sound :=
  foldlM_keeps (fun _ _ _ _ sound performs => sound.perform performs) sound runs

/-- From a sound bench every sequence of actions is carried out, if no length asked for is too
great. -/
theorem run_sound {bench : Bench} (sound : bench.Sound) {actions : List Action}
    (asked : ∀ length ∈ actions.filterMap Action.asked?, length ≤ FilterState.maxLength) :
    bench.Steps (actions.countP Action.isAddLine) (bench.run actions) := by
  induction actions generalizing bench with
  | nil => exact ⟨bench, rfl, sound, fun _ within => within⟩
  | cons action rest ih =>
      have askedFirst : ∀ length ∈ action.asked?, length ≤ FilterState.maxLength :=
        fun length asks => asked length (List.mem_filterMap.2 ⟨action, List.mem_cons_self .., asks⟩)
      obtain ⟨next, performs, soundNext, withinNext⟩ := perform_sound sound askedFirst
      obtain ⟨after, runs, soundAfter, withinAfter⟩ := ih soundNext fun length asks =>
        asked length (((List.sublist_cons_self action rest).filterMap _).subset asks)
      refine ⟨after, ?_, soundAfter, fun lines within => ?_⟩
      · rw [run, List.foldlM_cons, performs]
        exact runs
      · rw [List.countP_cons, Nat.add_comm (rest.countP _), ← Nat.add_assoc]
        exact withinAfter _ (withinNext lines within)

/-- However fresh filters at different places are driven over a new state, nothing fails, as long as
room is asked for no more lines than a state can have.  No place counts more lines than have a mask, no
bit is set from its count on, its hits are the set bits, and a decision that can be taken back has its
hits counted, so that no hit is taken from zero.  The filters themselves need no more room than there
can be, unless more lines than that are read. -/
theorem run_counters {filters : List Installed} (fresh : ∀ filter ∈ filters, filter.Fresh)
    (distinct : (filters.map Filter.index).Nodup) (logfile : String) {actions : List Action}
    (asked : ∀ length ∈ actions.filterMap Action.asked?, length ≤ FilterState.maxLength) :
    ∃ bench, (Bench.mk filters (FilterState.new logfile)).run actions = .ok bench ∧
      (∀ slot, bench.state.count slot ≤ bench.state.length ∧
        (∀ line, bench.state.count slot ≤ line → (bench.state.mask line).has slot = false) ∧
        bench.state.hits slot = bench.state.masks.countP (·.has slot)) ∧
      (∀ filter ∈ bench.filters, ∀ message, filter.last = some message → message.matched = true →
        min message.lines (bench.state.count filter.index) ≤ bench.state.hits filter.index) ∧
      (actions.countP Action.isAddLine ≤ FilterState.maxLength →
        bench.state.length ≤ FilterState.maxLength) := by
  obtain ⟨bench, runs, sound, within⟩ := run_sound (sound_of_fresh fresh distinct logfile) asked
  refine ⟨bench, runs, ?_, ?_, ?_⟩
  · intro slot
    refine ⟨sound.bounded.count_le slot, sound.bounded.blank slot, ?_⟩
    rw [← FilterState.hits_column, sound.exact slot, sound.bounded.count_marks]
  · intro filter member message last matched
    have counted := (sound.backed filter member message last).taken_le_hits
      (sound.exact filter.index) matched
    rwa [FilterState.count_column, FilterState.hits_column] at counted
  · intro few
    have room := (within 0 (within_of_fresh fresh logfile)).length_le
    omega

/-- Two filters that stamp a matching line in a state that has room for it; the state is cleared
beneath them before the one stamps a second message and the other takes its decision back. -/
theorem run_counters_cleared :
    let filters := [Filter.sample .keep 0, Filter.sample .hide 1]
    let actions := [.reserve 9, .resize 3, .addLine 0 [98], .endMessage 0, .addLine 1 [98],
      .endMessage 1, .clear, .addLine 0 [97], .endMessage 0, .reopen 1]
    (∀ filter ∈ filters, filter.Fresh) ∧ (filters.map Filter.index).Nodup ∧
      (∀ length ∈ actions.filterMap Action.asked?, length ≤ FilterState.maxLength) ∧
      ∃ bench, (Bench.mk filters (FilterState.new "a.log")).run actions = .ok bench ∧
        (bench.state.hits 0, bench.state.hits 1) =
          (bench.state.masks.countP (·.has 0), bench.state.masks.countP (·.has 1)) ∧
        bench.state.length ≤ FilterState.maxLength := by
  intro filters actions
  have fresh : ∀ filter ∈ filters, filter.Fresh := by
    intro filter member
    rcases List.mem_pair.1 member with rfl | rfl <;> exact Filter.fresh_sample _ _
  have distinct : (filters.map Filter.index).Nodup := by decide
  have asked : ∀ length ∈ actions.filterMap Action.asked?, length ≤ FilterState.maxLength := by
    decide
  obtain ⟨bench, runs, counters, _, room⟩ := run_counters fresh distinct "a.log" asked
  exact ⟨fresh, distinct, asked, bench, runs, Prod.ext (counters 0).2.2 (counters 1).2.2,
    room (by decide)⟩

/-- Room for too many lines cannot be had, nor can it be announced. -/
theorem run_counters_beyond :
    let filters := [Filter.sample .keep 0, Filter.sample .hide 1]
    let start := Bench.mk filters (FilterState.new "a.log")
    let beyond := FilterState.maxLength + 1
    (∀ filter ∈ filters, filter.Fresh) ∧ (filters.map Filter.index).Nodup ∧
      start.run [.reserve beyond] = .error (.noRoom beyond) ∧
      start.run [.resize beyond] = .error (.noRoom beyond) := by
  refine ⟨?_, by decide, rfl, rfl⟩
  intro filter member
  rcases List.mem_pair.1 member with rfl | rfl <;> exact Filter.fresh_sample _ _

end Bench

end LogLens
