/-
Module: LogLens.Proofs.Incremental
Purpose: A log that grows while its filters change and read on.  A refresh finds what fresh copies of
  the filters would find on the whole log, except where a filter that is to be evaluated anew still
  holds lines open: these lines stay in front of the log for it.
Main exports: Registry.Change, Tail, Tail.Action, Tail.perform, Tail.Consistent,
  Tail.run_refresh_agrees_iff
-/
import LogLens.Proofs.Editing
import LogLens.Proofs.Refreshing
import LogLens.Regex.Compile

namespace LogLens

/-! ### Changes of the filters -/

/-- A change to the filters in force. -/
inductive Registry.Change where
  | addPattern (kind : FilterKind) (source : String) (caseSensitive : Bool)
  | install (kind : FilterKind) (index : Nat) (pattern : Pattern) (enabled : Bool)
  | delete (id : String)
  | replacePattern (id : String) (pattern : Pattern)
  | setEnabled (id : String) (enabled : Bool)
  | setKind (id : String) (kind : FilterKind)
  | beginEdit (id : String) (caseSensitive : Bool)
  | commitEdit (session : EditSession)
  | cancelEdit (session : EditSession)

section

variable [PatternCompiler]

/-- The filters after a change.  One that is refused changes nothing. -/
def Registry.change (registry : Registry) : Change → Registry
  | .addPattern kind source caseSensitive =>
    ((registry.addPattern kind source caseSensitive).toOption.map Prod.snd).getD registry
  | .install kind index pattern enabled =>
    (registry.install ((Filter.new kind index pattern).setEnabled enabled)).toOption.getD registry
  | .delete id => (registry.delete? id).getD registry
  | .replacePattern id pattern =>
    ((registry.replacePattern id pattern).toOption.map Prod.snd).getD registry
  | .setEnabled id enabled => (registry.setEnabled? id enabled).getD registry
  | .setKind id kind => (registry.setKind? id kind).getD registry
  | .beginEdit id caseSensitive =>
    ((EditSession.beginExisting registry id caseSensitive).toOption.map Prod.snd).getD registry
  | .commitEdit session => (session.commit registry).2
  | .cancelEdit session => session.cancel registry

/-- Of an edit that begins only one thing shows in the filters: the edited one is off. -/
theorem Registry.change_beginEdit (registry : Registry) (id : String) (caseSensitive : Bool) :
    registry.change (.beginEdit id caseSensitive) = registry.change (.setEnabled id false) := by
  simp only [Registry.change, EditSession.beginExisting, setEnabled?, modify?]
  cases registry.find? id <;> rfl

theorem Registry.change_evolves {registry : Registry} (wellFormed : registry.WellFormed)
    (change : Change) : registry.Evolves (registry.change change) := by
  cases change with
  | addPattern kind source caseSensitive =>
      exact Evolves.toOption wellFormed fun _ adds => addPattern_evolves wellFormed adds
  | install kind index pattern enabled =>
      cases installs : registry.install ((Filter.new kind index pattern).setEnabled enabled) with
      | error e =>
          simp only [Registry.change, installs]
          exact wellFormed.evolves_refl
      | ok after =>
          simp only [Registry.change, installs]
          exact install_evolves wellFormed rfl rfl installs
  | delete id => exact Evolves.getD wellFormed fun _ deletes => delete?_evolves wellFormed deletes
  | replacePattern id pattern =>
      exact Evolves.toOption wellFormed fun _ replaces =>
        replacePattern_evolves wellFormed replaces
  | setEnabled id enabled => exact (registry.setEnabled?_adjusts id enabled).evolves wellFormed
  | setKind id kind => exact (registry.setKind?_adjusts id kind).evolves wellFormed
  | beginEdit id caseSensitive =>
      rw [Registry.change_beginEdit]
      exact (registry.setEnabled?_adjusts id false).evolves wellFormed
  | commitEdit session => exact session.commit_evolves wellFormed
  | cancelEdit session => exact session.cancel_evolves wellFormed

end

/-! ### A growing log -/

/-- A log that grows, and the filters on it.  For each place it is noted which lines its filter held
open when its column was emptied last. -/
structure Tail where
  engine : Engine
  lines : List RawLine := []
  carried : Slot → List RawLine := fun _ => []

namespace Tail

def new (name : String) : Tail := { engine := Engine.new name }

def source (tail : Tail) : Source := ⟨tail.engine.state.logfile, tail.lines⟩

/-- The lines that a filter holds open. -/
def openLines (tail : Tail) (filter : Installed) : List RawLine :=
  (tail.lines.drop (tail.engine.state.count filter.index)).take filter.pending.lines

/-- The lines that are carried over if the columns of filters to evaluate anew are emptied now. -/
def carry (tail : Tail) (slot : Slot) : List RawLine :=
  if tail.engine.registry.dirty.has slot then
    (tail.engine.registry.filters.find? (·.index == slot)).elim [] tail.openLines
  else tail.carried slot

/-- What happens to a growing log and its filters.  Of the lines only those that the log has are
delivered. -/
inductive Action where
  | grow (line : RawLine)
  | change (change : Registry.Change)
  | observe (number : Nat)
  | newLines (first stop : Nat)
  | endOfFile
  | sync
  | refresh

def perform [PatternCompiler] (tail : Tail) : Action → Except Fault Tail
  | .grow line => .ok { tail with lines := tail.lines ++ [line] }
  | .change change =>
    .ok { tail with
      engine := { tail.engine with registry := tail.engine.registry.change change } }
  | .observe number =>
    match tail.lines[number]? with
    | some line => (tail.engine.observe number line).map fun engine => { tail with engine }
    | none => .ok tail
  | .newLines first stop =>
    if stop ≤ tail.lines.length then
      (tail.engine.newLines tail.source first stop).map fun engine => { tail with engine }
    else .ok tail
  | .endOfFile => tail.engine.endOfFile.map fun engine => { tail with engine }
  | .sync => .ok { tail with engine := tail.engine.sync, carried := tail.carry }
  | .refresh =>
    (tail.engine.refresh tail.source).map fun engine => { tail with engine, carried := tail.carry }

def run [PatternCompiler] (tail : Tail) (actions : List Action) :
    Except Fault Tail := actions.foldlM perform tail

/-! ### What every run keeps -/

/-- What a filter has read.  Until its column is emptied it reads behind what it found there, and
from then on behind the lines that were carried over. -/
def Accounts (tail : Tail) (filter : Installed) (column : Column) : Prop :=
  if tail.engine.registry.dirty.has filter.index then
    ∃ base, filter.HasRead tail.lines base [] column
  else filter.HasRead tail.lines {} (tail.carried filter.index) column

/-- What holds of every tail that can be reached. -/
structure Consistent (tail : Tail) : Prop where
  bounded : tail.engine.state.Bounded
  wellFormed : tail.engine.registry.WellFormed
  fits : tail.engine.state.length ≤ tail.lines.length
  accounts : ∀ filter ∈ tail.engine.registry.filters,
    tail.Accounts filter (tail.engine.state.column filter.index)

variable {tail : Tail}

/-- What a filter has read is known again if the notes on its place stand. -/
theorem Accounts.imp {after : Tail} {filter filter' : Installed} {column column' : Column}
    (accounts : tail.Accounts filter column) (place : filter'.index = filter.index)
    (noted : after.engine.registry.dirty.has filter.index =
      tail.engine.registry.dirty.has filter.index)
    (carried : after.carried filter.index = tail.carried filter.index)
    (each : ∀ base head, filter.HasRead tail.lines base head column →
      filter'.HasRead after.lines base head column') : after.Accounts filter' column' := by
  unfold Accounts at accounts ⊢
  rw [place, noted, carried]
  split
  next isNoted =>
    rw [if_pos isNoted] at accounts
    obtain ⟨base, hasRead⟩ := accounts
    exact ⟨base, each base [] hasRead⟩
  next notNoted =>
    rw [if_neg notNoted] at accounts
    exact each {} _ accounts

theorem consistent_new (name : String) : (new name).Consistent where
  bounded := FilterState.bounded_new name
  wellFormed := Registry.wellFormed_empty
  fits := Nat.le_refl 0
  accounts _ none := nomatch none

/-- Reading on in the log keeps account of what is read. -/
theorem Consistent.drives (consistent : tail.Consistent) {next : Engine}
    {further : Nat → List RawLine} {room : Nat} (drives : tail.engine.Drives further room next)
    (continues : Continues tail.lines further) (inLog : room ≤ tail.lines.length) :
    ({ tail with engine := next } : Tail).Consistent where
  bounded := drives.bounded
  wellFormed := consistent.wellFormed.of_alike drives.alike
  fits := by
    have before := consistent.fits
    have fits := drives.fits
    exact fits.trans (Nat.max_le.2 ⟨before, inLog⟩)
  accounts filter' member := by
    obtain ⟨filter, isFilter, alike, readsOn⟩ := exists_left_of_forall₂ drives.filters member
    apply (consistent.accounts filter isFilter).imp alike.index
    · dsimp only
      rw [drives.dirty]
    · rfl
    · intro base head hasRead
      rw [alike.index]
      exact hasRead.readsOn continues readsOn

/-- A line that arrives is read by no filter yet, so consistency is kept. -/
theorem Consistent.grow (consistent : tail.Consistent) (line : RawLine) :
    ({ tail with lines := tail.lines ++ [line] } : Tail).Consistent where
  bounded := consistent.bounded
  wellFormed := consistent.wellFormed
  fits := by
    have fits := consistent.fits
    rw [List.length_append]
    exact fits.trans (Nat.le_add_right _ _)
  accounts filter member := by
    apply Accounts.imp (consistent.accounts filter member)
    · rfl
    · rfl
    · rfl
    · intro base head hasRead
      exact hasRead.append [line]

/-- A filter that takes a place reads behind what it finds there. -/
theorem Consistent.change (consistent : tail.Consistent) {registry : Registry}
    (evolves : tail.engine.registry.Evolves registry) :
    ({ tail with engine := { tail.engine with registry } } : Tail).Consistent where
  bounded := consistent.bounded
  wellFormed := evolves.wellFormed
  fits := consistent.fits
  accounts filter member := by
    rcases evolves.each filter member with ⟨fresh, noted⟩ | ⟨old, isOld, keeps, sameNote⟩
    · -- The column still holds what a former filter left; it is emptied at the next sync.
      unfold Accounts
      rw [if_pos noted]
      refine ⟨_, Filter.hasRead_of_fresh fresh ?_⟩
      rw [FilterState.count_column]
      exact (consistent.bounded.count_le _).trans consistent.fits
    · rw [keeps.index] at sameNote ⊢
      apply (consistent.accounts old isOld).imp keeps.index sameNote
      · rfl
      · intro base head hasRead
        exact hasRead.congr keeps.pattern keeps.pending keeps.last

/-- What a filter carries over a synchronisation are the lines it has open when its place is dirty. -/
theorem Consistent.carry_eq (consistent : tail.Consistent) {filter : Installed}
    (member : filter ∈ tail.engine.registry.filters) :
    tail.carry filter.index = if tail.engine.registry.dirty.has filter.index then
      tail.openLines filter else tail.carried filter.index := by
  rw [carry, Registry.find?_of_nodup Filter.index consistent.wellFormed.places member]
  rfl

/-- When its column is emptied, a filter carries the lines that it holds open. -/
theorem Consistent.hasRead_sync (consistent : tail.Consistent) {filter : Installed}
    (member : filter ∈ tail.engine.registry.filters) :
    filter.HasRead tail.lines {} (tail.carry filter.index)
      (tail.engine.sync.state.column filter.index) := by
  have accounts := consistent.accounts filter member
  unfold Accounts at accounts
  rw [consistent.carry_eq member, Engine.column_sync member]
  split
  next noted =>
    rw [if_pos noted] at accounts
    obtain ⟨base, hasRead⟩ := accounts
    have emptied := hasRead.emptied
    rw [FilterState.count_column] at emptied
    exact emptied
  next notNoted =>
    rw [if_neg notNoted] at accounts
    exact accounts

/-- A synchronisation empties the dirty columns and keeps the tail consistent. -/
theorem Consistent.sync (consistent : tail.Consistent) :
    ({ tail with engine := tail.engine.sync, carried := tail.carry } : Tail).Consistent where
  bounded := Engine.bounded_sync consistent.bounded
  wellFormed := ⟨consistent.wellFormed.places, consistent.wellFormed.names⟩
  fits := by
    rw [Engine.length_sync]
    exact consistent.fits
  accounts filter member := by
    unfold Accounts
    rw [Engine.dirty_sync, Mask.has_zero, if_neg Bool.false_ne_true]
    exact consistent.hasRead_sync member

/-- A refresh decides for each filter on the log behind the lines that it carries. -/
theorem Consistent.refresh (consistent : tail.Consistent) :
    ∃ after, tail.engine.refresh tail.source = .ok (after.rebuild tail.lines.length) ∧
      tail.engine.sync.Drives (tail.lines.drop ·) tail.lines.length after ∧
      after.state.length = tail.lines.length ∧
      ∀ filter ∈ tail.engine.registry.filters,
        after.state.column filter.index = ({} : Column).extend filter.isMatch
          (tail.carry filter.index ++ tail.lines.drop (tail.carry filter.index).length) := by
  obtain ⟨after, refreshes, drives, grows, allClosed⟩ :=
    Engine.refresh_drives consistent.bounded consistent.wellFormed.places tail.source
      fun filter member => by
        obtain ⟨position, notBefore, inLog, reads⟩ := consistent.hasRead_sync member
        exact ⟨{}, _, reads, (Filter.position_of_read notBefore inLog).symm ▸ inLog⟩
  refine ⟨after, refreshes, drives, ?_, ?_⟩
  · have before := consistent.fits
    have fits := drives.fits
    rw [Engine.length_sync] at fits
    exact Nat.le_antisymm (fits.trans (Nat.max_le.2 ⟨before, Nat.le_refl _⟩)) grows
  · intro filter member
    obtain ⟨filter', isNext, alike, readsOn⟩ := exists_right_of_forall₂ drives.filters member
    have reads := (consistent.hasRead_sync member).reads_all readsOn
    have column := (reads.stands_closed (allClosed filter' isNext)).column_eq
    rw [alike.isMatch_eq, Column.count_empty, Nat.zero_add] at column
    exact column

theorem Consistent.position_le (consistent : tail.Consistent) {filter : Installed}
    (member : filter ∈ tail.engine.registry.filters) :
    filter.position tail.engine.state ≤ tail.lines.length := by
  have accounts := consistent.accounts filter member
  unfold Accounts at accounts
  rw [Filter.position_eq_count]
  split at accounts
  next =>
    obtain ⟨base, hasRead⟩ := accounts
    exact hasRead.at_position.2.1
  next => exact accounts.at_position.2.1

/-! ### Whole runs -/

/-- No action can fail, and each keeps the tail consistent. -/
theorem perform_consistent [PatternCompiler] (consistent : tail.Consistent) (action : Action) :
    ∃ next, tail.perform action = .ok next ∧ next.Consistent := by
  cases action with
  | grow line => exact ⟨_, rfl, consistent.grow line⟩
  | change change =>
      exact ⟨_, rfl, consistent.change (Registry.change_evolves consistent.wellFormed change)⟩
  | observe number =>
      cases isLine : tail.lines[number]? with
      | none => exact ⟨tail, by simp only [perform, isLine], consistent⟩
      | some line =>
          obtain ⟨next, observes, drives, _⟩ :=
            Engine.observe_drives consistent.bounded consistent.wellFormed.places number line
          have inRange := (List.getElem?_eq_some_iff.1 isLine).1
          refine ⟨_, ?_, consistent.drives drives (continues_line isLine) inRange⟩
          simp only [perform, isLine, observes]
          rfl
  | newLines first stop =>
      simp only [perform]
      by_cases inLog : stop ≤ tail.lines.length
      · have valid : ¬(first < stop ∧ tail.source.lines.length < stop) :=
          fun missing => Nat.not_lt.2 inLog missing.2
        rw [if_pos inLog, Engine.newLines, if_neg valid]
        by_cases none : stop ≤ first
        · rw [Nat.sub_eq_zero_of_le none, List.take_zero]
          exact ⟨tail, rfl, consistent⟩
        · obtain ⟨next, observes, drives⟩ := Engine.observeAll_drives consistent.bounded
            consistent.wellFormed.places first ((tail.lines.drop first).take (stop - first))
          refine ⟨_, ?_, consistent.drives drives (continues_lines inLog) ?_⟩
          · rw [show tail.source.lines = tail.lines from rfl, observes]
            rfl
          · rw [List.length_take, List.length_drop]
            omega
      · rw [if_neg inLog]
        exact ⟨tail, rfl, consistent⟩
  | endOfFile =>
      obtain ⟨next, ends, drives, _⟩ := Engine.endOfFile_drives consistent.bounded
        consistent.wellFormed.places fun filter member => consistent.position_le member
      refine ⟨_, ?_, consistent.drives drives (continues_nothing tail.lines) (Nat.le_refl _)⟩
      rw [perform, ends]
      rfl
  | sync => exact ⟨_, rfl, consistent.sync⟩
  | refresh =>
      obtain ⟨after, refreshes, drives, _⟩ := consistent.refresh
      have reread := consistent.sync.drives drives (continues_rest tail.lines) (Nat.le_refl _)
      refine ⟨⟨after.rebuild tail.lines.length, tail.lines, tail.carry⟩, ?_, reread.bounded,
        reread.wellFormed, reread.fits, reread.accounts⟩
      rw [perform, refreshes]
      rfl

/-- No history of a tail fails, and each keeps it consistent. -/
theorem run_consistent [PatternCompiler] (consistent : tail.Consistent) (actions : List Action) :
    ∃ after, tail.run actions = .ok after ∧ after.Consistent := by
  apply foldlM_ok _ actions consistent
  intro tail action consistent
  exact perform_consistent consistent action

end Tail

/-! ### Starting anew -/

/-- A new engine with fresh copies of the filters. -/
def Engine.anew (engine : Engine) : Engine where
  registry := ⟨engine.registry.filters.map Filter.reset, engine.registry.usedMask⟩
  state := FilterState.new engine.state.logfile

namespace Tail

/-- A new engine on the log as it stands. -/
def anew (tail : Tail) : Tail := { tail with engine := tail.engine.anew }

variable {tail : Tail}

theorem alike_anew (tail : Tail) :
    List.Forall₂ Filter.Alike tail.engine.registry.filters tail.anew.engine.registry.filters :=
  List.forall₂_map_right_iff.2 (List.forall₂_same.2 fun filter _ => filter.alike_reset)

/-- Starting the filters anew over the same lines gives a consistent tail. -/
theorem Consistent.anew (consistent : tail.Consistent) : tail.anew.Consistent where
  bounded := FilterState.bounded_new _
  wellFormed := consistent.wellFormed.of_alike tail.alike_anew
  fits := Nat.zero_le _
  accounts filter' member := by
    obtain ⟨filter, isFilter, rfl⟩ := List.mem_map.1 member
    have noted : tail.engine.registry.usedMask.has filter.index = true :=
      (Registry.has_usedMask _ _).2 ⟨filter, isFilter, rfl⟩
    have unread : tail.anew.engine.state.column filter.reset.index = {} :=
      FilterState.column_new _ _
    unfold Accounts
    rw [if_pos (show tail.anew.engine.registry.dirty.has filter.reset.index = true from noted),
      unread]
    exact ⟨{}, Filter.hasRead_of_fresh filter.fresh_reset (Nat.zero_le _)⟩

/-- Fresh copies of the filters carry no lines. -/
theorem Consistent.refresh_anew (consistent : tail.Consistent) :
    ∃ after, tail.engine.anew.refresh tail.source = .ok (after.rebuild tail.lines.length) ∧
      tail.engine.anew.sync.Drives (tail.lines.drop ·) tail.lines.length after ∧
      after.state.length = tail.lines.length ∧
      ∀ filter ∈ tail.engine.registry.filters,
        after.state.column filter.index = ({} : Column).extend filter.isMatch tail.lines := by
  obtain ⟨after, refreshes, drives, length, columns⟩ := consistent.anew.refresh
  refine ⟨after, refreshes, drives, length, ?_⟩
  intro filter member
  have isCopy : filter.reset ∈ tail.anew.engine.registry.filters := List.mem_map_of_mem member
  have column := columns filter.reset isCopy
  have carried : tail.anew.carry filter.reset.index = [] := by
    have noted : tail.anew.engine.registry.dirty.has filter.reset.index = true :=
      (Registry.has_usedMask _ _).2 ⟨filter, member, rfl⟩
    rw [consistent.anew.carry_eq isCopy, if_pos noted]
    exact List.take_zero
  rw [carried] at column
  exact column

/-- Whatever happens to a growing log and its filters, no fault occurs.  A refresh then leaves what
a new engine with fresh copies of the filters finds, if and only if the lines that each filter
carries in front of the log change none of its decisions. -/
theorem run_refresh_agrees_iff [PatternCompiler] (name : String) (actions : List Action) :
    ∃ tail after anew, (new name).run actions = .ok tail ∧
      tail.engine.refresh tail.source = .ok after ∧
      tail.engine.anew.refresh tail.source = .ok anew ∧
      (after.state = anew.state ∧ after.visible = anew.visible ↔
        ∀ filter ∈ tail.engine.registry.filters,
          decisions filter.isMatch
              (tail.carry filter.index ++ tail.lines.drop (tail.carry filter.index).length) =
            decisions filter.isMatch tail.lines) := by
  obtain ⟨tail, runs, consistent⟩ := run_consistent (consistent_new name) actions
  obtain ⟨after, refreshes, drives, length, columns⟩ := consistent.refresh
  obtain ⟨anew, refreshesAnew, drivesAnew, lengthAnew, columnsAnew⟩ := consistent.refresh_anew
  refine ⟨tail, _, _, runs, refreshes, refreshesAnew, ?_, ?_⟩
  · rintro ⟨sameState, _⟩ filter member
    have sameColumn : after.state.column filter.index = anew.state.column filter.index :=
      congrArg (FilterState.column · filter.index) sameState
    rw [columns filter member, columnsAnew filter member] at sameColumn
    exact congrArg Column.marks sameColumn
  · intro sameDecisions
    have places : tail.engine.anew.places = tail.engine.places :=
      Filter.map_eq_of_alike Filter.Alike.index tail.alike_anew
    have sameState : after.state = anew.state := by
      apply drives.state_eq drivesAnew places rfl (length.trans lengthAnew.symm)
      intro filter member
      rw [columns filter member, columnsAnew filter member, Column.extend, Column.extend,
        sameDecisions filter member]
    have sameMasks : ∀ kind, after.registry.enabledMask kind = anew.registry.enabledMask kind := by
      intro kind
      rw [Registry.enabledMask_congr drives.alike, Registry.enabledMask_congr drivesAnew.alike]
      exact (Registry.enabledMask_congr tail.alike_anew kind).symm
    exact ⟨sameState, Engine.visible_rebuild_congr sameState sameMasks _⟩

/-- The filter has the second line open when its column is emptied.  It reads on from there and
stamps that line first, so that the first line is seen although it does not match. -/
theorem refresh_disagrees :
    (do
      let tail ← (new "a.log").run [.change (.addPattern .keep "b" false), .grow ⟨[97], true⟩,
        .grow ⟨[98], true⟩, .newLines 0 2]
      let after ← tail.engine.refresh tail.source
      let anew ← tail.engine.anew.refresh tail.source
      return (after.visible, anew.visible)).toOption = some ([0, 1], [1]) := by
  decide +kernel

end Tail

end LogLens
