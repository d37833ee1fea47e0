/-
Module: LogLens.Proofs.Refreshing
Purpose: What a refresh does.  The columns of filters to evaluate anew, and of places without a
  filter, are emptied; then every filter reads on from its position to the end of the log.
Main exports: Engine.column_sync, Engine.refreshFrom, Engine.refresh_drives, Engine.Rereads,
  Engine.refresh_reads, Engine.visible_rebuild_congr
-/
import LogLens.Proofs.Driving
import LogLens.Proofs.Registration

namespace LogLens.Engine

variable {engine : Engine}

/-! ### Emptied columns -/

@[simp] theorem dirty_sync (engine : Engine) : engine.sync.registry.dirty = 0 := rfl

@[simp] theorem length_sync (engine : Engine) :
    engine.sync.state.length = engine.state.length := by
  simp [sync, Registry.takeDirty]

theorem bounded_sync (bounded : engine.state.Bounded) : engine.sync.state.Bounded :=
  (bounded.forget _).retain _

theorem column_sync_of_unused {slot : Slot} (unused : slot ∉ engine.places) :
    engine.sync.state.column slot = {} := by
  have notUsed : engine.registry.takeDirty.2.usedMask.has slot = false := by
    rw [Bool.eq_false_iff, Ne, Registry.has_usedMask]
    rintro ⟨filter, member, rfl⟩
    exact unused (List.mem_map_of_mem member)
  rw [sync, FilterState.column_retain, if_neg]
  rw [notUsed]
  exact Bool.false_ne_true

/-- The column of a filter is emptied if the filter is to be evaluated anew. -/
theorem column_sync {filter : Installed} (member : filter ∈ engine.registry.filters) :
    engine.sync.state.column filter.index =
      if engine.registry.dirty.has filter.index then {} else engine.state.column filter.index := by
  have used : engine.registry.takeDirty.2.usedMask.has filter.index = true :=
    (Registry.has_usedMask _ _).2 ⟨filter, member, rfl⟩
  rw [sync, FilterState.column_retain, if_pos used, FilterState.column_forget]
  rfl

/-! ### Reading what is missing -/

/-- The smallest count is below the bound and below each of the counts. -/
theorem foldl_min_le (filters : List Installed) (count : Installed → Nat) (most : Nat) :
    filters.foldl (fun n filter => min n (count filter)) most ≤ most ∧
      ∀ filter ∈ filters,
        filters.foldl (fun n filter => min n (count filter)) most ≤ count filter := by
  induction filters generalizing most with
  | nil => exact ⟨Nat.le_refl most, fun _ none => nomatch none⟩
  | cons first rest ih =>
      obtain ⟨least, each⟩ := ih (min most (count first))
      rw [List.foldl_cons]
      refine ⟨least.trans (Nat.min_le_left _ _), ?_⟩
      intro filter member
      rcases List.mem_cons.1 member with rfl | inRest
      · exact least.trans (Nat.min_le_right _ _)
      · exact each filter inRest

theorem minCount_le (engine : Engine) (most : Nat) : engine.minCount most ≤ most :=
  (foldl_min_le _ _ most).1

/-- A refresh starts no later than any filter's cursor. -/
theorem minCount_le_count {filter : Installed} (member : filter ∈ engine.registry.filters)
    (most : Nat) : engine.minCount most ≤ engine.state.count filter.index :=
  (foldl_min_le _ (fun filter => engine.state.count filter.index) most).2 filter member

/-- What lines are delivered in front of all filters does not matter. -/
theorem Drives.congr_from {before after : Engine} {further further' : Nat → List RawLine}
    {room first : Nat} (drives : Drives further room before after)
    (behind : ∀ filter ∈ before.registry.filters, first ≤ before.state.count filter.index)
    (same : ∀ position, first ≤ position → further' position = further position) :
    Drives further' room before after where
  bounded := drives.bounded
  logfile := drives.logfile
  dirty := drives.dirty
  visible := drives.visible
  grows := drives.grows
  fits := drives.fits
  filters := by
    have all := (List.forall₂_and_left _ _).2 ⟨behind, drives.filters⟩
    apply all.imp
    rintro filter filter' ⟨notFirst, alike, readsOn⟩
    refine ⟨alike, ?_⟩
    intro base lines reads
    have notBehind : first ≤ base.count + lines.length := by
      rw [← reads.position_of]
      exact notFirst.trans (Nat.le_add_right _ _)
    rw [same _ notBehind]
    exact readsOn base lines reads
  untouched := drives.untouched

/-- A refresh that has the lines from a given one on read again, whatever the filters have
stamped. -/
def refreshFrom (engine : Engine) (first : Nat) (source : Source) : Except Fault Engine := do
  let engine := engine.sync
  let lineCount := source.lines.length
  let engine := { engine with state := engine.state.resize lineCount }
  let engine ← engine.newLines source first lineCount
  let engine ← engine.endOfFile
  return engine.rebuild lineCount

/-- A refresh is a synchronisation and a reading from the smallest cursor on. -/
theorem refresh_eq_refreshFrom (engine : Engine) (source : Source) :
    engine.refresh source =
      engine.refreshFrom (engine.sync.minCount source.lines.length) source := rfl

theorem refreshFrom_eq_readOut (engine : Engine) (first : Nat) (source : Source) :
    engine.refreshFrom first source =
      let resized : Engine := { engine.sync with
        state := engine.sync.state.resize source.lines.length }
      (resized.readOut first (source.lines.drop first)).map (·.rebuild source.lines.length) := by
  have delivered : (source.lines.drop first).take (source.lines.length - first) =
      source.lines.drop first := List.take_of_length_le (by rw [List.length_drop])
  simp only [refreshFrom, newLines, Nat.lt_irrefl, and_false, if_false, delivered, readOut, bind,
    Except.bind, pure, Except.pure]
  generalize observeAll _ _ _ = observed
  cases observed with
  | error fault => rfl
  | ok middle =>
      dsimp only
      cases middle.endOfFile <;> rfl

/-- A refresh reads out what is ahead of each filter and then rebuilds the visible lines. -/
theorem refresh_eq_readOut (engine : Engine) (source : Source) :
    engine.refresh source =
      let first := engine.sync.minCount source.lines.length
      let resized : Engine := { engine.sync with
        state := engine.sync.state.resize source.lines.length }
      (resized.readOut first (source.lines.drop first)).map (·.rebuild source.lines.length) := by
  rw [refresh_eq_refreshFrom, refreshFrom_eq_readOut]

/-- Every filter that is not behind the end of the log reads up to it.  All messages are closed
then. -/
theorem refresh_drives (bounded : engine.state.Bounded) (distinct : engine.places.Nodup)
    (source : Source)
    (reads : ∀ filter ∈ engine.registry.filters, ∃ base heard,
      filter.Reads base (engine.sync.state.column filter.index) heard ∧
        base.count + heard.length ≤ source.lines.length) :
    ∃ after, engine.refresh source = .ok (after.rebuild source.lines.length) ∧
      Drives (source.lines.drop ·) source.lines.length engine.sync after ∧
      source.lines.length ≤ after.state.length ∧
      ∀ filter ∈ after.registry.filters, filter.pending.lines = 0 := by
  let first := engine.sync.minCount source.lines.length
  let resized : Engine := { engine.sync with
    state := engine.sync.state.resize source.lines.length }
  have stop : first + (source.lines.drop first).length = source.lines.length := by
    have inLog : first ≤ source.lines.length := minCount_le _ _
    rw [List.length_drop]
    omega
  have boundedResized : resized.state.Bounded := (bounded_sync bounded).resize _
  have readsResized : ∀ filter ∈ resized.registry.filters, ∃ base heard,
      filter.Reads base (resized.state.column filter.index) heard ∧
        base.count + heard.length ≤ first + (source.lines.drop first).length := by
    intro filter member
    obtain ⟨base, heard, reads, inLog⟩ := reads filter member
    refine ⟨base, heard, ?_, stop ▸ inLog⟩
    rw [FilterState.column_resize]
    exact reads
  obtain ⟨after, readsOut, drives, allClosed⟩ :=
    readOut_drives boundedResized distinct first (source.lines.drop first) readsResized
  rw [stop] at drives
  have behind : ∀ filter ∈ resized.registry.filters, first ≤ resized.state.count filter.index :=
    fun filter member => minCount_le_count member _
  refine ⟨after, ?_, Drives.of_resized (Nat.le_refl _) (drives.congr_from behind ?_), ?_, allClosed⟩
  · rw [refresh_eq_readOut]
    exact congrArg (Except.map _) readsOut
  · intro position notBefore
    have notInFront : ¬position < first := by omega
    simp only [notInFront, if_false, List.drop_drop]
    congr 1
    omega
  · have grows := drives.grows
    rw [FilterState.length_resize] at grows
    omega

/-- Where places without a filter were emptied, states with the same room differ in the columns of
the filters only. -/
theorem Drives.state_eq {other first second : Engine} {further further' : Nat → List RawLine}
    {room room' : Nat} (drives : Drives further room engine.sync first)
    (drives' : Drives further' room' other.sync second) (places : other.places = engine.places)
    (logfile : other.state.logfile = engine.state.logfile)
    (length : first.state.length = second.state.length)
    (columns : ∀ filter ∈ engine.registry.filters,
      first.state.column filter.index = second.state.column filter.index) :
    first.state = second.state := by
  apply FilterState.ext_columns drives.bounded drives'.bounded ?_ length
  · intro slot
    by_cases used : slot ∈ engine.places
    · obtain ⟨filter, member, rfl⟩ := List.mem_map.1 used
      exact columns filter member
    · have unused : slot ∉ other.places := places ▸ used
      rw [drives.untouched slot used, drives'.untouched slot unused, column_sync_of_unused used,
        column_sync_of_unused unused]
  · rw [drives.logfile, drives'.logfile]
    exact logfile.symm

/-! ### Settings, log and room -/

/-- The filters of the one engine have read on, or anew, to the other.  Their settings and the log
stay, and there is room for at least the given number of lines, and for no more than is needed. -/
structure Rereads (room : Nat) (before after : Engine) : Prop where
  alike : List.Forall₂ Filter.Alike before.registry.filters after.registry.filters
  logfile : after.state.logfile = before.state.logfile
  length_eq : after.state.length = max before.state.length room

theorem rereads_refl (engine : Engine) : Rereads 0 engine engine where
  alike := List.forall₂_same.2 fun filter _ => Filter.Alike.refl filter
  logfile := rfl
  length_eq := (Nat.max_zero _).symm

theorem Rereads.trans {before middle after : Engine} {room : Nat} (one : before.Rereads room middle)
    (two : middle.Rereads 0 after) : before.Rereads room after where
  alike := forall₂_comp (fun _ _ _ first second => first.trans second) one.alike two.alike
  logfile := two.logfile.trans one.logfile
  length_eq := by rw [two.length_eq, Nat.max_zero, one.length_eq]

theorem Drives.rereads {before after : Engine} {further : Nat → List RawLine} {room : Nat}
    (drives : Drives further room before after) (enough : room ≤ after.state.length) :
    before.Rereads room after where
  alike := drives.alike
  logfile := drives.logfile
  length_eq := Nat.le_antisymm drives.fits (Nat.max_le.2 ⟨drives.grows, enough⟩)

/-! ### A tidy engine -/

/-- Nothing is left to evaluate anew, and no place without a filter holds anything. -/
structure Tidy (engine : Engine) : Prop where
  bounded : engine.state.Bounded
  wellFormed : engine.registry.WellFormed
  dirty : engine.registry.dirty = 0
  unused : ∀ slot, slot ∉ engine.places → engine.state.column slot = {}

/-- Driving the filters of a tidy engine keeps it tidy. -/
theorem Tidy.drives {engine after : Engine} (tidy : engine.Tidy) {further : Nat → List RawLine}
    {room : Nat} (drives : Drives further room engine after) : after.Tidy where
  bounded := drives.bounded
  wellFormed := tidy.wellFormed.of_alike drives.alike
  dirty := drives.dirty.trans tidy.dirty
  unused slot notUsed := by
    rw [drives.places_eq] at notUsed
    rw [drives.untouched slot notUsed, tidy.unused slot notUsed]

theorem Tidy.rebuild {engine : Engine} (tidy : engine.Tidy) (lineCount : Nat) :
    (engine.rebuild lineCount).Tidy :=
  ⟨tidy.bounded, tidy.wellFormed, tidy.dirty, tidy.unused⟩

/-- A synchronisation leaves every engine with a well-formed registry tidy. -/
theorem tidy_sync (bounded : engine.state.Bounded) (wellFormed : engine.registry.WellFormed) :
    engine.sync.Tidy where
  bounded := bounded_sync bounded
  wellFormed := ⟨wellFormed.places, wellFormed.names⟩
  dirty := rfl
  unused _ notUsed := column_sync_of_unused notUsed

/-- A refresh leaves a tidy engine and keeps the settings.  If what the filters have read and the
rest of the log make up the same lines for all of them, then they have read these lines and closed all
messages. -/
theorem refresh_reads (bounded : engine.state.Bounded) (wellFormed : engine.registry.WellFormed)
    (source : Source) {lines : List RawLine}
    (reads : ∀ filter ∈ engine.registry.filters, ∃ heard,
      filter.Reads {} (engine.sync.state.column filter.index) heard ∧
        heard.length ≤ source.lines.length ∧ heard ++ source.lines.drop heard.length = lines) :
    ∃ after : Engine, engine.refresh source = .ok (after.rebuild source.lines.length) ∧ after.Tidy ∧
      engine.Rereads source.lines.length after ∧
      ∀ filter ∈ after.registry.filters, filter.pending.lines = 0 ∧
        filter.Reads {} (after.state.column filter.index) lines := by
  obtain ⟨after, refreshes, drives, enough, allClosed⟩ :=
    refresh_drives bounded wellFormed.places source fun filter member => by
      obtain ⟨heard, reads, inLog, _⟩ := reads filter member
      rw [← Nat.zero_add heard.length] at inLog
      exact ⟨{}, heard, reads, inLog⟩
  have rereads := drives.rereads enough
  refine ⟨after, refreshes, (tidy_sync bounded wellFormed).drives drives,
    ⟨rereads.alike, rereads.logfile, length_sync engine ▸ rereads.length_eq⟩, ?_⟩
  intro filter' member
  obtain ⟨filter, isFilter, alike, readsOn⟩ := exists_left_of_forall₂ drives.filters member
  obtain ⟨heard, reads, _, whole⟩ := reads filter isFilter
  have readsAll := readsOn {} heard reads
  rw [Column.count_empty, Nat.zero_add, whole, ← alike.index] at readsAll
  exact ⟨allClosed filter' member, readsAll⟩

/-! ### The lines that are seen -/

/-- What is seen depends on the masks and on the places of the enabled filters. -/
theorem visible_rebuild_congr {first second : Engine} (state : first.state = second.state)
    (masks : ∀ kind, first.registry.enabledMask kind = second.registry.enabledMask kind)
    (lineCount : Nat) : (first.rebuild lineCount).visible = (second.rebuild lineCount).visible := by
  have sees : first.sees = second.sees := by
    funext line
    simp only [sees, Registry.enabledMasks, masks, state]
  rw [rebuild, rebuild, sees]

end LogLens.Engine
