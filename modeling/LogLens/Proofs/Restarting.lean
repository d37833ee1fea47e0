/-
Module: LogLens.Proofs.Restarting
Purpose: An engine turns to another log.  Whatever its filters had read and whatever its results
  hold, a reset leaves nothing of it, and the next refresh decides every line of the log from the
  filters alone.
Main exports: Engine.column_sync_reset, Engine.refresh_reset
-/
import LogLens.Proofs.Viewing

namespace LogLens.Engine

variable {engine : Engine} {logfile : String}

theorem places_reset (engine : Engine) (logfile : String) :
    (engine.reset logfile).places = engine.places := by
  rw [places, reset, List.map_map]
  rfl

theorem alike_reset (engine : Engine) (logfile : String) :
    List.Forall₂ Filter.Alike engine.registry.filters
      (engine.reset logfile).registry.filters := by
  refine List.forall₂_map_right_iff.2 (List.forall₂_same.2 ?_)
  exact fun filter _ => filter.alike_reset

/-- After a restart every filter starts afresh. -/
theorem fresh_of_mem_reset {filter : Installed}
    (member : filter ∈ (engine.reset logfile).registry.filters) : filter.Fresh := by
  obtain ⟨before, _, rfl⟩ := List.mem_map.1 member
  exact before.fresh_reset

/-- No place has stamped a line after a reset, whatever is noted to be evaluated anew. -/
theorem column_sync_reset (engine : Engine) (logfile : String) (slot : Slot) :
    (engine.reset logfile).sync.state.column slot = {} := by
  have none : (engine.reset logfile).state.column slot = {} := FilterState.column_new logfile slot
  rw [sync, FilterState.column_retain, FilterState.column_forget, none, ite_self, ite_self]

/-- After a reset a refresh shows what the filters give on the log, and keeps their settings. -/
theorem refresh_reset (engine : Engine) (distinct : engine.places.Nodup) (logfile : String)
    (source : Source) :
    ∃ after, (engine.reset logfile).refresh source = .ok after ∧ after.Decided source.lines ∧
      List.Forall₂ Filter.Alike engine.registry.filters after.registry.filters ∧
      after.registry.dirty = 0 ∧ after.state.logfile = logfile := by
  have readsNothing : ∀ filter ∈ (engine.reset logfile).registry.filters,
      filter.Reads {} ((engine.reset logfile).sync.state.column filter.index) [] := by
    intro filter member
    rw [column_sync_reset]
    exact Filter.reads_of_fresh (fresh_of_mem_reset member) {}
  obtain ⟨after, refreshes, drives, enough, allClosed⟩ :=
    refresh_drives (FilterState.bounded_new logfile) (places_reset engine logfile ▸ distinct) source
      fun filter member => ⟨{}, [], readsNothing filter member, Nat.zero_le _⟩
  refine ⟨after.rebuild source.lines.length, refreshes, ?_, ?_, drives.dirty, drives.logfile⟩
  · refine decided_of_reads ?_ ?_ ?_ ?_ rfl
    · exact drives.bounded
    · have fits := drives.fits
      rw [length_sync, show (engine.reset logfile).state.length = 0 from rfl, Nat.zero_max] at fits
      exact Nat.le_antisymm fits enough
    · intro filter' member
      obtain ⟨filter, isFilter, alike, readsOn⟩ := exists_left_of_forall₂ drives.filters member
      have reads := readsOn {} [] (readsNothing filter isFilter)
      rw [List.nil_append, List.length_nil, Column.count_empty, ← alike.index] at reads
      exact ⟨allClosed filter' member, reads⟩
    · intro slot unused
      have notUsed : slot ∉ (engine.reset logfile).sync.places := by
        rw [← drives.places_eq]
        exact unused
      exact (drives.untouched slot notUsed).trans (column_sync_reset engine logfile slot)
  · exact forall₂_comp (fun _ _ _ one two => one.trans two) (alike_reset engine logfile) drives.alike

/-- The filters had read unequally far, one of them holds a message open, there are old decisions
and marks of places without a filter, and more masks than the log has lines. -/
theorem refresh_reset_of_disorder :
    let filters : List Installed :=
      [{ Filter.sample .keep 5 with pending := ⟨true, 3⟩, last := some ⟨true, 7⟩ },
        { Filter.sample .hide 0 with enabled := false, last := some ⟨false, 2⟩ }]
    let engine : Engine :=
      { registry := { filters, dirty := 4 }
        state :=
          { logfile := "old.log"
            masks := #[33, 0xFFFFFFFF, 1, 0]
            counts := (Vector.replicate maxFilters 0).set 5 9
            hitCounts := (Vector.replicate maxFilters 1).set 0 2 }
        visible := [9, 4] }
    let source : Source := ⟨"new.log", [⟨[97], false⟩, ⟨[98], false⟩, ⟨[97], true⟩]⟩
    engine.places.Nodup ∧
      ∃ after, (engine.reset "new.log").refresh source = .ok after ∧ after.Decided source.lines := by
  intro filters engine source
  have distinct : engine.places.Nodup := by decide
  obtain ⟨after, refreshes, decided, _⟩ := refresh_reset engine distinct "new.log" source
  exact ⟨distinct, after, refreshes, decided⟩

end LogLens.Engine
