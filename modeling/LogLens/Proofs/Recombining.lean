/-
Module: LogLens.Proofs.Recombining
Purpose: Filters that are turned on or off, or take another kind.  The masks hold what every filter
  decides, whether or not it is on and whatever its kind, so that the lines that are seen then can be
  read off them; to evaluate all filters anew on the whole log would show the same lines.
Main exports: Registry.foldl_adjusts, Engine.Accurate, Engine.visible_of_accurate,
  Engine.rebuild_adjusted
-/
import LogLens.Proofs.Incremental
import LogLens.Proofs.Restarting
import LogLens.Proofs.Showing
import LogLens.Regex.Compile

namespace LogLens

/-! ### Changes that adjust filters -/

namespace Registry

/-- Whether a change turns a filter on or off or gives it another kind. -/
def Change.Adjusting : Change → Prop
  | .setEnabled _ _ | .setKind _ _ => True
  | _ => False

/-- One change, also of a filter that is not there. -/
theorem change_adjusts [PatternCompiler] {change : Change} (adjusting : change.Adjusting)
    (registry : Registry) : registry.Adjusts (registry.change change) := by
  cases change with
  | setEnabled id enabled => exact registry.setEnabled?_adjusts id enabled
  | setKind id kind => exact registry.setKind?_adjusts id kind
  | _ => exact adjusting.elim

/-- Any number of changes. -/
theorem foldl_adjusts [PatternCompiler] {changes : List Change}
    (adjusting : ∀ change ∈ changes, change.Adjusting) (registry : Registry) : registry.Adjusts
    (changes.foldl Registry.change registry) := by
  induction changes generalizing registry with
  | nil => exact registry.adjusts_refl
  | cons change rest ih =>
      have first := change_adjusts (adjusting change (List.mem_cons_self ..)) registry
      exact first.trans (ih (fun other inRest => adjusting other (List.mem_cons_of_mem _ inRest)) _)

/-- Filters that are set alike admit the same lines. -/
theorem admits_of_alike {before after : Registry}
    (alike : List.Forall₂ Filter.Alike before.filters after.filters)
    (lines : List RawLine) (line : Nat) : after.admits lines line = before.admits lines line := by
  have same : ∀ {filter other : Installed}, filter.Alike other → other.setting = filter.setting := by
    intro filter other alike
    rw [Filter.setting, Filter.setting, alike.kind, alike.pattern, alike.enabled]
  have settings : after.settings = before.settings := Filter.map_eq_of_alike same alike
  rw [admits_eq, admits_eq, settings]

end Registry

/-! ### Masks that hold what the filters decide -/

namespace Engine

variable {engine : Engine} {lines : List RawLine}

/-- The place of each filter holds what the filter decides on the messages of a log. -/
def Accurate (engine : Engine) (lines : List RawLine) : Prop :=
  ∀ filter ∈ engine.registry.filters, ∀ line, line < lines.length →
    (engine.state.mask line).has filter.index = decision filter.isMatch lines line

/-- Masks stay accurate, however the filters are adjusted. -/
theorem Accurate.of_adjusts (accurate : engine.Accurate lines) {registry : Registry}
    (adjusts : engine.registry.Adjusts registry) :
    ({ engine with registry } : Engine).Accurate lines := by
  intro filter member line inRange
  obtain ⟨old, isOld, keeps⟩ := exists_left_of_forall₂ adjusts.keeps member
  have test : filter.isMatch = old.isMatch := by
    funext text
    rw [Filter.isMatch, Filter.isMatch, keeps.pattern]
  rw [keeps.index, test]
  exact accurate old isOld line inRange

/-- Where the masks are accurate, those lines are seen that the filters admit. -/
theorem visible_of_accurate (accurate : engine.Accurate lines) :
    (engine.rebuild lines.length).visible =
      (List.range lines.length).filter (engine.registry.admits lines) := by
  apply List.filter_congr
  intro line inLines
  exact sees_eq fun filter member => accurate filter member line (List.mem_range.1 inLines)

/-- An engine whose filters have read the whole log is accurate about it. -/
theorem accurate_of_reads (bounded : engine.state.Bounded)
    (reads : ∀ filter ∈ engine.registry.filters, filter.pending.lines = 0 ∧
      filter.Reads {} (engine.state.column filter.index) lines) : engine.Accurate lines := by
  intro filter member line inRange
  obtain ⟨closed, reads⟩ := reads filter member
  exact (bounded.decides (reads.stands_closed closed).column_eq).decided line inRange

/-- After a reset a refresh makes the masks accurate. -/
theorem accurate_refresh_reset (engine : Engine) (wellFormed : engine.registry.WellFormed)
    (logfile : String) (source : Source) :
    ∃ after : Engine, (engine.reset logfile).refresh source =
        .ok (after.rebuild source.lines.length) ∧
      after.Accurate source.lines ∧ after.registry.WellFormed ∧
      List.Forall₂ Filter.Alike engine.registry.filters after.registry.filters := by
  have reads : ∀ filter ∈ (engine.reset logfile).registry.filters, ∃ heard,
      filter.Reads {} ((engine.reset logfile).sync.state.column filter.index) heard ∧
        heard.length ≤ source.lines.length ∧
        heard ++ source.lines.drop heard.length = source.lines := by
    intro filter member
    refine ⟨[], ?_, Nat.zero_le _, rfl⟩
    rw [column_sync_reset]
    exact Filter.reads_of_fresh (fresh_of_mem_reset member) {}
  obtain ⟨after, refreshes, tidy, rereads, readsAll⟩ :=
    refresh_reads (FilterState.bounded_new logfile) (wellFormed.of_alike (engine.alike_reset logfile))
      source reads
  refine ⟨after, refreshes, accurate_of_reads tidy.bounded readsAll, tidy.wellFormed, ?_⟩
  exact forall₂_comp (fun _ _ _ one two => one.trans two) (engine.alike_reset logfile) rereads.alike

/-- Once the masks are accurate, any number of filters may be turned on or off and take other kinds,
under names that are there or not.  Which lines are seen then is found by combining the masks anew: to
forget everything and to evaluate all filters on the whole log shows the same lines.  Meanwhile no
mask, no count, no hits and no message change. -/
theorem rebuild_adjusted [PatternCompiler] (engine : Engine)
    (wellFormed : engine.registry.WellFormed) {source : Source}
    (accurate : engine.Accurate source.lines) {changes : List Registry.Change}
    (adjusting : ∀ change ∈ changes, change.Adjusting) (logfile : String) :
    let adjusted : Engine :=
      { engine with registry := changes.foldl Registry.change engine.registry }
    let rebuilt := adjusted.rebuild source.lines.length
    rebuilt.state = engine.state ∧ engine.registry.Adjusts rebuilt.registry ∧
      ∃ anew, (adjusted.reset logfile).refresh source = .ok anew ∧
        List.Forall₂ Filter.Alike adjusted.registry.filters anew.registry.filters ∧
        anew.Accurate source.lines ∧ rebuilt.visible = anew.visible := by
  intro adjusted rebuilt
  have adjusts := Registry.foldl_adjusts adjusting engine.registry
  obtain ⟨anew, refreshes, accurateAnew, _, alike⟩ :=
    adjusted.accurate_refresh_reset (adjusts.wellFormed wellFormed) logfile source
  refine ⟨rfl, adjusts, _, refreshes, alike, accurateAnew, ?_⟩
  calc rebuilt.visible
      = (List.range source.lines.length).filter (adjusted.registry.admits source.lines) :=
        visible_of_accurate (accurate.of_adjusts adjusts)
    _ = (List.range source.lines.length).filter (anew.registry.admits source.lines) := by
        rw [funext fun line => Registry.admits_of_alike alike source.lines line]
    _ = (anew.rebuild source.lines.length).visible := (visible_of_accurate accurateAnew).symm

/-- After a refresh the only filter that keeps is turned off, one that hides keeps from now on, and a
third one is asked for in vain. -/
theorem rebuild_adjusted_last_keep :
    let other : Installed := (Filter.sample .hide 1).replacePattern (.octet "a" 97)
    let start : Engine :=
      { registry := { filters := [Filter.sample .keep 3, other] }, state := FilterState.new "a.log" }
    let source : Source :=
      ⟨"a.log", [⟨[98], true⟩, ⟨[97], true⟩, ⟨[98], false⟩, ⟨[99], true⟩]⟩
    let changes : List Registry.Change :=
      [.setEnabled "b" false, .setEnabled "c" false, .setKind "a" .keep]
    let adjusted := fun engine : Engine =>
      { engine with registry := changes.foldl Registry.change engine.registry }
    ∃ engine anew, (start.reset "a.log").refresh source = .ok engine ∧ engine.visible = [0] ∧
      ((adjusted engine).reset "a.log").refresh source = .ok anew ∧
      ((adjusted engine).rebuild 4).visible = anew.visible ∧ anew.visible = [1, 2] := by
  intro other start source changes adjusted
  have wellFormed : start.registry.WellFormed := ⟨by decide, by decide⟩
  have adjusting : ∀ change ∈ changes, change.Adjusting := by
    simp [changes, Registry.Change.Adjusting]
  have shown : ((start.reset "a.log").refresh source).map (fun engine =>
      (engine.visible, ((adjusted engine).rebuild 4).visible)) = .ok ([0], [1, 2]) := by
    decide +kernel
  obtain ⟨engine, refreshes, visible⟩ := ok_of_map shown
  obtain ⟨seen, seenAdjusted⟩ := Prod.mk.inj visible
  obtain ⟨after, refreshesSame, accurate, wellFormedAfter, _⟩ :=
    start.accurate_refresh_reset wellFormed "a.log" source
  rw [refreshes] at refreshesSame
  cases refreshesSame
  obtain ⟨_, _, anew, refreshesAnew, _, _, same⟩ :=
    rebuild_adjusted (after.rebuild 4) wellFormedAfter accurate adjusting "a.log"
  exact ⟨after.rebuild 4, anew, refreshes, seen, refreshesAnew, same, same.symm.trans seenAdjusted⟩

end Engine

end LogLens
