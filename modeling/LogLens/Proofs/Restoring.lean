/-
Module: LogLens.Proofs.Restoring
Purpose: Filters written as a script and carried out on the same lines anew.  They come back in their
  order, set as they were and with the hits they had, though not always at their places.  The same
  lines are seen if there is a filter to see them by, or if the view had been refreshed before.
Main exports: Desk.Action.Fills, Desk.unfiltered_run, LogView.Carries, script_restored
-/
import LogLens.Proofs.Interleaving
import LogLens.Proofs.Showing
import LogLens.Regex.Compile

namespace LogLens

/-! ### Lines without filters -/

namespace Desk

/-- Lines are loaded, or the view is refreshed. -/
def Action.Fills (action : Action) : Prop := action.Loads ∨ action = .refresh

variable {desk after : Desk} {caseSensitive refreshed : Bool} {actions : List Action}

/-- Lines come to filters as these stand. -/
theorem plan_fills [PatternCompiler] (desk : Desk) {action : Action} (fills : action.Fills) :
    (desk.plan action).view.filters.unread = desk.view.filters.unread ∧
      (desk.plan action).view.caseSensitive = desk.view.caseSensitive := by
  rcases fills with loads | rfl
  · cases action with
    | appendLine text => exact ⟨rfl, rfl⟩
    | appendText text =>
        have filters := LogView.filters_foldl_record (LogView.linesOf text) desk.view
        exact ⟨congrArg Registry.unread filters, LogView.caseSensitive_foldl_record _ desk.view⟩
    | appendFile text =>
        have filters := LogView.filters_recordFile text desk.view
        exact ⟨congrArg Registry.unread filters, LogView.caseSensitive_recordFile text desk.view⟩
    | _ => cases loads
  · exact ⟨rfl, rfl⟩

/-- A view that lines were loaded into has no filters, and has settled if it was refreshed last. -/
theorem unfiltered_run [PatternCompiler] (unfiltered : desk.view.Unfiltered caseSensitive)
    (fill : ∀ action ∈ actions, action.Fills) (runs : desk.run actions = .ok (refreshed, after)) :
    after.view.Unfiltered caseSensitive ∧ (refreshed = true → after.view.Settled) := by
  let Good (step : Bool × Desk) : Prop := step.2.view.Unfiltered caseSensitive ∧ Kept step
  have good : Good (false, desk) := ⟨unfiltered, kept_unrefreshed unfiltered.inStep⟩
  have each : ∀ action ∈ actions, ∀ step next, Good step →
      step.2.perform action = .ok next → Good next := by
    rintro action member step next ⟨unfiltered, _⟩ performs
    obtain ⟨after, performsAfter, kept, same⟩ := perform_kept unfiltered.inStep action
    have isNext : next = ((step.2.effect action).refreshes, after) :=
      Except.ok.inj (performs.symm.trans performsAfter)
    subst isNext
    obtain ⟨filters, flag⟩ := step.2.outline.plan_fills (fill action member)
    rw [← same] at filters flag
    refine ⟨⟨kept.inStep, ?_, flag.trans unfiltered.caseSensitive⟩, kept⟩
    have bare : after.view.filters.bare.unread = step.2.view.filters.bare.unread := filters
    rw [← Registry.unread_bare, bare, Registry.unread_bare, unfiltered.unread]
  obtain ⟨unfilteredAfter, kept⟩ := foldlM_keeps each good runs
  exact ⟨unfilteredAfter, kept.settled⟩

end Desk

/-! ### What is set alike shows alike -/

theorem Registry.patterns_of_settings {registry other : Registry}
    (same : registry.settings = other.settings) :
    registry.filters.map Filter.pattern = other.filters.map Filter.pattern := by
  have each : ∀ registry : Registry,
      registry.filters.map Filter.pattern = registry.settings.map (·.2.1) := by
    intro registry
    rw [settings, List.map_map]
    rfl
  rw [each, same, ← each]

section Shows

variable {registry other : Registry} {view view' : LogView} {lines : List RawLine}

/-- The places of the filters do not matter for the lines that are seen and for the hits. -/
theorem Shows.visible_congr (shown : Shows registry view lines) (shown' : Shows other view' lines)
    (same : registry.settings = other.settings) : view.visibleLines = view'.visibleLines := by
  rw [shown.visible_eq, shown'.visible_eq, same]

/-- Views over the same settings and lines count the same hits. -/
theorem Shows.hits_congr (shown : Shows registry view lines) (shown' : Shows other view' lines)
    (same : registry.settings = other.settings) (id : String) : view.hits? id = view'.hits? id := by
  rw [shown.hits_eq, shown'.hits_eq, Registry.patterns_of_settings same]

end Shows

/-! ### Commands on lines -/

/-- What some commands made of a view that has no filters: the filters of a registry, on the lines of
the view. -/
structure LogView.Carries (start : LogView) (commands : List Command) (registry : Registry)
    (view : LogView) : Prop where
  inStep : view.InStep
  settles : commands ≠ [] ∨ start.Settled → view.Settled
  outline : view.outline = (start.withFilters registry.unread).outline

section Carries

variable {start view view' : LogView} {caseSensitive : Bool} {commands commands' : List Command}
  {registry other : Registry}

/-- Commands that a registry accepts are carried out by an unfiltered view as well. -/
theorem LogView.Unfiltered.carries [PatternCompiler] (unfiltered : start.Unfiltered caseSensitive)
    (takes : ({} : Registry).applyAll caseSensitive commands = .ok registry) :
    ∃ view, commands.foldlM applyTo start = .ok view ∧ start.Carries commands registry view := by
  obtain ⟨view, applies, inStep, settles, same⟩ := unfiltered.applyTo_ok takes
  exact ⟨view, applies, inStep, settles, same⟩

theorem LogView.Carries.unread (carries : start.Carries commands registry view) :
    view.filters.unread = registry.unread :=
  (LogView.unread_of_outline carries.outline).trans registry.unread_unread

theorem LogView.Carries.settings (carries : start.Carries commands registry view) :
    view.filters.settings = registry.settings := by
  rw [← Registry.settings_unread, carries.unread, Registry.settings_unread]

theorem LogView.Carries.script (carries : start.Carries commands registry view) :
    view.filters.script = registry.commands.map Command.render := by
  rw [← Registry.script_unread, carries.unread, Registry.script_unread, Registry.script_eq]

/-- The view shows the registry over its lines, unless there was no command and no refresh. -/
theorem LogView.Carries.shows (carries : start.Carries commands registry view)
    (settled : commands ≠ [] ∨ start.Settled) : Shows registry view start.buffer.source.lines :=
  shows_of_outline (carries.settles settled) carries.outline

/-- A filter that is not there has no hits. -/
theorem LogView.Carries.hits_none (carries : start.Carries commands registry view)
    (none : registry.settings = []) (id : String) : view.hits? id = .none := by
  have empty : view.filters.filters = [] := by
    rw [← carries.settings] at none
    exact List.map_eq_nil_iff.1 none
  rw [LogView.hits?, Registry.find?, empty]
  rfl

/-- Without commands there are no filters. -/
theorem ne_nil_of_settings [PatternCompiler]
    (takes : ({} : Registry).applyAll caseSensitive commands = .ok registry)
    (some : registry.settings ≠ []) : commands ≠ [] := by
  rintro rfl
  cases takes
  exact some rfl

/-- Filters that are set alike have one number of hits, be the view settled or not. -/
theorem LogView.Carries.hits_eq (carries : start.Carries commands registry view)
    (carries' : start.Carries commands' other view') (same : registry.settings = other.settings)
    (done : registry.settings ≠ [] → commands ≠ [] ∧ commands' ≠ []) (id : String) :
    view.hits? id = view'.hits? id := by
  by_cases none : registry.settings = []
  · rw [carries.hits_none none, carries'.hits_none (same ▸ none)]
  · obtain ⟨some, some'⟩ := done none
    exact (carries.shows (Or.inl some)).hits_congr (carries'.shows (Or.inl some')) same id

/-- The same lines are seen once the views are refreshed. -/
theorem LogView.Carries.refresh_eq (carries : start.Carries commands registry view)
    (carries' : start.Carries commands' other view') (same : registry.settings = other.settings) :
    ∃ shown shown', view.refresh = .ok shown ∧ view'.refresh = .ok shown' ∧
      shown.visibleLines = shown'.visibleLines := by
  obtain ⟨shown, refreshes, settled, outline⟩ := carries.inStep.refresh_same
  obtain ⟨shown', refreshes', settled', outline'⟩ := carries'.inStep.refresh_same
  have shows := shows_of_outline settled (outline.trans carries.outline)
  have shows' := shows_of_outline settled' (outline'.trans carries'.outline)
  exact ⟨shown, shown', refreshes, refreshes', shows.visible_congr shows' same⟩

end Carries

/-! ### A script written and read again -/

/-- A script is carried out on lines.  What its filters are written as is a script again, and it leads
from the same lines to filters that are set alike and have the same hits.  The same lines are seen
if the script has no commands, or leaves filters, or if the view had been refreshed since its last
line; a refresh of both views makes sure of that. -/
theorem script_restored [PatternCompiler] {name : String} {messageStart : Option String}
    {caseSensitive : Bool} {new : LogView}
    (isNew : LogView.new name messageStart caseSensitive = .ok new)
    {actions : List Desk.Action} (fill : ∀ action ∈ actions, action.Fills) {refreshed : Bool}
    {start : Desk} (loads : (Desk.mk new []).run actions = .ok (refreshed, start))
    {script : String} {commands : List Command} (parses : parseScript script = .ok commands)
    {first : LogView} (replays : commands.foldlM applyTo start.view = .ok first) :
    ∃ commands' again,
      parseScript ("\n".intercalate first.filters.script) = .ok commands' ∧
      commands'.foldlM applyTo start.view = .ok again ∧
      again.filters.settings = first.filters.settings ∧
      (∀ id, again.hits? id = first.hits? id) ∧
      (commands = [] ∨ first.filters.script ≠ [] ∨ refreshed = true →
        again.visibleLines = first.visibleLines) ∧
      ∃ shownAgain shownFirst, again.refresh = .ok shownAgain ∧ first.refresh = .ok shownFirst ∧
        shownAgain.visibleLines = shownFirst.visibleLines := by
  have empty : (Desk.mk new []).view.Unfiltered caseSensitive := LogView.unfiltered_new isNew
  obtain ⟨unfiltered, settled⟩ := Desk.unfiltered_run empty fill loads
  obtain ⟨registry, takes⟩ := unfiltered.takes replays
  obtain ⟨view, applies, carries⟩ := unfiltered.carries takes
  have isFirst : view = first := Except.ok.inj (applies.symm.trans replays)
  subst isFirst
  have made := Registry.made_empty.applyAll (arguments_of_parseScript parses) takes
  have areArguments : ∀ command ∈ registry.commands, Command.IsArgument command.argument := by
    intro command member
    obtain ⟨filter, isFilter, sameName⟩ := Registry.argument_of_mem_commands member
    exact sameName ▸ made.named filter isFilter
  obtain ⟨copy, takesAgain, sameSettings⟩ := made.recreated_settings
  obtain ⟨again, appliesAgain, carriesAgain⟩ := unfiltered.carries takesAgain
  refine ⟨registry.commands, again, ?_, appliesAgain, ?_, ?_, ?_, ?_⟩
  · rw [carries.script]
    exact parseScript_joined areArguments
  · rw [carriesAgain.settings, carries.settings, sameSettings]
  · exact carriesAgain.hits_eq carries sameSettings fun some =>
      ⟨ne_nil_of_settings takesAgain some, ne_nil_of_settings takes (sameSettings ▸ some)⟩
  · rintro (rfl | written | isRefreshed)
    · -- Nothing was done, and nothing is done again.
      cases takes
      cases applies
      cases appliesAgain
      rfl
    · have some : registry.settings ≠ [] := by
        intro none
        have same : registry.settings = ({} : Registry).settings := none
        rw [carries.script, Registry.commands_congr same] at written
        exact written rfl
      have shows := carries.shows (Or.inl (ne_nil_of_settings takes some))
      have showsAgain :=
        carriesAgain.shows (Or.inl (ne_nil_of_settings takesAgain (sameSettings ▸ some)))
      exact showsAgain.visible_congr shows sameSettings
    · have isSettled := settled isRefreshed
      have shows := carries.shows (Or.inr isSettled)
      exact (carriesAgain.shows (Or.inr isSettled)).visible_congr shows sameSettings
  · exact carriesAgain.refresh_eq carries sameSettings

/-- A filter between two others is deleted, and one of the two is turned off; the other one stands at
another place when the script is read again. -/
theorem script_restored_gap :
    let actions : List Desk.Action := [.appendFile "E a\n b\nE c\n"]
    let script := "filter-in a\nfilter-in x\nfilter-in b\ndelete-filter x\n\ndisable-filter a"
    ∃ start commands first commands' again,
      (Desk.mk .sample []).run actions = .ok (false, start) ∧
      parseScript script = .ok commands ∧ commands.foldlM applyTo start.view = .ok first ∧
      parseScript ("\n".intercalate first.filters.script) = .ok commands' ∧
      commands'.foldlM applyTo start.view = .ok again ∧
      first.filters.filters.map (·.index.val) = [0, 2] ∧
      again.filters.filters.map (·.index.val) = [0, 1] ∧
      first.visibleLines = [0, 1] ∧ again.visibleLines = [0, 1] := by
  intro actions script
  let places (view : LogView) : List Nat := view.filters.filters.map (·.index.val)
  let replay (start : LogView) (script : String) : Option LogView :=
    (parseScript script).toOption.bind fun commands => (commands.foldlM applyTo start).toOption
  have facts : (((Desk.mk .sample []).run actions).toOption.bind fun step =>
      (parseScript script).toOption.bind fun commands =>
      (commands.foldlM applyTo step.2.view).toOption.map fun first =>
        (step.1, places first, first.visibleLines, first.filters.script.length,
          (replay step.2.view ("\n".intercalate first.filters.script)).map places)) =
        some (false, [0, 2], [0, 1], 3, some [0, 1]) := by
    decide +kernel
  simp only [Option.bind_eq_some_iff, Option.map_eq_some_iff, Prod.mk.injEq] at facts
  obtain ⟨⟨refreshed, start⟩, loads, commands, parses, first, replays, rfl, placesFirst, seen,
    written, placesAgain⟩ := facts
  have loads := ok_of_toOption loads
  have parses := ok_of_toOption parses
  have replays := ok_of_toOption replays
  have fill : ∀ action ∈ actions, action.Fills := by
    simp [actions, Desk.Action.Fills, Desk.Action.Loads]
  obtain ⟨commands', again, parsesAgain, replaysAgain, _, _, seenAgain, _⟩ :=
    script_restored LogView.new_sample fill loads parses replays
  have some : first.filters.script ≠ [] := fun none => by simp [none] at written
  refine ⟨start, commands, first, commands', again, loads, parses, replays, parsesAgain,
    replaysAgain, placesFirst, ?_, seen, (seenAgain (Or.inr (Or.inl some))).trans seen⟩
  obtain ⟨view, replaysView, placesView⟩ := placesAgain
  simp only [replay, parsesAgain, Except.toOption, Option.bind_some, replaysAgain,
    Option.some.injEq] at replaysView
  exact replaysView ▸ placesView

/-- A filter is added and deleted on a view that was not refreshed before.  Nothing is left to be
written, and when nothing is carried out on that view no line is seen. -/
theorem script_restored_unseen :
    ¬∀ (name : String) (messageStart : Option String) (caseSensitive : Bool) (new : LogView),
      LogView.new name messageStart caseSensitive = .ok new →
      ∀ actions : List Desk.Action, (∀ action ∈ actions, action.Fills) →
      ∀ (refreshed : Bool) (start : Desk),
        (Desk.mk new []).run actions = .ok (refreshed, start) →
      ∀ (script : String) (commands : List Command), parseScript script = .ok commands →
      ∀ first, commands.foldlM applyTo start.view = .ok first →
      ∃ commands' again,
        parseScript ("\n".intercalate first.filters.script) = .ok commands' ∧
        commands'.foldlM applyTo start.view = .ok again ∧
        again.filters.settings = first.filters.settings ∧
        (∀ id, again.hits? id = first.hits? id) ∧
        again.visibleLines = first.visibleLines := by
  intro always
  let actions : List Desk.Action := [.appendFile "a\n"]
  let script := "filter-in a\ndelete-filter a"
  have facts : (((Desk.mk .sample []).run actions).toOption.bind fun step =>
      (parseScript script).toOption.bind fun commands =>
      (commands.foldlM applyTo step.2.view).toOption.map fun first =>
        (step.2.view.visibleLines, first.visibleLines, first.filters.script)) =
        some ([], [0], []) := by
    decide +kernel
  simp only [Option.bind_eq_some_iff, Option.map_eq_some_iff, Prod.mk.injEq] at facts
  obtain ⟨⟨refreshed, start⟩, loads, commands, parses, first, replays, unseen, seen, none⟩ := facts
  have fill : ∀ action ∈ actions, action.Fills := by
    simp [actions, Desk.Action.Fills, Desk.Action.Loads]
  obtain ⟨commands', again, parsesAgain, replaysAgain, _, _, same⟩ :=
    always "a.log" (some "^E") false .sample LogView.new_sample actions fill refreshed start
      (ok_of_toOption loads) script commands (ok_of_toOption parses) first (ok_of_toOption replays)
  rw [none] at parsesAgain
  cases parsesAgain
  cases replaysAgain
  rw [unseen, seen] at same
  cases same

end LogLens
