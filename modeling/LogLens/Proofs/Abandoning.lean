/-
Module: LogLens.Proofs.Abandoning
Purpose: An edit that is given up, or that cannot be installed, leaves no trace.  The view is the
  same as if the edit had never begun, whatever else was done with lines and other filters
  meanwhile.
Main exports: Filter.turned, Desk.Action.Around, Desk.run_abandoned
-/
import LogLens.Proofs.Serving
import LogLens.Regex.Compile

namespace LogLens

/-! ### One filter turned on or off -/

/-- A filter, which is turned on or off if it has the given name. -/
def Filter.turned (id : String) (enabled : Bool) (filter : Installed) : Installed :=
  if filter.id = id then filter.setEnabled enabled else filter

namespace Filter

variable {id : String}

theorem turned_of_ne {filter : Installed} (other : filter.id ≠ id) (enabled : Bool) :
    filter.turned id enabled = filter := if_neg other

/-- Switching a filter to the state it is in changes nothing. -/
theorem turned_of_enabled {filter : Installed} {enabled : Bool}
    (stands : filter.id = id → filter.enabled = enabled) : filter.turned id enabled = filter := by
  unfold turned
  split
  next named => rw [setEnabled, ← stands named]
  next => rfl

/-- Of two switches of one filter only the later one counts. -/
theorem turned_turned (id : String) (first last : Bool) (filter : Installed) :
    (filter.turned id first).turned id last = filter.turned id last := by
  by_cases named : filter.id = id
  · have stillNamed : (filter.setEnabled first).id = id := named
    rw [turned, turned, turned, if_pos named, if_pos named, if_pos stillNamed]
    rfl
  · rw [turned_of_ne named]

theorem map_turned_of_ne {filters : List Installed} (others : ∀ filter ∈ filters, filter.id ≠ id)
    (enabled : Bool) : filters.map (turned id enabled) = filters :=
  (List.map_congr_left fun filter member => turned_of_ne (others filter member) enabled).trans
    (List.map_id _)

theorem keepsRole_turned (id : String) (enabled : Bool) : KeepsRole (turned id enabled) := by
  constructor
  all_goals
    intro filter
    unfold turned
    split <;> rfl

/-- What is done with other filters does not meet the one that is turned on or off. -/
theorem commutes_turned {name : String} (other : name ≠ id) (enabled : Bool) :
    Commutes (turned id enabled) name where
  keepsRole := keepsRole_turned id enabled
  fresh filter named _ := turned_of_ne (named ▸ other) enabled
  setEnabled filter named on := by
    have apart : filter.id ≠ id := named ▸ other
    have apartOn : (filter.setEnabled on).id ≠ id := apart
    rw [turned_of_ne apart, turned_of_ne apartOn]
  setKind filter named kind := by
    have apart : filter.id ≠ id := named ▸ other
    have apartKind : (filter.setKind kind).id ≠ id := apart
    rw [turned_of_ne apart, turned_of_ne apartKind]

end Filter

namespace Registry

variable {registry : Registry} {change : Installed → Installed}

theorem mapFilters_eq_self (same : ∀ filter ∈ registry.filters, change filter = filter) :
    registry.mapFilters change = registry :=
  ext_registry ((List.map_congr_left same).trans (List.map_id _)) rfl

/-- A change that leaves names and places alone keeps the registry well formed. -/
theorem WellFormed.mapFilters (wellFormed : registry.WellFormed) (keeps : Filter.KeepsRole change) :
    (registry.mapFilters change).WellFormed where
  places := by
    have places : Filter.index ∘ change = Filter.index := funext keeps.index
    rw [filters_mapFilters, List.map_map, places]
    exact wellFormed.places
  names := by
    have names : Filter.id ∘ change = Filter.id := funext keeps.id_eq
    rw [filters_mapFilters, List.map_map, names]
    exact wellFormed.names

/-- Where no two filters have one name, turning on or off meets one filter. -/
theorem getD_setEnabled? (wellFormed : registry.WellFormed) (id : String) (enabled : Bool) :
    (registry.setEnabled? id enabled).getD registry =
      registry.mapFilters (Filter.turned id enabled) := by
  rw [setEnabled?, modify?]
  cases found : registry.find? id with
  | none =>
      have others : ∀ filter ∈ registry.filters, filter.id ≠ id := fun filter member named =>
        List.find?_eq_none.1 found filter member (beq_iff_eq.2 named)
      exact ext_registry (Filter.map_turned_of_ne others enabled).symm rfl
  | some filter =>
      obtain ⟨front, back, whole, passes, first, _⟩ := wellFormed.between found
      have named : filter.id = id := eq_of_beq passes
      have names := wellFormed.names
      rw [whole] at names
      have others : ∀ other ∈ front ++ back, other.id ≠ id := fun other inRest =>
        named ▸ ne_of_nodup Filter.id names inRest
      have sameFront := Filter.map_turned_of_ne
        (fun other inFront => others other (List.mem_append_left back inFront)) enabled
      have sameBack := Filter.map_turned_of_ne
        (fun other inBack => others other (List.mem_append_right front inBack)) enabled
      refine ext_registry ?_ rfl
      rw [if_pos Option.isSome_some, Option.getD_some, whole, modifyFirst_append _ passes first,
        filters_mapFilters, whole, List.map_append, List.map_cons, sameFront, sameBack,
        Filter.turned, if_pos named]

theorem mapFilters_turned_turned (registry : Registry) (id : String) (first last : Bool) :
    (registry.mapFilters (Filter.turned id first)).mapFilters (Filter.turned id last) =
      registry.mapFilters (Filter.turned id last) := by
  refine ext_registry ?_ rfl
  rw [filters_mapFilters, filters_mapFilters, List.map_map]
  exact List.map_congr_left fun filter _ => Filter.turned_turned id first last filter

end Registry

/-! ### Edits that are not installed -/

namespace EditSession

/-- An edit that is given up turns its filter on or off as it was. -/
theorem cancel_eq_mapFilters {session : EditSession} {registry : Registry}
    (wellFormed : registry.WellFormed) {id : String} {kind : FilterKind} {slot : Slot}
    {wasEnabled : Bool} (target : session.target = .existing id kind slot wasEnabled) :
    session.cancel registry = registry.mapFilters (Filter.turned id wasEnabled) := by
  simp only [cancel, target]
  exact Registry.getD_setEnabled? wellFormed id wasEnabled

end EditSession

namespace LogView

@[simp] theorem filters_withFilters (view : LogView) (registry : Registry) :
    (view.withFilters registry).filters = registry := rfl

@[simp] theorem caseSensitive_withFilters (view : LogView) (registry : Registry) :
    (view.withFilters registry).caseSensitive = view.caseSensitive := rfl

/-- Recording lines does not look at the filters, so the two changes can be swapped. -/
theorem foldl_record_withFilters (texts : List String) (view : LogView) (registry : Registry) :
    texts.foldl record (view.withFilters registry) =
      (texts.foldl record view).withFilters registry := by
  induction texts generalizing view with
  | nil => rfl
  | cons text rest ih => exact ih (view.record text)

theorem recordFile_withFilters (text : String) (view : LogView) (registry : Registry) :
    (view.withFilters registry).recordFile text = (view.recordFile text).withFilters registry :=
  congrArg (fun view : LogView => { view with fileStart := false })
    (foldl_record_withFilters (linesOf text) { view with fileStart := true } registry)

end LogView

namespace Desk

/-! ### Work around an edit -/

/-- Other texts for one edit, work on lines, refreshes, and commands that name other filters. -/
def Action.Around (id : String) (number : Nat) : Action → Prop
  | appendLine _ | appendText _ | appendFile _ | amendLast _ | refresh => True
  | apply command => command.argument ≠ id
  | toggleKind other => other ≠ id
  | preview edit _ => edit = number
  | beginNew _ | beginEdit _ | commitEdit _ | cancelEdit _ => False

/-- Whether a text is entered for an edit. -/
def Action.isPreview : Action → Bool
  | preview _ _ => true
  | _ => false

/-- A desk with one filter turned on or off and with other edits. -/
def turned (desk : Desk) (id : String) (enabled : Bool) (sessions : List EditSession) : Desk :=
  ⟨desk.view.withFilters (desk.view.filters.mapFilters (Filter.turned id enabled)), sessions⟩

variable {desk : Desk} {id : String}

section

variable [PatternCompiler]

/-- Work around the edit of a filter does not meet it. -/
theorem plan_turned {number : Nat} {action : Action} (around : action.Around id number)
    (noText : action.isPreview = false) (desk : Desk) (enabled : Bool)
    (sessions : List EditSession) :
    (desk.turned id enabled sessions).plan action = (desk.plan action).turned id enabled sessions ∧
      (desk.plan action).sessions = desk.sessions := by
  cases action with
  | preview _ _ => cases noText
  | beginNew _ | beginEdit _ | commitEdit _ | cancelEdit _ => cases around
  | refresh | amendLast _ => exact ⟨rfl, rfl⟩
  | appendLine text => exact ⟨rfl, rfl⟩
  | appendText text =>
      refine ⟨?_, rfl⟩
      simp only [plan, effect, Action.effect, sketch, turned, LogView.foldl_record_withFilters,
        LogView.filters_foldl_record]
  | appendFile text =>
      refine ⟨?_, rfl⟩
      simp only [plan, effect, Action.effect, sketch, turned, LogView.recordFile_withFilters,
        LogView.filters_recordFile]
  | apply command =>
      have commutes : Filter.Commutes (Filter.turned id enabled) command.argument :=
        Filter.commutes_turned around enabled
      simp only [plan, effect, Action.effect, turned, LogView.filters_withFilters,
        LogView.caseSensitive_withFilters, Registry.apply_mapFilters commutes]
      cases desk.view.filters.apply desk.view.caseSensitive command <;> exact ⟨rfl, rfl⟩
  | toggleKind other =>
      have commutes : Filter.Commutes (Filter.turned id enabled) other :=
        Filter.commutes_turned around enabled
      simp only [plan, effect, Action.effect, turned, LogView.filters_withFilters,
        Registry.toggle?_mapFilters commutes]
      cases desk.view.filters.toggle? other <;> exact ⟨rfl, rfl⟩

/-- A text for an edit changes this edit only. -/
theorem plan_preview_last (desk : Desk) (sessions : List EditSession) (session : EditSession)
    (enabled : Bool) (text : String) :
    (desk.turned id enabled (sessions ++ [session])).plan (.preview sessions.length text) =
      desk.turned id enabled (sessions ++ [(session.preview text).1]) := by
  have last : (sessions ++ [session]).modify sessions.length
      (fun session => (session.preview text).1) = sessions ++ [(session.preview text).1] := by
    rw [List.modify_eq_set_getElem?]
    simp
  simp only [plan, effect, Action.effect, sketch, turned, last]

/-- During an edit the desk differs from one without it in the filter, which is off, and in the
edit. -/
theorem foldl_plan_turned {actions : List Action} (desk : Desk) (session : EditSession)
    (around : ∀ action ∈ actions, action.Around id desk.sessions.length) :
    let alone := (actions.filter (!·.isPreview)).foldl plan desk
    ∃ session', session'.target = session.target ∧ alone.sessions = desk.sessions ∧
      actions.foldl plan (desk.turned id false (desk.sessions ++ [session])) =
        alone.turned id false (desk.sessions ++ [session']) := by
  induction actions generalizing desk session with
  | nil => exact ⟨session, rfl, rfl, rfl⟩
  | cons action rest ih =>
      have isAround := around action (List.mem_cons_self ..)
      have aroundRest : ∀ action ∈ rest, action.Around id desk.sessions.length :=
        fun action inRest => around action (List.mem_cons_of_mem _ inRest)
      cases isText : action.isPreview with
      | true =>
          cases action with
          | preview number text =>
              cases (isAround : number = desk.sessions.length)
              obtain ⟨session', target, sessions, same⟩ :=
                ih desk (session.preview text).1 aroundRest
              refine ⟨session', target.trans (session.target_preview text), sessions, ?_⟩
              rw [List.foldl_cons, plan_preview_last]
              exact same
          | _ => cases isText
      | false =>
          obtain ⟨planned, keptSessions⟩ :=
            plan_turned isAround isText desk false (desk.sessions ++ [session])
          rw [← keptSessions] at aroundRest
          obtain ⟨session', target, sessions, same⟩ := ih (desk.plan action) session aroundRest
          rw [keptSessions] at sessions same
          refine ⟨session', target, ?_, ?_⟩
          · rw [List.filter_cons_of_pos (by rw [isText]; rfl), List.foldl_cons]
            exact sessions
          · rw [List.filter_cons_of_pos (by rw [isText]; rfl), List.foldl_cons, List.foldl_cons,
              planned]
            exact same

/-- Without the edit the filter stays on or off, as it was. -/
theorem foldl_plan_stands {number : Nat} {actions : List Action} {desk : Desk} {enabled : Bool}
    (around : ∀ action ∈ actions, action.Around id number)
    (noTexts : ∀ action ∈ actions, action.isPreview = false)
    (stands : desk.turned id enabled desk.sessions = desk) :
    let after := actions.foldl plan desk
    after.turned id enabled after.sessions = after := by
  induction actions generalizing desk with
  | nil => exact stands
  | cons action rest ih =>
      obtain ⟨planned, sessions⟩ := plan_turned (around action (List.mem_cons_self ..))
        (noTexts action (List.mem_cons_self ..)) desk enabled desk.sessions
      apply ih (fun other inRest => around other (List.mem_cons_of_mem _ inRest))
        (fun other inRest => noTexts other (List.mem_cons_of_mem _ inRest))
      rw [sessions, ← planned, stands]

/-- When an edit begins its filter is turned off. -/
theorem plan_beginEdit (wellFormed : desk.view.filters.WellFormed)
    (dirty : desk.view.filters.dirty = 0) {filter : Installed}
    (found : desk.view.filters.find? id = some filter) :
    ∃ session : EditSession,
      session.target = .existing id filter.kind filter.index filter.enabled ∧
      desk.plan (.beginEdit id) = desk.turned id false (desk.sessions ++ [session]) := by
  let session : EditSession :=
    { target := .existing id filter.kind filter.index filter.enabled
      caseSensitive := desk.view.caseSensitive
      candidate := some filter.pattern }
  have begins : EditSession.beginExisting desk.view.filters id desk.view.caseSensitive =
      .ok (session, desk.view.filters.mapFilters (Filter.turned id false)) := by
    simp only [EditSession.beginExisting, found, Registry.getD_setEnabled? wellFormed]
    rfl
  have taken : (desk.view.filters.mapFilters (Filter.turned id false)).takeDirty.2 =
      desk.view.filters.mapFilters (Filter.turned id false) :=
    Registry.ext_registry rfl dirty.symm
  refine ⟨session, rfl, ?_⟩
  simp only [plan, effect, Action.effect, begins, sketch, taken]
  rfl

omit [PatternCompiler] in
/-- Turning a filter on or off as it is changes nothing. -/
theorem turned_of_found (wellFormed : desk.view.filters.WellFormed) {filter : Installed}
    (found : desk.view.filters.find? id = some filter) :
    desk.turned id filter.enabled desk.sessions = desk := by
  have same : desk.view.filters.mapFilters (Filter.turned id filter.enabled) =
      desk.view.filters := by
    apply Registry.mapFilters_eq_self
    intro other member
    apply Filter.turned_of_enabled
    intro named
    have isOther := Registry.find?_of_nodup Filter.id wellFormed.names member
    rw [named] at isOther
    rw [Option.some.inj (isOther.symm.trans found)]
  rw [turned, same]
  rfl

/-! ### Two runs side by side -/

/-- Two desks with the same work behind them.  On the one a filter is being edited and is off
meanwhile; on the other the edit never began. -/
structure Beside (id : String) (session : EditSession) (edited alone : Desk) : Prop where
  inStep : edited.view.InStep
  inStepAlone : alone.view.InStep
  outline_eq : edited.outline = alone.outline.turned id false (alone.sessions ++ [session])
  stands : ∃ kind slot enabled, session.target = .existing id kind slot enabled ∧
    alone.outline.turned id enabled alone.sessions = alone.outline

/-- Work around an edit leads to such desks. -/
theorem run_beside (inStep : desk.view.InStep)
    (installed : (desk.view.filters.find? id).isSome = true) {actions : List Action}
    (around : ∀ action ∈ actions, action.Around id desk.sessions.length) :
    ∃ step middle session, desk.run (.beginEdit id :: actions) = .ok step ∧
      desk.run (actions.filter (!·.isPreview)) = .ok middle ∧ middle.2.sessions = desk.sessions ∧
      Beside id session step.2 middle.2 := by
  have keeps := (Filter.commutes_reset id).keepsRole
  have wellFormed : desk.outline.view.filters.WellFormed := inStep.tidy.wellFormed.mapFilters keeps
  obtain ⟨filter, found⟩ : ∃ filter, desk.outline.view.filters.find? id = some filter := by
    obtain ⟨filter, found⟩ := Option.isSome_iff_exists.1 installed
    have foundBare := Registry.find?_mapFilters keeps desk.view.filters id
    rw [found] at foundBare
    exact ⟨filter.reset, foundBare⟩
  obtain ⟨begun, target, begins⟩ := plan_beginEdit wellFormed inStep.tidy.dirty found
  obtain ⟨session, sameTarget, sessions, edits⟩ := foldl_plan_turned desk.outline begun around
  obtain ⟨step, runs, kept, planned⟩ := run_tracked inStep (.beginEdit id :: actions)
  obtain ⟨middle, runsAlone, keptAlone, plannedAlone⟩ :=
    run_tracked inStep (actions.filter (!·.isPreview))
  rw [← plannedAlone] at sessions edits
  have middleSessions : middle.2.sessions = desk.sessions := sessions
  refine ⟨step, middle, session, runs, runsAlone, middleSessions, kept.inStep, keptAlone.inStep, ?_,
    filter.kind, filter.index, filter.enabled, sameTarget.trans target, ?_⟩
  · rw [planned, List.foldl_cons, begins, middleSessions]
    exact edits
  · have noTexts : ∀ action ∈ actions.filter (!·.isPreview), action.isPreview = false := by
      intro action member
      simpa using (List.mem_filter.1 member).2
    have stands := foldl_plan_stands
      (fun action member => around action (List.mem_of_mem_filter member)) noTexts
      (turned_of_found wellFormed found)
    rw [← plannedAlone] at stands
    exact stands

end

namespace Beside

variable {session : EditSession} {edited alone : Desk}

/-- Giving the edit up takes the difference away. -/
theorem bare_cancel (beside : Beside id session edited alone) :
    (session.cancel edited.view.filters).bare = alone.view.filters.bare := by
  obtain ⟨kind, slot, enabled, target, stands⟩ := beside.stands
  have wellFormed : edited.view.filters.bare.WellFormed :=
    beside.inStep.tidy.wellFormed.mapFilters (Filter.commutes_reset id).keepsRole
  have bare : edited.view.filters.bare =
      alone.view.filters.bare.mapFilters (Filter.turned id false) :=
    congrArg (fun desk : Desk => desk.view.filters) beside.outline_eq
  calc (session.cancel edited.view.filters).bare
      = session.cancel edited.view.filters.bare := (session.cancel_bare _).symm
    _ = edited.view.filters.bare.mapFilters (Filter.turned id enabled) :=
      EditSession.cancel_eq_mapFilters wellFormed target
    _ = alone.view.filters.bare.mapFilters (Filter.turned id enabled) := by
      rw [bare, Registry.mapFilters_turned_turned]
    _ = alone.view.filters.bare := congrArg (fun desk : Desk => desk.view.filters) stands

/-- Giving the edit up brings the view back to where the view without the edit is. -/
theorem cancelEdit [PatternCompiler] (beside : Beside id session edited alone) :
    ∃ after, edited.view.cancelEdit session = .ok after ∧ after.Settled ∧
      after.outline = (alone.outline.plan .refresh).view := by
  have wellFormed : edited.view.filters.WellFormed := beside.inStep.tidy.wellFormed
  obtain ⟨after, cancels, settled, same⟩ :=
    beside.inStep.refresh (session.cancel_evolves wellFormed)
  refine ⟨after, cancels, settled, ?_⟩
  calc after.outline
      = edited.outline.view.withFilters (session.cancel edited.view.filters).bare.takeDirty.2 :=
        same
    _ = (alone.outline.plan .refresh).view := by
      rw [beside.bare_cancel, beside.outline_eq]
      rfl

/-- A commit that is refused gives the edit up. -/
theorem commitEdit [PatternCompiler] (beside : Beside id session edited alone) {after : LogView}
    (cancels : edited.view.cancelEdit session = .ok after) :
    ∃ result committed, edited.view.commitEdit session = .ok (result, committed) ∧
      ∀ e, result = .error e → committed = after := by
  obtain ⟨kind, slot, enabled, target, _⟩ := beside.stands
  have wellFormed : edited.view.filters.WellFormed := beside.inStep.tidy.wellFormed
  obtain ⟨committed, commits, _⟩ := beside.inStep.refresh (session.commit_evolves wellFormed)
  refine ⟨(session.commit edited.view.filters).1, committed, ?_, ?_⟩
  · exact congrArg (Except.map _) commits
  · intro e fails
    rw [EditSession.commit_of_error target fails] at commits
    exact Except.ok.inj (commits.symm.trans cancels)

end Beside

/-- An edit begins, and texts are entered while other work goes on.  If it is then given up, or
cannot be installed, the view is the one that the other work and a refresh lead to. -/
theorem run_abandoned [PatternCompiler] {name : String} {messageStart : Option String}
    {caseSensitive : Bool} {view : LogView}
    (isNew : LogView.new name messageStart caseSensitive = .ok view)
    {requests : List Request} (serves : (Desk.mk view []).serveAll requests = .ok desk)
    (installed : (desk.view.filters.find? id).isSome = true) {actions : List Action}
    (around : ∀ action ∈ actions, action.Around id desk.sessions.length) :
    ∃ step session after, desk.run (.beginEdit id :: actions) = .ok step ∧
      step.2.sessions[desk.sessions.length]? = some session ∧
      desk.run (actions.filter (!·.isPreview) ++ [.refresh]) = .ok (true, ⟨after, desk.sessions⟩) ∧
      step.2.view.cancelEdit session = .ok after ∧
      ∃ result committed, step.2.view.commitEdit session = .ok (result, committed) ∧
        ∀ e, result = .error e → committed = after := by
  have starting : (Desk.mk view []).view.InStep := LogView.inStep_new isNew
  have inStep := inStep_serveAll starting serves
  obtain ⟨step, middle, session, runs, runsAlone, sessions, beside⟩ :=
    run_beside inStep installed around
  obtain ⟨after, cancels, settled, same⟩ := beside.cancelEdit
  obtain ⟨middle', refreshed, runsAlone', runsRefresh, _, settledAlone, _, planned⟩ :=
    run_settles inStep (actions.filter (!·.isPreview)) .refresh fun _ => rfl
  cases Except.ok.inj (runsAlone.symm.trans runsAlone')
  have sameView : refreshed.view = after :=
    settledAlone.eq settled ((congrArg Desk.view planned).trans same.symm)
  have sameSessions : refreshed.sessions = desk.sessions :=
    (congrArg Desk.sessions planned).trans sessions
  refine ⟨step, session, after, runs, ?_, ?_, cancels, beside.commitEdit cancels⟩
  · have editedSessions : step.2.sessions = middle.2.sessions ++ [session] :=
      congrArg Desk.sessions beside.outline_eq
    rw [editedSessions, sessions, List.getElem?_concat_length]
  · rw [← sameView, ← sameSessions]
    exact runsRefresh

/-- A filter that keeps is edited while its message grows and another filter goes; the last text is
no pattern. -/
theorem run_abandoned_unfinished :
    let requests : List Request := [.work (.appendText "E a\nE b"), .work (.apply (.add .keep "b")),
      .work (.apply (.add .hide "c"))]
    let actions : List Action := [.appendLine " b", .preview 0 "c", .apply (.delete "c"),
      .amendLast " d", .preview 0 "("]
    ∃ desk step session after, (Desk.mk .sample []).serveAll requests = .ok desk ∧
      desk.run (.beginEdit "b" :: actions) = .ok step ∧ step.2.sessions[0]? = some session ∧
      desk.run [.appendLine " b", .apply (.delete "c"), .amendLast " d", .refresh] =
        .ok (true, ⟨after, []⟩) ∧
      step.2.view.cancelEdit session = .ok after ∧
      ∃ e, step.2.view.commitEdit session = .ok (.error e, after) := by
  intro requests actions
  have known : ((Desk.mk .sample []).serveAll requests).toOption.map (fun desk =>
      ((desk.view.filters.find? "b").isSome, desk.sessions.length)) = some (true, 0) := by
    decide +kernel
  have refused : ((Desk.mk .sample []).serveAll requests).toOption.bind (fun desk =>
      (desk.run (.beginEdit "b" :: actions)).toOption.bind fun step =>
        step.2.sessions[0]?.bind fun session =>
          (step.2.view.commitEdit session).toOption.map (·.1.toOption.isSome)) = some false := by
    decide +kernel
  cases serves : (Desk.mk .sample []).serveAll requests with
  | error fault =>
      rw [serves] at known
      cases known
  | ok desk =>
      rw [serves] at known
      have facts := Prod.ext_iff.1 (Option.some.inj known)
      have sessions : desk.sessions = [] := List.length_eq_zero_iff.1 facts.2
      have around : ∀ action ∈ actions, action.Around "b" desk.sessions.length := by
        simp [actions, Action.Around, Command.argument, sessions]
      obtain ⟨step, session, after, runs, begun, alone, cancels, result, committed, commits,
        same⟩ := run_abandoned LogView.new_sample serves facts.1 around
      rw [sessions] at begun alone
      have isFirst : step.2.sessions[0]? = some session := begun
      refine ⟨desk, step, session, after, rfl, runs, isFirst, alone, cancels, ?_⟩
      have isError : result.toOption.isSome = false := by
        simpa [serves, runs, isFirst, commits, Except.toOption] using refused
      cases result with
      | ok slot => cases isError
      | error e => exact ⟨e, same e rfl ▸ commits⟩

end Desk

end LogLens
