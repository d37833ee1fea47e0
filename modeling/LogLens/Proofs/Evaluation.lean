/-
Module: LogLens.Proofs.Evaluation
Purpose: Any work on a view.  Lines are appended and amended, filters come, go and are edited;
  after each refresh the masks, the hits and the lines that are seen are those that the lines and
  the filters give as they stand.  What becomes of the outline can be told without what the filters
  read.
Main exports: Desk, Desk.Action, Desk.perform, Desk.effect, Desk.plan, Desk.run_settles,
  Desk.run_evaluated
-/
import LogLens.Proofs.Viewing
import LogLens.Regex.Compile

namespace LogLens

/-! ### Commands -/

theorem Registry.orUnknown_eq_ok {α : Type} {id : String} {found : Option α} {a : α}
    (known : orUnknown id found = .ok a) : found = some a := by
  cases found with
  | none => cases known
  | some b =>
      cases known
      rfl

/-- A command that is carried out is an ordinary change of the registry. -/
theorem Registry.apply_evolves [PatternCompiler] {registry after : Registry}
    (wellFormed : registry.WellFormed) {caseSensitive : Bool} {command : Command}
    (applies : registry.apply caseSensitive command = .ok after) : registry.Evolves after := by
  cases command with
  | add kind pattern =>
      cases again : (registry.setEnabled? pattern true).bind (·.setKind? pattern kind) with
      | some changed =>
          simp only [Registry.apply, again] at applies
          cases applies
          obtain ⟨enabled, turnsOn, changes⟩ := Option.bind_eq_some_iff.1 again
          have evolves := setEnabled?_evolves wellFormed turnsOn
          exact evolves.trans (setKind?_evolves evolves.wellFormed changes)
      | none =>
          simp only [Registry.apply, again] at applies
          obtain ⟨⟨slot, added⟩, adds, rfl⟩ := ok_of_map applies
          exact addPattern_evolves wellFormed adds
  | enable id => exact setEnabled?_evolves wellFormed (orUnknown_eq_ok applies)
  | disable id => exact setEnabled?_evolves wellFormed (orUnknown_eq_ok applies)
  | delete id => exact delete?_evolves wellFormed (orUnknown_eq_ok applies)

/-! ### Work on a view -/

/-- A view and the edits that were started on it. -/
structure Desk where
  view : LogView
  sessions : List EditSession := []

namespace Desk

/-- What can be done with a view.  Edits are named by their number on the desk, in the order in
which they were started, and can be committed or given up more than once. -/
inductive Action where
  | appendLine (text : String)
  | appendText (text : String)
  | appendFile (text : String)
  | refresh
  | apply (command : Command)
  | toggleKind (id : String)
  | beginNew (kind : FilterKind)
  | beginEdit (id : String)
  | preview (number : Nat) (text : String)
  | commitEdit (number : Nat)
  | cancelEdit (number : Nat)
  | amendLast (text : String)

/-- Carry out one action.  Tells whether it refreshed the view; actions that are refused do not. -/
def perform [PatternCompiler] (desk : Desk) : Action → Except Fault (Bool × Desk)
  | .appendLine text =>
    (desk.view.appendLine text).map fun view => (false, { desk with view })
  | .appendText text =>
    (desk.view.appendText text).map fun view => (false, { desk with view })
  | .appendFile text =>
    (desk.view.appendFile text).map fun view => (false, { desk with view })
  | .refresh => desk.view.refresh.map fun view => (true, { desk with view })
  | .apply command =>
    (desk.view.apply command).map fun
      | .ok view => (true, { desk with view })
      | .error _ => (false, desk)
  | .toggleKind id =>
    (desk.view.toggleKind id).map fun
      | .ok (_, view) => (true, { desk with view })
      | .error _ => (false, desk)
  | .beginNew kind =>
    match desk.view.beginNew kind with
    | .ok session => .ok (false, { desk with sessions := desk.sessions ++ [session] })
    | .error _ => .ok (false, desk)
  | .beginEdit id =>
    (desk.view.beginEdit id).map fun
      | .ok (session, view) => (true, ⟨view, desk.sessions ++ [session]⟩)
      | .error _ => (false, desk)
  | .preview number text =>
    .ok (false, { desk with
      sessions := desk.sessions.modify number fun session => (session.preview text).1 })
  | .commitEdit number =>
    match desk.sessions[number]? with
    | some session => (desk.view.commitEdit session).map fun (_, view) => (true, { desk with view })
    | none => .ok (false, desk)
  | .cancelEdit number =>
    match desk.sessions[number]? with
    | some session => (desk.view.cancelEdit session).map fun view => (true, { desk with view })
    | none => .ok (false, desk)
  | .amendLast text =>
    (desk.view.amendLast text).map fun (result, view) => (result.toBool, { desk with view })

/-- Carry out actions one after the other.  Tells whether the last one refreshed the view. -/
def run [PatternCompiler] (desk : Desk) (actions : List Action) : Except Fault (Bool × Desk) :=
  actions.foldlM (fun step action => step.2.perform action) (false, desk)

/-! ### What actions come to -/

/-- What an action comes to. -/
inductive Effect where
  /-- Lines are appended. -/
  | lines (texts : List String)
  /-- The lines of another log are appended. -/
  | file (text : String)
  /-- There are other filters and edits, and the view is refreshed. -/
  | filters (registry : Registry) (sessions : List EditSession)
  /-- There are other edits at most. -/
  | edits (sessions : List EditSession)
  /-- The last line takes another text. -/
  | amend (text : String)

def Effect.refreshes : Effect → Bool
  | lines _ | file _ | edits _ => false
  | filters _ _ | amend _ => true

/-- The same with other filters. -/
def Effect.mapFilters (f : Registry → Registry) : Effect → Effect
  | filters registry sessions => filters (f registry) sessions
  | effect => effect

/-- What an action comes to for given filters and edits. -/
def Action.effect [PatternCompiler] (caseSensitive : Bool) (registry : Registry)
    (sessions : List EditSession) : Action → Effect
  | appendLine text => .lines [text]
  | appendText text => .lines (LogView.linesOf text)
  | appendFile text => .file text
  | refresh => .filters registry sessions
  | apply command =>
    match registry.apply caseSensitive command with
    | .ok registry => .filters registry sessions
    | .error _ => .edits sessions
  | toggleKind id =>
    match registry.toggle? id with
    | some registry => .filters registry sessions
    | none => .edits sessions
  | beginNew kind =>
    match EditSession.beginNew registry kind caseSensitive with
    | .ok session => .edits (sessions ++ [session])
    | .error _ => .edits sessions
  | beginEdit id =>
    match EditSession.beginExisting registry id caseSensitive with
    | .ok (session, registry) => .filters registry (sessions ++ [session])
    | .error _ => .edits sessions
  | preview number text =>
    .edits (sessions.modify number fun session => (session.preview text).1)
  | commitEdit number =>
    match sessions[number]? with
    | some session => .filters (session.commit registry).2 sessions
    | none => .edits sessions
  | cancelEdit number =>
    match sessions[number]? with
    | some session => .filters (session.cancel registry) sessions
    | none => .edits sessions
  | amendLast text => .amend text

/-- What an action on the desk comes to. -/
def effect [PatternCompiler] (desk : Desk) (action : Action) : Effect :=
  action.effect desk.view.caseSensitive desk.view.filters desk.sessions

/-- Do what an action comes to. -/
def carryOut (desk : Desk) : Effect → Except Fault (Bool × Desk)
  | .lines texts => (desk.view.appendLines texts).map fun view => (false, { desk with view })
  | .file text => (desk.view.appendFile text).map fun view => (false, { desk with view })
  | .filters registry sessions =>
    (desk.view.withFilters registry).refresh.map fun view => (true, ⟨view, sessions⟩)
  | .edits sessions => .ok (false, { desk with sessions })
  | .amend text =>
    (desk.view.amendLast text).map fun (result, view) => (result.toBool, { desk with view })

variable {desk : Desk}

section

variable [PatternCompiler]

/-- An action is carried out by writing its effect and refreshing where one is due. -/
theorem perform_eq_carryOut (desk : Desk) (action : Action) :
    desk.perform action = desk.carryOut (desk.effect action) := by
  cases action with
  | appendLine text =>
      simp only [perform, effect, Action.effect, carryOut, LogView.appendLines, List.foldlM_cons,
        List.foldlM_nil,
        bind_pure]
  | appendText text => rfl
  | appendFile text => rfl
  | refresh => rfl
  | apply command =>
      simp only [perform, effect, Action.effect, LogView.apply]
      cases desk.view.filters.apply desk.view.caseSensitive command with
      | error e => rfl
      | ok registry =>
          simp only [carryOut]
          cases (desk.view.withFilters registry).refresh <;> rfl
  | toggleKind id =>
      simp only [perform, effect, Action.effect, LogView.toggleKind, Registry.toggle?]
      cases desk.view.filters.find? id with
      | none => rfl
      | some filter =>
          simp only [carryOut, Option.map_some]
          cases LogView.refresh _ <;> rfl
  | beginNew kind =>
      simp only [perform, effect, Action.effect, LogView.beginNew]
      cases EditSession.beginNew desk.view.filters kind desk.view.caseSensitive <;> rfl
  | beginEdit id =>
      simp only [perform, effect, Action.effect, LogView.beginEdit]
      cases EditSession.beginExisting desk.view.filters id desk.view.caseSensitive with
      | error e => rfl
      | ok answer =>
          simp only [carryOut]
          cases (desk.view.withFilters answer.2).refresh <;> rfl
  | preview number text => rfl
  | commitEdit number =>
      simp only [perform, effect, Action.effect]
      cases desk.sessions[number]? with
      | none => rfl
      | some session =>
          simp only [carryOut, LogView.commitEdit]
          cases (desk.view.withFilters (session.commit desk.view.filters).2).refresh <;> rfl
  | cancelEdit number =>
      simp only [perform, effect, Action.effect]
      cases desk.sessions[number]? <;> rfl
  | amendLast text => rfl

/-- New filters come from those of the view. -/
theorem evolves_effect (wellFormed : desk.view.filters.WellFormed) (action : Action)
    {registry : Registry} {sessions : List EditSession}
    (changes : desk.effect action = .filters registry sessions) :
    desk.view.filters.Evolves registry := by
  cases action with
  | appendLine _ | appendText _ | appendFile _ | preview _ _ | amendLast _ => cases changes
  | refresh =>
      cases changes
      exact wellFormed.evolves_refl
  | apply command =>
      simp only [effect, Action.effect] at changes
      split at changes
      next applies =>
        cases changes
        exact Registry.apply_evolves wellFormed applies
      next => cases changes
  | toggleKind id =>
      simp only [effect, Action.effect] at changes
      split at changes
      next toggles =>
        cases changes
        obtain ⟨filter, _, rfl⟩ := Option.map_eq_some_iff.1 toggles
        exact (Registry.setKind?_adjusts _ _ _).evolves wellFormed
      next => cases changes
  | beginNew kind =>
      simp only [effect, Action.effect] at changes
      split at changes <;> cases changes
  | beginEdit id =>
      simp only [effect, Action.effect] at changes
      split at changes
      next begins =>
        cases changes
        exact EditSession.beginExisting_evolves wellFormed begins
      next => cases changes
  | commitEdit number =>
      simp only [effect, Action.effect] at changes
      split at changes <;> cases changes
      exact EditSession.commit_evolves wellFormed _
  | cancelEdit number =>
      simp only [effect, Action.effect] at changes
      split at changes <;> cases changes
      exact EditSession.cancel_evolves wellFormed _

/-! ### Outlines -/

/-- A desk without what the filters have read and what is shown. -/
def outline (desk : Desk) : Desk := { desk with view := desk.view.outline }

/-- What the filters have read does not matter for what an action comes to. -/
theorem Action.effect_bare (action : Action) (caseSensitive : Bool) (registry : Registry)
    (sessions : List EditSession) :
    action.effect caseSensitive registry.bare sessions =
      (action.effect caseSensitive registry sessions).mapFilters Registry.bare := by
  cases action with
  | appendLine _ | appendText _ | appendFile _ | refresh | preview _ _ | amendLast _ => rfl
  | apply command =>
      simp only [effect, Registry.bare,
        Registry.apply_mapFilters (Filter.commutes_reset command.argument)]
      cases registry.apply caseSensitive command <;> rfl
  | toggleKind id =>
      simp only [effect, Registry.bare, Registry.toggle?_mapFilters (Filter.commutes_reset id)]
      cases registry.toggle? id <;> rfl
  | beginNew kind =>
      simp only [effect, EditSession.beginNew_bare]
      cases EditSession.beginNew registry kind caseSensitive <;> rfl
  | beginEdit id =>
      simp only [effect, EditSession.beginExisting_bare]
      cases EditSession.beginExisting registry id caseSensitive <;> rfl
  | commitEdit number =>
      simp only [effect, EditSession.commit_bare]
      cases sessions[number]? <;> rfl
  | cancelEdit number =>
      simp only [effect, EditSession.cancel_bare]
      cases sessions[number]? <;> rfl

/-- The effect of an action can be read off the outline, without masks and counts. -/
theorem effect_outline (desk : Desk) (action : Action) :
    desk.outline.effect action = (desk.effect action).mapFilters Registry.bare :=
  action.effect_bare desk.view.caseSensitive desk.view.filters desk.sessions

/-- What becomes of an outline. -/
def sketch (desk : Desk) : Effect → Desk
  | .lines texts => { desk with view := texts.foldl LogView.record desk.view }
  | .file text => { desk with view := desk.view.recordFile text }
  | .filters registry sessions => ⟨desk.view.withFilters registry.takeDirty.2, sessions⟩
  | .edits sessions => { desk with sessions }
  | .amend text =>
    { desk with view := { desk.view with buffer := desk.view.buffer.amendLast text } }

/-- What becomes of an outline by an action. -/
def plan (desk : Desk) (action : Action) : Desk := desk.sketch (desk.effect action)

end

/-! ### Runs -/

/-- What holds of a desk after a step, which may have refreshed the view. -/
structure Kept (step : Bool × Desk) : Prop where
  inStep : step.2.view.InStep
  settled : step.1 = true → step.2.view.Settled

theorem Kept.evaluated {step : Bool × Desk} (kept : Kept step) (refreshed : step.1 = true) :
    step.2.view.Evaluated := (kept.settled refreshed).evaluated

theorem kept_unrefreshed (inStep : desk.view.InStep) : Kept (false, desk) where
  inStep := inStep
  settled := nofun

theorem kept_settled (settled : desk.view.Settled) : Kept (true, desk) where
  inStep := settled.inStep
  settled _ := settled

section

variable [PatternCompiler]

/-- No action can fail.  Each keeps the filters in step, and if it refreshes the view, then the view
is settled. -/
theorem perform_kept (inStep : desk.view.InStep) (action : Action) :
    ∃ after, desk.perform action = .ok ((desk.effect action).refreshes, after) ∧
      Kept ((desk.effect action).refreshes, after) ∧ after.outline = desk.outline.plan action := by
  rw [perform_eq_carryOut, plan, effect_outline]
  cases comesTo : desk.effect action with
  | lines texts =>
      obtain ⟨view, appends, inStepAfter, same⟩ := inStep.appendLines texts
      exact ⟨{ desk with view }, congrArg (Except.map _) appends, kept_unrefreshed inStepAfter,
        congrArg (Desk.mk · desk.sessions) same⟩
  | file text =>
      obtain ⟨view, appends, inStepAfter, same⟩ := inStep.appendFile text
      exact ⟨{ desk with view }, congrArg (Except.map _) appends, kept_unrefreshed inStepAfter,
        congrArg (Desk.mk · desk.sessions) same⟩
  | filters registry sessions =>
      obtain ⟨view, refreshes, settled, same⟩ := inStep.refresh
        (evolves_effect inStep.tidy.wellFormed action comesTo)
      exact ⟨⟨view, sessions⟩, congrArg (Except.map _) refreshes, kept_settled settled,
        congrArg (Desk.mk · sessions) same⟩
  | edits sessions => exact ⟨{ desk with sessions }, rfl, kept_unrefreshed inStep, rfl⟩
  | amend text =>
      obtain ⟨view, amends, settled, same⟩ := inStep.amendLast text
      exact ⟨{ desk with view }, congrArg (Except.map _) amends, kept_settled settled,
        congrArg (Desk.mk · desk.sessions) same⟩

/-- A run is tracked by what becomes of the outline. -/
theorem run_tracked (inStep : desk.view.InStep) (actions : List Action) :
    ∃ step, desk.run actions = .ok step ∧ Kept step ∧
      step.2.outline = actions.foldl plan desk.outline := by
  let Tracks (step : Bool × Desk) (shadow : Desk) : Prop := Kept step ∧ step.2.outline = shadow
  have tracks : Tracks (false, desk) desk.outline := ⟨kept_unrefreshed inStep, rfl⟩
  refine foldlM_tracks plan ?_ actions desk.outline tracks
  rintro step _ action ⟨kept, rfl⟩
  obtain ⟨after, performs, keptAfter, same⟩ := perform_kept kept.inStep action
  exact ⟨_, performs, keptAfter, same⟩

/-- No history of actions fails, and each keeps what `Kept` says. -/
theorem run_kept (inStep : desk.view.InStep) (actions : List Action) :
    ∃ step, desk.run actions = .ok step ∧ Kept step := by
  obtain ⟨step, runs, kept, _⟩ := run_tracked inStep actions
  exact ⟨step, runs, kept⟩

/-- A run that ends with a refresh leaves a settled view. -/
theorem run_settles (inStep : desk.view.InStep) (actions : List Action) (action : Action)
    (refreshes : ∀ desk : Desk, (desk.effect action).refreshes = true) :
    ∃ middle after, desk.run actions = .ok middle ∧
      desk.run (actions ++ [action]) = .ok (true, after) ∧ middle.2.view.InStep ∧
      after.view.Settled ∧ middle.2.outline = actions.foldl plan desk.outline ∧
      after.outline = middle.2.outline.plan action := by
  obtain ⟨middle, runs, kept, same⟩ := run_tracked inStep actions
  obtain ⟨after, performs, keptAfter, sameAfter⟩ := perform_kept kept.inStep action
  rw [refreshes middle.2] at performs keptAfter
  refine ⟨middle, after, runs, ?_, kept.inStep, keptAfter.settled rfl, same, sameAfter⟩
  have last : [action].foldlM (fun step action => step.2.perform action) middle =
      .ok (true, after) := by
    rw [List.foldlM_cons, performs]
    rfl
  rw [run, List.foldlM_append, ← run, runs]
  exact last

omit [PatternCompiler] in
/-- Settled desks are determined by their outlines. -/
theorem eq_of_outline {first second : Desk} (one : first.view.Settled) (two : second.view.Settled)
    (same : first.outline = second.outline) : first = second := by
  have view : first.view = second.view := one.eq two (congrArg Desk.view same)
  have sessions : first.outline.sessions = second.outline.sessions := congrArg Desk.sessions same
  cases first
  cases second
  simp_all [outline]

/-- A refresh without other filters leaves the outline. -/
theorem plan_refresh (inStep : desk.view.InStep) : desk.outline.plan .refresh = desk.outline := by
  have dirty : desk.view.filters.bare.takeDirty.2 = desk.view.filters.bare :=
    Registry.ext_registry rfl inStep.tidy.dirty.symm
  exact congrArg
    (fun registry => Desk.mk (desk.view.outline.withFilters registry) desk.sessions) dirty

/-- What comes to the same for the outline comes to the same once the view is refreshed. -/
theorem run_refresh_of_plan (inStep : desk.view.InStep) {first second : List Action}
    (same : first.foldl plan desk.outline = second.foldl plan desk.outline) :
    ∃ after, desk.run (first ++ [.refresh]) = .ok (true, after) ∧
      desk.run (second ++ [.refresh]) = .ok (true, after) ∧
      after.outline = second.foldl plan desk.outline := by
  obtain ⟨middle, after, _, runs, inStepMiddle, settled, planned, plannedLast⟩ :=
    run_settles inStep first .refresh fun _ => rfl
  obtain ⟨middle', after', _, runs', inStepMiddle', settled', planned', plannedLast'⟩ :=
    run_settles inStep second .refresh fun _ => rfl
  have outline' : after'.outline = second.foldl plan desk.outline := by
    rw [plannedLast', plan_refresh inStepMiddle', planned']
  have outline : after.outline = after'.outline := by
    rw [plannedLast, plan_refresh inStepMiddle, planned, same, outline']
  rw [eq_of_outline settled settled' outline] at runs
  exact ⟨after', runs, runs', outline'⟩

/-- Whatever is done with a new view, nothing fails, and each time that it has been refreshed it
shows what its lines and its filters give as they stand. -/
theorem run_evaluated {name : String} {messageStart : Option String} {caseSensitive : Bool}
    {view : LogView} (isNew : LogView.new name messageStart caseSensitive = .ok view)
    (actions : List Action) :
    ∃ refreshed desk, (Desk.mk view []).run actions = .ok (refreshed, desk) ∧
      (refreshed = true → desk.view.Evaluated) := by
  have inStep : (Desk.mk view []).view.InStep := LogView.inStep_new isNew
  obtain ⟨⟨refreshed, desk⟩, runs, kept⟩ := run_kept inStep actions
  exact ⟨refreshed, desk, runs, kept.evaluated⟩

end

/-- A line that continues the second message comes after a filter was added; then the pattern of the
filter is edited, and the line changes its text. -/
theorem run_evaluated_amended :
    let view : LogView := {
      buffer := { name := "a.log" }
      messageStart := (Pattern.compile "^E" true).toOption
      caseSensitive := false
      engine := Engine.new "a.log" }
    let actions : List Action := [.appendText "E a\n b\nE c", .apply (.add .keep "b"),
      .appendLine " d", .beginEdit "b", .preview 0 "d", .commitEdit 0, .amendLast " b"]
    LogView.new "a.log" (some "^E") false = .ok view ∧
      ∃ desk, (Desk.mk view []).run actions = .ok (true, desk) ∧ desk.view.Evaluated := by
  intro view actions
  have isNew : LogView.new "a.log" (some "^E") false = .ok view := rfl
  obtain ⟨refreshed, desk, runs, evaluated⟩ := run_evaluated isNew actions
  have isLast : ((Desk.mk view []).run actions).toOption.map Prod.fst = some true := by
    decide +kernel
  rw [runs] at isLast
  cases isLast
  exact ⟨isNew, desk, runs, evaluated rfl⟩

end Desk

end LogLens
