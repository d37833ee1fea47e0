/-
Module: LogLens.Proofs.Commanding
Purpose: Commands carried out one after the other, on filters alone and on a view of some lines.  A
  view refuses what its filters alone refuse, and what its filters read in between never shows in
  what becomes of them.
Main exports: Registry.unread, Registry.apply_unread, StopsAt, LogView.InStep.applyTo_ok,
  LogView.evaluate, LogView.Unfiltered, LogView.Unfiltered.evaluate_ok, LogView.Unfiltered.stopsAt
-/
import LogLens.Proofs.Replaying

namespace LogLens

namespace Registry

/-- The filters as they would stand if none of them had read a line or had to be evaluated anew. -/
def unread (registry : Registry) : Registry := ⟨registry.filters.map Filter.reset, 0⟩

/-- The same filters with other notes on what is to be evaluated anew. -/
def noting (registry : Registry) (dirty : Mask) : Registry := { registry with dirty }

variable {registry other : Registry} {caseSensitive : Bool}

@[simp] theorem unread_bare (registry : Registry) : registry.bare.unread = registry.unread := by
  simp only [unread, bare, filters_mapFilters, List.map_map]
  rfl

@[simp] theorem bare_unread (registry : Registry) : registry.unread.bare = registry.unread := by
  simp only [unread, bare, mapFilters, List.map_map]
  rfl

@[simp] theorem unread_unread (registry : Registry) : registry.unread.unread = registry.unread := by
  simp only [unread, List.map_map]
  rfl

/-- A script does not tell what the filters have read. -/
theorem script_unread (registry : Registry) : registry.unread.script = registry.script := by
  simp only [script, unread, List.flatMap_map]
  rfl

/-- Filters that would stand alike differ at most in what they have read. -/
theorem alike_of_unread (same : registry.unread = other.unread) :
    List.Forall₂ Filter.Alike registry.filters other.filters := by
  have resets : registry.filters.map Filter.reset = other.filters.map Filter.reset :=
    congrArg Registry.filters same
  rw [← List.forall₂_eq_eq_eq, List.forall₂_map_left_iff, List.forall₂_map_right_iff] at resets
  apply resets.imp
  intro filter filter' same
  have alike := filter.alike_reset
  rw [same] at alike
  exact alike.trans ⟨rfl, rfl, rfl, rfl⟩

/-! ### Commands do not look at the notes -/

/-- Changing a filter does not depend on which places are noted as dirty. -/
theorem modify?_noting (registry : Registry) (dirty : Mask) (id : String)
    (change : Installed → Installed) :
    (registry.noting dirty).modify? id change =
      (registry.modify? id change).map (·.noting dirty) := by
  have found : (registry.noting dirty).find? id = registry.find? id := rfl
  simp only [modify?, found]
  split <;> rfl

theorem install_noting (registry : Registry) (dirty : Mask) (filter : Filter Nat) :
    ((registry.noting dirty).install filter).map unread =
      (registry.install filter).map unread := by
  have full : (registry.noting dirty).isFull = registry.isFull := rfl
  have found : (registry.noting dirty).find? filter.id = registry.find? filter.id := rfl
  have used : (registry.noting dirty).usedMask = registry.usedMask := rfl
  simp only [install, full, found, used]
  split
  · rfl
  split
  · rfl
  split
  · split <;> rfl
  · rfl

theorem addPattern_noting [PatternCompiler] (registry : Registry) (dirty : Mask) (kind : FilterKind)
    (source : String) (caseSensitive : Bool) :
    (((registry.noting dirty).addPattern kind source caseSensitive).map Prod.snd).map unread =
      ((registry.addPattern kind source caseSensitive).map Prod.snd).map unread := by
  have next : (registry.noting dirty).nextSlot = registry.nextSlot := rfl
  simp only [addPattern, next]
  cases registry.nextSlot with
  | error e => rfl
  | ok slot =>
      cases Pattern.compile source caseSensitive with
      | error e => rfl
      | ok pattern =>
          have answers : ∀ installed : Except FilterError Registry,
              ((installed >>= fun registry => pure (slot, registry)).map Prod.snd).map unread =
                installed.map unread := by
            intro installed
            cases installed <;> rfl
          have installs := registry.install_noting dirty (.new kind slot.val pattern)
          exact (answers _).trans (installs.trans (answers _).symm)

theorem delete?_noting (registry : Registry) (dirty : Mask) (id : String) :
    ((registry.noting dirty).delete? id).map unread = (registry.delete? id).map unread := by
  have found : (registry.noting dirty).find? id = registry.find? id := rfl
  simp only [delete?, found]
  cases registry.find? id <;> rfl

theorem map_orUnknown {id : String} {found found' : Option Registry}
    (same : found.map unread = found'.map unread) :
    (orUnknown id found).map unread = (orUnknown id found').map unread := by
  rw [← orUnknown_map, ← orUnknown_map, same]

variable [PatternCompiler]

/-- What a command does to the filters does not depend on the dirty places. -/
theorem apply_noting (registry : Registry) (dirty : Mask) (command : Command) :
    ((registry.noting dirty).apply caseSensitive command).map unread =
      (registry.apply caseSensitive command).map unread := by
  have turns : ∀ id enabled, ((registry.noting dirty).setEnabled? id enabled).map unread =
      (registry.setEnabled? id enabled).map unread := by
    intro id enabled
    rw [setEnabled?, modify?_noting, Option.map_map]
    rfl
  cases command with
  | add kind pattern =>
      have again : ((registry.noting dirty).setEnabled? pattern true).bind
          (·.setKind? pattern kind) =
            ((registry.setEnabled? pattern true).bind (·.setKind? pattern kind)).map
              (·.noting dirty) := by
        rw [setEnabled?, modify?_noting, ← setEnabled?]
        cases registry.setEnabled? pattern true with
        | none => rfl
        | some turned => exact turned.modify?_noting dirty pattern (·.setKind kind)
      have added := registry.addPattern_noting dirty kind pattern caseSensitive
      simp only [apply, again]
      cases (registry.setEnabled? pattern true).bind (·.setKind? pattern kind) with
      | some changed => rfl
      | none => exact added
  | enable id => exact map_orUnknown (turns id true)
  | disable id => exact map_orUnknown (turns id false)
  | delete id => exact map_orUnknown (registry.delete?_noting dirty id)

/-! ### Commands do not look at what was read -/

/-- Commands do not look at what the filters have read so far. -/
theorem apply_unread (registry : Registry) (command : Command) :
    (registry.unread.apply caseSensitive command).map unread =
      (registry.apply caseSensitive command).map unread := by
  have commutes := Filter.commutes_reset command.argument
  have isBare : registry.unread = registry.bare.noting 0 := rfl
  rw [isBare, apply_noting, bare, apply_mapFilters commutes]
  cases registry.apply caseSensitive command with
  | error e => rfl
  | ok after => exact congrArg Except.ok after.unread_bare

/-- Filters that stand alike take or refuse the same commands. -/
theorem apply_congr (same : registry.unread = other.unread) (command : Command) :
    (registry.apply caseSensitive command).map unread =
      (other.apply caseSensitive command).map unread := by
  rw [← apply_unread registry, same, apply_unread]

/-- Registries with the same unread filters take the same commands to the same unread filters. -/
theorem applyAll_congr (same : registry.unread = other.unread) (commands : List Command) :
    (registry.applyAll caseSensitive commands).map unread =
      (other.applyAll caseSensitive commands).map unread := by
  induction commands generalizing registry other with
  | nil => exact congrArg Except.ok same
  | cons command rest ih =>
      simp only [applyAll, List.foldlM_cons]
      rcases cases_of_map_eq (apply_congr same command) with ⟨e, refuses, refuses'⟩ |
        ⟨next, next', takes, takes', alike⟩
      · rw [refuses, refuses']
      · rw [takes, takes']
        exact ih alike

end Registry

/-! ### Runs of commands -/

/-- The commands in front of a position are carried out, and the one that stands there is refused. -/
def StopsAt {State : Type} (step : State → Command → Except RunError State) (start : State)
    (commands : List Command) (position : Nat) (error : RunError) : Prop :=
  ∃ middle command, (commands.take position).foldlM step start = .ok middle ∧
    commands[position]? = some command ∧ step middle command = .error error

section StopsAt

variable {State : Type} {step : State → Command → Except RunError State} {start middle : State}
  {error : RunError}

/-- A run stops behind the commands that are carried out. -/
theorem stopsAt_length {done : List Command} {command : Command}
    (runs : done.foldlM step start = .ok middle) (stops : step middle command = .error error)
    (rest : List Command) : StopsAt step start (done ++ command :: rest) done.length error := by
  refine ⟨middle, command, ?_, ?_, stops⟩
  · simpa using runs
  · simp

/-- A run that stops fails with the error that stops it. -/
theorem StopsAt.fails {commands : List Command} {position : Nat}
    (stops : StopsAt step start commands position error) :
    commands.foldlM step start = .error error := by
  obtain ⟨middle, command, runs, isCommand, fails⟩ := stops
  obtain ⟨inRange, rfl⟩ := List.getElem?_eq_some_iff.1 isCommand
  have whole := List.take_append_drop position commands
  rw [List.drop_eq_getElem_cons inRange] at whole
  rw [← whole, List.foldlM_append, runs]
  simp only [List.foldlM_cons, bind, Except.bind, fails]

end StopsAt

/-! ### Commands on a view -/

/-- How a view reports a command that its filters refuse. -/
def refusal (command : Command) (cause : FilterError) : RunError :=
  (RunError.plain (.filter cause)).during ("Failed to apply '" ++ command.render ++ "'")

namespace LogView

variable {view after : LogView} {registry : Registry}

theorem outline_withFilters (view : LogView) (registry : Registry) :
    (view.withFilters registry).outline = view.outline.withFilters registry.bare := rfl

/-- An outline tells how the filters stand. -/
theorem unread_of_outline (same : after.outline = (view.withFilters registry).outline) :
    after.filters.unread = registry.unread := by
  have bare : after.filters.bare = registry.bare := congrArg LogView.filters same
  rw [← Registry.unread_bare, bare, Registry.unread_bare]

theorem caseSensitive_of_outline (same : after.outline = (view.withFilters registry).outline) :
    after.caseSensitive = view.caseSensitive := by
  have flag : after.outline.caseSensitive = (view.withFilters registry).outline.caseSensitive :=
    congrArg LogView.caseSensitive same
  exact flag

theorem outline_withFilters_of_outline (same : after.outline = (view.withFilters registry).outline)
    (further : Registry) :
    (after.withFilters further).outline = (view.withFilters further).outline := by
  rw [outline_withFilters, same]
  rfl

/-- A refresh leaves the lines and how the filters stand. -/
theorem InStep.refresh_same (inStep : view.InStep) :
    ∃ after, view.refresh = .ok after ∧ after.Settled ∧ after.outline = view.outline := by
  obtain ⟨after, refreshes, settled, same⟩ :=
    inStep.refresh inStep.tidy.wellFormed.evolves_refl
  have dirty : view.engine.registry.takeDirty.2 = view.engine.registry :=
    Registry.ext_registry rfl inStep.tidy.dirty.symm
  rw [dirty] at same
  exact ⟨after, refreshes, settled, same⟩

variable [PatternCompiler]

/-- A command that the filters refuse is refused by the view, which stays as it is. -/
theorem apply_refused {command : Command} {e : FilterError}
    (refuses : view.filters.apply view.caseSensitive command = .error e) :
    view.apply command = .ok (.error e) := by
  rw [apply, refuses]

/-- A command that the filters take is carried out, and the view is refreshed. -/
theorem InStep.apply_ok (inStep : view.InStep) {command : Command}
    (takes : view.filters.apply view.caseSensitive command = .ok registry) :
    ∃ after, view.apply command = .ok (.ok after) ∧ after.Settled ∧
      after.outline = (view.withFilters registry.unread).outline := by
  have evolves := Registry.apply_evolves inStep.tidy.wellFormed takes
  obtain ⟨after, refreshes, settled, same⟩ := inStep.refresh evolves
  refine ⟨after, ?_, settled, ?_⟩
  · rw [apply, takes]
    exact congrArg (Except.map Except.ok) refreshes
  · rw [same, outline_withFilters, outline_withFilters, registry.bare_unread]
    rfl

/-- What the filters read at a command does not matter for the commands behind it. -/
theorem InStep.apply_next (inStep : view.InStep) {command : Command}
    (takes : view.filters.apply view.caseSensitive command = .ok registry) (rest : List Command) :
    ∃ next, view.apply command = .ok (.ok next) ∧ next.Settled ∧
      next.outline = (view.withFilters registry.unread).outline ∧
      (next.filters.applyAll next.caseSensitive rest).map Registry.unread =
        (registry.applyAll view.caseSensitive rest).map Registry.unread := by
  obtain ⟨next, applies, settled, same⟩ := inStep.apply_ok takes
  have alike : next.filters.unread = registry.unread :=
    (unread_of_outline same).trans registry.unread_unread
  refine ⟨next, applies, settled, same, ?_⟩
  rw [caseSensitive_of_outline same]
  exact Registry.applyAll_congr alike rest

theorem applyTo_ok {next : LogView} {command : Command}
    (applies : view.apply command = .ok (.ok next)) : applyTo view command = .ok next := by
  simp only [applyTo, applies]
  rfl

theorem applyTo_refused {command : Command} {cause : FilterError}
    (refuses : view.filters.apply view.caseSensitive command = .error cause) :
    applyTo view command = .error (refusal command cause) := by
  simp only [applyTo, apply_refused refuses]
  rfl

/-- Commands that the filters take are carried out.  The view has settled if there was one of them
or if it had settled before. -/
theorem InStep.applyTo_ok (inStep : view.InStep) {commands : List Command}
    (takes : view.filters.applyAll view.caseSensitive commands = .ok registry) :
    ∃ after, commands.foldlM applyTo view = .ok after ∧ after.InStep ∧
      (commands ≠ [] ∨ view.Settled → after.Settled) ∧
      after.outline = (view.withFilters registry.unread).outline := by
  induction commands generalizing view registry with
  | nil =>
      cases takes
      have bare : view.filters.unread.bare = view.filters.bare := by
        rw [Registry.bare_unread]
        exact Registry.ext_registry rfl inStep.tidy.dirty.symm
      refine ⟨view, rfl, inStep, fun settled => settled.resolve_left (absurd rfl), ?_⟩
      rw [outline_withFilters, bare]
      rfl
  | cons command rest ih =>
      rw [Registry.applyAll, List.foldlM_cons] at takes
      obtain ⟨middle, takesFirst, takesRest⟩ := ok_of_bind takes
      obtain ⟨next, applies, settled, same, alike⟩ := inStep.apply_next takesFirst rest
      rw [Registry.applyAll, Registry.applyAll, takesRest] at alike
      obtain ⟨registry', takesNext, sameRegistry⟩ := ok_of_map alike
      obtain ⟨after, appliesRest, inStepAfter, settles, sameAfter⟩ := ih settled.inStep takesNext
      refine ⟨after, ?_, inStepAfter, fun _ => settles (Or.inr settled), ?_⟩
      · rw [List.foldlM_cons, LogView.applyTo_ok applies]
        exact appliesRest
      · rw [sameAfter, outline_withFilters_of_outline same, sameRegistry]

/-- Carry out commands and find out which lines are seen. -/
def evaluate (view : LogView) (commands : List Command) : Except RunError LogView := do
  let view ← commands.foldlM applyTo view
  unfaulted view.refresh

/-- A view that has no filters. -/
structure Unfiltered (caseSensitive : Bool) (view : LogView) : Prop where
  inStep : view.InStep
  unread : view.filters.unread = {}
  caseSensitive : view.caseSensitive = caseSensitive

variable {caseSensitive : Bool}

theorem unfiltered_new {name : String} {messageStart : Option String}
    (isNew : LogView.new name messageStart caseSensitive = .ok view) :
    view.Unfiltered caseSensitive := by
  refine ⟨inStep_new isNew, ?_, ?_⟩
  all_goals
    unfold LogView.new at isNew
    obtain ⟨pattern, _, isNew⟩ := ok_of_bind isNew
    cases isNew
    rfl

omit [PatternCompiler] in
/-- Further lines bring no filters. -/
theorem Unfiltered.appendFile (unfiltered : view.Unfiltered caseSensitive) (text : String) :
    ∃ after, view.appendFile text = .ok after ∧ after.Unfiltered caseSensitive ∧
      after.outline = view.outline.recordFile text := by
  obtain ⟨after, appends, inStep, same⟩ := unfiltered.inStep.appendFile text
  have filters : after.outline.filters = view.outline.filters := by
    rw [same, filters_recordFile]
  have flag : after.outline.caseSensitive = view.outline.caseSensitive := by
    rw [same, caseSensitive_recordFile]
  refine ⟨after, appends, ⟨inStep, ?_, flag.trans unfiltered.caseSensitive⟩, same⟩
  have bare : after.filters.bare = view.filters.bare := filters
  rw [← Registry.unread_bare, bare, Registry.unread_bare, unfiltered.unread]

theorem Unfiltered.applyAll_eq (unfiltered : view.Unfiltered caseSensitive)
    (commands : List Command) :
    (view.filters.applyAll view.caseSensitive commands).map Registry.unread =
      (({} : Registry).applyAll caseSensitive commands).map Registry.unread := by
  have alike : view.filters.unread = ({} : Registry).unread := unfiltered.unread
  rw [unfiltered.caseSensitive]
  exact Registry.applyAll_congr alike commands

/-- Commands that filters take from nothing a view takes that has none. -/
theorem Unfiltered.applyTo_ok (unfiltered : view.Unfiltered caseSensitive)
    {commands : List Command} (takes : ({} : Registry).applyAll caseSensitive commands = .ok registry) :
    ∃ after, commands.foldlM applyTo view = .ok after ∧ after.InStep ∧
      (commands ≠ [] ∨ view.Settled → after.Settled) ∧
      after.outline = (view.withFilters registry.unread).outline := by
  have alike := unfiltered.applyAll_eq commands
  rw [takes] at alike
  obtain ⟨own, takesOwn, same⟩ := ok_of_map alike
  obtain ⟨after, applies, inStep, settles, sameOutline⟩ := unfiltered.inStep.applyTo_ok takesOwn
  refine ⟨after, applies, inStep, settles, ?_⟩
  rw [sameOutline, same]

/-- The command that filters refuse, come from nothing, stops a view that has none. -/
theorem Unfiltered.stopsAt (unfiltered : view.Unfiltered caseSensitive) {done : List Command}
    {command : Command} {middle : Registry} {cause : FilterError}
    (takes : ({} : Registry).applyAll caseSensitive done = .ok middle)
    (refuses : middle.apply caseSensitive command = .error cause) (rest : List Command) :
    StopsAt applyTo view (done ++ command :: rest) done.length (refusal command cause) := by
  obtain ⟨after, applies, _, _, same⟩ := unfiltered.applyTo_ok takes
  have alike : after.filters.unread = middle.unread :=
    (unread_of_outline same).trans middle.unread_unread
  refine stopsAt_length applies (applyTo_refused ?_) rest
  rw [caseSensitive_of_outline same, unfiltered.caseSensitive]
  rcases cases_of_map_eq (Registry.apply_congr alike command) with
    ⟨e, refusesOwn, same⟩ | ⟨_, _, _, takes, _⟩
  · rw [refuses] at same
    cases same
    exact refusesOwn
  · rw [refuses] at takes
    cases takes

theorem Unfiltered.evaluate_ok (unfiltered : view.Unfiltered caseSensitive)
    {commands : List Command} (takes : ({} : Registry).applyAll caseSensitive commands = .ok registry) :
    ∃ after, view.evaluate commands = .ok after ∧ after.Settled ∧
      after.outline = (view.withFilters registry.unread).outline := by
  obtain ⟨middle, applies, inStep, _, same⟩ := unfiltered.applyTo_ok takes
  obtain ⟨after, refreshes, settled, sameAfter⟩ := inStep.refresh_same
  refine ⟨after, ?_, settled, sameAfter.trans same⟩
  rw [evaluate, applies]
  exact congrArg unfaulted refreshes

theorem evaluate_fails {commands : List Command} {position : Nat} {error : RunError}
    (stops : StopsAt applyTo view commands position error) :
    view.evaluate commands = .error error := by
  rw [evaluate, stops.fails]
  rfl

/-- What a view takes that has no filters, filters take from nothing. -/
theorem Unfiltered.takes (unfiltered : view.Unfiltered caseSensitive) {commands : List Command}
    (applies : commands.foldlM applyTo view = .ok after) :
    ∃ registry, ({} : Registry).applyAll caseSensitive commands = .ok registry := by
  cases runs : ({} : Registry).applyAll caseSensitive commands with
  | ok registry => exact ⟨registry, rfl⟩
  | error cause =>
      obtain ⟨done, command, rest, middle, rfl, takes, refuses⟩ := foldlM_error runs
      rw [(unfiltered.stopsAt takes refuses rest).fails] at applies
      cases applies

end LogView

end LogLens
