/-
Module: LogLens.Proofs.Exporting
Purpose: Building a view of logs and exporting the filters alone.  Both read the same commands, take
  or refuse them alike and stop at the same one, whatever the logs hold; where all are taken, the
  filters of the view are the exported ones, place by place.
Main exports: loadedView, Outcomes, buildView_exports
-/
import LogLens.Proofs.Commanding
import LogLens.Regex.Compile

namespace LogLens

section

variable [PatternCompiler]

/-- The view of some logs before any command. -/
def loadedView (files : Files) (logs : List String) (config : ViewerConfig)
    (options : FilterOptions) : Except RunError LogView := do
  let start := options.messageStart.or config.messages.startPattern
  let view ← explain "Invalid message start pattern" .filter
    (LogView.new (viewName logs) start (heedsCase config options))
  logs.foldlM (loadLog files) view

/-- How the building of a view ends and how the export of its filters does. -/
inductive Outcomes (files : Files) (config : ViewerConfig) (options : FilterOptions)
    (loaded : LogView) : Except RunError LogView → Except RunError (List String) → Prop where
  /-- The commands cannot be read. -/
  | unreadable {error : RunError} (fails : allCommands files config options = .error error) :
      Outcomes files config options loaded (.error error) (.error error)
  /-- Both stop at one command, for one reason. -/
  | refused {commands : List Command} {position : Nat} {command : Command} {cause : FilterError}
      (all : allCommands files config options = .ok commands)
      (isCommand : commands[position]? = some command)
      (views : StopsAt applyTo loaded commands position (refusal command cause))
      (exports : StopsAt (exportStep (heedsCase config options)) {} commands position
        (.plain (.filter cause))) :
      Outcomes files config options loaded (.error (refusal command cause))
        (.error (.plain (.filter cause)))
  /-- Both carry out all commands and come to filters that are alike. -/
  | taken {commands : List Command} {view : LogView} {registry : Registry}
      (all : allCommands files config options = .ok commands)
      (exports : commands.foldlM (exportStep (heedsCase config options)) {} = .ok registry)
      (alike : List.Forall₂ Filter.Alike registry.filters view.filters.filters) :
      Outcomes files config options loaded (.ok view) (.ok view.filters.script)

variable {files : Files} {logs : List String} {config : ViewerConfig} {options : FilterOptions}

/-! ### The logs -/

/-- Building a view is loading its logs and then evaluating its commands. -/
theorem buildView_eq (files : Files) (logs : List String) (config : ViewerConfig)
    (options : FilterOptions) :
    buildView files logs config options = (do
      let loaded ← loadedView files logs config options
      let commands ← allCommands files config options
      loaded.evaluate commands) := by
  simp only [buildView, loadedView, LogView.evaluate, bind_assoc]

omit [PatternCompiler] in
/-- A readable log is always loaded, and loading it adds no filter. -/
theorem loadLog_ok {caseSensitive : Bool} {view : LogView}
    (unfiltered : view.Unfiltered caseSensitive) {log : String}
    (readable : (files.read? log).isSome) :
    ∃ after, loadLog files view log = .ok after ∧ after.Unfiltered caseSensitive := by
  obtain ⟨bytes, reads⟩ := Option.isSome_iff_exists.1 readable
  obtain ⟨after, appends, unfilteredAfter, _⟩ :=
    unfiltered.appendFile (Utf8.decodeLossy bytes)
  refine ⟨after, ?_, unfilteredAfter⟩
  rw [loadLog, reads]
  simp only [appends]
  rfl

/-- Logs that can be read are loaded if the pattern for message starts is one. -/
theorem loadedView_ok (readable : ∀ log ∈ logs, (files.read? log).isSome)
    (compiles : ∀ source ∈ options.messageStart.or config.messages.startPattern,
      ∃ pattern, Pattern.compile source true = .ok pattern) :
    ∃ view, loadedView files logs config options = .ok view ∧
      view.Unfiltered (heedsCase config options) := by
  obtain ⟨start, isNew⟩ : ∃ start, LogView.new (viewName logs)
      (options.messageStart.or config.messages.startPattern) (heedsCase config options) =
        .ok start := by
    unfold LogView.new
    cases known : options.messageStart.or config.messages.startPattern with
    | none => exact ⟨_, rfl⟩
    | some source =>
        obtain ⟨pattern, isPattern⟩ := compiles source known
        simp [isPattern]
  let Tracks (view : LogView) (_ : Unit) : Prop := view.Unfiltered (heedsCase config options)
  have each : ∀ log ∈ logs, ∀ view (_ : Unit), Tracks view () →
      ∃ next, loadLog files view log = .ok next ∧ Tracks next () :=
    fun log member view _ unfiltered => loadLog_ok unfiltered (readable log member)
  obtain ⟨view, loads, unfiltered⟩ :=
    foldlM_tracks_of_mem (fun _ _ => ()) each () (LogView.unfiltered_new isNew)
  refine ⟨view, ?_, unfiltered⟩
  simp only [loadedView, isNew]
  exact loads

/-! ### The commands -/

/-- The export stops at the first refused command and reports that command's error. -/
theorem exportStep_stopsAt {caseSensitive : Bool} {done : List Command} {command : Command}
    {middle : Registry} {cause : FilterError}
    (takes : ({} : Registry).applyAll caseSensitive done = .ok middle)
    (refuses : middle.apply caseSensitive command = .error cause) (rest : List Command) :
    StopsAt (exportStep caseSensitive) {} (done ++ command :: rest) done.length
      (.plain (.filter cause)) := by
  have runs : done.foldlM (exportStep caseSensitive) {} = .ok middle := by
    rw [foldlM_exportStep, takes]
    rfl
  have stops : exportStep caseSensitive middle command = .error (.plain (.filter cause)) := by
    rw [exportStep_eq, refuses]
    rfl
  exact stopsAt_length runs stops rest

/-- What is refused is reported, and nothing is built. -/
theorem build_refused {view : LogView}
    (isLoaded : loadedView files logs config options = .ok view)
    {commands : List Command} {position : Nat} {error : RunError}
    (all : allCommands files config options = .ok commands)
    (stops : StopsAt applyTo view commands position error) :
    buildView files logs config options = .error error := by
  rw [buildView_eq, isLoaded, all]
  exact LogView.evaluate_fails stops

/-- A view is built with the filters that the commands make. -/
theorem build_taken {view : LogView} (unfiltered : view.Unfiltered (heedsCase config options))
    (isLoaded : loadedView files logs config options = .ok view)
    {commands : List Command} {registry : Registry}
    (all : allCommands files config options = .ok commands)
    (takes : ({} : Registry).applyAll (heedsCase config options) commands = .ok registry) :
    ∃ built, buildView files logs config options = .ok built ∧
      built.filters.unread = registry.unread := by
  obtain ⟨built, evaluates, _, same⟩ := unfiltered.evaluate_ok takes
  refine ⟨built, ?_, (LogView.unread_of_outline same).trans registry.unread_unread⟩
  rw [buildView_eq, isLoaded, all]
  exact evaluates

/-! ### Both side by side -/

/-- A view is built and its filters are exported with one outcome. -/
theorem build_outcomes {view : LogView}
    (unfiltered : view.Unfiltered (heedsCase config options))
    (isLoaded : loadedView files logs config options = .ok view) :
    Outcomes files config options view (buildView files logs config options)
      (exportCommands files config options) := by
  cases all : allCommands files config options with
  | error e =>
      have builds : buildView files logs config options = .error e := by
        rw [buildView_eq, isLoaded, all]
        rfl
      have exports : exportCommands files config options = .error e := by
        rw [exportCommands, all]
        rfl
      rw [builds, exports]
      exact .unreadable all
  | ok commands =>
      cases runs : ({} : Registry).applyAll (heedsCase config options) commands with
      | error cause =>
          obtain ⟨done, command, rest, middle, rfl, takes, refuses⟩ := foldlM_error runs
          have views := unfiltered.stopsAt takes refuses rest
          have exports := exportStep_stopsAt takes refuses rest
          have fails : exportCommands files config options = .error (.plain (.filter cause)) := by
            simp only [exportCommands, all, bind, Except.bind, exports.fails]
          rw [build_refused isLoaded all views, fails]
          exact .refused all (by simp) views exports
      | ok registry =>
          obtain ⟨built, builds, same⟩ := build_taken unfiltered isLoaded all runs
          have steps : commands.foldlM (exportStep (heedsCase config options)) {} =
              .ok registry := by
            rw [foldlM_exportStep, runs]
            rfl
          have exports : exportCommands files config options = .ok built.filters.script := by
            simp only [exportCommands, all, bind, Except.bind, steps]
            rw [← Registry.script_unread built.filters, same, Registry.script_unread]
            rfl
          rw [builds, exports]
          exact .taken all steps (Registry.alike_of_unread same.symm)

/-- The filters of a view hang on the commands, and not on what was loaded. -/
theorem build_same {files' : Files} {logs' : List String} {view view' : LogView}
    (unfiltered : view.Unfiltered (heedsCase config options))
    (unfiltered' : view'.Unfiltered (heedsCase config options))
    (isLoaded : loadedView files logs config options = .ok view)
    (isLoaded' : loadedView files' logs' config options = .ok view')
    (same : allCommands files' config options = allCommands files config options) :
    (buildView files' logs' config options).map (·.filters.unread) =
      (buildView files logs config options).map (·.filters.unread) := by
  cases all : allCommands files config options with
  | error e => simp [buildView_eq, isLoaded, isLoaded', same, all, bind, Except.bind]
  | ok commands =>
      have all' := same.trans all
      cases runs : ({} : Registry).applyAll (heedsCase config options) commands with
      | error cause =>
          obtain ⟨done, command, rest, middle, rfl, takes, refuses⟩ := foldlM_error runs
          rw [build_refused isLoaded all (unfiltered.stopsAt takes refuses rest),
            build_refused isLoaded' all' (unfiltered'.stopsAt takes refuses rest)]
      | ok registry =>
          obtain ⟨built, builds, same⟩ := build_taken unfiltered isLoaded all runs
          obtain ⟨built', builds', same'⟩ := build_taken unfiltered' isLoaded' all' runs
          rw [builds, builds']
          exact congrArg Except.ok (same'.trans same.symm)

omit [PatternCompiler] in
/-- Of all files only the script counts for the commands. -/
theorem allCommands_congr {files' : Files}
    (same : ∀ path ∈ options.script, files'.readText? path = files.readText? path) :
    allCommands files' config options = allCommands files config options := by
  cases known : options.script with
  | none => simp [allCommands, known]
  | some path => simp [allCommands, known, scriptCommands, same path known]

/-- Where the logs can be read and the pattern for message starts is one, a view is built if and only
if its filters can be exported.  Both stop at one command and for one reason, or come to filters
that are alike, places included, and to one script.  Other logs make no difference. -/
theorem buildView_exports (readable : ∀ log ∈ logs, (files.read? log).isSome)
    (compiles : ∀ source ∈ options.messageStart.or config.messages.startPattern,
      ∃ pattern, Pattern.compile source true = .ok pattern) :
    ((∃ view, buildView files logs config options = .ok view) ↔
        ∃ commands, exportCommands files config options = .ok commands) ∧
      (∃ loaded, loadedView files logs config options = .ok loaded ∧
        Outcomes files config options loaded (buildView files logs config options)
          (exportCommands files config options)) ∧
      ∀ (files' : Files) (logs' : List String),
        (∀ log ∈ logs', (files'.read? log).isSome) →
        (∀ path ∈ options.script, files'.readText? path = files.readText? path) →
        (buildView files' logs' config options).map (·.filters.unread) =
          (buildView files logs config options).map (·.filters.unread) := by
  obtain ⟨view, isLoaded, unfiltered⟩ := loadedView_ok readable compiles
  have outcomes := build_outcomes unfiltered isLoaded
  refine ⟨?_, ⟨view, isLoaded, outcomes⟩, ?_⟩
  · generalize buildView files logs config options = built at outcomes
    generalize exportCommands files config options = exported at outcomes
    cases outcomes with
    | unreadable _ => simp
    | refused _ _ _ _ => simp
    | taken _ _ _ => simp
  · intro files' logs' readable' sameScript
    obtain ⟨view', isLoaded', unfiltered'⟩ := loadedView_ok readable' compiles
    exact build_same unfiltered unfiltered' isLoaded isLoaded' (allCommands_congr sameScript)

end

/-- A filter is deleted and leaves a gap, another one is added again as the other kind, and a third
one takes the place that is free. -/
theorem buildView_exports_gap :
    let files : Files := ⟨[("s", Utf8.encode "E a\n b\n")]⟩
    let config : ViewerConfig :=
      { filters := { commands := ["filter-in a", "filter-in b", "delete-filter a"] } }
    let options : FilterOptions := { filterOut := ["b", "c"], messageStart := some "^E" }
    let commands := ["filter-out b", "filter-out c"]
    exportCommands files config options = .ok commands ∧
      ∃ view, buildView files ["s"] config options = .ok view ∧
        view.filters.script = commands ∧
        view.filters.filters.map (fun filter => (filter.id, filter.index.val)) =
          [("b", 1), ("c", 0)] := by
  intro files config options commands
  have readable : ∀ log ∈ ["s"], (files.read? log).isSome := by
    simp [files, Files.read?, Files.namesDirectory_letter]
  have compiles : ∀ source ∈ options.messageStart.or config.messages.startPattern,
      ∃ pattern, Pattern.compile source true = .ok pattern := by
    intro source isStart
    cases isStart
    exact ⟨_, rfl⟩
  have exports : exportCommands files config options = .ok commands := by decide +kernel
  have places : (exportedFilters files config options).toOption.map (fun registry =>
      registry.filters.map fun filter => (filter.id, filter.index.val)) =
        some [("b", 1), ("c", 0)] := by
    decide +kernel
  obtain ⟨_, ⟨loaded, _, outcomes⟩, _⟩ := buildView_exports readable compiles
  refine ⟨exports, ?_⟩
  generalize buildView files ["s"] config options = built at outcomes
  generalize exportCommands files config options = exported at outcomes exports
  cases outcomes with
  | unreadable _ => cases exports
  | refused _ _ _ _ => cases exports
  | @taken _ view registry all steps alike =>
      have known : exportedFilters files config options = .ok registry := by
        rw [foldlM_exportStep] at steps
        simp only [exportedFilters, all, bind, Except.bind, steps]
      have named : ∀ {filter other : Installed}, filter.Alike other →
          (other.id, other.index.val) = (filter.id, filter.index.val) := by
        intro filter other same
        rw [same.id_eq, same.index]
      rw [known] at places
      exact ⟨view, rfl, Except.ok.inj exports,
        (Filter.map_eq_of_alike named alike).trans (Option.some.inj places)⟩

end LogLens
