/-
Module: LogLens.Proofs.Replaying
Purpose: Filters written as a script and read back.  The script brings the same commands again if
  and only if every pattern can be an argument of a command; patterns that come from scripts can.
Main exports: Registry.applyAll, exportedFilters, Registry.Made, Registry.applyAll_commands,
  exportCommands_replay
-/
import Mathlib.Data.Fintype.Card
import Mathlib.Data.List.Perm.Subperm
import LogLens.Config.Replay
import LogLens.Proofs.CommandText
import LogLens.Proofs.Evaluation
import LogLens.Regex.Compile

namespace LogLens

/-- The commands that create a filter again. -/
def Filter.commands (filter : Installed) : List Command :=
  .add filter.kind filter.id :: if filter.enabled then [] else [.disable filter.id]

namespace Registry

def commands (registry : Registry) : List Command := registry.filters.flatMap Filter.commands

/-- Carry out commands one after the other, up to the first one that is refused. -/
def applyAll [PatternCompiler] (registry : Registry) (caseSensitive : Bool)
    (commands : List Command) : Except FilterError Registry :=
  commands.foldlM (fun registry command => registry.apply caseSensitive command) registry

/-- The script is what these commands look like. -/
theorem script_eq (registry : Registry) : registry.script = registry.commands.map Command.render := by
  have each : ∀ filter : Installed, (filter.render :: if filter.enabled then []
      else ["disable-filter " ++ filter.id]) = filter.commands.map Command.render := by
    intro filter
    unfold Filter.commands
    rw [Filter.render, ← filter.named]
    split <;> rfl
  simp only [script, commands, each, List.map_flatMap]

end Registry

/-- The filters that a configuration and a command line lead to. -/
def exportedFilters [PatternCompiler] (files : Files) (config : ViewerConfig)
    (options : FilterOptions) : Except RunError Registry := do
  let commands ← allCommands files config options
  (Registry.applyAll {} (heedsCase config options) commands).mapError fun e =>
    RunError.plain (.filter e)

/-- A filter that is there can be turned on and then take another kind. -/
theorem Registry.setKind?_setEnabled? {registry : Registry} {id : String} {filter : Installed}
    (found : registry.find? id = some filter) (enabled : Bool) (kind : FilterKind) :
    ∃ turned changed, registry.setEnabled? id enabled = some turned ∧
      turned.setKind? id kind = some changed := by
  obtain ⟨front, back, whole, named, first⟩ := between_of_find? found
  have turns := modify?_of_between whole named first (·.setEnabled enabled)
  have named' : (filter.setEnabled enabled).id = id := named
  exact ⟨_, _, turns, modify?_of_between rfl named' first (·.setKind kind)⟩

section

variable [PatternCompiler]

/-- Filters change alike, and are refused for the same reason, whether or not a view shows them. -/
theorem exportStep_eq (caseSensitive : Bool) (registry : Registry) (command : Command) :
    exportStep caseSensitive registry command =
      (registry.apply caseSensitive command).mapError fun e => RunError.plain (.filter e) := by
  cases command with
  | add kind pattern =>
      simp only [exportStep, Registry.apply]
      cases found : registry.find? pattern with
      | none =>
          have notThere : registry.setEnabled? pattern true = none := by
            simp [Registry.setEnabled?, Registry.modify?, found]
          rw [notThere, Option.isSome_none, if_neg Bool.false_ne_true]
          cases registry.addPattern kind pattern caseSensitive <;> rfl
      | some filter =>
          obtain ⟨turned, changed, turns, changes⟩ :=
            Registry.setKind?_setEnabled? found true kind
          rw [turns, Option.isSome_some, if_pos rfl, Option.getD_some, changes, Option.bind_some,
            changes]
          rfl
  | enable id =>
      simp only [exportStep, Registry.apply]
      cases registry.setEnabled? id true <;> rfl
  | disable id =>
      simp only [exportStep, Registry.apply]
      cases registry.setEnabled? id false <;> rfl
  | delete id =>
      simp only [exportStep, Registry.apply]
      cases registry.delete? id <;> rfl

/-- The export carries out its commands on an empty registry, one by one. -/
theorem foldlM_exportStep (caseSensitive : Bool) (commands : List Command) :
    commands.foldlM (exportStep caseSensitive) {} =
      (({} : Registry).applyAll caseSensitive commands).mapError fun e =>
        RunError.plain (.filter e) := by
  have steps : exportStep caseSensitive = fun registry command =>
      (registry.apply caseSensitive command).mapError fun e => RunError.plain (.filter e) := by
    funext registry command
    exact exportStep_eq caseSensitive registry command
  rw [steps, foldlM_mapError]
  rfl

/-- What is exported is the script of these filters. -/
theorem exportCommands_eq (files : Files) (config : ViewerConfig) (options : FilterOptions) :
    exportCommands files config options =
      (exportedFilters files config options).map Registry.script := by
  unfold exportCommands exportedFilters
  cases allCommands files config options with
  | error e => rfl
  | ok commands =>
      simp only [bind, Except.bind, foldlM_exportStep]
      cases ({} : Registry).applyAll (heedsCase config options) commands <;> rfl

end

/-- A file that is the only one is read under its name. -/
theorem Files.read?_alone {path : String} (isFile : namesDirectory path = false) (bytes : Bytes) :
    (Files.mk [(path, bytes)]).read? path = some bytes := by
  simp [read?, isFile]

theorem Files.readText?_alone {path : String} (isFile : namesDirectory path = false)
    (bytes : Bytes) : (Files.mk [(path, bytes)]).readText? path = Utf8.decode? bytes := by
  rw [readText?, read?_alone isFile]
  rfl

/-- A path of one letter names a file. -/
theorem Files.namesDirectory_letter : namesDirectory "s" = false := by
  have notEnd : ¬(0 : String.Pos.Raw).atEnd "s" = true := by decide +kernel
  have noSlash : ¬((0 : String.Pos.Raw).get "s" == (0 : String.Pos.Raw).get "/") = true := by
    decide +kernel
  have parts : "s".splitOn "/" = ["s"] := by
    rw [String.splitOn, if_neg (by decide), String.splitOnAux, if_neg notEnd, if_neg noSlash,
      String.splitOnAux, if_pos (by decide +kernel)]
    decide +kernel
  rw [namesDirectory, parts]
  rfl

/-! ### Where the patterns come from -/

/-- Filters that commands have made.  Their patterns were compiled, and their names have what the
arguments of the commands have. -/
structure Registry.Made [PatternCompiler] (caseSensitive : Bool) (Named : String → Prop)
    (registry : Registry) : Prop where
  wellFormed : registry.WellFormed
  compiled : ∀ filter ∈ registry.filters,
    Pattern.compile filter.id caseSensitive = .ok filter.pattern
  named : ∀ filter ∈ registry.filters, Named filter.id

namespace Registry

variable {registry after : Registry} {caseSensitive : Bool} {Named : String → Prop}
  {filter : Installed}

section

variable [PatternCompiler]

theorem made_empty : ({} : Registry).Made caseSensitive Named where
  wellFormed := wellFormed_empty
  compiled := by simp
  named := by simp

/-- A command brings one pattern at most, which is compiled from its argument. -/
theorem apply_renews {command : Command}
    (applies : registry.apply caseSensitive command = .ok after) :
    registry.Renews after (Pattern.compile command.argument caseSensitive = .ok ·) := by
  cases command with
  | add kind pattern =>
      simp only [apply] at applies
      split at applies
      next changed again =>
        cases applies
        obtain ⟨enabled, turnsOn, changes⟩ := Option.bind_eq_some_iff.1 again
        exact (setEnabled?_renews turnsOn).trans (setKind?_renews changes)
      next =>
        obtain ⟨⟨slot, added⟩, adds, rfl⟩ := ok_of_map applies
        exact addPattern_renews adds
  | enable id | disable id => exact setEnabled?_renews (orUnknown_eq_ok applies)
  | delete id => exact delete?_renews (orUnknown_eq_ok applies)

/-- Each filter is compiled from its own name, and commands keep that so. -/
theorem Made.apply (made : registry.Made caseSensitive Named) {command : Command}
    (isNamed : Named command.argument) (applies : registry.apply caseSensitive command = .ok after) :
    after.Made caseSensitive Named := by
  have each : ∀ filter ∈ after.filters,
      Pattern.compile filter.id caseSensitive = .ok filter.pattern ∧ Named filter.id := by
    intro filter member
    rcases apply_renews applies filter member with ⟨old, isOld, same⟩ | compiles
    · rw [← same, ← Filter.id_eq_of_pattern same]
      exact ⟨made.compiled old isOld, made.named old isOld⟩
    · rw [filter.named, Pattern.source_of_compile compiles]
      exact ⟨compiles, isNamed⟩
  constructor
  · exact (apply_evolves made.wellFormed applies).wellFormed
  · exact fun filter member => (each filter member).1
  · exact fun filter member => (each filter member).2

theorem Made.applyAll {commands : List Command} (made : registry.Made caseSensitive Named)
    (areNamed : ∀ command ∈ commands, Named command.argument)
    (applies : registry.applyAll caseSensitive commands = .ok after) :
    after.Made caseSensitive Named := by
  apply foldlM_keeps _ made applies
  intro command member registry next made applied
  exact made.apply (areNamed command member) applied

/-! ### Creating filters again -/

/-- A pattern that no filter has can be installed at a free place. -/
theorem addPattern_of_free (kind : FilterKind) {source : String} {pattern : Pattern}
    (room : registry.size < maxFilters) (free : ∀ filter ∈ registry.filters, filter.id ≠ source)
    (compiles : Pattern.compile source caseSensitive = .ok pattern) :
    ∃ slot after, registry.addPattern kind source caseSensitive = .ok (slot, after) ∧
      after.filters = registry.filters ++ [.new kind slot pattern] := by
  obtain ⟨slot, isNext, unused, _⟩ := nextSlot_ok room
  let new : Filter Nat := .new kind slot.val pattern
  have named : new.id = source := Pattern.source_of_compile compiles
  have installs := install_of_free new rfl (isFull_of_lt room)
    (fun filter member => named ▸ free filter member) unused
  have adds : registry.addPattern kind source caseSensitive = .ok (slot,
      { registry with filters := registry.filters ++ [new.moveTo slot] }.touch slot) := by
    simp only [addPattern, isNext, compiles, bind, Except.bind]
    rw [installs]
    rfl
  exact ⟨slot, _, adds, rfl⟩

omit [PatternCompiler] in
/-- The commands hang on how the filters are set. -/
theorem commands_congr {other : Registry} (same : registry.settings = other.settings) :
    registry.commands = other.commands := by
  let create (setting : FilterKind × Pattern × Bool) : List Command :=
    .add setting.1 setting.2.1.source :: if setting.2.2 then [] else [.disable setting.2.1.source]
  have each : ∀ registry : Registry, registry.commands = registry.settings.flatMap create := by
    intro registry
    rw [settings, List.flatMap_map, commands]
    congr 1
    funext filter
    rw [Filter.commands, filter.named]
    rfl
  rw [each, same, ← each]

/-- The commands of a filter create it behind the others. -/
theorem applyAll_commands_of_filter (filter : Installed) (room : registry.size < maxFilters)
    (free : ∀ other ∈ registry.filters, other.id ≠ filter.id)
    (compiles : Pattern.compile filter.id caseSensitive = .ok filter.pattern) :
    ∃ after new, registry.applyAll caseSensitive filter.commands = .ok after ∧
      after.filters = registry.filters ++ [new] ∧ new.setting = filter.setting := by
  have notFound : registry.find? filter.id = none := by
    apply List.find?_eq_none.2
    intro other member
    simpa using free other member
  obtain ⟨slot, added, adds, filters⟩ :=
    addPattern_of_free filter.kind room free compiles
  have applies : registry.apply caseSensitive (.add filter.kind filter.id) = .ok added := by
    simp [apply, setEnabled?, modify?, notFound, adds, Except.map]
  let new : Installed := .new filter.kind slot filter.pattern
  have named : new.id = filter.id := filter.named.symm
  cases on : filter.enabled with
  | true =>
      refine ⟨added, new, ?_, filters, ?_⟩
      · simp [applyAll, Filter.commands, on, applies]
      · simp [new, Filter.setting, on]
  | false =>
      let off : Registry :=
        { added with filters := registry.filters ++ [new.setEnabled false] }
      have turnsOff : added.setEnabled? filter.id false = some off :=
        modify?_of_between filters named free (·.setEnabled false)
      have disables : added.apply caseSensitive (.disable filter.id) = .ok off :=
        congrArg (orUnknown filter.id) turnsOff
      refine ⟨off, new.setEnabled false, ?_, rfl, ?_⟩
      · simp only [applyAll, Filter.commands, on, Bool.false_eq_true, if_false, List.foldlM_cons,
          List.foldlM_nil, applies, disables, bind, Except.bind]
        rfl
      · simp [new, Filter.setting, Filter.setEnabled, on]

/-- The commands of filters with different names create these behind the others. -/
theorem applyAll_commands {filters : List Installed}
    (room : registry.size + filters.length ≤ maxFilters)
    (names : ((registry.filters ++ filters).map Filter.id).Nodup)
    (compiled : ∀ filter ∈ filters,
      Pattern.compile filter.id caseSensitive = .ok filter.pattern) :
    ∃ after, registry.applyAll caseSensitive (filters.flatMap Filter.commands) = .ok after ∧
      after.settings = registry.settings ++ filters.map Filter.setting := by
  induction filters generalizing registry with
  | nil => exact ⟨registry, rfl, (List.append_nil _).symm⟩
  | cons filter rest ih =>
      rw [List.length_cons] at room
      rw [List.forall_mem_cons] at compiled
      have free : ∀ other ∈ registry.filters, other.id ≠ filter.id := fun other member =>
        ne_of_nodup Filter.id names (List.mem_append_left rest member)
      obtain ⟨middle, new, creates, grown, same⟩ :=
        applyAll_commands_of_filter filter (by omega) free compiled.1
      have named : new.id = filter.id := Filter.id_eq_of_pattern (congrArg (·.2.1) same)
      have size : middle.size = registry.size + 1 := by
        rw [size, grown, List.length_append, List.length_singleton, ← size]
      have middleNames : ((middle.filters ++ rest).map Filter.id).Nodup := by
        simpa [grown, named] using names
      obtain ⟨after, createsRest, all⟩ := ih (by omega) middleNames compiled.2
      refine ⟨after, ?_, ?_⟩
      · rw [List.flatMap_cons, applyAll, List.foldlM_append, ← applyAll, creates]
        exact createsRest
      · rw [all, settings, grown, List.map_append, List.map_singleton, same, List.append_assoc]
        rfl

/-- Filters that were made can be made anew, set as they are. -/
theorem Made.recreated_settings (made : registry.Made caseSensitive Named) :
    ∃ again, ({} : Registry).applyAll caseSensitive registry.commands = .ok again ∧
      again.settings = registry.settings := by
  have room : ({} : Registry).size + registry.filters.length ≤ maxFilters := by
    have fits := List.Nodup.length_le_card made.wellFormed.places
    rw [List.length_map, Fintype.card_fin] at fits
    simpa [size] using fits
  exact applyAll_commands room made.wellFormed.names made.compiled

/-- The commands that a registry serialises to recreate it. -/
theorem Made.recreated (made : registry.Made caseSensitive Named) :
    ∃ again, ({} : Registry).applyAll caseSensitive registry.commands = .ok again ∧
      again.commands = registry.commands := by
  obtain ⟨again, creates, same⟩ := made.recreated_settings
  exact ⟨again, creates, commands_congr same⟩

end

theorem mem_commands_add (member : filter ∈ registry.filters) :
    Command.add filter.kind filter.id ∈ registry.commands :=
  List.mem_flatMap.2 ⟨filter, member, List.mem_cons_self ..⟩

/-- Filters are named by their commands. -/
theorem argument_of_mem_commands {command : Command} (member : command ∈ registry.commands) :
    ∃ filter ∈ registry.filters, filter.id = command.argument := by
  obtain ⟨filter, isFilter, inCommands⟩ := List.mem_flatMap.1 member
  refine ⟨filter, isFilter, ?_⟩
  unfold Filter.commands at inCommands
  rcases List.mem_cons.1 inCommands with rfl | disables
  · rfl
  · split at disables
    · cases disables
    · rw [List.mem_singleton.1 disables]
      rfl

end Registry

/-! ### Exported and read again -/

/-- Commands that were read from single lines have arguments that a script can hold. -/
theorem arguments_of_parseCommands {position : Nat} {texts : List String}
    (oneLine : ∀ text ∈ texts, '\n' ∉ text.toList) {commands : List Command}
    (parses : ViewerConfig.parseCommands position texts = .ok commands) :
    ∀ command ∈ commands, Command.IsArgument command.argument := by
  induction texts generalizing position commands with
  | nil =>
      cases parses
      simp
  | cons text rest ih =>
      rw [List.forall_mem_cons] at oneLine
      rw [ViewerConfig.parseCommands] at parses
      split at parses
      · cases parses
      next command isCommand =>
      obtain ⟨others, parsesRest, rfl⟩ := ok_of_map parses
      rw [List.forall_mem_cons]
      exact ⟨Command.argument_of_parseChars isCommand oneLine.1, ih oneLine.2 parsesRest⟩

theorem arguments_of_scriptCommands {files : Files} {path : String} {commands : List Command}
    (reads : scriptCommands files path = .ok commands) :
    ∀ command ∈ commands, Command.IsArgument command.argument := by
  unfold scriptCommands at reads
  split at reads
  · cases reads
  · split at reads
    next parses =>
      cases reads
      exact arguments_of_parseScript parses
    next => cases reads

/-- Every pattern is an argument if those of the command line are and no command of the
configuration goes on in another line. -/
theorem arguments_of_allCommands {files : Files} {config : ViewerConfig} {options : FilterOptions}
    {commands : List Command} (all : allCommands files config options = .ok commands)
    (patterns : ∀ text ∈ options.filterIn ++ options.filterOut, Command.IsArgument text)
    (oneLine : ∀ text ∈ config.filters.commands, '\n' ∉ text.toList) :
    ∀ command ∈ commands, Command.IsArgument command.argument := by
  unfold allCommands at all
  obtain ⟨configured, parses, all⟩ := ok_of_bind all
  obtain ⟨scripted, reads, all⟩ := ok_of_bind all
  cases all
  have fromConfig := arguments_of_parseCommands oneLine (ok_of_mapError parses)
  have fromScript : ∀ command ∈ scripted, Command.IsArgument command.argument := by
    cases known : options.script with
    | none =>
        rw [known] at reads
        cases reads
        simp
    | some path =>
        rw [known] at reads
        exact arguments_of_scriptCommands reads
  simp only [List.forall_mem_append, List.forall_mem_map, Command.argument] at patterns ⊢
  exact ⟨⟨⟨fromConfig, fromScript⟩, patterns.1⟩, patterns.2⟩

section

variable [PatternCompiler]

theorem exportedFilters_ok {files : Files} {config : ViewerConfig} {options : FilterOptions}
    {registry : Registry} (exports : exportedFilters files config options = .ok registry) :
    ∃ commands, allCommands files config options = .ok commands ∧
      ({} : Registry).applyAll (heedsCase config options) commands = .ok registry := by
  obtain ⟨commands, all, applies⟩ := ok_of_bind exports
  exact ⟨commands, all, ok_of_mapError applies⟩

/-- Filters that were exported were made by commands. -/
theorem exportedFilters_made {files : Files} {config : ViewerConfig} {options : FilterOptions}
    {registry : Registry} (exports : exportedFilters files config options = .ok registry) :
    registry.Made (heedsCase config options) fun _ => True := by
  obtain ⟨commands, _, applies⟩ := exportedFilters_ok exports
  exact Registry.made_empty.applyAll (fun _ _ => trivial) applies

/-- Their names are arguments if those of the commands are. -/
theorem exportedFilters_named {files : Files} {config : ViewerConfig} {options : FilterOptions}
    {registry : Registry} (exports : exportedFilters files config options = .ok registry)
    (patterns : ∀ text ∈ options.filterIn ++ options.filterOut, Command.IsArgument text)
    (oneLine : ∀ text ∈ config.filters.commands, '\n' ∉ text.toList) :
    ∀ filter ∈ registry.filters, Command.IsArgument filter.id := by
  obtain ⟨commands, all, applies⟩ := exportedFilters_ok exports
  have named := arguments_of_allCommands all patterns oneLine
  exact (Registry.made_empty.applyAll named applies).named

/-- A script alone leads to the filters that its commands make. -/
theorem exportedFilters_script {files : Files} {path : String} {commands : List Command}
    (reads : scriptCommands files path = .ok commands) (caseSensitive : Bool) :
    exportedFilters files {} { script := some path, caseSensitive } =
      (({} : Registry).applyAll caseSensitive commands).mapError fun e =>
        RunError.plain (.filter e) := by
  have all : allCommands files {} { script := some path, caseSensitive } = .ok commands := by
    have whole : [] ++ commands ++ [] ++ [] = commands := by simp
    simp only [allCommands, Option.map_some, Option.getD_some, reads, bind, Except.bind]
    exact congrArg Except.ok whole
  simp only [exportedFilters, all, heedsCase, Bool.or_false, bind, Except.bind]

/-- Commands are exported for the filters of a configuration and a command line.  Written as a
script and exported again, they come out as they were if and only if the name of every filter can be
the argument of a command.  This is so in particular if all patterns of the command line can be
arguments and every command of the configuration stands on one line. -/
theorem exportCommands_replay {files : Files} {config : ViewerConfig} {options : FilterOptions}
    {commands : List String} (exports : exportCommands files config options = .ok commands) :
    ∃ registry, exportedFilters files config options = .ok registry ∧
      commands = registry.script ∧
      (∀ (copies : Files) (path : String), copies.readText? path = some (scriptText commands) →
        (exportCommands copies {}
            { script := some path, caseSensitive := heedsCase config options } = .ok commands ↔
          ∀ filter ∈ registry.filters, Command.IsArgument filter.id)) ∧
      ((∀ text ∈ options.filterIn ++ options.filterOut, Command.IsArgument text) →
        (∀ text ∈ config.filters.commands, '\n' ∉ text.toList) →
        ∀ filter ∈ registry.filters, Command.IsArgument filter.id) := by
  rw [exportCommands_eq] at exports
  obtain ⟨registry, known, rfl⟩ := ok_of_map exports
  refine ⟨registry, known, rfl, ?_, exportedFilters_named known⟩
  intro copies path reads
  rw [exportCommands_eq]
  constructor
  · intro replays
    obtain ⟨copy, again, scripts⟩ := ok_of_map replays
    rw [Registry.script_eq, Registry.script_eq] at scripts
    have same := List.map_injective_iff.2 Command.render_injective scripts
    have named := exportedFilters_named again (by simp) (by simp)
    -- Each filter shows in the commands, which are those of filters that a script made.
    intro filter member
    have inCommands := Registry.mem_commands_add member
    rw [← same] at inCommands
    obtain ⟨other, isOther, sameName⟩ : ∃ other ∈ copy.filters, other.id = filter.id :=
      Registry.argument_of_mem_commands inCommands
    exact sameName ▸ named other isOther
  · intro areNames
    have areArguments : ∀ command ∈ registry.commands, Command.IsArgument command.argument := by
      intro command member
      obtain ⟨filter, isFilter, sameName⟩ := Registry.argument_of_mem_commands member
      exact sameName ▸ areNames filter isFilter
    have read : scriptCommands copies path = .ok registry.commands := by
      rw [scriptCommands, reads, Registry.script_eq]
      simp only [parseScript_scriptText areArguments]
    obtain ⟨copy, creates, same⟩ := (exportedFilters_made known).recreated
    rw [exportedFilters_script read, creates, Registry.script_eq, ← same, ← Registry.script_eq]
    rfl

end

/-- A filter that is turned off, and two patterns, one of which has a blank within. -/
theorem exportCommands_replay_blank :
    let config : ViewerConfig :=
      { filters := { commands := ["filter-in a", "disable-filter a"] } }
    let options : FilterOptions := { filterIn := ["b c"], filterOut := ["d"] }
    let commands := ["filter-in a", "disable-filter a", "filter-in b c", "filter-out d"]
    let copies : Files := ⟨[("s", Utf8.encode (scriptText commands))]⟩
    exportCommands {} config options = .ok commands ∧
      exportCommands copies {} { script := some "s", caseSensitive := false } =
        .ok commands := by
  intro config options commands copies
  have exports : exportCommands {} config options = .ok commands := by decide +kernel
  have reads : copies.readText? "s" = some (scriptText commands) :=
    (Files.readText?_alone Files.namesDirectory_letter _).trans (by decide +kernel)
  have patterns : ∀ text ∈ options.filterIn ++ options.filterOut, Command.IsArgument text := by
    decide +kernel
  have oneLine : ∀ text ∈ config.filters.commands, '\n' ∉ text.toList := by decide +kernel
  obtain ⟨registry, _, _, replays, areNames⟩ := exportCommands_replay exports
  exact ⟨exports, (replays copies "s" reads).2 (areNames patterns oneLine)⟩

/-- A pattern that begins with a blank has lost it when the script is read. -/
theorem exportCommands_replay_trimmed :
    ¬∀ (files : Files) (config : ViewerConfig) (options : FilterOptions) (commands : List String),
      exportCommands files config options = .ok commands →
      ∀ (copies : Files) (path : String), copies.readText? path = some (scriptText commands) →
        exportCommands copies {}
          { script := some path, caseSensitive := heedsCase config options } = .ok commands := by
  intro always
  let copies : Files := ⟨[("s", Utf8.encode "filter-in  a\n")]⟩
  have exports : exportCommands {} {} { filterIn := [" a"] } = .ok ["filter-in  a"] := by
    decide +kernel
  have reads : copies.readText? "s" = some (scriptText ["filter-in  a"]) :=
    (Files.readText?_alone Files.namesDirectory_letter _).trans (by decide +kernel)
  have parses : parseScript (scriptText ["filter-in  a"]) = .ok [.add .keep "a"] := by
    decide +kernel
  have script : scriptCommands copies "s" = .ok [.add .keep "a"] := by
    simp only [scriptCommands, reads, parses]
  have replays := always _ _ _ _ exports copies "s" reads
  rw [exportCommands_eq, exportedFilters_script script] at replays
  revert replays
  decide +kernel

end LogLens
