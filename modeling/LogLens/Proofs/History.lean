/-
Module: LogLens.Proofs.History
Purpose: Filters as the history of commands tells them.  Which filters there are, how each one is set,
  in which order they stand and at which places can be read off the commands that a new view was given;
  and a view takes these commands up to the first one that names a filter that is not there, finds all
  places taken or brings a text that is no pattern.
Main exports: Command.leaves, History.Stands, History.Brings, History.Told, History.Tells,
  History.Refuses, History.RefusedFor, History.Acceptable, Registry.Applied, History.Tells.apply,
  LogView.Recalls, LogView.run_told
-/
import LogLens.Proofs.Commanding
import LogLens.Proofs.Refusing
import LogLens.Regex.Compile

namespace LogLens

/-! ### What one command says of a filter -/

namespace Command

/-- The kind that a command gives the filter of a name, if it adds this one. -/
def kindGiven? (name : String) : Command → Option FilterKind
  | add kind own => if own = name then some kind else none
  | _ => none

/-- Whether a command turns the filter of a name on or off, if it does either. -/
def turns? (name : String) : Command → Option Bool
  | add _ own | enable own => if own = name then some true else none
  | disable own => if own = name then some false else none
  | delete _ => none

/-- What a command leaves of a filter: nothing if it is deleted, and else the filter as it is set
then. -/
def leaves (command : Command) (filter : Installed) : Option Installed :=
  if command = .delete filter.id then none
  else some { filter with
    kind := (command.kindGiven? filter.id).getD filter.kind
    enabled := (command.turns? filter.id).getD filter.enabled }

theorem of_leaves {command : Command} {filter filter' : Installed}
    (leaves : command.leaves filter = some filter') : command ≠ .delete filter.id ∧
      filter'.index = filter.index ∧ filter'.pattern = filter.pattern ∧
      filter'.kind = (command.kindGiven? filter.id).getD filter.kind ∧
      filter'.enabled = (command.turns? filter.id).getD filter.enabled := by
  unfold Command.leaves at leaves
  split at leaves
  · cases leaves
  next notDelete =>
    cases leaves
    exact ⟨notDelete, rfl, rfl, rfl, rfl⟩

/-- Only its own deletion removes a filter. -/
theorem exists_leaves {command : Command} {filter : Installed}
    (notDelete : command ≠ .delete filter.id) : ∃ filter', command.leaves filter = some filter' :=
  ⟨_, if_neg notDelete⟩

/-- A command leaves a filter of another name as it is. -/
theorem leaves_other {command : Command} {filter : Installed}
    (other : command.argument ≠ filter.id) : command.leaves filter = some filter := by
  cases command with
  | add kind name | enable name | disable name | delete name =>
      have apart : ¬name = filter.id := other
      simp [leaves, kindGiven?, turns?, apart]

end Command

/-! ### What a history of commands tells -/

namespace History

/-- The filter of a name is there: it was added and not deleted since. -/
def Stands (commands : List Command) (name : String) : Prop :=
  ∃ front kind back, commands = front ++ .add kind name :: back ∧ Command.delete name ∉ back

/-- The command behind the ones in front brought the filter of a name: it is the first that added it
since it was last deleted. -/
def Brings (commands : List Command) (name : String) (front : List Command) : Prop :=
  ∃ kind back, commands = front ++ .add kind name :: back ∧ Command.delete name ∉ back ∧
    ¬Stands front name

section

variable [PatternCompiler]

/-- A filter is the one that the commands tell.  It was brought behind the commands in front, at a
place that was the next one then; it has the kind that it was last added with, and is on unless it was
turned off last. -/
structure Told (caseSensitive : Bool) (next : List Command → Slot → Prop) (commands : List Command)
    (filter : Installed) (front : List Command) : Prop where
  brought : Brings commands filter.id front
  place : next front filter.index
  kind : (commands.filterMap (·.kindGiven? filter.id)).getLast? = some filter.kind
  enabled : (commands.filterMap (·.turns? filter.id)).getLast? = some filter.enabled
  pattern : Pattern.compile filter.id caseSensitive = .ok filter.pattern

/-- The filters are those that the commands tell, in the order in which they were brought. -/
structure Tells (caseSensitive : Bool) (next : List Command → Slot → Prop)
    (commands : List Command) (filters : List Installed) : Prop where
  present : ∀ name, (∃ filter ∈ filters, filter.id = name) ↔ Stands commands name
  ordered : ∃ fronts : List (List Command), fronts.Pairwise (·.length < ·.length) ∧
    List.Forall₂ (Told caseSensitive next commands) filters fronts

/-- There are as many filters as there are places. -/
def Full (commands : List Command) : Prop :=
  ∃ names : List String, names.Nodup ∧ names.length = maxFilters ∧
    ∀ name ∈ names, Stands commands name

/-- A command cannot be carried out behind the given ones: it changes or deletes a filter that is not
there, or it adds one although all places are taken or its text is no pattern. -/
def Refuses (caseSensitive : Bool) (commands : List Command) : Command → Prop
  | .add _ name => ¬Stands commands name ∧
      (Full commands ∨ ∃ e, Pattern.compile name caseSensitive = .error e)
  | .enable name | .disable name | .delete name => ¬Stands commands name

/-- The reason why a command cannot be carried out behind the given ones. -/
def RefusedFor (caseSensitive : Bool) (commands : List Command) (cause : FilterError) :
    Command → Prop
  | .add _ name => ¬Stands commands name ∧
      (Full commands ∧ cause = .tooManyFilters ∨
        ¬Full commands ∧ Pattern.compile name caseSensitive = .error cause)
  | .enable name | .disable name | .delete name =>
      ¬Stands commands name ∧ cause = .unknownFilter name

/-- Every command can be carried out behind the ones in front of it. -/
def Acceptable (caseSensitive : Bool) (commands : List Command) : Prop :=
  ∀ front command back, commands = front ++ command :: back → ¬Refuses caseSensitive front command

end

variable {caseSensitive : Bool} {next : List Command → Slot → Prop} {commands front : List Command}
  {command : Command} {name : String} {filter filter' : Installed}

/-! ### One more command -/

/-- A filter is there after a command if this added it, or if it was there and was not deleted. -/
theorem stands_concat : Stands (commands ++ [command]) name ↔
    (∃ kind, command = .add kind name) ∨ Stands commands name ∧ command ≠ .delete name := by
  constructor
  · rintro ⟨front, kind, back, whole, notDeleted⟩
    rcases List.eq_nil_or_concat back with rfl | ⟨back, last, rfl⟩
    · have same := List.append_inj_right' whole rfl
      exact Or.inl ⟨kind, List.singleton_inj.1 same⟩
    · rw [List.concat_eq_append] at whole notDeleted
      rw [← List.cons_append, ← List.append_assoc] at whole
      obtain ⟨rfl, same⟩ := List.append_inj' whole rfl
      rw [List.singleton_inj.1 same]
      rw [List.mem_append, not_or, List.mem_singleton] at notDeleted
      exact Or.inr ⟨⟨front, kind, back, rfl, notDeleted.1⟩, Ne.symm notDeleted.2⟩
  · rintro (⟨kind, rfl⟩ | ⟨⟨front, kind, back, rfl, notDeleted⟩, notDelete⟩)
    · exact ⟨commands, kind, [], rfl, List.not_mem_nil⟩
    · refine ⟨front, kind, back ++ [command], by simp, ?_⟩
      simpa [notDeleted] using Ne.symm notDelete

/-- A filter brought in stays until a command deletes it. -/
theorem Brings.concat (brings : Brings commands name front) (notDelete : command ≠ .delete name) :
    Brings (commands ++ [command]) name front := by
  obtain ⟨kind, back, rfl, notDeleted, isNew⟩ := brings
  refine ⟨kind, back ++ [command], by simp, ?_, isNew⟩
  simpa [notDeleted] using Ne.symm notDelete

theorem brings_add (isNew : ¬Stands commands name) (kind : FilterKind) :
    Brings (commands ++ [.add kind name]) name commands :=
  ⟨kind, [], rfl, List.not_mem_nil, isNew⟩

theorem Brings.length_lt (brings : Brings commands name front) : front.length < commands.length := by
  obtain ⟨kind, back, rfl, _⟩ := brings
  simp

/-- The last word of the commands is that of the last one, if it has any. -/
theorem getLast?_filterMap_concat {α : Type} (word : Command → Option α) (commands : List Command)
    (command : Command) : ((commands ++ [command]).filterMap word).getLast? =
      (word command).or (commands.filterMap word).getLast? := by
  rw [List.filterMap_append, List.getLast?_append]
  cases said : word command <;> simp [said]

/-! ### One more command on a filter -/

variable [PatternCompiler]

/-- What a command leaves of a filter is what is told of it then. -/
theorem Told.leaves (told : Told caseSensitive next commands filter front)
    (leaves : command.leaves filter = some filter') :
    Told caseSensitive next (commands ++ [command]) filter' front := by
  obtain ⟨notDelete, place, pattern, kind, enabled⟩ := Command.of_leaves leaves
  have named : filter'.id = filter.id := Filter.id_eq_of_pattern pattern
  constructor
  · rw [named]
    exact told.brought.concat notDelete
  · rw [place]
    exact told.place
  · rw [named, getLast?_filterMap_concat, told.kind, kind]
    exact Option.or_some ..
  · rw [named, getLast?_filterMap_concat, told.enabled, enabled]
    exact Option.or_some ..
  · rw [named, pattern]
    exact told.pattern

/-- A filter that a command adds is told of from then on. -/
theorem told_add {kind : FilterKind} {slot : Slot} {pattern : Pattern} (place : next commands slot)
    (compiles : Pattern.compile name caseSensitive = .ok pattern)
    (isNew : ¬Stands commands name) :
    Told caseSensitive next (commands ++ [.add kind name]) (.new kind slot pattern)
      commands := by
  obtain rfl := Pattern.source_of_compile compiles
  constructor
  · exact brings_add isNew kind
  · exact place
  · rw [getLast?_filterMap_concat]
    simp [Command.kindGiven?]
  · rw [getLast?_filterMap_concat]
    simp [Command.turns?]
  · exact compiles

/-- Filters are told of alike whatever they have read. -/
theorem Told.of_alike (told : Told caseSensitive next commands filter front)
    (alike : filter.Alike filter') : Told caseSensitive next commands filter' front where
  brought := alike.id_eq ▸ told.brought
  place := alike.index ▸ told.place
  kind := by rw [alike.id_eq, alike.kind, told.kind]
  enabled := by rw [alike.id_eq, alike.enabled, told.enabled]
  pattern := by rw [alike.id_eq, alike.pattern, told.pattern]

/-- What the commands tell of the filters does not depend on what the filters have read. -/
theorem Tells.of_alike {filters filters' : List Installed}
    (tells : Tells caseSensitive next commands filters)
    (alike : List.Forall₂ Filter.Alike filters filters') :
    Tells caseSensitive next commands filters' where
  present name := by
    have sameNames := Filter.map_eq_of_alike Filter.Alike.id_eq alike
    rw [← tells.present, ← List.mem_map, ← List.mem_map, sameNames]
  ordered := by
    obtain ⟨fronts, ascending, told⟩ := tells.ordered
    refine ⟨fronts, ascending, forall₂_comp ?_ alike.flip told⟩
    exact fun _ _ _ alike told => told.of_alike alike

end History

/-! ### What one command makes of the filters -/

namespace Registry

variable {registry after : Registry} {caseSensitive : Bool} {command : Command}

/-- The first place that no filter has. -/
def NextFree (registry : Registry) (slot : Slot) : Prop :=
  (∀ filter ∈ registry.filters, filter.index ≠ slot) ∧
    ∀ other < slot, ∃ filter ∈ registry.filters, filter.index = other

/-- The filters after a command that is carried out. -/
inductive Applied [PatternCompiler] (registry : Registry) (caseSensitive : Bool) :
    Command → List Installed → Prop where
  /-- The filter of its name is changed or deleted. -/
  | changed {command : Command} (known : ∃ filter ∈ registry.filters, filter.id = command.argument) :
      Applied registry caseSensitive command (registry.filters.filterMap command.leaves)
  /-- A filter is added behind the others, at the first free place. -/
  | added {kind : FilterKind} {name : String} {slot : Slot} {pattern : Pattern}
      (isNew : ∀ filter ∈ registry.filters, filter.id ≠ name) (place : registry.NextFree slot)
      (compiles : Pattern.compile name caseSensitive = .ok pattern) :
      Applied registry caseSensitive (.add kind name)
        (registry.filters ++ [.new kind slot pattern])

/-- A command leaves the filters alone that do not bear its argument as a name. -/
theorem filterMap_leaves_other {filters : List Installed}
    (other : ∀ filter ∈ filters, command.argument ≠ filter.id) :
    filters.filterMap command.leaves = filters := by
  rw [List.filterMap_congr fun filter member => Command.leaves_other (other filter member)]
  exact List.filterMap_some

/-- A command changes the filter of its name where it stands. -/
theorem WellFormed.filterMap_leaves (wellFormed : registry.WellFormed) {front back : List Installed}
    {filter : Installed} (whole : registry.filters = front ++ filter :: back)
    (named : command.argument = filter.id) :
    registry.filters.filterMap command.leaves =
      front ++ (command.leaves filter).toList ++ back := by
  have apart : ∀ other ∈ front ++ back, command.argument ≠ other.id := by
    intro other inRest
    rw [named]
    exact wellFormed.apart whole inRest
  have inFront := filterMap_leaves_other fun other member => apart other (List.mem_append_left _ member)
  have inBack := filterMap_leaves_other fun other member => apart other (List.mem_append_right _ member)
  rw [whole, List.filterMap_append, inFront, List.filterMap_cons, inBack]
  cases command.leaves filter <;> simp

variable [PatternCompiler]

/-- What a command leaves of the filter of its name decides what becomes of the filters. -/
theorem applied_of_between (wellFormed : registry.WellFormed) {front back : List Installed}
    {filter : Installed} (whole : registry.filters = front ++ filter :: back)
    (named : filter.id = command.argument)
    (filters : after.filters = front ++ (command.leaves filter).toList ++ back) :
    registry.Applied caseSensitive command after.filters := by
  rw [filters, ← wellFormed.filterMap_leaves whole named.symm]
  refine .changed ⟨filter, ?_, named⟩
  rw [whole]
  exact List.mem_append_right _ (List.mem_cons_self ..)

/-- A filter that is added gets the first free place. -/
theorem nextFree_of_addPattern {kind : FilterKind} {source : String} {slot : Slot}
    (adds : registry.addPattern kind source caseSensitive = .ok (slot, after)) :
    registry.NextFree slot := by
  unfold addPattern at adds
  obtain ⟨next, isNext, adds⟩ := ok_of_bind adds
  obtain ⟨pattern, _, adds⟩ := ok_of_bind adds
  obtain ⟨installed, _, adds⟩ := ok_of_bind adds
  cases adds
  exact (nextSlot_first isNext).2

/-- A command that turns a filter on or off. -/
theorem applied_of_setEnabled? (wellFormed : registry.WellFormed) {enabled : Bool}
    (turns : registry.setEnabled? command.argument enabled = some after)
    (leaves : ∀ filter : Installed, filter.id = command.argument →
      command.leaves filter = some (filter.setEnabled enabled)) :
    registry.Applied caseSensitive command after.filters := by
  cases found : registry.find? command.argument with
  | none => simp [setEnabled?, modify?, found] at turns
  | some filter =>
      obtain ⟨front, back, whole, named, first⟩ := between_of_find? found
      rw [setEnabled?, modify?_of_between whole named first] at turns
      cases turns
      apply applied_of_between wellFormed whole named
      simp [leaves filter named]

/-- A command that is carried out has the effect that `Applied` describes. -/
theorem apply_applied (wellFormed : registry.WellFormed)
    (applies : registry.apply caseSensitive command = .ok after) :
    registry.Applied caseSensitive command after.filters := by
  cases command with
  | add kind name =>
      simp only [apply] at applies
      cases found : registry.find? name with
      | some filter =>
          obtain ⟨front, back, whole, rfl, first⟩ := between_of_find? found
          have still : (filter.setEnabled true).id = filter.id := rfl
          rw [setEnabled?, modify?_of_between whole rfl first, Option.bind_some, setKind?,
            modify?_of_between rfl still first] at applies
          cases applies
          apply applied_of_between wellFormed whole rfl
          simp [Command.leaves, Command.kindGiven?, Command.turns?, Filter.setKind,
            Filter.setEnabled]
      | none =>
          have notThere : registry.setEnabled? name true = none := by
            simp [setEnabled?, modify?, found]
          rw [notThere, Option.bind_none] at applies
          obtain ⟨⟨slot, added⟩, adds, rfl⟩ := ok_of_map applies
          obtain ⟨pattern, compiles, installs⟩ := addPattern_ok adds
          obtain ⟨slot', isPlace, filters⟩ := install_ok installs
          cases Fin.ext isPlace
          rw [filters]
          refine .added ?_ (nextFree_of_addPattern adds) compiles
          intro filter member
          simpa using List.find?_eq_none.1 found filter member
  | enable id =>
      have turns : registry.setEnabled? (Command.enable id).argument true = some after :=
        orUnknown_eq_ok applies
      apply applied_of_setEnabled? wellFormed turns
      rintro filter (rfl : filter.id = id)
      simp [Command.leaves, Command.kindGiven?, Command.turns?, Filter.setEnabled]
  | disable id =>
      have turns : registry.setEnabled? (Command.disable id).argument false = some after :=
        orUnknown_eq_ok applies
      apply applied_of_setEnabled? wellFormed turns
      rintro filter (rfl : filter.id = id)
      simp [Command.leaves, Command.kindGiven?, Command.turns?, Filter.setEnabled]
  | delete id =>
      have deletes := orUnknown_eq_ok applies
      cases found : registry.find? id with
      | none => simp [delete?, found] at deletes
      | some filter =>
          obtain ⟨front, back, whole, rfl, first⟩ := between_of_find? found
          rw [delete?_of_between whole rfl first] at deletes
          cases deletes
          apply applied_of_between wellFormed whole rfl
          simp [Command.leaves]

end Registry

/-! ### Histories of any length -/

namespace History

variable {caseSensitive : Bool} {next : List Command → Slot → Prop} {commands : List Command}
  {command : Command} {registry : Registry} {filters : List Installed}

theorem tells_nil [PatternCompiler] : Tells caseSensitive next [] [] where
  present name := by
    constructor
    · rintro ⟨_, ⟨⟩, _⟩
    · rintro ⟨front, kind, back, whole, _⟩
      simp at whole
  ordered := ⟨[], .nil, .nil⟩

/-- Of filters some of which go, what is told of the others stays in order. -/
theorem told_filterMap {told told' : Installed → List Command → Prop}
    {change : Installed → Option Installed}
    (each : ∀ filter front filter', told filter front → change filter = some filter' →
      told' filter' front)
    {fronts : List (List Command)} (related : List.Forall₂ told filters fronts) :
    ∃ rest, rest.Sublist fronts ∧ List.Forall₂ told' (filters.filterMap change) rest := by
  induction related with
  | nil => exact ⟨[], .slnil, .nil⟩
  | @cons filter front filters fronts isTold _ ih =>
      obtain ⟨rest, stays, related⟩ := ih
      cases changes : change filter with
      | none =>
          refine ⟨rest, stays.cons front, ?_⟩
          rwa [List.filterMap_cons_none changes]
      | some filter' =>
          refine ⟨front :: rest, stays.cons_cons front, ?_⟩
          rw [List.filterMap_cons_some changes]
          exact .cons (each filter front filter' isTold changes) related

/-- What the commands tell, they tell with one more command that is carried out. -/
theorem Tells.apply [PatternCompiler] (tells : Tells caseSensitive next commands registry.filters)
    (nextFree : ∀ slot, registry.NextFree slot → next commands slot)
    (applied : registry.Applied caseSensitive command filters) :
    Tells caseSensitive next (commands ++ [command]) filters := by
  obtain ⟨fronts, ascending, told⟩ := tells.ordered
  cases applied with
  | changed known =>
      constructor
      case present =>
        intro name
        have stays : (∃ filter ∈ registry.filters.filterMap command.leaves, filter.id = name) ↔
            (∃ filter ∈ registry.filters, filter.id = name) ∧ command ≠ .delete name := by
          constructor
          · rintro ⟨filter', member', rfl⟩
            obtain ⟨filter, member, leaves⟩ := List.mem_filterMap.1 member'
            obtain ⟨notDelete, _, pattern, _⟩ := Command.of_leaves leaves
            have named : filter'.id = filter.id := Filter.id_eq_of_pattern pattern
            rw [named]
            exact ⟨⟨filter, member, rfl⟩, notDelete⟩
          · rintro ⟨⟨filter, member, rfl⟩, notDelete⟩
            obtain ⟨filter', leaves⟩ := Command.exists_leaves notDelete
            obtain ⟨_, _, pattern, _⟩ := Command.of_leaves leaves
            exact ⟨filter', List.mem_filterMap.2 ⟨filter, member, leaves⟩,
              Filter.id_eq_of_pattern pattern⟩
        rw [stays, tells.present, stands_concat]
        constructor
        · exact Or.inr
        · rintro (⟨kind, rfl⟩ | stands)
          · exact ⟨(tells.present _).1 known, nofun⟩
          · exact stands
      case ordered =>
        obtain ⟨rest, stays, related⟩ : ∃ rest, rest.Sublist fronts ∧
            List.Forall₂ (Told caseSensitive next (commands ++ [command]))
              (registry.filters.filterMap command.leaves) rest :=
          told_filterMap (fun _ _ _ isTold leaves => isTold.leaves leaves) told
        exact ⟨rest, ascending.sublist stays, related⟩
  | @added kind name slot pattern isNew place compiles =>
      have notStands : ¬Stands commands name := by
        rw [← tells.present]
        rintro ⟨filter, member, named⟩
        exact isNew filter member named
      constructor
      case present =>
        intro other
        have named : pattern.source = name := Pattern.source_of_compile compiles
        simp only [List.mem_append, List.mem_singleton, or_and_right, exists_or, exists_eq_left,
          Filter.id_new, named, stands_concat, ← tells.present]
        simp [or_comm]
      case ordered =>
        refine ⟨fronts ++ [commands], ?_, ?_⟩
        · rw [List.pairwise_append]
          refine ⟨ascending, List.pairwise_singleton _ _, ?_⟩
          intro front isFront _ isLast
          rw [List.mem_singleton.1 isLast]
          obtain ⟨filter, _, isTold⟩ := exists_left_of_forall₂ told isFront
          exact isTold.brought.length_lt
        · have others := (List.forall₂_and_left _ _).2 ⟨isNew, told⟩
          refine List.rel_append (others.imp ?_)
            (.cons (told_add (nextFree slot place) compiles notStands) .nil)
          rintro filter front ⟨other, isTold⟩
          exact isTold.leaves (Command.leaves_other (Ne.symm other))

end History

/-! ### Commands on a new view -/

namespace LogView

open History
open InPlace (errorOf)

variable {opened view after : LogView} {caseSensitive : Bool} {commands done rest : List Command}
  {command : Command} {slot : Slot}

section

variable [PatternCompiler]

/-- A place is the first free one of the view that was given some commands. -/
def NextAfter (opened : LogView) (commands : List Command) (slot : Slot) : Prop :=
  ∃ view, commands.foldlM applyTo opened = .ok view ∧ view.filters.NextFree slot

/-- A view that was given commands, and whose filters are those that the commands tell. -/
structure Recalls (caseSensitive : Bool) (opened : LogView) (commands : List Command)
    (view : LogView) : Prop where
  runs : commands.foldlM applyTo opened = .ok view
  inStep : view.InStep
  tells : Tells caseSensitive opened.NextAfter commands view.filters.filters
  heeds : view.caseSensitive = caseSensitive

/-- Before any command, a view without filters recalls the empty history. -/
theorem Unfiltered.recalls (unfiltered : opened.Unfiltered caseSensitive) :
    Recalls caseSensitive opened [] opened where
  runs := rfl
  inStep := unfiltered.inStep
  tells := by
    have none : opened.filters.filters.map Filter.reset = [] :=
      congrArg Registry.filters unfiltered.unread
    rw [List.map_eq_nil_iff.1 none]
    exact tells_nil
  heeds := unfiltered.caseSensitive

/-- The registry is full exactly when the history says that every place is taken. -/
theorem Recalls.isFull_iff (recalls : Recalls caseSensitive opened commands view) :
    view.filters.isFull = true ↔ Full commands := by
  have wellFormed : view.filters.WellFormed := recalls.inStep.tidy.wellFormed
  have named : ∀ name, name ∈ view.filters.filters.map Filter.id ↔ Stands commands name := by
    intro name
    rw [← recalls.tells.present, List.mem_map]
  constructor
  · intro full
    refine ⟨view.filters.filters.map Filter.id, wellFormed.names, ?_, fun name => (named name).1⟩
    rw [List.length_map]
    exact eq_of_beq full
  · rintro ⟨names, distinct, many, stand⟩
    have areNames : names ⊆ view.filters.filters.map Filter.id :=
      fun name member => (named name).2 (stand name member)
    have fits := (distinct.subperm areNames).length_le
    have bound := wellFormed.size_le
    rw [List.length_map, many] at fits
    exact beq_iff_eq.2 (Nat.le_antisymm bound fits)

/-- The filters refuse what the commands before tell that they refuse. -/
theorem Recalls.refuses_iff (recalls : Recalls caseSensitive opened commands view) :
    Refuses caseSensitive commands command ↔
      ∃ e, view.filters.apply view.caseSensitive command = .error e := by
  have errors := errorOf_apply recalls.inStep.tidy.wellFormed command
  have refused : (∃ e, view.filters.apply view.caseSensitive command = .error e) ↔
      (view.refusal (.apply command)).isSome = true := by
    rw [← errors]
    cases view.filters.apply view.caseSensitive command <;> simp [errorOf]
  have known : ∀ name, (view.filters.find? name).isSome = true ↔ Stands commands name :=
    fun name => Registry.isSome_find?_iff.trans (recalls.tells.present name)
  rw [refused]
  cases command with
  | add kind name =>
      simp only [Refuses, refusal, patternError, ← known, ← recalls.isFull_iff, recalls.heeds]
      split
      next there => simp [there]
      next absent =>
        split
        next full => simp [absent, full]
        next room =>
          cases Pattern.compile name caseSensitive <;> simp [absent, room, errorOf]
  | enable name | disable name | delete name =>
      simp only [Refuses, refusal, ← known]
      cases (view.filters.find? name).isSome <;> simp

/-- The filters give the reason that the commands before tell. -/
theorem Recalls.refusedFor (recalls : Recalls caseSensitive opened commands view)
    {cause : FilterError} (refuses : view.filters.apply view.caseSensitive command = .error cause) :
    RefusedFor caseSensitive commands cause command := by
  have known : ∀ name, (view.filters.find? name).isSome = true ↔ Stands commands name :=
    fun name => Registry.isSome_find?_iff.trans (recalls.tells.present name)
  have reason : view.refusal (.apply command) = some cause := by
    rw [← errorOf_apply recalls.inStep.tidy.wellFormed, refuses]
    rfl
  cases command with
  | add kind name =>
      simp only [RefusedFor, ← known, ← recalls.isFull_iff, ← recalls.heeds]
      simp only [refusal, patternError] at reason
      split at reason
      · cases reason
      next absent =>
        split at reason
        next full =>
          cases reason
          exact ⟨absent, Or.inl ⟨full, rfl⟩⟩
        next room =>
          refine ⟨absent, Or.inr ⟨room, ?_⟩⟩
          cases compiles : Pattern.compile name view.caseSensitive with
          | ok pattern =>
              rw [compiles] at reason
              cases reason
          | error e =>
              rw [compiles] at reason
              exact congrArg Except.error (Option.some.inj reason)
  | enable name | disable name | delete name =>
      simp only [RefusedFor, ← known]
      simp only [refusal] at reason
      split at reason
      · cases reason
      next absent => exact ⟨absent, (Option.some.inj reason).symm⟩

/-- A command that the commands before do not tell to be refused is carried out. -/
theorem Recalls.applyTo_ok (recalls : Recalls caseSensitive opened commands view)
    (accepted : ¬Refuses caseSensitive commands command) :
    ∃ after, applyTo view command = .ok after ∧
      Recalls caseSensitive opened (commands ++ [command]) after := by
  have wellFormed : view.filters.WellFormed := recalls.inStep.tidy.wellFormed
  cases applies : view.filters.apply view.caseSensitive command with
  | error e => exact absurd (recalls.refuses_iff.2 ⟨e, applies⟩) accepted
  | ok registry =>
      obtain ⟨after, carriesOut, settled, same⟩ := recalls.inStep.apply_ok applies
      have performs := LogView.applyTo_ok carriesOut
      refine ⟨after, performs, ?_⟩
      constructor
      case runs =>
        rw [List.foldlM_append, recalls.runs]
        exact (bind_pure _).trans performs
      case inStep => exact settled.inStep
      case heeds => exact (caseSensitive_of_outline same).trans recalls.heeds
      case tells =>
        have applied := Registry.apply_applied wellFormed applies
        rw [recalls.heeds] at applied
        have tells := recalls.tells.apply (fun slot free => ⟨view, recalls.runs, free⟩) applied
        have alike : registry.unread = after.filters.unread :=
          ((unread_of_outline same).trans registry.unread_unread).symm
        exact tells.of_alike (Registry.alike_of_unread alike)

/-- A command that the commands before tell to be refused is refused, for the reason that they tell. -/
theorem Recalls.applyTo_refused (recalls : Recalls caseSensitive opened commands view)
    (refuses : Refuses caseSensitive commands command) :
    ∃ cause, applyTo view command = .error (LogLens.refusal command cause) ∧
      RefusedFor caseSensitive commands cause command := by
  obtain ⟨cause, fails⟩ := recalls.refuses_iff.1 refuses
  exact ⟨cause, LogView.applyTo_refused fails, recalls.refusedFor fails⟩

/-- What the commands tell of any run, by induction on its commands. -/
theorem Unfiltered.run_recalls (unfiltered : opened.Unfiltered caseSensitive)
    (runs : commands.foldlM applyTo opened = .ok view) :
    Recalls caseSensitive opened commands view := by
  induction commands using List.reverseRecOn generalizing view with
  | nil =>
      cases runs
      exact unfiltered.recalls
  | append_singleton earlier command ih =>
      rw [List.foldlM_append] at runs
      obtain ⟨middle, runsEarlier, performs⟩ := ok_of_bind runs
      have recalls := ih runsEarlier
      replace performs : applyTo middle command = .ok view := (bind_pure _).symm.trans performs
      by_cases refuses : Refuses caseSensitive earlier command
      · obtain ⟨_, fails, _⟩ := recalls.applyTo_refused refuses
        cases performs.symm.trans fails
      · obtain ⟨after, carriesOut, recallsAfter⟩ := recalls.applyTo_ok refuses
        cases performs.symm.trans carriesOut
        exact recallsAfter

theorem Unfiltered.run_of_acceptable (unfiltered : opened.Unfiltered caseSensitive)
    (acceptable : Acceptable caseSensitive commands) :
    ∃ view, commands.foldlM applyTo opened = .ok view := by
  induction commands using List.reverseRecOn with
  | nil => exact ⟨opened, rfl⟩
  | append_singleton earlier command ih =>
      obtain ⟨middle, runsEarlier⟩ : ∃ middle, earlier.foldlM applyTo opened = .ok middle := by
        apply ih
        rintro front other back rfl
        apply acceptable front other (back ++ [command])
        simp
      have accepted := acceptable earlier command [] rfl
      obtain ⟨after, _, recalls⟩ := (unfiltered.run_recalls runsEarlier).applyTo_ok accepted
      exact ⟨after, recalls.runs⟩

/-- A history runs to its end exactly when every command in it is acceptable where it stands. -/
theorem Unfiltered.run_ok_iff (unfiltered : opened.Unfiltered caseSensitive) :
    (∃ view, commands.foldlM applyTo opened = .ok view) ↔ Acceptable caseSensitive commands := by
  refine ⟨?_, unfiltered.run_of_acceptable⟩
  rintro ⟨view, runs⟩ front command back rfl refuses
  rw [List.foldlM_append] at runs
  obtain ⟨middle, runsFront, runs⟩ := ok_of_bind runs
  rw [List.foldlM_cons] at runs
  obtain ⟨next, performs, _⟩ := ok_of_bind runs
  obtain ⟨_, fails, _⟩ := (unfiltered.run_recalls runsFront).applyTo_refused refuses
  cases performs.symm.trans fails

/-- A new view is given commands.  It takes them all if none of them is to be refused by what the ones
before it tell, and else it stops at the first one that is, and says that this one is refused and why.
Once it has taken them, its filters are the ones that they tell. -/
theorem run_told {name : String} {messageStart : Option String}
    (isNew : LogView.new name messageStart caseSensitive = .ok opened) (commands : List Command) :
    ((∃ view, commands.foldlM applyTo opened = .ok view) ↔ Acceptable caseSensitive commands) ∧
      (∀ front command back, commands = front ++ command :: back →
        ((∃ error, StopsAt applyTo opened commands front.length error) ↔
          Acceptable caseSensitive front ∧ Refuses caseSensitive front command) ∧
        ∀ error, StopsAt applyTo opened commands front.length error →
          ∃ cause, error = LogLens.refusal command cause ∧
            RefusedFor caseSensitive front cause command) ∧
      ∀ view, commands.foldlM applyTo opened = .ok view →
        Tells caseSensitive opened.NextAfter commands view.filters.filters := by
  have unfiltered := unfiltered_new isNew
  refine ⟨unfiltered.run_ok_iff, ?_, fun view runs => (unfiltered.run_recalls runs).tells⟩
  rintro front command back rfl
  -- Where the run stops, the view is the one that the commands in front leave.
  have stopped : ∀ error, StopsAt applyTo opened (front ++ command :: back) front.length error →
      ∃ middle, front.foldlM applyTo opened = .ok middle ∧ applyTo middle command = .error error := by
    rintro error ⟨middle, stopping, runs, isCommand, fails⟩
    rw [List.take_left] at runs
    simp only [List.getElem?_append_right, Nat.le_refl, Nat.sub_self, List.getElem?_cons_zero,
      Option.some.injEq] at isCommand
    subst isCommand
    exact ⟨middle, runs, fails⟩
  have isRefused : ∀ {middle error}, front.foldlM applyTo opened = .ok middle →
      applyTo middle command = .error error → Refuses caseSensitive front command := by
    intro middle error runs fails
    by_contra accepted
    obtain ⟨after, performs, _⟩ := (unfiltered.run_recalls runs).applyTo_ok accepted
    cases performs.symm.trans fails
  refine ⟨⟨?_, ?_⟩, ?_⟩
  · rintro ⟨error, stops⟩
    obtain ⟨middle, runs, fails⟩ := stopped error stops
    exact ⟨unfiltered.run_ok_iff.1 ⟨middle, runs⟩, isRefused runs fails⟩
  · rintro ⟨acceptable, refuses⟩
    obtain ⟨middle, runs⟩ := unfiltered.run_of_acceptable acceptable
    obtain ⟨_, fails, _⟩ := (unfiltered.run_recalls runs).applyTo_refused refuses
    exact ⟨_, stopsAt_length runs fails back⟩
  · intro error stops
    obtain ⟨middle, runs, fails⟩ := stopped error stops
    obtain ⟨cause, refused, reason⟩ :=
      (unfiltered.run_recalls runs).applyTo_refused (isRefused runs fails)
    cases refused.symm.trans fails
    exact ⟨cause, rfl, reason⟩

end

/-- One of two filters is deleted and a third one gets its place; the other one, which was turned off,
is added again with another kind and stands in front. -/
theorem run_told_again :
    let commands : List Command := [.add .keep "b", .add .hide "c", .disable "c", .delete "b",
      .add .keep "d", .add .keep "c"]
    ∃ view, commands.foldlM applyTo sample = .ok view ∧
      Tells false sample.NextAfter commands view.filters.filters ∧
      view.filters.filters.map (fun filter => (filter.id, filter.kind, filter.index, filter.enabled)) =
        [("c", .keep, 1, true), ("d", .keep, 0, true)] := by
  intro commands
  have facts : (commands.foldlM applyTo sample).toOption.map (fun view =>
      view.filters.filters.map fun filter =>
        (filter.id, filter.kind, filter.index, filter.enabled)) =
      some [("c", .keep, 1, true), ("d", .keep, 0, true)] := by
    decide +kernel
  obtain ⟨view, runs, stand⟩ := Option.map_eq_some_iff.1 facts
  obtain ⟨_, _, tells⟩ := run_told new_sample commands
  exact ⟨view, ok_of_toOption runs, tells view (ok_of_toOption runs), stand⟩

end LogView

end LogLens
