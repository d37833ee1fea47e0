/-
Module: LogLens.Proofs.Programs
Purpose: Changes of filters and views as programs that work in place, step by step.  They check all
  that can be refused before they change anything, so each of them carries out the change that is
  described as a function.
Main exports: Registry.applyInPlace, Registry.applyInPlace_carriesOut, LogView.searchInPlace,
  LogView.searchInPlace_carriesOut, LogView.applyInPlace_carriesOut
-/
import LogLens.Proofs.InPlace
import LogLens.Proofs.Replaying
import LogLens.Proofs.Uniting

namespace LogLens

open InPlace (ofResult ofStep within)

/-! ### Filters -/

namespace Registry

/-- The place of the given number, if no filter has it. -/
def freeSlot (registry : Registry) (index : Nat) : Except FilterError Slot :=
  if h : index < maxFilters then
    if registry.usedMask.has ⟨index, h⟩ then .error (.indexInUse index) else .ok ⟨index, h⟩
  else .error (.indexInUse index)

/-- Install a filter: its place is noted as one to evaluate anew, then the filter comes in. -/
def installInPlace (filter : Filter Nat) : InPlace Registry Unit := do
  let registry ← get
  if registry.isFull then throw .tooManyFilters
  else if (registry.find? filter.id).isSome then throw (.duplicateFilter filter.id)
  else
    let slot ← ofResult (registry.freeSlot filter.index)
    modify (·.touch slot)
    modify fun registry => { registry with filters := registry.filters ++ [filter.moveTo slot] }

/-- Find a place, compile the pattern and install a filter for it. -/
def addPatternInPlace [PatternCompiler] (kind : FilterKind) (source : String)
    (caseSensitive : Bool) : InPlace Registry Slot := do
  let registry ← get
  let slot ← ofResult registry.nextSlot
  let pattern ← ofResult (Pattern.compile source caseSensitive)
  installInPlace (.new kind slot.val pattern)
  return slot

/-- Change the filter of a name; tells whether there is one. -/
def modifyInPlace (id : String) (change : Installed → Installed) : InPlace Registry Bool := do
  let registry ← get
  if (registry.find? id).isSome then
    set { registry with filters := modifyFirst (·.id == id) change registry.filters }
    return true
  else return false

/-- Take the filter of a name out and note its place; tells whether there is one. -/
def deleteInPlace (id : String) : InPlace Registry Bool := do
  let registry ← get
  match registry.find? id with
  | none => return false
  | some filter =>
    modify fun registry => { registry with filters := registry.filters.eraseP (·.id == id) }
    modify (·.touch filter.index)
    return true

/-- Refuse if a program did not find the filter of a name. -/
def known (id : String) (program : InPlace Registry Bool) : InPlace Registry Unit := do
  let found ← program
  if found then return () else throw (.unknownFilter id)

def applyInPlace [PatternCompiler] (caseSensitive : Bool) : Command → InPlace Registry Unit
  | .add kind pattern => do
    let registry ← get
    if (registry.find? pattern).isSome then
      let _ ← modifyInPlace pattern (·.setEnabled true)
      let _ ← modifyInPlace pattern (·.setKind kind)
      return ()
    else
      let _ ← addPatternInPlace kind pattern caseSensitive
      return ()
  | .enable id => known id (modifyInPlace id (·.setEnabled true))
  | .disable id => known id (modifyInPlace id (·.setEnabled false))
  | .delete id => known id (deleteInPlace id)

def toggleInPlace (id : String) : InPlace Registry FilterKind := do
  let registry ← get
  let filter ← ofResult (orUnknown id (registry.find? id))
  let kind := filter.kind.opposite
  let _ ← modifyInPlace id (·.setKind kind)
  return kind

/-- Start to edit a filter, which is turned off. -/
def beginExistingInPlace (id : String) (caseSensitive : Bool) : InPlace Registry EditSession := do
  let registry ← get
  let filter ← ofResult (orUnknown id (registry.find? id))
  let session : EditSession :=
    { target := .existing id filter.kind filter.index filter.enabled
      caseSensitive
      candidate := some filter.pattern }
  let _ ← modifyInPlace id (·.setEnabled false)
  return session

/-- The program that installs a filter writes what `install` gives, and nothing when it is refused. -/
theorem installInPlace_carriesOut (registry : Registry) (filter : Filter Nat) :
    (installInPlace filter).CarriesOut registry
      (.ok ((registry.install filter).map fun after => ((), after))) := by
  unfold InPlace.CarriesOut installInPlace install freeSlot
  simp only [InPlace.exec_bind, InPlace.exec_get]
  split
  · rfl
  split
  · rfl
  split
  · split <;> rfl
  · rfl

theorem addPatternInPlace_carriesOut [PatternCompiler] (registry : Registry) (kind : FilterKind)
    (source : String) (caseSensitive : Bool) :
    (addPatternInPlace kind source caseSensitive).CarriesOut registry
      (.ok (registry.addPattern kind source caseSensitive)) := by
  unfold InPlace.CarriesOut addPatternInPlace addPattern
  simp only [InPlace.exec_bind, InPlace.exec_get, InPlace.exec_ofResult]
  cases registry.nextSlot with
  | error e => rfl
  | ok slot =>
      cases Pattern.compile source caseSensitive with
      | error e => rfl
      | ok pattern =>
          have installs := registry.installInPlace_carriesOut (.new kind slot.val pattern)
          unfold InPlace.CarriesOut at installs
          simp only [installs, bind, Except.bind]
          cases registry.install (.new kind slot.val pattern) <;> rfl

theorem exec_modifyInPlace (registry : Registry) (id : String) (change : Installed → Installed) :
    (modifyInPlace id change).exec registry =
      .ok (.ok (registry.modify? id change).isSome, (registry.modify? id change).getD registry) := by
  unfold modifyInPlace modify?
  simp only [InPlace.exec_bind, InPlace.exec_get]
  split <;> rfl

theorem exec_deleteInPlace (registry : Registry) (id : String) :
    (deleteInPlace id).exec registry =
      .ok (.ok (registry.delete? id).isSome, (registry.delete? id).getD registry) := by
  unfold deleteInPlace delete?
  simp only [InPlace.exec_bind, InPlace.exec_get]
  cases registry.find? id <;> rfl

/-- A program that changes the filter of a name carries the change out, or is refused. -/
theorem known_carriesOut {id : String} {program : InPlace Registry Bool} {changed : Option Registry}
    (executes : program.exec registry = .ok (.ok changed.isSome, changed.getD registry)) :
    (known id program).CarriesOut registry
      (.ok ((orUnknown id changed).map fun after => ((), after))) := by
  unfold InPlace.CarriesOut known
  rw [InPlace.exec_bind, executes]
  cases changed <;> rfl

/-- The program of a command agrees with `apply`, refusals included. -/
theorem applyInPlace_carriesOut [PatternCompiler] (registry : Registry) (caseSensitive : Bool)
    (command : Command) : (applyInPlace caseSensitive command).CarriesOut registry
      (.ok ((registry.apply caseSensitive command).map fun after => ((), after))) := by
  cases command with
  | add kind pattern =>
      unfold InPlace.CarriesOut applyInPlace apply
      simp only [InPlace.exec_bind, InPlace.exec_get]
      cases found : registry.find? pattern with
      | none =>
          have notThere : registry.setEnabled? pattern true = none := by
            simp [setEnabled?, modify?, found]
          have adds := registry.addPatternInPlace_carriesOut kind pattern caseSensitive
          unfold InPlace.CarriesOut at adds
          simp only [Option.isSome_none, Bool.false_eq_true, if_false, InPlace.exec_bind, adds,
            notThere, Option.bind_none]
          cases registry.addPattern kind pattern caseSensitive <;> rfl
      | some filter =>
          obtain ⟨turned, changed, turns, changes⟩ := setKind?_setEnabled? found true kind
          unfold setEnabled? at turns
          unfold setKind? at changes
          simp only [Option.isSome_some, if_true, InPlace.exec_bind, exec_modifyInPlace, turns,
            setEnabled?, setKind?, Option.getD_some, Option.bind_some, changes]
          rfl
  | enable id => exact known_carriesOut (registry.exec_modifyInPlace id (·.setEnabled true))
  | disable id => exact known_carriesOut (registry.exec_modifyInPlace id (·.setEnabled false))
  | delete id => exact known_carriesOut (registry.exec_deleteInPlace id)

/-- The program that opens a session agrees with `beginExisting`, refusals included. -/
theorem beginExistingInPlace_carriesOut (registry : Registry) (id : String) (caseSensitive : Bool) :
    (beginExistingInPlace id caseSensitive).CarriesOut registry
      (.ok (EditSession.beginExisting registry id caseSensitive)) := by
  unfold InPlace.CarriesOut beginExistingInPlace EditSession.beginExisting
  simp only [InPlace.exec_bind, InPlace.exec_get, InPlace.exec_ofResult]
  cases registry.find? id with
  | none => rfl
  | some filter =>
      simp only [orUnknown, exec_modifyInPlace]
      rfl

theorem toggleInPlace_carriesOut (registry : Registry) (id : String) :
    (toggleInPlace id).CarriesOut registry
      (.ok ((orUnknown id (registry.find? id)).map fun filter =>
        (filter.kind.opposite, (registry.setKind? id filter.kind.opposite).getD registry))) := by
  unfold InPlace.CarriesOut toggleInPlace
  simp only [InPlace.exec_bind, InPlace.exec_get, InPlace.exec_ofResult]
  cases registry.find? id with
  | none => rfl
  | some filter =>
      simp only [orUnknown, exec_modifyInPlace]
      rfl

end Registry

/-! ### Views -/

namespace LogView

variable {α : Type} {view : LogView}

/-- Find out which lines are seen. -/
def refreshInPlace : InPlace LogView Unit :=
  ofStep fun view => view.refresh.map fun after => ((), after)

/-- Let a program work on the filters and then refresh the view. -/
def onFilters (program : InPlace Registry α) : InPlace LogView α := do
  let answer ← within LogView.filters LogView.withFilters program
  refreshInPlace
  return answer

def searchHits (view : LogView) : BookmarkIndex Nat := view.bookmarks.index searchCategory

def withHits (view : LogView) (hits : BookmarkIndex Nat) : LogView :=
  { view with bookmarks := view.bookmarks.put searchCategory hits }

/-- Look at lines one after the other and mark those that match. -/
def searchLines (pattern : Pattern) : List Nat → InPlace LogView Unit
  | [] => return ()
  | number :: rest => do
    let text ← ofStep fun view => (view.buffer.text number).map fun text => (text, view)
    modify fun view =>
      if pattern.isMatch (Utf8.encode text) then view.withHits (view.searchHits.mark number) else view
    searchLines pattern rest

/-- Compile the pattern, forget the hits of an earlier search and mark the lines that are seen and
match. -/
def searchInPlace [PatternCompiler] (text : String) : InPlace LogView Nat := do
  let view ← get
  let pattern ← ofResult (Pattern.compile text view.caseSensitive)
  modify (·.withHits {})
  searchLines pattern view.visibleLines
  let view ← get
  return view.searchHits.size

/-- What a change of the filters comes to: the view is refreshed, unless the change is refused. -/
def refreshed (view : LogView) :
    Except FilterError (α × Registry) → Except Fault (Except FilterError (α × LogView))
  | .error e => .ok (.error e)
  | .ok (answer, registry) =>
    (view.withFilters registry).refresh.map fun after => .ok (answer, after)

/-- A program on the filters is followed by a refresh, and by none where it is refused. -/
theorem onFilters_carriesOut {program : InPlace Registry α}
    {change : Except FilterError (α × Registry)}
    (carries : program.CarriesOut view.filters (.ok change)) :
    (onFilters program).CarriesOut view (view.refreshed change) := by
  unfold InPlace.CarriesOut at carries ⊢
  unfold onFilters refreshInPlace
  simp only [InPlace.exec_bind, InPlace.exec_within, InPlace.exec_ofStep, carries]
  cases change with
  | error e => rfl
  | ok changed =>
      obtain ⟨answer, registry⟩ := changed
      simp only [Except.map, InPlace.carried, refreshed]
      cases (view.withFilters registry).refresh <;> rfl

theorem searchHits_withHits (view : LogView) (hits : BookmarkIndex Nat) :
    (view.withHits hits).searchHits = hits := Bookmarks.index_put view.bookmarks searchCategory hits

theorem withHits_withHits (view : LogView) (hits later : BookmarkIndex Nat) :
    (view.withHits hits).withHits later = view.withHits later := by
  simp only [withHits, Bookmarks.put_put]

/-- The lines that match are marked in the order in which they are looked at. -/
theorem exec_searchLines (view : LogView) (pattern : Pattern) {numbers : List Nat}
    (inRange : ∀ number ∈ numbers, number < view.lineCount) (hits : BookmarkIndex Nat) :
    (searchLines pattern numbers).exec (view.withHits hits) =
      .ok (.ok (), view.withHits ((numbers.filter fun number =>
        (view.buffer.lines[number]?).any fun line => pattern.isMatch line.raw.bytes).foldl
          BookmarkIndex.mark hits)) := by
  induction numbers generalizing hits with
  | nil => rfl
  | cons number rest ih =>
      obtain ⟨isLine, inRangeRest⟩ := List.forall_mem_cons.1 inRange
      obtain ⟨line, stored⟩ : ∃ line, view.buffer.lines[number]? = some line :=
        ⟨_, Array.getElem?_eq_getElem isLine⟩
      have reads : (view.withHits hits).buffer.text number = .ok line.text := by
        change view.buffer.text number = _
        rw [LineBuffer.text, stored]
      simp only [searchLines, InPlace.exec_bind, InPlace.exec_ofStep, reads, Except.map,
        InPlace.exec_modify, searchHits_withHits, withHits_withHits, List.filter_cons, stored,
        Option.any_some, Line.raw]
      by_cases matched : pattern.isMatch (Utf8.encode line.text) = true
      · rw [if_pos matched, if_pos matched]
        exact ih inRangeRest (hits.mark number)
      · rw [if_neg matched, if_neg matched]
        exact ih inRangeRest hits

section

variable [PatternCompiler]

/-- A pattern that does not compile is refused before the earlier hits are forgotten. -/
theorem searchInPlace_carriesOut (seen : ∀ number ∈ view.visibleLines, number < view.lineCount)
    (text : String) : (searchInPlace text).CarriesOut view (.ok (view.search text)) := by
  unfold InPlace.CarriesOut searchInPlace search
  simp only [InPlace.exec_bind, InPlace.exec_get, InPlace.exec_ofResult]
  cases Pattern.compile text view.caseSensitive with
  | error e => rfl
  | ok pattern =>
      simp only [InPlace.exec_modify, exec_searchLines view pattern seen, searchHits_withHits]
      rfl

def applyInPlace (command : Command) : InPlace LogView Unit := do
  let view ← get
  onFilters (Registry.applyInPlace view.caseSensitive command)

def toggleKindInPlace (id : String) : InPlace LogView FilterKind :=
  onFilters (Registry.toggleInPlace id)

def beginEditInPlace (id : String) : InPlace LogView EditSession := do
  let view ← get
  onFilters (Registry.beginExistingInPlace id view.caseSensitive)

def beginNewInPlace (kind : FilterKind) : InPlace LogView EditSession := do
  let view ← get
  ofResult (view.beginNew kind)

/-- Applying a command in place agrees with `apply` on the whole view. -/
theorem applyInPlace_carriesOut (view : LogView) (command : Command) :
    (applyInPlace command).CarriesOut view
      ((view.apply command).map fun result => result.map fun after => ((), after)) := by
  have carries := onFilters_carriesOut
    (Registry.applyInPlace_carriesOut view.filters view.caseSensitive command)
  unfold InPlace.CarriesOut at carries ⊢
  simp only [applyInPlace, InPlace.exec_bind, InPlace.exec_get, carries, apply]
  cases view.filters.apply view.caseSensitive command with
  | error e => rfl
  | ok registry =>
      simp only [Except.map, refreshed]
      cases (view.withFilters registry).refresh <;> rfl

end

theorem toggleKindInPlace_carriesOut (view : LogView) (id : String) :
    (toggleKindInPlace id).CarriesOut view (view.toggleKind id) := by
  have carries := onFilters_carriesOut (view.filters.toggleInPlace_carriesOut id)
  unfold InPlace.CarriesOut at carries ⊢
  rw [toggleKindInPlace, carries, toggleKind]
  cases view.filters.find? id <;> rfl

theorem beginEditInPlace_carriesOut (view : LogView) (id : String) :
    (beginEditInPlace id).CarriesOut view (view.beginEdit id) := by
  have carries := onFilters_carriesOut
    (view.filters.beginExistingInPlace_carriesOut id view.caseSensitive)
  unfold InPlace.CarriesOut at carries ⊢
  simp only [beginEditInPlace, InPlace.exec_bind, InPlace.exec_get, carries, beginEdit]
  cases EditSession.beginExisting view.filters id view.caseSensitive <;> rfl

theorem beginNewInPlace_carriesOut (view : LogView) (kind : FilterKind) :
    (beginNewInPlace kind).CarriesOut view
      (.ok ((view.beginNew kind).map fun session => (session, view))) := by
  unfold InPlace.CarriesOut beginNewInPlace
  simp only [InPlace.exec_bind, InPlace.exec_get, InPlace.exec_ofResult]
  cases view.beginNew kind <;> rfl

end LogView

end LogLens
