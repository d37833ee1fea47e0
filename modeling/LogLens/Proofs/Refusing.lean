/-
Module: LogLens.Proofs.Refusing
Purpose: Calls on a view that are refused.  Which call is refused, and why, is told by the filters and
  the texts alone; and a refused call leaves the filters, the results, the lines and all marks as they
  were.
Main exports: LogView.Call, LogView.Call.inPlace, LogView.outcome, LogView.refusal,
  Desk.refused_keeps
-/
import LogLens.Proofs.Enrolling
import LogLens.Proofs.Programs
import LogLens.Proofs.Serving
import LogLens.Regex.Compile

namespace LogLens

open InPlace (errorOf)

namespace Registry

variable {registry : Registry}

theorem WellFormed.size_lt (wellFormed : registry.WellFormed) (notFull : ¬registry.isFull = true) :
    registry.size < maxFilters := by
  have fits := wellFormed.size_le
  rw [isFull, beq_iff_eq] at notFull
  omega

/-- A full registry refuses a place with the error that says so. -/
theorem nextSlot_of_full (full : registry.isFull = true) :
    registry.nextSlot = .error .tooManyFilters := by
  rw [nextSlot, full, if_pos rfl]

end Registry

namespace LogView

variable {view : LogView}

/-! ### Calls that can be refused -/

/-- A call on a view that can be refused. -/
inductive Call where
  | apply (command : Command)
  | toggleKind (id : String)
  | beginNew (kind : FilterKind)
  | beginEdit (id : String)
  | search (pattern : String)

/-- What a call answers if it is not refused. -/
inductive Answer where
  | done
  | kind (kind : FilterKind)
  | session (session : EditSession)
  | hits (count : Nat)

variable [PatternCompiler]

def Call.inPlace : Call → InPlace LogView Answer
  | apply command => (fun _ => .done) <$> applyInPlace command
  | toggleKind id => .kind <$> toggleKindInPlace id
  | beginNew kind => .session <$> beginNewInPlace kind
  | beginEdit id => .session <$> beginEditInPlace id
  | search pattern => .hits <$> searchInPlace pattern

/-- What a call answers, and the view that it gives. -/
def outcome (view : LogView) : Call → Except Fault (Except FilterError (Answer × LogView))
  | .apply command =>
    (view.apply command).map fun result => result.map fun after => (.done, after)
  | .toggleKind id =>
    (view.toggleKind id).map fun result => result.map fun (kind, after) => (.kind kind, after)
  | .beginNew kind => .ok ((view.beginNew kind).map fun session => (.session session, view))
  | .beginEdit id =>
    (view.beginEdit id).map fun result => result.map fun (session, after) =>
      (.session session, after)
  | .search pattern =>
    .ok ((view.search pattern).map fun (count, after) => (.hits count, after))

/-- Why a text is no pattern, if it is none. -/
def patternError (view : LogView) (text : String) : Option FilterError :=
  errorOf (Pattern.compile text view.caseSensitive)

/-- Why a call is refused: it names a filter that is not there, all places are taken, or a text is no
pattern. -/
def refusal (view : LogView) : Call → Option FilterError
  | .apply (.add _ pattern) =>
    if (view.filters.find? pattern).isSome then none
    else if view.filters.isFull then some .tooManyFilters
    else view.patternError pattern
  | .apply (.enable id) | .apply (.disable id) | .apply (.delete id) | .toggleKind id
  | .beginEdit id =>
    if (view.filters.find? id).isSome then none else some (.unknownFilter id)
  | .beginNew _ => if view.filters.isFull then some .tooManyFilters else none
  | .search pattern => view.patternError pattern

/-- The program of a call does what the call is said to do. -/
theorem inPlace_carriesOut (seen : ∀ number ∈ view.visibleLines, number < view.lineCount)
    (call : Call) : call.inPlace.CarriesOut view (view.outcome call) := by
  cases call with
  | apply command =>
      have carries := (applyInPlace_carriesOut view command).map fun _ => Answer.done
      unfold InPlace.CarriesOut at carries ⊢
      rw [Call.inPlace, carries, outcome]
      cases view.apply command with
      | error fault => rfl
      | ok result => cases result <;> rfl
  | toggleKind id => exact (toggleKindInPlace_carriesOut view id).map Answer.kind
  | beginNew kind =>
      have carries := (beginNewInPlace_carriesOut view kind).map Answer.session
      unfold InPlace.CarriesOut at carries ⊢
      rw [Call.inPlace, carries, outcome]
      cases view.beginNew kind <;> rfl
  | beginEdit id => exact (beginEditInPlace_carriesOut view id).map Answer.session
  | search pattern => exact (searchInPlace_carriesOut seen pattern).map Answer.hits

/-- The error of a command is the one that the view's refusal predicts. -/
theorem errorOf_apply (wellFormed : view.filters.WellFormed) (command : Command) :
    errorOf (view.filters.apply view.caseSensitive command) = view.refusal (.apply command) := by
  have modified : ∀ id change, errorOf (Registry.orUnknown id (view.filters.modify? id change)) =
      if (view.filters.find? id).isSome then none else some (.unknownFilter id) := by
    intro id change
    rw [Registry.modify?]
    split <;> rfl
  cases command with
  | add kind pattern =>
      simp only [refusal, Registry.apply]
      cases found : view.filters.find? pattern with
      | some filter =>
          obtain ⟨turned, changed, turns, changes⟩ := Registry.setKind?_setEnabled? found true kind
          rw [turns, Option.bind_some, changes]
          rfl
      | none =>
          have notThere : view.filters.setEnabled? pattern true = none := by
            simp [Registry.setEnabled?, Registry.modify?, found]
          rw [notThere, Option.bind_none, Option.isSome_none, if_neg Bool.false_ne_true]
          by_cases full : view.filters.isFull = true
          · rw [if_pos full, Registry.addPattern, Registry.nextSlot_of_full full]
            rfl
          · rw [if_neg full]
            have room := wellFormed.size_lt full
            cases compiles : Pattern.compile pattern view.caseSensitive with
            | error e =>
                obtain ⟨slot, isNext, _⟩ := Registry.nextSlot_ok room
                simp only [patternError, compiles, Registry.addPattern, isNext]
                rfl
            | ok compiled =>
                have free : ∀ filter ∈ view.filters.filters, filter.id ≠ pattern := by
                  intro filter member
                  simpa using List.find?_eq_none.1 found filter member
                obtain ⟨slot, after, adds, _⟩ := Registry.addPattern_of_free kind room free compiles
                rw [adds, patternError, compiles]
                rfl
  | enable id => exact modified id _
  | disable id => exact modified id _
  | delete id =>
      simp only [refusal, Registry.apply, Registry.delete?]
      cases view.filters.find? id <;> rfl

/-- A call is made or refused, and for what reason, as the filters and the texts say. -/
theorem InStep.outcome_ok (inStep : view.InStep) (call : Call) :
    ∃ result, view.outcome call = .ok result ∧ errorOf result = view.refusal call := by
  have wellFormed : view.filters.WellFormed := inStep.tidy.wellFormed
  cases call with
  | apply command =>
      have errors := errorOf_apply wellFormed command
      simp only [outcome, apply]
      cases applies : view.filters.apply view.caseSensitive command with
      | error e =>
          rw [applies] at errors
          exact ⟨_, rfl, errors⟩
      | ok registry =>
          rw [applies] at errors
          obtain ⟨after, refreshes, _⟩ := inStep.refresh (Registry.apply_evolves wellFormed applies)
          simp only [refreshes]
          exact ⟨_, rfl, errors⟩
  | toggleKind id =>
      simp only [outcome, toggleKind, refusal]
      cases view.filters.find? id with
      | none => exact ⟨_, rfl, rfl⟩
      | some filter =>
          have evolves : view.filters.Evolves
              ((view.filters.setKind? id filter.kind.opposite).getD view.filters) :=
            (view.filters.setKind?_adjusts id _).evolves wellFormed
          obtain ⟨after, refreshes, _⟩ := inStep.refresh evolves
          simp only [refreshes]
          exact ⟨_, rfl, rfl⟩
  | beginNew kind =>
      refine ⟨_, rfl, ?_⟩
      simp only [beginNew, EditSession.beginNew, refusal]
      by_cases full : view.filters.isFull = true
      · rw [Registry.nextSlot_of_full full, if_pos full]
        rfl
      · obtain ⟨slot, isNext, _⟩ := Registry.nextSlot_ok (wellFormed.size_lt full)
        rw [isNext, if_neg full]
        rfl
  | beginEdit id =>
      simp only [outcome, beginEdit, refusal]
      cases begins : EditSession.beginExisting view.filters id view.caseSensitive with
      | error e =>
          unfold EditSession.beginExisting at begins
          split at begins
          next none =>
            cases begins
            rw [none]
            exact ⟨_, rfl, rfl⟩
          next => cases begins
      | ok begun =>
          obtain ⟨session, registry⟩ := begun
          obtain ⟨filter, found, _⟩ := EditSession.beginExisting_ok begins
          obtain ⟨after, refreshes, _⟩ :=
            inStep.refresh (EditSession.beginExisting_evolves wellFormed begins)
          simp only [refreshes, found]
          exact ⟨_, rfl, rfl⟩
  | search pattern =>
      refine ⟨_, rfl, ?_⟩
      simp only [search, refusal, patternError]
      cases Pattern.compile pattern view.caseSensitive <;> rfl

end LogView

namespace Desk

/-- Whatever a view was asked before, a call on it comes to an end in place as it is said to.  It is
refused if it names a filter that is not there, if all places are taken or if a text is no pattern, and
for no other reason; then the view is the one that it was. -/
theorem refused_keeps [PatternCompiler] {name : String} {messageStart : Option String}
    {caseSensitive : Bool} {view : LogView}
    (isNew : LogView.new name messageStart caseSensitive = .ok view)
    {requests : List Request} {desk : Desk}
    (serves : (Desk.mk view []).serveAll requests = .ok desk) (call : LogView.Call) :
    ∃ result after, call.inPlace.exec desk.view = .ok (result, after) ∧
      desk.view.outcome call = .ok (result.map fun answer => (answer, after)) ∧
      errorOf result = desk.view.refusal call ∧ ∀ e, result = .error e → after = desk.view := by
  have starting : (Desk.mk view []).view.InStep := LogView.inStep_new isNew
  have inStep := inStep_serveAll starting serves
  have carries := LogView.inPlace_carriesOut inStep.orderly.seen call
  obtain ⟨result, gives, errors⟩ := inStep.outcome_ok call
  unfold InPlace.CarriesOut at carries
  rw [gives] at carries
  cases result with
  | error e => exact ⟨.error e, desk.view, carries, gives, errors, fun _ _ => rfl⟩
  | ok answered =>
      obtain ⟨answer, after⟩ := answered
      exact ⟨.ok answer, after, carries, gives, errors, fun _ none => nomatch none⟩

/-- A text that is no pattern is searched for after a search that had a hit. -/
theorem refused_keeps_hits :
    let requests : List Request := [.work (.appendText "E a\n b\nE c"),
      .work (.apply (.add .keep "[bc]")), .search "c"]
    ∃ desk e, (Desk.mk .sample []).serveAll requests = .ok desk ∧
      (LogView.Call.search "(").inPlace.exec desk.view = .ok (.error e, desk.view) ∧
      desk.view.searchHits.values = [2] := by
  intro requests
  have served : ((Desk.mk .sample []).serveAll requests).toOption.map (fun desk =>
      (desk.view.searchHits.values, (desk.view.refusal (.search "(")).isSome)) =
        some ([2], true) := by
    decide +kernel
  cases serves : (Desk.mk .sample []).serveAll requests with
  | error fault =>
      rw [serves] at served
      cases served
  | ok desk =>
      rw [serves] at served
      obtain ⟨hits, refused⟩ := Prod.ext_iff.1 (Option.some.inj served)
      dsimp only at hits refused
      obtain ⟨result, after, executes, _, errors, keeps⟩ :=
        refused_keeps LogView.new_sample serves (.search "(")
      cases result with
      | ok answer =>
          rw [← errors] at refused
          cases refused
      | error e =>
          rw [keeps e rfl] at executes
          exact ⟨desk, e, rfl, executes, hits⟩

end Desk

end LogLens
