/-
Module: LogLens.Proofs.Steps
Purpose: Steps that may fail, made one after the other.  What succeeds is taken apart into its steps,
  and what one step keeps or tracks is kept and tracked by a whole run.
Main exports: ok_of_bind, ok_of_map, ok_of_mapError, cases_of_map_eq, foldlM_error, foldlM_keeps,
  foldlM_tracks_of_mem, foldlM_tracks, foldlM_ok
-/
import LogLens.Filter.Error

namespace LogLens

variable {ε δ α β : Type}

/-! ### One step -/

/-- What follows a step that succeeds goes on from its answer. -/
theorem ok_of_bind {first : Except ε α} {next : α → Except ε β} {answer : β}
    (succeeds : first >>= next = .ok answer) : ∃ a, first = .ok a ∧ next a = .ok answer := by
  cases first with
  | error e => cases succeeds
  | ok a => exact ⟨a, rfl, succeeds⟩

theorem ok_of_map {result : Except ε α} {change : α → β} {answer : β}
    (succeeds : result.map change = .ok answer) : ∃ a, result = .ok a ∧ change a = answer := by
  cases result with
  | error e => cases succeeds
  | ok a => exact ⟨a, rfl, Except.ok.inj succeeds⟩

theorem ok_of_mapError {wording : ε → δ} {result : Except ε α} {a : α}
    (succeeds : result.mapError wording = .ok a) : result = .ok a := by
  cases result with
  | error e => cases succeeds
  | ok b =>
      cases succeeds
      rfl

theorem ok_of_toOption {result : Except ε α} {a : α} (succeeds : result.toOption = some a) :
    result = .ok a := by
  cases result with
  | error e => cases succeeds
  | ok b =>
      cases succeeds
      rfl

/-- Results that look alike are errors alike, or both succeed with answers that look alike. -/
theorem cases_of_map_eq {first second : Except ε α} {look : α → β}
    (same : first.map look = second.map look) :
    (∃ e, first = .error e ∧ second = .error e) ∨
      ∃ a b, first = .ok a ∧ second = .ok b ∧ look a = look b := by
  cases first with
  | error e =>
      cases second with
      | error e' =>
          cases same
          exact Or.inl ⟨e, rfl, rfl⟩
      | ok b => cases same
  | ok a =>
      cases second with
      | error e' => cases same
      | ok b => exact Or.inr ⟨a, b, rfl, rfl, Except.ok.inj same⟩

/-! ### Runs -/

variable {State Action : Type}

/-- The first step that fails makes the run fail, in whatever words. -/
theorem foldlM_mapError (wording : ε → δ) (step : State → Action → Except ε State)
    (actions : List Action) (state : State) :
    actions.foldlM (fun state action => (step state action).mapError wording) state =
      (actions.foldlM step state).mapError wording := by
  induction actions generalizing state with
  | nil => rfl
  | cons action rest ih =>
      rw [List.foldlM_cons, List.foldlM_cons]
      cases step state action with
      | error e => rfl
      | ok next => exact ih next

/-- A run that fails stops at one of its actions, behind others that succeed. -/
theorem foldlM_error {step : State → Action → Except ε State} {actions : List Action}
    {state : State} {e : ε} (fails : actions.foldlM step state = .error e) :
    ∃ done action rest middle, actions = done ++ action :: rest ∧
      done.foldlM step state = .ok middle ∧ step middle action = .error e := by
  induction actions generalizing state with
  | nil => cases fails
  | cons action rest ih =>
      rw [List.foldlM_cons] at fails
      cases steps : step state action with
      | error e' =>
          rw [steps] at fails
          cases fails
          exact ⟨[], action, rest, state, rfl, rfl, steps⟩
      | ok next =>
          rw [steps] at fails
          obtain ⟨done, refused, behind, middle, rfl, runs, stops⟩ := ih fails
          refine ⟨action :: done, refused, behind, middle, rfl, ?_, stops⟩
          rw [List.foldlM_cons, steps]
          exact runs

/-- Where every step that succeeds keeps something, so does every run that succeeds. -/
theorem foldlM_keeps {perform : State → Action → Except ε State} {Good : State → Prop}
    {actions : List Action} (step : ∀ action ∈ actions, ∀ state next, Good state →
      perform state action = .ok next → Good next)
    {state after : State} (good : Good state) (runs : actions.foldlM perform state = .ok after) :
    Good after := by
  induction actions generalizing state with
  | nil =>
      cases runs
      exact good
  | cons action rest ih =>
      rw [List.forall_mem_cons] at step
      rw [List.foldlM_cons] at runs
      obtain ⟨next, performs, runs⟩ := ok_of_bind runs
      exact ih step.2 (step.1 state next good performs) runs

/-- Where every step that succeeds is tracked by a step of another kind, so is every run that
succeeds. -/
theorem foldlM_follows {Shadow : Type} {perform : State → Action → Except ε State}
    (cast : Shadow → Action → Shadow) {Tracks : State → Shadow → Prop}
    (step : ∀ state shadow action next, Tracks state shadow → perform state action = .ok next →
      Tracks next (cast shadow action))
    {actions : List Action} {state after : State} {shadow : Shadow} (tracks : Tracks state shadow)
    (runs : actions.foldlM perform state = .ok after) :
    Tracks after (actions.foldl cast shadow) := by
  induction actions generalizing state shadow with
  | nil =>
      cases runs
      exact tracks
  | cons action rest ih =>
      rw [List.foldlM_cons] at runs
      obtain ⟨next, performs, runs⟩ := ok_of_bind runs
      exact ih (step state shadow action next tracks performs) runs

/-- Where every step that is made succeeds and is tracked by a step of another kind, so is the whole
run. -/
theorem foldlM_tracks_of_mem {Shadow : Type} {perform : State → Action → Except ε State}
    (cast : Shadow → Action → Shadow) {Tracks : State → Shadow → Prop} {actions : List Action}
    (step : ∀ action ∈ actions, ∀ state shadow, Tracks state shadow →
      ∃ next, perform state action = .ok next ∧ Tracks next (cast shadow action))
    {state : State} (shadow : Shadow) (tracks : Tracks state shadow) :
    ∃ after, actions.foldlM perform state = .ok after ∧ Tracks after (actions.foldl cast shadow) := by
  induction actions generalizing state shadow with
  | nil => exact ⟨state, rfl, tracks⟩
  | cons action rest ih =>
      rw [List.forall_mem_cons] at step
      obtain ⟨next, performs, tracksNext⟩ := step.1 state shadow tracks
      obtain ⟨after, runs, tracksAfter⟩ := ih step.2 (cast shadow action) tracksNext
      refine ⟨after, ?_, tracksAfter⟩
      rw [List.foldlM_cons, performs]
      exact runs

/-- Where every step succeeds and is tracked by a step of another kind, so is every run. -/
theorem foldlM_tracks {Shadow : Type} {perform : State → Action → Except ε State}
    (cast : Shadow → Action → Shadow) {Tracks : State → Shadow → Prop}
    (step : ∀ state shadow action, Tracks state shadow →
      ∃ next, perform state action = .ok next ∧ Tracks next (cast shadow action))
    (actions : List Action) {state : State} (shadow : Shadow) (tracks : Tracks state shadow) :
    ∃ after, actions.foldlM perform state = .ok after ∧ Tracks after (actions.foldl cast shadow) :=
  foldlM_tracks_of_mem cast (fun action _ state shadow => step state shadow action) shadow tracks

/-- Where every step succeeds and keeps something, so does every run. -/
theorem foldlM_ok {perform : State → Action → Except ε State} {Good : State → Prop}
    (step : ∀ state action, Good state → ∃ next, perform state action = .ok next ∧ Good next)
    (actions : List Action) {state : State} (good : Good state) :
    ∃ after, actions.foldlM perform state = .ok after ∧ Good after := by
  let Tracks : State → Unit → Prop := fun state _ => Good state
  have each : ∀ state (_ : Unit) action, Tracks state () →
      ∃ next, perform state action = .ok next ∧ Tracks next () :=
    fun state _ action good => step state action good
  exact foldlM_tracks (fun _ _ => ()) each actions () good

end LogLens
