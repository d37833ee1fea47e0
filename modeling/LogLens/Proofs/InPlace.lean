/-
Module: LogLens.Proofs.InPlace
Purpose: Programs that change a state step by step.  One that is refused half way keeps what its
  steps have changed so far, so that it has to be shown whether it left a trace.
Main exports: InPlace, InPlace.exec, InPlace.errorOf, InPlace.CarriesOut
-/
import LogLens.Filter.Error

namespace LogLens

/-- A program that works on a state and can be refused.  Where it is refused the state stays as the
steps before have left it. -/
abbrev InPlace (σ α : Type) : Type := ExceptT FilterError (StateT σ (Except Fault)) α

namespace InPlace

variable {σ τ α β : Type}

/-- Run a program; tells what it answers or why it is refused, and the state that it leaves in either
case. -/
def exec (program : InPlace σ α) (start : σ) : Except Fault (Except FilterError α × σ) :=
  StateT.run (ExceptT.run program) start

/-- An answer, or a refusal, that changes nothing. -/
def ofResult (result : Except FilterError α) : InPlace σ α := ExceptT.mk (pure result)

/-- A step that is never refused. -/
def ofStep (step : σ → Except Fault (α × σ)) : InPlace σ α :=
  ExceptT.lift step

/-- Work on a part of the state. -/
def within (part : σ → τ) (replace : σ → τ → σ) (program : InPlace τ α) : InPlace σ α :=
  ExceptT.mk fun state =>
    (program.exec (part state)).map fun (result, after) => (result, replace state after)

@[simp] theorem exec_get (start : σ) : (get : InPlace σ σ).exec start = .ok (.ok start, start) := rfl

@[simp] theorem exec_modify (change : σ → σ) (start : σ) :
    (modify change : InPlace σ PUnit).exec start = .ok (.ok ⟨⟩, change start) := rfl

@[simp] theorem exec_ofResult (result : Except FilterError α) (start : σ) :
    (ofResult result).exec start = .ok (result, start) := rfl

@[simp] theorem exec_ofStep (step : σ → Except Fault (α × σ)) (start : σ) :
    (ofStep step).exec start = (step start).map fun (answer, after) => (.ok answer, after) := by
  change Except.bind (step start) _ = _
  cases step start <;> rfl

/-- A program on a part leaves the rest of the whole as it was, whether it succeeds or not. -/
@[simp] theorem exec_within (part : σ → τ) (replace : σ → τ → σ) (program : InPlace τ α)
    (start : σ) :
    (within part replace program).exec start =
      (program.exec (part start)).map fun (result, after) => (result, replace start after) := rfl

/-- What follows a step is done in the state that the step leaves, unless the step is refused. -/
@[simp] theorem exec_bind (program : InPlace σ α) (next : α → InPlace σ β) (start : σ) :
    (program >>= next).exec start = match program.exec start with
      | .error fault => .error fault
      | .ok (.error e, after) => .ok (.error e, after)
      | .ok (.ok answer, after) => (next answer).exec after := by
  change Except.bind (program.exec start) _ = _
  cases program.exec start with
  | error fault => rfl
  | ok left =>
      obtain ⟨result, after⟩ := left
      cases result <;> rfl

@[simp] theorem exec_map (f : α → β) (program : InPlace σ α) (start : σ) :
    (f <$> program).exec start =
      (program.exec start).map fun (result, after) => (result.map f, after) := by
  change Except.bind (program.exec start) _ = _
  cases program.exec start with
  | error fault => rfl
  | ok left =>
      obtain ⟨result, after⟩ := left
      cases result <;> rfl

/-- Why something is refused, if it is. -/
def errorOf : Except FilterError α → Option FilterError
  | .ok _ => none
  | .error e => some e

/-- What a change comes to in place: where it is refused, the state is as it was. -/
def carried (start : σ) : Except FilterError (α × σ) → Except FilterError α × σ
  | .ok (answer, after) => (.ok answer, after)
  | .error e => (.error e, start)

/-- A program carries out a change: it answers what the change answers and leaves the state that the
change gives, and the one that it began with where the change is refused. -/
def CarriesOut (program : InPlace σ α) (start : σ)
    (change : Except Fault (Except FilterError (α × σ))) : Prop :=
  program.exec start = change.map (carried start)

/-- The answer may be put in other words. -/
theorem CarriesOut.map {program : InPlace σ α} {start : σ}
    {change : Except Fault (Except FilterError (α × σ))} (carries : program.CarriesOut start change)
    (f : α → β) :
    (f <$> program).CarriesOut start
      (change.map fun result => result.map fun (answer, after) => (f answer, after)) := by
  unfold CarriesOut at carries ⊢
  rw [exec_map, carries]
  cases change with
  | error fault => rfl
  | ok result => cases result <;> rfl

end InPlace

end LogLens
