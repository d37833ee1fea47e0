/-
Module: LogLens.Proofs.Amending
Purpose: A last line that takes another text leaves no trace of the one it had.  The view is the
  same as if the line had come with the other text, whatever was done with the filters in between.
Main exports: Desk.Action.OnFilters, Desk.run_amendLast
-/
import LogLens.Proofs.Serving
import LogLens.Regex.Compile

namespace LogLens.Desk

/-- Refreshes and work on filters and edits. -/
def Action.OnFilters : Action → Prop
  | appendLine _ | appendText _ | appendFile _ | amendLast _ => False
  | _ => True

variable {desk : Desk}

/-- A desk with other lines in its view. -/
def withBuffer (desk : Desk) (buffer : LineBuffer) : Desk :=
  { desk with view := { desk.view with buffer } }

section

variable [PatternCompiler]

/-- An action on filters writes nothing but the registry and the sessions. -/
theorem effect_of_onFilters (desk : Desk) {action : Action} (onFilters : action.OnFilters) :
    (∃ registry sessions, desk.effect action = .filters registry sessions) ∨
      ∃ sessions, desk.effect action = .edits sessions := by
  cases action with
  | appendLine _ | appendText _ | appendFile _ | amendLast _ => cases onFilters
  | refresh => exact Or.inl ⟨_, _, rfl⟩
  | preview number text => exact Or.inr ⟨_, rfl⟩
  | _ =>
      simp only [effect, Action.effect]
      split
      · simp
      · simp

/-- Work on filters does not look at lines. -/
theorem plan_withBuffer (desk : Desk) (buffer : LineBuffer) {action : Action}
    (onFilters : action.OnFilters) :
    (desk.withBuffer buffer).plan action = (desk.plan action).withBuffer buffer ∧
      (desk.plan action).view.buffer = desk.view.buffer := by
  have same : (desk.withBuffer buffer).effect action = desk.effect action := by
    cases action <;> rfl
  rw [plan, plan, same]
  rcases effect_of_onFilters desk onFilters with ⟨registry, sessions, comesTo⟩ | ⟨sessions, comesTo⟩
  all_goals
    rw [comesTo]
    exact ⟨rfl, rfl⟩

/-- Actions on filters neither read nor write the lines of the log. -/
theorem foldl_plan_withBuffer (buffer : LineBuffer) {actions : List Action}
    (onFilters : ∀ action ∈ actions, action.OnFilters) (desk : Desk) :
    actions.foldl plan (desk.withBuffer buffer) = (actions.foldl plan desk).withBuffer buffer ∧
      (actions.foldl plan desk).view.buffer = desk.view.buffer := by
  induction actions generalizing desk with
  | nil => exact ⟨rfl, rfl⟩
  | cons action rest ih =>
      obtain ⟨planned, sameBuffer⟩ :=
        plan_withBuffer desk buffer (onFilters action (List.mem_cons_self ..))
      obtain ⟨plannedRest, sameBufferRest⟩ :=
        ih (fun other inRest => onFilters other (List.mem_cons_of_mem _ inRest)) (desk.plan action)
      rw [List.foldl_cons, List.foldl_cons, planned]
      exact ⟨plannedRest, sameBufferRest.trans sameBuffer⟩

/-- Whatever was done with a view, if then a line is appended and the filters are worked on, it is
all one whether the line has its last text from the start or takes it at the end.  Only the
boundary of the line must be the same. -/
theorem run_amendLast {name : String} {messageStart : Option String} {caseSensitive : Bool}
    {view : LogView} (isNew : LogView.new name messageStart caseSensitive = .ok view)
    {requests : List Request} (serves : (Desk.mk view []).serveAll requests = .ok desk)
    {old new : String} (boundary : desk.view.startsMessage new = desk.view.startsMessage old)
    {actions : List Action} (onFilters : ∀ action ∈ actions, action.OnFilters) :
    ∃ after, desk.run (.appendLine old :: actions ++ [.amendLast new]) = .ok (true, after) ∧
      desk.run (.appendLine new :: actions ++ [.refresh]) = .ok (true, after) := by
  have starting : (Desk.mk view []).view.InStep := LogView.inStep_new isNew
  have inStep := inStep_serveAll starting serves
  obtain ⟨middle, amended, _, amends, _, settled, planned, plannedLast⟩ :=
    run_settles inStep (.appendLine old :: actions) (.amendLast new) fun _ => rfl
  obtain ⟨middle', written, _, writes, inStep', settled', planned', plannedLast'⟩ :=
    run_settles inStep (.appendLine new :: actions) .refresh fun _ => rfl
  have same : amended.outline = written.outline := by
    let appended := desk.outline.plan (.appendLine old)
    let buffer := desk.view.buffer.push ⟨new, desk.view.startsMessage old⟩
    have appends : desk.outline.plan (.appendLine new) = appended.withBuffer buffer :=
      congrArg (fun starts => appended.withBuffer (desk.view.buffer.push ⟨new, starts⟩)) boundary
    obtain ⟨sameFilters, sameBuffer⟩ := foldl_plan_withBuffer buffer onFilters appended
    have isBuffer : middle.2.outline.view.buffer.amendLast new = buffer := by
      rw [planned, List.foldl_cons, sameBuffer]
      exact LogView.amendLast_push desk.view.buffer ⟨old, desk.view.startsMessage old⟩ new
    calc amended.outline
        = middle.2.outline.withBuffer (middle.2.outline.view.buffer.amendLast new) := plannedLast
      _ = (actions.foldl plan appended).withBuffer buffer := by
        rw [isBuffer, planned, List.foldl_cons]
      _ = middle'.2.outline := by rw [← sameFilters, planned', List.foldl_cons, appends]
      _ = written.outline := by rw [plannedLast', plan_refresh inStep']
  rw [eq_of_outline settled settled' same] at amends
  exact ⟨written, amends, writes⟩

end

/-- The last line of a log loses the letter that a filter looks for, and another filter is turned
off and edited in between. -/
theorem run_amendLast_unmatched :
    let requests : List Request := [.work (.appendText "E a\n c"), .work (.apply (.add .keep "b")),
      .work (.apply (.add .hide "c"))]
    let actions : List Action := [.refresh, .beginEdit "c", .preview 0 "d", .toggleKind "b",
      .commitEdit 0, .apply (.disable "b")]
    ∃ desk after, (Desk.mk .sample []).serveAll requests = .ok desk ∧
      desk.run (.appendLine " b" :: actions ++ [.amendLast " d"]) = .ok (true, after) ∧
      desk.run (.appendLine " d" :: actions ++ [.refresh]) = .ok (true, after) := by
  intro requests actions
  have onFilters : ∀ action ∈ actions, action.OnFilters := by
    simp [actions, Action.OnFilters]
  have bounded : ((Desk.mk .sample []).serveAll requests).toOption.map (fun desk =>
      (desk.view.startsMessage " d", desk.view.startsMessage " b")) = some (false, false) := by
    decide +kernel
  cases serves : (Desk.mk .sample []).serveAll requests with
  | error fault =>
      rw [serves] at bounded
      cases bounded
  | ok desk =>
      rw [serves] at bounded
      have starts := Prod.ext_iff.1 (Option.some.inj bounded)
      obtain ⟨after, amends, writes⟩ :=
        run_amendLast LogView.new_sample serves (starts.1.trans starts.2.symm) onFilters
      exact ⟨desk, after, rfl, amends, writes⟩

end LogLens.Desk
