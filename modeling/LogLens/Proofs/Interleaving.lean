/-
Module: LogLens.Proofs.Interleaving
Purpose: It does not matter when lines come.  However the lines that are loaded and the work on the
  filters fall between each other, and wherever the view is refreshed meanwhile, the last refresh
  leaves the same view and the same edits.
Main exports: Desk.Action.Loads, Desk.Interleaves, Desk.foldl_plan_interleaves,
  Desk.run_interleaved
-/
import LogLens.Proofs.Abandoning
import LogLens.Proofs.Amending
import LogLens.Regex.Compile

namespace LogLens

namespace Desk

/-- Lines are loaded. -/
def Action.Loads : Action → Prop
  | appendLine _ | appendText _ | appendFile _ => True
  | _ => False

/-- The last list is made of the first two, each of them in its order, with refreshes anywhere in
between. -/
inductive Interleaves : List Action → List Action → List Action → Prop where
  | nil : Interleaves [] [] []
  | refresh {loads works actions : List Action} (rest : Interleaves loads works actions) :
      Interleaves loads works (.refresh :: actions)
  | load {loads works actions : List Action} (action : Action)
      (rest : Interleaves loads works actions) :
      Interleaves (action :: loads) works (action :: actions)
  | work {loads works actions : List Action} (action : Action)
      (rest : Interleaves loads works actions) :
      Interleaves loads (action :: works) (action :: actions)

/-! ### Lines and filters apart -/

/-- A desk with the lines of one desk and with the filters and edits of another one. -/
structure Joins (desk loaded worked : Desk) : Prop where
  eq : desk = ⟨loaded.view.withFilters worked.view.filters, worked.sessions⟩
  caseSensitive : worked.view.caseSensitive = loaded.view.caseSensitive
  dirty : worked.view.filters.dirty = 0

variable {desk loaded worked : Desk}

theorem joins_self (dirty : desk.view.filters.dirty = 0) : Joins desk desk desk where
  eq := rfl
  caseSensitive := rfl
  dirty := dirty

section

variable [PatternCompiler]

namespace Joins

/-- Loading lines does not look at the filters. -/
theorem load (joins : Joins desk loaded worked) {action : Action} (loads : action.Loads) :
    Joins (desk.plan action) (loaded.plan action) worked := by
  cases joins.eq
  cases action with
  | appendLine text => exact ⟨rfl, joins.caseSensitive, joins.dirty⟩
  | appendText text =>
      constructor
      · simp only [plan, effect, Action.effect, sketch, LogView.foldl_record_withFilters]
      · exact joins.caseSensitive.trans (LogView.caseSensitive_foldl_record _ loaded.view).symm
      · exact joins.dirty
  | appendFile text =>
      constructor
      · simp only [plan, effect, Action.effect, sketch, LogView.recordFile_withFilters]
      · exact joins.caseSensitive.trans (LogView.caseSensitive_recordFile text loaded.view).symm
      · exact joins.dirty
  | _ => cases loads

/-- Work on the filters does not look at the lines. -/
theorem work (joins : Joins desk loaded worked) {action : Action} (onFilters : action.OnFilters) :
    Joins (desk.plan action) loaded (worked.plan action) := by
  have same : desk.effect action = worked.effect action := by
    rw [joins.eq, effect, effect, joins.caseSensitive]
    rfl
  rw [plan, plan, same, joins.eq]
  rcases effect_of_onFilters worked onFilters with ⟨registry, sessions, comesTo⟩ |
    ⟨sessions, comesTo⟩
  · rw [comesTo]
    exact ⟨rfl, joins.caseSensitive, rfl⟩
  · rw [comesTo]
    exact ⟨rfl, joins.caseSensitive, joins.dirty⟩

/-- A refresh adds nothing, since no filter waits to be evaluated anew. -/
theorem refresh (joins : Joins desk loaded worked) :
    Joins (desk.plan .refresh) loaded worked := by
  have taken : worked.view.filters.takeDirty.2 = worked.view.filters :=
    Registry.ext_registry rfl joins.dirty.symm
  constructor
  · rw [joins.eq]
    exact congrArg (fun registry => Desk.mk (loaded.view.withFilters registry) worked.sessions) taken
  · exact joins.caseSensitive
  · exact joins.dirty

end Joins

/-- An interleaving comes to what the lines and the filters come to by themselves. -/
theorem foldl_plan_interleaves {loads works actions : List Action}
    (interleaves : Interleaves loads works actions) (areLoads : ∀ action ∈ loads, action.Loads)
    (areWorks : ∀ action ∈ works, action.OnFilters) (joins : Joins desk loaded worked) :
    Joins (actions.foldl plan desk) (loads.foldl plan loaded) (works.foldl plan worked) := by
  induction interleaves generalizing desk loaded worked with
  | nil => exact joins
  | refresh rest ih => exact ih areLoads areWorks joins.refresh
  | load action rest ih =>
      have step := joins.load (areLoads action (List.mem_cons_self ..))
      exact ih (fun other inRest => areLoads other (List.mem_cons_of_mem _ inRest)) areWorks step
  | work action rest ih =>
      have step := joins.work (areWorks action (List.mem_cons_self ..))
      exact ih areLoads (fun other inRest => areWorks other (List.mem_cons_of_mem _ inRest)) step

/-- Lines are loaded and filters are worked on, in two orders and with refreshes anywhere.  After a
last refresh both desks are the same: lines and boundaries, filters with what they have read,
results, lines that are seen, and edits. -/
theorem run_interleaved {name : String} {messageStart : Option String} {caseSensitive : Bool}
    {view : LogView} (isNew : LogView.new name messageStart caseSensitive = .ok view)
    {requests : List Request} (serves : (Desk.mk view []).serveAll requests = .ok desk)
    {loads works first second : List Action} (areLoads : ∀ action ∈ loads, action.Loads)
    (areWorks : ∀ action ∈ works, action.OnFilters) (one : Interleaves loads works first)
    (two : Interleaves loads works second) :
    ∃ after, desk.run (first ++ [.refresh]) = .ok (true, after) ∧
      desk.run (second ++ [.refresh]) = .ok (true, after) := by
  have starting : (Desk.mk view []).view.InStep := LogView.inStep_new isNew
  have inStep := inStep_serveAll starting serves
  have joins : Joins desk.outline desk.outline desk.outline := joins_self inStep.tidy.dirty
  obtain ⟨middle, after, _, runs, inStepMiddle, settled, planned, plannedLast⟩ :=
    run_settles inStep first .refresh fun _ => rfl
  obtain ⟨middle', after', _, runs', inStepMiddle', settled', planned', plannedLast'⟩ :=
    run_settles inStep second .refresh fun _ => rfl
  have joinsFirst := foldl_plan_interleaves one areLoads areWorks joins
  have joinsSecond := foldl_plan_interleaves two areLoads areWorks joins
  have same : after.outline = after'.outline := by
    calc after.outline
        = middle.2.outline := by rw [plannedLast, plan_refresh inStepMiddle]
      _ = first.foldl plan desk.outline := planned
      _ = second.foldl plan desk.outline := by rw [joinsFirst.eq, joinsSecond.eq]
      _ = middle'.2.outline := planned'.symm
      _ = after'.outline := by rw [plannedLast', plan_refresh inStepMiddle']
  rw [eq_of_outline settled settled' same] at runs
  exact ⟨after', runs, runs'⟩

end

/-- A line continues a message, once before filters are added and edited and once after that, with a
refresh between the two lines of the message; one command and one edit are refused. -/
theorem run_interleaved_continued :
    let loads : List Action := [.appendText "E a\n b", .appendLine " c", .appendFile "d\nE e"]
    let works : List Action := [.apply (.add .keep "b"), .apply (.delete "x"), .beginEdit "b",
      .preview 0 "(", .commitEdit 0, .apply (.add .hide "e"), .toggleKind "b"]
    let late := [.appendText "E a\n b", .refresh, .appendLine " c", .appendFile "d\nE e"] ++ works
    let early := works ++ loads
    ∃ after, (Desk.mk .sample []).run (late ++ [.refresh]) = .ok (true, after) ∧
      (Desk.mk .sample []).run (early ++ [.refresh]) = .ok (true, after) := by
  intro loads works late early
  have areLoads : ∀ action ∈ loads, action.Loads := by
    simp [loads, Action.Loads]
  have areWorks : ∀ action ∈ works, action.OnFilters := by
    simp [works, Action.OnFilters]
  have one : Interleaves loads works late := by
    apply Interleaves.load
    apply Interleaves.refresh
    apply Interleaves.load
    apply Interleaves.load
    repeat apply Interleaves.work
    exact Interleaves.nil
  have two : Interleaves loads works early := by
    iterate 7 apply Interleaves.work
    iterate 3 apply Interleaves.load
    exact Interleaves.nil
  have serves : (Desk.mk .sample []).serveAll [] = .ok (Desk.mk .sample []) := rfl
  exact run_interleaved LogView.new_sample serves areLoads areWorks one two

end Desk

end LogLens
