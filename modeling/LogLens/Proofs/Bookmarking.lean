/-
Module: LogLens.Proofs.Bookmarking
Purpose: The marks of a view.  Work on lines, filters and edits leaves them alone, a search replaces
  the marks of its own category, and every other request about marks is one call on one category.  So
  the marked lines of each category stay in ascending order, and the others are left as they are.
Main exports: Bookmarks.InOrder, Desk.Request.call?, Desk.Request.category?, Desk.Served,
  Desk.serve_served, Desk.inOrder_serveAll, Desk.get?_serveAll
-/
import LogLens.Proofs.Programs
import LogLens.Proofs.Serving

namespace LogLens

open BookmarkIndex (Ascending)

/-! ### Marks in ascending order -/

namespace BookmarkIndex

variable {α : Type} [LineId α] [DecidableEq α] {index after : BookmarkIndex α}

/-- Every call on a bookmark index leaves its lines in ascending order. -/
theorem ascending_perform (ascending : Ascending index.values) {call : Call α}
    (performs : index.perform call = .ok after) : Ascending after.values := by
  have removed : ∀ line, Ascending (index.remove line).2.values :=
    fun line => ascending.sublist List.filter_sublist
  cases call with
  | insert line =>
      obtain ⟨⟨insertion, marked⟩, inserts, rfl⟩ := ok_of_map performs
      unfold insert at inserts
      split at inserts <;> cases inserts
      exact ascending_mark ascending line
  | remove line =>
      cases performs
      exact removed line
  | toggle line =>
      obtain ⟨⟨isMarked, toggled⟩, toggles, rfl⟩ := ok_of_map performs
      unfold toggle at toggles
      split at toggles
      · cases toggles
      · split at toggles <;> cases toggles
        · exact removed line
        · exact ascending_mark ascending line
  | clear =>
      cases performs
      exact List.Pairwise.nil

/-- Ascending lines that are marked one after the other are the marked lines. -/
theorem foldl_mark {front lines : List α} (ascending : Ascending (front ++ lines)) :
    lines.foldl mark ⟨front⟩ = ⟨front ++ lines⟩ := by
  induction lines generalizing front with
  | nil => rw [List.append_nil, List.foldl_nil]
  | cons line rest ih =>
      have before := (List.pairwise_append.1 ascending).2.2
      have sides : Sides line front [] := by
        refine ⟨fun x inFront => before x inFront line (List.mem_cons_self ..), ?_⟩
        exact List.forall_mem_nil _
      have marked : mark ⟨front⟩ line = ⟨front ++ [line]⟩ :=
        congrArg BookmarkIndex.mk (sides.insertSorted_eq (Or.inl (List.append_nil front).symm))
      rw [List.append_cons] at ascending ⊢
      rw [List.foldl_cons, marked]
      exact ih ascending

end BookmarkIndex

namespace Bookmarks

variable {α : Type} [LineId α] [DecidableEq α] {bookmarks after : Bookmarks α}

/-- The marked lines of every category stand in ascending order. -/
def InOrder (bookmarks : Bookmarks α) : Prop :=
  ∀ category, Ascending (bookmarks.index category).values

omit [DecidableEq α] in
theorem InOrder.put (inOrder : bookmarks.InOrder) (category : CategoryId) {index : BookmarkIndex α}
    (ascending : Ascending index.values) : (bookmarks.put category index).InOrder := by
  intro other
  by_cases same : other = category
  · rw [same, index_put]
    exact ascending
  · rw [index_put_of_ne bookmarks index same]
    exact inOrder other

theorem InOrder.perform (inOrder : bookmarks.InOrder) {call : Call α}
    (performs : bookmarks.perform call = .ok after) : after.InOrder := by
  cases call with
  | touch category =>
      cases performs
      exact inOrder.put category (inOrder category)
  | within category call =>
      obtain ⟨_, updates, rfl⟩ := ok_of_map performs
      obtain ⟨_, acts, rfl⟩ := ok_of_map updates
      obtain ⟨index, performsOwn, rfl⟩ := ok_of_map acts
      exact inOrder.put category (BookmarkIndex.ascending_perform (inOrder category) performsOwn)
  | clear category =>
      cases performs
      unfold clear
      split
      · exact inOrder.put category List.Pairwise.nil
      · exact inOrder

end Bookmarks

/-! ### Work leaves the marks alone -/

namespace LogView

/-- A new view has no bookmarks and only the default categories. -/
theorem marks_new [PatternCompiler] {name : String} {messageStart : Option String}
    {caseSensitive : Bool} {view : LogView}
    (isNew : LogView.new name messageStart caseSensitive = .ok view) :
    view.bookmarks = {} ∧ view.categories = .withDefaults := by
  unfold LogView.new at isNew
  obtain ⟨pattern, _, isNew⟩ := ok_of_bind isNew
  cases isNew
  exact ⟨rfl, rfl⟩

theorem marks_foldl_record (texts : List String) (view : LogView) :
    (texts.foldl record view).bookmarks = view.bookmarks ∧
      (texts.foldl record view).categories = view.categories := by
  induction texts generalizing view with
  | nil => exact ⟨rfl, rfl⟩
  | cons text rest ih => exact ih (view.record text)

/-- To let an operation act on the marks of a category is to make a call on it. -/
theorem updateMarks_eq {β γ : Type} (view : LogView) (place : LogView → γ) {category : CategoryId}
    {act : BookmarkIndex Nat → Except Fault (β × BookmarkIndex Nat)} {call : BookmarkIndex.Call Nat}
    (same : ∀ index, index.perform call = (act index).map Prod.snd) :
    (view.updateMarks category act).map (fun (_, after) => place after) =
      (view.bookmarks.perform (.within category call)).map fun bookmarks =>
        place { view with bookmarks } := by
  simp only [updateMarks, Bookmarks.perform, Bookmarks.update, same]
  cases act (view.bookmarks.index category) <;> rfl

theorem toggleMark_eq (view : LogView) (line : Nat) :
    (view.toggleMark line).map Prod.snd =
      (view.bookmarks.perform (.within userCategory (.toggle line))).map fun bookmarks =>
        { view with bookmarks } :=
  view.updateMarks_eq id fun _ => rfl

variable {view : LogView} (ascending : view.visibleLines.Pairwise (· < ·))
include ascending

/-- The matching lines come in the order of the log. -/
theorem ascending_matchingLines (pattern : Pattern) : Ascending (view.matchingLines pattern) := by
  refine (ascending.sublist List.filter_sublist).imp ?_
  intro a b before
  rw [LineId.isBefore_iff]
  exact Int.ofNat_lt.2 before

/-- A search marks the lines that are seen and match, in the order in which they are seen. -/
theorem search_ok [PatternCompiler] {text : String} {pattern : Pattern}
    (compiles : Pattern.compile text view.caseSensitive = .ok pattern) :
    view.search text =
      .ok ((view.matchingLines pattern).length, view.withHits ⟨view.matchingLines pattern⟩) := by
  have marked : (view.matchingLines pattern).foldl BookmarkIndex.mark {} =
      ⟨view.matchingLines pattern⟩ :=
    BookmarkIndex.foldl_mark (ascending_matchingLines ascending pattern)
  simp only [search, compiles, bind, Except.bind, marked]
  rfl

end LogView

namespace Desk

variable [PatternCompiler] {desk after : Desk}

theorem marks_plan (desk : Desk) (action : Action) :
    (desk.plan action).view.bookmarks = desk.view.bookmarks ∧
      (desk.plan action).view.categories = desk.view.categories := by
  rw [plan]
  cases desk.effect action with
  | lines texts => exact LogView.marks_foldl_record texts desk.view
  | file text =>
      exact LogView.marks_foldl_record (LogView.linesOf text) { desk.view with fileStart := true }
  | filters _ _ | edits _ | amend _ => exact ⟨rfl, rfl⟩

/-- Work on the log and its filters leaves the bookmarks alone. -/
theorem marks_perform (inStep : desk.view.InStep) {action : Action} {refreshed : Bool}
    (performs : desk.perform action = .ok (refreshed, after)) :
    after.view.bookmarks = desk.view.bookmarks ∧ after.view.categories = desk.view.categories := by
  obtain ⟨next, performed, _, same⟩ := perform_kept inStep action
  rw [performed] at performs
  cases performs
  have outline := desk.outline.marks_plan action
  rw [← same] at outline
  exact outline

/-- The call on the marks of one category that a request is, if it is one. -/
def Request.call? : Request → Option (Bookmarks.Call Nat)
  | toggleMark line => some (.within LogView.userCategory (.toggle line))
  | mark category line => some (.within category (.insert line))
  | toggle category line => some (.within category (.toggle line))
  | unmark category line => some (.within category (.remove line))
  | clear category => some (.clear category)
  | work _ | adopt _ | read _ | search _ | register _ => none

/-- A request that is a call makes it, and changes nothing but the marks. -/
theorem serve_call {request : Request} {call : Bookmarks.Call Nat}
    (isCall : request.call? = some call) :
    desk.serve request = (desk.view.bookmarks.perform call).map fun bookmarks =>
      { desk with view := { desk.view with bookmarks } } := by
  let place (view : LogView) : Desk := { desk with view }
  have unchecked : desk.check request = .ok () := by
    cases request with
    | work _ => cases isCall
    | _ => rfl
  rw [serve_of_check unchecked]
  cases request with
  | work _ | adopt _ | read _ | search _ | register _ => cases isCall
  | toggleMark line | mark _ line | toggle _ line =>
      cases isCall
      exact desk.view.updateMarks_eq place fun _ => rfl
  | unmark category line =>
      cases isCall
      let act (index : BookmarkIndex Nat) : Except Fault (Bool × BookmarkIndex Nat) :=
        .ok (index.remove line)
      have same : ∀ index, index.perform (.remove line) = (act index).map Prod.snd := fun _ => rfl
      exact desk.view.updateMarks_eq place same
  | clear category =>
      cases isCall
      rfl

/-- The category whose marks a request may change, if there is one. -/
def Request.category? : Request → Option CategoryId
  | .search _ => some LogView.searchCategory
  | request => request.call?.map Bookmarks.Call.category

omit [PatternCompiler] in
theorem category?_of_call {request : Request} {call : Bookmarks.Call Nat}
    (isCall : request.call? = some call) : request.category? = some call.category := by
  cases request with
  | work _ | adopt _ | read _ | search _ | register _ => cases isCall
  | toggleMark _ | mark _ _ | toggle _ _ | unmark _ _ | clear _ =>
      cases isCall
      rfl

/-- What becomes of the marks and the categories by a request that is served. -/
inductive Served (desk : Desk) : Request → Desk → Prop where
  /-- Work leaves both alone. -/
  | works {action : Action} {after : Desk} (marks : after.view.bookmarks = desk.view.bookmarks)
      (categories : after.view.categories = desk.view.categories) : Served desk (.work action) after
  | calls {request : Request} {call : Bookmarks.Call Nat} {bookmarks : Bookmarks Nat}
      (isCall : request.call? = some call)
      (performs : desk.view.bookmarks.perform call = .ok bookmarks) :
      Served desk request { desk with view := { desk.view with bookmarks } }
  /-- The lines that are found stand in the place of earlier hits. -/
  | searches {text : String} {pattern : Pattern}
      (compiles : Pattern.compile text desk.view.caseSensitive = .ok pattern) :
      Served desk (.search text)
        { desk with view := desk.view.withHits ⟨desk.view.matchingLines pattern⟩ }
  | registers {name : String} :
      Served desk (.register name) { desk with view := (desk.view.registerCategory name).2 }
  | leaves {request : Request} {after : Desk} (noCall : request.call? = none)
      (same : after.view = desk.view) : Served desk request after

/-- What a served request does to the bookmarks is said by `Served`. -/
theorem serve_served (inStep : desk.view.InStep) {request : Request}
    (serves : desk.serve request = .ok after) : desk.Served request after := by
  cases isCall : request.call? with
  | some call =>
      rw [serve_call isCall] at serves
      obtain ⟨bookmarks, performs, rfl⟩ := ok_of_map serves
      exact .calls isCall performs
  | none =>
      replace serves := handle_of_serve serves
      cases request with
      | toggleMark _ | mark _ _ | toggle _ _ | unmark _ _ | clear _ => cases isCall
      | work action =>
          obtain ⟨⟨refreshed, next⟩, performs, rfl⟩ := ok_of_map serves
          obtain ⟨marks, categories⟩ := marks_perform inStep performs
          exact .works marks categories
      | adopt session =>
          cases serves
          exact .leaves rfl rfl
      | read number =>
          obtain ⟨_, _, rfl⟩ := ok_of_map serves
          exact .leaves rfl rfl
      | search text =>
          simp only [handle] at serves
          cases compiles : Pattern.compile text desk.view.caseSensitive with
          | error e =>
              simp only [LogView.search, compiles] at serves
              cases serves
              exact .leaves rfl rfl
          | ok pattern =>
              rw [LogView.search_ok inStep.ascending compiles] at serves
              cases serves
              exact .searches compiles
      | register name =>
          cases serves
          exact .registers

/-- Requests that are no work change nothing but the marks and the categories. -/
theorem Served.frame {request : Request} (served : desk.Served request after)
    (noWork : ∀ action, request ≠ .work action) :
    ∃ categories bookmarks, after.view = { desk.view with categories, bookmarks } := by
  cases served with
  | works _ _ => exact absurd rfl (noWork _)
  | calls _ _ => exact ⟨_, _, rfl⟩
  | searches _ => exact ⟨_, _, rfl⟩
  | registers => exact ⟨_, _, rfl⟩
  | leaves _ same => exact ⟨desk.view.categories, desk.view.bookmarks, same⟩

/-- The marks of a category stay as they are by requests that are on another one. -/
theorem Served.get?_eq {request : Request} (served : desk.Served request after) {category : CategoryId}
    (apart : request.category? ≠ some category) :
    after.view.bookmarks.get? category = desk.view.bookmarks.get? category := by
  cases served with
  | works marks _ => rw [marks]
  | calls isCall performs =>
      rw [category?_of_call isCall] at apart
      exact Bookmarks.perform_other performs fun same => apart (congrArg some same.symm)
  | searches _ =>
      exact Bookmarks.get?_put_of_ne _ _ fun same => apart (congrArg some same.symm)
  | registers => rfl
  | leaves _ same => rw [same]

/-- A served request keeps every category in ascending order. -/
theorem Served.inOrder {request : Request} (served : desk.Served request after)
    (inStep : desk.view.InStep) (inOrder : desk.view.bookmarks.InOrder) :
    after.view.bookmarks.InOrder := by
  cases served with
  | works marks _ =>
      rw [marks]
      exact inOrder
  | calls _ performs => exact inOrder.perform performs
  | searches _ => exact inOrder.put _ (LogView.ascending_matchingLines inStep.ascending _)
  | registers => exact inOrder
  | leaves _ same =>
      rw [same]
      exact inOrder

/-- What every served request keeps, a run of them keeps. -/
theorem serveAll_keeps {Good : Desk → Prop} {requests : List Request}
    (step : ∀ request ∈ requests, ∀ desk next : Desk, desk.view.InStep → desk.Served request next →
      Good desk → Good next)
    (inStep : desk.view.InStep) (good : Good desk) (serves : desk.serveAll requests = .ok after) :
    Good after := by
  let Both (desk : Desk) : Prop := desk.view.InStep ∧ Good desk
  have both : Both desk := ⟨inStep, good⟩
  have kept : Both after := by
    apply foldlM_keeps _ both serves
    rintro request member desk next ⟨inStep, good⟩ serves
    exact ⟨inStep_serve inStep serves,
      step request member desk next inStep (serve_served inStep serves) good⟩
  exact kept.2

/-- Requests leave the marks of all categories in ascending order. -/
theorem inOrder_serveAll {requests : List Request} (inStep : desk.view.InStep)
    (inOrder : desk.view.bookmarks.InOrder) (serves : desk.serveAll requests = .ok after) :
    after.view.bookmarks.InOrder := by
  let Good (desk : Desk) : Prop := desk.view.bookmarks.InOrder
  have good : Good desk := inOrder
  exact serveAll_keeps (fun _ _ _ _ inStep served => served.inOrder inStep) inStep good serves

/-- Requests that are on no marks of a category leave them as they are. -/
theorem get?_serveAll {requests : List Request} (inStep : desk.view.InStep) {category : CategoryId}
    (spared : ∀ request ∈ requests, request.category? ≠ some category)
    (serves : desk.serveAll requests = .ok after) :
    after.view.bookmarks.get? category = desk.view.bookmarks.get? category := by
  let Good (next : Desk) : Prop :=
    next.view.bookmarks.get? category = desk.view.bookmarks.get? category
  have good : Good desk := rfl
  have step : ∀ request ∈ requests, ∀ desk next : Desk, desk.view.InStep →
      desk.Served request next → Good desk → Good next :=
    fun request member _ _ _ served same => (served.get?_eq (spared request member)).trans same
  exact serveAll_keeps step inStep good serves

end Desk

end LogLens
