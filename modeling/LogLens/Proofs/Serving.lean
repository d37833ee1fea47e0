/-
Module: LogLens.Proofs.Serving
Purpose: A view serves whatever it is asked, in any order, also between an appended line and the
  next refresh.  Its counters, masks and list of lines always agree with each other, and nothing
  fails but a mark on no line and a look at a line that is not there.  In particular no two filters
  are ever found at one place.
Main exports: LogView.Orderly, Desk.Request, Desk.serve, Desk.Refused, Desk.serveAll_orderly
-/
import Mathlib.Data.List.Perm.Subperm
import LogLens.Proofs.Evaluation
import LogLens.Regex.Compile

namespace LogLens

/-! ### An orderly view -/

/-- The counters, the masks and the lines that are seen agree with the lines of a view. -/
structure LogView.Orderly (view : LogView) : Prop where
  /-- No two filters have one place. -/
  places : (view.filters.filters.map Filter.index).Nodup
  /-- There is one mask for each line. -/
  masks : view.engine.state.length = view.lineCount
  /-- Each filter has stamped or holds open all lines. -/
  positions : ∀ filter ∈ view.filters.filters,
    view.engine.state.count filter.index + filter.pending.lines = view.lineCount
  /-- Nothing is left at a place without a filter. -/
  unused : ∀ slot, (∀ filter ∈ view.filters.filters, filter.index ≠ slot) →
    view.engine.state.count slot = 0 ∧ view.engine.state.hits slot = 0 ∧
      ∀ line, (view.engine.state.mask line).has slot = false
  /-- No filter waits to be evaluated anew. -/
  dirty : view.filters.dirty = 0
  ascending : view.visibleLines.Pairwise (· < ·)
  seen : ∀ line ∈ view.visibleLines, line < view.lineCount

namespace LogView

variable {view : LogView}

/-- A view in step has all that its requests need in order not to panic. -/
theorem InStep.orderly (inStep : view.InStep) : view.Orderly where
  places := inStep.tidy.wellFormed.places
  masks := by
    rw [inStep.length_eq, length_source]
  positions filter member := by
    have position := (inStep.reads filter member).position_of
    rw [Column.count_empty, Nat.zero_add, length_source] at position
    exact position
  unused slot free := by
    have unused : slot ∉ view.engine.places := by
      intro taken
      obtain ⟨filter, member, isPlace⟩ := List.mem_map.1 taken
      exact free filter member isPlace
    have empty := inStep.tidy.unused slot unused
    refine ⟨?_, ?_, fun line => ?_⟩
    · rw [← FilterState.count_column, empty, Column.count_empty]
    · rw [← FilterState.hits_column, empty]
    · rw [inStep.tidy.bounded.has_mask, empty]
      rfl
  dirty := inStep.tidy.dirty
  ascending := inStep.ascending
  seen line isSeen := by
    rw [← length_source]
    exact inStep.seen line isSeen

/-- In an orderly view the cursors stand where the alignment is asserted. -/
theorem Orderly.checkAligned (orderly : view.Orderly) : view.engine.checkAligned = .ok () :=
  Engine.checkAligned_ok orderly.positions

/-- Different numbers below a bound are not more than that. -/
theorem length_le_of_ascending {numbers : List Nat} (ascending : numbers.Pairwise (· < ·))
    {bound : Nat} (below : ∀ number ∈ numbers, number < bound) : numbers.length ≤ bound := by
  have distinct : numbers.Nodup := ascending.imp Nat.ne_of_lt
  have subset : numbers ⊆ List.range bound :=
    fun number member => List.mem_range.2 (below number member)
  have fits := (distinct.subperm subset).length_le
  rw [List.length_range] at fits
  exact fits

/-- The number of hidden lines is a true difference. -/
theorem Orderly.length_visible_le (orderly : view.Orderly) :
    view.visibleLines.length ≤ view.lineCount :=
  length_le_of_ascending orderly.ascending orderly.seen

/-- A line has a text exactly when its number is below the count of lines. -/
theorem text_eq_ok_iff (buffer : LineBuffer) (number : Nat) :
    (∃ text, buffer.text number = .ok text) ↔ number < buffer.size := by
  unfold LineBuffer.text LineBuffer.size
  by_cases inRange : number < buffer.lines.size
  · rw [Array.getElem?_eq_getElem inRange]
    simp [inRange]
  · rw [Array.getElem?_eq_none (Nat.le_of_not_lt inRange)]
    simp [inRange]

/-- A view without lines, the messages of which begin with the letter `E`. -/
def sample : LogView where
  buffer := { name := "a.log" }
  messageStart := (Pattern.compile "^E" true).toOption
  caseSensitive := false
  engine := Engine.new "a.log"

theorem new_sample : LogView.new "a.log" (some "^E") false = .ok sample := rfl

end LogView

namespace Desk

/-! ### Requests -/

/-- What can be asked of a view, besides questions that only look at it and are always answered. -/
inductive Request where
  /-- Work on lines, filters and edits. -/
  | work (action : Action)
  /-- Take over an edit, which may have been started on other filters. -/
  | adopt (session : EditSession)
  /-- Look at a line. -/
  | read (number : Nat)
  /-- Set the user's mark on a line, or take it away. -/
  | toggleMark (line : Nat)
  /-- Mark a line in a category. -/
  | mark (category : CategoryId) (line : Nat)
  /-- Mark a line in a category, or unmark it. -/
  | toggle (category : CategoryId) (line : Nat)
  | unmark (category : CategoryId) (line : Nat)
  | clear (category : CategoryId)
  | search (pattern : String)
  | register (category : String)

/-- What is checked before a request: the places of the filters, if the view will look for a free
one. -/
def check (desk : Desk) : Request → Except Fault Unit
  | .work (.beginNew _) => desk.view.filters.checkPlaces
  | .work (.apply (.add _ pattern)) =>
    if (desk.view.filters.find? pattern).isSome then .ok () else desk.view.filters.checkPlaces
  | _ => .ok ()

def handle [PatternCompiler] (desk : Desk) : Request → Except Fault Desk
  | .work action => (desk.perform action).map Prod.snd
  | .adopt session => .ok { desk with sessions := desk.sessions ++ [session] }
  | .read number => (desk.view.buffer.text number).map fun _ => desk
  | .toggleMark line => (desk.view.toggleMark line).map fun (_, view) => { desk with view }
  | .mark category line =>
    (desk.view.updateMarks category (·.insert line)).map fun (_, view) => { desk with view }
  | .toggle category line =>
    (desk.view.updateMarks category (·.toggle line)).map fun (_, view) => { desk with view }
  | .unmark category line =>
    (desk.view.updateMarks category fun index => .ok (index.remove line)).map fun (_, view) =>
      { desk with view }
  | .clear category =>
    .ok { desk with view := { desk.view with bookmarks := desk.view.bookmarks.clear category } }
  | .search pattern =>
    match desk.view.search pattern with
    | .ok (_, view) => .ok { desk with view }
    | .error _ => .ok desk
  | .register category => .ok { desk with view := (desk.view.registerCategory category).2 }

def serve [PatternCompiler] (desk : Desk) (request : Request) : Except Fault Desk := do
  desk.check request
  desk.handle request

/-- Serve requests one after the other, up to the first one that fails. -/
def serveAll [PatternCompiler] (desk : Desk) (requests : List Request) : Except Fault Desk :=
  requests.foldlM serve desk

/-- A request to mark no line, or to look at a line that is not there. -/
def Refused (desk : Desk) : Request → Prop
  | .toggleMark line | .mark _ line | .toggle _ line => line = LineId.noLine
  | .read number => desk.view.lineCount ≤ number
  | _ => False

variable {desk after : Desk}

/-- What is served has passed the check. -/
theorem handle_of_serve [PatternCompiler] {request : Request}
    (serves : desk.serve request = .ok after) : desk.handle request = .ok after := by
  obtain ⟨_, _, handles⟩ := ok_of_bind serves
  exact handles

/-- Once the assertions of a request hold, the request is handled. -/
theorem serve_of_check [PatternCompiler] {request : Request}
    (checks : desk.check request = .ok ()) : desk.serve request = desk.handle request := by
  rw [serve, checks]
  rfl

/-- The check fails for no request where no two filters have one place. -/
theorem check_ok (places : (desk.view.filters.filters.map Filter.index).Nodup) (request : Request) :
    desk.check request = .ok () := by
  have checks : desk.view.filters.checkPlaces = .ok () :=
    Registry.checkPlaces_ok_iff.2 (Or.inr places)
  unfold check
  split
  · exact checks
  · rw [checks, ite_self]
  · rfl

/-- Marks do not touch lines and filters. -/
theorem inStep_updateMarks (inStep : desk.view.InStep) {β : Type} {category : CategoryId}
    {act : BookmarkIndex Nat → Except Fault (β × BookmarkIndex Nat)}
    (updates : (desk.view.updateMarks category act).map
      (fun (_, view) => ({ desk with view } : Desk)) = .ok after) : after.view.InStep := by
  obtain ⟨⟨answer, view⟩, updated, rfl⟩ := ok_of_map updates
  obtain ⟨marks, _, same⟩ := ok_of_map updated
  cases same
  exact inStep

/-- Every request that is served leaves the filters in step. -/
theorem inStep_serve [PatternCompiler] (inStep : desk.view.InStep) {request : Request}
    (serves : desk.serve request = .ok after) : after.view.InStep := by
  replace serves := handle_of_serve serves
  cases request with
  | work action =>
      obtain ⟨next, performs, kept, _⟩ := perform_kept inStep action
      simp only [handle, performs] at serves
      cases serves
      exact kept.inStep
  | adopt session =>
      cases serves
      exact inStep
  | read number =>
      obtain ⟨text, _, rfl⟩ := ok_of_map serves
      exact inStep
  | toggleMark line => exact inStep_updateMarks inStep serves
  | mark category line => exact inStep_updateMarks inStep serves
  | toggle category line => exact inStep_updateMarks inStep serves
  | unmark category line =>
      simp only [handle] at serves
      exact inStep_updateMarks inStep serves
  | clear category =>
      cases serves
      exact inStep
  | search pattern =>
      simp only [handle, LogView.search] at serves
      cases compiles : Pattern.compile pattern desk.view.caseSensitive with
      | error e =>
          rw [compiles] at serves
          cases serves
          exact inStep
      | ok pattern =>
          rw [compiles] at serves
          cases serves
          exact inStep
  | register category =>
      cases serves
      exact inStep

/-- Served requests leave the view in step. -/
theorem inStep_serveAll [PatternCompiler] {requests : List Request} (inStep : desk.view.InStep)
    (serves : desk.serveAll requests = .ok after) : after.view.InStep := by
  let Good (desk : Desk) : Prop := desk.view.InStep
  have good : Good desk := inStep
  apply foldlM_keeps _ good serves
  intro request _ desk next inStep served
  exact inStep_serve inStep served

/-! ### Faults -/

theorem never_fails {α : Type} {result : Except Fault α} {a : α} (succeeds : result = .ok a) :
    (∃ fault, result = .error fault) ↔ False := by
  simp [succeeds]

theorem updateMarks_fails_iff {β : Type} (view : LogView) (category : CategoryId)
    (act : BookmarkIndex Nat → Except Fault (β × BookmarkIndex Nat)) (sessions : List EditSession) :
    (∃ fault, (view.updateMarks category act).map (fun (_, view) => Desk.mk view sessions) =
      .error fault) ↔ ∃ fault, act (view.bookmarks.index category) = .error fault := by
  simp only [LogView.updateMarks, Bookmarks.update]
  cases act (view.bookmarks.index category) with
  | error fault => exact ⟨fun _ => ⟨fault, rfl⟩, fun _ => ⟨fault, rfl⟩⟩
  | ok answer => exact (never_fails rfl).trans (never_fails rfl).symm

/-- Inserting fails for the missing line only. -/
theorem insert_fails_iff (index : BookmarkIndex Nat) (line : Nat) :
    (∃ fault, index.insert line = .error fault) ↔ line = LineId.noLine := by
  unfold BookmarkIndex.insert LineId.isLine
  by_cases none : line = LineId.noLine <;> simp [none]

theorem toggle_fails_iff (index : BookmarkIndex Nat) (line : Nat) :
    (∃ fault, index.toggle line = .error fault) ↔ line = LineId.noLine := by
  unfold BookmarkIndex.toggle LineId.isLine
  by_cases none : line = LineId.noLine
  · simp [none]
  · by_cases marked : index.contains line = true <;> simp [none, marked]

/-- A request fails if it is one that is refused, and no other does. -/
theorem serve_fails_iff [PatternCompiler] (inStep : desk.view.InStep) (request : Request) :
    (∃ fault, desk.serve request = .error fault) ↔ desk.Refused request := by
  rw [serve_of_check (check_ok inStep.tidy.wellFormed.places request)]
  cases request with
  | work action =>
      obtain ⟨next, performs, _⟩ := perform_kept inStep action
      rw [handle, performs]
      exact never_fails rfl
  | adopt session => exact never_fails rfl
  | read number =>
      simp only [handle, Refused]
      rw [← Nat.not_lt, LogView.lineCount, ← LogView.text_eq_ok_iff]
      cases desk.view.buffer.text number with
      | error fault => simp [Except.map]
      | ok text => simp [Except.map]
  | toggleMark line =>
      exact (updateMarks_fails_iff ..).trans (toggle_fails_iff ..)
  | mark category line =>
      exact (updateMarks_fails_iff ..).trans (insert_fails_iff ..)
  | toggle category line =>
      exact (updateMarks_fails_iff ..).trans (toggle_fails_iff ..)
  | unmark category line =>
      simp only [handle]
      exact (updateMarks_fails_iff ..).trans (never_fails rfl)
  | clear category => exact never_fails rfl
  | search pattern =>
      simp only [handle, Refused, iff_false]
      rintro ⟨fault, fails⟩
      split at fails <;> cases fails
  | register category => exact never_fails rfl

/-- In whatever state the requests leave a view, it is orderly: its filters never diverge, the last
line can be amended, there are not more lines to be seen than lines, all of them can be looked at,
and nothing fails but a mark on no line and a look at a line that is not there. -/
theorem serveAll_orderly [PatternCompiler] {name : String} {messageStart : Option String}
    {caseSensitive : Bool} {view : LogView}
    (isNew : LogView.new name messageStart caseSensitive = .ok view)
    {requests : List Request} {desk : Desk}
    (serves : (Desk.mk view []).serveAll requests = .ok desk) :
    desk.view.Orderly ∧ desk.view.engine.checkAligned = .ok () ∧
      (∀ text, ∃ amended, desk.view.amendLast text = .ok (.ok (), amended)) ∧
      desk.view.visibleLines.length ≤ desk.view.lineCount ∧
      (∀ number ∈ desk.view.visibleLines, ∃ text, desk.view.buffer.text number = .ok text) ∧
      ∀ request, (∃ fault, desk.serve request = .error fault) ↔ desk.Refused request := by
  have starting : (Desk.mk view []).view.InStep := LogView.inStep_new isNew
  have inStep := inStep_serveAll starting serves
  have orderly := inStep.orderly
  refine ⟨orderly, orderly.checkAligned, ?_, orderly.length_visible_le, ?_, serve_fails_iff inStep⟩
  · intro text
    obtain ⟨amended, amends, _⟩ := inStep.amendLast text
    exact ⟨amended, amends⟩
  · intro number isSeen
    exact (LogView.text_eq_ok_iff ..).2 (orderly.seen number isSeen)

/-- A filter that hides is edited while a line is appended and another one is marked. -/
theorem serveAll_orderly_marked :
    let requests : List Request := [.work (.appendText "E a\n b\nE c"),
      .work (.apply (.add .hide "b")), .toggleMark 1, .work (.beginEdit "b"), .search "c",
      .work (.preview 0 "d"), .work (.appendLine " d"), .work (.commitEdit 0), .read 3]
    ∃ desk, (Desk.mk .sample []).serveAll requests = .ok desk ∧ desk.view.Orderly ∧
      desk.view.engine.checkAligned = .ok () := by
  intro requests
  have served : ((Desk.mk .sample []).serveAll requests).toOption.isSome = true := by
    decide +kernel
  cases serves : (Desk.mk .sample []).serveAll requests with
  | error fault =>
      rw [serves] at served
      cases served
  | ok desk =>
      obtain ⟨orderly, aligned, _⟩ := serveAll_orderly LogView.new_sample serves
      exact ⟨desk, rfl, orderly, aligned⟩

end Desk

end LogLens
