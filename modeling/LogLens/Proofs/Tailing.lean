/-
Module: LogLens.Proofs.Tailing
Purpose: A log that is loaded piece by piece.  If it is cut where a line ends, then the pieces leave the
  view that the whole log leaves at once, wherever the view is refreshed meanwhile.  Every line that is
  loaded is one line, and none is made to begin a message but the first one.
Main exports: LogView.linesOf_append, LogView.lines_foldl_record, Desk.Action.load, Desk.run_tailed
-/
import LogLens.Proofs.Bookmarking
import LogLens.Proofs.Interleaving
import LogLens.Proofs.TextParts
import LogLens.Regex.Compile

namespace LogLens

open Text

/-! ### The lines of a text -/

namespace LogView

variable {first : String}

/-- Behind an ended piece of text the lines of the next piece start anew. -/
theorem linesOf_append (ended : Ended first.toList) (second : String) :
    linesOf (first ++ second) = linesOf first ++ linesOf second := by
  rw [linesOf, String.toList_append, ended.lines_append, List.map_append]
  rfl

/-- A text that ends a line has one. -/
theorem linesOf_ne_nil (ends : first.toList.getLast? = some '\n') : linesOf first ≠ [] := by
  intro none
  have counted := (ended_of_getLast? ends).length_lines
  rw [List.map_eq_nil_iff.1 none, List.length_nil, eq_comm, List.count_eq_zero] at counted
  exact counted (List.mem_of_getLast? ends)

/-- No line contains a line break. -/
theorem oneLine_of_mem_linesOf (text : String) : ∀ line ∈ linesOf text, '\n' ∉ line.toList := by
  intro line member
  obtain ⟨whole, isLine, rfl⟩ := List.mem_map.1 member
  rw [String.toList_ofList, dropReturn]
  intro inLine
  apply oneLine_of_mem_lines text.toList whole isLine
  split at inLine
  · exact List.mem_of_mem_dropLast inLine
  · exact inLine

/-- Whether a line begins a message by its text. -/
def opens (view : LogView) (text : String) : Bool :=
  view.messageStart.all fun pattern => pattern.isMatch (Utf8.encode text)

theorem fileStart_new [PatternCompiler] {name : String} {messageStart : Option String}
    {caseSensitive : Bool} {view : LogView}
    (isNew : LogView.new name messageStart caseSensitive = .ok view) :
    view.fileStart = false := by
  unfold LogView.new at isNew
  obtain ⟨pattern, _, isNew⟩ := ok_of_bind isNew
  cases isNew
  rfl

/-- The mark of a new log is used up by its first line. -/
theorem fileStart_foldl_record {texts : List String} {view : LogView}
    (usedUp : texts ≠ [] ∨ view.fileStart = false) :
    (texts.foldl record view).fileStart = false := by
  induction texts generalizing view with
  | nil => exact usedUp.resolve_left fun some => some rfl
  | cons text rest ih => exact ih (Or.inr rfl)

/-- Lines that are recorded one after the other.  All but the first one begin a message by their text
alone. -/
theorem lines_foldl_record (texts : List String) (view : LogView) :
    (texts.foldl record view).buffer.lines.toList = view.buffer.lines.toList ++
      texts.mapIdx fun number text =>
        ⟨text, number == 0 && (view.fileStart || view.buffer.isEmpty) || view.opens text⟩ := by
  induction texts generalizing view with
  | nil => simp
  | cons text rest ih =>
      have some : (view.record text).buffer.isEmpty = false := by
        simp [record, LineBuffer.push, LineBuffer.isEmpty]
      have within : (view.record text).fileStart = false := rfl
      have starts : view.startsMessage text =
          ((view.fileStart || view.buffer.isEmpty) || view.opens text) := by
        rw [Bool.or_comm view.fileStart]
        rfl
      have pushed : (view.record text).buffer.lines.toList =
          view.buffer.lines.toList ++ [⟨text, view.startsMessage text⟩] :=
        Array.toList_push
      have same : (view.record text).opens = view.opens := rfl
      rw [List.foldl_cons, ih, pushed, starts, some, within, same, List.mapIdx_cons,
        List.append_assoc, List.singleton_append]
      simp

/-- Text that is cut at a line end can be recorded piece by piece. -/
theorem recordText_append (ended : Ended first.toList) (second : String) (view : LogView) :
    view.recordText (first ++ second) = (view.recordText first).recordText second := by
  rw [recordText, linesOf_append ended, List.foldl_append]
  rfl

/-- Another log that has lines uses up the mark of a new log by itself. -/
theorem recordFile_eq {text : String} (some : linesOf text ≠ []) (view : LogView) :
    view.recordFile text = ({ view with fileStart := true } : LogView).recordText text := by
  have usedUp : (({ view with fileStart := true } : LogView).recordText text).fileStart = false :=
    fileStart_foldl_record (Or.inl some)
  rw [recordFile, ← usedUp]

/-- Of a file cut at a line end only the first piece is a file start. -/
theorem recordFile_append (ends : first.toList.getLast? = some '\n') (second : String)
    (view : LogView) :
    view.recordFile (first ++ second) = (view.recordFile first).recordText second := by
  have ended : Ended first.toList := ended_of_getLast? ends
  have some : linesOf (first ++ second) ≠ [] := by
    rw [linesOf_append ended]
    exact List.append_ne_nil_of_left_ne_nil (linesOf_ne_nil ends) _
  rw [recordFile_eq some, recordFile_eq (linesOf_ne_nil ends), recordText_append ended]

end LogView

/-! ### Loading in pieces -/

namespace Desk

variable {desk after : Desk}

/-- Load a text, as another log or behind what was loaded before. -/
def Action.load (asFile : Bool) (text : String) : Action :=
  if asFile then .appendFile text else .appendText text

theorem Action.loads_load (asFile : Bool) (text : String) : (Action.load asFile text).Loads := by
  cases asFile <;> exact trivial

section

variable [PatternCompiler]

/-- A log that is cut where a line ends comes to the same for the outline. -/
theorem plan_load_append {first : String} (ends : first.toList.getLast? = some '\n')
    (asFile : Bool) (second : String) (desk : Desk) :
    desk.plan (.load asFile (first ++ second)) =
      (desk.plan (.load asFile first)).plan (.appendText second) := by
  cases asFile with
  | true =>
      exact congrArg (Desk.mk · desk.sessions) (LogView.recordFile_append ends second desk.view)
  | false =>
      have ended : Ended first.toList := ended_of_getLast? ends
      exact congrArg (Desk.mk · desk.sessions) (LogView.recordText_append ended second desk.view)

/-- Where the mark of a new log is used up, each line that is loaded begins a message by its text
alone, but for the first one of another log and of the view. -/
theorem lines_plan_load (within : desk.view.fileStart = false) (asFile : Bool) (text : String) :
    (desk.plan (.load asFile text)).view.buffer.lines.toList = desk.view.buffer.lines.toList ++
      (LogView.linesOf text).mapIdx fun number line =>
        ⟨line, number == 0 && (asFile || desk.view.buffer.isEmpty) || desk.view.opens line⟩ := by
  cases asFile with
  | true => exact LogView.lines_foldl_record _ { desk.view with fileStart := true }
  | false =>
      have recorded := LogView.lines_foldl_record (LogView.linesOf text) desk.view
      rw [within] at recorded
      exact recorded

omit [PatternCompiler] in
/-- Loads by themselves are an interleaving without work. -/
theorem Interleaves.loads (loads : List Action) : Interleaves loads [] loads := by
  induction loads with
  | nil => exact .nil
  | cons action rest ih => exact .load action ih

/-- Refreshes between loads make no difference. -/
theorem foldl_plan_refreshed {loads actions : List Action} (refreshed : Interleaves loads [] actions)
    (areLoads : ∀ action ∈ loads, action.Loads) (dirty : desk.view.filters.dirty = 0) :
    actions.foldl plan desk = loads.foldl plan desk := by
  have joins := joins_self dirty
  have noWorks : ∀ action ∈ ([] : List Action), action.OnFilters := List.forall_mem_nil _
  have first := foldl_plan_interleaves refreshed areLoads noWorks joins
  have second := foldl_plan_interleaves (.loads loads) areLoads noWorks joins
  exact first.eq.trans second.eq.symm

/-! ### The mark of a new log -/

/-- No action leaves the mark of a new log standing. -/
theorem fileStart_plan (within : desk.view.fileStart = false) (action : Action) :
    (desk.plan action).view.fileStart = false := by
  rw [plan]
  cases desk.effect action with
  | lines texts => exact LogView.fileStart_foldl_record (Or.inr within)
  | file text => rfl
  | filters _ _ | edits _ | amend _ => exact within

theorem fileStart_serve (inStep : desk.view.InStep) (within : desk.view.fileStart = false)
    {request : Request} (serves : desk.serve request = .ok after) :
    after.view.fileStart = false := by
  cases request with
  | work action =>
      obtain ⟨next, performs, _, same⟩ := perform_kept inStep action
      replace serves := handle_of_serve serves
      simp only [handle, performs] at serves
      cases serves
      have flag : next.outline.view.fileStart = (desk.outline.plan action).view.fileStart :=
        congrArg (fun desk : Desk => desk.view.fileStart) same
      have withinOutline : desk.outline.view.fileStart = false := within
      exact flag.trans (fileStart_plan withinOutline action)
  | _ =>
      obtain ⟨_, _, same⟩ := (serve_served inStep serves).frame (by rintro _ ⟨⟩)
      rw [same]
      exact within

/-- No request leaves the mark of a new log on a view. -/
theorem fileStart_serveAll (inStep : desk.view.InStep) (within : desk.view.fileStart = false)
    {requests : List Request} (serves : desk.serveAll requests = .ok after) :
    after.view.fileStart = false := by
  let Both (desk : Desk) : Prop := desk.view.InStep ∧ desk.view.fileStart = false
  have both : Both desk := ⟨inStep, within⟩
  have kept : Both after := by
    apply foldlM_keeps _ both serves
    rintro request _ desk next ⟨inStep, within⟩ serves
    exact ⟨inStep_serve inStep serves, fileStart_serve inStep within serves⟩
  exact kept.2

/-- A log is cut where a line ends and loaded in two pieces, the first one as another log or not, with
refreshes anywhere.  After a last refresh the view is the one that the whole log leaves, wherever that
one is refreshed.  The lines of the log stand behind the lines that were there, and none of them has a
line feed; by its text alone each begins a message or continues one, but the first line of another log
and of the view begins one in any case. -/
theorem run_tailed {name : String} {messageStart : Option String} {caseSensitive : Bool}
    {view : LogView} (isNew : LogView.new name messageStart caseSensitive = .ok view)
    {requests : List Request} (serves : (Desk.mk view []).serveAll requests = .ok desk)
    {first second : String} (ends : first.toList.getLast? = some '\n') {asFile : Bool}
    {whole pieces : List Action} (one : Interleaves [.load asFile (first ++ second)] [] whole)
    (two : Interleaves [.load asFile first, .appendText second] [] pieces) :
    ∃ after, desk.run (whole ++ [.refresh]) = .ok (true, after) ∧
      desk.run (pieces ++ [.refresh]) = .ok (true, after) ∧
      after.view.buffer.lines.toList = desk.view.buffer.lines.toList ++
        (LogView.linesOf (first ++ second)).mapIdx (fun number line =>
          ⟨line, number == 0 && (asFile || desk.view.buffer.isEmpty) || desk.view.opens line⟩) ∧
      ∀ line ∈ LogView.linesOf (first ++ second), '\n' ∉ line.toList := by
  have starting : (Desk.mk view []).view.InStep := LogView.inStep_new isNew
  have inStep := inStep_serveAll starting serves
  have within : desk.view.fileStart = false := by
    have withinNew : (Desk.mk view []).view.fileStart = false := LogView.fileStart_new isNew
    exact fileStart_serveAll starting withinNew serves
  have dirty : desk.outline.view.filters.dirty = 0 := inStep.tidy.dirty
  have wholly : whole.foldl plan desk.outline = desk.outline.plan (.load asFile (first ++ second)) := by
    apply foldl_plan_refreshed one _ dirty
    simp [Action.loads_load]
  have piecewise : pieces.foldl plan desk.outline =
      (desk.outline.plan (.load asFile first)).plan (.appendText second) := by
    apply foldl_plan_refreshed two _ dirty
    exact List.forall_mem_cons.2
      ⟨Action.loads_load asFile first, List.forall_mem_singleton.2 trivial⟩
  have same : pieces.foldl plan desk.outline = whole.foldl plan desk.outline := by
    rw [wholly, piecewise, plan_load_append ends]
  obtain ⟨after, runsPieces, runsWhole, outline⟩ := run_refresh_of_plan inStep same
  refine ⟨after, runsWhole, runsPieces, ?_, LogView.oneLine_of_mem_linesOf _⟩
  have lines : after.outline.view.buffer.lines.toList =
      (desk.outline.plan (.load asFile (first ++ second))).view.buffer.lines.toList :=
    congrArg (fun desk : Desk => desk.view.buffer.lines.toList) (outline.trans wholly)
  have withinOutline : desk.outline.view.fileStart = false := within
  exact lines.trans (lines_plan_load withinOutline asFile (first ++ second))

end

/-- A filter keeps messages that are open where another log begins.  The first line of the log would
continue the message in front of it if it could, the cut stands within a message, and a refresh
closes it there. -/
theorem run_tailed_continued :
    let requests : List Request := [.work (.appendText "E x\n y"), .work (.apply (.add .keep "c"))]
    let first := " a\r\nE b\n"
    let second := " c\nE d"
    let whole : List Action := [.load true (first ++ second)]
    let pieces : List Action := [.refresh, .load true first, .refresh, .appendText second]
    ∃ desk after, (Desk.mk .sample []).serveAll requests = .ok desk ∧
      desk.run (whole ++ [.refresh]) = .ok (true, after) ∧
      desk.run (pieces ++ [.refresh]) = .ok (true, after) ∧
      after.view.buffer.lines.toList = [⟨"E x", true⟩, ⟨" y", false⟩, ⟨" a", true⟩, ⟨"E b", true⟩,
        ⟨" c", false⟩, ⟨"E d", true⟩] := by
  intro requests first second whole pieces
  have read : ((Desk.mk .sample []).serveAll requests).toOption.map (fun desk =>
      desk.view.buffer.lines.toList ++ (LogView.linesOf (first ++ second)).mapIdx fun number line =>
        ⟨line, number == 0 && (true || desk.view.buffer.isEmpty) || desk.view.opens line⟩) =
      some [⟨"E x", true⟩, ⟨" y", false⟩, ⟨" a", true⟩, ⟨"E b", true⟩, ⟨" c", false⟩,
        ⟨"E d", true⟩] := by
    decide +kernel
  have one : Interleaves [.load true (first ++ second)] [] whole := .loads _
  have two : Interleaves [.load true first, .appendText second] [] pieces :=
    .refresh (.load _ (.refresh (.load _ .nil)))
  cases serves : (Desk.mk .sample []).serveAll requests with
  | error fault =>
      rw [serves] at read
      cases read
  | ok desk =>
      rw [serves] at read
      obtain ⟨after, runsWhole, runsPieces, lines, _⟩ :=
        run_tailed LogView.new_sample serves (by decide) one two
      exact ⟨desk, after, rfl, runsWhole, runsPieces, lines.trans (Option.some.inj read)⟩

end Desk

end LogLens
