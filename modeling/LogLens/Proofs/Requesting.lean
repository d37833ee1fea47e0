/-
Module: LogLens.Proofs.Requesting
Purpose: Marks that a command line asks for.  Their numbers fit into 64 bits, and each of them toggles a
  mark of a view that has none.  So a line is marked in the end if its number is given an odd number of
  times, and a number that no line has ends the run.
Main exports: CommandLine.Found.InLimit, Invocation.marks_le, bookmarks_buildView, LogView.lacks,
  markLines_ok, markLines_lacking, Invocation.parse_toggles
-/
import LogLens.CommandLine.Run
import LogLens.Proofs.Bookmarking
import LogLens.Proofs.Exporting
import LogLens.Regex.Compile

namespace LogLens

/-! ### Numbers on a command line -/

namespace CommandLine

/-- The numbers of the lines to mark are not beyond those that can be given. -/
def Found.InLimit (found : Found) : Prop := ∀ n ∈ found.marks, n ≤ numberLimit

/-- A number that was read lies within the limit of its type. -/
theorem number_le {value : String} {n : Nat} (reads : number value = .ok n) : n ≤ numberLimit := by
  unfold number at reads
  dsimp only at reads
  split_ifs at reads with _ fits
  cases reads
  exact fits

namespace Found.InLimit

theorem empty : Found.InLimit {} := List.forall_mem_nil _

theorem note {found after : Found} (inLimit : found.InLimit) {opt : Opt} {values : List String}
    (notes : found.note opt values = .ok after) : after.InLimit := by
  cases opt with
  | help | version => cases notes
  | verbose =>
      cases notes
      exact inLimit
  | caseSensitive | markedOnly =>
      simp only [Found.note] at notes
      split at notes
      · cases notes
      · cases notes
        exact inLimit
  | filterIn | filterOut =>
      cases values with
      | nil => cases notes
      | cons value _ =>
          cases notes
          exact inLimit
  | config | format | color | script | messageStart | search =>
      cases values with
      | nil => cases notes
      | cons value _ =>
          obtain ⟨_, _, notes⟩ := ok_of_bind notes
          cases notes
          exact inLimit
  | mark =>
      cases values with
      | nil => cases notes
      | cons value _ =>
          obtain ⟨n, reads, notes⟩ := ok_of_bind notes
          cases notes
          exact List.forall_mem_append.2 ⟨inLimit, List.forall_mem_singleton.2 (number_le reads)⟩

variable {p after : Progress} (inLimit : p.found.InLimit)
include inLimit

theorem resolve (resolves : p.resolve = .ok after) : after.found.InLimit := by
  unfold Progress.resolve at resolves
  split at resolves
  · cases resolves
    exact inLimit
  · obtain ⟨found, notes, resolves⟩ := ok_of_bind resolves
    cases resolves
    exact inLimit.note notes
  · obtain ⟨logs, _, resolves⟩ := ok_of_bind resolves
    cases resolves
    exact inLimit

theorem react {opt : Opt} {values : List String} (reacts : p.react opt values = .ok after) :
    after.found.InLimit := by
  obtain ⟨resolved, resolves, reacts⟩ := ok_of_bind reacts
  obtain ⟨found, notes, reacts⟩ := ok_of_bind reacts
  cases reacts
  exact (inLimit.resolve resolves).note notes

theorem await {opt : Opt} (awaits : p.await opt = .ok after) : after.found.InLimit := by
  obtain ⟨resolved, resolves, awaits⟩ := ok_of_bind awaits
  have kept := inLimit.resolve resolves
  cases awaits
  exact kept

theorem readLong {scope : Scope} {word : List Char} (reads : p.readLong scope word = .ok after) :
    after.found.InLimit := by
  unfold Progress.readLong at reads
  dsimp only at reads
  split at reads
  · cases reads
  · split at reads
    · exact inLimit.react reads
    · exact inLimit.await reads
    · cases reads
    · exact inLimit.react reads

omit inLimit in
/-- Several options may stand in one word, each read with what those before it have brought. -/
theorem readShort {scope : Scope} {word : List Char} {p : Progress} (inLimit : p.found.InLimit)
    (reads : Progress.readShort scope word p = .ok after) : after.found.InLimit := by
  induction word generalizing p with
  | nil =>
      cases reads
      exact inLimit
  | cons c rest ih =>
      unfold Progress.readShort at reads
      split at reads
      · cases reads
      · split at reads
        · split at reads
          · exact inLimit.await reads
          · exact inLimit.react reads
          · exact inLimit.react reads
        · obtain ⟨next, reacts, reads⟩ := ok_of_bind reads
          exact ih (inLimit.react reacts) reads

theorem readPlain {scope : Scope} {word : String} (reads : p.readPlain scope word = .ok after) :
    after.found.InLimit := by
  unfold Progress.readPlain at reads
  split at reads
  · cases reads
    exact inLimit
  · split at reads
    · split at reads
      · cases reads
        exact inLimit
      · obtain ⟨resolved, resolves, reads⟩ := ok_of_bind reads
        have kept := inLimit.resolve resolves
        cases reads
        exact kept
    · split at reads
      · split at reads <;> cases reads
      · cases reads

/-- No word brings a number beyond those that can be given. -/
theorem readWord {scope : Scope} {word : String} (reads : p.readWord scope word = .ok after) :
    after.found.InLimit := by
  unfold Progress.readWord at reads
  split at reads
  · exact inLimit.readPlain reads
  · split at reads
    · cases reads
      exact inLimit
    · exact inLimit.readLong reads
    · exact inLimit.readShort reads
    · exact inLimit.readPlain reads

end Found.InLimit

/-- A command line that was read names only marks within the limit. -/
theorem inLimit_readCommand {name : Subcommand} {words : List String} {found : Found}
    (reads : readCommand name words = .ok found) : found.InLimit := by
  obtain ⟨p, readsWords, finishes⟩ := ok_of_bind reads
  obtain ⟨resolved, resolves, rfl⟩ := ok_of_map finishes
  let Good (p : Progress) : Prop := p.found.InLimit
  have good : Good {} := Found.InLimit.empty
  have inLimit : Good p :=
    foldlM_keeps (fun _ _ _ _ inLimit => Found.InLimit.readWord inLimit) good readsWords
  exact Found.InLimit.resolve inLimit resolves

end CommandLine

open CommandLine LogView

variable {logs : List String} {filters : FilterOptions} {search : Option String} {marks : List Nat}
  {markedOnly : Bool}

/-- The marks of a viewing task are those found on the command line. -/
theorem CommandLine.marks_of_task {name : Subcommand} {found : Found}
    (isTask : task name found = .ok (.view logs filters search marks markedOnly)) :
    found.marks = marks := by
  unfold task at isTask
  split at isTask
  · cases isTask
  · split at isTask <;> cases isTask
    rfl
  · split at isTask <;> cases isTask

/-- A command line marks no line with a number beyond those that can be given. -/
theorem Invocation.marks_le {words : List String} {environment : Option String} {call : Invocation}
    (parses : Invocation.parse words environment = .ok call)
    (isView : call.request = .view logs filters search marks markedOnly) :
    ∀ n ∈ marks, n ≤ numberLimit := by
  obtain ⟨⟨program, tail⟩, _, parses⟩ := ok_of_bind parses
  cases tail with
  | none =>
      obtain ⟨found, _, parses⟩ := ok_of_bind parses
      obtain ⟨_, _, parses⟩ := ok_of_bind parses
      split at parses <;> cases parses
  | some command =>
      obtain ⟨name, rest⟩ := command
      obtain ⟨inner, reads, parses⟩ := ok_of_bind parses
      obtain ⟨_, _, parses⟩ := ok_of_bind parses
      obtain ⟨request, isTask, parses⟩ := ok_of_bind parses
      obtain ⟨outer, _, parses⟩ := ok_of_bind parses
      obtain ⟨_, _, parses⟩ := ok_of_bind parses
      cases parses
      subst isView
      rw [← marks_of_task isTask]
      exact inLimit_readCommand reads

/-! ### A view that was built has no marks -/

namespace LogView

variable {view after : LogView}

theorem bookmarks_appendFile {text : String} (appends : view.appendFile text = .ok after) :
    after.bookmarks = view.bookmarks := by
  obtain ⟨last, appendsLines, rfl⟩ := ok_of_map appends
  let Good (next : LogView) : Prop := next.bookmarks = view.bookmarks
  have good : Good { view with fileStart := true } := rfl
  have kept : Good last := by
    apply foldlM_keeps _ good appendsLines
    intro text _ view next same appendsLine
    obtain ⟨engine, _, rfl⟩ := ok_of_map appendsLine
    exact same
  exact kept

theorem bookmarks_refresh (refreshes : view.refresh = .ok after) :
    after.bookmarks = view.bookmarks := by
  obtain ⟨engine, _, rfl⟩ := ok_of_map refreshes
  rfl

/-- Applying a command sets no bookmark. -/
theorem bookmarks_apply [PatternCompiler] {command : Command}
    (applies : view.apply command = .ok (.ok after)) : after.bookmarks = view.bookmarks := by
  unfold apply at applies
  split at applies
  · cases applies
  · obtain ⟨refreshed, refreshes, same⟩ := ok_of_map applies
    cases same
    have kept := bookmarks_refresh refreshes
    exact kept

end LogView

/-- A view that was just built has no marks. -/
theorem bookmarks_buildView [PatternCompiler] {files : Files} {config : ViewerConfig}
    {view : LogView} (builds : buildView files logs config filters = .ok view) : view.bookmarks =
    {} := by
  unfold buildView at builds
  obtain ⟨new, isNew, builds⟩ := ok_of_bind builds
  obtain ⟨loaded, loads, builds⟩ := ok_of_bind builds
  obtain ⟨commands, _, builds⟩ := ok_of_bind builds
  obtain ⟨applied, applies, refreshes⟩ := ok_of_bind builds
  let Good (view : LogView) : Prop := view.bookmarks = {}
  have start : Good new := (marks_new (ok_of_mapError isNew)).1
  have unmarked : Good loaded := by
    apply foldlM_keeps _ start loads
    intro path _ view next none loadsLog
    unfold loadLog at loadsLog
    split at loadsLog
    · cases loadsLog
    · exact (bookmarks_appendFile (ok_of_mapError loadsLog)).trans none
  have kept : Good applied := by
    apply foldlM_keeps _ unmarked applies
    intro command _ view next none appliesOne
    obtain ⟨result, answers, explains⟩ := ok_of_bind appliesOne
    cases ok_of_mapError explains
    exact (bookmarks_apply (ok_of_mapError answers)).trans none
  exact (bookmarks_refresh (ok_of_mapError refreshes)).trans kept

/-! ### Marks set one after the other -/

/-- Whether no line has a number, which counts from 1. -/
def LogView.lacks (view : LogView) (n : Nat) : Bool := n = 0 ∨ view.lineCount < n

/-- What is said of a number that no line has. -/
def LogView.lacking (view : LogView) (n : Nat) : String :=
  "Line " ++ toString n ++ " is out of range (1..=" ++ toString view.lineCount ++ ")"

/-- A number that can be given is that of a line, less one. -/
theorem pred_ne_noLine {n : Nat} (fits : n ≤ numberLimit) : n - 1 ≠ (LineId.noLine : Nat) := by
  have noLine : (LineId.noLine : Nat) = numberLimit := rfl
  have positive : 0 < numberLimit := by decide
  omega

/-- A number that some line has toggles the mark of that line. -/
theorem markLines_cons {view : LogView} {marked : Finset Nat}
    (holds : (view.bookmarks.index userCategory).Marks marked) {n : Nat}
    (there : view.lacks n = false) (fits : n ≤ numberLimit) :
    ∃ bookmarks, (bookmarks.index userCategory).Marks
        (BookmarkIndex.Call.onSet marked (.toggle (n - 1))) ∧
      ∀ rest, markLines view (n :: rest) = markLines { view with bookmarks } rest := by
  have isLine : (Bookmarks.Call.within userCategory (.toggle (n - 1))).line? ≠ some LineId.noLine :=
    fun same => pred_ne_noLine fits (Option.some.inj same)
  obtain ⟨bookmarks, performs⟩ := view.bookmarks.exists_perform isLine
  have toggles : (view.toggleMark (n - 1)).map Prod.snd = .ok { view with bookmarks } := by
    rw [view.toggleMark_eq, performs]
    rfl
  obtain ⟨⟨isMarked, next⟩, toggles, rfl⟩ := ok_of_map toggles
  refine ⟨bookmarks, Bookmarks.perform_marks holds performs, fun rest => ?_⟩
  rw [markLines, if_neg (of_decide_eq_false there), toggles]
  rfl

theorem count_pred (positive : ∀ n ∈ marks, 1 ≤ n) (line : Nat) :
    (marks.map (· - 1)).count line = marks.count (line + 1) := by
  rw [List.count, List.count, List.countP_map]
  apply List.countP_congr
  intro n member
  have notZero := positive n member
  simp only [Function.comp_apply, beq_iff_eq]
  omega

/-- Each number toggles a mark. -/
theorem markLines_ok {view : LogView} {marked : Finset Nat}
    (holds : (view.bookmarks.index userCategory).Marks marked)
    (there : ∀ n ∈ marks, view.lacks n = false) (inLimit : ∀ n ∈ marks, n ≤ numberLimit) :
    ∃ bookmarks, markLines view marks = .ok { view with bookmarks } ∧
      (bookmarks.index userCategory).Marks
        ((marks.map fun n => .toggle (n - 1)).foldl BookmarkIndex.Call.onSet marked) := by
  induction marks generalizing view marked with
  | nil => exact ⟨view.bookmarks, rfl, holds⟩
  | cons n rest ih =>
      obtain ⟨thereFirst, there⟩ := List.forall_mem_cons.1 there
      obtain ⟨fits, inLimit⟩ := List.forall_mem_cons.1 inLimit
      obtain ⟨bookmarks, holdsNext, marksRest⟩ := markLines_cons holds thereFirst fits
      rw [marksRest]
      exact ih holdsNext there inLimit

/-- The first number that no line has is an error. -/
theorem markLines_lacking {view : LogView} {marked : Finset Nat}
    (holds : (view.bookmarks.index userCategory).Marks marked) {n : Nat}
    (first : marks.find? view.lacks = some n) (inLimit : ∀ n ∈ marks, n ≤ numberLimit) :
    markLines view marks = .error (.plain (.other (view.lacking n))) := by
  induction marks generalizing view marked with
  | nil => cases first
  | cons m rest ih =>
      obtain ⟨fits, inLimit⟩ := List.forall_mem_cons.1 inLimit
      rw [List.find?_cons] at first
      cases there : view.lacks m with
      | true =>
          rw [there] at first
          cases first
          rw [markLines, if_pos (of_decide_eq_true there)]
          rfl
      | false =>
          rw [there] at first
          obtain ⟨bookmarks, holdsNext, marksRest⟩ := markLines_cons holds there fits
          rw [marksRest]
          exact ih holdsNext first inLimit

/-! ### What is said of a number that no line has -/

theorem not_newline_toString (n : Nat) : '\n' ∉ (toString n).toList := by
  intro member
  rw [Nat.toString_eq_ofList_toDigits, String.toList_ofList] at member
  have isDigit := Nat.isDigit_of_mem_toDigits (by decide) (by decide) member
  cases isDigit

theorem firstLine_of_not_mem {text : String} (one : '\n' ∉ text.toList) : firstLine text = text := by
  have whole : text.toList.takeWhile (· != '\n') = text.toList := by
    rw [List.takeWhile_eq_self_iff]
    rintro c member
    rw [bne_iff_ne]
    rintro rfl
    exact one member
  rw [firstLine, whole, String.ofList_toList]

/-- The message about a missing line takes one line of the output. -/
theorem firstLine_lacking (view : LogView) (n : Nat) : firstLine (view.lacking n) = view.lacking n := by
  apply firstLine_of_not_mem
  simp only [lacking, String.toList_append, List.mem_append, not_or]
  refine ⟨⟨⟨⟨?_, not_newline_toString n⟩, ?_⟩, not_newline_toString _⟩, ?_⟩ <;> decide

/-! ### Runs -/

/-- On a command line to show logs, each number toggles a mark.  Where all numbers are those of lines, a
line is marked in the end if its number was given an odd number of times; so the marked lines are those
that were asked for if and only if no number was given an even number of times.  The first number that
no line has ends the run, and nothing is shown. -/
theorem Invocation.parse_toggles [PatternCompiler] {words : List String}
    {environment : Option String} {call : Invocation}
    (parses : Invocation.parse words environment = .ok call)
    (isView : call.request = .view logs filters search marks markedOnly) {files : Files}
    {config : ViewerConfig} (loads : ViewerConfig.load files call.config = .ok config)
    {view : LogView} (builds : buildView files logs config filters = .ok view) :
    ((∀ n ∈ marks, view.lacks n = false) →
      ∃ bookmarks, markLines view marks = .ok { view with bookmarks } ∧
        let marked := (bookmarks.index userCategory).values
        (∀ line, line ∈ marked ↔ Odd (marks.count (line + 1))) ∧
        ((∀ line, line ∈ marked ↔ line + 1 ∈ marks) ↔ ∀ n ∈ marks, Odd (marks.count n))) ∧
      ∀ n, marks.find? view.lacks = some n →
        run files words environment = { exitCode := 1, error := some (view.lacking n) } := by
  have inLimit := Invocation.marks_le parses isView
  have unmarked : (view.bookmarks.index userCategory).Marks ∅ := by
    rw [bookmarks_buildView builds]
    exact BookmarkIndex.marks_empty
  constructor
  · intro there
    obtain ⟨bookmarks, succeeds, holds⟩ := markLines_ok unmarked there inLimit
    have positive : ∀ n ∈ marks, 1 ≤ n := by
      intro n member
      have notLacking : ¬(n = 0 ∨ view.lineCount < n) := of_decide_eq_false (there n member)
      omega
    have odd : ∀ line, line ∈ (bookmarks.index userCategory).values ↔
        Odd (marks.count (line + 1)) := by
      intro line
      have described := BookmarkIndex.mem_described_toggle (marks.map (· - 1)) line
      rw [List.map_map, count_pred positive] at described
      exact (holds.mem line).trans described
    refine ⟨bookmarks, succeeds, odd, ?_⟩
    simp only [odd]
    constructor
    · intro same n member
      have isNext : n - 1 + 1 = n := Nat.sub_add_cancel (positive n member)
      rw [← isNext]
      exact (same (n - 1)).2 (isNext.symm ▸ member)
    · intro each line
      refine ⟨?_, each (line + 1)⟩
      rintro ⟨half, isOdd⟩
      exact List.count_pos_iff.1 (isOdd ▸ Nat.succ_pos _)
  · intro n first
    have fails := markLines_lacking unmarked first inLimit
    have performs : call.perform files config = .error (.plain (.other (view.lacking n))) := by
      rw [Invocation.perform, isView]
      simp only [builds, fails, bind, Except.bind]
    rw [run, parses]
    simp only [Invocation.execute, loads, explain, Except.mapError, performs, bind, Except.bind]
    exact congrArg (fun text => (⟨1, "", some text⟩ : Outcome)) (firstLine_lacking view n)

/-- One line is asked for three times and another one twice. -/
theorem Invocation.parse_toggles_repeated :
    let files : Files := ⟨[("s", Utf8.encode "a\nb\n")]⟩
    let words := ["view", "s", "--mark", "2", "-k", "1", "-k2", "--mark=2", "--mark", "+1"]
    ∃ call view bookmarks, Invocation.parse words none = .ok call ∧
      buildView files ["s"] {} {} = .ok view ∧
      markLines view [2, 1, 2, 2, 1] = .ok { view with bookmarks } ∧
      1 ∈ (bookmarks.index userCategory).values ∧ 0 ∉ (bookmarks.index userCategory).values := by
  intro files words
  let call : Invocation := ⟨none, .text, .auto, 0, .view ["s"] {} none [2, 1, 2, 2, 1] false⟩
  have isParsed : (Invocation.parse words none).toOption = some call := by decide +kernel
  have parses := ok_of_toOption isParsed
  have reads : files.read? "s" = some (Utf8.encode "a\nb\n") :=
    Files.read?_alone Files.namesDirectory_letter _
  have isBuilt : (buildView files ["s"] {} {}).toOption.map LogView.lineCount = some 2 := by
    simp only [buildView, List.foldlM_cons, loadLog, reads]
    decide +kernel
  obtain ⟨view, builds, lines⟩ := Option.map_eq_some_iff.1 isBuilt
  have builds := ok_of_toOption builds
  obtain ⟨succeeds, _⟩ := Invocation.parse_toggles parses rfl rfl builds
  have there : ∀ n ∈ [2, 1, 2, 2, 1], view.lacks n = false := by
    simp [LogView.lacks, lines]
  obtain ⟨bookmarks, sets, odd, _⟩ := succeeds there
  refine ⟨call, view, bookmarks, parses, builds, sets, ?_, ?_⟩
  · rw [odd]
    decide
  · rw [odd]
    decide

/-- A line that is asked for twice is not marked. -/
theorem Invocation.parse_toggles_undone :
    let files : Files := ⟨[("s", Utf8.encode "a\nb\n")]⟩
    ∃ call view marked,
      Invocation.parse ["view", "s", "--mark", "1", "--mark", "1"] none = .ok call ∧
      call.request = .view ["s"] {} none [1, 1] false ∧
      buildView files ["s"] {} {} = .ok view ∧ view.lineCount = 2 ∧
      markLines view [1, 1] = .ok marked ∧ 0 ∉ (marked.bookmarks.index userCategory).values := by
  intro files
  let call : Invocation := ⟨none, .text, .auto, 0, .view ["s"] {} none [1, 1] false⟩
  have isParsed : (Invocation.parse ["view", "s", "--mark", "1", "--mark", "1"] none).toOption =
      some call := by
    decide +kernel
  have reads : files.read? "s" = some (Utf8.encode "a\nb\n") :=
    Files.read?_alone Files.namesDirectory_letter _
  let outcome := (buildView files ["s"] {} {}).bind fun view =>
    (markLines view [1, 1]).map fun marked =>
      (view.lineCount, (marked.bookmarks.index userCategory).values)
  have comesTo : outcome.toOption = some (2, []) := by
    simp only [outcome, buildView, List.foldlM_cons, loadLog, reads]
    decide +kernel
  obtain ⟨view, builds, sets⟩ := ok_of_bind (ok_of_toOption comesTo)
  obtain ⟨marked, sets, found⟩ := ok_of_map sets
  obtain ⟨lines, values⟩ := Prod.ext_iff.1 found
  dsimp only at lines values
  refine ⟨call, view, marked, ok_of_toOption isParsed, rfl, builds, lines, sets, ?_⟩
  rw [values]
  exact List.not_mem_nil

end LogLens
