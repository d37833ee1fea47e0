/-
Module: LogLens.Proofs.Joining
Purpose: A view of several logs.  It shows of each log what a view of that log alone shows, with the
  lines counted on from log to log, and a filter hits in it what it hits in all of them together.
Main exports: viewOf, logLines, shifted, viewOf_joined
-/
import Mathlib.Algebra.Order.Ring.Nat
import LogLens.Proofs.Showing
import LogLens.Regex.Compile

namespace LogLens

/-- A view of the texts of some logs, with commands carried out on it. -/
def viewOf [PatternCompiler] (name : String) (messageStart : Option String) (caseSensitive : Bool)
    (texts : List String) (commands : List Command) : Except RunError LogView := do
  let view ← explain "Invalid message start pattern" .filter
    (LogView.new name messageStart caseSensitive)
  let view ← unfaulted (texts.foldlM LogView.appendFile view)
  view.evaluate commands

/-- A line that is not the first one of its log. -/
def furtherLine (messageStart : Option Pattern) (text : String) : RawLine :=
  ⟨Utf8.encode text, messageStart.all fun pattern => pattern.isMatch (Utf8.encode text)⟩

/-- The lines of a log as filters read them.  The first one begins a message. -/
def logLines (messageStart : Option Pattern) (text : String) : List RawLine :=
  match LogView.linesOf text with
  | [] => []
  | first :: rest => ⟨Utf8.encode first, true⟩ :: rest.map (furtherLine messageStart)

/-- The numbers of the lines that are seen in views that stand one behind the other, the first of
which begins with the given number. -/
def shifted : Nat → List LogView → List Nat
  | _, [] => []
  | offset, view :: rest =>
    view.visibleLines.map (offset + ·) ++ shifted (offset + view.lineCount) rest

/-! ### The lines of several logs -/

namespace LogView

/-- A recorded line joins the source with its bytes and whether it starts a message. -/
theorem source_record (view : LogView) (text : String) :
    (view.record text).buffer.source.lines =
      view.buffer.source.lines ++ [⟨Utf8.encode text, view.startsMessage text⟩] := by
  rw [record, source_push]
  rfl

theorem isEmpty_record (view : LogView) (text : String) :
    (view.record text).buffer.isEmpty = false := by
  simp [record, LineBuffer.push, LineBuffer.isEmpty]

theorem messageStart_foldl_record (texts : List String) (view : LogView) :
    (texts.foldl record view).messageStart = view.messageStart := by
  induction texts generalizing view with
  | nil => rfl
  | cons text rest ih => exact ih (view.record text)

theorem messageStart_recordFile (text : String) (view : LogView) :
    (view.recordFile text).messageStart = view.messageStart :=
  messageStart_foldl_record (linesOf text) { view with fileStart := true }

/-- Behind the first line it is the text that tells where messages begin. -/
theorem source_foldl_record (texts : List String) {view : LogView}
    (some : view.buffer.isEmpty = false) (within : view.fileStart = false) :
    (texts.foldl record view).buffer.source.lines =
      view.buffer.source.lines ++ texts.map (furtherLine view.messageStart) := by
  induction texts generalizing view with
  | nil => simp
  | cons text rest ih =>
      have starts : view.startsMessage text = (furtherLine view.messageStart text).starts := by
        simp [startsMessage, furtherLine, some, within]
      rw [List.foldl_cons, ih (view.isEmpty_record text) rfl, source_record, starts]
      simp [record, furtherLine]

/-- The first line of a log begins a message, whatever stands in front of it. -/
theorem source_recordFile (view : LogView) (text : String) :
    (view.recordFile text).buffer.source.lines =
      view.buffer.source.lines ++ logLines view.messageStart text := by
  let starting : LogView := { view with fileStart := true }
  have recorded : (view.recordFile text).buffer = ((linesOf text).foldl record starting).buffer :=
    rfl
  rw [recorded, logLines]
  cases linesOf text with
  | nil => simp [starting]
  | cons first rest =>
      have starts : starting.startsMessage first = true := by simp [startsMessage, starting]
      rw [List.foldl_cons, source_foldl_record rest (starting.isEmpty_record first) rfl,
        source_record, starts]
      simp [record, starting]

end LogView

/-- The first line of a log always starts a message. -/
theorem begins_logLines (messageStart : Option Pattern) (text : String) :
    ∀ line ∈ (logLines messageStart text).head?, line.starts = true := by
  intro line isFirst
  unfold logLines at isFirst
  cases known : LogView.linesOf text with
  | nil => simp [known] at isFirst
  | cons first rest =>
      rw [known] at isFirst
      cases isFirst
      rfl

/-! ### A view of several logs -/

variable {name : String} {messageStart : Option String} {start : Option Pattern}
  {caseSensitive : Bool} {texts : List String} {commands : List Command} {registry : Registry}

theorem new_ok [PatternCompiler] (compiles : messageStart.mapM (Pattern.compile · true) = .ok start)
    (name : String) (caseSensitive : Bool) :
    ∃ view, LogView.new name messageStart caseSensitive = .ok view ∧
      view.messageStart = start ∧ view.buffer.source.lines = [] := by
  simp only [LogView.new, compiles]
  exact ⟨_, rfl, rfl, rfl⟩

/-- Logs are loaded one behind the other. -/
theorem appendFiles_ok {view : LogView} (unfiltered : view.Unfiltered caseSensitive)
    (texts : List String) :
    ∃ after, texts.foldlM LogView.appendFile view = .ok after ∧ after.Unfiltered caseSensitive ∧
      after.buffer.source.lines =
        view.buffer.source.lines ++ texts.flatMap (logLines view.messageStart) := by
  induction texts generalizing view with
  | nil => exact ⟨view, rfl, unfiltered, by simp⟩
  | cons text rest ih =>
      obtain ⟨next, appends, unfilteredNext, same⟩ := unfiltered.appendFile text
      obtain ⟨after, appendsRest, unfilteredAfter, lines⟩ := ih unfilteredNext
      have starts : next.messageStart = view.messageStart := by
        have flag : next.outline.messageStart = (view.outline.recordFile text).messageStart :=
          congrArg LogView.messageStart same
        exact flag.trans (LogView.messageStart_recordFile text view.outline)
      have linesNext : next.buffer.source.lines =
          view.buffer.source.lines ++ logLines view.messageStart text := by
        have recorded : next.outline.buffer = (view.outline.recordFile text).buffer :=
          congrArg LogView.buffer same
        have buffer : next.buffer = (view.outline.recordFile text).buffer := recorded
        rw [buffer, LogView.source_recordFile]
        rfl
      refine ⟨after, ?_, unfilteredAfter, ?_⟩
      · rw [List.foldlM_cons, appends]
        exact appendsRest
      · rw [lines, linesNext, starts, List.append_assoc, List.flatMap_cons]

/-- A view is built whenever its pattern compiles and its commands are accepted. -/
theorem viewOf_ok [PatternCompiler]
    (compiles : messageStart.mapM (Pattern.compile · true) = .ok start)
    (takes : ({} : Registry).applyAll caseSensitive commands = .ok registry) (name : String)
    (texts : List String) :
    ∃ view, viewOf name messageStart caseSensitive texts commands = .ok view ∧
      Shows registry view (texts.flatMap (logLines start)) := by
  obtain ⟨new, isNew, starts, none⟩ := new_ok compiles name caseSensitive
  obtain ⟨loaded, loads, unfiltered, lines⟩ := appendFiles_ok (LogView.unfiltered_new isNew) texts
  obtain ⟨view, evaluates, settled, same⟩ := unfiltered.evaluate_ok takes
  have shown := shows_of_outline settled same
  rw [lines, none, starts, List.nil_append] at shown
  refine ⟨view, ?_, shown⟩
  rw [viewOf, isNew]
  simp only [explain, Except.mapError, bind, Except.bind, loads, unfaulted]
  exact evaluates

/-- A view that was built shows that its pattern compiles and its commands are accepted. -/
theorem viewOf_takes [PatternCompiler] {view : LogView}
    (builds : viewOf name messageStart caseSensitive texts commands = .ok view) :
    ∃ start registry, messageStart.mapM (Pattern.compile · true) = .ok start ∧
      ({} : Registry).applyAll caseSensitive commands = .ok registry := by
  obtain ⟨new, explains, builds⟩ := ok_of_bind builds
  obtain ⟨loaded, loads, evaluates⟩ := ok_of_bind builds
  have isNew := ok_of_mapError explains
  obtain ⟨after, loadsAll, unfiltered, _⟩ := appendFiles_ok (LogView.unfiltered_new isNew) texts
  have same : after = loaded := Except.ok.inj (loadsAll.symm.trans (ok_of_mapError loads))
  obtain ⟨middle, applies, _⟩ := ok_of_bind evaluates
  obtain ⟨registry, takes⟩ := (same ▸ unfiltered).takes applies
  obtain ⟨start, compiles, _⟩ := ok_of_bind isNew
  exact ⟨start, registry, compiles, takes⟩

/-! ### Logs side by side -/

theorem begins_flatMap (start : Option Pattern) (texts : List String) :
    ∀ line ∈ (texts.flatMap (logLines start)).head?, line.starts = true := by
  intro line isFirst
  rw [List.head?_flatMap] at isFirst
  obtain ⟨text, _, isFirst⟩ := List.exists_of_findSome?_eq_some isFirst
  exact begins_logLines start text line isFirst

/-- No message spans two logs. -/
theorem messages_flatMap (start : Option Pattern) (texts : List String) :
    messages (texts.flatMap (logLines start)) =
      texts.flatMap fun text => messages (logLines start text) := by
  induction texts with
  | nil => rfl
  | cons text rest ih =>
      rw [List.flatMap_cons, messages_append (Or.inr (begins_flatMap start rest)), ih,
        List.flatMap_cons]

/-- The lines of each log are seen as in a view of it alone. -/
theorem shifted_eq {part : String × String → LogView}
    (shown : ∀ log, Shows registry (part log) (logLines start log.2))
    (logs : List (String × String)) (offset : Nat) :
    shifted offset (logs.map part) =
      (shownIn registry.settings ((logs.map Prod.snd).flatMap (logLines start))).map
        (offset + ·) := by
  induction logs generalizing offset with
  | nil => rfl
  | cons log rest ih =>
      have counted : (part log).lineCount = (logLines start log.2).length := by
        rw [← LogView.length_source, (shown log).lines_eq]
      rw [List.map_cons, List.map_cons, List.flatMap_cons,
        shownIn_append _ (Or.inr (begins_flatMap start _)), List.map_append, shifted, ih,
        (shown log).visible_eq, List.map_map, counted]
      simp [Function.comp_def, Nat.add_assoc]

/-- A filter hits in all logs what it hits in each of them. -/
theorem Shows.hits_flatMap {whole : LogView} {part : String × String → LogView}
    {logs : List (String × String)}
    (shown : Shows registry whole ((logs.map Prod.snd).flatMap (logLines start)))
    (shownParts : ∀ log, Shows registry (part log) (logLines start log.2)) {filter : Installed}
    (member : filter ∈ whole.filters.filters) :
    ∃ counts : List Nat, (logs.map part).map (·.hits? filter.id) = counts.map some ∧
      whole.hits? filter.id = some counts.sum := by
  have patterns : whole.filters.filters.map Filter.pattern = registry.filters.map Filter.pattern := by
    rw [← Registry.patterns_unread, shown.unread, Registry.patterns_unread]
  have known : ((registry.filters.map Filter.pattern).find? (·.source == filter.id)).isSome := by
    rw [← patterns, List.find?_isSome]
    exact ⟨filter.pattern, List.mem_map_of_mem member, beq_iff_eq.2 filter.named.symm⟩
  obtain ⟨pattern, found⟩ := Option.isSome_iff_exists.1 known
  refine ⟨logs.map fun log => (messages (logLines start log.2)).countP pattern.meets, ?_, ?_⟩
  · rw [List.map_map, List.map_map]
    apply List.map_congr_left
    intro log _
    rw [Function.comp_apply, (shownParts log).hits_eq, found]
    rfl
  · rw [shown.hits_eq, found, messages_flatMap, Option.map_some, List.countP_flatMap, List.map_map]
    rfl

/-- Where a view of several logs can be built under some commands, so can a view of each of them,
whatever its name.  The masks, the lines that are seen and the messages in it are those of these
views one behind the other, and the hits of a filter are the hits that it has in all of them. -/
theorem viewOf_joined [PatternCompiler] {logs : List (String × String)} {whole : LogView}
    (builds : viewOf name messageStart caseSensitive (logs.map Prod.snd) commands = .ok whole) :
    ∃ parts, List.Forall₂ (fun log part =>
        viewOf log.1 messageStart caseSensitive [log.2] commands = .ok part) logs parts ∧
      whole.engine.state.masks.toList = parts.flatMap (·.engine.state.masks.toList) ∧
      whole.visibleLines = shifted 0 parts ∧
      (∀ filter ∈ whole.filters.filters, ∃ counts : List Nat,
        parts.map (·.hits? filter.id) = counts.map some ∧
          whole.hits? filter.id = some counts.sum) ∧
      messages whole.buffer.source.lines =
        parts.flatMap fun part => messages part.buffer.source.lines := by
  obtain ⟨start, registry, compiles, takes⟩ := viewOf_takes builds
  obtain ⟨view, buildsView, shown⟩ := viewOf_ok compiles takes name (logs.map Prod.snd)
  have isWhole : view = whole := Except.ok.inj (buildsView.symm.trans builds)
  subst isWhole
  choose part buildsPart shownParts using
    fun log : String × String => viewOf_ok compiles takes log.1 [log.2]
  have shownAlone : ∀ log, Shows registry (part log) (logLines start log.2) := by
    intro log
    simpa using shownParts log
  refine ⟨logs.map part, ?_, ?_, ?_, ?_, ?_⟩
  · exact List.forall₂_map_right_iff.2 (List.forall₂_same.2 fun log _ => buildsPart log)
  · rw [shown.masks_eq, messages_flatMap, List.map_flatMap, List.flatMap_map, List.flatMap_map]
    simp only [(shownAlone _).masks_eq]
  · rw [shifted_eq shownAlone logs 0, shown.visible_eq]
    simp
  · exact fun filter member => shown.hits_flatMap shownAlone member
  · rw [shown.lines_eq, messages_flatMap, List.flatMap_map, List.flatMap_map]
    simp only [(shownAlone _).lines_eq]

/-- The first log does not end its last line, the second one is empty, and the first line of the third
one would continue a message if it could. -/
theorem viewOf_joined_unended :
    let logs := [("a.log", "E a\n b\nE c"), ("b.log", ""), ("c.log", " b\nE d\n")]
    let commands : List Command := [.add .keep "c", .add .hide "b"]
    ∃ whole parts, viewOf "3 files" (some "^E") false (logs.map Prod.snd) commands = .ok whole ∧
      List.Forall₂ (fun log part =>
        viewOf log.1 (some "^E") false [log.2] commands = .ok part) logs parts ∧
      whole.visibleLines = [2] ∧ shifted 0 parts = [2] := by
  intro logs commands
  have seen : (viewOf "3 files" (some "^E") false (logs.map Prod.snd) commands).toOption.map
      LogView.visibleLines = some [2] := by
    decide +kernel
  cases builds : viewOf "3 files" (some "^E") false (logs.map Prod.snd) commands with
  | error e =>
      rw [builds] at seen
      cases seen
  | ok whole =>
      rw [builds] at seen
      have isSeen : whole.visibleLines = [2] := Option.some.inj seen
      obtain ⟨parts, areParts, _, joined, _⟩ := viewOf_joined builds
      exact ⟨whole, parts, rfl, areParts, isSeen, joined.symm.trans isSeen⟩

end LogLens
