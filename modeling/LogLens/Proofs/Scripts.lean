/-
Module: LogLens.Proofs.Scripts
Purpose: Scripts in pieces.  A script that is made of two pieces, with a line feed between them, holds
  the commands of both or has the first error of the pieces; lines keep counting from piece to piece.
  So errors name lines of the text, and lines without a command only move these numbers.
Main exports: ScriptError.moved, inTurn, Skipped, Reports, parseScriptLines_ended, parseScript_pieces
-/
import LogLens.Proofs.CommandText

namespace LogLens

open Text

/-- An error that stands some lines further down. -/
def ScriptError.moved (lines : Nat) (error : ScriptError) : ScriptError :=
  ⟨lines + error.line, error.cause⟩

/-- The commands of two scripts in turn, or the first error of them. -/
def inTurn (first second : Except ScriptError (List Command)) :
    Except ScriptError (List Command) :=
  first.bind fun commands => second.map (commands ++ ·)

theorem inTurn_nil (second : Except ScriptError (List Command)) :
    inTurn (.ok []) second = second := by
  cases second <;> rfl

theorem inTurn_none (first : Except ScriptError (List Command)) :
    inTurn first (.ok []) = first := by
  cases first with
  | error e => rfl
  | ok commands => exact congrArg Except.ok (List.append_nil commands)

/-- Parses in turn can be grouped as one likes, since the first error stops them all. -/
theorem inTurn_assoc (first second third : Except ScriptError (List Command)) :
    inTurn (inTurn first second) third = inTurn first (inTurn second third) := by
  cases first with
  | error e => rfl
  | ok commands =>
      cases second with
      | error e => rfl
      | ok more =>
          cases third with
          | error e => rfl
          | ok last => exact congrArg Except.ok (List.append_assoc commands more last)

/-! ### Single lines -/

/-- A line without a command: there are blanks, and a comment behind them or nothing. -/
def Skipped (line : List Char) : Prop :=
  ∃ before comment, line = before ++ comment ∧ Blanks before ∧ ∀ c ∈ comment.head?, c = '#'

/-- Only blank lines and comments are passed over. -/
theorem isRemark_iff {line : List Char} : isRemark line = true ↔ Skipped line := by
  constructor
  · intro isRemark
    obtain ⟨before, behind, whole, blank, _⟩ := exists_trim line
    unfold LogLens.isRemark at isRemark
    split at isRemark
    next empty =>
      exact ⟨line, [], (List.append_nil line).symm, trim_eq_nil_iff.1 empty, by simp⟩
    next c rest known =>
      refine ⟨before, trim line ++ behind, by rw [← List.append_assoc, ← whole], blank, ?_⟩
      rw [known]
      rintro _ ⟨⟩
      exact of_decide_eq_true isRemark
  · rintro ⟨before, comment, rfl, blank, sharp⟩
    cases comment with
    | nil =>
        rw [List.append_nil, isRemark, trim_eq_nil_iff.2 blank]
    | cons c rest =>
        cases sharp c rfl
        have solid : ∀ c ∈ ['#'], isBlank c = false := List.forall_mem_singleton.2 (by decide)
        rw [isRemark, trim, trimStart, List.dropWhile_append_of_pos blank,
          List.dropWhile_cons_of_neg (by decide), ← List.singleton_append, trimEnd_append solid]
        rfl

/-- What the line of the given number holds: a command or none. -/
def commandsOnLine (number : Nat) (line : List Char) : Except ScriptError (List Command) :=
  if isRemark line then .ok []
  else match Command.parseChars line with
    | .error cause => .error ⟨number, cause⟩
    | .ok command => .ok [command]

/-- A carriage return at the end of a line does not matter. -/
theorem commandsOnLine_dropReturn (number : Nat) (line : List Char) :
    commandsOnLine number (dropReturn line) = commandsOnLine number line := by
  have remark : isRemark (dropReturn line) = isRemark line := by
    simp only [isRemark, trim_dropReturn]
  have reads : Command.parseChars (dropReturn line) = Command.parseChars line := by
    simp only [Command.parseChars, trim_dropReturn]
  rw [commandsOnLine, remark, reads]
  rfl

/-- A line fails with its own number and with the error of its command. -/
theorem commandsOnLine_eq_error_iff {number : Nat} {line : List Char} {error : ScriptError} :
    commandsOnLine number line = .error error ↔ ¬Skipped line ∧ error.line = number ∧
      Command.parseChars line = .error error.cause := by
  rw [← isRemark_iff, commandsOnLine]
  cases isRemark line with
  | true => simp
  | false =>
      cases error with
      | mk position cause =>
          cases Command.parseChars line <;> simp [eq_comm]

/-! ### Lines in turn -/

variable {number : Nat} {texts : List (List Char)}

theorem parseScriptLines_cons (number : Nat) (line : List Char) (rest : List (List Char)) :
    parseScriptLines number (line :: rest) =
      inTurn (commandsOnLine number line) (parseScriptLines (number + 1) rest) := by
  rw [parseScriptLines, commandsOnLine]
  split
  · rw [inTurn_nil]
  · cases Command.parseChars line <;> rfl

/-- A script is parsed front first, the rest being numbered from behind it. -/
theorem parseScriptLines_append (number : Nat) (front rest : List (List Char)) :
    parseScriptLines number (front ++ rest) =
      inTurn (parseScriptLines number front) (parseScriptLines (number + front.length) rest) := by
  induction front generalizing number with
  | nil => exact (inTurn_nil _).symm
  | cons line front ih =>
      rw [List.cons_append, parseScriptLines_cons, ih, parseScriptLines_cons, inTurn_assoc,
        List.length_cons, Nat.add_right_comm]
      rfl

/-- The numbers of the lines count on from the first one. -/
theorem parseScriptLines_moved (lines number : Nat) (texts : List (List Char)) :
    parseScriptLines (lines + number) texts =
      (parseScriptLines number texts).mapError (ScriptError.moved lines) := by
  induction texts generalizing number with
  | nil => rfl
  | cons line rest ih =>
      rw [parseScriptLines_cons, parseScriptLines_cons, Nat.add_assoc, ih, commandsOnLine,
        commandsOnLine]
      split
      · rw [inTurn_nil, inTurn_nil]
      · cases Command.parseChars line with
        | error cause => rfl
        | ok command => cases parseScriptLines (number + 1) rest <;> rfl

/-- An error names one of the lines. -/
theorem line_of_parseScriptLines {error : ScriptError}
    (fails : parseScriptLines number texts = .error error) :
    number ≤ error.line ∧ error.line < number + texts.length := by
  induction texts generalizing number with
  | nil => cases fails
  | cons line rest ih =>
      rw [parseScriptLines_cons] at fails
      rw [List.length_cons]
      cases holds : commandsOnLine number line with
      | error e =>
          rw [holds] at fails
          cases fails
          obtain ⟨_, position, _⟩ := commandsOnLine_eq_error_iff.1 holds
          omega
      | ok commands =>
          rw [holds] at fails
          cases fallsThrough : parseScriptLines (number + 1) rest with
          | error e =>
              rw [fallsThrough] at fails
              cases fails
              have bounds := ih fallsThrough
              omega
          | ok more =>
              rw [fallsThrough] at fails
              cases fails

theorem parseScriptLines_skipped (skipped : ∀ line ∈ texts, Skipped line) :
    parseScriptLines number texts = .ok [] := by
  induction texts generalizing number with
  | nil => rfl
  | cons line rest ih =>
      rw [List.forall_mem_cons] at skipped
      rw [parseScriptLines, if_pos (isRemark_iff.2 skipped.1)]
      exact ih skipped.2

/-! ### Texts in turn -/

variable {front line rest : List Char}

/-- A line without a line break is a script of one line. -/
theorem parseScriptLines_line (oneLine : '\n' ∉ line) :
    parseScriptLines number (lines line) = commandsOnLine number line := by
  by_cases empty : line = []
  · subst empty
    rfl
  · rw [lines_of_line oneLine empty, parseScriptLines_cons]
    exact inTurn_none _

/-- The last line of a script may end or not. -/
theorem parseScriptLines_closed (number : Nat) (text : List Char) :
    parseScriptLines number (lines (text ++ ['\n'])) = parseScriptLines number (lines text) := by
  induction text using induction_on_lines generalizing number with
  | single line oneLine =>
      rw [lines_append oneLine, parseScriptLines_line oneLine, parseScriptLines_cons,
        commandsOnLine_dropReturn]
      exact inTurn_none _
  | more line rest oneLine ih =>
      rw [List.append_assoc, List.cons_append, lines_append oneLine, lines_append oneLine,
        parseScriptLines_cons, parseScriptLines_cons, ih]

/-- What comes behind lines that end is read as a script of its own. -/
theorem parseScriptLines_ended (ended : Ended front) (number : Nat) (rest : List Char) :
    parseScriptLines number (lines (front ++ rest)) =
      inTurn (parseScriptLines number (lines front))
        ((parseScriptLines number (lines rest)).mapError
          (ScriptError.moved (front.count '\n'))) := by
  rw [ended.lines_append, parseScriptLines_append, ended.length_lines, Nat.add_comm,
    parseScriptLines_moved]

/-- The line on which a text stops to be a script, and why: what stands in front of the line is a
script, and the line is neither left out nor a command. -/
inductive Reports : List Char → ScriptError → Prop where
  | intro {front line behind : List Char} {commands : List Command} {cause : CommandError}
      (ended : Ended front) (oneLine : '\n' ∉ line) (ends : ∀ c ∈ behind.head?, c = '\n')
      (reads : parseScript (String.ofList front) = .ok commands) (holds : ¬Skipped line)
      (refused : Command.parse (String.ofList line) = .error cause) :
      Reports (front ++ (line ++ behind)) ⟨front.count '\n' + 1, cause⟩

/-- The error that is reported is the one the parser stops with. -/
theorem Reports.fails {text : List Char} {error : ScriptError} (reports : Reports text error) :
    parseScriptLines 1 (lines text) = .error error := by
  cases reports with
  | @intro front line behind commands cause ended oneLine ends reads holds refused =>
      rw [parseScript, String.toList_ofList] at reads
      rw [Command.parse, String.toList_ofList] at refused
      have stops : commandsOnLine 1 line = .error ⟨1, cause⟩ :=
        commandsOnLine_eq_error_iff.2 ⟨holds, rfl, refused⟩
      have fails : parseScriptLines 1 (lines (line ++ behind)) = .error ⟨1, cause⟩ := by
        cases behind with
        | nil => rw [List.append_nil, parseScriptLines_line oneLine, stops]
        | cons c rest =>
            cases ends c rfl
            rw [lines_append oneLine, parseScriptLines_cons, commandsOnLine_dropReturn, stops]
            rfl
      rw [parseScriptLines_ended ended, reads, fails]
      rfl

/-- A first line that holds no command is reported. -/
theorem reports_first {line behind : List Char} {error : ScriptError} (oneLine : '\n' ∉ line)
    (ends : ∀ c ∈ behind.head?, c = '\n') (fails : commandsOnLine 1 line = .error error) :
    Reports (line ++ behind) error := by
  obtain ⟨holds, position, refused⟩ := commandsOnLine_eq_error_iff.1 fails
  have reports : Reports ([] ++ (line ++ behind)) ⟨0 + 1, error.cause⟩ := by
    refine .intro (fun _ none => nomatch none) oneLine ends rfl holds ?_
    rw [Command.parse, String.toList_ofList]
    exact refused
  rw [Nat.zero_add, ← position] at reports
  exact reports

/-- Lines in front of a text that are read as commands move the line that is reported. -/
theorem Reports.behind {line text : List Char} {error : ScriptError} {commands : List Command}
    (reports : Reports text error) (oneLine : '\n' ∉ line)
    (holds : commandsOnLine 1 line = .ok commands) :
    Reports (line ++ '\n' :: text) (error.moved 1) := by
  cases reports with
  | @intro front stop behind more cause ended oneLineStop ends reads notHeld refused =>
      rw [parseScript, String.toList_ofList] at reads
      have readsFront : parseScript (String.ofList (line ++ '\n' :: front)) =
          .ok (commands ++ more) := by
        rw [parseScript, String.toList_ofList, lines_append oneLine, parseScriptLines_cons,
          commandsOnLine_dropReturn, holds, parseScriptLines_moved 1 1, reads]
        rfl
      have moved := Reports.intro (ended.behind line) oneLineStop ends readsFront notHeld refused
      rw [List.append_assoc, List.count_append, List.count_eq_zero.2 oneLine,
        List.count_cons_self, Nat.zero_add] at moved
      rw [ScriptError.moved, Nat.add_comm 1]
      exact moved

/-- An error of the parser is the first one in the text. -/
theorem reports_of_fails {text : List Char} {error : ScriptError}
    (fails : parseScriptLines 1 (lines text) = .error error) : Reports text error := by
  induction text using induction_on_lines generalizing error with
  | single line oneLine =>
      rw [parseScriptLines_line oneLine] at fails
      have reports : Reports (line ++ []) error := reports_first oneLine nofun fails
      rwa [List.append_nil] at reports
  | more line rest oneLine ih =>
      rw [lines_append oneLine, parseScriptLines_cons, commandsOnLine_dropReturn,
        parseScriptLines_moved 1 1] at fails
      cases holds : commandsOnLine 1 line with
      | error e =>
          rw [holds] at fails
          cases fails
          exact reports_first oneLine (fun _ isFirst => (Option.some.inj isFirst).symm) holds
      | ok commands =>
          cases reads : parseScriptLines 1 (lines rest) with
          | error e =>
              rw [holds, reads] at fails
              cases fails
              exact (ih reads).behind oneLine holds
          | ok more =>
              rw [holds, reads] at fails
              cases fails

/-! ### Scripts in pieces -/

/-- Lines without commands change nothing but the numbers of the lines behind them. -/
theorem parseScriptLines_inserted {remarks : List Char} (ended : Ended front)
    (closed : Ended remarks ∨ rest = []) (skipped : ∀ line ∈ lines remarks, Skipped line) :
    parseScriptLines 1 (lines (front ++ (remarks ++ rest))) =
      (parseScriptLines 1 (lines (front ++ rest))).mapError fun error =>
        if error.line ≤ front.count '\n' then error else error.moved (remarks.count '\n') := by
  have behind : parseScriptLines 1 (lines (remarks ++ rest)) =
      (parseScriptLines 1 (lines rest)).mapError (ScriptError.moved (remarks.count '\n')) := by
    rcases closed with closed | rfl
    · rw [parseScriptLines_ended closed, parseScriptLines_skipped skipped, inTurn_nil]
    · rw [List.append_nil, parseScriptLines_skipped skipped]
      rfl
  rw [parseScriptLines_ended ended, parseScriptLines_ended ended, behind]
  cases fails : parseScriptLines 1 (lines front) with
  | error e =>
      have bounds := line_of_parseScriptLines fails
      rw [ended.length_lines] at bounds
      have inFront : e.line ≤ front.count '\n' := by omega
      simp [inTurn, Except.bind, Except.mapError, inFront]
  | ok commands =>
      cases failsBehind : parseScriptLines 1 (lines rest) with
      | ok more => rfl
      | error e =>
          have bounds := line_of_parseScriptLines failsBehind
          have inRest : ¬front.count '\n' + e.line ≤ front.count '\n' := by omega
          simp [inTurn, Except.bind, Except.map, Except.mapError, ScriptError.moved, inRest,
            Nat.add_left_comm]

/-- A script is read piece by piece: with a line feed between two pieces it has the error of the first
one, or else that of the second one, or else the commands of both, where the lines of the second piece
count on from those of the first.  An error is reported if and only if it stands on the line of the
text that has its number.  Lines without commands, wherever they are put in, change nothing but the
numbers of the lines behind them. -/
theorem parseScript_pieces :
    (∀ first second : String, parseScript (first ++ "\n" ++ second) =
      inTurn (parseScript first) ((parseScript second).mapError
        (ScriptError.moved (1 + first.toList.count '\n')))) ∧
      (∀ (script : String) (error : ScriptError),
        parseScript script = .error error ↔ Reports script.toList error) ∧
      ∀ front remarks rest : String, Ended front.toList → (Ended remarks.toList ∨ rest = "") →
        (∀ line ∈ lines remarks.toList, Skipped line) →
        parseScript (front ++ remarks ++ rest) =
          (parseScript (front ++ rest)).mapError fun error =>
            if error.line ≤ front.toList.count '\n' then error
            else error.moved (remarks.toList.count '\n') := by
  refine ⟨?_, ?_, ?_⟩
  · intro first second
    have lineFeed : "\n".toList = ['\n'] := rfl
    rw [parseScript, String.toList_append, String.toList_append, lineFeed,
      parseScriptLines_ended (ended_concat first.toList), parseScriptLines_closed,
      List.count_append, Nat.add_comm 1]
    rfl
  · intro script error
    exact ⟨reports_of_fails, Reports.fails⟩
  · intro front remarks rest ended closed skipped
    have inserted := parseScriptLines_inserted ended
      (closed.imp_right fun empty => congrArg String.toList empty) skipped
    rw [parseScript, parseScript, String.toList_append, String.toList_append, String.toList_append,
      List.append_assoc]
    exact inserted

/-- A comment and a blank line are put in behind a line that ends with a carriage return, and a word that
is no command stands in the last line. -/
theorem parseScript_pieces_commented :
    let front := "filter-in a\r\n"
    let remarks := "\t# b\r\n \n"
    let rest := "disable-filter a\nbogus"
    parseScript (front ++ rest) = .error ⟨3, .unknownCommand "bogus"⟩ ∧
      parseScript (front ++ remarks ++ rest) = .error ⟨5, .unknownCommand "bogus"⟩ := by
  intro front remarks rest
  have fails : parseScript (front ++ rest) = .error ⟨3, .unknownCommand "bogus"⟩ := by
    decide +kernel
  have ended : Ended front.toList ∧ Ended remarks.toList := by decide +kernel
  have skipped : ∀ line ∈ lines remarks.toList, Skipped line := by
    have remarked : ∀ line ∈ lines remarks.toList, isRemark line = true := by decide +kernel
    exact fun line member => isRemark_iff.1 (remarked line member)
  refine ⟨fails, ?_⟩
  rw [parseScript_pieces.2.2 front remarks rest ended.1 (Or.inl ended.2) skipped, fails]
  decide +kernel

end LogLens
