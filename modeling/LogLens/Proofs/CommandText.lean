/-
Module: LogLens.Proofs.CommandText
Purpose: Commands as they are written and as they are read.  An argument can be read back if it
  stands on one line and has no blanks around it, and whatever is read from a script is such an
  argument.
Main exports: Command.IsArgument, Command.parseChars_render, Command.render_injective,
  Command.argument_of_parseChars, parseScript_scriptText, arguments_of_parseScript
-/
import LogLens.Proofs.Grammar
import LogLens.Proofs.Steps

namespace LogLens

open Text

namespace Command

/-! ### Reading what was written -/

/-- A text that can follow the name of a command: there is something of it, all on one line, with no
blanks around it. -/
structure IsArgument (text : String) : Prop where
  nonempty : text.toList ≠ []
  trimmed : trim text.toList = text.toList
  oneLine : '\n' ∉ text.toList

instance (text : String) : Decidable (IsArgument text) :=
  decidable_of_iff (text.toList ≠ [] ∧ trim text.toList = text.toList ∧ '\n' ∉ text.toList)
    ⟨fun ⟨nonempty, trimmed, oneLine⟩ => ⟨nonempty, trimmed, oneLine⟩,
      fun ⟨nonempty, trimmed, oneLine⟩ => ⟨nonempty, trimmed, oneLine⟩⟩

theorem IsArgument.phrase {text : String} (isArgument : IsArgument text) :
    IsPhrase text.toList := by
  obtain ⟨first, last⟩ := trim_eq_self_iff.1 isArgument.trimmed
  exact ⟨isArgument.nonempty, first, last⟩

/-- A rendered command starts with a letter of its name, never with a blank, a colon or a hash. -/
theorem first_of_render (command : Command) : ∃ c rest, command.render.toList = c :: rest ∧
    isBlank c = false ∧ c ≠ ':' ∧ c ≠ '#' := by
  obtain ⟨notBlank, ⟨c, isFirst, noSign⟩, _⟩ := plain_of_mem_names command.name_mem_names
  obtain ⟨rest, whole⟩ := List.head?_eq_some_iff.1 isFirst
  rw [toList_render, whole]
  exact ⟨c, _, rfl, notBlank c (List.mem_of_mem_head? isFirst), noSign⟩

/-- A written command falls into its name and its argument. -/
theorem parts_of_render (command : Command) :
    command.render.toList.takeWhile (!isBlank ·) = command.name.toList ∧
      command.render.toList.dropWhile (!isBlank ·) = ' ' :: command.argument.toList := by
  have inName : ∀ c ∈ command.name.toList, (!isBlank c) = true := by
    intro c member
    rw [(plain_of_mem_names command.name_mem_names).1 c member, Bool.not_false]
  rw [toList_render]
  constructor
  · rw [List.takeWhile_append_of_pos inName, List.takeWhile_cons_of_neg (by decide),
      List.append_nil]
  · rw [List.dropWhile_append_of_pos inName, List.dropWhile_cons_of_neg (by decide)]

/-- Different commands are written differently. -/
theorem render_injective : Function.Injective render := by
  intro first second same
  have firstParts := parts_of_render first
  have secondParts := parts_of_render second
  rw [same] at firstParts
  have names := firstParts.1.symm.trans secondParts.1
  have arguments : first.argument = second.argument := by
    have tails := firstParts.2.symm.trans secondParts.2
    exact String.toList_inj.1 (List.cons.inj tails).2
  obtain ⟨make, isFirst, makesFirst⟩ := exists_ofName? first.smallLetters_name
  obtain ⟨make', isSecond, makesSecond⟩ := exists_ofName? second.smallLetters_name
  rw [names, isSecond] at isFirst
  cases isFirst
  rw [← makesFirst, ← makesSecond, arguments]

/-- A command with an argument has no blanks around it. -/
theorem trim_render {command : Command} (isArgument : IsArgument command.argument) :
    trim command.render.toList = command.render.toList := by
  obtain ⟨c, rest, known, notBlank, _⟩ := command.first_of_render
  apply trim_eq_self_iff.2
  constructor
  · intro first isFirst
    rw [known] at isFirst
    cases isFirst
    exact notBlank
  · intro last isLast
    apply (trim_eq_self_iff.1 isArgument.trimmed).2
    rw [toList_render, List.getLast?_append_cons] at isLast
    cases ends : command.argument.toList with
    | nil => exact absurd ends isArgument.nonempty
    | cons next more =>
        rw [ends, List.getLast?_cons_cons] at isLast
        exact isLast

/-- A command that is written with an argument is read back. -/
theorem parseChars_render {command : Command} (isArgument : IsArgument command.argument) :
    parseChars command.render.toList = .ok command :=
  (written_render isArgument.phrase).parses

/-- What is read as an argument is one, since the blanks around it are left out. -/
theorem argument_of_parseChars {line : List Char} {command : Command}
    (parses : parseChars line = .ok command) (oneLine : '\n' ∉ line) :
    IsArgument command.argument := by
  have written := parseChars_eq_ok_iff.1 parses
  have phrase := written.phrase
  refine ⟨phrase.nonempty, phrase.trim_eq, ?_⟩
  cases written with
  | intro _ _ _ _ _ _ _ =>
      intro member
      exact oneLine (by simp [member])

/-- A rendered command is never taken for a remark. -/
theorem isRemark_render {command : Command} (isArgument : IsArgument command.argument) :
    isRemark command.render.toList = false := by
  obtain ⟨c, rest, known, _, _, notSharp⟩ := command.first_of_render
  rw [isRemark, trim_render isArgument, known]
  exact decide_eq_false notSharp

/-- A rendered command stays on one line of a script. -/
theorem oneLine_render {command : Command} (isArgument : IsArgument command.argument) :
    '\n' ∉ command.render.toList := by
  rw [toList_render, List.mem_append, List.mem_cons, not_or, not_or]
  refine ⟨?_, by decide, isArgument.oneLine⟩
  intro inName
  have notBlank := (plain_of_mem_names command.name_mem_names).1 _ inName
  exact absurd notBlank (by decide)

end Command

/-! ### Scripts -/

/-- Texts as a file, each of them on a line of its own. -/
def scriptText (texts : List String) : String := String.join (texts.map (· ++ "\n"))

theorem toList_scriptText_cons (text : String) (texts : List String) :
    (scriptText (text :: texts)).toList = text.toList ++ '\n' :: (scriptText texts).toList := by
  simp [scriptText, String.toList_join]

/-- Commands that have arguments are read back line by line. -/
theorem parseScriptLines_scriptText {commands : List Command}
    (areArguments : ∀ command ∈ commands, Command.IsArgument command.argument) (number : Nat) :
    parseScriptLines number (lines (scriptText (commands.map Command.render)).toList) =
      .ok commands := by
  induction commands generalizing number with
  | nil => rfl
  | cons command rest ih =>
      rw [List.forall_mem_cons] at areArguments
      obtain ⟨isArgument, areRest⟩ := areArguments
      rw [List.map_cons, toList_scriptText_cons, lines_append (Command.oneLine_render isArgument),
        dropReturn_of_trim (Command.trim_render isArgument), parseScriptLines,
        Command.isRemark_render isArgument, if_neg Bool.false_ne_true,
        Command.parseChars_render isArgument, ih areRest]
      rfl

/-- A script holds the commands that were written to it if these have arguments. -/
theorem parseScript_scriptText {commands : List Command}
    (areArguments : ∀ command ∈ commands, Command.IsArgument command.argument) :
    parseScript (scriptText (commands.map Command.render)) = .ok commands :=
  parseScriptLines_scriptText areArguments 1

/-- The last line of a script need not end. -/
theorem lines_joined {commands : List Command}
    (areArguments : ∀ command ∈ commands, Command.IsArgument command.argument) :
    lines ("\n".intercalate (commands.map Command.render)).toList =
      lines (scriptText (commands.map Command.render)).toList := by
  induction commands with
  | nil => rfl
  | cons command rest ih =>
      rw [List.forall_mem_cons] at areArguments
      obtain ⟨isArgument, areRest⟩ := areArguments
      have oneLine := Command.oneLine_render isArgument
      rw [List.map_cons, toList_scriptText_cons, lines_append oneLine,
        dropReturn_of_trim (Command.trim_render isArgument)]
      cases rest with
      | nil =>
          rw [List.map_nil, String.intercalate_singleton, lines_of_line oneLine]
          · rfl
          · simp [Command.toList_render]
      | cons next others =>
          rw [← ih areRest, List.map_cons, String.intercalate_cons_cons, String.toList_append,
            String.toList_append, List.append_assoc]
          exact (lines_append oneLine _).trans
            (congrArg (· :: _) (dropReturn_of_trim (Command.trim_render isArgument)))

/-- Commands that have arguments are read back from between line feeds. -/
theorem parseScript_joined {commands : List Command}
    (areArguments : ∀ command ∈ commands, Command.IsArgument command.argument) :
    parseScript ("\n".intercalate (commands.map Command.render)) = .ok commands := by
  rw [parseScript, lines_joined areArguments]
  exact parseScript_scriptText areArguments

/-- What is read from lines has arguments. -/
theorem arguments_of_parseScriptLines {number : Nat} {texts : List (List Char)}
    (oneLine : ∀ line ∈ texts, '\n' ∉ line) {commands : List Command}
    (parses : parseScriptLines number texts = .ok commands) :
    ∀ command ∈ commands, Command.IsArgument command.argument := by
  induction texts generalizing number commands with
  | nil =>
      cases parses
      simp
  | cons line rest ih =>
      rw [List.forall_mem_cons] at oneLine
      rw [parseScriptLines] at parses
      split at parses
      · exact ih oneLine.2 parses
      · split at parses
        · cases parses
        next command isCommand =>
        obtain ⟨others, parsesRest, rfl⟩ := ok_of_map parses
        rw [List.forall_mem_cons]
        exact ⟨Command.argument_of_parseChars isCommand oneLine.1, ih oneLine.2 parsesRest⟩

/-- Whatever a script holds has arguments. -/
theorem arguments_of_parseScript {script : String} {commands : List Command}
    (parses : parseScript script = .ok commands) :
    ∀ command ∈ commands, Command.IsArgument command.argument :=
  arguments_of_parseScriptLines (oneLine_of_mem_lines script.toList) parses

end LogLens
