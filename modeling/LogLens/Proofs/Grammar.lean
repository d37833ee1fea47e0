/-
Module: LogLens.Proofs.Grammar
Purpose: The grammar of filter commands, told by how the parts of a text follow each other.  A text is
  read as a command if it is one by the grammar; every other one is refused, in words that hang on its
  first word.  What was read is written in one form, which is read back.
Main exports: Command.FirstWord, Command.Written, Command.parseChars_of_firstWord,
  Command.parseChars_eq_ok_iff, Command.parse_grammar, Command.parse_rendered
-/
import LogLens.Filter.Command
import LogLens.Proofs.TextParts

namespace LogLens

open Text

/-- The name of a kind asks for it, in whatever letter case. -/
theorem FilterKind.parse_of_small (kind : FilterKind) {word : String}
    (small : smallLetters word = kind.command) : parse word = .ok kind := by
  cases kind with
  | keep => rw [parse, (lowerCase_eq_iff (by decide) word).2 small]; rfl
  | hide => rw [parse, (lowerCase_eq_iff (by decide) word).2 small]; rfl

namespace Command

variable {text word rest : List Char} {command : Command}

/-! ### Names -/

def names : List String :=
  ["filter-in", "filter-out", "enable-filter", "disable-filter", "delete-filter"]

/-- Every command is called by one of the four names. -/
theorem name_mem_names (command : Command) : command.name ∈ names := by
  cases command with
  | add kind pattern => cases kind <;> simp [name, names, FilterKind.command]
  | _ => simp [name, names]

theorem exists_named {name : String} (isName : name ∈ names) (argument : String) :
    ∃ command : Command, command.name = name ∧ command.argument = argument := by
  simp only [names, List.mem_cons, List.not_mem_nil, or_false] at isName
  rcases isName with rfl | rfl | rfl | rfl | rfl
  · exact ⟨.add .keep argument, rfl, rfl⟩
  · exact ⟨.add .hide argument, rfl, rfl⟩
  · exact ⟨.enable argument, rfl, rfl⟩
  · exact ⟨.disable argument, rfl, rfl⟩
  · exact ⟨.delete argument, rfl, rfl⟩

/-- No name of a command has a blank in it, begins with a sign or is written in capitals. -/
theorem names_plain : names.all (fun name => name.toList.all (!isBlank ·) &&
    name.toList.head?.any (fun c => c != ':' && c != '#') &&
    FilterKind.smallLetters name == name && FilterKind.isPlain name) = true := by
  decide +kernel

theorem plain_of_mem_names {name : String} (isName : name ∈ names) :
    (∀ c ∈ name.toList, isBlank c = false) ∧
      (∃ c ∈ name.toList.head?, c ≠ ':' ∧ c ≠ '#') ∧
      FilterKind.smallLetters name = name ∧ FilterKind.isPlain name = true := by
  have plain := List.all_eq_true.1 names_plain name isName
  simpa [Option.any_eq_true, and_assoc] using plain

/-- Whether a word is the name of a command, but for the case of its ASCII letters. -/
def IsName (word : List Char) : Prop := FilterKind.smallLetters (String.ofList word) ∈ names

instance (word : List Char) : Decidable (IsName word) :=
  inferInstanceAs (Decidable (_ ∈ names))

theorem toList_smallLetters (word : List Char) :
    (FilterKind.smallLetters (String.ofList word)).toList = word.map Char.toLower := by
  rw [FilterKind.smallLetters, String.toList_ofList, String.toList_ofList]

theorem smallLetters_name (command : Command) :
    FilterKind.smallLetters (String.ofList command.name.toList) = command.name := by
  rw [String.ofList_toList]
  exact (plain_of_mem_names command.name_mem_names).2.2.1

/-- A name has no blanks in it, whatever its letter case. -/
theorem IsName.solid (isName : IsName word) : ∀ c ∈ word, isBlank c = false := by
  intro c member
  by_contra blank
  have inName : c ∈ (FilterKind.smallLetters (String.ofList word)).toList := by
    rw [toList_smallLetters, List.mem_map]
    exact ⟨c, member, toLower_of_isBlank (eq_true_of_ne_false blank)⟩
  exact blank ((plain_of_mem_names isName).1 c inName)

theorem IsName.exists_cons (isName : IsName word) : ∃ c rest, word = c :: rest ∧ c ≠ ':' := by
  obtain ⟨small, isFirst, notColon, _⟩ := (plain_of_mem_names isName).2.1
  rw [toList_smallLetters, List.head?_map] at isFirst
  obtain ⟨c, known, rfl⟩ := Option.map_eq_some_iff.1 isFirst
  obtain ⟨rest, rfl⟩ := List.head?_eq_some_iff.1 known
  refine ⟨c, rest, rfl, ?_⟩
  rintro rfl
  exact notColon (by decide)

/-- The name of a command introduces it. -/
theorem exists_ofName? (small : FilterKind.smallLetters (String.ofList word) = command.name) :
    ∃ make, ofName? word = some make ∧ make command.argument = command := by
  obtain ⟨_, _, _, plain⟩ := plain_of_mem_names command.name_mem_names
  have lower := (FilterKind.lowerCase_eq_iff plain (String.ofList word)).2 small
  simp only [ofName?, lower]
  cases command with
  | add kind pattern =>
      rw [FilterKind.parse_of_small kind small]
      cases kind <;> exact ⟨_, rfl, rfl⟩
  | _ => exact ⟨_, rfl, rfl⟩

/-- What a word introduces goes by the name that the word is. -/
theorem of_ofName? {make : String → Command} (introduces : ofName? word = some make)
    (argument : String) :
    (make argument).name = FilterKind.smallLetters (String.ofList word) ∧
      (make argument).argument = argument := by
  have named : ∀ {name : String}, FilterKind.isPlain name = true →
      Unicode.lowerCase (String.ofList word) = name →
      FilterKind.smallLetters (String.ofList word) = name :=
    fun plain lower => (FilterKind.lowerCase_eq_iff plain _).1 lower
  unfold ofName? at introduces
  dsimp only at introduces
  split at introduces
  case h_1 lower =>
    have small := named (by decide) lower
    rw [FilterKind.parse_of_small .keep small] at introduces
    cases introduces
    exact ⟨small.symm, rfl⟩
  case h_2 lower =>
    have small := named (by decide) lower
    rw [FilterKind.parse_of_small .hide small] at introduces
    cases introduces
    exact ⟨small.symm, rfl⟩
  case h_3 lower | h_4 lower | h_5 lower =>
    have small := named (by decide) lower
    cases introduces
    exact ⟨small.symm, rfl⟩
  case h_6 => cases introduces

/-- A word is unknown exactly when it is none of the command names in either case. -/
theorem ofName?_eq_none_iff : ofName? word = none ↔ ¬IsName word := by
  constructor
  · intro unknown isName
    obtain ⟨command, named, _⟩ := exists_named isName ""
    obtain ⟨make, introduces, _⟩ := exists_ofName? named.symm
    rw [unknown] at introduces
    cases introduces
  · intro noName
    cases introduces : ofName? word with
    | none => rfl
    | some make =>
        have isName := (make "").name_mem_names
        rw [(of_ofName? introduces "").1] at isName
        exact absurd isName noName

/-! ### The first word -/

/-- A text begins with a word, behind blanks and at most one colon, and some rest follows the word. -/
inductive FirstWord : List Char → List Char → List Char → Prop where
  /-- The word stands right behind the colon; it is empty if a blank or nothing stands there. -/
  | colon {before word rest : List Char} (blank : Blanks before)
      (solid : ∀ c ∈ word, isBlank c = false) (ends : ∀ c ∈ rest.head?, isBlank c = true) :
      FirstWord (before ++ ':' :: (word ++ rest)) word rest
  | plain {before word rest : List Char} (blank : Blanks before) (some : word ≠ [])
      (noColon : ∀ c ∈ word.head?, c ≠ ':') (solid : ∀ c ∈ word, isBlank c = false)
      (ends : ∀ c ∈ rest.head?, isBlank c = true) : FirstWord (before ++ (word ++ rest)) word rest
  /-- There are blanks at most. -/
  | none {text : List Char} (blank : Blanks text) : FirstWord text [] []

/-- Every line is a word, empty perhaps, and what follows from its first blank on. -/
theorem exists_word (line : List Char) : ∃ word rest, line = word ++ rest ∧
    (∀ c ∈ word, isBlank c = false) ∧ ∀ c ∈ rest.head?, isBlank c = true := by
  refine ⟨line.takeWhile (!isBlank ·), line.dropWhile (!isBlank ·),
    List.takeWhile_append_dropWhile.symm, ?_, ?_⟩
  · intro c member
    simpa using List.mem_takeWhile_imp member
  · intro c isFirst
    have stops := List.head?_dropWhile_not (!isBlank ·) line
    rw [Option.mem_def.1 isFirst] at stops
    simpa using stops

theorem exists_firstWord (text : List Char) : ∃ word rest, FirstWord text word rest := by
  have parts : text = text.takeWhile isBlank ++ text.dropWhile isBlank :=
    List.takeWhile_append_dropWhile.symm
  have blank : Blanks (text.takeWhile isBlank) := fun c => List.mem_takeWhile_imp
  have starts := List.head?_dropWhile_not isBlank text
  rw [parts]
  cases known : text.dropWhile isBlank with
  | nil =>
      rw [List.append_nil]
      exact ⟨[], [], .none blank⟩
  | cons c line =>
      have notBlank : isBlank c = false := by simpa [known] using starts
      by_cases isColon : c = ':'
      · obtain ⟨word, rest, rfl, solid, ends⟩ := exists_word line
        rw [isColon]
        exact ⟨word, rest, .colon blank solid ends⟩
      · obtain ⟨word, rest, whole, solid, ends⟩ := exists_word (c :: line)
        rw [whole]
        refine ⟨word, rest, .plain blank ?_ ?_ solid ends⟩
        · rintro rfl
          rw [List.nil_append] at whole
          rw [← whole, List.head?_cons] at ends
          exact absurd (ends c rfl) (by simp [notBlank])
        · intro first isFirst
          have head := congrArg List.head? whole
          rw [List.head?_append, Option.mem_def.1 isFirst] at head
          cases head
          exact isColon

/-- What is read is the first word and what follows it. -/
theorem FirstWord.line_eq (first : FirstWord text word rest) :
    dropColon (trim text) = word ++ trimEnd rest := by
  cases first with
  | @colon before _ _ blank solid ends =>
      have solidLine : ∀ c ∈ ':' :: word, isBlank c = false :=
        List.forall_mem_cons.2 ⟨by decide, solid⟩
      rw [trim, trimStart, List.dropWhile_append_of_pos blank,
        List.dropWhile_cons_of_neg (by decide), ← List.cons_append, trimEnd_append solidLine]
      rfl
  | @plain before _ _ blank some noColon solid ends =>
      obtain ⟨c, more, rfl⟩ := List.exists_cons_of_ne_nil some
      have notBlank : ¬isBlank c = true := by simp [solid c]
      rw [trim, trimStart, List.dropWhile_append_of_pos blank, List.cons_append,
        List.dropWhile_cons_of_neg notBlank, ← List.cons_append, trimEnd_append solid]
      exact dropColon.eq_2 _ fun _ same => noColon c rfl (List.cons.inj same).1
  | none blank =>
      rw [trim_eq_nil_iff.2 blank]
      rfl

theorem FirstWord.solid (first : FirstWord text word rest) : ∀ c ∈ word, isBlank c = false := by
  cases first with
  | colon _ solid _ => exact solid
  | plain _ _ _ solid _ => exact solid
  | none _ => simp

theorem FirstWord.ends (first : FirstWord text word rest) : ∀ c ∈ rest.head?, isBlank c = true := by
  cases first with
  | colon _ _ ends => exact ends
  | plain _ _ _ _ ends => exact ends
  | none _ => simp

/-- The first word and the rest behind it are the two parts that the parser works on. -/
theorem FirstWord.parts_eq (first : FirstWord text word rest) :
    (dropColon (trim text)).takeWhile (!isBlank ·) = word ∧
      (dropColon (trim text)).dropWhile (!isBlank ·) = trimEnd rest := by
  have inWord : ∀ c ∈ word, (!isBlank c) = true := fun c member => by simp [first.solid c member]
  rw [first.line_eq, List.takeWhile_append_of_pos inWord, List.dropWhile_append_of_pos inWord]
  obtain ⟨behind, whole, _⟩ := exists_trimEnd rest
  cases known : trimEnd rest with
  | nil => simp
  | cons c more =>
      have isBlank : isBlank c = true := first.ends c (by rw [whole, known]; rfl)
      simp [isBlank]

/-- Every text has one first word, which may be empty. -/
theorem existsUnique_firstWord (text : List Char) : ∃! word, ∃ rest, FirstWord text word rest := by
  obtain ⟨word, rest, first⟩ := exists_firstWord text
  refine ⟨word, ⟨rest, first⟩, ?_⟩
  rintro other ⟨rest', first'⟩
  exact first'.parts_eq.1.symm.trans first.parts_eq.1

/-- What comes of a text is told by its first word and what follows it. -/
theorem parseChars_of_firstWord (first : FirstWord text word rest) :
    parseChars text = match ofName? word with
      | none => .error (.unknownCommand (String.ofList word))
      | some make =>
        if (trim rest).isEmpty then .error (.missingArgument (String.ofList word))
        else .ok (make (String.ofList (trim rest))) := by
  cases introduces : ofName? word with
  | none => simp only [parseChars, first.parts_eq, introduces]
  | some make => simp only [parseChars, first.parts_eq, introduces, trim_trimEnd]

/-! ### The grammar -/

/-- How a command is written: behind blanks and at most one colon there is its name, in whatever letter
case, then blanks, the argument, and blanks again. -/
inductive Written : List Char → Command → Prop where
  | intro {before colon word gap behind : List Char} {command : Command} (blank : Blanks before)
      (optional : colon = [] ∨ colon = [':'])
      (named : FilterKind.smallLetters (String.ofList word) = command.name)
      (some : gap ≠ []) (blankGap : Blanks gap) (phrase : IsPhrase command.argument.toList)
      (blankBehind : Blanks behind) :
      Written (before ++ (colon ++ (word ++ (gap ++ command.argument.toList ++ behind)))) command

/-- What is written by the grammar is read. -/
theorem Written.parses (written : Written text command) : parseChars text = .ok command := by
  cases written with
  | @intro before colon word gap behind _ blank optional named some blankGap phrase blankBehind =>
      have isName : IsName word := by
        rw [IsName, named]
        exact command.name_mem_names
      obtain ⟨g, more, rfl⟩ := List.exists_cons_of_ne_nil some
      have ends : ∀ c ∈ (g :: more ++ command.argument.toList ++ behind).head?,
          isBlank c = true := by
        intro c isFirst
        cases isFirst
        exact blankGap g (List.mem_cons_self ..)
      have first : FirstWord (before ++ (colon ++ (word ++
          (g :: more ++ command.argument.toList ++ behind)))) word
          (g :: more ++ command.argument.toList ++ behind) := by
        rcases optional with rfl | rfl
        · obtain ⟨c, letters, rfl, notColon⟩ := isName.exists_cons
          refine .plain blank (List.cons_ne_nil c letters) ?_ isName.solid ends
          intro letter isFirst
          cases isFirst
          exact notColon
        · exact .colon blank isName.solid ends
      obtain ⟨make, introduces, makes⟩ := exists_ofName? named
      have core := trim_around blankGap phrase.trim_eq blankBehind
      have notEmpty : command.argument.toList.isEmpty = false := by simpa using phrase.nonempty
      simp only [parseChars_of_firstWord first, introduces, core, notEmpty, String.ofList_toList,
        makes, if_neg Bool.false_ne_true]

/-- Reading accepts what is written by the grammar and nothing else. -/
theorem parseChars_eq_ok_iff : parseChars text = .ok command ↔ Written text command := by
  refine ⟨?_, Written.parses⟩
  intro parses
  obtain ⟨word, rest, first⟩ := exists_firstWord text
  rw [parseChars_of_firstWord first] at parses
  split at parses
  · cases parses
  next make introduces =>
  split at parses
  · cases parses
  next notEmpty =>
  have isCommand : make (String.ofList (trim rest)) = command := Except.ok.inj parses
  obtain ⟨named, argument⟩ := of_ofName? introduces (String.ofList (trim rest))
  rw [isCommand] at named argument
  have core : command.argument.toList = trim rest := by rw [argument, String.toList_ofList]
  have phrase : IsPhrase command.argument.toList := by
    rw [core]
    exact isPhrase_trim (by simpa using notEmpty)
  obtain ⟨gap, behind, whole, blankGap, blankBehind⟩ := exists_trim rest
  rw [← core] at whole
  have some : gap ≠ [] := by
    rintro rfl
    obtain ⟨c, more, known⟩ := List.exists_cons_of_ne_nil phrase.nonempty
    have isFirst : c ∈ rest.head? := by rw [whole, known]; rfl
    have notBlank := phrase.first c (by rw [known]; rfl)
    rw [first.ends c isFirst] at notBlank
    cases notBlank
  cases first with
  | @colon before _ _ blank solid ends =>
      rw [whole]
      exact .intro blank (Or.inr rfl) named.symm some blankGap phrase blankBehind
  | @plain before _ _ blank _ _ solid ends =>
      rw [whole]
      exact .intro blank (Or.inl rfl) named.symm some blankGap phrase blankBehind
  | none blank => exact absurd rfl notEmpty

/-- A name without anything but blanks behind it lacks its argument. -/
theorem parseChars_eq_missing_iff {name : String} :
    parseChars text = .error (.missingArgument name) ↔
      ∃ rest, FirstWord text name.toList rest ∧ IsName name.toList ∧ Blanks rest := by
  constructor
  · intro parses
    obtain ⟨word, rest, first⟩ := exists_firstWord text
    rw [parseChars_of_firstWord first] at parses
    split at parses
    · cases parses
    next make introduces =>
    split at parses
    · cases parses
      rw [String.toList_ofList]
      refine ⟨rest, first, ?_, trim_eq_nil_iff.1 (List.isEmpty_iff.1 ‹_›)⟩
      by_contra noName
      rw [ofName?_eq_none_iff.2 noName] at introduces
      cases introduces
    · cases parses
  · rintro ⟨rest, first, isName, blank⟩
    obtain ⟨command, named, _⟩ := exists_named isName ""
    obtain ⟨make, introduces, _⟩ := exists_ofName? named.symm
    simp only [parseChars_of_firstWord first, introduces, trim_eq_nil_iff.2 blank,
      String.ofList_toList]
    rfl

/-- A first word that is no name is no command, whatever follows. -/
theorem parseChars_eq_unknown_iff {word : String} :
    parseChars text = .error (.unknownCommand word) ↔
      ∃ rest, FirstWord text word.toList rest ∧ ¬IsName word.toList := by
  constructor
  · intro parses
    obtain ⟨letters, rest, first⟩ := exists_firstWord text
    rw [parseChars_of_firstWord first] at parses
    split at parses
    next unknown =>
      cases parses
      rw [String.toList_ofList]
      exact ⟨rest, first, ofName?_eq_none_iff.1 unknown⟩
    next => split at parses <;> cases parses
  · rintro ⟨rest, first, noName⟩
    simp only [parseChars_of_firstWord first, ofName?_eq_none_iff.2 noName, String.ofList_toList]

/-- A text is read as a command if and only if it is that command by the grammar.  Every other text is
refused: for want of an argument if its first word is the name of a command and nothing but blanks
follow, and as an unknown command otherwise.  The first word is named as it was written. -/
theorem parse_grammar (text : String) :
    (∀ command, parse text = .ok command ↔ Written text.toList command) ∧
      (∃! word, ∃ rest, FirstWord text.toList word rest) ∧
      (∀ name, parse text = .error (.missingArgument name) ↔
        ∃ rest, FirstWord text.toList name.toList rest ∧ IsName name.toList ∧ Blanks rest) ∧
      ∀ word, parse text = .error (.unknownCommand word) ↔
        ∃ rest, FirstWord text.toList word.toList rest ∧ ¬IsName word.toList :=
  ⟨fun _ => parseChars_eq_ok_iff, existsUnique_firstWord text.toList,
    fun _ => parseChars_eq_missing_iff, fun _ => parseChars_eq_unknown_iff⟩

/-! ### Commands written in one form -/

theorem toList_render (command : Command) :
    command.render.toList = command.name.toList ++ ' ' :: command.argument.toList := by
  rw [render, String.toList_append, String.toList_append, List.append_assoc]
  rfl

/-- A command whose argument has no blanks around it is written by the grammar. -/
theorem written_render (phrase : IsPhrase command.argument.toList) :
    Written command.render.toList command := by
  have blank : Blanks [' '] := List.forall_mem_singleton.2 (by decide)
  have written : Written
      ([] ++ ([] ++ (command.name.toList ++ ([' '] ++ command.argument.toList ++ [])))) command :=
    .intro nofun (Or.inl rfl) command.smallLetters_name (List.cons_ne_nil ' ' []) blank phrase nofun
  rw [List.append_nil] at written
  rw [toList_render]
  exact written

/-- What is read as an argument has no blanks around it. -/
theorem Written.phrase (written : Written text command) : IsPhrase command.argument.toList := by
  cases written with
  | intro _ _ _ _ _ phrase _ => exact phrase

/-- A command that was read is read again from the form in which it is written, and this form stays as
it is.  So it is with every command whose argument has no blanks around it, and with no other. -/
theorem parse_rendered :
    (∀ (text : String) (command : Command), parse text = .ok command →
      parse command.render = .ok command ∧
        (parse command.render).map render = .ok command.render) ∧
      ∀ command : Command,
        parse command.render = .ok command ↔ IsPhrase command.argument.toList := by
  have reads : ∀ command : Command, IsPhrase command.argument.toList →
      parse command.render = .ok command := fun _ phrase => (written_render phrase).parses
  constructor
  · intro text command parses
    have again := reads command (parseChars_eq_ok_iff.1 parses).phrase
    rw [again]
    exact ⟨rfl, rfl⟩
  · intro command
    exact ⟨fun parses => (parseChars_eq_ok_iff.1 parses).phrase, reads command⟩

/-- The argument looks like a command itself, and goes on behind a line feed with a sharp. -/
theorem parse_rendered_nested :
    let text := "\u00A0:Filter-OUT\u2003:filter-in a\n#b \t"
    let command : Command := .add .hide ":filter-in a\n#b"
    parse text = .ok command ∧ parse command.render = .ok command ∧
      (parse command.render).map render = .ok "filter-out :filter-in a\n#b" := by
  intro text command
  have parses : parse text = .ok command := by decide +kernel
  exact ⟨parses, parse_rendered.1 text command parses⟩

end Command

end LogLens
