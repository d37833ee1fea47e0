/-
Module: LogLens.Proofs.TextParts
Purpose: Texts taken apart: the blanks around what they hold, and their lines.  A text is what stands
  between the blanks around it, and what comes behind a line feed has lines of its own.
Main exports: Text.Blanks, Text.IsPhrase, Text.exists_trim, Text.trim_around, Text.induction_on_lines,
  Text.Ended
-/
import Mathlib.Data.List.DropRight
import LogLens.Text.Blank
import LogLens.Text.Lines

namespace LogLens

namespace Text

variable {line text : List Char}

/-! ### Blanks around a text -/

/-- Nothing but blanks. -/
def Blanks (text : List Char) : Prop := ∀ c ∈ text, isBlank c = true

/-- No blank has a small form. -/
theorem toLower_of_isBlank {c : Char} (blank : isBlank c = true) : c.toLower = c := by
  unfold Char.toLower
  split
  next capital =>
    have first : 65 ≤ c.toNat := capital.1
    have last : c.toNat ≤ 90 := capital.2
    simp only [isBlank, Bool.or_eq_true, Bool.and_eq_true, decide_eq_true_eq, beq_iff_eq] at blank
    omega
  next => rfl

/-- Something that neither begins nor ends with a blank. -/
structure IsPhrase (text : List Char) : Prop where
  nonempty : text ≠ []
  first : ∀ c ∈ text.head?, isBlank c = false
  last : ∀ c ∈ text.getLast?, isBlank c = false

theorem trim_isPrefixOf (text : List Char) : trim text <+: trimStart text :=
  List.rdropWhile_prefix isBlank (trimStart text)

theorem first_of_trim (text : List Char) : ∀ c ∈ (trim text).head?, isBlank c = false := by
  intro c isFirst
  obtain ⟨rest, whole⟩ := List.head?_eq_some_iff.1 isFirst
  obtain ⟨behind, start⟩ := trim_isPrefixOf text
  have notBlank := List.head?_dropWhile_not isBlank text
  rw [← trimStart, ← start, whole] at notBlank
  exact notBlank

theorem last_of_trim (text : List Char) : ∀ c ∈ (trim text).getLast?, isBlank c = false := by
  intro c isLast
  have notEmpty : trim text ≠ [] := by
    rintro empty
    rw [empty] at isLast
    cases isLast
  have notBlank := List.rdropWhile_last_not isBlank (trimStart text) notEmpty
  rw [List.getLast?_eq_some_getLast notEmpty] at isLast
  cases isLast
  exact eq_false_of_ne_true notBlank

/-- A text has no blanks around it if it does not begin or end with one. -/
theorem trim_eq_self_iff : trim text = text ↔
    (∀ c ∈ text.head?, isBlank c = false) ∧ ∀ c ∈ text.getLast?, isBlank c = false := by
  constructor
  · intro trimmed
    rw [← trimmed]
    exact ⟨first_of_trim text, last_of_trim text⟩
  · rintro ⟨first, last⟩
    have start : trimStart text = text := by
      cases text with
      | nil => rfl
      | cons c rest => exact List.dropWhile_cons_of_neg (by simp [first c rfl])
    rw [trim, start]
    apply List.rdropWhile_eq_self_iff.2
    intro notEmpty
    simp [last _ (List.getLast?_eq_some_getLast notEmpty)]

theorem trim_trim (text : List Char) : trim (trim text) = trim text :=
  trim_eq_self_iff.2 ⟨first_of_trim text, last_of_trim text⟩

theorem IsPhrase.trim_eq (phrase : IsPhrase text) : trim text = text :=
  trim_eq_self_iff.2 ⟨phrase.first, phrase.last⟩

/-- A text that is not blank becomes a phrase when it is trimmed. -/
theorem isPhrase_trim (some : trim text ≠ []) : IsPhrase (trim text) where
  nonempty := some
  first := first_of_trim text
  last := last_of_trim text

theorem exists_trimEnd (text : List Char) :
    ∃ behind, text = trimEnd text ++ behind ∧ Blanks behind := by
  refine ⟨(text.reverse.takeWhile isBlank).reverse, ?_, ?_⟩
  · rw [trimEnd, ← List.reverse_append, List.takeWhile_append_dropWhile, List.reverse_reverse]
  · intro c member
    exact List.mem_takeWhile_imp (List.mem_reverse.1 member)

/-- A text is what is left of it by trimming, between blanks. -/
theorem exists_trim (text : List Char) :
    ∃ before behind, text = before ++ trim text ++ behind ∧ Blanks before ∧ Blanks behind := by
  obtain ⟨behind, whole, blank⟩ := exists_trimEnd (trimStart text)
  refine ⟨text.takeWhile isBlank, behind, ?_, fun c => List.mem_takeWhile_imp, blank⟩
  rw [List.append_assoc, trim, ← whole, trimStart, List.takeWhile_append_dropWhile]

/-- Whatever has no blanks around it is left by trimming if it stands between blanks. -/
theorem trim_around {before core behind : List Char} (blank : Blanks before)
    (trimmed : trim core = core) (blankBehind : Blanks behind) :
    trim (before ++ core ++ behind) = core := by
  obtain ⟨first, last⟩ := trim_eq_self_iff.1 trimmed
  have noneBehind : behind.reverse.dropWhile isBlank = [] := by
    apply List.dropWhile_eq_nil_iff.2
    exact fun c member => blankBehind c (List.mem_reverse.1 member)
  rw [trim, trimStart, List.append_assoc, List.dropWhile_append_of_pos blank]
  cases core with
  | nil =>
      rw [List.nil_append, List.dropWhile_eq_nil_iff.2 blankBehind]
      rfl
  | cons c rest =>
      have notBlank : ¬isBlank c = true := by simp [first c rfl]
      rw [trim, trimStart, List.dropWhile_cons_of_neg notBlank] at trimmed
      rw [List.cons_append, List.dropWhile_cons_of_neg notBlank, ← List.cons_append, trimEnd,
        List.reverse_append, List.dropWhile_append, noneBehind]
      exact trimmed

/-- Trimming leaves nothing exactly when the text is blank. -/
theorem trim_eq_nil_iff : trim text = [] ↔ Blanks text := by
  constructor
  · intro empty
    obtain ⟨before, behind, whole, blank, blankBehind⟩ := exists_trim text
    rw [whole, empty, List.append_nil]
    exact fun c member => (List.mem_append.1 member).elim (blank c) (blankBehind c)
  · intro blank
    have around : trim (text ++ [] ++ []) = [] := trim_around blank rfl nofun
    rwa [List.append_nil, List.append_nil] at around

theorem trim_append_blanks (text : List Char) {behind : List Char} (blank : Blanks behind) :
    trim (text ++ behind) = trim text := by
  obtain ⟨before, after, whole, blankBefore, blankAfter⟩ := exists_trim text
  have blankEnd : Blanks (after ++ behind) :=
    fun c member => (List.mem_append.1 member).elim (blankAfter c) (blank c)
  calc trim (text ++ behind)
      = trim (before ++ trim text ++ (after ++ behind)) := by rw [← List.append_assoc, ← whole]
    _ = trim text := trim_around blankBefore (trim_trim text) blankEnd

theorem trim_trimEnd (text : List Char) : trim (trimEnd text) = trim text := by
  obtain ⟨behind, whole, blank⟩ := exists_trimEnd text
  calc trim (trimEnd text)
      = trim (trimEnd text ++ behind) := (trim_append_blanks _ blank).symm
    _ = trim text := by rw [← whole]

/-- Blanks at the end are not part of a word. -/
theorem trimEnd_append {word : List Char} (solid : ∀ c ∈ word, isBlank c = false)
    (rest : List Char) : trimEnd (word ++ rest) = word ++ trimEnd rest := by
  have kept : word.reverse.dropWhile isBlank = word.reverse := by
    cases reversed : word.reverse with
    | nil => rfl
    | cons c others =>
        have member : c ∈ word := List.mem_reverse.1 (reversed ▸ List.mem_cons_self ..)
        exact List.dropWhile_cons_of_neg (by simp [solid c member])
  rw [trimEnd, List.reverse_append, List.dropWhile_append]
  split
  next empty =>
    rw [kept, List.reverse_reverse, trimEnd, List.isEmpty_iff.1 empty, List.reverse_nil,
      List.append_nil]
  next => rw [List.reverse_append, List.reverse_reverse, trimEnd]

/-! ### Lines -/

/-- A carriage return at the end is a blank. -/
theorem dropReturn_of_trim (trimmed : trim line = line) : dropReturn line = line := by
  rw [dropReturn, if_neg]
  intro isReturn
  have notBlank := (trim_eq_self_iff.1 trimmed).2 '\r' isReturn
  exact absurd notBlank (by decide)

/-- A carriage return at the end of a line is trimmed away in any case. -/
theorem trim_dropReturn (line : List Char) : trim (dropReturn line) = trim line := by
  rw [dropReturn]
  split
  next isReturn =>
    obtain ⟨front, rfl⟩ := List.getLast?_eq_some_iff.1 isReturn
    have blank : Blanks ['\r'] := List.forall_mem_singleton.2 (by decide)
    rw [List.dropLast_concat, trim_append_blanks front blank]
  next => rfl

theorem dropReturn_cons {c : Char} (notLast : line ≠ [] ∨ c ≠ '\r') :
    dropReturn (c :: line) = c :: dropReturn line := by
  cases line with
  | nil => simpa [dropReturn] using notLast
  | cons next rest =>
      simp only [dropReturn, List.getLast?_cons_cons, List.dropLast_cons_cons]
      split <;> rfl

/-- A text that goes on behind a line feed. -/
theorem lines_append (oneLine : '\n' ∉ line) (rest : List Char) :
    lines (line ++ '\n' :: rest) = dropReturn line :: lines rest := by
  induction line with
  | nil => rw [List.nil_append, lines, dropReturn]; rfl
  | cons c line ih =>
      rw [List.mem_cons, not_or] at oneLine
      by_cases isReturn : line = [] ∧ c = '\r'
      · obtain ⟨rfl, rfl⟩ := isReturn
        rw [List.cons_append, List.nil_append, lines]
        rfl
      · have notLast : line ≠ [] ∨ c ≠ '\r' := by
          rwa [not_and_or] at isReturn
        rw [List.cons_append, lines, ih oneLine.2, dropReturn_cons notLast, consLine]
        · exact fun same => oneLine.1 same.symm
        · intro after isReturn' same
          cases line with
          | nil => exact isReturn ⟨rfl, isReturn'⟩
          | cons next line =>
              cases same
              exact oneLine.2 (List.mem_cons_self ..)

/-- A text that ends without a line feed. -/
theorem lines_of_line (oneLine : '\n' ∉ line) (some : line ≠ []) : lines line = [line] := by
  induction line with
  | nil => exact absurd rfl some
  | cons c line ih =>
      rw [List.mem_cons, not_or] at oneLine
      rw [lines]
      · cases line with
        | nil => rfl
        | cons next rest =>
            rw [ih oneLine.2 (List.cons_ne_nil next rest)]
            rfl
      · exact fun same => oneLine.1 same.symm
      · intro after _ same
        exact oneLine.2 (same ▸ List.mem_cons_self ..)

/-- No line holds a line feed. -/
theorem oneLine_of_mem_lines (text : List Char) : ∀ line ∈ lines text, '\n' ∉ line := by
  induction text using lines.induct with
  | case1 => simp [lines]
  | case2 rest ih => simpa [lines] using ih
  | case3 rest ih => simpa [lines] using ih
  | case4 c rest notEnd notReturn ih =>
      rw [lines]
      · cases known : lines rest with
        | nil => simpa [consLine] using Ne.symm notEnd
        | cons first others =>
            rw [known, List.forall_mem_cons] at ih
            rw [consLine, List.forall_mem_cons, List.mem_cons, not_or]
            exact ⟨⟨Ne.symm notEnd, ih.1⟩, ih.2⟩
      · exact notEnd
      · exact notReturn

/-- A text is one line, or one line and what comes behind its line feed. -/
theorem induction_on_lines {motive : List Char → Prop} (single : ∀ line, '\n' ∉ line → motive line)
    (more : ∀ line rest, '\n' ∉ line → motive rest → motive (line ++ '\n' :: rest))
    (text : List Char) : motive text := by
  by_cases ends : '\n' ∈ text
  · obtain ⟨line, rest, rfl, oneLine⟩ := List.eq_append_cons_of_mem ends
    exact more line rest oneLine (induction_on_lines single more rest)
  · exact single text ends
termination_by text.length
decreasing_by
  simp [*]
  omega

/-- Behind a line break the lines of the rest start anew. -/
theorem lines_ended (front rest : List Char) :
    lines (front ++ '\n' :: rest) = lines (front ++ ['\n']) ++ lines rest := by
  induction front using induction_on_lines with
  | single line oneLine => rw [lines_append oneLine, lines_append oneLine, lines]; rfl
  | more line front oneLine ih =>
      rw [List.append_assoc, List.append_assoc, List.cons_append, List.cons_append,
        lines_append oneLine, lines_append oneLine, ih, List.cons_append]

/-- Lines that all end.  There may be none. -/
def Ended (text : List Char) : Prop := ∀ c ∈ text.getLast?, c = '\n'

theorem all_getLast?_iff : text.getLast?.all (· == '\n') = true ↔ Ended text := by
  rw [Ended]
  cases text.getLast? <;> simp

instance (text : List Char) : Decidable (Ended text) :=
  decidable_of_iff (text.getLast?.all (· == '\n') = true) all_getLast?_iff

theorem ended_of_getLast? (ends : text.getLast? = some '\n') : Ended text :=
  fun _ isLast => Option.some.inj (isLast.symm.trans ends)

theorem ended_concat (front : List Char) : Ended (front ++ ['\n']) := by
  intro c isLast
  rw [List.getLast?_concat] at isLast
  exact (Option.some.inj isLast).symm

theorem Ended.behind (ended : Ended text) (line : List Char) : Ended (line ++ '\n' :: text) := by
  intro c isLast
  rw [List.getLast?_append_cons] at isLast
  cases text with
  | nil => exact (Option.some.inj isLast).symm
  | cons next rest =>
      rw [List.getLast?_cons_cons] at isLast
      exact ended c isLast

theorem Ended.eq_or (ended : Ended text) : text = [] ∨ ∃ front, text = front ++ ['\n'] := by
  rcases List.eq_nil_or_concat text with rfl | ⟨front, c, rfl⟩
  · exact Or.inl rfl
  · have isEnd : c = '\n' := ended c (by simp)
    exact Or.inr ⟨front, by rw [isEnd, List.concat_eq_append]⟩

/-- What comes behind lines that end has lines of its own. -/
theorem Ended.lines_append (ended : Ended text) (rest : List Char) :
    lines (text ++ rest) = lines text ++ lines rest := by
  rcases ended.eq_or with rfl | ⟨front, rfl⟩
  · rfl
  · rw [List.append_assoc, List.singleton_append, lines_ended]

/-- Each line feed ends one line. -/
theorem Ended.length_lines (ended : Ended text) : (lines text).length = text.count '\n' := by
  rcases ended.eq_or with rfl | ⟨front, rfl⟩
  · rfl
  · clear ended
    induction front using induction_on_lines with
    | single line oneLine =>
        rw [Text.lines_append oneLine, List.count_append, List.count_eq_zero.2 oneLine]
        rfl
    | more line front oneLine ih =>
        have none : line.count '\n' = 0 := List.count_eq_zero.2 oneLine
        rw [List.append_assoc, List.cons_append, Text.lines_append oneLine, List.length_cons, ih]
        simp [none]

end Text

end LogLens
