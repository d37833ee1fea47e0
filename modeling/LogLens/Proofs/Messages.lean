/-
Module: LogLens.Proofs.Messages
Purpose: The messages that lines form, and what a test decides on each line by the message it is in.
  Lines that begin a message of their own and those in front of them form messages apart.  The lines
  of the last message share a decision, and those before it are decided without it.
Main exports: messageOf, messages, decision, decisions, LastMessage, LastMessage.unique, lastStart,
  messages_append, decisions_append
-/
import Mathlib.Data.List.Induction
import Mathlib.Data.List.TakeWhile
import LogLens.Filter.Engine

namespace LogLens

/-- The number of the line that begins the message of a line: the last one up to it that is said to
begin a message, or else the first line of all. -/
def messageStart (lines : List RawLine) : Nat → Nat
  | 0 => 0
  | line + 1 =>
    if (lines[line + 1]?).any (·.starts) then line + 1 else messageStart lines line

/-- The number of the next line behind a line that begins a message, or else the number of lines. -/
def messageStop (lines : List RawLine) (line : Nat) : Nat :=
  line + 1 + ((lines.drop (line + 1)).takeWhile fun next => !next.starts).length

def messageOf (lines : List RawLine) (line : Nat) : List RawLine :=
  (lines.take (messageStop lines line)).drop (messageStart lines line)

/-- What a test decides on a line: whether some line of its message passes. -/
def decision (test : Bytes → Bool) (lines : List RawLine) (line : Nat) : Bool :=
  (messageOf lines line).any fun member => test member.bytes

/-- What a test decides on all lines. -/
def decisions (test : Bytes → Bool) (lines : List RawLine) : List Bool :=
  (List.range lines.length).map (decision test lines)

/-- What a filter notes of a message whose lines it tests. -/
def Message.of (test : Bytes → Bool) (lines : List RawLine) : Message :=
  ⟨lines.any fun line => test line.bytes, lines.length⟩

@[simp] theorem Message.lines_of (test : Bytes → Bool) (lines : List RawLine) :
    (Message.of test lines).lines = lines.length := rfl

/-- The lines of the second list are one message behind those of the first.  There may be none. -/
structure LastMessage (closed message : List RawLine) : Prop where
  begins : closed = [] ∨ ∀ line ∈ message.head?, line.starts = true
  continues : ∀ line ∈ message.tail, line.starts = false

theorem LastMessage.nil (closed : List RawLine) : LastMessage closed [] where
  begins := Or.inr fun _ none => nomatch none
  continues := fun _ none => nomatch none

theorem LastMessage.single {closed : List RawLine} {line : RawLine}
    (begins : closed = [] ∨ line.starts = true) : LastMessage closed [line] where
  begins := begins.imp_right fun starts member isFirst => by
    cases isFirst
    exact starts
  continues := fun _ none => nomatch none

/-- A line that begins no message continues the open one. -/
theorem LastMessage.snoc {closed message : List RawLine} (last : LastMessage closed message)
    (opened : message ≠ []) {line : RawLine} (starts : line.starts = false) :
    LastMessage closed (message ++ [line]) := by
  obtain ⟨first, rest, rfl⟩ := List.exists_cons_of_ne_nil opened
  refine ⟨last.begins, ?_⟩
  intro member inTail
  rcases List.mem_append.1 (show member ∈ rest ++ [line] from inTail) with inRest | isLine
  · exact last.continues member inRest
  · rw [List.mem_singleton.1 isLine]
    exact starts

/-- No message begins inside the last one. -/
theorem LastMessage.starts_nowhere {closed inner message : List RawLine} {line : RawLine}
    (last : LastMessage closed (inner ++ line :: message)) (inside : inner ≠ []) :
    line.starts = false := by
  obtain ⟨first, rest, rfl⟩ := List.exists_cons_of_ne_nil inside
  apply last.continues
  exact List.mem_append_right rest (List.mem_cons_self ..)

/-- Lines have one last message. -/
theorem LastMessage.unique {closed closed' message message' : List RawLine}
    (last : LastMessage closed message) (last' : LastMessage closed' message')
    (some : message ≠ []) (some' : message' ≠ []) (whole : closed ++ message = closed' ++ message') :
    message = message' := by
  -- Where one message were longer, the other would begin inside it.
  have noShorter : ∀ {closed inner message : List RawLine}, LastMessage closed (inner ++ message) →
      LastMessage (closed ++ inner) message → message ≠ [] → inner = [] := by
    intro closed inner message last shorter some
    by_contra inside
    obtain ⟨line, rest, rfl⟩ := List.exists_cons_of_ne_nil some
    have begins := shorter.begins.resolve_left (List.append_ne_nil_of_right_ne_nil closed inside)
    have starts := begins line rfl
    rw [last.starts_nowhere inside] at starts
    exact Bool.false_ne_true starts
  rcases List.append_eq_append_iff.1 whole with ⟨inner, rfl, rfl⟩ | ⟨inner, rfl, rfl⟩
  · rw [noShorter last last' some', List.nil_append]
  · rw [noShorter last' last some, List.nil_append]

/-! ### Lines behind others -/

section Behind

variable {closed rest : List RawLine} {line : Nat}

/-- Lines behind a line do not change where its message starts. -/
theorem messageStart_append_left (rest : List RawLine) (inClosed : line < closed.length) :
    messageStart (closed ++ rest) line = messageStart closed line := by
  induction line with
  | zero => rfl
  | succ line ih =>
      rw [messageStart, messageStart, List.getElem?_append_left inClosed, ih (by omega)]

/-- A closed message is not made longer by the lines that follow. -/
theorem messageStop_append_left (begins : closed = [] ∨ ∀ line ∈ rest.head?, line.starts = true)
    (inClosed : line < closed.length) :
    messageStop (closed ++ rest) line = messageStop closed line := by
  have noMore : (rest.takeWhile fun next => !next.starts) = [] := by
    cases rest with
    | nil => rfl
    | cons first rest =>
        rcases begins with rfl | begins
        · exact absurd inClosed (Nat.not_lt_zero line)
        · rw [List.takeWhile_cons_of_neg]
          simp [begins first rfl]
  rw [messageStop, messageStop, List.drop_append_of_le_length inClosed, List.takeWhile_append,
    noMore, List.append_nil]
  split <;> simp_all

theorem messageStop_le_length {lines : List RawLine} {line : Nat} (inRange : line < lines.length) :
    messageStop lines line ≤ lines.length := by
  have kept := (List.takeWhile_prefix (l := lines.drop (line + 1)) fun next => !next.starts).length_le
  rw [List.length_drop] at kept
  rw [messageStop]
  omega

/-- Lines that begin a message of their own leave the messages in front of them. -/
theorem messageOf_append_left (begins : closed = [] ∨ ∀ line ∈ rest.head?, line.starts = true)
    (inClosed : line < closed.length) :
    messageOf (closed ++ rest) line = messageOf closed line := by
  rw [messageOf, messageOf, messageStop_append_left begins inClosed,
    messageStart_append_left rest inClosed,
    List.take_append_of_le_length (messageStop_le_length inClosed)]

/-- Behind closed lines the messages are those of the rest, moved along. -/
theorem messageStart_append_right (begins : closed = [] ∨ ∀ line ∈ rest.head?, line.starts = true)
    (inRest : line < rest.length) :
    messageStart (closed ++ rest) (closed.length + line) =
      closed.length + messageStart rest line := by
  induction line with
  | zero =>
      cases rest with
      | nil => exact absurd inRest (Nat.not_lt_zero 0)
      | cons first rest =>
          rcases begins with rfl | begins
          · rfl
          · cases counted : closed.length with
            | zero => rfl
            | succ before =>
                have isFirst : (closed ++ first :: rest)[before + 1]? = some first := by
                  rw [← counted, List.getElem?_append_right (Nat.le_refl _), Nat.sub_self]
                  rfl
                simp [messageStart, isFirst, begins first rfl]
  | succ line ih =>
      have isNext : (closed ++ rest)[closed.length + line + 1]? = rest[line + 1]? := by
        rw [Nat.add_assoc, List.getElem?_append_right (Nat.le_add_right ..), Nat.add_sub_cancel_left]
      rw [← Nat.add_assoc, messageStart, messageStart, isNext, ih (by omega)]
      split <;> rfl

theorem messageStop_append_right (closed rest : List RawLine) (line : Nat) :
    messageStop (closed ++ rest) (closed.length + line) = closed.length + messageStop rest line := by
  have beyond : (closed ++ rest).drop (closed.length + line + 1) = rest.drop (line + 1) := by
    rw [Nat.add_assoc, List.drop_length_add_append]
  rw [messageStop, messageStop, beyond]
  omega

/-- Lines that begin a message of their own form the messages that they form alone. -/
theorem messageOf_append_right (begins : closed = [] ∨ ∀ line ∈ rest.head?, line.starts = true)
    (inRest : line < rest.length) :
    messageOf (closed ++ rest) (closed.length + line) = messageOf rest line := by
  rw [messageOf, messageOf, messageStop_append_right, messageStart_append_right begins inRest,
    List.take_length_add_append, List.drop_length_add_append]

end Behind

/-! ### One message -/

/-- Lines that only continue form one message, from the first of them on. -/
theorem messageStart_of_continues {message : List RawLine}
    (continues : ∀ line ∈ message.tail, line.starts = false) (line : Nat) :
    messageStart message line = 0 := by
  induction line with
  | zero => rfl
  | succ line ih =>
      have noStart : (message[line + 1]?).any (·.starts) = false := by
        rw [Option.any_eq_false]
        intro next isNext
        have inTail : next ∈ message.tail := by
          rw [← List.getElem?_tail] at isNext
          exact List.mem_of_getElem? isNext
        simp [continues next inTail]
      rw [messageStart, noStart, if_neg Bool.false_ne_true, ih]

theorem messageStop_of_continues {message : List RawLine}
    (continues : ∀ line ∈ message.tail, line.starts = false) {line : Nat}
    (inMessage : line < message.length) : messageStop message line = message.length := by
  have noStart : ((message.drop (line + 1)).takeWhile fun next => !next.starts) =
      message.drop (line + 1) := by
    apply List.takeWhile_eq_self_iff.2
    intro next inRest
    rw [Nat.add_comm, ← List.drop_drop, List.drop_one] at inRest
    simp [continues next (List.mem_of_mem_drop inRest)]
  rw [messageStop, noStart, List.length_drop]
  omega

/-- Lines of which only the first one may begin a message are one message. -/
theorem messageOf_of_continues {message : List RawLine}
    (continues : ∀ line ∈ message.tail, line.starts = false) {line : Nat}
    (inMessage : line < message.length) : messageOf message line = message := by
  rw [messageOf, messageStop_of_continues continues inMessage, messageStart_of_continues continues,
    List.take_length, List.drop_zero]

/-! ### The last message -/

/-- The number of the line that begins the last message. -/
def lastStart (lines : List RawLine) : Nat := messageStart lines (lines.length - 1)

/-- Lines that begin messages alike begin their last message alike. -/
theorem LastMessage.congr {closed message message' : List RawLine}
    (last : LastMessage closed message)
    (starts : message'.map RawLine.starts = message.map RawLine.starts) :
    LastMessage closed message' where
  begins := by
    refine last.begins.imp_right fun begins line isFirst => ?_
    have heads : message'.head?.map RawLine.starts = message.head?.map RawLine.starts := by
      rw [← List.head?_map, ← List.head?_map, starts]
    rw [Option.mem_def.1 isFirst] at heads
    obtain ⟨first, isOld, same⟩ := Option.map_eq_some_iff.1 heads.symm
    exact same.symm.trans (begins first isOld)
  continues line inTail := by
    have tails : message'.tail.map RawLine.starts = message.tail.map RawLine.starts := by
      rw [List.map_tail, List.map_tail, starts]
    have isStart : line.starts ∈ message'.tail.map RawLine.starts := List.mem_map_of_mem inTail
    rw [tails] at isStart
    obtain ⟨other, isOld, same⟩ := List.mem_map.1 isStart
    exact same.symm.trans (last.continues other isOld)

/-- The last message starts where the lines before it end. -/
theorem LastMessage.lastStart_eq {earlier message : List RawLine}
    (last : LastMessage earlier message) (some : message ≠ []) :
    lastStart (earlier ++ message) = earlier.length := by
  have hasLines := List.length_pos_iff.2 some
  have isLast : (earlier ++ message).length - 1 = earlier.length + (message.length - 1) := by
    rw [List.length_append]
    omega
  rw [lastStart, isLast, messageStart_append_right last.begins (by omega),
    messageStart_of_continues last.continues, Nat.add_zero]

/-- A log that is not empty ends with a message. -/
theorem exists_lastMessage {lines : List RawLine} (some : lines ≠ []) :
    ∃ earlier message, lines = earlier ++ message ∧ message ≠ [] ∧ LastMessage earlier message := by
  induction lines using List.reverseRecOn with
  | nil => exact absurd rfl some
  | append_singleton lines line ih =>
      by_cases alone : lines = [] ∨ line.starts = true
      · exact ⟨lines, [line], rfl, List.cons_ne_nil _ _, LastMessage.single alone⟩
      · rw [not_or, Bool.not_eq_true] at alone
        obtain ⟨earlier, message, rfl, hasLines, last⟩ := ih alone.1
        exact ⟨earlier, message ++ [line], List.append_assoc .., List.concat_ne_nil line message,
          last.snoc hasLines alone.2⟩

/-- The last message begins at its start, and there is none behind it. -/
theorem lastMessage_lastStart (lines : List RawLine) :
    LastMessage (lines.take (lastStart lines)) (lines.drop (lastStart lines)) := by
  by_cases none : lines = []
  · subst none
    exact LastMessage.nil []
  · obtain ⟨earlier, message, rfl, some, last⟩ := exists_lastMessage none
    rw [last.lastStart_eq some, List.take_left, List.drop_left]
    exact last

theorem lastStart_lt {lines : List RawLine} (some : lines ≠ []) : lastStart lines < lines.length := by
  obtain ⟨earlier, message, rfl, hasLines, last⟩ := exists_lastMessage some
  have counted := List.length_pos_iff.2 hasLines
  rw [last.lastStart_eq hasLines, List.length_append]
  omega

theorem lastStart_le (lines : List RawLine) : lastStart lines ≤ lines.length := by
  by_cases none : lines = []
  · subst none
    exact Nat.le_refl _
  · exact Nat.le_of_lt (lastStart_lt none)

/-- Where messages start depends on the start flags alone, not on the text of the lines. -/
theorem messageStart_congr {lines lines' : List RawLine}
    (starts : lines'.map RawLine.starts = lines.map RawLine.starts) (line : Nat) :
    messageStart lines' line = messageStart lines line := by
  induction line with
  | zero => rfl
  | succ line ih =>
      have begins : (lines'[line + 1]?).any (·.starts) = (lines[line + 1]?).any (·.starts) := by
        have same := congrArg (fun flags : List Bool => (flags[line + 1]?).any id) starts
        simpa only [List.getElem?_map, Option.any_map, Function.comp_def, id] using same
      rw [messageStart, messageStart, begins, ih]

/-- Lines that begin messages alike have the same last message. -/
theorem lastStart_congr {lines lines' : List RawLine}
    (starts : lines'.map RawLine.starts = lines.map RawLine.starts) :
    lastStart lines' = lastStart lines := by
  have length : lines'.length = lines.length := by
    rw [← List.length_map RawLine.starts, starts, List.length_map]
  rw [lastStart, lastStart, messageStart_congr starts, length]

/-! ### Decisions -/

@[simp] theorem length_decisions (test : Bytes → Bool) (lines : List RawLine) :
    (decisions test lines).length = lines.length := by
  rw [decisions, List.length_map, List.length_range]

def messages (lines : List RawLine) : List (List RawLine) :=
  (List.range lines.length).map (messageOf lines)

/-- What a test decides on a line it decides on the message. -/
theorem decisions_eq (test : Bytes → Bool) (lines : List RawLine) :
    decisions test lines =
      (messages lines).map fun message => message.any fun line => test line.bytes := by
  rw [messages, List.map_map]
  rfl

@[simp] theorem length_messages (lines : List RawLine) : (messages lines).length = lines.length := by
  rw [messages, List.length_map, List.length_range]

/-- Lines that begin a message of their own share no message with those in front of them. -/
theorem messages_append {closed rest : List RawLine}
    (begins : closed = [] ∨ ∀ line ∈ rest.head?, line.starts = true) :
    messages (closed ++ rest) = messages closed ++ messages rest := by
  rw [messages, List.length_append, List.range_add, List.map_append, List.map_map]
  congr 1
  · apply List.map_congr_left
    intro line inClosed
    exact messageOf_append_left begins (List.mem_range.1 inClosed)
  · apply List.map_congr_left
    intro line inRest
    exact messageOf_append_right begins (List.mem_range.1 inRest)

/-- Where the lines only continue, the message of each line is all of them. -/
theorem messages_of_continues {message : List RawLine}
    (continues : ∀ line ∈ message.tail, line.starts = false) :
    messages message = List.replicate message.length message := by
  rw [List.eq_replicate_iff]
  refine ⟨length_messages message, ?_⟩
  intro other isMessage
  obtain ⟨line, inMessage, rfl⟩ := List.mem_map.1 isMessage
  exact messageOf_of_continues continues (List.mem_range.1 inMessage)

/-- The lines of the last message share one decision, and it does not touch the lines before. -/
theorem decisions_append (test : Bytes → Bool) {closed message : List RawLine}
    (last : LastMessage closed message) :
    decisions test (closed ++ message) = decisions test closed ++
      List.replicate message.length (message.any fun line => test line.bytes) := by
  rw [decisions_eq, decisions_eq, messages_append last.begins,
    messages_of_continues last.continues, List.map_append, List.map_replicate]

/-- On the lines of the last message a test decides by these. -/
theorem decision_of_lastStart_le (test : Bytes → Bool) {lines : List RawLine} {line : Nat}
    (inLast : lastStart lines ≤ line) (inRange : line < lines.length) :
    decision test lines line = (lines.drop (lastStart lines)).any fun member => test member.bytes := by
  have last := lastMessage_lastStart lines
  have length : (lines.take (lastStart lines)).length = lastStart lines := by
    rw [List.length_take]
    omega
  have inMessage : line - lastStart lines < (lines.drop (lastStart lines)).length := by
    rw [List.length_drop]
    omega
  have isLine : line = (lines.take (lastStart lines)).length + (line - lastStart lines) := by omega
  have message : messageOf lines line = lines.drop (lastStart lines) := by
    conv => lhs; rw [← List.take_append_drop (lastStart lines) lines, isLine]
    rw [messageOf_append_right last.begins inMessage, messageOf_of_continues last.continues inMessage]
  rw [decision, message]

/-- On the lines in front of the last message a test decides without it. -/
theorem decision_of_lt_lastStart (test : Bytes → Bool) {lines : List RawLine} {line : Nat}
    (inFront : line < lastStart lines) (inRange : line < lines.length) :
    decision test lines line = decision test (lines.take (lastStart lines)) line := by
  have last := lastMessage_lastStart lines
  have inTaken : line < (lines.take (lastStart lines)).length := by
    rw [List.length_take]
    omega
  conv => lhs; rw [← List.take_append_drop (lastStart lines) lines]
  rw [decision, messageOf_append_left last.begins inTaken, ← decision]

/-- The decision on a line is the mark at its place. -/
theorem getElem?_decisions (test : Bytes → Bool) {lines : List RawLine} {line : Nat}
    (inRange : line < lines.length) :
    (decisions test lines)[line]? = some (decision test lines line) := by
  rw [decisions, List.getElem?_map, List.getElem?_range inRange, Option.map_some]

end LogLens
