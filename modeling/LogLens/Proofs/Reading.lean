/-
Module: LogLens.Proofs.Reading
Purpose: What a filter stands for after it has read some lines: all but the last message are decided
  in its column, and the last one is open or can be opened again.  One line more, or the end of the
  open message, keeps this relation whatever came before.
Main exports: Column.extend, Filter.Stands, Filter.Reads, Filter.ReadsOn, Filter.settle_leads,
  Filter.observe_leads, FilterState.Decides
-/
import LogLens.Proofs.Messages
import LogLens.Proofs.OwnPlace

namespace LogLens

/-! ### Columns of decisions -/

namespace Column

/-- The column with the decisions on further lines. -/
def extend (column : Column) (test : Bytes → Bool) (lines : List RawLine) : Column :=
  ⟨column.marks ++ decisions test lines, column.hits + (decisions test lines).count true⟩

@[simp] theorem extend_nil (column : Column) (test : Bytes → Bool) : column.extend test [] = column := by
  simp [extend, decisions]

/-- Every line read adds one to the count, whether it matches or not. -/
@[simp] theorem count_extend (column : Column) (test : Bytes → Bool) (lines : List RawLine) :
    (column.extend test lines).count = column.count + lines.length := by
  rw [count, extend, List.length_append, length_decisions, count]

/-- The last message is stamped as a whole. -/
theorem extend_append (column : Column) (test : Bytes → Bool) {closed message : List RawLine}
    (last : LastMessage closed message) :
    column.extend test (closed ++ message) =
      (column.extend test closed).stamp message.length (Message.of test message).matched := by
  rw [extend, decisions_append test last, stamp, extend, List.count_append, List.append_assoc,
    Nat.add_assoc]
  congr 2
  cases matched : (Message.of test message).matched <;>
    simp_all [Message.of, List.count_replicate]

/-- What was stamped last can be taken back. -/
theorem unstamp_stamp (column : Column) (lines : Nat) (matched : Bool) :
    (column.stamp lines matched).unstamp lines matched = column := by
  have taken : min lines (column.stamp lines matched).count = lines := by
    rw [count_stamp]
    omega
  rw [unstamp, taken, count_stamp, Nat.add_sub_cancel]
  cases matched <;> simp [stamp, count]

/-- A line is marked by the decision on it. -/
theorem marked_extend (test : Bytes → Bool) {lines : List RawLine} {line : Nat}
    (inRange : line < lines.length) :
    (({} : Column).extend test lines).marked line = decision test lines line := by
  rw [marked, extend, List.nil_append, getElem?_decisions test inRange, Option.getD_some]

/-- Reading lines keeps the hits equal to the number of marked lines. -/
theorem Exact.extend {column : Column} (exact : column.Exact) (test : Bytes → Bool)
    (lines : List RawLine) : (column.extend test lines).Exact := by
  unfold Exact Column.extend at *
  rw [List.count_append, exact]

end Column

namespace Filter

/-- What a filter without an open message keeps of the lines it has read: it can open their last
message again, if there are lines.  If there are none, nothing can be taken from the column. -/
def Reopens (filter : Installed) (base : Column) (closed : List RawLine) : Prop :=
  (closed = [] ∧ (filter.last = none ∨ base.count = 0)) ∨
    ∃ earlier message, closed = earlier ++ message ∧ message ≠ [] ∧
      LastMessage earlier message ∧ filter.last = some (Message.of filter.isMatch message)

/-- A filter has decided on some lines behind a given column and has one message open. -/
structure Stands (filter : Installed) (base column : Column) (closed opened : List RawLine) :
    Prop where
  column_eq : column = base.extend filter.isMatch closed
  pending : filter.pending = Message.of filter.isMatch opened
  last : LastMessage closed opened
  reopens : opened = [] → filter.Reopens base closed

/-- A filter has read some lines, and no others, behind a given column. -/
def Reads (filter : Installed) (base column : Column) (lines : List RawLine) : Prop :=
  ∃ closed opened, closed ++ opened = lines ∧ filter.Stands base column closed opened

section Reads

variable {filter : Installed} {base column : Column} {lines : List RawLine}

theorem reads_of_fresh (fresh : filter.Fresh) (column : Column) :
    filter.Reads column column [] := by
  refine ⟨[], [], rfl, (Column.extend_nil column _).symm, fresh.pending, LastMessage.nil [], ?_⟩
  exact fun _ => Or.inl ⟨rfl, Or.inl fresh.last⟩

/-- Kind and state of a filter do not matter for what it reads. -/
theorem Reads.congr {other : Installed} (reads : filter.Reads base column lines)
    (pattern : other.pattern = filter.pattern) (pending : other.pending = filter.pending)
    (last : other.last = filter.last) : other.Reads base column lines := by
  have test : other.isMatch = filter.isMatch := by
    funext line
    rw [isMatch, isMatch, pattern]
  obtain ⟨closed, opened, whole, stands⟩ := reads
  refine ⟨closed, opened, whole, ?_, ?_, stands.last, ?_⟩
  · rw [test]
    exact stands.column_eq
  · rw [test, pending]
    exact stands.pending
  · intro none
    unfold Reopens
    rw [test, last]
    exact stands.reopens none

/-- The lines behind the column are those that are read. -/
theorem Reads.position_eq (reads : filter.Reads base column lines) :
    column.count + filter.pending.lines = base.count + lines.length := by
  obtain ⟨closed, opened, rfl, stands⟩ := reads
  rw [stands.column_eq, stands.pending, Column.count_extend, Message.lines_of, List.length_append]
  omega

/-- The position of a filter tells how much it has read. -/
theorem Reads.position_of {state : FilterState}
    (reads : filter.Reads base (state.column filter.index) lines) :
    filter.position state = base.count + lines.length := by
  rw [position_eq_count, reads.position_eq]

theorem Reads.count_le (reads : filter.Reads base column lines) : base.count ≤ column.count := by
  obtain ⟨closed, opened, rfl, stands⟩ := reads
  rw [stands.column_eq, Column.count_extend]
  omega

/-- Without an open message all lines are decided. -/
theorem Reads.stands_closed (reads : filter.Reads base column lines)
    (nothingOpen : filter.pending.lines = 0) : filter.Stands base column lines [] := by
  obtain ⟨closed, opened, rfl, stands⟩ := reads
  rw [stands.pending, Message.of, List.length_eq_zero_iff] at nothingOpen
  subst nothingOpen
  rw [List.append_nil]
  exact stands

/-- In front of the last message a filter has decided without it, whether or not it is open. -/
theorem Reads.marked_eq (reads : filter.Reads {} column lines) {line : Nat}
    (inFront : line < lastStart lines) :
    column.marked line = decision filter.isMatch (lines.take (lastStart lines)) line := by
  obtain ⟨closed, opened, rfl, stands⟩ := reads
  rw [stands.column_eq]
  by_cases none : opened = []
  · rw [none, List.append_nil] at inFront ⊢
    have inRange : line < closed.length := inFront.trans_le (lastStart_le closed)
    rw [Column.marked_extend filter.isMatch inRange,
      decision_of_lt_lastStart filter.isMatch inFront inRange]
  · rw [stands.last.lastStart_eq none] at inFront ⊢
    rw [Column.marked_extend filter.isMatch inFront, List.take_left]

/-- If its column is emptied, a filter has read the lines of its open message only. -/
theorem Reads.opened (reads : filter.Reads base column lines) :
    filter.Reads {} {} (lines.drop (lines.length - filter.pending.lines)) := by
  obtain ⟨closed, opened, rfl, stands⟩ := reads
  have isOpened : (closed ++ opened).drop ((closed ++ opened).length - filter.pending.lines) =
      opened := by
    rw [stands.pending, Message.of, List.length_append, Nat.add_sub_cancel, List.drop_left]
  rw [isOpened]
  refine ⟨[], opened, rfl, (Column.extend_nil {} _).symm, stands.pending,
    ⟨Or.inl rfl, stands.last.continues⟩, fun _ => ?_⟩
  exact Or.inl ⟨rfl, Or.inr Column.count_empty⟩

end Reads

/-- Whatever a filter had read, it has then read on with the lines that are further for its
position. -/
def ReadsOn (filter : Installed) (column : Column) (further : Nat → List RawLine)
    (filter' : Installed) (column' : Column) : Prop :=
  ∀ base lines, filter.Reads base column lines →
    filter'.Reads base column' (lines ++ further (base.count + lines.length))

theorem readsOn_refl (filter : Installed) (column : Column) :
    filter.ReadsOn column (fun _ => []) filter column := by
  intro base lines reads
  rw [List.append_nil]
  exact reads

/-- Reading on twice is reading on once over both pieces. -/
theorem ReadsOn.trans {first middle last : Installed} {firstColumn middleColumn lastColumn : Column}
    {one two both : Nat → List RawLine}
    (readsOne : first.ReadsOn firstColumn one middle middleColumn)
    (readsTwo : middle.ReadsOn middleColumn two last lastColumn)
    (split : ∀ position, both position = one position ++ two (position + (one position).length)) :
    first.ReadsOn firstColumn both last lastColumn := by
  intro base lines reads
  have readsAll := readsTwo base _ (readsOne base lines reads)
  rw [List.length_append, ← Nat.add_assoc, List.append_assoc, ← split] at readsAll
  exact readsAll

/-- A filter moves by the lines it reads further. -/
theorem ReadsOn.position_eq {filter filter' : Installed} {before after : FilterState}
    {base : Column} {lines : List RawLine} {further : Nat → List RawLine}
    (alike : filter.Alike filter')
    (readsOn : filter.ReadsOn (before.column filter.index) further filter'
      (after.column filter.index))
    (reads : filter.Reads base (before.column filter.index) lines) :
    filter'.position after =
      filter.position before + (further (filter.position before)).length := by
  have readsNext := readsOn base lines reads
  rw [← alike.index] at readsNext
  rw [readsNext.position_of, reads.position_of, List.length_append, Nat.add_assoc]

/-! ### The end of a message -/

/-- Ending the open message leaves what was read. -/
theorem settle_leads (filter : Installed) {before : FilterState} (bounded : before.Bounded)
    {room : Nat} (fits : filter.position before ≤ room) :
    filter.Leads before room (filter.settle before) fun filter' column =>
      filter'.pending.lines = 0 ∧
        filter.ReadsOn (before.column filter.index) (fun _ => []) filter' column := by
  unfold settle
  by_cases hasOpen : filter.pending.lines > 0
  · rw [if_pos hasOpen]
    obtain ⟨after, ends, alters⟩ := filter.endMessage_alters bounded
    refine ⟨_, _, _, after, ends, ⟨rfl, rfl, rfl, rfl⟩, alters, Nat.le_max_left _ _, by omega, rfl,
      ?_⟩
    rintro base lines ⟨closed, opened, rfl, stands⟩
    have opens : opened ≠ [] := by
      rintro rfl
      rw [stands.pending] at hasOpen
      exact absurd hasOpen (Nat.lt_irrefl 0)
    refine ⟨closed ++ opened, [], rfl, ?_, rfl, LastMessage.nil _, ?_⟩
    · rw [stands.column_eq, stands.pending]
      exact (Column.extend_append base filter.isMatch stands.last).symm
    · intro _
      exact Or.inr ⟨closed, opened, rfl, opens, stands.last, congrArg some stands.pending⟩
  · rw [if_neg hasOpen]
    exact Leads.refl bounded ⟨by omega, readsOn_refl filter _⟩

/-! ### One line more -/

/-- A filter has read some lines and its open message is the one that a further line belongs to. -/
def Ready (filter : Installed) (line : RawLine) (base column : Column) (lines : List RawLine) :
    Prop :=
  ∃ closed opened, closed ++ opened = lines ∧ column = base.extend filter.isMatch closed ∧
    filter.pending = Message.of filter.isMatch opened ∧ LastMessage closed (opened ++ [line])

/-- A further line is noted of the open message. -/
theorem pending_addLine {filter : Installed} {opened : List RawLine}
    (pending : filter.pending = Message.of filter.isMatch opened) (line : RawLine) :
    (filter.addLine line.bytes).pending =
      Message.of (filter.addLine line.bytes).isMatch (opened ++ [line]) := by
  have test : (filter.addLine line.bytes).isMatch = filter.isMatch := rfl
  rw [test, addLine, pending]
  simp [Message.of]

/-- A filter that is ready for a line has read it once the line is noted. -/
theorem Ready.reads_addLine {filter : Installed} {line : RawLine} {base column : Column}
    {lines : List RawLine} (ready : filter.Ready line base column lines) :
    (filter.addLine line.bytes).Reads base column (lines ++ [line]) := by
  obtain ⟨closed, opened, rfl, column_eq, pending, last⟩ := ready
  refine ⟨closed, opened ++ [line], (List.append_assoc ..).symm, column_eq,
    pending_addLine pending line, last, fun none => ?_⟩
  exact absurd none (List.concat_ne_nil line opened)

/-- The last message can be opened again for a line that continues it. -/
theorem reopen_ready {filter : Installed} {before : FilterState} (bounded : before.Bounded)
    (room : Nat) {line : RawLine} (continues : line.starts = false)
    (nothingOpen : filter.pending.lines = 0) :
    filter.Leads before room ((filter.reopen before).map Prod.snd) fun filter' column =>
      ∀ base lines, filter.Reads base (before.column filter.index) lines →
        filter'.Ready line base column lines := by
  cases isLast : filter.last with
  | none =>
      rw [reopen_none isLast]
      apply Leads.refl bounded
      intro base lines reads
      have stands := reads.stands_closed nothingOpen
      rcases stands.reopens rfl with ⟨rfl, _⟩ | ⟨_, _, _, _, _, some⟩
      · exact ⟨[], [], rfl, stands.column_eq, stands.pending, LastMessage.single (Or.inl rfl)⟩
      · rw [isLast] at some
        cases some
  | some message =>
      obtain ⟨after, reopens, alters⟩ := reopen_alters isLast bounded
      rw [reopens]
      refine ⟨_, _, _, after, rfl, ⟨rfl, rfl, rfl, rfl⟩, alters, Nat.le_refl _, Nat.le_max_left _ _,
        fun base lines reads => ?_⟩
      have stands := reads.stands_closed nothingOpen
      have counted := FilterState.count_column before filter.index
      rw [stands.column_eq] at counted ⊢
      rw [Column.count_extend] at counted
      rcases stands.reopens rfl with ⟨rfl, none | empty⟩ | ⟨earlier, last, rfl, some, behind, isMessage⟩
      · rw [isLast] at none
        cases none
      · -- The column was emptied under an old decision: none of its lines comes back.
        have noLines : before.count filter.index = 0 := by
          rw [← counted, empty]
          rfl
        refine ⟨[], [], rfl, ?_, ?_, LastMessage.single (Or.inl rfl)⟩
        · rw [Column.unstamp_of_count_eq_zero]
          · rfl
          · rw [Column.extend_nil, empty]
        · rw [noLines, Nat.min_zero]
          simp [Message.of]
      · -- The last message is stamped as a whole, so all of its lines come back.
        rw [isLast] at isMessage
        cases isMessage
        have whole : min last.length (before.count filter.index) = last.length := by
          rw [List.length_append] at counted
          omega
        refine ⟨earlier, last, rfl, ?_, ?_, behind.snoc some continues⟩
        · rw [Column.extend_append base _ behind]
          exact Column.unstamp_stamp _ _ _
        · have hasLines : last.length > 0 := List.length_pos_of_ne_nil some
          rw [Message.lines_of, whole]
          have pending : Message.mk ((Message.of filter.isMatch last).matched &&
              last.length > 0) last.length = Message.of filter.isMatch last := by
            simp [Message.of, hasLines]
          exact pending

/-- A filter makes ready for any line. -/
theorem prepare_ready (filter : Installed) {before : FilterState} (bounded : before.Bounded)
    {room : Nat} (fits : filter.position before ≤ room) (line : RawLine) :
    filter.Leads before room (filter.prepare line.starts before) fun filter' column =>
      ∀ base lines, filter.Reads base (before.column filter.index) lines →
        filter'.Ready line base column lines := by
  unfold prepare
  cases starts : line.starts with
  | true =>
      apply (filter.settle_leads bounded fits).mono
      intro filter' column _ settled base lines reads
      have stands := (settled.2 base lines reads).stands_closed settled.1
      rw [List.append_nil] at stands
      exact ⟨lines, [], List.append_nil lines, stands.column_eq, stands.pending,
        LastMessage.single (Or.inr starts)⟩
  | false =>
      rw [if_neg Bool.false_ne_true]
      by_cases nothingOpen : filter.pending.lines = 0
      · rw [if_pos nothingOpen]
        exact reopen_ready bounded room starts nothingOpen
      · rw [if_neg nothingOpen]
        refine Leads.refl bounded ?_
        rintro base lines ⟨closed, opened, rfl, stands⟩
        have opens : opened ≠ [] := by
          rintro rfl
          exact nothingOpen (congrArg Message.lines stands.pending)
        exact ⟨closed, opened, rfl, stands.column_eq, stands.pending, stands.last.snoc opens starts⟩

/-- A filter reads the line that is next for it and leaves all others. -/
theorem observe_leads (filter : Installed) {before : FilterState} (bounded : before.Bounded)
    (room : Nat) {number : Nat} (line : RawLine) (inRange : number ≤ before.length) :
    filter.Leads before room (filter.observe number line before) fun filter' column =>
      filter.ReadsOn (before.column filter.index)
        (fun position => if number = position then [line] else []) filter' column := by
  unfold observe
  by_cases isNext : number = filter.position before
  · rw [if_neg (not_not_intro isNext)]
    have hasRoom : filter.position before ≤ before.length := isNext ▸ inRange
    obtain ⟨filter', column, length, after, prepares, alike, alters, grows, fits, ready⟩ :=
      filter.prepare_ready bounded hasRoom line
    rw [prepares]
    refine ⟨filter'.addLine line.bytes, column, length, after, rfl,
      alike.trans (alike_addLine filter' line.bytes), alters, grows, by omega, ?_⟩
    intro base lines reads
    dsimp only
    rw [if_pos (isNext.trans reads.position_of)]
    exact (ready base lines reads).reads_addLine
  · rw [if_pos isNext]
    apply Leads.refl bounded
    intro base lines reads
    dsimp only
    rw [if_neg (reads.position_of ▸ isNext), List.append_nil]
    exact reads

end Filter

/-! ### What a place shows when all is read -/

/-- The place of a filter holds its decisions on the given lines and nothing else. -/
structure FilterState.Decides (state : FilterState) (filter : Installed) (lines : List RawLine) :
    Prop where
  count_eq : state.count filter.index = lines.length
  decided : ∀ line, line < lines.length →
    (state.mask line).has filter.index = decision filter.isMatch lines line
  blank : ∀ line, lines.length ≤ line → (state.mask line).has filter.index = false
  hits_eq : state.hits filter.index = state.masks.countP (·.has filter.index)

/-- The hits of decisions are the lines on which their place is marked. -/
theorem FilterState.Bounded.hits_extend {state : FilterState} (bounded : state.Bounded) {slot : Slot}
    {test : Bytes → Bool} {lines : List RawLine}
    (column : state.column slot = ({} : Column).extend test lines) :
    state.hits slot = state.masks.countP (·.has slot) := by
  have exact := Column.exact_empty.extend test lines
  rw [← column] at exact
  rw [← hits_column, exact, bounded.count_marks]

/-- A column read from the first line on decides each line as its message says. -/
theorem FilterState.Bounded.decides {state : FilterState} (bounded : state.Bounded)
    {filter : Installed} {lines : List RawLine}
    (column : state.column filter.index = ({} : Column).extend filter.isMatch lines) :
    state.Decides filter lines where
  count_eq := by
    rw [← count_column, column, Column.count_extend, Column.count_empty, Nat.zero_add]
  decided line inRange := by
    rw [bounded.has_mask, column, Column.marked_extend filter.isMatch inRange]
  blank line behind := by
    rw [bounded.has_mask, column, Column.marked_of_count_le]
    rw [Column.count_extend, Column.count_empty, Nat.zero_add]
    exact behind
  hits_eq := bounded.hits_extend column

end LogLens
