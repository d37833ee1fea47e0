/-
Module: LogLens.Proofs.Rereading
Purpose: A filter takes its last decision back, reads the lines of that message anew and decides
  again.  In whatever state it was, this succeeds and changes no other column; and the filter then
  stands as if its last message had always read as it reads now.
Main exports: reread, Filter.reopen_takes, Filter.revise_leads
-/
import LogLens.Proofs.Reading

namespace LogLens

open FilterState (Alters)

/-- Lines, the last message of which is read anew in a log. -/
def reread (heard log : List RawLine) : List RawLine :=
  heard.take (lastStart heard) ++ (log.take heard.length).drop (lastStart heard)

namespace Filter

/-- Further lines are noted of the open message, and nothing else changes. -/
theorem foldl_addLine {filter : Installed} {opened : List RawLine}
    (pending : filter.pending = Message.of filter.isMatch opened) (lines : List RawLine) :
    let read := lines.foldl (fun filter line => filter.addLine line.bytes) filter
    filter.Alike read ∧ read.pending = Message.of filter.isMatch (opened ++ lines) := by
  induction lines generalizing filter opened with
  | nil =>
      rw [List.append_nil]
      exact ⟨Alike.refl filter, pending⟩
  | cons line rest ih =>
      obtain ⟨alike, pendingRest⟩ := ih (pending_addLine pending line)
      rw [List.append_assoc, List.singleton_append] at pendingRest
      exact ⟨(alike_addLine filter line.bytes).trans alike, pendingRest⟩

/-- Once its message has ended, a filter has stamped all that it had read. -/
theorem count_of_settle {filter filter' : Installed} {before after : FilterState}
    (bounded : before.Bounded) (settles : filter.settle before = .ok (filter', after)) :
    after.count filter.index = filter.position before := by
  unfold settle at settles
  by_cases hasOpen : filter.pending.lines > 0
  · obtain ⟨ended, ends, alters⟩ := filter.endMessage_alters bounded
    rw [if_pos hasOpen, ends] at settles
    cases settles
    rw [← FilterState.count_column, alters.own, Column.count_stamp, FilterState.count_column]
    rfl
  · rw [if_neg hasOpen] at settles
    cases settles
    rw [position]
    omega

/-- Reopening takes lines from the own column only.  What a filter has decided on the last message
is taken back as a whole. -/
theorem reopen_takes (filter : Installed) {before : FilterState} (bounded : before.Bounded) :
    ∃ taken pending column next,
      filter.reopen before = .ok (taken, { filter with pending, last := none }, next) ∧
      Alters filter.index column before.length before next ∧
      column.count + taken = before.count filter.index ∧
      ∀ heard, filter.Reads {} (before.column filter.index) heard → filter.pending.lines = 0 →
        column = ({} : Column).extend filter.isMatch (heard.take (lastStart heard)) ∧
          taken = heard.length - lastStart heard := by
  cases isLast : filter.last with
  | none =>
      have same : { filter with pending := filter.pending, last := none } = filter := by
        rw [← isLast]
      refine ⟨0, filter.pending, _, before, ?_, bounded.alters_refl filter.index, ?_, ?_⟩
      · rw [same, reopen_none isLast]
      · rw [FilterState.count_column, Nat.add_zero]
      · intro heard reads closed
        have stands := reads.stands_closed closed
        rcases stands.reopens rfl with ⟨rfl, _⟩ | ⟨_, _, _, _, _, some⟩
        · exact ⟨stands.column_eq, rfl⟩
        · rw [isLast] at some
          cases some
  | some message =>
      obtain ⟨next, reopens, alters⟩ := reopen_alters isLast bounded
      refine ⟨_, _, _, next, reopens, alters, ?_, ?_⟩
      · rw [Column.count_unstamp, FilterState.count_column]
        omega
      · intro heard reads closed
        have stands := reads.stands_closed closed
        have counted := FilterState.count_column before filter.index
        rw [stands.column_eq] at counted ⊢
        rw [Column.count_extend, Column.count_empty, Nat.zero_add] at counted
        rcases stands.reopens rfl with ⟨rfl, _⟩ | ⟨earlier, last, rfl, some, behind, isMessage⟩
        · -- An old decision was left behind, but its column is empty.
          rw [← counted, List.length_nil, Nat.min_zero]
          exact ⟨Column.unstamp_of_count_eq_zero rfl _ _, rfl⟩
        · rw [isLast] at isMessage
          cases isMessage
          rw [behind.lastStart_eq some, List.take_left, ← counted, List.length_append,
            Nat.add_sub_cancel_left, Message.lines_of]
          refine ⟨?_, Nat.min_eq_left (Nat.le_add_left _ _)⟩
          rw [Column.extend_append _ _ behind]
          exact Column.unstamp_stamp _ _ _

/-- A filter that revises its last message closes all messages.  If no line begins a message now that
did not, or the other way round, then it has read this message as it reads now. -/
theorem revise_leads (filter : Installed) {before : FilterState} (bounded : before.Bounded)
    (source : Source) :
    filter.Leads before (filter.position before) (filter.revise source before)
      fun filter' column => filter'.pending.lines = 0 ∧
        ∀ heard, filter.Reads {} (before.column filter.index) heard →
          (source.lines.take heard.length).map RawLine.starts = heard.map RawLine.starts →
          filter'.Reads {} column (reread heard source.lines) := by
  obtain ⟨settled, column, length, middle, settles, alike, alters, grows, fits, closed, readsOn⟩ :=
    filter.settle_leads bounded (Nat.le_refl _)
  have counted := count_of_settle bounded settles
  obtain ⟨taken, pending, columnTaken, next, reopens, altersTaken, countedTaken, takes⟩ :=
    settled.reopen_takes alters.bounded
  rw [alike.index] at altersTaken countedTaken takes
  have countNext : next.count filter.index = columnTaken.count := by
    rw [← FilterState.count_column, altersTaken.own]
  let message := (source.lines.drop columnTaken.count).take taken
  let opened : Installed := { settled with pending := {}, last := none }
  let read := message.foldl (fun filter line => filter.addLine line.bytes) opened
  have nothing : opened.pending = Message.of opened.isMatch [] := rfl
  obtain ⟨alikeRead, pendingRead⟩ := foldl_addLine nothing message
  have alikeOpened : filter.Alike opened := alike.trans ⟨rfl, rfl, rfl, rfl⟩
  have alikeAll : filter.Alike read := alikeOpened.trans alikeRead
  have revises : filter.revise source before = read.settle next := by
    have countOwn : next.count settled.index = columnTaken.count := by rw [alike.index, countNext]
    simp only [revise, settles, reopens, bind, Except.bind, countOwn]
    rfl
  have fitsRead : read.position next ≤ filter.position before := by
    have lines : read.pending.lines = message.length := congrArg Message.lines pendingRead
    rw [position, alikeAll.index, countNext, lines, List.length_take]
    omega
  obtain ⟨filter', columnAfter, lengthAfter, after, settlesRead, alikeAfter, altersAfter, growsAfter,
    fitsAfter, closedAfter, readsOnAfter⟩ := read.settle_leads altersTaken.bounded fitsRead
  rw [alikeAll.index] at altersAfter
  rw [altersTaken.length_eq, alters.length_eq] at growsAfter fitsAfter
  refine ⟨filter', columnAfter, lengthAfter, after, revises.trans settlesRead,
    alikeAll.trans alikeAfter, (alters.trans altersTaken).trans altersAfter, by omega, by omega,
    closedAfter, ?_⟩
  intro heard reads starts
  have readsSettled := readsOn {} heard reads
  rw [List.append_nil, ← alters.own] at readsSettled
  obtain ⟨columnEq, takenEq⟩ := takes heard readsSettled closed
  have inHeard : lastStart heard ≤ heard.length := lastStart_le heard
  have isStart : columnTaken.count = lastStart heard := by
    rw [columnEq, Column.count_extend, Column.count_empty, Nat.zero_add, List.length_take]
    omega
  have isMessage : message = (source.lines.take heard.length).drop (lastStart heard) := by
    rw [List.drop_take, ← takenEq, ← isStart]
  have sameStarts : message.map RawLine.starts = (heard.drop (lastStart heard)).map RawLine.starts := by
    rw [isMessage, List.map_drop, starts, List.map_drop]
  have readsRead : read.Reads {} (next.column read.index) (reread heard source.lines) := by
    refine ⟨heard.take (lastStart heard), message, ?_, ?_, ?_,
      (lastMessage_lastStart heard).congr sameStarts, ?_⟩
    · rw [isMessage]
      rfl
    · rw [alikeAll.index, altersTaken.own, columnEq, alikeAll.isMatch_eq, alike.isMatch_eq]
    · rw [pendingRead, alikeRead.isMatch_eq]
      rfl
    · intro noLines
      rw [noLines, List.map_nil, eq_comm, List.map_eq_nil_iff, List.drop_eq_nil_iff] at sameStarts
      have none : heard = [] := by
        by_contra some
        exact absurd (lastStart_lt some) (Nat.not_lt.2 sameStarts)
      rw [none, List.take_nil]
      exact Or.inl ⟨rfl, Or.inr rfl⟩
  have readsAfter := readsOnAfter {} _ readsRead
  rw [List.append_nil] at readsAfter
  exact readsAfter

end Filter

end LogLens
