/-
Module: LogLens.Proofs.Column
Purpose: The results of one place as a column, the list of its decisions.  Stamping and taking back,
  which work on the masks line by line and may run out of lines, are total equations on columns.
Main exports: Column, FilterState.column, FilterState.Bounded, FilterState.Alters,
  FilterState.toList_masks, FilterState.ext_columns
-/
import LogLens.Filter.State

namespace LogLens

/-- What one place has found: its decision on each stamped line, from the first line on, and the
number of lines that it counts as matching. -/
structure Column where
  marks : List Bool := []
  hits : Nat := 0
deriving Repr, DecidableEq

namespace Column

def count (column : Column) : Nat := column.marks.length

/-- Whether a line is marked as matching; lines behind the stamped ones are not. -/
def marked (column : Column) (line : Nat) : Bool := column.marks[line]?.getD false

/-- One decision more, on a number of lines. -/
def stamp (column : Column) (lines : Nat) (matched : Bool) : Column :=
  ⟨column.marks ++ List.replicate lines matched, column.hits + if matched then lines else 0⟩

/-- The last decisions taken back, as many as there are up to the given number. -/
def unstamp (column : Column) (lines : Nat) (matched : Bool) : Column :=
  let taken := min lines column.count
  ⟨column.marks.take (column.count - taken), column.hits - if matched then taken else 0⟩

/-- The hits are those that the marks show. -/
def Exact (column : Column) : Prop := column.hits = column.marks.count true

@[simp] theorem count_empty : ({} : Column).count = 0 := rfl

@[simp] theorem count_stamp (column : Column) (lines : Nat) (matched : Bool) :
    (column.stamp lines matched).count = column.count + lines := by
  simp [count, stamp]

@[simp] theorem count_unstamp (column : Column) (lines : Nat) (matched : Bool) :
    (column.unstamp lines matched).count = column.count - lines := by
  simp only [count, unstamp, List.length_take]
  omega

/-- Beyond the lines a filter has stamped, no line is marked. -/
theorem marked_of_count_le {column : Column} {line : Nat} (behind : column.count ≤ line) :
    column.marked line = false := by
  rw [marked, List.getElem?_eq_none behind, Option.getD_none]

/-- Stamping marks the next lines alike and leaves the earlier ones as they were. -/
theorem marked_stamp (column : Column) (lines : Nat) (matched : Bool) (line : Nat) :
    (column.stamp lines matched).marked line =
      if line < column.count then column.marked line
      else decide (line < column.count + lines) && matched := by
  have counted : column.marks.length = column.count := rfl
  simp only [marked, stamp, List.getElem?_append, List.getElem?_replicate, counted]
  by_cases stamped : line < column.count
  · rw [if_pos stamped, if_pos stamped]
  · rw [if_neg stamped, if_neg stamped]
    by_cases added : line < column.count + lines
    · rw [if_pos (by omega)]
      simp [added]
    · rw [if_neg (by omega)]
      simp [added]

theorem marked_unstamp (column : Column) (lines : Nat) (matched : Bool) (line : Nat) :
    (column.unstamp lines matched).marked line =
      (decide (line < column.count - lines) && column.marked line) := by
  simp only [marked, unstamp, List.getElem?_take]
  by_cases kept : line < column.count - lines
  · rw [if_pos (by omega)]
    simp [kept]
  · rw [if_neg (by omega)]
    simp [kept]

@[simp] theorem stamp_zero (column : Column) (matched : Bool) : column.stamp 0 matched = column := by
  simp [stamp]

@[simp] theorem unstamp_zero (column : Column) (matched : Bool) :
    column.unstamp 0 matched = column := by
  simp [unstamp, count]

theorem unstamp_of_count_eq_zero {column : Column} (empty : column.count = 0) (lines : Nat)
    (matched : Bool) : column.unstamp lines matched = column := by
  simp only [unstamp, empty, Nat.min_zero, Nat.sub_zero, ite_self]
  rw [← empty, count, List.take_length]

/-- Two stamps of one verdict are one stamp over both pieces. -/
theorem stamp_stamp (column : Column) (first second : Nat) (matched : Bool) :
    (column.stamp first matched).stamp second matched = column.stamp (first + second) matched := by
  cases matched <;> simp [stamp, List.replicate_append_replicate, Nat.add_assoc]

theorem unstamp_unstamp (column : Column) (first second : Nat) (matched : Bool) :
    (column.unstamp first matched).unstamp second matched =
      column.unstamp (first + second) matched := by
  have counted := column.count_unstamp first matched
  cases matched <;>
    simp only [unstamp, count, Bool.false_eq_true, if_false, if_true, List.length_take,
      List.take_take, Column.mk.injEq] at counted ⊢ <;>
    constructor <;> first | (congr 1; omega) | omega

theorem exact_empty : ({} : Column).Exact := rfl

/-- Stamping keeps the hits equal to the number of marked lines. -/
theorem Exact.stamp {column : Column} (exact : column.Exact) (lines : Nat) (matched : Bool) :
    (column.stamp lines matched).Exact := by
  unfold Exact at exact ⊢
  cases matched <;> simp [Column.stamp, List.count_append, List.count_replicate, exact]

end Column

namespace FilterState

/-- The column of a place, as the masks and the counters hold it. -/
def column (state : FilterState) (slot : Slot) : Column :=
  ⟨(List.range (state.count slot)).map fun line => (state.mask line).has slot, state.hits slot⟩

/-- No place has stamped more lines than have a mask, and none is set behind the lines that its
filter has stamped. -/
structure Bounded (state : FilterState) : Prop where
  count_le : ∀ slot, state.count slot ≤ state.length
  blank : ∀ slot line, state.count slot ≤ line → (state.mask line).has slot = false

/-- The one state becomes the other by a change of one column and of the room for lines. -/
structure Alters (slot : Slot) (column : Column) (length : Nat) (before after : FilterState) :
    Prop where
  bounded : after.Bounded
  logfile : after.logfile = before.logfile
  length_eq : after.length = length
  own : after.column slot = column
  other : ∀ other, other ≠ slot → after.column other = before.column other

@[simp] theorem count_column (state : FilterState) (slot : Slot) :
    (state.column slot).count = state.count slot := by
  simp [column, Column.count]

@[simp] theorem hits_column (state : FilterState) (slot : Slot) :
    (state.column slot).hits = state.hits slot := rfl

/-- A bit of a mask is the mark of its column; behind the stamped lines it is not set. -/
theorem Bounded.has_mask {state : FilterState} (bounded : state.Bounded) (slot : Slot)
    (line : Nat) : (state.mask line).has slot = (state.column slot).marked line := by
  by_cases stamped : line < state.count slot
  · simp [column, Column.marked, stamped]
  · rw [bounded.blank slot line (by omega), Column.marked_of_count_le]
    rw [count_column]
    omega

/-- Two states agree on a column when they agree on its count, its hits and the bits below the
count. -/
theorem column_congr {first second : FilterState} {slot : Slot}
    (count : first.count slot = second.count slot) (hits : first.hits slot = second.hits slot)
    (bits : ∀ line, line < second.count slot →
      (first.mask line).has slot = (second.mask line).has slot) :
    first.column slot = second.column slot := by
  unfold column
  rw [count, hits]
  congr 1
  apply List.map_congr_left
  intro line inRange
  exact bits line (List.mem_range.1 inRange)

theorem toList_masks (state : FilterState) :
    state.masks.toList = (List.range state.length).map state.mask := by
  apply List.ext_getElem (by simp [length])
  intro line inMasks _
  have inRange : line < state.masks.size := inMasks
  simp [mask, inRange]

/-- The marks of a column are the set bits. -/
theorem Bounded.count_marks {state : FilterState} (bounded : state.Bounded) (slot : Slot) :
    (state.column slot).marks.count true = state.masks.countP (·.has slot) := by
  have behind : (List.range (state.length - state.count slot)).countP
      ((fun line => (state.mask line).has slot) ∘ (state.count slot + ·)) = 0 := by
    rw [List.countP_eq_zero]
    intro line _
    simp [bounded.blank slot (state.count slot + line) (by omega)]
  have split : state.length = state.count slot + (state.length - state.count slot) := by
    have counted := bounded.count_le slot
    omega
  rw [← Array.countP_toList, toList_masks, List.countP_map, split, List.range_add, List.countP_append,
    List.countP_map]
  have kept : (column state slot).marks.count true =
      (List.range (state.count slot)).countP ((·.has slot) ∘ state.mask) := by
    simp only [column, List.count_eq_countP, List.countP_map]
    congr 1
    funext line
    simp
  rw [kept]
  exact (Nat.add_eq_left.2 behind).symm

/-- A state is what its log, its room and its columns are. -/
theorem ext_columns {first second : FilterState} (boundedFirst : first.Bounded)
    (boundedSecond : second.Bounded) (logfile : first.logfile = second.logfile)
    (length : first.length = second.length)
    (columns : ∀ slot, first.column slot = second.column slot) : first = second := by
  have counts : first.counts = second.counts := by
    apply Vector.ext
    intro i inRange
    have same := congrArg Column.count (columns ⟨i, inRange⟩)
    rw [count_column, count_column] at same
    exact same
  have hitCounts : first.hitCounts = second.hitCounts := by
    apply Vector.ext
    intro i inRange
    exact congrArg Column.hits (columns ⟨i, inRange⟩)
  have masks : first.masks = second.masks := by
    apply Array.ext length
    intro line inFirst inSecond
    apply Mask.ext_has
    intro slot
    have bitFirst := boundedFirst.has_mask slot line
    have bitSecond := boundedSecond.has_mask slot line
    rw [columns slot, ← bitSecond] at bitFirst
    simpa [mask, inFirst, inSecond] using bitFirst
  cases first
  cases second
  simp_all

end FilterState

end LogLens
