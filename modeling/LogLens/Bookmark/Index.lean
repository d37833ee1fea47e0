/-
Module: LogLens.Bookmark.Index
Purpose: Sets of marked lines, kept in order, with a way from each line to the next and the
  previous marked one, and from mark to mark to one that is wanted.
Main exports: BookmarkIndex, Insertion, BookmarkIndex.insert, BookmarkIndex.toggle,
  BookmarkIndex.next, BookmarkIndex.prev, Way, Way.step, Way.seek
-/
import LogLens.Bookmark.LineId
import LogLens.Filter.Error

namespace LogLens

open LineId

/-- The marked lines in ascending order. -/
structure BookmarkIndex (α : Type) where
  values : List α := []
deriving Repr, Inhabited

/-- What became of a request to insert a line. -/
structure Insertion where
  /-- Whether the line was not marked before. -/
  isNew : Bool
  /-- The number of marked lines before it. -/
  position : Nat
deriving Repr, DecidableEq

namespace BookmarkIndex

variable {α : Type} [LineId α] [DecidableEq α]

/-- Put a line among ascending ones, unless it is there. -/
def insertSorted (line : α) : List α → List α
  | [] => [line]
  | x :: xs =>
    if isBefore x line then x :: insertSorted line xs
    else if x = line then x :: xs
    else line :: x :: xs

def contains (index : BookmarkIndex α) (line : α) : Bool := index.values.any (· = line)

/-- The number of marked lines before a line. -/
def position (index : BookmarkIndex α) (line : α) : Nat :=
  (index.values.takeWhile (isBefore · line)).length

def mark (index : BookmarkIndex α) (line : α) : BookmarkIndex α :=
  ⟨insertSorted line index.values⟩

/-- Mark a line, which must be one, and tell whether and where it was put. -/
def insert (index : BookmarkIndex α) (line : α) : Except Fault (Insertion × BookmarkIndex α) :=
  if isLine line then .ok (⟨!index.contains line, index.position line⟩, index.mark line)
  else .error .noLine

/-- Unmark a line; tells whether it was marked. -/
def remove (index : BookmarkIndex α) (line : α) : Bool × BookmarkIndex α :=
  (index.contains line, ⟨index.values.filter (· ≠ line)⟩)

/-- Mark a line if it is not marked and unmark it otherwise.  Tells whether it is marked now. -/
def toggle (index : BookmarkIndex α) (line : α) : Except Fault (Bool × BookmarkIndex α) :=
  if !isLine line then .error .noLine
  else if index.contains line then .ok (false, (index.remove line).2)
  else .ok (true, index.mark line)

/-- The first marked line behind a line. -/
def next? (index : BookmarkIndex α) (line : α) : Option α := index.values.find? (isBefore line ·)

/-- The last marked line before a line. -/
def prev? (index : BookmarkIndex α) (line : α) : Option α :=
  (index.values.takeWhile (isBefore · line)).getLast?

/-- The first marked line behind a line, or the value that names no line. -/
def next (index : BookmarkIndex α) (line : α) : α := (index.next? line).getD noLine

/-- The last marked line before a line, or the value that names no line. -/
def prev (index : BookmarkIndex α) (line : α) : α := (index.prev? line).getD noLine

def size (index : BookmarkIndex α) : Nat := index.values.length

def isEmpty (index : BookmarkIndex α) : Bool := index.values.isEmpty

end BookmarkIndex

/-! ### Ways -/

/-- The two ways through the marked lines. -/
inductive Way where
  | forward
  | back
deriving Repr, DecidableEq

namespace Way

variable {α : Type} [LineId α]

/-- Whether a line lies ahead of another one on a way. -/
def leads : Way → α → α → Bool
  | forward, start, line => isBefore start line
  | back, start, line => isBefore line start

/-- The line that an index tells as the next one on a way, or the value that names no line. -/
def step (way : Way) (index : BookmarkIndex α) (start : α) : α :=
  match way with
  | forward => index.next start
  | back => index.prev start

/-- Of two lines the one that is come to first on a way. -/
def first (way : Way) (a b : α) : α := if way.leads b a then b else a

/-- Leading one way is transitive. -/
theorem leads_trans {way : Way} {a b c : α} (first : way.leads a b = true)
    (second : way.leads b c = true) : way.leads a c = true := by
  cases way with
  | forward => exact isBefore_trans first second
  | back => exact isBefore_trans second first

theorem not_leads_self (way : Way) (a : α) : way.leads a a = false := by
  cases way <;> exact not_isBefore_self a

/-- Fewer marked lines lie ahead of a line that lies ahead. -/
theorem fewer_ahead {way : Way} {values : List α} {start line : α} (marked : line ∈ values)
    (ahead : way.leads start line = true) :
    (values.filter (way.leads line)).length < (values.filter (way.leads start)).length := by
  have farther : (values.filter (way.leads line)) =
      (values.filter (way.leads start)).filter (way.leads line) := by
    rw [List.filter_filter]
    apply List.filter_congr
    intro other _
    cases leads : way.leads line other with
    | false => rfl
    | true => rw [leads_trans ahead leads]; rfl
  rw [farther, List.length_filter_lt_length_iff_exists]
  refine ⟨line, List.mem_filter.2 ⟨marked, ahead⟩, ?_⟩
  rw [not_leads_self]
  exact Bool.false_ne_true

variable [DecidableEq α]

/-- A line that is told is a marked one that lies ahead. -/
theorem step_ahead {way : Way} {index : BookmarkIndex α} {start : α}
    (told : isLine (way.step index start) = true) :
    way.step index start ∈ index.values ∧ way.leads start (way.step index start) = true := by
  have isLine : ¬way.step index start = noLine := of_decide_eq_true told
  cases way with
  | forward =>
      cases found : index.next? start with
      | none => exact absurd (congrArg (·.getD noLine) found) isLine
      | some line =>
          have next : step .forward index start = line := congrArg (·.getD noLine) found
          rw [next]
          exact ⟨List.mem_of_find?_eq_some found, List.find?_some (p := (isBefore start ·)) found⟩
  | back =>
      cases found : index.prev? start with
      | none => exact absurd (congrArg (·.getD noLine) found) isLine
      | some line =>
          have prev : step .back index start = line := congrArg (·.getD noLine) found
          have member : line ∈ index.values.takeWhile (isBefore · start) :=
            List.mem_of_getLast? found
          rw [prev]
          exact ⟨(List.takeWhile_sublist _).subset member,
            List.all_eq_true.1 List.all_takeWhile line member⟩

/-- Go from one marked line to the next on a way, up to one that is wanted; the way may end before
that. -/
def seek (way : Way) (index : BookmarkIndex α) (wanted : α → Bool) (start : α) : Option α :=
  let line := way.step index start
  if _ : isLine line then
    if wanted line then some line else way.seek index wanted line
  else none
termination_by (index.values.filter (way.leads start)).length
decreasing_by
  obtain ⟨marked, ahead⟩ := step_ahead ‹isLine (way.step index start) = true›
  exact fewer_ahead marked ahead

end Way

end LogLens
