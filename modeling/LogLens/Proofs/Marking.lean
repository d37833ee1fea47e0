/-
Module: LogLens.Proofs.Marking
Purpose: Marks as a set of lines.  Whatever is marked and unmarked, the marked lines stand in
  ascending order and every answer is that of the set which the calls describe; how a line is
  looked up does not matter, as long as the search keeps its promise.
Main exports: BookmarkIndex.Call, BookmarkIndex.described, BookmarkIndex.Marks,
  BookmarkIndex.Answers, BookmarkIndex.Searched, BookmarkIndex.run_marks
-/
import Mathlib.Algebra.Ring.Parity
import Mathlib.Data.Finset.Card
import LogLens.Bookmark.Index
import LogLens.Proofs.Steps

namespace LogLens

open LineId

namespace BookmarkIndex

/-- A line is found in the index exactly when the index holds it. -/
theorem contains_iff {α : Type} [DecidableEq α] {index : BookmarkIndex α} {line : α} :
    index.contains line = true ↔ line ∈ index.values := by
  rw [contains, List.any_eq_true]
  constructor
  · rintro ⟨x, member, same⟩
    exact of_decide_eq_true same ▸ member
  · exact fun member => ⟨line, member, decide_eq_true rfl⟩

theorem insertIdx_length {α : Type} (front back : List α) (line : α) :
    (front ++ back).insertIdx front.length line = front ++ line :: back := by
  induction front with
  | nil => rfl
  | cons x rest ih => rw [List.length_cons, List.cons_append, List.insertIdx_succ_cons, ih]; rfl

theorem eraseIdx_length {α : Type} (front back : List α) (line : α) :
    (front ++ line :: back).eraseIdx front.length = front ++ back := by
  rw [List.eraseIdx_append_of_length_le (Nat.le_refl _), Nat.sub_self, List.eraseIdx_cons_zero]

/-! ### Calls and the set they describe -/

section Calls

variable {α : Type}

/-- A call that changes which lines are marked. -/
inductive Call (α : Type) where
  | insert (line : α)
  | remove (line : α)
  | toggle (line : α)
  | clear

def Call.line? : Call α → Option α
  | insert line | remove line | toggle line => some line
  | clear => none

variable [DecidableEq α]

/-- What a call does to a set of lines. -/
def Call.onSet (marks : Finset α) : Call α → Finset α
  | insert line => marks ∪ {line}
  | remove line => marks.erase line
  | toggle line => if line ∈ marks then marks.erase line else marks ∪ {line}
  | clear => ∅

/-- The set of lines that calls describe. -/
def described (calls : List (Call α)) : Finset α := calls.foldl Call.onSet ∅

/-- A call behind the others acts on the set the others describe. -/
theorem described_concat (calls : List (Call α)) (call : Call α) :
    described (calls ++ [call]) = Call.onSet (described calls) call := by
  rw [described, List.foldl_append]
  rfl

theorem described_insert (lines : List α) : described (lines.map .insert) = lines.toFinset := by
  induction lines using List.reverseRecOn with
  | nil => rfl
  | append_singleton lines line ih =>
      rw [List.map_append, List.map_singleton, described_concat, ih, List.toFinset_append]
      rfl

/-- Toggled an odd number of times a line is marked, and else it is not. -/
theorem mem_described_toggle (lines : List α) (line : α) :
    line ∈ described (lines.map .toggle) ↔ Odd (lines.count line) := by
  induction lines using List.reverseRecOn with
  | nil => simp [described]
  | append_singleton lines last ih =>
      rw [List.map_append, List.map_singleton, described_concat, List.count_append, Call.onSet]
      by_cases same : last = line
      · subst same
        rw [List.count_singleton_self, Nat.odd_add_one, ← ih]
        split
        next isMarked => simp [isMarked]
        next notMarked => simp [notMarked]
      · rw [List.count_singleton, beq_eq_false_iff_ne.2 same, if_neg Bool.false_ne_true, Nat.add_zero,
          ← ih]
        split
        · rw [Finset.mem_erase, and_iff_right (Ne.symm same)]
        · rw [Finset.mem_union, Finset.mem_singleton, or_iff_left (Ne.symm same)]

end Calls

variable {α : Type} [LineId α]

/-! ### A line among ascending ones -/

/-- Lines in ascending order, none of them twice. -/
abbrev Ascending (values : List α) : Prop := values.Pairwise fun a b => isBefore a b = true

/-- Lines that come before a given one and lines that come behind it. -/
structure Sides (line : α) (front back : List α) : Prop where
  before : ∀ x ∈ front, isBefore x line = true
  behind : ∀ x ∈ back, isBefore line x = true

/-- Ascending lines have two sides of any line, which may stand between them. -/
theorem exists_sides {values : List α} (ascending : Ascending values) (line : α) :
    ∃ front back, Sides line front back ∧
      (values = front ++ back ∨ values = front ++ line :: back) := by
  induction values with
  | nil => exact ⟨[], [], ⟨List.forall_mem_nil _, List.forall_mem_nil _⟩, Or.inl rfl⟩
  | cons x rest ih =>
      obtain ⟨isFirst, ascendingRest⟩ := List.pairwise_cons.1 ascending
      rcases isBefore_or_eq_or_isBefore x line with before | rfl | behind
      · obtain ⟨front, back, sides, whole⟩ := ih ascendingRest
        refine ⟨x :: front, back, ⟨?_, sides.behind⟩, ?_⟩
        · exact List.forall_mem_cons.2 ⟨before, sides.before⟩
        · exact whole.imp (congrArg (x :: ·)) (congrArg (x :: ·))
      · exact ⟨[], rest, ⟨List.forall_mem_nil _, isFirst⟩, Or.inr rfl⟩
      · refine ⟨[], x :: rest, ⟨List.forall_mem_nil _, ?_⟩, Or.inl rfl⟩
        refine List.forall_mem_cons.2 ⟨behind, ?_⟩
        exact fun y inRest => isBefore_trans behind (isFirst y inRest)

namespace Sides

variable {line : α} {front back : List α}

theorem not_mem (sides : Sides line front back) : line ∉ front ++ back := by
  rw [List.mem_append, not_or]
  exact ⟨fun inFront => ne_of_isBefore (sides.before line inFront) rfl,
    fun inBack => ne_of_isBefore (sides.behind line inBack) rfl⟩

theorem takeWhile_back (sides : Sides line front back) : back.takeWhile (isBefore · line) = [] := by
  cases back with
  | nil => rfl
  | cons x rest =>
      rw [List.takeWhile_cons_of_neg]
      rw [not_isBefore_of_isBefore (sides.behind x (List.mem_cons_self ..))]
      exact Bool.false_ne_true

/-- The line is looked up behind its first side. -/
theorem takeWhile_eq (sides : Sides line front back) {values : List α}
    (whole : values = front ++ back ∨ values = front ++ line :: back) :
    values.takeWhile (isBefore · line) = front := by
  rcases whole with rfl | rfl
  · rw [List.takeWhile_append_of_pos sides.before, sides.takeWhile_back, List.append_nil]
  · rw [List.takeWhile_append_of_pos sides.before, List.takeWhile_cons_of_neg, List.append_nil]
    rw [not_isBefore_self]
    exact Bool.false_ne_true

/-- The lines that come before are those of its first side. -/
theorem filter_isBefore_eq (sides : Sides line front back) {values : List α}
    (whole : values = front ++ back ∨ values = front ++ line :: back) :
    values.filter (isBefore · line) = front := by
  have inFront : front.filter (isBefore · line) = front := List.filter_eq_self.2 sides.before
  have inBack : back.filter (isBefore · line) = [] := by
    rw [List.filter_eq_nil_iff]
    intro x member
    rw [not_isBefore_of_isBefore (sides.behind x member)]
    exact Bool.false_ne_true
  rcases whole with rfl | rfl
  · rw [List.filter_append, inFront, inBack, List.append_nil]
  · rw [List.filter_append, inFront, List.filter_cons_of_neg, inBack, List.append_nil]
    rw [not_isBefore_self]
    exact Bool.false_ne_true

theorem ascending_of {values : List α}
    (whole : values = front ++ back ∨ values = front ++ line :: back)
    (ascending : Ascending values) : Ascending (front ++ back) := by
  rcases whole with rfl | rfl
  · exact ascending
  · exact ascending.sublist ((List.sublist_cons_self line back).append_left front)

/-- Between its sides the line keeps the order. -/
theorem ascending (sides : Sides line front back) (ascending : Ascending (front ++ back)) :
    Ascending (front ++ line :: back) := by
  obtain ⟨ascendingFront, ascendingBack, apart⟩ := List.pairwise_append.1 ascending
  refine List.pairwise_append.2 ⟨ascendingFront, ?_, ?_⟩
  · exact List.pairwise_cons.2 ⟨sides.behind, ascendingBack⟩
  · intro x inFront
    exact List.forall_mem_cons.2 ⟨sides.before x inFront, apart x inFront⟩

variable [DecidableEq α]

/-- The line is put between its sides. -/
theorem insertSorted_eq (sides : Sides line front back) {values : List α}
    (whole : values = front ++ back ∨ values = front ++ line :: back) :
    insertSorted line values = front ++ line :: back := by
  obtain ⟨before, behind⟩ := sides
  induction front generalizing values with
  | nil =>
      rcases whole with rfl | rfl
      · cases values with
        | nil => rfl
        | cons x rest =>
            have isBehind := behind x (List.mem_cons_self ..)
            rw [List.nil_append, insertSorted, not_isBefore_of_isBefore isBehind,
              if_neg Bool.false_ne_true, if_neg (ne_of_isBefore isBehind).symm]
      · rw [List.nil_append, insertSorted, not_isBefore_self, if_neg Bool.false_ne_true, if_pos rfl]
  | cons x rest ih =>
      obtain ⟨isFirst, beforeRest⟩ := List.forall_mem_cons.1 before
      rcases whole with rfl | rfl
      · rw [List.cons_append, insertSorted, if_pos isFirst, ih (Or.inl rfl) beforeRest]
        rfl
      · rw [List.cons_append, insertSorted, if_pos isFirst, ih (Or.inr rfl) beforeRest]

/-- What is left without the line are its sides. -/
theorem filter_ne_eq (sides : Sides line front back) {values : List α}
    (whole : values = front ++ back ∨ values = front ++ line :: back) :
    values.filter (· ≠ line) = front ++ back := by
  have kept : (front ++ back).filter (· ≠ line) = front ++ back := by
    rw [List.filter_eq_self]
    intro x member
    rw [decide_eq_true_iff]
    rintro rfl
    exact sides.not_mem member
  rcases whole with rfl | rfl
  · exact kept
  · rw [List.filter_append, List.filter_cons_of_neg (by simp), ← List.filter_append, kept]

end Sides

/-! ### The place of a line -/

/-- A place parts lines at a given one: those in front of it come before the line, and no other
does. -/
structure PartsAt (values : List α) (line : α) (place : Nat) : Prop where
  inRange : place ≤ values.length
  before : ∀ x ∈ values.take place, isBefore x line = true
  notBefore : ∀ x ∈ values.drop place, isBefore x line = false

/-- There is one place that parts lines at a given one. -/
theorem PartsAt.eq_position {index : BookmarkIndex α} {line : α} {place : Nat}
    (parts : PartsAt index.values line place) :
    place = index.position line := by
  have behind : (index.values.drop place).takeWhile (isBefore · line) = [] := by
    cases rest : index.values.drop place with
    | nil => rfl
    | cons x _ =>
        rw [List.takeWhile_cons_of_neg]
        rw [parts.notBefore x (rest ▸ List.mem_cons_self ..)]
        exact Bool.false_ne_true
  rw [position]
  conv => rhs; rw [← List.take_append_drop place index.values]
  rw [List.takeWhile_append_of_pos parts.before, behind, List.append_nil, List.length_take,
    Nat.min_eq_left parts.inRange]

/-- The position of a line parts the values at that line. -/
theorem partsAt_position {index : BookmarkIndex α} (ascending : Ascending index.values) (line : α) :
    PartsAt index.values line (index.position line) := by
  obtain ⟨front, back, sides, whole⟩ := exists_sides ascending line
  rw [position, sides.takeWhile_eq whole]
  have notBehind : ∀ x ∈ back, isBefore x line = false :=
    fun x inBack => not_isBefore_of_isBefore (sides.behind x inBack)
  rcases whole with whole | whole <;> rw [whole]
  · refine ⟨by rw [List.length_append]; omega, ?_, ?_⟩
    · rw [List.take_left]
      exact sides.before
    · rw [List.drop_left]
      exact notBehind
  · refine ⟨by rw [List.length_append]; omega, ?_, ?_⟩
    · rw [List.take_left]
      exact sides.before
    · rw [List.drop_left]
      exact List.forall_mem_cons.2 ⟨not_isBefore_self line, notBehind⟩

/-! ### An index and the set it holds -/

/-- An index holds a set of lines in ascending order. -/
structure Marks (index : BookmarkIndex α) (marks : Finset α) : Prop where
  ascending : Ascending index.values
  areLines : noLine ∉ index.values
  mem : ∀ line, line ∈ index.values ↔ line ∈ marks

theorem marks_empty : ({} : BookmarkIndex α).Marks ∅ where
  ascending := List.Pairwise.nil
  areLines := List.not_mem_nil
  mem line := by simp

/-- An index is settled by the set that it holds. -/
theorem Marks.eq {index other : BookmarkIndex α} {marks : Finset α} (holds : index.Marks marks)
    (holds' : other.Marks marks) : index = other := by
  have same : index.values.Perm other.values := by
    rw [List.perm_ext_iff_of_nodup (holds.ascending.imp ne_of_isBefore)
      (holds'.ascending.imp ne_of_isBefore)]
    exact fun line => (holds.mem line).trans (holds'.mem line).symm
  have values : index.values = other.values := by
    refine same.eq_of_pairwise ?_ holds.ascending holds'.ascending
    intro a b _ _ before behind
    rw [not_isBefore_of_isBefore before] at behind
    cases behind
  cases index
  cases other
  exact congrArg BookmarkIndex.mk values

variable [DecidableEq α] {index : BookmarkIndex α} {marks : Finset α} {line : α}

theorem ascending_mark (ascending : Ascending index.values) (line : α) :
    Ascending (index.mark line).values := by
  obtain ⟨front, back, sides, whole⟩ := exists_sides ascending line
  rw [mark, sides.insertSorted_eq whole]
  exact sides.ascending (Sides.ascending_of whole ascending)

/-- Marking a line adds that line and drops none. -/
theorem mem_mark (ascending : Ascending index.values) (line x : α) :
    x ∈ (index.mark line).values ↔ x ∈ index.values ∨ x = line := by
  obtain ⟨front, back, sides, whole⟩ := exists_sides ascending line
  rw [mark, sides.insertSorted_eq whole]
  rcases whole with whole | whole <;> rw [whole] <;> simp <;> tauto

/-! ### Making calls -/

/-- Make a call, whatever it answers. -/
def perform (index : BookmarkIndex α) : Call α → Except Fault (BookmarkIndex α)
  | .insert line => (index.insert line).map Prod.snd
  | .remove line => .ok (index.remove line).2
  | .toggle line => (index.toggle line).map Prod.snd
  | .clear => .ok {}

def run (calls : List (Call α)) : Except Fault (BookmarkIndex α) := calls.foldlM perform {}

/-- No call is refused that passes a line. -/
theorem exists_perform (index : BookmarkIndex α) {call : Call α} (isLine : call.line? ≠ some noLine) :
    ∃ after, index.perform call = .ok after := by
  cases call with
  | insert line =>
      have isLine : line ≠ noLine := fun same => isLine (congrArg some same)
      refine ⟨index.mark line, ?_⟩
      rw [perform, insert, LineId.isLine, decide_eq_true isLine]
      rfl
  | toggle line =>
      have isLine : line ≠ noLine := fun same => isLine (congrArg some same)
      rw [perform, toggle, LineId.isLine, decide_eq_true isLine]
      cases index.contains line with
      | true => exact ⟨_, rfl⟩
      | false => exact ⟨_, rfl⟩
  | remove line => exact ⟨_, rfl⟩
  | clear => exact ⟨_, rfl⟩

namespace Marks

theorem contains_eq (holds : index.Marks marks) (line : α) :
    index.contains line = decide (line ∈ marks) := by
  rw [Bool.eq_iff_iff, contains_iff, holds.mem, decide_eq_true_iff]

/-- Marking a line other than the missing one adds it to the set held. -/
theorem mark (holds : index.Marks marks) (isLine : line ≠ noLine) :
    (index.mark line).Marks (marks ∪ {line}) := by
  have members := mem_mark holds.ascending line
  constructor
  case ascending => exact ascending_mark holds.ascending line
  case areLines =>
    rw [members, not_or]
    exact ⟨holds.areLines, isLine.symm⟩
  case mem =>
    intro x
    rw [members, holds.mem, Finset.mem_union, Finset.mem_singleton]

/-- Removing a line takes it from the set held. -/
theorem remove (holds : index.Marks marks) (line : α) :
    (index.remove line).2.Marks (marks.erase line) := by
  have members : ∀ x, x ∈ (index.remove line).2.values ↔ x ∈ index.values ∧ x ≠ line := by
    intro x
    rw [BookmarkIndex.remove, List.mem_filter, decide_eq_true_iff]
  constructor
  case ascending => exact holds.ascending.sublist List.filter_sublist
  case areLines => exact fun member => holds.areLines ((members noLine).1 member).1
  case mem =>
    intro x
    rw [members, holds.mem, Finset.mem_erase, and_comm]

/-- The place of a line is the number of lines of the set that come before it. -/
theorem position_eq (holds : index.Marks marks) (line : α) :
    index.position line = (marks.filter fun x => isBefore x line = true).card := by
  obtain ⟨front, back, sides, whole⟩ := exists_sides holds.ascending line
  have set : marks = index.values.toFinset := by
    ext x
    rw [List.mem_toFinset, holds.mem]
  have distinct : (index.values.filter (isBefore · line)).Nodup :=
    (holds.ascending.imp ne_of_isBefore).sublist List.filter_sublist
  rw [set, ← List.toFinset_filter, List.toFinset_card_of_nodup distinct, position,
    sides.takeWhile_eq whole, sides.filter_isBefore_eq whole]

/-- An insertion answers whether the line is new and how many marks lie before it. -/
theorem insert_eq (holds : index.Marks marks) (isLine : line ≠ noLine) :
    index.insert line =
      .ok (⟨decide (line ∉ marks), (marks.filter fun x => isBefore x line = true).card⟩,
        index.mark line) := by
  rw [insert, LineId.isLine, decide_eq_true isLine, if_pos rfl, holds.position_eq, holds.contains_eq,
    decide_not]

/-- A toggle answers whether the line is marked afterwards. -/
theorem toggle_eq (holds : index.Marks marks) (isLine : line ≠ noLine) :
    index.toggle line = .ok (decide (line ∉ marks),
      if line ∈ marks then (index.remove line).2 else index.mark line) := by
  rw [toggle, LineId.isLine, decide_eq_true isLine, holds.contains_eq]
  by_cases member : line ∈ marks <;> simp [member]

/-- A line that is toggled twice is marked or not as before. -/
theorem toggle_toggle (holds : index.Marks marks) (isLine : line ≠ noLine) :
    ∃ once, index.toggle line = .ok (decide (line ∉ marks), once) ∧
      once.toggle line = .ok (decide (line ∈ marks), index) := by
  by_cases member : line ∈ marks
  · have removed := holds.remove line
    refine ⟨(index.remove line).2, ?_, ?_⟩
    · rw [holds.toggle_eq isLine, if_pos member]
    · have back : ((index.remove line).2.mark line).Marks marks := by
        have marked := removed.mark isLine
        rw [Finset.union_comm, ← Finset.insert_eq, Finset.insert_erase member] at marked
        exact marked
      rw [removed.toggle_eq isLine, if_neg (Finset.notMem_erase line marks), back.eq holds]
      simp [member]
  · have marked := holds.mark isLine
    have isMarked : line ∈ marks ∪ {line} := Finset.mem_union_right _ (Finset.mem_singleton_self line)
    refine ⟨index.mark line, ?_, ?_⟩
    · rw [holds.toggle_eq isLine, if_neg member]
    · have back : ((index.mark line).remove line).2.Marks marks := by
        have removed := marked.remove line
        rw [Finset.union_comm, ← Finset.insert_eq, Finset.erase_insert member] at removed
        exact removed
      rw [marked.toggle_eq isLine, if_pos isMarked, back.eq holds]
      simp [member]

/-- A call that is not refused does to the set what it does to the index. -/
theorem perform (holds : index.Marks marks) {call : Call α} {after : BookmarkIndex α}
    (performs : index.perform call = .ok after) : after.Marks (Call.onSet marks call) := by
  cases call with
  | insert line =>
      obtain ⟨⟨_, marked⟩, inserts, rfl⟩ := ok_of_map performs
      unfold insert at inserts
      split at inserts
      next isLine =>
        cases inserts
        exact holds.mark (of_decide_eq_true isLine)
      next => cases inserts
  | remove line =>
      cases performs
      exact holds.remove line
  | toggle line =>
      by_cases isLine : line = noLine
      · obtain ⟨_, toggles, _⟩ := ok_of_map performs
        rw [toggle, LineId.isLine, isLine, decide_eq_false (not_not_intro rfl)] at toggles
        cases toggles
      · rw [BookmarkIndex.perform, holds.toggle_eq isLine] at performs
        cases performs
        rw [Call.onSet]
        split
        · exact holds.remove line
        · exact holds.mark isLine
  | clear =>
      cases performs
      exact marks_empty

/-- One call is tracked by what it does to the set. -/
theorem step (holds : index.Marks marks) {call : Call α} (isLine : call.line? ≠ some noLine) :
    ∃ next, index.perform call = .ok next ∧ next.Marks (Call.onSet marks call) := by
  obtain ⟨next, performs⟩ := index.exists_perform isLine
  exact ⟨next, performs, holds.perform performs⟩

end Marks

/-! ### Looking lines up -/

/-- A search tells a place at which a line stands, or that there is none. -/
def Finds (values : List α) (line : α) : Option Nat → Prop
  | some place => values[place]? = some line
  | none => line ∉ values

/-- Mark a line at a place that parts the marked lines at it. -/
def insertAt (index : BookmarkIndex α) (line : α) (place : Nat) : Insertion × BookmarkIndex α :=
  if index.values[place]? = some line then (⟨false, place⟩, index)
  else (⟨true, place⟩, ⟨index.values.insertIdx place line⟩)

/-- Unmark the line that was found, if one was. -/
def removeAt (index : BookmarkIndex α) : Option Nat → Bool × BookmarkIndex α
  | some place => (true, ⟨index.values.eraseIdx place⟩)
  | none => (false, index)

/-- Mark a line at a place that parts the marked lines at it; if it is there already, unmark it. -/
def toggleAt (index : BookmarkIndex α) (line : α) (place : Nat) : Bool × BookmarkIndex α :=
  let (insertion, marked) := index.insertAt line place
  if insertion.isNew then (true, marked) else (false, ⟨marked.values.eraseIdx insertion.position⟩)

/-- At the place of its sides a line is put in. -/
theorem insert_eq_insertAt (ascending : Ascending index.values) (isLine : line ≠ noLine) {place : Nat}
    (parts : PartsAt index.values line place) :
    index.insert line = .ok (index.insertAt line place) := by
  obtain ⟨front, back, sides, whole⟩ := exists_sides ascending line
  have position : index.position line = front.length :=
    congrArg List.length (sides.takeWhile_eq whole)
  have marked : index.mark line = ⟨front ++ line :: back⟩ :=
    congrArg BookmarkIndex.mk (sides.insertSorted_eq whole)
  rw [parts.eq_position, insert, LineId.isLine, decide_eq_true isLine, if_pos rfl, insertAt, position,
    marked]
  rcases whole with whole | whole
  · have absent : line ∉ index.values := whole ▸ sides.not_mem
    have notFound : index.contains line = false := by
      rw [Bool.eq_false_iff, Ne, contains_iff]
      exact absent
    rw [if_neg fun isThere => absent (List.mem_of_getElem? isThere), notFound, whole,
      insertIdx_length]
    rfl
  · have isThere : index.values[front.length]? = some line := by
      rw [whole, List.getElem?_append_right (Nat.le_refl _), Nat.sub_self]
      rfl
    have found : index.contains line = true := contains_iff.2 (List.mem_of_getElem? isThere)
    rw [if_pos isThere, found, ← whole]
    rfl

/-- A line that was there already is taken out at the place where it would have been put in. -/
theorem toggle_eq_toggleAt (ascending : Ascending index.values) (isLine : line ≠ noLine) {place : Nat}
    (parts : PartsAt index.values line place) :
    index.toggle line = .ok (index.toggleAt line place) := by
  obtain ⟨front, back, sides, whole⟩ := exists_sides ascending line
  have inserts := insert_eq_insertAt ascending isLine parts
  have erased : (⟨(index.mark line).values.eraseIdx (index.position line)⟩ : BookmarkIndex α) =
      (index.remove line).2 := by
    rw [position, sides.takeWhile_eq whole, mark, sides.insertSorted_eq whole, eraseIdx_length, remove,
      sides.filter_ne_eq whole]
  rw [insert, LineId.isLine, decide_eq_true isLine, if_pos rfl] at inserts
  rw [toggle, LineId.isLine, decide_eq_true isLine, toggleAt, ← Except.ok.inj inserts]
  cases index.contains line with
  | false => rfl
  | true =>
      rw [← erased]
      rfl

/-- The line that was found is taken out. -/
theorem remove_eq_removeAt (ascending : Ascending index.values) {found : Option Nat}
    (finds : Finds index.values line found) :
    index.remove line = index.removeAt found ∧ index.contains line = found.isSome := by
  obtain ⟨front, back, sides, whole⟩ := exists_sides ascending line
  have left : (index.remove line).2 = ⟨front ++ back⟩ :=
    congrArg BookmarkIndex.mk (sides.filter_ne_eq whole)
  have told : (index.remove line).1 = index.contains line := rfl
  cases found with
  | none =>
      have absent : index.values = front ++ back := whole.resolve_right fun present =>
        finds (present ▸ List.mem_append_right front (List.mem_cons_self ..))
      have notFound : index.contains line = false := by
        rw [Bool.eq_false_iff, Ne, contains_iff]
        exact finds
      refine ⟨Prod.ext (told.trans notFound) (left.trans ?_), notFound⟩
      rw [← absent]
      rfl
  | some place =>
      have member : line ∈ index.values := List.mem_of_getElem? finds
      have present : index.values = front ++ line :: back :=
        whole.resolve_left fun absent => sides.not_mem (absent ▸ member)
      have isThere : index.values[front.length]? = some line := by
        rw [present, List.getElem?_append_right (Nat.le_refl _), Nat.sub_self]
        rfl
      -- No line stands twice, so the search can have found no other place.
      have isPlace : place = front.length :=
        (List.getElem?_inj (List.getElem?_eq_some_iff.1 finds).1 (ascending.imp ne_of_isBefore)).1
          (finds.trans isThere.symm)
      have isFound : index.contains line = true := contains_iff.2 member
      refine ⟨Prod.ext (told.trans isFound) (left.trans ?_), isFound⟩
      rw [removeAt, isPlace, present, eraseIdx_length]

/-! ### Runs -/

/-- What an index answers is what the set answers that it holds. -/
structure Answers (index : BookmarkIndex α) (marks : Finset α) : Prop where
  contains : ∀ line, index.contains line = decide (line ∈ marks)
  insert : ∀ line, line ≠ noLine → index.insert line =
    .ok (⟨decide (line ∉ marks), (marks.filter fun x => isBefore x line = true).card⟩,
      index.mark line)
  remove : ∀ line, (index.remove line).1 = decide (line ∈ marks)
  toggle : ∀ line, line ≠ noLine → ∃ once, index.toggle line = .ok (decide (line ∉ marks), once) ∧
    once.toggle line = .ok (decide (line ∈ marks), index)

/-- However a line is looked up among the marked ones, the answers and what is then marked are the
same. -/
structure Searched (index : BookmarkIndex α) : Prop where
  parts_iff : ∀ line place, PartsAt index.values line place ↔ place = index.position line
  insert : ∀ line place, line ≠ noLine → PartsAt index.values line place →
    index.insert line = .ok (index.insertAt line place)
  toggle : ∀ line place, line ≠ noLine → PartsAt index.values line place →
    index.toggle line = .ok (index.toggleAt line place)
  remove : ∀ line found, Finds index.values line found →
    index.remove line = index.removeAt found ∧ index.contains line = found.isSome

/-- After any calls that pass lines only, the marked lines are the set that the calls describe, in
ascending order, and so are all answers. -/
theorem run_marks (calls : List (Call α)) (areLines : ∀ call ∈ calls, call.line? ≠ some noLine) :
    ∃ index, run calls = .ok index ∧ index.Marks (described calls) ∧
      index.Answers (described calls) ∧ index.Searched := by
  have step : ∀ call ∈ calls, ∀ (index : BookmarkIndex α) marks, index.Marks marks →
      ∃ next, index.perform call = .ok next ∧ next.Marks (Call.onSet marks call) :=
    fun call member _ _ holds => holds.step (areLines call member)
  obtain ⟨index, runs, holds⟩ :=
    foldlM_tracks_of_mem (fun marks call => Call.onSet marks call) step ∅ marks_empty
  refine ⟨index, runs, holds, ?_, ?_⟩
  · constructor
    case contains => exact holds.contains_eq
    case insert => exact fun line isLine => holds.insert_eq isLine
    case remove => exact holds.contains_eq
    case toggle => exact fun line isLine => holds.toggle_toggle isLine
  · constructor
    case parts_iff =>
      refine fun line place => ⟨PartsAt.eq_position, ?_⟩
      rintro rfl
      exact partsAt_position holds.ascending line
    case insert => exact fun _ _ isLine parts => insert_eq_insertAt holds.ascending isLine parts
    case toggle => exact fun _ _ isLine parts => toggle_eq_toggleAt holds.ascending isLine parts
    case remove => exact fun _ _ finds => remove_eq_removeAt holds.ascending finds

/-- Negative lines come first, and the least of them is a line; minus one is none. -/
theorem run_marks_negative :
    let calls : List (Call Int32) := [.insert 5, .toggle (-7), .insert 5, .toggle 2, .remove 2,
      .clear, .insert 3, .toggle (-2147483648), .insert (-7), .toggle 3, .insert 0]
    (∀ call ∈ calls, call.line? ≠ some noLine) ∧
      ∃ index, run calls = .ok index ∧ index.Marks (described calls) ∧
        index.values = [-2147483648, -7, 0] := by
  intro calls
  have areLines : ∀ call ∈ calls, call.line? ≠ some noLine := by decide
  obtain ⟨index, runs, holds, _⟩ := run_marks calls areLines
  refine ⟨areLines, index, runs, holds, ?_⟩
  have values : (run calls).toOption.map BookmarkIndex.values = some [-2147483648, -7, 0] := by
    decide
  rw [runs] at values
  exact Option.some.inj values

end BookmarkIndex

end LogLens
